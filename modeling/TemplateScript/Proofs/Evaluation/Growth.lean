import Mathlib.Order.Nat
import TemplateScript.Evaluation.Evaluate
import TemplateScript.Proofs.Document.Rendering

/-!
A running program only adds to its store: frames, sinks and identities that exist stay where they are, and
no frame changes but the innermost one of the scope in which a statement is executed.
-/

namespace TemplateScript

section Preserves

variable {ε σ α β : Type} {R : σ → σ → Prop}

lemma run_bind_eq_ok {m : EStateM ε σ α} {f : α → EStateM ε σ β} {s u : σ} {b : β} :
    (m >>= f) s = .ok b u ↔ ∃ a t, m s = .ok a t ∧ f a t = .ok b u := by
  simp only [Bind.bind, EStateM.bind]
  cases m s <;> simp

lemma ofExcept_eq_ok {x : Except Fault α} {a : α} {s t : Store} :
    Eval.ofExcept x s = .ok a t ↔ x = .ok a ∧ s = t := by
  cases x with
  | ok b => exact (EStateM.Result.ok.injEq ..).to_iff.trans (and_congr_left' (Except.ok.injEq ..).to_iff.symm)
  | error fault => exact iff_of_false nofun fun h => nomatch h.1

def finalState : EStateM.Result ε σ α → σ
  | .ok _ s => s
  | .error _ s => s

def Preserves (R : σ → σ → Prop) (m : EStateM ε σ α) : Prop := ∀ s, R s (finalState (m s))

namespace Preserves

lemma pure (hr : ∀ s, R s s) (a : α) : Preserves R (Pure.pure a : EStateM ε σ α) := fun s => hr s

lemma throw (hr : ∀ s, R s s) (e : ε) : Preserves R (MonadExcept.throw e : EStateM ε σ α) := fun s => hr s

lemma bind (ht : ∀ s t u, R s t → R t u → R s u) {m : EStateM ε σ α} {f : α → EStateM ε σ β}
    (hm : Preserves R m) (hf : ∀ a, Preserves R (f a)) : Preserves R (m >>= f) := by
  intro s
  have h := hm s
  simp only [Bind.bind, EStateM.bind]
  cases he : m s with
  | ok a t =>
    rw [he] at h
    exact ht _ _ _ h (hf a t)
  | error e t =>
    rw [he] at h
    exact h

lemma of_ok {m : EStateM ε σ α} (h : Preserves R m) {s t : σ} {a : α} (he : m s = .ok a t) : R s t := by
  have hs := h s
  rwa [he] at hs

lemma render {γ : Type} {sink : Sink γ ε σ} (hr : ∀ s, R s s) (ht : ∀ s t u, R s t → R t u → R s u)
    (hput : ∀ chunk, Preserves R (sink.put chunk)) (hrun : ∀ code e, Preserves R (sink.run code e))
    (node : StreamNode γ) : Preserves R (node.render sink) := by
  have h : Sink.Related Eq (fun m _ => Preserves R m) sink sink :=
    { done := Preserves.pure hr ()
      seq := fun hm hk => Preserves.bind ht hm fun _ => hk
      put := hput
      stop := fun _ => Preserves.throw hr _
      run := fun _ _ => hrun _ _ }
  exact StreamNode.render_related h (StreamNode.Rel.refl (fun _ => rfl) node)

end Preserves

end Preserves

/-- The store `t` keeps what `s` has; only the frame `changed` may have other bindings. -/
structure Store.Grows (changed : Option Nat) (s t : Store) : Prop where
  frames (i : Nat) : i < s.frames.size → changed ≠ some i → t.frames[i]? = s.frames[i]?
  size : s.frames.size ≤ t.frames.size
  identities : s.identities ≤ t.identities
  sinks : s.sinks.size ≤ t.sinks.size

namespace Store.Grows

variable {c : Option Nat} {s t u : Store}

lemma refl (c : Option Nat) (s : Store) : Grows c s s := ⟨fun _ _ _ => rfl, le_rfl, le_rfl, le_rfl⟩

lemma trans (h : Grows c s t) (h' : Grows c t u) : Grows c s u where
  frames i hi hc := (h'.frames i (hi.trans_le h.size) hc).trans (h.frames i hi hc)
  size := h.size.trans h'.size
  identities := h.identities.trans h'.identities
  sinks := h.sinks.trans h'.sinks

lemma weaken (h : Grows none s t) : Grows c s t where
  frames i hi _ := h.frames i hi (by simp)
  size := h.size
  identities := h.identities
  sinks := h.sinks

end Store.Grows

def Store.enter (s : Store) (bindings : List (String × Value)) : Store :=
  { s with frames := s.frames.push bindings }

lemma Store.enter_grows (s : Store) (bindings : List (String × Value)) : Store.Grows none s (s.enter bindings) where
  frames i hi _ := by simp [enter, Array.getElem?_push, hi.ne]
  size := by simp [enter]
  identities := le_rfl
  sinks := le_rfl

lemma Store.size_enter (s : Store) (bindings : List (String × Value)) :
    (s.enter bindings).frames.size = s.frames.size + 1 := by
  simp [enter]

lemma Store.frames_enter (s : Store) (bindings : List (String × Value)) :
    (s.enter bindings).frames[s.frames.size]? = some bindings := by
  simp [enter]

def Store.bind (s : Store) (frame : Nat) (name : String) (value : Value) : Store :=
  { s with frames := s.frames.modify frame (Entries.set name value) }

lemma Store.frames_bind_other (s : Store) {frame i : Nat} (h : frame ≠ i) (name : String) (value : Value) :
    (s.bind frame name value).frames[i]? = s.frames[i]? := by
  simp [bind, Array.getElem?_modify, h]

lemma Store.size_bind (s : Store) (frame : Nat) (name : String) (value : Value) :
    (s.bind frame name value).frames.size = s.frames.size := by
  simp [bind]

namespace Eval

lemma define_run (frame : Nat) (outer : Scope) (name : String) (value : Value) (s : Store) :
    Eval.define (frame :: outer) name value s = .ok () (s.bind frame name value) := rfl

lemma newSink_run (contents : String) (s : Store) :
    Eval.newSink contents s = .ok s.sinks.size { s with sinks := s.sinks.push contents } := rfl

lemma writeSink_run (place : Nat) (text : String) (s : Store) :
    Eval.writeSink place text s = .ok () { s with sinks := s.sinks.modify place (· ++ text) } := rfl

lemma sinkContents_run (place : Nat) (s : Store) : Eval.sinkContents place s = .ok (s.sinks[place]?.getD "") s := rfl

lemma lookup_run (scope : Scope) (name : String) (s : Store) : Eval.lookup scope name s =
    (s.get? name scope).elim (.error (.fault (.unbound name)) s) fun value => .ok value s := by
  have hget : (get : Eval Store) s = .ok s s := rfl
  simp only [Eval.lookup, Bind.bind, EStateM.bind, hget]
  cases s.get? name scope <;> rfl

lemma define_enter (s : Store) (outer : Scope) (bindings : List (String × Value)) (name : String) (value : Value) :
    Eval.define (s.frames.size :: outer) name value (s.enter bindings) =
      .ok () (s.enter (Entries.set name value bindings)) := by
  have hm : (s.frames.push bindings).modify s.frames.size (Entries.set name value) =
      s.frames.push (Entries.set name value bindings) := by
    apply Array.ext_getElem?
    intro i
    simp only [Array.getElem?_modify, Array.getElem?_push]
    grind
  simp only [define_run, Store.bind, Store.enter, hm]

abbrev Grows {α : Type} (c : Option Nat) (m : Eval α) : Prop := Preserves (Store.Grows c) m

namespace Grows

variable {α β : Type} {c : Option Nat}

lemma pure (a : α) : Grows c (Pure.pure a) := Preserves.pure (Store.Grows.refl c) a

lemma throw (e : Halt) : Grows c (MonadExcept.throw e : Eval α) := Preserves.throw (Store.Grows.refl c) e

lemma fail (f : Fault) : Grows c (Eval.fail f : Eval α) := throw _

lemma failType (f : TypeFault) : Grows c (Eval.failType f : Eval α) := throw _

lemma bind {m : Eval α} {f : α → Eval β} (hm : Grows c m) (hf : ∀ a, Grows c (f a)) : Grows c (m >>= f) :=
  Preserves.bind (fun _ _ _ h h' => h.trans h') hm hf

lemma ofExcept (x : Except Fault α) : Grows c (Eval.ofExcept x) := by
  cases x with
  | ok a => exact pure a
  | error f => exact fail f

lemma newIdentity : Grows c Eval.newIdentity := fun _ => ⟨fun _ _ _ => rfl, le_rfl, Nat.le_succ _, le_rfl⟩

lemma newArray (items : List Value) : Grows c (Eval.newArray items) := newIdentity.bind fun _ => pure _

lemma newObject (fields : List (String × Value)) : Grows c (Eval.newObject fields) :=
  newIdentity.bind fun _ => pure _

lemma newSink (contents : String) : Grows c (Eval.newSink contents) := fun _ =>
  ⟨fun _ _ _ => rfl, le_rfl, le_rfl, by simp [newSink_run, finalState]⟩

lemma writeSink (place : Nat) (text : String) : Grows c (Eval.writeSink place text) := fun _ =>
  ⟨fun _ _ _ => rfl, le_rfl, le_rfl, by simp [writeSink_run, finalState]⟩

lemma lookup (scope : Scope) (name : String) : Grows c (Eval.lookup scope name) := by
  refine bind (fun s => Store.Grows.refl c s) fun s => ?_
  cases s.get? name scope with
  | none => exact fail _
  | some value => exact pure value

lemma define (scope : Scope) (name : String) (value : Value) :
    Grows scope.head? (Eval.define scope name value) := by
  cases scope with
  | nil => exact pure ()
  | cons frame outer =>
    refine fun s => ⟨fun i _ hi => ?_, ?_, le_rfl, le_rfl⟩
    · exact s.frames_bind_other (by simpa using hi) name value
    · exact (s.size_bind frame name value).ge

lemma enter {outer : Scope} {m : Scope → Eval α} (h : ∀ f, Grows (some f) (m (f :: outer))) :
    Grows c (Eval.newScope outer >>= m) := by
  intro s
  let s' : Store := { s with frames := s.frames.push [] }
  have hs : (Eval.newScope outer >>= m) s = m (s.frames.size :: outer) s' := rfl
  have hg : Store.Grows (some s.frames.size) s' (finalState (m (s.frames.size :: outer) s')) :=
    h s.frames.size s'
  rw [hs]
  refine ⟨fun i hi _ => ?_, ?_, hg.identities, hg.sinks⟩
  · have hf := hg.frames i (by simp [s']; omega) (by simp; omega)
    rw [hf]
    simp [s', Array.getElem?_push, hi.ne]
  · exact le_trans (by simp [s']) hg.size

end Grows

def within {α : Type} (bindings : List (String × Value)) (outer : Scope) (m : Scope → Eval α) : Eval α :=
  fun s => m (s.frames.size :: outer) (s.enter bindings)

lemma newScope_bind {α : Type} (outer : Scope) (m : Scope → Eval α) : Eval.newScope outer >>= m = within [] outer m :=
  rfl

lemma newScope_define {α : Type} (outer : Scope) (name : String) (value : Value) (m : Scope → Eval α) :
    (do
      let inner ← Eval.newScope outer
      Eval.define inner name value
      m inner) = within [(name, value)] outer m := by
  funext s
  have hd := define_enter s outer [] name value
  have hs : Eval.newScope outer s = .ok (s.frames.size :: outer) (s.enter []) := rfl
  simp only [Bind.bind, EStateM.bind, hs, hd]
  rfl

end Eval

open Eval

section Conversion

variable {c : Option Nat}

lemma Attributes.toValue_grows (attributes : Attributes) : Grows c attributes.toValue := Grows.newObject _

lemma AttributeValues.toValue_grows (values : AttributeValues) : Grows c values.toValue :=
  Grows.newObject _

mutual

lemma Node.toValue_grows : (node : Node) → Grows c node.toValue
  | .text _ => by simpa only [Node.toValue] using Grows.newObject _
  | .prerendered _ => by simpa only [Node.toValue] using Grows.newObject _
  | .element tag attributes children => by
    simp only [Node.toValue]
    refine (Attributes.toValue_grows attributes).bind fun _ => (Node.toValues_grows children).bind fun _ => ?_
    exact (Grows.newArray _).bind fun _ => Grows.newObject _

lemma Node.toValues_grows : (nodes : List Node) → Grows c (Node.toValues nodes)
  | [] => by simpa only [Node.toValues] using Grows.pure _
  | node :: nodes => by
    simp only [Node.toValues]
    exact (Node.toValue_grows node).bind fun _ => (Node.toValues_grows nodes).bind fun _ => Grows.pure _

end

lemma AnyNode.toValue_grows (node : AnyNode Value) : Grows c node.toValue := by
  cases node with
  | structured node => exact node.toValue_grows
  | stream node => exact Grows.pure _
  | raw node => exact Grows.newObject _

lemma AnyNode.toValues_grows (nodes : List (AnyNode Value)) : Grows c (AnyNode.toValues nodes) := by
  induction nodes with
  | nil => exact Grows.pure _
  | cons node nodes ih => exact node.toValue_grows.bind fun _ => ih.bind fun _ => Grows.pure _

def Extension.attributesValue : Option AttributeValues → Eval Value
  | some values => values.toValue
  | none => Pure.pure .undefined

def Extension.childrenValue : Option (List (StreamNode Value)) → Eval Value
  | some nodes => Eval.newArray (nodes.map .stream)
  | none => Pure.pure .undefined

lemma Extension.toValue_eq (e : Extension (StreamNode Value)) : e.toValue = (do
    let attributes ← attributesValue e.attributes
    let children ← childrenValue e.children
    Eval.newObject [("attributes", attributes), ("children", children)]) := by
  rcases e with ⟨_ | _, _ | _⟩ <;> rfl

lemma Extension.toValue_grows (e : Extension (StreamNode Value)) : Grows c e.toValue := by
  obtain ⟨attributes, children⟩ := e
  rw [Extension.toValue_eq]
  refine Grows.bind ?_ fun _ => Grows.bind ?_ fun _ => Grows.newObject _
  · cases attributes with
    | none => exact Grows.pure _
    | some values => exact values.toValue_grows
  · cases children with
    | none => exact Grows.pure _
    | some nodes => exact Grows.newArray _

end Conversion

section Support

variable {c : Option Nat}

lemma Support.normalizeChildren_grows (arguments : List Value) :
    Grows c (Support.normalizeChildren arguments) := by
  cases arguments with
  | nil => exact Grows.failType _
  | cons first children =>
    cases first with
    | builder r =>
      exact (Grows.ofExcept _).bind fun _ => (AnyNode.toValues_grows _).bind fun _ => Grows.newArray _
    | _ => exact Grows.failType _

lemma Support.flattenCompact_grows (children : List Value) : Grows c (Support.flattenCompact children) :=
  (Grows.ofExcept _).bind fun _ => (Grows.ofExcept _).bind fun _ =>
    (Node.toValues_grows _).bind fun _ => Grows.newArray _

lemma Support.addItems_grows (arguments : List Value) : Grows c (Support.addItems arguments) := by
  simp only [Support.addItems]
  split
  · exact Grows.failType _
  · exact (Grows.ofExcept _).bind fun _ => (Grows.ofExcept _).bind fun _ => AnyNode.toValue_grows _

lemma Support.checkVoid_grows (arguments : List Value) : Grows c (Support.checkVoid arguments) :=
  (Grows.ofExcept _).bind fun _ => Grows.pure _

lemma Native.run_grows (function : Native) (arguments : List Value) : Grows c (function.run arguments) := by
  cases function with
  | normalizeChildren => exact Support.normalizeChildren_grows arguments
  | flattenCompact => exact Support.flattenCompact_grows arguments
  | normalizeAttributes => exact (Grows.ofExcept _).bind fun _ => AttributeValues.normalize _ |>.toValue_grows
  | renderAttributes => exact (Grows.ofExcept _).bind fun _ => Grows.pure _
  | addItems => exact Support.addItems_grows arguments
  | fragment => exact Grows.newArray _
  | checkVoid => exact Support.checkVoid_grows arguments
  | _ => exact Grows.pure _

lemma Representation.build_grows (r : Representation) (make : {N : Type} → Builder N → N) :
    Grows c (r.build make) :=
  (Grows.ofExcept _).bind fun node => node.toValue_grows

lemma Representation.method_grows (r : Representation) (name : String) (arguments : List Value) :
    Grows c (r.method name arguments) := by
  simp only [Representation.method]
  split
  · exact r.build_grows _
  · split
    · exact r.build_grows _
    · split
      · split
        · exact (Grows.ofExcept _).bind fun _ => (Grows.ofExcept _).bind fun node => node.toValue_grows
        · exact Grows.failType _
        · exact Grows.failType _
      · split
        · exact Grows.pure _
        · exact Grows.failType _

end Support

def Call.Grows (call : Call) : Prop := ∀ (c : Option Nat) (f : Value) (arguments : List Value),
  Eval.Grows c (call f arguments)

section Rendering

variable {c : Option Nat} {call : Call}

lemma StreamNode.renderShared_grows (h : call.Grows) (place : Nat) (node : StreamNode Value) :
    Grows c (node.renderShared call place) := by
  refine Preserves.render (Store.Grows.refl c) (fun _ _ _ => Store.Grows.trans) (Grows.writeSink place) ?_ node
  exact fun _ e => e.toValue_grows.bind fun _ => (h c _ _).bind fun _ => Grows.pure ()

lemma Value.callMethod_grows (h : call.Grows) (receiver : Value) (name : String) (arguments : List Value) :
    Grows c (receiver.callMethod call name arguments) := by
  cases receiver with
  | builder r => exact r.method_grows name arguments
  | stream node =>
    simp only [Value.callMethod]
    split
    · split
      · exact (StreamNode.renderShared_grows h _ _).bind fun _ => Grows.pure _
      · exact Grows.failType _
    · exact Grows.failType _
  | sink place =>
    simp only [Value.callMethod]
    split
    · exact (Grows.writeSink _ _).bind fun _ => Grows.pure _
    · exact Grows.failType _
  | _ => exact Grows.failType _

end Rendering

namespace Evaluation

variable {c : Option Nat} {call : Call}

lemma property_grows (receiver : Value) (name : String) : Grows c (property receiver name) := by
  cases receiver with
  | undefined => exact Grows.failType _
  | null => exact Grows.failType _
  | _ => exact Grows.pure _

lemma element_grows (object index : Value) : Grows c (element object index) := by
  simp only [element]
  split
  · exact Grows.pure _
  · exact property_grows _ _

lemma mapItems_grows (h : call.Grows) (function : Value) (i : Nat) (items : List Value) :
    Grows c (mapItems call function i items) := by
  induction items generalizing i with
  | nil => exact Grows.pure _
  | cons item items ih => exact (h c _ _).bind fun _ => (ih _).bind fun _ => Grows.pure _

lemma method_grows (h : call.Grows) (receiver : Value) (name : String) (arguments : List Value) :
    Grows c (method call receiver name arguments) := by
  cases receiver with
  | undefined => exact Grows.failType _
  | null => exact Grows.failType _
  | array identity items =>
    simp only [method]
    split
    · exact (mapItems_grows h _ _ _).bind fun _ => Grows.newArray _
    · split
      · exact Grows.pure _
      · exact Value.callMethod_grows h _ _ _
  | _ => simpa only [method] using Value.callMethod_grows h _ _ _

lemma forEach_grows {step : Value → Eval Flow} (h : ∀ v, Grows c (step v)) (values : List Value) :
    Grows c (forEach step values) := by
  induction values with
  | nil => exact Grows.pure _
  | cons value values ih =>
    refine (h value).bind fun flow => ?_
    cases flow with
    | next => exact ih
    | leave v => exact Grows.pure _

lemma expression_call (call : Call) {callee : Expr} (hn : ∀ receiver name, callee ≠ .member receiver name)
    (scope : Scope) (arguments : List Item) : expression call scope (.call callee arguments) = (do
      let f ← expression call scope callee
      call f (← items call scope arguments)) := by
  cases callee with
  | member receiver name => exact absurd rfl (hn receiver name)
  | _ => simp only [expression]

mutual

lemma expression_grows (h : call.Grows) (scope : Scope) : (e : Expr) → Grows c (expression call scope e)
  | .identifier name => by simpa only [expression] using Grows.lookup scope name
  | .literal value => by simpa only [expression] using Grows.pure _
  | .array parts => by
    simp only [expression]
    exact (items_grows h scope parts).bind fun _ => Grows.newArray _
  | .object parts => by
    simp only [expression]
    exact (fields_grows h scope [] parts).bind fun _ => Grows.newObject _
  | .member object name => by
    simp only [expression]
    exact (expression_grows h scope object).bind fun _ => property_grows _ _
  | .index object index => by
    simp only [expression]
    exact (expression_grows h scope object).bind fun _ =>
      (expression_grows h scope index).bind fun _ => element_grows _ _
  | .call callee arguments => by
    have hc := expression_grows h scope callee
    have ha := items_grows h scope arguments
    cases callee with
    | member receiver name =>
      simp only [expression]
      refine (expression_grows h scope receiver).bind fun value => ha.bind fun _ => ?_
      split
      · exact h c _ _
      · exact method_grows h _ _ _
    | _ =>
      rw [expression_call call (by simp)]
      exact hc.bind fun _ => ha.bind fun _ => h c _ _
  | .not operand => by
    simp only [expression]
    exact (expression_grows h scope operand).bind fun _ => Grows.pure _
  | .binary op left right => by
    have hr := expression_grows h scope right
    simp only [expression]
    refine (expression_grows h scope left).bind fun value => ?_
    cases op with
    | and =>
      dsimp only
      split
      · exact hr
      · exact Grows.pure _
    | or =>
      dsimp only
      split
      · exact Grows.pure _
      · exact hr
    | _ => exact hr.bind fun _ => Grows.pure _
  | .conditional test consequent alternate => by
    simp only [expression]
    refine (expression_grows h scope test).bind fun value => ?_
    split
    · exact expression_grows h scope consequent
    · exact expression_grows h scope alternate
  | .arrow params body => by
    simp only [expression]
    exact Grows.newIdentity.bind fun _ => Grows.pure _
  | .markup _ => by simpa only [expression] using Grows.failType _

lemma items_grows (h : call.Grows) (scope : Scope) : (parts : List Item) → Grows c (items call scope parts)
  | [] => by simpa only [items] using Grows.pure _
  | .single value :: parts => by
    simp only [items]
    exact (expression_grows h scope value).bind fun _ => (items_grows h scope parts).bind fun _ => Grows.pure _
  | .spread source :: parts => by
    simp only [items]
    refine (expression_grows h scope source).bind fun value => ?_
    split
    · exact (items_grows h scope parts).bind fun _ => Grows.pure _
    · exact Grows.failType _

lemma fields_grows (h : call.Grows) (scope : Scope) (entries : List (String × Value)) :
    (parts : List Property) → Grows c (fields call scope entries parts)
  | [] => by simpa only [fields] using Grows.pure _
  | .keyed _ value :: parts => by
    simp only [fields]
    exact (expression_grows h scope value).bind fun _ => fields_grows h scope _ parts
  | .spread source :: parts => by
    simp only [fields]
    exact (expression_grows h scope source).bind fun _ => fields_grows h scope _ parts

end

def declared? : Stmt → Option String
  | .declare _ name _ => some name
  | _ => none

mutual

lemma statement_grows {c : Option Nat} (h : call.Grows) (scope : Scope) :
    (s : Stmt) → declared? s = none ∨ c = scope.head? → Grows c (statement call scope s)
  | .importModule .., _ => by simpa only [statement] using Grows.failType _
  | .declare _ name value, hc => by
    obtain rfl : c = scope.head? := hc.resolve_left nofun
    simp only [statement]
    exact (expression_grows h scope value).bind fun _ => (Grows.define scope name _).bind fun _ => Grows.pure _
  | .expression value, _ => by
    simp only [statement]
    exact (expression_grows h scope value).bind fun _ => Grows.pure _
  | .branch test consequent alternate, _ => by
    simp only [statement]
    refine (expression_grows h scope test).bind fun value => ?_
    split
    · exact Grows.enter fun f => statement_grows h (f :: scope) consequent (.inr rfl)
    · exact otherwise_grows h scope alternate
  | .block body, _ => by
    simp only [statement]
    exact Grows.enter fun f => statements_grows h (f :: scope) body
  | .forOf name source body, _ => by
    simp only [statement]
    refine (expression_grows h scope source).bind fun value => ?_
    split
    · refine forEach_grows (fun item => Grows.enter fun f => ?_) _
      exact (Grows.define (f :: scope) name item).bind fun _ => statement_grows h (f :: scope) body (.inr rfl)
    · exact Grows.failType _
  | .leave none, _ => by simpa only [statement] using Grows.pure _
  | .leave (some value), _ => by
    simp only [statement]
    exact (expression_grows h scope value).bind fun _ => Grows.pure _

lemma otherwise_grows {c : Option Nat} (h : call.Grows) (scope : Scope) :
    (s : Option Stmt) → Grows c (otherwise call scope s)
  | none => by simpa only [otherwise] using Grows.pure _
  | some alternate => by
    simp only [otherwise]
    exact Grows.enter fun f => statement_grows h (f :: scope) alternate (.inr rfl)

lemma statements_grows (h : call.Grows) (scope : Scope) :
    (ss : List Stmt) → Grows scope.head? (statements call scope ss)
  | [] => by simpa only [statements] using Grows.pure _
  | s :: ss => by
    simp only [statements]
    refine (statement_grows h scope s (.inr rfl)).bind fun flow => ?_
    cases flow with
    | next => exact statements_grows h scope ss
    | leave value => exact Grows.pure _

end

lemma bindParams_grows (scope : Scope) (params : List String) (arguments : List Value) :
    Grows scope.head? (bindParams scope params arguments) := by
  induction params generalizing arguments with
  | nil => exact Grows.pure ()
  | cons param params ih => exact (Grows.define scope param _).bind fun _ => ih _

lemma body_grows (h : call.Grows) (scope : Scope) (code : Body) : Grows scope.head? (body call scope code) := by
  cases code with
  | expression value => exact expression_grows h scope value
  | block ss =>
    refine (statements_grows h scope ss).bind fun flow => ?_
    cases flow <;> exact Grows.pure _

theorem callWithin_grows (n : Nat) : Call.Grows (callWithin n) := by
  induction n with
  | zero =>
    intro c f arguments
    cases f with
    | native function => simpa only [callWithin] using function.run_grows arguments
    | closure => simpa only [callWithin] using Grows.throw _
    | _ => simpa only [callWithin] using Grows.failType _
  | succ n ih =>
    intro c f arguments
    cases f with
    | native function => simpa only [callWithin] using function.run_grows arguments
    | closure identity params code outer =>
      simp only [callWithin]
      refine Grows.enter fun f => ?_
      exact (bindParams_grows (f :: outer) params arguments).bind fun _ => body_grows ih (f :: outer) code
    | _ => simpa only [callWithin] using Grows.failType _

lemma grows_of_expression {n : Nat} {scope : Scope} {e : Expr} {s t : Store} {v : Value}
    (h : expression (callWithin n) scope e s = .ok v t) : Store.Grows none s t :=
  (expression_grows (callWithin_grows n) scope e).of_ok h

lemma grows_of_items {n : Nat} {scope : Scope} {parts : List Item} {s t : Store} {vs : List Value}
    (h : items (callWithin n) scope parts s = .ok vs t) : Store.Grows none s t :=
  (items_grows (callWithin_grows n) scope parts).of_ok h

end Evaluation

/-- Started after `l₀`, the computation ends with an answer that has the property, and it writes to no
sink. -/
def Quietly {α : Type} (l₀ : Store) (P : α → Prop) (m : Eval α) : Prop :=
  ∀ l, Store.Grows none l₀ l → ∃ a l', m l = .ok a l' ∧ P a ∧ Store.Grows none l l' ∧ l'.sinks = l.sinks

namespace Quietly

variable {α β : Type} {l₀ : Store} {P : α → Prop} {Q : β → Prop}

lemma mono {P' : α → Prop} {m : Eval α} (h : Quietly l₀ P m) (hp : ∀ a, P a → P' a) : Quietly l₀ P' m := by
  intro l hl
  obtain ⟨a, l', he, ha, hg, hs⟩ := h l hl
  exact ⟨a, l', he, hp a ha, hg, hs⟩

lemma pure {a : α} (h : P a) : Quietly l₀ P (Pure.pure a) := fun l _ => ⟨a, l, rfl, h, .refl _ _, rfl⟩

lemma bind {m : Eval α} {f : α → Eval β} (hm : Quietly l₀ P m) (hf : ∀ a, P a → Quietly l₀ Q (f a)) :
    Quietly l₀ Q (m >>= f) := by
  intro l hl
  obtain ⟨a, l', he, hp, hg, hs⟩ := hm l hl
  obtain ⟨b, l'', he', hq, hg', hs'⟩ := hf a hp l' (hl.trans hg)
  refine ⟨b, l'', ?_, hq, hg.trans hg', hs'.trans hs⟩
  simp only [Bind.bind, EStateM.bind, he, he']

lemma newIdentity : Quietly l₀ (fun _ => True) Eval.newIdentity :=
  fun l _ => ⟨_, _, rfl, trivial, Eval.Grows.newIdentity l, rfl⟩

lemma newObject (fields : List (String × Value)) :
    Quietly l₀ (fun v => ∃ identity, v = .object identity fields) (Eval.newObject fields) :=
  newIdentity.bind fun identity _ => pure ⟨identity, rfl⟩

lemma newArray (items : List Value) :
    Quietly l₀ (fun v => ∃ identity, v = .array identity items) (Eval.newArray items) :=
  newIdentity.bind fun identity _ => pure ⟨identity, rfl⟩

end Quietly

end TemplateScript
