import TemplateScript.Proofs.Evaluation.Sinks
import TemplateScript.Template.Compile

/-!
Running generated code. It looks up the support module and its own temporaries, calls functions of the
support module, and binds values by calling functions that it has just made.
-/

namespace TemplateScript

/-- Whether a name has the shape of the names that compilation makes: an underscore, a letter, digits. -/
def isTemporary (name : String) : Bool :=
  match name.toList with
  | '_' :: letter :: digit :: digits => letter.isAlpha && digit.isDigit && digits.all Char.isDigit
  | _ => false

def temporary (kind : Char) (n : Nat) : String := "_" ++ kind.toString ++ toString n

lemma toList_temporary (kind : Char) (n : Nat) : (temporary kind n).toList = '_' :: kind :: Nat.toDigits 10 n := by
  simp [temporary, ToString.toString, Nat.toList_repr]

lemma isTemporary_temporary {kind : Char} (h : kind.isAlpha) (n : Nat) : isTemporary (temporary kind n) = true := by
  have hd (d : Char) (hm : d ∈ Nat.toDigits 10 n) : d.isDigit := Nat.isDigit_of_mem_toDigits (by decide) le_rfl hm
  simp only [isTemporary, toList_temporary]
  cases hn : Nat.toDigits 10 n with
  | nil => exact absurd hn Nat.toDigits_ne_nil
  | cons digit digits =>
    rw [hn] at hd
    have hrest : digits.all Char.isDigit = true :=
      List.all_eq_true.2 fun d hm => hd d (List.mem_cons_of_mem digit hm)
    simp [h, hd digit List.mem_cons_self, hrest]

lemma temporary_ne {kind kind' : Char} (h : kind ≠ kind') (n n' : Nat) : temporary kind n ≠ temporary kind' n' := by
  intro he
  have hl := congrArg String.toList he
  rw [toList_temporary, toList_temporary] at hl
  simp_all

lemma ne_temporary {name : String} (hn : isTemporary name = false) (kind : Char) (h : kind.isAlpha) (n : Nat) :
    name ≠ temporary kind n := by
  rintro rfl
  simp [isTemporary_temporary h] at hn

section Frames

variable {s t : Store} {scope : Scope}

lemma Scope.In.grow {c : Option Nat} (h : scope.In s) (hs : Store.Grows c s t) : scope.In t :=
  fun frame hm => (h frame hm).trans_le hs.size

lemma Scope.In.cons {frame : Nat} (hf : frame < s.frames.size) (h : scope.In s) : Scope.In s (frame :: scope) := by
  intro f hm
  rcases List.mem_cons.1 hm with rfl | hm
  · exact hf
  · exact h f hm

lemma Store.Grows.get?_eq (h : Store.Grows none s t) (hs : scope.In s) (name : String) :
    t.get? name scope = s.get? name scope :=
  Store.get?_congr (fun frame hm => h.frames frame (hs frame hm) (by simp)) name

lemma Store.get?_of_frames (h : s.frames = t.frames) (name : String) (scope : Scope) :
    s.get? name scope = t.get? name scope :=
  Store.get?_congr (fun _ _ => by rw [h]) name

def Store.next (s : Store) : Store := { s with identities := s.identities + 1 }

lemma Store.next_grows (s : Store) : Store.Grows none s s.next := Eval.Grows.newIdentity s

lemma Store.get?_enter (hs : scope.In s) (bindings : List (String × Value)) (name : String) :
    (s.enter bindings).get? name (s.frames.size :: scope) =
      (Entries.get? name bindings).or (s.get? name scope) := by
  have ho := (s.enter_grows bindings).get?_eq hs name
  simp only [Store.get?, ho]
  simp only [enter, Array.getElem?_push_size, Option.getD_some]
  cases Entries.get? name bindings <;> rfl

lemma Entries.get?_eq_none {α : Type} {name : String} {es : List (String × α)} (h : ∀ e ∈ es, e.1 ≠ name) :
    Entries.get? name es = none := by
  induction es with
  | nil => rfl
  | cons e es ih =>
    have he := h e List.mem_cons_self
    simp only [get?, he, if_false]
    exact ih fun e' he' => h e' (List.mem_cons_of_mem _ he')

lemma Store.get?_enter_other (hs : scope.In s) {bindings : List (String × Value)} {name : String}
    (h : ∀ b ∈ bindings, b.1 ≠ name) :
    (s.enter bindings).get? name (s.frames.size :: scope) = s.get? name scope := by
  rw [Store.get?_enter hs, Entries.get?_eq_none h]
  rfl

lemma Scope.In.enter (hs : scope.In s) (bindings : List (String × Value)) :
    Scope.In (s.enter bindings) (s.frames.size :: scope) :=
  (hs.grow (s.enter_grows bindings)).cons (by simp [Store.enter])

end Frames

namespace Evaluation

def bindAll (bindings : List (String × Value)) : List String → List Value → List (String × Value)
  | [], _ => bindings
  | param :: params, arguments => bindAll (Entries.set param (Support.first arguments) bindings) params (arguments.drop 1)

lemma bindParams_enter (s : Store) (outer : Scope) (bindings : List (String × Value)) (params : List String)
    (arguments : List Value) : bindParams (s.frames.size :: outer) params arguments (s.enter bindings) =
      .ok () (s.enter (bindAll bindings params arguments)) := by
  induction params generalizing bindings arguments with
  | nil => rfl
  | cons param params ih =>
    simp only [bindParams, Bind.bind, EStateM.bind, Eval.define_enter]
    exact ih _ _

lemma callWithin_closure (n identity : Nat) (params : List String) (code : Body) (outer : Scope)
    (arguments : List Value) (s : Store) :
    callWithin (n + 1) (.closure identity params code outer) arguments s =
      body (callWithin n) (s.frames.size :: outer) code (s.enter (bindAll [] params arguments)) := by
  have hb := bindParams_enter s outer [] params arguments
  have hs : Eval.newScope outer s = .ok (s.frames.size :: outer) (s.enter []) := rfl
  simp only [callWithin, Bind.bind, EStateM.bind, hs, hb]

lemma expression_bindNames (n : Nat) (scope : Scope) (bindings : List (String × Expr)) (code : Body) :
    expression (callWithin n) scope (bindNames bindings code) = (do
      let identity ← Eval.newIdentity
      let values ← items (callWithin n) scope (bindings.map fun b => .single b.2)
      callWithin n (.closure identity (bindings.map Prod.fst) code scope) values) := by
  simp only [bindNames, Expr.callWith]
  rw [expression_call _ (by simp)]
  simp only [expression, bind_assoc, pure_bind, List.map_map, Function.comp_def]

end Evaluation

section Support

def Support.fields : List (String × Value) := Native.all.map fun f => (f.name, .native f)

lemma Support.get?_name (f : Native) : Entries.get? f.name Support.fields = some (.native f) := by
  cases f <;> rfl

def Store.Supports (s : Store) (scope : Scope) (name : String) : Prop :=
  ∃ identity, s.get? name scope = some (.object identity Support.fields)

def Store.ofSupport (name : String) : Store :=
  { frames := #[[(name, .object 0 Support.fields)]], identities := 1 }

lemma Store.ofSupport_closed (name : String) : (ofSupport name).Closed := by
  intro frame bindings hb
  obtain rfl : [(name, .object 0 Support.fields)] = bindings := by
    cases frame with
    | zero => exact Option.some.inj hb
    | succ frame => simp [ofSupport] at hb
  have hfields : Fields.Match (.same (ofSupport name)) Support.fields Support.fields := by
    rw [Support.fields, Fields.Match, List.forall₂_map_left_iff, List.forall₂_map_right_iff, List.forall₂_same]
    exact fun f _ => .mk f.name (.native f)
  exact .cons (.mk name (.object ⟨rfl, Nat.zero_lt_one⟩ hfields)) .nil

lemma Store.ofSupport_supports (name : String) : (ofSupport name).Supports [0] name :=
  ⟨0, by simp [ofSupport, Store.get?, Entries.get?]⟩

lemma Store.ofSupport_in (name : String) : Scope.In (ofSupport name) [0] := by
  simp [Scope.In, ofSupport]

namespace Evaluation

variable {c : Config} {scope : Scope} {s : Store} {call : Call}

lemma lookup_eq {name : String} {v : Value} (h : s.get? name scope = some v) :
    Eval.lookup scope name s = .ok v s := by
  rw [Eval.lookup_run, h, Option.elim_some]

lemma expression_support (h : s.Supports scope c.support) (f : Native) (arguments : List Item) :
    expression call scope (c.call f.name arguments) s =
      (items call scope arguments >>= fun values => call (.native f) values) s := by
  obtain ⟨identity, hs⟩ := h
  simp only [Config.call, Config.member, expression, Bind.bind, EStateM.bind, lookup_eq hs,
    Support.get?_name, Option.getD_some]

def nativeOf : Representation → Native
  | .structured => .structured
  | .stream => .stream
  | .raw => .raw

lemma expression_builder (h : s.Supports scope c.support) (n : Nat) (r : Representation) :
    expression (callWithin n) scope (c.builder r) s = .ok (.builder r) s := by
  have hn : r.name = (nativeOf r).name := by cases r <;> rfl
  rw [Config.builder, hn, expression_support h]
  cases r <;> cases n <;> rfl

lemma expression_elementCall (h : s.Supports scope c.support) (n : Nat) (r : Representation) (tag : Expr)
    (codes : List AttributeCode) (content : List Compiled) :
    expression (callWithin n) scope (c.elementCall r tag codes content) s = (do
      let v ← expression (callWithin n) scope tag
      let values ← items (callWithin n) scope (.single (AttributeCode.toObject codes) :: c.spreadChildren r content)
      r.method "element" (v :: values)) s := by
  have hb := expression_builder h n r
  simp only [Config.elementCall, expression, Bind.bind, EStateM.bind, hb]
  rw [items]
  simp only [Bind.bind, EStateM.bind]
  cases expression (callWithin n) scope tag s with
  | error halt s' => rfl
  | ok v s' =>
    dsimp only
    cases items (callWithin n) scope _ s' <;> rfl

end Evaluation

end Support

lemma Quietly.lookup {l₀ : Store} {scope : Scope} (hs : scope.In l₀) {name : String} {v : Value}
    (h : l₀.get? name scope = some v) : Quietly l₀ (· = v) (Eval.lookup scope name) := by
  intro l hl
  have hg : l.get? name scope = some v := (hl.get?_eq hs name).trans h
  exact ⟨v, l, Evaluation.lookup_eq hg, rfl, .refl _ _, rfl⟩

lemma WritesAlike.after {α β γ τ : Type} {append : τ → String → τ} {i : Nat} {l₀ r₀ : Store} {P : α → Prop}
    {Q : β → Prop} {m : Eval β} {k : β → Eval α} {m' : EStateM Halt (Store × τ) γ} (hm : Quietly l₀ Q m)
    (hk : ∀ b, Q b → WritesAlike append i l₀ r₀ P (k b) m') : WritesAlike append i l₀ r₀ P (m >>= k) m' := by
  intro l r out hl hr
  obtain ⟨b, l', he, hq, hg, hs⟩ := hm l hl
  have ho := hk b hq l' r out (hl.trans hg) hr
  simp only [Bind.bind, EStateM.bind, he]
  generalize k b l' = x at ho ⊢
  generalize m' (r, out) = y at ho ⊢
  cases ho with
  | error halt l' r' => exact .error halt l' r'
  | ok text hp hgl hgr ht => exact .ok text hp (hg.trans hgl) hgr (hs ▸ ht)

lemma Store.Supports.grow {s t : Store} {scope : Scope} {name : String} (h : s.Supports scope name)
    (hs : scope.In s) (hg : Store.Grows none s t) : t.Supports scope name := by
  obtain ⟨identity, he⟩ := h
  exact ⟨identity, (hg.get?_eq hs name).trans he⟩

namespace Evaluation

variable {c : Config} {scope : Scope} {l₀ : Store} {n : Nat}

lemma callWithin_native (n : Nat) (f : Native) (arguments : List Value) :
    callWithin n (.native f) arguments = f.run arguments := by
  cases n <;> rfl

lemma support_quietly (hs : scope.In l₀) (h : l₀.Supports scope c.support) (f : Native)
    {P : List Value → Prop} {Q : Value → Prop} {arguments : List Item}
    (ha : Quietly l₀ P (items (callWithin n) scope arguments)) (hf : ∀ values, P values → Quietly l₀ Q (f.run values)) :
    Quietly l₀ Q (expression (callWithin n) scope (c.call f.name arguments)) := by
  intro l hl
  rw [expression_support (h.grow hs hl)]
  refine (ha.bind fun values hv => ?_) l hl
  rw [callWithin_native]
  exact hf values hv

lemma items_one_quietly {e : Expr} {P : Value → Prop} (h : Quietly l₀ P (expression (callWithin n) scope e)) :
    Quietly l₀ (fun values => ∃ v, P v ∧ values = [v]) (items (callWithin n) scope [.single e]) := by
  simp only [items]
  exact h.bind fun v hv => (Quietly.pure (P := (· = [])) rfl).bind fun _ e => .pure ⟨v, hv, by rw [e]⟩

lemma add_quietly {a b : Expr} {x : String} {y : Value}
    (ha : Quietly l₀ (· = .string x) (expression (callWithin n) scope a))
    (hb : Quietly l₀ (· = y) (expression (callWithin n) scope b)) :
    Quietly l₀ (· = .string (x ++ y.text)) (expression (callWithin n) scope (.binary .add a b)) := by
  simp only [expression]
  refine ha.bind fun _ e => hb.bind fun _ e' => .pure ?_
  subst e e'
  simp only [Value.add, Value.addend?, Value.text]

lemma string_quietly (text : String) :
    Quietly l₀ (· = .string text) (expression (callWithin n) scope (.string text)) := by
  simp only [Expr.string, expression, literal]
  exact .pure rfl

lemma identifier_quietly (hs : scope.In l₀) {name : String} {v : Value} (h : l₀.get? name scope = some v) :
    Quietly l₀ (· = v) (expression (callWithin n) scope (.identifier name)) := by
  simp only [expression]
  exact .lookup hs h

lemma strictEq_quietly {a b : Expr} {x y : Value} (ha : Quietly l₀ (· = x) (expression (callWithin n) scope a))
    (hb : Quietly l₀ (· = y) (expression (callWithin n) scope b)) :
    Quietly l₀ (· = .bool (x.strictEquals y)) (expression (callWithin n) scope (.binary .strictEq a b)) := by
  simp only [expression]
  exact ha.bind fun _ e => hb.bind fun _ e' => .pure (by rw [e, e'])

lemma conditional_quietly {test a b : Expr} {x : Value} {P : Value → Prop}
    (ht : Quietly l₀ (· = x) (expression (callWithin n) scope test))
    (h : Quietly l₀ P (expression (callWithin n) scope (if x.isTruthy then a else b))) :
    Quietly l₀ P (expression (callWithin n) scope (.conditional test a b)) := by
  simp only [expression]
  refine ht.bind fun _ e => ?_
  rw [e]
  split
  · rwa [if_pos ‹_›] at h
  · rwa [if_neg ‹_›] at h

def attributeText (name : String) (v : AttributeValue) : String := (v.normalize.map (Attribute.render name)).getD ""

def attributeChoice (c : Config) (name temp : String) : Expr :=
  .conditional (.binary .strictEq (.identifier temp) (.bool true)) (.string (" " ++ name))
    (.conditional (.binary .strictEq (.identifier temp) .null) (.string "")
      (.concat [.string (" " ++ name ++ "=\""), c.callWith "escapeHTML" [.identifier temp], .string "\""]))

lemma computedAttribute_eq (c : Config) (name : String) (value : Expr) (k : Nat) :
    computedAttribute c name value k = (bindNames [(temporary 'a' (k + 1), c.callWith "normalizeAttribute" [value])]
      (.expression (attributeChoice c name (temporary 'a' (k + 1)))), k + 1) := rfl

lemma attributeChoice_quietly (hs : scope.In l₀) (h : l₀.Supports scope c.support) (name : String) {temp : String}
    {v : Value} (hv : l₀.get? temp scope = some (Support.normalizeAttribute v)) :
    Quietly l₀ (· = .string (attributeText name v.toAttributeValue))
      (expression (callWithin n) scope (attributeChoice c name temp)) := by
  have ht := identifier_quietly (n := n) hs hv
  have hbare : Quietly l₀ (· = .bool true) (expression (callWithin n) scope (.bool true)) := by
    simp only [Expr.bool, expression, literal]
    exact .pure rfl
  have hnull : Quietly l₀ (· = .null) (expression (callWithin n) scope .null) := by
    simp only [Expr.null, expression, literal]
    exact .pure rfl
  refine conditional_quietly (strictEq_quietly ht hbare) ?_
  cases ha : v.toAttributeValue.normalize with
  | none =>
    simp only [Support.normalizeAttribute, ha, Value.strictEquals, Value.isTruthy, attributeText, Option.map_none,
      Option.getD_none] at ht ⊢
    exact conditional_quietly (strictEq_quietly ht hnull) (string_quietly "")
  | some a =>
    cases a with
    | bare =>
      simp only [Support.normalizeAttribute, ha, Attribute.toValue, Value.strictEquals, Value.isTruthy, attributeText,
        Option.map_some, Option.getD_some, Attribute.render]
      exact string_quietly _
    | text value =>
      simp only [Support.normalizeAttribute, ha, Attribute.toValue, Value.strictEquals, Value.isTruthy, attributeText,
        Option.map_some, Option.getD_some, Attribute.render] at ht ⊢
      refine conditional_quietly (strictEq_quietly ht hnull) ?_
      have he : Quietly l₀ (· = .string (escapeText value))
          (expression (callWithin n) scope (c.call Native.escapeHTML.name [.single (.identifier temp)])) := by
        refine support_quietly hs h .escapeHTML (items_one_quietly ht) ?_
        rintro _ ⟨_, rfl, rfl⟩
        exact .pure rfl
      exact add_quietly (add_quietly (string_quietly _) he) (string_quietly _)

lemma closure_quietly {identity : Nat} {params : List String} {code : Body} {arguments : List Value}
    {P : Value → Prop} (h : ∀ l, Store.Grows none l₀ l → Quietly (l.enter (bindAll [] params arguments)) P
      (body (callWithin n) (l.frames.size :: scope) code)) :
    Quietly l₀ P (callWithin (n + 1) (.closure identity params code scope) arguments) := by
  intro l hl
  rw [callWithin_closure]
  obtain ⟨v, l', he, hp, hg, hsinks⟩ := h l hl _ (.refl _ _)
  exact ⟨v, l', he, hp, (l.enter_grows _).trans hg, hsinks⟩

lemma attribute_call_quietly (hs : scope.In l₀) (h : l₀.Supports scope c.support)
    (hc : isTemporary c.support = false) (name : String) (k identity : Nat) (v : Value) :
    Quietly l₀ (· = .string (attributeText name v.toAttributeValue))
      (callWithin (n + 1) (.closure identity [temporary 'a' k] (.expression (attributeChoice c name (temporary 'a' k)))
        scope) [Support.normalizeAttribute v]) := by
  refine closure_quietly fun l hl => ?_
  have hs' := hs.grow hl
  refine attributeChoice_quietly (hs'.enter _) ?_ name ?_
  · obtain ⟨id, he⟩ := h.grow hs hl
    refine ⟨id, ?_⟩
    rw [Store.get?_enter hs', bindAll, bindAll]
    simp [Entries.set, Entries.get?, (ne_temporary hc 'a' (by decide) k).symm, he]
  · rw [Store.get?_enter hs', bindAll, bindAll]
    simp [Entries.set, Entries.get?, Support.first]

lemma expression_computedAttribute {l : Store} (h : l.Supports scope c.support) (name : String) (value : Expr) (k : Nat) :
    expression (callWithin n) scope (computedAttribute c name value k).1 l = (do
      let identity ← Eval.newIdentity
      let v ← expression (callWithin n) scope value
      callWithin n (.closure identity [temporary 'a' (k + 1)]
        (.expression (attributeChoice c name (temporary 'a' (k + 1)))) scope) [Support.normalizeAttribute v]) l := by
  have hl : l.next.Supports scope c.support := by
    obtain ⟨id, he⟩ := h
    exact ⟨id, (Store.get?_of_frames (s := l.next) (t := l) rfl _ _).trans he⟩
  have hi : Eval.newIdentity l = .ok l.identities l.next := rfl
  have hv : expression (callWithin n) scope (c.callWith Native.normalizeAttribute.name [value]) l.next =
      (expression (callWithin n) scope value >>= fun v => pure (Support.normalizeAttribute v)) l.next := by
    rw [Config.callWith, Expr.callWith]
    refine (expression_support hl .normalizeAttribute _).trans ?_
    simp only [List.map_cons, List.map_nil, items, bind_assoc, pure_bind, callWithin_native, Native.run,
      Support.first, List.head?_cons, Option.getD_some]
  rw [computedAttribute_eq, expression_bindNames]
  simp only [List.map_cons, List.map_nil, items, bind_assoc, pure_bind]
  simp only [Bind.bind, EStateM.bind, hi]
  rw [show "normalizeAttribute" = Native.normalizeAttribute.name from rfl, hv]
  simp only [Bind.bind, EStateM.bind]
  cases expression (callWithin n) scope value l.next <;> rfl

end Evaluation

end TemplateScript
