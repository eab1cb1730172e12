import TemplateScript.Proofs.Document.Patches
import TemplateScript.Proofs.Evaluation.Growth

/-!
The depth to which calls may nest decides whether an evaluation ends, not how: an evaluation that ends
within a depth ends in the same way within every greater one. Leaving the depth out, a computation ends
in a way if it does so within some depth.
-/

namespace TemplateScript

variable {α β σ : Type}

def Below (m m' : EStateM Halt σ α) : Prop := ∀ s, (∃ t, m s = .error .outOfFuel t) ∨ m s = m' s

namespace Below

lemma refl (m : EStateM Halt σ α) : Below m m := fun _ => .inr rfl

lemma bind {m m' : EStateM Halt σ α} {f f' : α → EStateM Halt σ β} (hm : Below m m')
    (hf : ∀ a, Below (f a) (f' a)) : Below (m >>= f) (m' >>= f') := by
  intro s
  simp only [Bind.bind, EStateM.bind]
  rcases hm s with ⟨t, ht⟩ | hs
  · exact .inl ⟨t, by rw [ht]⟩
  · rw [← hs]
    cases m s with
    | ok a t => exact hf a t
    | error e t => exact .inr rfl

end Below

def Ends (m : Nat → EStateM Halt σ α) (s : σ) : Except Fault α → Prop
  | .ok a => ∃ n t, m n s = .ok a t
  | .error fault => ∃ n t, m n s = .error (.fault fault) t

inductive SameEnd : EStateM.Result Halt σ α → EStateM.Result Halt σ α → Prop
  | ok (a : α) (s t : σ) : SameEnd (.ok a s) (.ok a t)
  | error (halt : Halt) (s t : σ) : SameEnd (.error halt s) (.error halt t)

lemma SameEnd.symm {x y : EStateM.Result Halt σ α} (h : SameEnd x y) : SameEnd y x := by
  cases h with
  | ok a s t => exact .ok a t s
  | error halt s t => exact .error halt t s

/-- What ends within a depth ends so within a greater one. -/
def Steady (m : Nat → EStateM Halt σ α) : Prop := ∀ n k, n ≤ k → Below (m n) (m k)

section Steady

variable {m m' : Nat → EStateM Halt σ α} {s t : σ}

lemma Steady.ok (hm : Steady m) {n : Nat} {a : α} (h : m n s = .ok a t) (i : Nat) : m (n + i) s = .ok a t := by
  obtain ⟨u, hu⟩ | hu := hm n (n + i) (Nat.le_add_right n i) s
  · simp [h] at hu
  · rw [← hu, h]

lemma Steady.fault (hm : Steady m) {n : Nat} {fault : Fault} (h : m n s = .error (.fault fault) t) (i : Nat) :
    m (n + i) s = .error (.fault fault) t := by
  obtain ⟨u, hu⟩ | hu := hm n (n + i) (Nat.le_add_right n i) s
  · simp [h] at hu
  · rw [← hu, h]

lemma Ends.of_shift (hm : Steady m) {i j : Nat} (h : ∀ n, SameEnd (m (n + i) s) (m' (n + j) s)) {r : Except Fault α}
    (hr : Ends m s r) : Ends m' s r := by
  cases r with
  | ok a =>
    obtain ⟨n, t, he⟩ := hr
    have hn := h n
    rw [hm.ok he i] at hn
    generalize hy : m' (n + j) s = y at hn
    cases hn with
    | ok _ _ t' => exact ⟨n + j, t', hy⟩
  | error fault =>
    obtain ⟨n, t, he⟩ := hr
    have hn := h n
    rw [hm.fault he i] at hn
    generalize hy : m' (n + j) s = y at hn
    cases hn with
    | error _ _ t' => exact ⟨n + j, t', hy⟩

lemma ends_congr (hm : Steady m) (hm' : Steady m') {i j : Nat}
    (h : ∀ n, SameEnd (m (n + i) s) (m' (n + j) s)) (r : Except Fault α) : Ends m s r ↔ Ends m' s r :=
  ⟨.of_shift hm h, .of_shift hm' fun n => (h n).symm⟩

end Steady

def Call.Below (call call' : Call) : Prop :=
  ∀ f arguments, TemplateScript.Below (call f arguments) (call' f arguments)

section Calls

variable {call call' : Call}

lemma StreamNode.renderShared_below (h : call.Below call') (place : Nat) (node : StreamNode Value) :
    Below (node.renderShared call place) (node.renderShared call' place) := by
  have hs : Sink.Related Eq Below (sharedSink call place) (sharedSink call' place) :=
    { done := .refl _
      seq := fun hm hk => hm.bind fun _ => hk
      put := fun _ => .refl _
      stop := fun _ => .refl _
      run := by
        rintro code _ e e' rfl he
        obtain rfl := extension_eq he
        exact (Below.refl _).bind fun _ => (h _ _).bind fun _ => .refl _ }
  exact render_related hs (Rel.refl (fun _ => rfl) node)

lemma StreamNode.outsideSink_below {τ : Type} (append : τ → String → τ) (h : call.Below call') :
    Sink.Related Eq Below (outsideSink append call) (outsideSink append call') where
  done := .refl _
  seq hm hk := hm.bind fun _ => hk
  put _ := .refl _
  stop _ := .refl _
  run := by
    rintro code _ e e' rfl he ⟨s, out⟩
    obtain rfl := extension_eq he
    have hl : Below (leafText call code e) (leafText call' code e) :=
      (Below.refl _).bind fun _ => (Below.refl _).bind fun _ => (h _ _).bind fun _ => .refl _
    simp only [outsideSink]
    obtain ⟨t, ht⟩ | ht := hl s
    · exact .inl ⟨(t, out), by rw [ht]⟩
    · exact .inr (by rw [ht])

lemma Value.callMethod_below (h : call.Below call') (receiver : Value) (name : String)
    (arguments : List Value) :
    Below (receiver.callMethod call name arguments) (receiver.callMethod call' name arguments) := by
  cases receiver with
  | stream node =>
    simp only [Value.callMethod]
    split
    · split
      · exact (StreamNode.renderShared_below h _ node).bind fun _ => .refl _
      · exact .refl _
    · exact .refl _
  | _ => exact .refl _

namespace Evaluation

lemma mapItems_below (h : call.Below call') (function : Value) (i : Nat) (values : List Value) :
    Below (mapItems call function i values) (mapItems call' function i values) := by
  induction values generalizing i with
  | nil => exact .refl _
  | cons value values ih => exact (h _ _).bind fun _ => (ih (i + 1)).bind fun _ => .refl _

lemma method_below (h : call.Below call') (receiver : Value) (name : String) (arguments : List Value) :
    Below (method call receiver name arguments) (method call' receiver name arguments) := by
  cases receiver with
  | undefined | null => exact .refl _
  | array identity values =>
    simp only [method]
    split
    · exact (mapItems_below h _ _ _).bind fun _ => .refl _
    · split
      · exact .refl _
      · exact Value.callMethod_below h _ _ _
  | _ => simpa only [method] using Value.callMethod_below h _ _ _

lemma forEach_below {step step' : Value → Eval Flow} (h : ∀ value, Below (step value) (step' value))
    (values : List Value) : Below (forEach step values) (forEach step' values) := by
  induction values with
  | nil => exact .refl _
  | cons value values ih =>
    refine (h value).bind fun flow => ?_
    cases flow with
    | next => exact ih
    | leave value => exact .refl _

mutual

lemma expression_below (h : call.Below call') (scope : Scope) :
    (e : Expr) → Below (expression call scope e) (expression call' scope e)
  | .identifier _ | .literal _ | .arrow .. | .markup _ => by
    simp only [expression]
    exact .refl _
  | .array parts => by
    simp only [expression]
    exact (items_below h scope parts).bind fun _ => .refl _
  | .object parts => by
    simp only [expression]
    exact (fields_below h scope [] parts).bind fun _ => .refl _
  | .member object name => by
    simp only [expression]
    exact (expression_below h scope object).bind fun _ => .refl _
  | .index object index => by
    simp only [expression]
    exact (expression_below h scope object).bind fun _ => (expression_below h scope index).bind fun _ => .refl _
  | .call callee arguments => by
    have hc := expression_below h scope callee
    have ha := items_below h scope arguments
    cases callee with
    | member receiver name =>
      simp only [expression]
      refine (expression_below h scope receiver).bind fun value => ha.bind fun _ => ?_
      split
      · exact h _ _
      · exact method_below h _ _ _
    | _ =>
      rw [expression_call call (by simp), expression_call call' (by simp)]
      exact hc.bind fun _ => ha.bind fun _ => h _ _
  | .not operand => by
    simp only [expression]
    exact (expression_below h scope operand).bind fun _ => .refl _
  | .binary op left right => by
    have hr := expression_below h scope right
    simp only [expression]
    refine (expression_below h scope left).bind fun value => ?_
    cases op with
    | and =>
      dsimp only
      split
      · exact hr
      · exact .refl _
    | or =>
      dsimp only
      split
      · exact .refl _
      · exact hr
    | _ => exact hr.bind fun _ => .refl _
  | .conditional test consequent alternate => by
    simp only [expression]
    refine (expression_below h scope test).bind fun value => ?_
    split
    · exact expression_below h scope consequent
    · exact expression_below h scope alternate

lemma items_below (h : call.Below call') (scope : Scope) :
    (parts : List Item) → Below (items call scope parts) (items call' scope parts)
  | [] => by
    simp only [items]
    exact .refl _
  | .single value :: parts => by
    simp only [items]
    exact (expression_below h scope value).bind fun _ => (items_below h scope parts).bind fun _ => .refl _
  | .spread source :: parts => by
    simp only [items]
    refine (expression_below h scope source).bind fun value => ?_
    split
    · exact (items_below h scope parts).bind fun _ => .refl _
    · exact .refl _

lemma fields_below (h : call.Below call') (scope : Scope) (entries : List (String × Value)) :
    (parts : List Property) → Below (fields call scope entries parts) (fields call' scope entries parts)
  | [] => by
    simp only [fields]
    exact .refl _
  | .keyed _ value :: parts => by
    simp only [fields]
    exact (expression_below h scope value).bind fun _ => fields_below h scope _ parts
  | .spread source :: parts => by
    simp only [fields]
    exact (expression_below h scope source).bind fun _ => fields_below h scope _ parts

end

mutual

lemma statement_below (h : call.Below call') (scope : Scope) :
    (s : Stmt) → Below (statement call scope s) (statement call' scope s)
  | .importModule .. | .leave none => by
    simp only [statement]
    exact .refl _
  | .declare _ name value => by
    simp only [statement]
    exact (expression_below h scope value).bind fun _ => .refl _
  | .expression value => by
    simp only [statement]
    exact (expression_below h scope value).bind fun _ => .refl _
  | .branch test consequent alternate => by
    simp only [statement]
    refine (expression_below h scope test).bind fun value => ?_
    split
    · exact (Below.refl _).bind fun inner => statement_below h inner consequent
    · exact otherwise_below h scope alternate
  | .block body => by
    simp only [statement]
    exact (Below.refl _).bind fun inner => statements_below h inner body
  | .forOf name source body => by
    simp only [statement]
    refine (expression_below h scope source).bind fun value => ?_
    split
    · refine forEach_below (fun item => (Below.refl _).bind fun inner => (Below.refl _).bind fun _ => ?_) _
      exact statement_below h inner body
    · exact .refl _
  | .leave (some value) => by
    simp only [statement]
    exact (expression_below h scope value).bind fun _ => .refl _

lemma otherwise_below (h : call.Below call') (scope : Scope) :
    (s : Option Stmt) → Below (otherwise call scope s) (otherwise call' scope s)
  | none => by
    simp only [otherwise]
    exact .refl _
  | some alternate => by
    simp only [otherwise]
    exact (Below.refl _).bind fun inner => statement_below h inner alternate

lemma statements_below (h : call.Below call') (scope : Scope) :
    (ss : List Stmt) → Below (statements call scope ss) (statements call' scope ss)
  | [] => by
    simp only [statements]
    exact .refl _
  | s :: ss => by
    simp only [statements]
    refine (statement_below h scope s).bind fun flow => ?_
    cases flow with
    | next => exact statements_below h scope ss
    | leave value => exact .refl _

end

lemma body_below (h : call.Below call') (scope : Scope) (code : Body) :
    Below (body call scope code) (body call' scope code) := by
  cases code with
  | expression value => exact expression_below h scope value
  | block ss => exact (statements_below h scope ss).bind fun _ => .refl _

theorem callWithin_below {n k : Nat} (hk : n ≤ k) : Call.Below (callWithin n) (callWithin k) := by
  induction n generalizing k with
  | zero =>
    intro f arguments
    cases f with
    | closure => exact fun s => .inl ⟨s, rfl⟩
    | _ =>
      simp only [callWithin]
      exact .refl _
  | succ n ih =>
    obtain ⟨k, rfl⟩ : ∃ j, k = j + 1 := ⟨k - 1, by omega⟩
    intro f arguments
    cases f with
    | closure identity params code outer =>
      simp only [callWithin]
      refine (Below.refl _).bind fun inner => (Below.refl _).bind fun _ => ?_
      exact body_below (ih (by omega)) inner code
    | _ =>
      simp only [callWithin]
      exact .refl _

lemma expression_steady (scope : Scope) (e : Expr) : Steady fun n => expression (callWithin n) scope e :=
  fun _ _ hk => expression_below (callWithin_below hk) scope e

end Evaluation

end Calls

namespace StreamNode

open Evaluation

def textWith (call : Call) (x : StreamNode Value) (e : Extension (StreamNode Value)) : Eval String := fun s =>
  let sink := outsideSink (· ++ ·) call
  match x.leafBody sink (e.map (stage sink)) (s, "") with
  | .ok _ (s, out) => .ok out s
  | .error halt (s, _) => .error halt s

lemma materialize_eq (call : Call) (x : StreamNode Value) :
    x.materialize call = match x.extension with
      | .ok e => x.textWith call e
      | .error fault => Eval.fail fault := by
  funext s
  simp only [materialize, renderOutside, render_eq]
  cases x.extension <;> rfl

lemma textWith_steady (x : StreamNode Value) (e : Extension (StreamNode Value)) :
    Steady fun n => x.textWith (callWithin n) e := by
  intro n k hk s
  have hsink := outsideSink_below (fun (out : String) chunk => out ++ chunk) (callWithin_below hk)
  have he : (e.map (stage (outsideSink (· ++ ·) (callWithin n)))).Rel (StagedRel Eq Below)
      (e.map (stage (outsideSink (· ++ ·) (callWithin k)))) := by
    obtain ⟨attributes, children⟩ := e
    refine ⟨rfl, ?_⟩
    cases children with
    | none => exact .none
    | some nodes =>
      refine .some ?_
      rw [List.forall₂_map_left_iff, List.forall₂_map_right_iff, List.forall₂_same]
      exact fun x _ => ⟨.refl (fun _ => rfl) x, render_related hsink (.refl (fun _ => rfl) x)⟩
  have hb := leafBody_related hsink (.refl (fun _ => rfl) x) _ _ he (s, "")
  simp only [textWith]
  obtain ⟨t, ht⟩ | ht := hb
  · exact .inl ⟨t.1, by rw [ht]⟩
  · exact .inr (by rw [ht])

lemma materialize_steady (x : StreamNode Value) : Steady fun n => x.materialize (callWithin n) := by
  intro n k hk
  simp only [materialize_eq]
  cases x.extension with
  | ok e => exact x.textWith_steady e n k hk
  | error fault => exact .refl _

end StreamNode

end TemplateScript
