import TemplateScript.Proofs.Evaluation.Closed

namespace TemplateScript

namespace Store

def binding? (s : Store) (frame : Nat) (name : String) : Option Value :=
  Entries.get? name (s.frames[frame]?.getD [])

def tables (s : Store) (scope : Scope) : List (Option (List (String × Value))) := scope.map fun frame => s.frames[frame]?

/-- The store `t` keeps what `s` has; only the innermost frame of the scope may change, and only at the names. -/
structure Declares (scope : Scope) (names : List String) (s t : Store) : Prop where
  grows : Grows scope.head? s t
  binding? (frame : Nat) (name : String) : frame < s.frames.size → name ∉ names →
    t.binding? frame name = s.binding? frame name

namespace Declares

variable {scope : Scope} {names names' : List String} {s t u : Store}

lemma of_grows (h : Grows none s t) : Declares scope names s t where
  grows := h.weaken
  binding? frame name hf _ := by rw [Store.binding?, h.frames frame hf (by simp), Store.binding?]

lemma trans (h : Declares scope names s t) (h' : Declares scope names t u) : Declares scope names s u where
  grows := h.grows.trans h'.grows
  binding? frame name hf hn :=
    (h'.binding? frame name (hf.trans_le h.grows.size) hn).trans (h.binding? frame name hf hn)

lemma mono (h : Declares scope names s t) (hn : names ⊆ names') : Declares scope names' s t where
  grows := h.grows
  binding? frame name hf hm := h.binding? frame name hf fun hm' => hm (hn hm')

end Declares

lemma binding?_bind (s : Store) {key name : String} (h : key ≠ name) (frame i : Nat) (value : Value) :
    (s.bind frame key value).binding? i name = s.binding? i name := by
  by_cases hi : frame = i
  · subst hi
    cases he : s.frames[frame]? with
    | none => simp [Store.binding?, Store.bind, Array.getElem?_modify, he]
    | some es => simp [Store.binding?, frames_bind he, he, Entries.get?_set, h]
  · rw [Store.binding?, s.frames_bind_other hi, Store.binding?]

lemma Grows.tables_eq {s t : Store} (h : Grows none s t) {scope : Scope} (hs : scope.In s) :
    t.tables scope = s.tables scope := by
  apply List.map_congr_left
  intro frame hf
  exact h.frames frame (hs frame hf) (by simp)

end Store

namespace Eval

abbrev Declares {α : Type} (scope : Scope) (names : List String) (m : Eval α) : Prop :=
  Preserves (Store.Declares scope names) m

namespace Declares

variable {α β : Type} {scope : Scope} {names names' : List String}

lemma of_grows {m : Eval α} (h : Grows none m) : Declares scope names m := fun s => .of_grows (h s)

lemma mono {m : Eval α} (h : Declares scope names m) (hn : names ⊆ names') : Declares scope names' m :=
  fun s => (h s).mono hn

lemma bind {m : Eval α} {f : α → Eval β} (hm : Declares scope names m) (hf : ∀ a, Declares scope names (f a)) :
    Declares scope names (m >>= f) :=
  Preserves.bind (fun _ _ _ h h' => h.trans h') hm hf

lemma define (scope : Scope) (name : String) (value : Value) : Declares scope [name] (Eval.define scope name value) := by
  cases scope with
  | nil => exact of_grows (Grows.pure ())
  | cons frame outer =>
    refine fun s => ⟨Grows.define (frame :: outer) name value s, fun i other _ hn => ?_⟩
    apply s.binding?_bind
    rintro rfl
    exact hn List.mem_cons_self

end Declares

end Eval

namespace Evaluation

open Eval

variable {call : Call}

lemma statement_declares (h : call.Grows) (scope : Scope) (s : Stmt) :
    Declares scope (declared? s).toList (statement call scope s) := by
  cases hs : declared? s with
  | none => exact .of_grows (statement_grows h scope s (.inl hs))
  | some name =>
    cases s with
    | declare kind key value =>
      obtain rfl := Option.some.inj hs
      simp only [statement]
      apply Declares.bind (.of_grows (expression_grows h scope value))
      intro v
      exact (Declares.define scope key v).bind fun _ => .of_grows (Grows.pure _)
    | _ => cases hs

lemma statements_declares (h : call.Grows) (scope : Scope) (ss : List Stmt) :
    Declares scope (ss.filterMap declared?) (statements call scope ss) := by
  induction ss with
  | nil => simpa only [statements] using .of_grows (Grows.pure _)
  | cons s ss ih =>
    simp only [statements]
    have hfirst : (declared? s).toList ⊆ (s :: ss).filterMap declared? := by
      intro name hn
      exact List.mem_filterMap.2 ⟨s, List.mem_cons_self, Option.mem_toList.1 hn⟩
    have hrest : ss.filterMap declared? ⊆ (s :: ss).filterMap declared? := by
      intro name hn
      obtain ⟨s', hm, hs'⟩ := List.mem_filterMap.1 hn
      exact List.mem_filterMap.2 ⟨s', List.mem_cons_of_mem s hm, hs'⟩
    apply ((statement_declares h scope s).mono hfirst).bind
    intro flow
    cases flow with
    | next => exact ih.mono hrest
    | leave value => exact .of_grows (Grows.pure _)

/-- However an evaluation ends, every scope that was there has the bindings that it had, and so have the scopes around
it. Statements change the bindings of no scope but their own, and there only of the names that they declare
themselves. -/
theorem bindings_kept (n : Nat) (scope : Scope) (s : Store) :
    (∀ e, let t := finalState (expression (callWithin n) scope e s)
      (∀ i < s.frames.size, t.frames[i]? = s.frames[i]?) ∧
      ∀ held, Scope.In s held → t.tables held = s.tables held ∧ ∀ name, t.get? name held = s.get? name held) ∧
    ∀ ss, let t := finalState (statements (callWithin n) scope ss s)
      ∀ i < s.frames.size,
        (scope.head? ≠ some i → t.frames[i]? = s.frames[i]?) ∧
        ∀ name, name ∉ ss.filterMap declared? → t.binding? i name = s.binding? i name := by
  constructor
  · intro e t
    have hg : Store.Grows none s t := expression_grows (callWithin_grows n) scope e s
    refine ⟨fun i hi => hg.frames i hi (by simp), fun held hs => ⟨hg.tables_eq hs, ?_⟩⟩
    exact Store.get?_congr fun frame hf => hg.frames frame (hs frame hf) (by simp)
  · intro ss t i hi
    have hd : Store.Declares scope _ s t := statements_declares (callWithin_grows n) scope ss s
    exact ⟨hd.grows.frames i hi, fun name hn => hd.binding? i name hi hn⟩

theorem bindings_kept_shadowed :
    let s : Store := { frames := #[[("x", .null)], [("y", .null)]] }
    let inner : Stmt := .declare .variable "x" (.literal (.bool true))
    let e : Expr := .call (.arrow [] (.block [inner])) []
    let ss : List Stmt := [.declare .constant "y" e, .block [inner]]
    let t := finalState (expression (callWithin 1) [1, 0] e s)
    let u := finalState (statements (callWithin 1) [1, 0] ss s)
    t.tables [1, 0] = s.tables [1, 0] ∧ t.get? "x" [1, 0] = s.get? "x" [1, 0] ∧
      u.frames[0]? = s.frames[0]? ∧ u.binding? 1 "x" = s.binding? 1 "x" ∧ u.binding? 1 "y" = some .undefined := by
  intro s inner e ss t u
  obtain ⟨hexpression, hstatements⟩ := bindings_kept 1 [1, 0] s
  have hin : Scope.In s [1, 0] := by simp [Scope.In, s]
  obtain ⟨htables, hget⟩ := (hexpression e).2 [1, 0] hin
  have houter := (hstatements ss 0 (by decide)).1 (by decide)
  have hown := (hstatements ss 1 (by decide)).2 "x" (by decide)
  exact ⟨htables, hget "x", houter, hown, rfl⟩

end Evaluation

end TemplateScript
