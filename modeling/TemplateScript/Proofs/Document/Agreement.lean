import Mathlib.Data.List.Forall2
import Mathlib.Tactic.Common
import TemplateScript.Document.AnyNode

/-!
Results that agree: both succeed with related answers or both fail with the same fault. Builders whose
answers agree piece by piece rebuild every tree alike.
-/

namespace TemplateScript

lemma bind_eq_ok_iff {α β : Type} {x : Except Fault α} {f : α → Except Fault β} {b : β} :
    x >>= f = .ok b ↔ ∃ a, x = .ok a ∧ f a = .ok b := by
  cases x with
  | error fault => simp [bind, Except.bind]
  | ok a => simp [bind, Except.bind]

inductive Agree {α β : Type} (R : α → β → Prop) : Except Fault α → Except Fault β → Prop
  | ok {a : α} {b : β} : R a b → Agree R (.ok a) (.ok b)
  | error (fault : Fault) : Agree R (.error fault) (.error fault)

namespace Agree

variable {α β γ δ : Type} {R : α → β → Prop} {S : γ → δ → Prop}

lemma bind {x : Except Fault α} {y : Except Fault β} {f : α → Except Fault γ} {g : β → Except Fault δ}
    (h : Agree R x y) (hf : ∀ a b, R a b → Agree S (f a) (g b)) : Agree S (x >>= f) (y >>= g) := by
  cases h with
  | ok hr => exact hf _ _ hr
  | error fault => exact .error fault

lemma map {x : Except Fault α} {y : Except Fault β} {f : α → γ} {g : β → δ} (h : Agree R x y)
    (hf : ∀ a b, R a b → S (f a) (g b)) : Agree S (x.map f) (y.map g) := by
  cases h with
  | ok hr => exact .ok (hf _ _ hr)
  | error fault => exact .error fault

lemma mono {R' : α → β → Prop} {x : Except Fault α} {y : Except Fault β} (h : Agree R x y)
    (hr : ∀ a b, R a b → R' a b) : Agree R' x y := by
  cases h with
  | ok h => exact .ok (hr _ _ h)
  | error fault => exact .error fault

lemma refl {R : α → α → Prop} (x : Except Fault α) (h : ∀ a, R a a) : Agree R x x := by
  cases x with
  | ok a => exact .ok (h a)
  | error fault => exact .error fault

end Agree

/-- Two builders that make related nodes from related children, and refuse the same elements. -/
structure Builder.Related {M N : Type} (R : M → N → Prop) (a : Builder M) (b : Builder N) : Prop where
  text (value : String) : R (a.text value) (b.text value)
  prerendered (html : String) : R (a.prerendered html) (b.prerendered html)
  element (tag : String) (values : AttributeValues) {xs : List M} {ys : List N} :
    List.Forall₂ R xs ys → Agree R (a.element tag values xs) (b.element tag values ys)

namespace Node

variable {M N : Type} {R : M → N → Prop} {a : Builder M} {b : Builder N}

mutual

lemma rebuild_related (h : Builder.Related R a b) :
    (node : Node) → Agree R (node.rebuild a) (node.rebuild b)
  | .text value => by simpa only [rebuild] using .ok (h.text value)
  | .prerendered html => by simpa only [rebuild] using .ok (h.prerendered html)
  | .element tag attributes children => by
    simp only [rebuild]
    exact (rebuildAll_related h children).bind fun _ _ hc => h.element tag attributes.values hc

lemma rebuildAll_related (h : Builder.Related R a b) :
    (nodes : List Node) → Agree (List.Forall₂ R) (rebuildAll a nodes) (rebuildAll b nodes)
  | [] => by simpa only [rebuildAll] using .ok .nil
  | node :: nodes => by
    simp only [rebuildAll]
    refine (rebuild_related h node).bind fun _ _ hn => ?_
    exact (rebuildAll_related h nodes).bind fun _ _ hs => .ok (.cons hn hs)

end

lemma rebuildAll_eq_ok_iff {trees : List Node} {nodes : List N} :
    rebuildAll b trees = .ok nodes ↔ List.Forall₂ (fun tree node => tree.rebuild b = .ok node) trees nodes := by
  induction trees generalizing nodes with
  | nil => simp [rebuildAll, eq_comm]
  | cons tree trees ih =>
    rw [List.forall₂_cons_left_iff, rebuildAll]
    simp only [bind_eq_ok_iff, ih]
    constructor
    · rintro ⟨node, hn, rest, hr, he⟩
      exact ⟨node, rest, hn, hr, (Except.ok.inj he).symm⟩
    · rintro ⟨node, rest, hn, hr, rfl⟩
      exact ⟨node, hn, rest, hr, rfl⟩

end Node

end TemplateScript
