import TemplateScript.Proofs.Document.WellFormedTrees
import TemplateScript.Proofs.Template.TemplateCode

namespace TemplateScript

open Evaluation

namespace StreamNode

variable {p : Pairing} {s s' u : Store} {x y : StreamNode Value}

lemma renderOutside_append {n : Nat} (out : String) {written : String} :
    x.renderOutside (· ++ ·) (callWithin n) (s, out) = .ok () (u, written) ↔
      ∃ text, x.renderOutside (· ++ ·) (callWithin n) (s, "") = .ok () (u, text) ∧ written = out ++ text := by
  have h := congrFun (gather_append (callWithin n) x out "") s
  rw [String.append_empty] at h
  simp only [← gather_eq_ok, h, Bind.bind, EStateM.bind]
  cases gather (x.renderOutside (· ++ ·) (callWithin n)) "" s with
  | error halt u => simp
  | ok text u => simp [Pure.pure, EStateM.pure, and_comm, eq_comm]

lemma renderOutside_yields_iff (hs : Store.Match p s s') (hxy : x.Rel (Value.Match p) y) {out written : String} :
    (∃ u, Yields (fun n => x.renderOutside (· ++ ·) (callWithin n)) (s, out) () (u, written)) ↔
      ∃ u, Yields (fun n => y.renderOutside (· ++ ·) (callWithin n)) (s', out) () (u, written) := by
  have hend (n : Nat) := (renderOutside_follows (callWithin_follows n) hxy out s s' hs).sameEnd
  constructor
  · rintro ⟨u, n, h⟩
    have he := hend n
    rw [gather_eq_ok.2 h] at he
    generalize hy : gather (y.renderOutside (· ++ ·) (callWithin n)) out s' = result at he
    cases he with
    | ok _ _ u' => exact ⟨u', n, gather_eq_ok.1 hy⟩
  · rintro ⟨u, n, h⟩
    have he := hend n
    rw [gather_eq_ok.2 h] at he
    generalize hx : gather (x.renderOutside (· ++ ·) (callWithin n)) out s = result at he
    cases he with
    | ok _ u' _ => exact ⟨u', n, gather_eq_ok.1 hx⟩

lemma mayPut_of_iff {text? : Option String} (h : ∀ {t out written}, Store.Grows none s' t →
      ((∃ u, Yields (fun n => x.renderOutside (· ++ ·) (callWithin n)) (s, out) () (u, written)) ↔
        ∃ u, Yields (fun n => y.renderOutside (· ++ ·) (callWithin n)) (t, out) () (u, written)))
    (hx : MayPut s text? fun n => x.renderOutside (· ++ ·) (callWithin n)) :
    MayPut s' text? fun n => y.renderOutside (· ++ ·) (callWithin n) := by
  cases text? with
  | none =>
    refine ⟨renderOutside_steady y, fun t out st ht hy => ?_⟩
    obtain ⟨u, hu⟩ := (h ht).2 ⟨st.1, hy⟩
    exact hx.2 s out _ (.refl _ _) hu
  | some text =>
    refine ⟨renderOutside_steady y, fun t out ht => ?_⟩
    obtain ⟨u, -, hu⟩ := hx.2 s out (.refl _ _)
    obtain ⟨u', n, hn⟩ := (h ht).1 ⟨u, hu⟩
    exact ⟨u', (renderOutside_grows n y).of_ok hn, n, hn⟩

lemma mayPut_iff (hs : Store.Match p s s') (hxy : x.Rel (Value.Match p) y) (text? : Option String) :
    (MayPut s text? fun n => x.renderOutside (· ++ ·) (callWithin n)) ↔
      MayPut s' text? fun n => y.renderOutside (· ++ ·) (callWithin n) :=
  ⟨mayPut_of_iff fun ht => renderOutside_yields_iff (hs.grow (.refl _ _) ht) hxy,
    mayPut_of_iff fun ht => (renderOutside_yields_iff (hs.grow ht (.refl _ _)) hxy).symm⟩

lemma exists_mayPut (hs : s.Closed) (hxy : x.Rel (Value.Match (.same s)) y) :
    ∃ text?, MayPut s text? fun n => y.renderOutside (· ++ ·) (callWithin n) := by
  have hlater {t : Store} (ht : Store.Grows none s t) : Store.Match (.same s) s t := hs.match.grow (.refl _ _) ht
  -- Whether the node has a text is told where nothing is written before it.
  by_cases h : ∃ text u, Yields (fun n => x.renderOutside (· ++ ·) (callWithin n)) (s, "") () (u, text)
  · obtain ⟨text, h⟩ := h
    refine ⟨some text, renderOutside_steady y, fun t out ht => ?_⟩
    obtain ⟨u, n, hn⟩ := (renderOutside_yields_iff (hlater ht) hxy).1 h
    have hn := (renderOutside_append out).2 ⟨text, hn, rfl⟩
    exact ⟨u, (renderOutside_grows n y).of_ok hn, n, hn⟩
  · refine ⟨none, renderOutside_steady y, fun t out st ht hy => h ?_⟩
    obtain ⟨u, n, hn⟩ := (renderOutside_yields_iff (hlater ht) hxy).2 ⟨st.1, hy⟩
    obtain ⟨text, hn, -⟩ := (renderOutside_append out).1 hn
    exact ⟨text, u, n, hn⟩

end StreamNode

/-- The nodes that the target takes for children: those of its representation, and of trees the well-formed ones. -/
def AnyNode.Valid : Representation → AnyNode Value → Prop
  | .structured, .structured tree => tree.WellFormed
  | .stream, .stream _ => True
  | .raw, .raw _ => True
  | _, _ => False

section Sights

variable {M : Type} {b₀ : Builder M} {S : Store → M → AnyNode Value → Prop} {text : M → Option String}
  {r : Representation}

def Covered {N : Type} (L : N → AnyNode Value → Prop) (S : Store → M → AnyNode Value → Prop) : Prop :=
  ∀ ⦃s n node node'⦄, s.Closed → AnyNode.Rel (Value.Match (.same s)) node node' → L n node → ∃ m, S s m node'

structure Sight (r : Representation) (b₀ : Builder M) (S : Store → M → AnyNode Value → Prop)
    (text : M → Option String) : Prop where
  view {c : Config} : c.target = r → View c b₀ S
  leaves : Leaves S S
  hasTexts (s : Store) : HasTexts s b₀ (S s) text
  valid : Covered (fun (_ : Unit) node => node.Valid r) S

lemma exists_sight (r : Representation) : ∃ (M : Type) (b₀ : Builder M) (S : Store → M → AnyNode Value → Prop)
    (text : M → Option String), Sight r b₀ S text := by
  cases r with
  | structured =>
    refine ⟨_, _, _, _, fun h => h ▸ .texts, ⟨id, fun _ hn => ?_⟩, hasTexts_shown .structured, fun _ _ _ _ _ hn hv => ?_⟩
    · cases hn <;> simp [Shown, Trees]
    · cases hn with
      | structured tree =>
        obtain ⟨raw, hraw⟩ := (Node.rebuild_ok_iff Node.checks_raw tree).2 hv
        exact ⟨raw, tree, rfl, hraw⟩
      | stream => exact hv.elim
      | raw => exact hv.elim
  | raw =>
    refine ⟨_, _, _, _, fun h => h ▸ .texts, ⟨id, fun _ hn => ?_⟩, hasTexts_shown .raw, fun _ _ _ _ _ hn hv => ?_⟩
    · cases hn <;> simp [Shown]
    · cases hn with
      | raw raw => exact ⟨raw, rfl⟩
      | stream => exact hv.elim
      | structured => exact hv.elim
  | stream =>
    refine ⟨_, _, _, _, fun h => .streams h streamView_written, ⟨id, fun hs hn => ?_⟩, hasTexts_written,
      fun _ _ _ _ hs hn hv => ?_⟩
    · cases hn with
      | stream hxy => simpa [Written] using StreamNode.mayPut_iff hs hxy _
      | structured => simp [Written]
      | raw => simp [Written]
    · cases hn with
      | stream hxy =>
        obtain ⟨text?, h⟩ := StreamNode.exists_mayPut hs hxy
        exact ⟨text?, _, rfl, h⟩
      | structured => exact hv.elim
      | raw => exact hv.elim

end Sights

section Suiting

variable {M N : Type} {L : N → AnyNode Value → Prop} {S : Store → M → AnyNode Value → Prop} {V : String → Bool} {c : Config}

mutual

lemma Child.Rel.exists_left {R : N → AnyNode Value → Prop} {T : M → AnyNode Value → Prop}
    (h : ∀ n node, R n node → ∃ m, T m node) : {child : Child N} → {x : Child (AnyNode Value)} → Child.Rel R child x →
    ∃ child' : Child M, Child.Rel T child' x
  | _, _, .absent => ⟨_, .absent⟩
  | _, _, .text value => ⟨_, .text value⟩
  | _, _, .number value => ⟨_, .number value⟩
  | _, _, .safe html => ⟨_, .safe html⟩
  | _, _, .list hs =>
    have ⟨_, hs⟩ := Child.Rel.exists_left_all h hs
    ⟨_, .list hs⟩
  | _, _, .node hn =>
    have ⟨_, hn⟩ := h _ _ hn
    ⟨_, .node hn⟩
  | _, _, .invalid found => ⟨_, .invalid found⟩

lemma Child.Rel.exists_left_all {R : N → AnyNode Value → Prop} {T : M → AnyNode Value → Prop}
    (h : ∀ n node, R n node → ∃ m, T m node) : {children : List (Child N)} → {xs : List (Child (AnyNode Value))} →
    List.Forall₂ (Child.Rel R) children xs → ∃ children' : List (Child M), List.Forall₂ (Child.Rel T) children' xs
  | _, _, .nil => ⟨[], .nil⟩
  | _, _, .cons hc hcs =>
    have ⟨_, hc⟩ := Child.Rel.exists_left h hc
    have ⟨_, hcs⟩ := Child.Rel.exists_left_all h hcs
    ⟨_, .cons hc hcs⟩

end

mutual

lemma Template.SuitsIn.inStores (h : Covered L S) : (template : Template) → template.isProper V c.support = true →
    {s : Store} → {scope : Scope} → Context c s scope → template.SuitsIn (fun _ => L) s scope → template.SuitsIn S s scope
  | .plain e, _, s, scope, hset, hsuits => by
    intro v t hv
    obtain ⟨child, hc⟩ := hsuits v t hv
    obtain ⟨ht, hin⟩ := hv.closed hset.closed hset.inStore
    have hc : Child.Rel (fun _ node => ∃ m, S t m node) child v.toChild := by
      refine hc.comp (fun n node node' hl hn => ?_) hin.toChild_related
      exact h ht hn hl
    exact hc.exists_left fun _ _ hm => hm
  | .markup node, hp, s, scope, hset, hsuits => by
    rw [Template.isProper] at hp
    exact TemplateNode.SuitsIn.inStores h node hp hset hsuits
  | .array items, hp, s, scope, hset, hsuits => by
    rw [Template.isProper] at hp
    exact Template.AllSuitIn.inStores h items hp hset hsuits
  | .conditional test consequent alternate, hp, s, scope, hset, hsuits => by
    simp only [Template.isProper, Bool.and_eq_true] at hp
    intro v t hv
    have hbranch := hsuits v t hv
    split at hbranch
    · next htruthy =>
      rw [if_pos htruthy]
      exact Template.SuitsIn.inStores h consequent hp.1.2 hset hbranch
    · next htruthy =>
      rw [if_neg htruthy]
      exact Template.SuitsIn.inStores h alternate hp.2 hset hbranch
  | .map source param body, hp, s, scope, hset, hsuits => by
    simp only [Template.isProper, Bool.and_eq_true] at hp
    intro v t hv
    obtain ⟨hown, hitems⟩ := hsuits v t hv
    obtain ⟨ht, hin⟩ := hv.closed hset.closed hset.inStore
    refine ⟨hown, fun identity items hv' item hi => ?_⟩
    subst hv'
    have hitem : item.In t := by
      cases hin with
      | array _ hs => exact List.forall₂_same.1 hs item hi
    exact Template.SuitsIn.inStores h body hp.2 ((hset.later hv.grows ht).enter (by simpa using hp.1.2) hitem)
      (hitems identity items rfl item hi)

lemma Template.AllSuitIn.inStores (h : Covered L S) : (items : List Template) →
    Template.areProper V c.support items = true → {s : Store} → {scope : Scope} → Context c s scope →
    Template.AllSuitIn (fun _ => L) items s scope → Template.AllSuitIn S items s scope
  | [], _, _, _, _, _ => trivial
  | item :: items, hp, s, scope, hset, hsuits => by
    rw [Template.areProper, Bool.and_eq_true] at hp
    exact ⟨Template.SuitsIn.inStores h item hp.1 hset hsuits.1, Template.AllSuitIn.inStores h items hp.2 hset hsuits.2⟩

lemma TemplateNode.SuitsIn.inStores (h : Covered L S) : (node : TemplateNode) → node.isProper V c.support = true →
    {s : Store} → {scope : Scope} → Context c s scope → node.Suits L s scope → node.SuitsIn S s scope
  | .text _, _, _, _, _, _ => trivial
  | .empty, _, _, _, _, _ => trivial
  | .container value, hp, s, scope, hset, hsuits => by
    rw [TemplateNode.isProper] at hp
    exact Template.SuitsIn.inStores h value hp hset hsuits
  | .fragment children, hp, s, scope, hset, hsuits => by
    rw [TemplateNode.isProper] at hp
    exact TemplateNode.AllSuitIn.inStores h children hp hset hsuits
  | .element tag attributes children _, hp, s, scope, hset, hsuits => by
    rw [TemplateNode.isProper, Bool.and_eq_true, Bool.and_eq_true] at hp
    exact ⟨hsuits.1, TemplateNode.AllSuitIn.inStores h children hp.2 hset hsuits.2⟩

lemma TemplateNode.AllSuitIn.inStores (h : Covered L S) : (nodes : List TemplateNode) →
    TemplateNode.areProper V c.support nodes = true → {s : Store} → {scope : Scope} → Context c s scope →
    TemplateNode.AllSuit L nodes s scope → TemplateNode.AllSuitIn S nodes s scope
  | [], _, _, _, _, _ => trivial
  | node :: nodes, hp, s, scope, hset, hsuits => by
    rw [TemplateNode.areProper, Bool.and_eq_true] at hp
    exact ⟨TemplateNode.SuitsIn.inStores h node hp.1 hset hsuits.1, TemplateNode.AllSuitIn.inStores h nodes hp.2 hset hsuits.2⟩

end

end Suiting

end TemplateScript
