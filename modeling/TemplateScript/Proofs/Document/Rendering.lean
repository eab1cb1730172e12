import Mathlib.Data.Option.Defs
import TemplateScript.Proofs.Document.Agreement

/-!
Rendering one node into two sinks. Whatever holds between the two sinks chunk by chunk, fault by fault and
leaf by leaf, and is kept when computations follow one another, holds between the two renderings.
-/

namespace TemplateScript

variable {α β γ δ ε ε' σ σ' : Type}

structure Extension.Rel (R : α → β → Prop) (e : Extension α) (e' : Extension β) : Prop where
  attributes : e.attributes = e'.attributes
  children : Option.Rel (List.Forall₂ R) e.children e'.children

inductive StreamNode.Rel (C : γ → δ → Prop) : StreamNode γ → StreamNode δ → Prop
  | text (escaped : String) : Rel C (.text escaped) (.text escaped)
  | prerendered (payload : Writing) : Rel C (.prerendered payload) (.prerendered payload)
  | element (tag : String) (attributes : Attributes) {xs : List (StreamNode γ)} {ys : List (StreamNode δ)} :
    List.Forall₂ (Rel C) xs ys → Rel C (.element tag attributes xs) (.element tag attributes ys)
  | generated (kind : LeafKind) {a : γ} {b : δ} : C a b → Rel C (.generated a kind) (.generated b kind)
  | patched (attributes : AttributePatch) (clear : Bool) {x : StreamNode γ} {y : StreamNode δ}
      {before after : List (StreamNode γ)} {before' after' : List (StreamNode δ)} :
    Rel C x y → List.Forall₂ (Rel C) before before' → List.Forall₂ (Rel C) after after' →
      Rel C (.patched x attributes ⟨clear, before, after⟩) (.patched y attributes ⟨clear, before', after'⟩)

/-- Two sinks whose operations are related. The relation is one between computations that is kept when
they follow one another. -/
structure Sink.Related (C : γ → δ → Prop) (R : EStateM ε σ Unit → EStateM ε' σ' Unit → Prop)
    (a : Sink γ ε σ) (b : Sink δ ε' σ') : Prop where
  done : R (pure ()) (pure ())
  seq {m k : EStateM ε σ Unit} {m' k' : EStateM ε' σ' Unit} :
    R m m' → R k k' → R (m >>= fun _ => k) (m' >>= fun _ => k')
  put (chunk : String) : R (a.put chunk) (b.put chunk)
  stop (fault : Fault) : R (a.stop fault) (b.stop fault)
  run {code : γ} {code' : δ} {e : Extension (StreamNode γ)} {e' : Extension (StreamNode δ)} :
    C code code' → e.Rel (StreamNode.Rel C) e' → R (a.run code e) (b.run code' e')

lemma isEmpty_eq {R : α → β → Prop} {xs : List α} {ys : List β} (h : List.Forall₂ R xs ys) :
    xs.isEmpty = ys.isEmpty := by
  cases h <;> rfl

namespace LeafKind

def RelatedChange (R : α → β → Prop) (c : (AttributeValues → AttributeValues) × (List α → List α))
    (d : (AttributeValues → AttributeValues) × (List β → List β)) : Prop :=
  c.1 = d.1 ∧ ∀ xs ys, List.Forall₂ R xs ys → List.Forall₂ R (c.2 xs) (d.2 ys)

lemma getD_related {R : α → β → Prop} {e : Extension α} {e' : Extension β} (he : e.Rel R e') :
    List.Forall₂ R (e.children.getD []) (e'.children.getD []) := by
  obtain ⟨attributes, children⟩ := e
  obtain ⟨attributes', children'⟩ := e'
  cases he.children with
  | none => exact .nil
  | some hc => exact hc

lemma extend_related {R : α → β → Prop} (kind : LeafKind)
    {c : (AttributeValues → AttributeValues) × (List α → List α)}
    {d : (AttributeValues → AttributeValues) × (List β → List β)} (hc : RelatedChange R c d)
    {e : Extension α} {e' : Extension β} (he : e.Rel R e') :
    Agree (Extension.Rel R) (kind.extend c.1 c.2 e) (kind.extend d.1 d.2 e') := by
  have hx := hc.2 _ _ (getD_related he)
  have hn := isEmpty_eq hx
  cases kind with
  | prerendered => exact .error _
  | text =>
    simp only [extend, ← hc.1, ← he.attributes, ← hn]
    split
    · exact .ok ⟨rfl, .some hx⟩
    · exact .error _
  | element tag =>
    simp only [extend, ← hc.1, ← he.attributes]
    split
    · exact .error _
    · exact .ok ⟨rfl, .some hx⟩

lemma extendAll_cons (kind : LeafKind) (c : (AttributeValues → AttributeValues) × (List α → List α))
    (cs : List ((AttributeValues → AttributeValues) × (List α → List α))) (e : Extension α) :
    kind.extendAll (c :: cs) e = kind.extend c.1 c.2 e >>= kind.extendAll cs := by
  simp only [extendAll]
  cases kind.extend c.1 c.2 e <;> rfl

lemma extendAll_related {R : α → β → Prop} (kind : LeafKind)
    {cs : List ((AttributeValues → AttributeValues) × (List α → List α))}
    {ds : List ((AttributeValues → AttributeValues) × (List β → List β))}
    (hc : List.Forall₂ (RelatedChange R) cs ds) {e : Extension α} {e' : Extension β} (he : e.Rel R e') :
    Agree (Extension.Rel R) (kind.extendAll cs e) (kind.extendAll ds e') := by
  induction hc generalizing e e' with
  | nil => exact .ok he
  | cons h _ ih =>
    rw [extendAll_cons, extendAll_cons]
    exact (extend_related kind h he).bind fun _ _ hr => ih hr

end LeafKind

namespace StreamNode

variable {C : γ → δ → Prop} {R : EStateM ε σ Unit → EStateM ε' σ' Unit → Prop} {a : Sink γ ε σ}
  {b : Sink δ ε' σ'}

lemma Rel.kind_eq {x : StreamNode γ} {y : StreamNode δ} (h : Rel C x y) : x.kind = y.kind := by
  match h with
  | .text _ | .prerendered _ | .element .. | .generated .. => rfl
  | .patched _ _ h _ _ => simpa only [kind] using h.kind_eq

mutual

lemma Rel.refl {C : γ → γ → Prop} (hC : ∀ code, C code code) : (x : StreamNode γ) → Rel C x x
  | .text escaped => .text escaped
  | .prerendered payload => .prerendered payload
  | .element tag attributes children => .element tag attributes (Rel.refl_all hC children)
  | .generated code kind => .generated kind (hC code)
  | .patched base attributes ⟨clear, before, after⟩ =>
    .patched attributes clear (Rel.refl hC base) (Rel.refl_all hC before) (Rel.refl_all hC after)

lemma Rel.refl_all {C : γ → γ → Prop} (hC : ∀ code, C code code) :
    (xs : List (StreamNode γ)) → List.Forall₂ (Rel C) xs xs
  | [] => .nil
  | x :: xs => .cons (Rel.refl hC x) (Rel.refl_all hC xs)

end

mutual

lemma Rel.eq : {x y : StreamNode γ} → Rel Eq x y → x = y
  | _, _, .text _ | _, _, .prerendered _ => rfl
  | _, _, .element _ _ hs => by rw [Rel.eq_all hs]
  | _, _, .generated _ hc => by rw [hc]
  | _, _, .patched _ _ h hb ha => by rw [Rel.eq h, Rel.eq_all hb, Rel.eq_all ha]

lemma Rel.eq_all : {xs ys : List (StreamNode γ)} → List.Forall₂ (Rel Eq) xs ys → xs = ys
  | _, _, .nil => rfl
  | _, _, .cons h hs => by rw [Rel.eq h, Rel.eq_all hs]

end

lemma extension_eq {e e' : Extension (StreamNode γ)} (h : e.Rel (Rel Eq) e') : e = e' := by
  obtain ⟨attributes, children⟩ := e
  obtain ⟨attributes', children'⟩ := e'
  obtain rfl : attributes = attributes' := h.attributes
  cases h.children with
  | none => rfl
  | some hs => rw [Rel.eq_all hs]

def StagedRel (C : γ → δ → Prop) (R : EStateM ε σ Unit → EStateM ε' σ' Unit → Prop) (x : Staged γ ε σ)
    (y : Staged δ ε' σ') : Prop :=
  Rel C x.1 y.1 ∧ R x.2 y.2

lemma putAll_related (h : Sink.Related C R a b) (chunks : List String) :
    R (a.putAll chunks) (b.putAll chunks) := by
  induction chunks with
  | nil => exact h.done
  | cons chunk chunks ih => exact h.seq (h.put chunk) ih

lemma putWriting_related (h : Sink.Related C R a b) (w : Writing) : R (a.putWriting w) (b.putWriting w) := by
  refine h.seq (putAll_related h w.chunks) ?_
  cases w.failure with
  | none => exact h.done
  | some fault => exact h.stop fault

lemma renderStaged_related (h : Sink.Related C R a b) {xs : List (Staged γ ε σ)} {ys : List (Staged δ ε' σ')}
    (hx : List.Forall₂ (StagedRel C R) xs ys) : R (renderStaged xs) (renderStaged ys) := by
  induction hx with
  | nil => exact h.done
  | cons hn _ ih => exact h.seq hn.2 ih

lemma renderElement_related (h : Sink.Related C R a b) (tag : String) (attributes : Attributes)
    {m : EStateM ε σ Unit} {m' : EStateM ε' σ' Unit} (hm : R m m') {e : Extension (Staged γ ε σ)}
    {e' : Extension (Staged δ ε' σ')} (he : e.Rel (StagedRel C R) e') :
    R (renderElement a tag attributes m e) (renderElement b tag attributes m' e') := by
  simp only [renderElement, he.attributes]
  refine h.seq (putAll_related h _) (h.seq hm (h.seq (renderStaged_related h (LeafKind.getD_related he)) ?_))
  split
  · exact h.done
  · exact putAll_related h _

lemma renderLeaf_related (h : Sink.Related C R a b) (kind : LeafKind) {cs : List (Change γ ε σ)}
    {ds : List (Change δ ε' σ')} (hc : List.Forall₂ (LeafKind.RelatedChange (StagedRel C R)) cs ds)
    {body : Extension (Staged γ ε σ) → EStateM ε σ Unit} {body' : Extension (Staged δ ε' σ') → EStateM ε' σ' Unit}
    (hb : ∀ e e', e.Rel (StagedRel C R) e' → R (body e) (body' e')) :
    R (renderLeaf a kind cs body) (renderLeaf b kind ds body') := by
  have he : Extension.Rel (StagedRel C R) {} {} := ⟨rfl, .none⟩
  have hx := LeafKind.extendAll_related kind hc he
  simp only [renderLeaf]
  generalize kind.extendAll cs {} = x at hx ⊢
  generalize kind.extendAll ds {} = y at hx ⊢
  cases hx with
  | ok he => exact hb _ _ he
  | error fault => exact h.stop fault

lemma map_fst_related {e : Extension (Staged γ ε σ)} {e' : Extension (Staged δ ε' σ')}
    (he : e.Rel (StagedRel C R) e') : (e.map Prod.fst).Rel (Rel C) (e'.map Prod.fst) := by
  obtain ⟨attributes, children⟩ := e
  obtain ⟨attributes', children'⟩ := e'
  refine ⟨he.attributes, ?_⟩
  cases he.children with
  | none => exact .none
  | some hc =>
    refine .some ?_
    rw [List.forall₂_map_left_iff, List.forall₂_map_right_iff]
    exact hc.imp fun _ _ h => h.1

mutual

lemma changes_related (h : Sink.Related C R a b) : {x : StreamNode γ} → {y : StreamNode δ} → Rel C x y →
    List.Forall₂ (LeafKind.RelatedChange (StagedRel C R)) (x.changes a) (y.changes b)
  | _, _, .text _ | _, _, .prerendered _ | _, _, .element .. | _, _, .generated .. => by
    simp only [changes]
    exact .nil
  | _, _, .patched attributes clear hx hbefore hafter => by
    have hs := stageAll_related h hbefore
    have ht := stageAll_related h hafter
    simp only [changes]
    refine List.rel_append (changes_related h hx) (.cons ⟨rfl, fun xs ys hxs => ?_⟩ .nil)
    refine List.rel_append (List.rel_append hs ?_) ht
    cases clear with
    | true => exact .nil
    | false => exact hxs

lemma leafBody_related (h : Sink.Related C R a b) : {x : StreamNode γ} → {y : StreamNode δ} → Rel C x y →
    ∀ e e', e.Rel (StagedRel C R) e' → R (x.leafBody a e) (y.leafBody b e')
  | _, _, .text escaped, _, _, _ => by simpa only [leafBody] using h.put escaped
  | _, _, .prerendered payload, _, _, _ => by simpa only [leafBody] using putWriting_related h payload
  | _, _, .element tag attributes hx, _, _, he => by
    simp only [leafBody]
    exact renderElement_related h tag attributes (renderAll_related h hx) he
  | _, _, .generated _ hc, _, _, he => by
    simp only [leafBody]
    exact h.run hc (map_fst_related he)
  | _, _, .patched _ _ hx _ _, _, _, he => by
    simp only [leafBody]
    exact leafBody_related h hx _ _ he

lemma renderAll_related (h : Sink.Related C R a b) : {xs : List (StreamNode γ)} → {ys : List (StreamNode δ)} →
    List.Forall₂ (Rel C) xs ys → R (renderAll a xs) (renderAll b ys)
  | _, _, .nil => by simpa only [renderAll] using h.done
  | _, _, .cons hx hxs => by
    simp only [renderAll, ← hx.kind_eq]
    exact h.seq (renderLeaf_related h _ (changes_related h hx) (leafBody_related h hx)) (renderAll_related h hxs)

lemma stageAll_related (h : Sink.Related C R a b) : {xs : List (StreamNode γ)} → {ys : List (StreamNode δ)} →
    List.Forall₂ (Rel C) xs ys → List.Forall₂ (StagedRel C R) (stageAll a xs) (stageAll b ys)
  | _, _, .nil => by
    simp only [stageAll]
    exact .nil
  | _, _, .cons hx hxs => by
    simp only [stageAll, ← hx.kind_eq]
    refine .cons ⟨hx, ?_⟩ (stageAll_related h hxs)
    exact renderLeaf_related h _ (changes_related h hx) (leafBody_related h hx)

end

theorem render_related (h : Sink.Related C R a b) {x : StreamNode γ} {y : StreamNode δ} (hx : Rel C x y) :
    R (x.render a) (y.render b) := by
  simp only [render, ← hx.kind_eq]
  exact renderLeaf_related h _ (changes_related h hx) (leafBody_related h hx)

end StreamNode

end TemplateScript
