import TemplateScript.Proofs.Document.Rendering

namespace TemplateScript

variable {M M' N N' γ δ : Type}

inductive Child.Rel (R : M → N → Prop) : Child M → Child N → Prop
  | absent : Child.Rel R .absent .absent
  | text (value : String) : Child.Rel R (.text value) (.text value)
  | number (value : Number) : Child.Rel R (.number value) (.number value)
  | safe (html : String) : Child.Rel R (.safe html) (.safe html)
  | list {xs : List (Child M)} {ys : List (Child N)} :
    List.Forall₂ (Child.Rel R) xs ys → Child.Rel R (.list xs) (.list ys)
  | node {x : M} {y : N} : R x y → Child.Rel R (.node x) (.node y)
  | invalid (found : String) : Child.Rel R (.invalid found) (.invalid found)

namespace Child

variable {R : M → N → Prop} {S : M' → N' → Prop}

mutual

lemma Rel.comp {R' : N → N' → Prop} {T : M → N' → Prop} (h : ∀ x y z, R x y → R' y z → T x z) : {c : Child M} →
    {d : Child N} → {e : Child N'} → Child.Rel R c d → Child.Rel R' d e → Child.Rel T c e
  | _, _, _, .absent, .absent => .absent
  | _, _, _, .text value, .text _ => .text value
  | _, _, _, .number value, .number _ => .number value
  | _, _, _, .safe html, .safe _ => .safe html
  | _, _, _, .list hs, .list hs' => .list (Rel.comp_all h hs hs')
  | _, _, _, .node hx, .node hy => .node (h _ _ _ hx hy)
  | _, _, _, .invalid found, .invalid _ => .invalid found

lemma Rel.comp_all {R' : N → N' → Prop} {T : M → N' → Prop} (h : ∀ x y z, R x y → R' y z → T x z) :
    {cs : List (Child M)} → {ds : List (Child N)} → {es : List (Child N')} → List.Forall₂ (Child.Rel R) cs ds →
    List.Forall₂ (Child.Rel R') ds es → List.Forall₂ (Child.Rel T) cs es
  | _, _, _, .nil, .nil => .nil
  | _, _, _, .cons hc hcs, .cons hd hds => .cons (Rel.comp h hc hd) (Rel.comp_all h hcs hds)

end

mutual

lemma Rel.flip : {c : Child M} → {d : Child N} → Child.Rel R c d → Child.Rel (fun y x => R x y) d c
  | _, _, .absent => .absent
  | _, _, .text value => .text value
  | _, _, .number value => .number value
  | _, _, .safe html => .safe html
  | _, _, .list hs => .list (Rel.flip_all hs)
  | _, _, .node hx => .node hx
  | _, _, .invalid found => .invalid found

lemma Rel.flip_all : {cs : List (Child M)} → {ds : List (Child N)} → List.Forall₂ (Child.Rel R) cs ds →
    List.Forall₂ (Child.Rel fun y x => R x y) ds cs
  | _, _, .nil => .nil
  | _, _, .cons hc hcs => .cons (Rel.flip hc) (Rel.flip_all hcs)

end

mutual

lemma Rel.mono {R' : M → N → Prop} (h : ∀ x y, R x y → R' x y) : {c : Child M} → {d : Child N} →
    Child.Rel R c d → Child.Rel R' c d
  | _, _, .absent => .absent
  | _, _, .text value => .text value
  | _, _, .number value => .number value
  | _, _, .safe html => .safe html
  | _, _, .list hs => .list (Rel.mono_all h hs)
  | _, _, .node hx => .node (h _ _ hx)
  | _, _, .invalid found => .invalid found

lemma Rel.mono_all {R' : M → N → Prop} (h : ∀ x y, R x y → R' x y) : {cs : List (Child M)} →
    {ds : List (Child N)} → List.Forall₂ (Child.Rel R) cs ds → List.Forall₂ (Child.Rel R') cs ds
  | _, _, .nil => .nil
  | _, _, .cons hc hcs => .cons (Rel.mono h hc) (Rel.mono_all h hcs)

end

mutual

lemma mapNodes_ok : (c : Child M) → c.mapNodes .ok = .ok c
  | .absent | .text _ | .number _ | .safe _ | .invalid _ => by simp only [mapNodes]
  | .node _ => rfl
  | .list items => by
    simp only [mapNodes, mapAll_ok items]
    rfl

lemma mapAll_ok : (cs : List (Child M)) → mapAll .ok cs = .ok cs
  | [] => by simp only [mapAll]
  | c :: cs => by
    simp only [mapAll, mapNodes_ok c, mapAll_ok cs]
    rfl

end

mutual

lemma mapNodes_related {f : M → Except Fault M'} {g : N → Except Fault N'}
    (hf : ∀ x y, R x y → Agree S (f x) (g y)) : {c : Child M} → {d : Child N} → Child.Rel R c d →
    Agree (Child.Rel S) (c.mapNodes f) (d.mapNodes g)
  | _, _, .absent => by simpa only [mapNodes] using .ok .absent
  | _, _, .text value => by simpa only [mapNodes] using .ok (.text value)
  | _, _, .number value => by simpa only [mapNodes] using .ok (.number value)
  | _, _, .safe html => by simpa only [mapNodes] using .ok (.safe html)
  | _, _, .list hs => by
    simp only [mapNodes]
    exact (mapAll_related hf hs).bind fun _ _ h => .ok (.list h)
  | _, _, .node h => by
    simp only [mapNodes]
    exact (hf _ _ h).bind fun _ _ h => .ok (.node h)
  | _, _, .invalid found => by simpa only [mapNodes] using .ok (.invalid found)

lemma mapAll_related {f : M → Except Fault M'} {g : N → Except Fault N'}
    (hf : ∀ x y, R x y → Agree S (f x) (g y)) : {cs : List (Child M)} → {ds : List (Child N)} →
    List.Forall₂ (Child.Rel R) cs ds → Agree (List.Forall₂ (Child.Rel S)) (mapAll f cs) (mapAll g ds)
  | _, _, .nil => by simpa only [mapAll] using .ok .nil
  | _, _, .cons h hs => by
    simp only [mapAll]
    refine (mapNodes_related hf h).bind fun _ _ hc => ?_
    exact (mapAll_related hf hs).bind fun _ _ hcs => .ok (.cons hc hcs)

end

mutual

lemma nodes_related {a : Builder M} {b : Builder N} (h : Builder.Related R a b) : {c : Child M} →
    {d : Child N} → Child.Rel R c d → Agree (List.Forall₂ R) (c.nodes a) (d.nodes b)
  | _, _, .absent => by simpa only [nodes] using .ok .nil
  | _, _, .text value => by simpa only [nodes] using .ok (.cons (h.text value) .nil)
  | _, _, .number value => by simpa only [nodes] using .ok (.cons (h.text _) .nil)
  | _, _, .safe html => by simpa only [nodes] using .ok (.cons (h.prerendered html) .nil)
  | _, _, .list hs => by simpa only [nodes] using flatten_related h hs
  | _, _, .node hn => by simpa only [nodes] using .ok (.cons hn .nil)
  | _, _, .invalid found => by simpa only [nodes] using .error _

lemma flatten_related {a : Builder M} {b : Builder N} (h : Builder.Related R a b) : {cs : List (Child M)} →
    {ds : List (Child N)} → List.Forall₂ (Child.Rel R) cs ds →
    Agree (List.Forall₂ R) (flatten a cs) (flatten b ds)
  | _, _, .nil => by simpa only [flatten] using .ok .nil
  | _, _, .cons hc hcs => by
    simp only [flatten]
    refine (nodes_related h hc).bind fun _ _ hx => ?_
    exact (flatten_related h hcs).bind fun _ _ hy => .ok (List.rel_append hx hy)

end

end Child

lemma flatten_nodes_eq {b : Builder M} (ms : List M) : Child.flatten b (ms.map .node) = .ok ms := by
  induction ms with
  | nil => rfl
  | cons m ms ih =>
    simp only [List.map_cons, Child.flatten, ih]
    rfl

inductive AnyNode.Rel (C : γ → δ → Prop) : AnyNode γ → AnyNode δ → Prop
  | structured (node : Node) : AnyNode.Rel C (.structured node) (.structured node)
  | stream {x : StreamNode γ} {y : StreamNode δ} : x.Rel C y → AnyNode.Rel C (.stream x) (.stream y)
  | raw (node : RawNode) : AnyNode.Rel C (.raw node) (.raw node)

lemma streamBuilder_related (C : γ → δ → Prop) :
    Builder.Related (StreamNode.Rel C) streamBuilder streamBuilder where
  text value := .text _
  prerendered html := .prerendered _
  element tag values _ _ hs := by
    simp only [streamBuilder, streamBuilderWith, isEmpty_eq hs]
    exact (Agree.refl (R := Eq) _ fun _ => rfl).bind fun _ _ _ => .ok (.element tag _ hs)

lemma Builder.related_self (b : Builder N) : Builder.Related Eq b b where
  text _ := rfl
  prerendered _ := rfl
  element tag values xs ys hs := by
    obtain rfl : xs = ys := List.forall₂_eq_eq_eq ▸ hs
    exact .refl _ fun _ => rfl

namespace AnyNode

variable {C : γ → δ → Prop}

lemma toStructured_related {x : AnyNode γ} {y : AnyNode δ} (h : AnyNode.Rel C x y) :
    Agree Eq x.toStructured y.toStructured := by
  cases h with
  | structured node => exact .ok rfl
  | _ => exact .error _

lemma toStream_related {x : AnyNode γ} {y : AnyNode δ} (h : AnyNode.Rel C x y) :
    Agree (StreamNode.Rel C) x.toStream y.toStream := by
  cases h with
  | stream h => exact .ok h
  | _ => exact .error _

lemma toRaw_related {x : AnyNode γ} {y : AnyNode δ} (h : AnyNode.Rel C x y) : Agree Eq x.toRaw y.toRaw := by
  cases h with
  | raw node => exact .ok rfl
  | _ => exact .error _

variable {α β : Type} {S : α → β → Prop} {read : α → Child (AnyNode γ)} {read' : β → Child (AnyNode δ)}

lemma readAll_related {R : M → N → Prop} {f : AnyNode γ → Except Fault M} {g : AnyNode δ → Except Fault N}
    (hf : ∀ x y, AnyNode.Rel C x y → Agree R (f x) (g y))
    (hr : ∀ x y, S x y → Child.Rel (AnyNode.Rel C) (read x) (read' y)) {xs : List α} {ys : List β}
    (hs : List.Forall₂ S xs ys) :
    Agree (List.Forall₂ (Child.Rel R)) (Child.readAll read f xs) (Child.readAll read' g ys) := by
  rw [Child.readAll_eq_mapAll, Child.readAll_eq_mapAll]
  refine Child.mapAll_related hf ?_
  rw [List.forall₂_map_left_iff, List.forall₂_map_right_iff]
  exact hs.imp hr

lemma build_related (r : Representation) {make : {N : Type} → Builder N → (AnyNode γ → Except Fault N) → Except Fault N}
    {make' : {N : Type} → Builder N → (AnyNode δ → Except Fault N) → Except Fault N}
    (h : ∀ {M N : Type} {R : M → N → Prop} {a : Builder M} {b : Builder N} {f : AnyNode γ → Except Fault M}
      {g : AnyNode δ → Except Fault N}, Builder.Related R a b → (∀ x y, AnyNode.Rel C x y → Agree R (f x) (g y)) →
      Agree R (make a f) (make' b g)) :
    Agree (AnyNode.Rel C) (build streamBuilder r make) (build streamBuilder r make') := by
  cases r with
  | structured =>
    exact (h (Builder.related_self _) fun _ _ => toStructured_related).map fun _ _ e => e ▸ .structured _
  | stream => exact (h (streamBuilder_related C) fun _ _ => toStream_related).map fun _ _ => .stream
  | raw => exact (h (Builder.related_self _) fun _ _ => toRaw_related).map fun _ _ e => e ▸ .raw _

lemma element_related (r : Representation) (tag : String) (values : AttributeValues)
    (hr : ∀ x y, S x y → Child.Rel (AnyNode.Rel C) (read x) (read' y)) {xs : List α} {ys : List β}
    (hs : List.Forall₂ S xs ys) :
    Agree (AnyNode.Rel C) (element streamBuilder r tag values read xs)
      (element streamBuilder r tag values read' ys) := by
  refine build_related r fun h hf => (readAll_related hf hr hs).bind fun _ _ hc => ?_
  exact (Child.flatten_related h hc).bind fun _ _ hn => h.element tag values hn

lemma normalize_related (r : Representation) (hr : ∀ x y, S x y → Child.Rel (AnyNode.Rel C) (read x) (read' y))
    {xs : List α} {ys : List β} (hs : List.Forall₂ S xs ys) :
    Agree (List.Forall₂ (AnyNode.Rel C)) (normalize streamBuilder r read xs)
      (normalize streamBuilder r read' ys) := by
  cases r with
  | structured =>
    refine (readAll_related (fun _ _ => toStructured_related) hr hs).bind fun _ _ hc => ?_
    refine (Child.flatten_related (Builder.related_self _) hc).bind fun xs ys hn => .ok ?_
    rw [List.forall₂_map_left_iff, List.forall₂_map_right_iff]
    exact hn.imp fun _ _ e => e ▸ .structured _
  | stream =>
    refine (readAll_related (fun _ _ => toStream_related) hr hs).bind fun _ _ hc => ?_
    refine (Child.flatten_related (streamBuilder_related C) hc).bind fun xs ys hn => .ok ?_
    rw [List.forall₂_map_left_iff, List.forall₂_map_right_iff]
    exact hn.imp fun _ _ => .stream
  | raw =>
    refine (readAll_related (fun _ _ => toRaw_related) hr hs).bind fun _ _ hc => ?_
    refine (Child.flatten_related (Builder.related_self _) hc).bind fun xs ys hn => .ok ?_
    rw [List.forall₂_map_left_iff, List.forall₂_map_right_iff]
    exact hn.imp fun _ _ e => e ▸ .raw _

end AnyNode

lemma Node.addItems_related (node : Node) (values : AttributeValues) {cs ds : List (Child Node)}
    (hs : List.Forall₂ (Child.Rel Eq) cs ds) : Agree Eq (node.addItems values cs) (node.addItems values ds) := by
  cases node with
  | element tag attributes own =>
    simp only [addItems]
    split
    · exact .error _
    · refine (Child.flatten_related (Builder.related_self _) hs).bind fun xs ys hn => ?_
      obtain rfl : xs = ys := List.forall₂_eq_eq_eq ▸ hn
      exact .ok rfl
  | _ => exact .error _

lemma AnyNode.addItems_related {C : γ → δ → Prop} {x : AnyNode γ} {y : AnyNode δ} (h : AnyNode.Rel C x y)
    (values : AttributeValues) {cs : List (Child (AnyNode γ))} {ds : List (Child (AnyNode δ))}
    (hs : List.Forall₂ (Child.Rel (AnyNode.Rel C)) cs ds) :
    Agree (AnyNode.Rel C) (x.addItems values cs) (y.addItems values ds) := by
  cases h with
  | structured node =>
    refine (Child.mapAll_related (R := AnyNode.Rel C) (fun _ _ => toStructured_related) hs).bind fun _ _ hc => ?_
    exact (node.addItems_related values hc).bind fun _ _ e => e ▸ .ok (.structured _)
  | stream hx =>
    refine (Child.mapAll_related (fun _ _ => toStream_related) hs).bind fun _ _ hc => ?_
    refine Agree.bind (R := StreamNode.Rel C) ?_ fun _ _ h => .ok (.stream h)
    simp only [StreamNode.addItems, hx.kind_eq]
    split
    · exact .error _
    · refine (Child.flatten_related (streamBuilder_related C) hc).bind fun _ _ hn => ?_
      exact .ok (.patched _ _ hx .nil hn)
  | raw node =>
    refine (Child.mapAll_related (R := AnyNode.Rel C) (fun _ _ => toRaw_related) hs).bind fun _ _ hc => ?_
    exact .error _

end TemplateScript
