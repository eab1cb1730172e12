import TemplateScript.Document.AnyNode
import TemplateScript.Proofs.Document.Rendering

namespace TemplateScript

lemma LeafKind.extendAll_append {α : Type} (kind : LeafKind)
    (cs ds : List ((AttributeValues → AttributeValues) × (List α → List α))) (e : Extension α) :
    kind.extendAll (cs ++ ds) e = kind.extendAll cs e >>= kind.extendAll ds := by
  induction cs generalizing e with
  | nil => rfl
  | cons c cs ih =>
    rw [List.cons_append, extendAll_cons, extendAll_cons]
    cases kind.extend c.1 c.2 e with
    | error fault => rfl
    | ok extended => exact ih extended

lemma LeafKind.extendAll_singleton {α : Type} (kind : LeafKind)
    (c : (AttributeValues → AttributeValues) × (List α → List α)) (e : Extension α) :
    kind.extendAll [c] e = kind.extend c.1 c.2 e := by
  rw [extendAll_cons]
  exact bind_pure _

namespace StreamNode

variable {γ ε σ : Type}

def stage (sink : Sink γ ε σ) (x : StreamNode γ) : Staged γ ε σ := (x, x.render sink)

lemma stageAll_eq (sink : Sink γ ε σ) (xs : List (StreamNode γ)) : stageAll sink xs = xs.map (stage sink) := by
  induction xs with
  | nil => simp only [stageAll, List.map_nil]
  | cons x xs ih =>
    simp only [stageAll, ih]
    rfl

lemma renderAll_eq (sink : Sink γ ε σ) (xs : List (StreamNode γ)) :
    renderAll sink xs = renderStaged (xs.map (stage sink)) := by
  induction xs with
  | nil => simp only [renderAll, List.map_nil, renderStaged]
  | cons x xs ih =>
    simp only [renderAll, ih]
    rfl

def nodeChanges : StreamNode γ →
    List ((AttributeValues → AttributeValues) × (List (StreamNode γ) → List (StreamNode γ)))
  | .patched base attributes children => base.nodeChanges ++ [(attributes.apply, children.apply)]
  | _ => []

def extension (x : StreamNode γ) : Except Fault (Extension (StreamNode γ)) := x.kind.extendAll x.nodeChanges {}

lemma forall₂_stage (sink : Sink γ ε σ) {xs : List (StreamNode γ)} {ys : List (Staged γ ε σ)} :
    List.Forall₂ (fun x y => y = stage sink x) xs ys ↔ ys = xs.map (stage sink) := by
  induction xs generalizing ys with
  | nil => simp
  | cons x xs ih =>
    cases ys with
    | nil => simp
    | cons y ys => simp [ih]

lemma changes_eq (sink : Sink γ ε σ) (x : StreamNode γ) :
    List.Forall₂ (LeafKind.RelatedChange fun x y => y = stage sink x) x.nodeChanges (x.changes sink) := by
  cases x with
  | patched base attributes children =>
    obtain ⟨clear, before, after⟩ := children
    simp only [nodeChanges, changes, stageAll_eq]
    refine List.rel_append (changes_eq sink base) (.cons ⟨rfl, fun xs ys h => ?_⟩ .nil)
    rw [forall₂_stage] at h ⊢
    cases clear with
    | true => simp [ChildrenPatch.apply]
    | false => simp [ChildrenPatch.apply, h]
  | _ =>
    simp only [nodeChanges, changes]
    exact .nil

lemma render_eq (sink : Sink γ ε σ) (x : StreamNode γ) :
    x.render sink = match x.extension with
      | .ok e => x.leafBody sink (e.map (stage sink))
      | .error fault => sink.stop fault := by
  have he : Extension.Rel (fun x y => y = stage sink x) ({} : Extension (StreamNode γ)) {} := ⟨rfl, .none⟩
  have hx := LeafKind.extendAll_related x.kind (changes_eq sink x) he
  simp only [render, renderLeaf, extension]
  generalize x.kind.extendAll x.nodeChanges {} = y at hx ⊢
  generalize x.kind.extendAll (x.changes sink) {} = z at hx ⊢
  cases hx with
  | error fault => rfl
  | @ok e e' he =>
    obtain ⟨attributes, children⟩ := e
    obtain ⟨attributes', children'⟩ := e'
    obtain rfl : attributes = attributes' := he.attributes
    cases he.children with
    | none => rfl
    | some hs =>
      rw [forall₂_stage] at hs
      subst hs
      rfl

lemma map_stage_fst (sink : Sink γ ε σ) (e : Extension (StreamNode γ)) : (e.map (stage sink)).map Prod.fst = e := by
  obtain ⟨attributes, children⟩ := e
  cases children with
  | none => rfl
  | some nodes => simp [Extension.map, Function.comp_def, stage]

lemma getD_map_stage (sink : Sink γ ε σ) (e : Extension (StreamNode γ)) :
    (e.map (stage sink)).children.getD [] = (e.children.getD []).map (stage sink) := by
  obtain ⟨attributes, children⟩ := e
  cases children <;> rfl

def addAll (x : StreamNode γ) : List (AttributeValues × List (Child (StreamNode γ))) → Except Fault (StreamNode γ)
  | [] => .ok x
  | (values, children) :: rest => do
    let x ← x.addItems values children
    x.addAll rest

/-- Nodes over leaves `a` and `b` that have been changed alike, by nodes with the property `P`. -/
structure Over (P : StreamNode γ → Prop) (a b x y : StreamNode γ) : Prop where
  kind_eq : x.kind = y.kind
  nodeChanges_eq : x.nodeChanges = y.nodeChanges
  left {ε σ : Type} (sink : Sink γ ε σ) : x.leafBody sink = a.leafBody sink
  right {ε σ : Type} (sink : Sink γ ε σ) : y.leafBody sink = b.leafBody sink
  added : ∀ c ∈ x.nodeChanges, ∀ xs : List (StreamNode γ), (∀ x ∈ xs, P x) → ∀ x ∈ c.2 xs, P x

namespace Over

variable {P : StreamNode γ → Prop} {a b x y : StreamNode γ}

lemma addItems (h : Over P a b x y) (values : AttributeValues) {children : List (Child (StreamNode γ))}
    (hc : ∀ nodes, Child.flatten streamBuilder children = .ok nodes → ∀ x ∈ nodes, P x) :
    Agree (Over P a b) (x.addItems values children) (y.addItems values children) := by
  simp only [StreamNode.addItems, h.kind_eq]
  split
  · exact .error _
  · cases hf : Child.flatten streamBuilder children with
    | error fault => exact .error fault
    | ok nodes =>
      refine .ok ⟨h.kind_eq, ?_, fun sink => ?_, fun sink => ?_, ?_⟩
      · simp only [nodeChanges, h.nodeChanges_eq]
      · funext e
        simp only [leafBody, h.left]
      · funext e
        simp only [leafBody, h.right]
      · intro c hm xs hxs x hx
        rcases List.mem_append.1 hm with hm | hm
        · exact h.added c hm xs hxs x hx
        · obtain rfl := List.mem_singleton.1 hm
          rcases List.mem_append.1 hx with hx | hx
          · exact hxs x (by simpa using hx)
          · exact hc nodes hf x hx

lemma addAll (h : Over P a b x y) {changes : List (AttributeValues × List (Child (StreamNode γ)))}
    (hc : ∀ change ∈ changes, ∀ nodes, Child.flatten streamBuilder change.2 = .ok nodes → ∀ x ∈ nodes, P x) :
    Agree (Over P a b) (x.addAll changes) (y.addAll changes) := by
  induction changes generalizing x y with
  | nil => exact .ok h
  | cons change changes ih =>
    refine (h.addItems change.1 (hc change List.mem_cons_self)).bind fun _ _ h' => ?_
    exact ih h' fun change hm => hc change (List.mem_cons_of_mem _ hm)

lemma extension_eq (h : Over P a b x y) : x.extension = y.extension := by
  simp only [extension, h.kind_eq, h.nodeChanges_eq]

lemma of_mem_extension (h : Over P a b x y) {e : Extension (StreamNode γ)} (he : x.extension = .ok e) :
    ∀ node ∈ e.children.getD [], P node := by
  have hr : List.Forall₂ (LeafKind.RelatedChange fun x y => x = y ∧ P x) x.nodeChanges x.nodeChanges := by
    refine List.forall₂_same.2 fun c hm => ⟨rfl, fun xs ys hxs => ?_⟩
    obtain rfl : xs = ys := List.forall₂_eq_eq_eq ▸ hxs.imp fun _ _ h => h.1
    have hp := h.added c hm xs fun x hx => ((List.forall₂_same.1 hxs) x hx).2
    exact List.forall₂_same.2 fun x hx => ⟨rfl, hp x hx⟩
  have hstart : Extension.Rel (fun x y => x = y ∧ P x) ({} : Extension (StreamNode γ)) {} := ⟨rfl, .none⟩
  have hall := LeafKind.extendAll_related x.kind hr hstart
  simp only [extension] at he
  rw [he] at hall
  cases hall with
  | ok hall =>
    intro node hm
    exact (List.forall₂_same.1 (LeafKind.getD_related hall) node hm).2

end Over

end StreamNode

end TemplateScript
