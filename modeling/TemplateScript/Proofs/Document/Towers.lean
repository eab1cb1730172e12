import TemplateScript.Proofs.Document.Additions

/-! A leaf under changes that may be any functions renders by what the changes make of nothing, one after
the other. -/

namespace TemplateScript

lemma OrderedMap.isEmpty_iff {α : Type} {m : OrderedMap α} : m.isEmpty ↔ m = .empty := by
  rw [isEmpty, List.isEmpty_iff]
  exact ⟨fun h => OrderedMap.ext h, fun h => by rw [h]; rfl⟩

lemma OrderedMap.isEmpty_of_setAll {α : Type} {m new : OrderedMap α} (h : (m.setAll new).isEmpty) : m.isEmpty := by
  have hm (key : String) : Entries.get? key m.entries = none := by
    have hs := Entries.get?_setAll key m.entries new.nodup
    simp only [OrderedMap.isEmpty, OrderedMap.setAll, List.isEmpty_iff] at h
    simp only [h, Entries.get?, eq_comm (a := none), Option.or_eq_none_iff] at hs
    exact hs.2
  obtain ⟨entries, nodup⟩ := m
  cases entries with
  | nil => rfl
  | cons e es => simpa [Entries.get?] using hm e.1

namespace LeafKind

variable {α : Type}

def attributesAfter (changes : List ((AttributeValues → AttributeValues) × (List α → List α))) : AttributeValues :=
  changes.foldl (fun attributes change => change.1 attributes) .empty

def childrenAfter (changes : List ((AttributeValues → AttributeValues) × (List α → List α))) : List α :=
  changes.foldl (fun children change => change.2 children) []

/-- After some of the changes there are attributes or children, which later changes may take away again. -/
def AddSome (changes : List ((AttributeValues → AttributeValues) × (List α → List α))) : Prop :=
  ∃ i, 0 < i ∧ i ≤ changes.length ∧
    (attributesAfter (changes.take i) ≠ .empty ∨ childrenAfter (changes.take i) ≠ [])

variable {change : (AttributeValues → AttributeValues) × (List α → List α)}
  {changes : List ((AttributeValues → AttributeValues) × (List α → List α))}

lemma not_addSome_nil : ¬ AddSome ([] : List ((AttributeValues → AttributeValues) × (List α → List α))) := by
  rintro ⟨i, hpos, hle, -⟩
  exact absurd hpos (by simpa using hle)

lemma addSome_of_first (h : change.1 .empty ≠ .empty ∨ change.2 [] ≠ []) : AddSome (change :: changes) :=
  ⟨1, Nat.one_pos, by simp, by simpa [attributesAfter, childrenAfter] using h⟩

lemma addSome_cons_iff (ha : change.1 .empty = .empty) (hc : change.2 [] = []) :
    AddSome (change :: changes) ↔ AddSome changes := by
  have hattributes (i : Nat) : attributesAfter ((change :: changes).take (i + 1)) = attributesAfter (changes.take i) := by
    simp [attributesAfter, ha]
  have hchildren (i : Nat) : childrenAfter ((change :: changes).take (i + 1)) = childrenAfter (changes.take i) := by
    simp [childrenAfter, hc]
  constructor
  · rintro ⟨i, hpos, hle, h⟩
    obtain ⟨i, rfl⟩ := Nat.exists_eq_add_of_lt hpos
    rw [Nat.zero_add, hattributes, hchildren] at h
    refine ⟨i, Nat.pos_of_ne_zero ?_, by simpa using hle, h⟩
    rintro rfl
    simp [attributesAfter, childrenAfter] at h
  · rintro ⟨i, hpos, hle, h⟩
    exact ⟨i + 1, Nat.succ_pos i, by simpa using hle, by rwa [hattributes, hchildren]⟩

lemma extendAll_start (kind : LeafKind) (hne : changes ≠ []) :
    kind.extendAll changes {} = kind.extendAll changes ⟨some .empty, some []⟩ := by
  cases changes with
  | nil => exact absurd rfl hne
  | cons change changes => rfl

lemma extendAll_element {tag : String} (hvoid : isVoidTag tag = false)
    (changes : List ((AttributeValues → AttributeValues) × (List α → List α))) (attributes : AttributeValues)
    (children : List α) : (LeafKind.element tag).extendAll changes ⟨some attributes, some children⟩ =
      .ok ⟨some (changes.foldl (fun attributes change => change.1 attributes) attributes),
        some (changes.foldl (fun children change => change.2 children) children)⟩ := by
  induction changes generalizing attributes children with
  | nil => rfl
  | cons change changes ih =>
    have hextend : (LeafKind.element tag).extend change.1 change.2 ⟨some attributes, some children⟩ =
        .ok ⟨some (change.1 attributes), some (change.2 children)⟩ := by
      simp [extend, hvoid]
    rw [extendAll_cons, hextend, List.foldl_cons, List.foldl_cons]
    exact ih _ _

lemma extendAll_text (changes : List ((AttributeValues → AttributeValues) × (List α → List α))) :
    (AddSome changes → LeafKind.text.extendAll changes ⟨some .empty, some []⟩ = .error .notAnElement) ∧
    (¬ AddSome changes → LeafKind.text.extendAll changes ⟨some .empty, some []⟩ = .ok ⟨some .empty, some []⟩) := by
  induction changes with
  | nil => exact ⟨fun h => absurd h not_addSome_nil, fun _ => rfl⟩
  | cons change changes ih =>
    have hextend : LeafKind.text.extend change.1 change.2 ⟨some .empty, some []⟩ =
        if change.1 .empty = .empty ∧ change.2 [] = [] then .ok ⟨some (change.1 .empty), some (change.2 [])⟩
        else .error .notAnElement := by
      simp [extend, OrderedMap.isEmpty_iff]
    rw [extendAll_cons, hextend]
    split
    · next h =>
      -- The change made nothing of nothing, so the text goes on as it began.
      rw [addSome_cons_iff h.1 h.2, h.1, h.2]
      exact ih
    · next h => exact ⟨fun _ => rfl, fun hn => absurd (addSome_of_first (not_and_or.1 h)) hn⟩

lemma extendAll_refused {kind : LeafKind} {fault : Fault} (hne : changes ≠ [])
    (h : ∀ onAttributes onChildren (e : Extension α), kind.extend onAttributes onChildren e = .error fault)
    (e : Extension α) : kind.extendAll changes e = .error fault := by
  cases changes with
  | nil => exact absurd rfl hne
  | cons change changes => simp only [extendAll, h]

lemma extend_extend (kind : LeafKind) {onAttributes onAttributes' : AttributeValues → AttributeValues}
    {onChildren onChildren' : List α → List α} (ha : ∀ m, (onAttributes' m).isEmpty → m.isEmpty)
    (hc : ∀ xs, (onChildren' xs).isEmpty → xs.isEmpty) (e : Extension α) :
    (kind.extend onAttributes onChildren e >>= kind.extend onAttributes' onChildren') =
      kind.extend (fun m => onAttributes' (onAttributes m)) (fun xs => onChildren' (onChildren xs)) e := by
  cases kind with
  | prerendered => rfl
  | element tag =>
    simp only [extend]
    split
    · rfl
    · next hv => exact if_neg hv
  | text =>
    have ha' := ha (onAttributes (e.attributes.getD .empty))
    have hc' := hc (onChildren (e.children.getD []))
    simp only [extend]
    split
    · rfl
    · next hv =>
      rw [if_neg]
      · rfl
      · simp only [Bool.and_eq_true] at hv ⊢
        exact fun h => hv ⟨ha' h.1, hc' h.2⟩

def adding (values : AttributeValues) (nodes : List α) : (AttributeValues → AttributeValues) × (List α → List α) :=
  ((·.setAll values), (· ++ nodes))

lemma extendAll_adding_adding (kind : LeafKind)
    (changes : List ((AttributeValues → AttributeValues) × (List α → List α))) (values values' : AttributeValues)
    (nodes nodes' : List α) (e : Extension α) :
    kind.extendAll (changes ++ [adding values nodes] ++ [adding values' nodes']) e =
      kind.extendAll (changes ++ [adding (values.setAll values') (nodes ++ nodes')]) e := by
  have honce : adding (values.setAll values') (nodes ++ nodes') =
      (fun m => (m.setAll values).setAll values', fun xs => xs ++ nodes ++ nodes') := by
    simp only [adding, OrderedMap.setAll_setAll, List.append_assoc]
  rw [extendAll_append, extendAll_append, extendAll_append, bind_assoc]
  refine bind_congr fun e => ?_
  rw [extendAll_singleton, extendAll_singleton, honce, funext (extendAll_singleton kind (adding values' nodes'))]
  refine extend_extend kind (fun m => OrderedMap.isEmpty_of_setAll) (fun xs h => ?_) e
  simp_all [adding]

end LeafKind

open StreamNode (Change)

def StreamNode.isLeaf {γ : Type} : StreamNode γ → Bool
  | .patched .. => false
  | _ => true

/-- A leaf under changes, innermost first. The changes may be any functions, of which the patches of a stream node are
some. -/
structure Tower (γ ε σ : Type) where
  leaf : StreamNode γ
  changes : List (Change γ ε σ) := []
  isLeaf : leaf.isLeaf

namespace Tower

variable {γ ε σ : Type}

def kind (tower : Tower γ ε σ) : LeafKind := tower.leaf.kind

def cloneWith (tower : Tower γ ε σ) (change : Change γ ε σ) : Tower γ ε σ :=
  { tower with changes := tower.changes ++ [change] }

def cloneAll (tower : Tower γ ε σ) (changes : List (Change γ ε σ)) : Tower γ ε σ := changes.foldl cloneWith tower

def render (sink : Sink γ ε σ) (tower : Tower γ ε σ) : EStateM ε σ Unit :=
  StreamNode.renderLeaf sink tower.kind tower.changes (tower.leaf.leafBody sink)

lemma cloneAll_eq (tower : Tower γ ε σ) (changes : List (Change γ ε σ)) :
    tower.cloneAll changes = { tower with changes := tower.changes ++ changes } := by
  induction changes generalizing tower with
  | nil => simp [cloneAll]
  | cons change changes ih =>
    rw [cloneAll, List.foldl_cons, ← cloneAll, ih]
    simp [cloneWith]

end Tower

def StreamNode.tower {γ ε σ : Type} (sink : Sink γ ε σ) : StreamNode γ → Tower γ ε σ
  | .patched base attributes ⟨clear, before, after⟩ =>
    (base.tower sink).cloneWith (attributes.apply, ChildrenPatch.apply ⟨clear, stageAll sink before, stageAll sink after⟩)
  | .text escaped => { leaf := .text escaped, isLeaf := rfl }
  | .prerendered payload => { leaf := .prerendered payload, isLeaf := rfl }
  | .element tag attributes children => { leaf := .element tag attributes children, isLeaf := rfl }
  | .generated code kind => { leaf := .generated code kind, isLeaf := rfl }

namespace Tower

variable {γ ε σ : Type} (sink : Sink γ ε σ)

lemma of_node (x : StreamNode γ) : (x.tower sink).kind = x.kind ∧ (x.tower sink).changes = x.changes sink ∧
    (x.tower sink).leaf.leafBody sink = x.leafBody sink := by
  cases x with
  | patched base attributes children =>
    obtain ⟨hkind, hchanges, hbody⟩ := of_node base
    obtain ⟨clear, before, after⟩ := children
    refine ⟨hkind, ?_, ?_⟩
    · rw [StreamNode.tower, cloneWith, hchanges, StreamNode.changes]
    · rw [StreamNode.tower, cloneWith, hbody]
      funext e
      rw [StreamNode.leafBody]
  | _ => exact ⟨rfl, by simp only [StreamNode.tower, StreamNode.changes], rfl⟩

lemma render_node (x : StreamNode γ) : (x.tower sink).render sink = x.render sink := by
  obtain ⟨hkind, hchanges, hbody⟩ := of_node sink x
  rw [render, hkind, hchanges, hbody, StreamNode.render]

variable {tower : Tower γ ε σ}

lemma render_of_extendAll {e : Extension (StreamNode.Staged γ ε σ)} (h : tower.kind.extendAll tower.changes {} = .ok e) :
    tower.render sink = tower.leaf.leafBody sink e := by
  rw [render, StreamNode.renderLeaf, h]

lemma render_of_refused {fault : Fault} (h : tower.kind.extendAll tower.changes {} = .error fault) (s : σ) :
    tower.render sink s = .error (sink.fail fault) s := by
  rw [render, StreamNode.renderLeaf, h]
  rfl

section Kinds

open LeafKind

variable (hne : tower.changes ≠ [])
include hne

lemma render_element {tag : String} (hk : tower.kind = .element tag) (hvoid : isVoidTag tag = false) :
    tower.render sink = tower.leaf.leafBody sink
      ⟨some (attributesAfter tower.changes), some (childrenAfter tower.changes)⟩ := by
  refine render_of_extendAll sink ?_
  rw [hk, extendAll_start _ hne, extendAll_element hvoid]
  rfl

lemma render_void {tag : String} (hk : tower.kind = .element tag) (hvoid : isVoidTag tag) (s : σ) :
    tower.render sink s = .error (sink.fail (.voidElement tag)) s := by
  refine render_of_refused sink ?_ s
  rw [hk]
  exact extendAll_refused hne (fun _ _ _ => by simp [extend, hvoid]) _

lemma render_prerendered (hk : tower.kind = .prerendered) (s : σ) :
    tower.render sink s = .error (sink.fail .prerendered) s := by
  refine render_of_refused sink ?_ s
  rw [hk]
  exact extendAll_refused hne (fun _ _ _ => rfl) _

lemma render_text (hk : tower.kind = .text) :
    (AddSome tower.changes → ∀ s, tower.render sink s = .error (sink.fail .notAnElement) s) ∧
    (¬ AddSome tower.changes → tower.render sink = tower.leaf.leafBody sink ⟨some .empty, some []⟩) := by
  have hstart : tower.kind.extendAll tower.changes {} = LeafKind.text.extendAll tower.changes ⟨some .empty, some []⟩ := by
    rw [hk, extendAll_start _ hne]
  obtain ⟨hsome, hnone⟩ := extendAll_text tower.changes
  exact ⟨fun h => render_of_refused sink (hstart.trans (hsome h)), fun h => render_of_extendAll sink (hstart.trans (hnone h))⟩

end Kinds

open LeafKind in
/-- What a leaf under any changes renders, by the kind of the leaf. A failure leaves the sink as it was, and the kind is
that of the leaf. The nodes under patches are such towers. -/
theorem render_cloneAll {leaf : StreamNode γ} (hleaf : leaf.isLeaf) {changes : List (Change γ ε σ)} (hne : changes ≠ []) :
    let tower := cloneAll { leaf, isLeaf := hleaf } changes
    tower.kind = leaf.kind ∧
    (match leaf.kind with
      | .element tag =>
        if isVoidTag tag then ∀ s, tower.render sink s = .error (sink.fail (.voidElement tag)) s
        else tower.render sink = leaf.leafBody sink ⟨some (attributesAfter changes), some (childrenAfter changes)⟩
      | .prerendered => ∀ s, tower.render sink s = .error (sink.fail .prerendered) s
      | .text =>
        (AddSome changes → ∀ s, tower.render sink s = .error (sink.fail .notAnElement) s) ∧
        (¬ AddSome changes → tower.render sink = leaf.leafBody sink ⟨some .empty, some []⟩)) ∧
    ∀ x : StreamNode γ, (x.tower sink).kind = x.kind ∧ (x.tower sink).render sink = x.render sink := by
  rw [cloneAll_eq, List.nil_append]
  have hne : Tower.changes ⟨leaf, changes, hleaf⟩ ≠ [] := hne
  refine ⟨rfl, ?_, fun x => ⟨(of_node sink x).1, render_node sink x⟩⟩
  cases hk : leaf.kind with
  | element tag =>
    dsimp only
    split
    · next hvoid => exact render_void sink hne hk hvoid
    · next hvoid => exact render_element sink hne hk (Bool.eq_false_iff.2 hvoid)
  | prerendered => exact render_prerendered sink hne hk
  | text => exact render_text sink hne hk

def textSink : Sink Unit Fault String where
  write chunk out := out ++ chunk
  run _ _ := pure ()
  fail fault := fault

theorem render_cloneAll_leaves :
    let give : Change Unit Fault String := ((·.set "id" (.string "u")), id)
    let clear : Change Unit Fault String := (fun _ => .empty, id)
    let append : Change Unit Fault String := (id, (· ++ [StreamNode.stage textSink (.text "b")]))
    let text : Tower Unit Fault String := { leaf := .text "a", isLeaf := rfl }
    let element : Tower Unit Fault String :=
      { leaf := .element "p" ⟨[("title", .text "t")], by decide⟩ [.text "a"], isLeaf := rfl }
    let lineBreak : Tower Unit Fault String := { leaf := .element "br" ⟨[], by decide⟩ [], isLeaf := rfl }
    LeafKind.AddSome [give, clear] ∧ (text.cloneAll [give, clear]).render textSink "-" = .error .notAnElement "-" ∧
      (element.cloneAll [give, append, clear]).render textSink "-" = .ok () "-<p title=\"t\">ab</p>" ∧
      (lineBreak.cloneAll [(id, id)]).render textSink "-" = .error (.voidElement "br") "-" := by
  intro give clear append text element lineBreak
  have hadd : LeafKind.AddSome [give, clear] := by
    refine ⟨1, by decide, by decide, .inl fun h => ?_⟩
    simpa [LeafKind.attributesAfter, give, OrderedMap.set, OrderedMap.empty, Entries.set] using congrArg OrderedMap.entries h
  have htext := render_cloneAll textSink text.isLeaf (List.cons_ne_nil give [clear])
  have helement := render_cloneAll textSink element.isLeaf (List.cons_ne_nil give [append, clear])
  have hbreak := render_cloneAll textSink lineBreak.isLeaf (List.cons_ne_nil (id, id) [])
  refine ⟨hadd, htext.2.1.1 hadd "-", ?_, ?_⟩
  · have hrender : (element.cloneAll [give, append, clear]).render textSink = _ := helement.2.1
    rw [hrender]
    rfl
  · exact hbreak.2.1 "-"

end Tower

namespace StreamNode

variable {γ ε σ : Type} (sink : Sink γ ε σ)

def stagedBuilder : Builder (Staged γ ε σ) where
  text value := stage sink (streamBuilder.text value)
  prerendered html := stage sink (streamBuilder.prerendered html)
  element tag values children := do
    checkTag tag (!children.isEmpty)
    return (.element tag values.normalize (children.map Prod.fst),
      renderElement sink tag values.normalize (renderStaged children) {})

lemma stagedBuilder_related : Builder.Related (fun x y => y = stage sink x) streamBuilder (stagedBuilder sink) where
  text _ := rfl
  prerendered _ := rfl
  element tag values xs ys h := by
    obtain rfl := (forall₂_stage sink).1 h
    have hnodes : (xs.map (stage sink)).map Prod.fst = xs := by simp [Function.comp_def, stage]
    simp only [streamBuilder, streamBuilderWith, stagedBuilder, List.isEmpty_map, hnodes]
    refine (Agree.refl (R := Eq) _ fun _ => rfl).bind fun _ _ _ => .ok ?_
    rw [stage, render_element, renderAll_eq]

lemma stage_children (children : List (Child (StreamNode γ))) :
    ∃ staged, Child.mapAll (fun x => .ok (stage sink x)) children = .ok staged ∧
      List.Forall₂ (Child.Rel fun x y => y = stage sink x) children staged := by
  obtain ⟨staged, hstaged, hrel⟩ := Child.mapAll_of_builtAll (f := fun x => .ok (stage sink x)) children
    fun x _ => ⟨stage sink x, rfl⟩
  exact ⟨staged, hstaged, Child.Rel.mono_all (fun _ _ h => (Except.ok.inj h).symm) hrel⟩

end StreamNode

namespace Tower

open StreamNode (Staged stage renderLeaf stagedBuilder)

variable {γ ε σ : Type} (sink : Sink γ ε σ)

def addItems (tower : Tower γ ε σ) (values : AttributeValues) (children : List (Child (Staged γ ε σ))) :
    Except Fault (Tower γ ε σ) :=
  if tower.kind = .prerendered then .error .prerendered
  else do
    let added ← Child.flatten (stagedBuilder sink) children
    return tower.cloneWith (LeafKind.adding values added)

lemma addItems_node (x : StreamNode γ) (values : AttributeValues) (children : List (Child (StreamNode γ))) :
    (do (x.tower sink).addItems sink values (← Child.mapAll (fun y => .ok (stage sink y)) children)) =
      (x.addItems values children).map (StreamNode.tower sink) := by
  obtain ⟨staged, hstaged, hrel⟩ := StreamNode.stage_children sink children
  have hflat := Child.flatten_related (StreamNode.stagedBuilder_related sink) hrel
  rw [hstaged]
  change (x.tower sink).addItems sink values staged = _
  rw [addItems, StreamNode.addItems, (of_node sink x).1]
  split
  · rfl
  · generalize Child.flatten streamBuilder children = nodes at hflat ⊢
    generalize Child.flatten (stagedBuilder sink) staged = added at hflat ⊢
    cases hflat with
    | error fault => rfl
    | ok h =>
      obtain rfl := (StreamNode.forall₂_stage sink).1 h
      refine congrArg Except.ok ?_
      rw [StreamNode.tower, StreamNode.stageAll_eq, StreamNode.stageAll_eq]
      rfl

lemma renderLeaf_adding_adding (tower : Tower γ ε σ) (values values' : AttributeValues) (nodes nodes' : List (Staged γ ε σ))
    (body : Extension (Staged γ ε σ) → EStateM ε σ Unit) :
    renderLeaf sink tower.kind (tower.changes ++ [LeafKind.adding values nodes] ++ [LeafKind.adding values' nodes']) body =
      renderLeaf sink tower.kind (tower.changes ++ [LeafKind.adding (values.setAll values') (nodes ++ nodes')]) body := by
  rw [renderLeaf, renderLeaf, LeafKind.extendAll_adding_adding]

/-- Adding to a leaf under any changes, step by step or at once, is refused alike or makes towers that render alike, also
if the leaf did anything else with what it is given. Adding to a stream node is adding to its tower. -/
theorem render_addItems_addItems (tower : Tower γ ε σ) (values values' : AttributeValues)
    (children children' : List (Child (Staged γ ε σ))) :
    Agree (fun twice once => twice.leaf = tower.leaf ∧ once.leaf = tower.leaf ∧ twice.render sink = once.render sink ∧
        ∀ body, renderLeaf sink twice.kind twice.changes body = renderLeaf sink once.kind once.changes body)
      (do (← tower.addItems sink values children).addItems sink values' children')
      (tower.addItems sink (values.setAll values') (children ++ children')) ∧
    ∀ (x : StreamNode γ) (added : List (Child (StreamNode γ))),
      (do (x.tower sink).addItems sink values (← Child.mapAll (fun y => .ok (stage sink y)) added)) =
        (x.addItems values added).map (StreamNode.tower sink) ∧
      (x.tower sink).render sink = x.render sink := by
  refine ⟨?_, fun x added => ⟨addItems_node sink x values added, render_node sink x⟩⟩
  have hkind (change : Change γ ε σ) : (tower.cloneWith change).kind = tower.kind := rfl
  simp only [addItems]
  split
  · exact .error _
  · next hk =>
    rw [Child.flatten_append]
    cases Child.flatten (stagedBuilder sink) children with
    | error fault => exact .error fault
    | ok nodes =>
      cases Child.flatten (stagedBuilder sink) children' with
      | error fault =>
        simp only [Bind.bind, Except.bind, pure, Except.pure, hkind, hk, if_false]
        exact .error fault
      | ok nodes' =>
        simp only [Bind.bind, Except.bind, pure, Except.pure, hkind, hk, if_false]
        have hrender := renderLeaf_adding_adding sink tower values values' nodes nodes'
        exact .ok ⟨rfl, rfl, hrender _, hrender⟩

end Tower

end TemplateScript
