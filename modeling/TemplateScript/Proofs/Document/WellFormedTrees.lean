import Mathlib.Logic.Relation
import TemplateScript.Proofs.Document.Compaction
import TemplateScript.Proofs.Document.Representations

namespace TemplateScript

namespace Child

variable {N : Type}

mutual

def built : Child N → List N
  | .node n => [n]
  | .list items => builtAll items
  | _ => []

def builtAll : List (Child N) → List N
  | [] => []
  | child :: children => child.built ++ builtAll children

end

def Comes (b : Builder N) (given : List N) (node : N) : Prop :=
  node ∈ given ∨ (∃ value, node = b.text value) ∨ ∃ html, node = b.prerendered html

mutual

lemma nodes_comes (b : Builder N) : (child : Child N) → {nodes : List N} → child.nodes b = .ok nodes →
    ∀ node ∈ nodes, Comes b child.built node
  | .absent, _, h => by
    cases h
    simp
  | .text value, _, h => by
    cases h
    rw [List.forall_mem_singleton]
    exact .inr (.inl ⟨value, rfl⟩)
  | .number value, _, h => by
    cases h
    rw [List.forall_mem_singleton]
    exact .inr (.inl ⟨value.text, rfl⟩)
  | .safe html, _, h => by
    cases h
    rw [List.forall_mem_singleton]
    exact .inr (.inr ⟨html, rfl⟩)
  | .list items, _, h => by
    rw [nodes] at h
    rw [built]
    exact flatten_comes b items h
  | .node n, _, h => by
    cases h
    rw [List.forall_mem_singleton]
    exact .inl (by simp [built])
  | .invalid _, _, h => by cases h

lemma flatten_comes (b : Builder N) : (children : List (Child N)) → {nodes : List N} → flatten b children = .ok nodes →
    ∀ node ∈ nodes, Comes b (builtAll children) node
  | [], _, h => by
    cases h
    simp
  | child :: children, _, h => by
    rw [flatten] at h
    obtain ⟨first, hfirst, h⟩ := bind_eq_ok_iff.1 h
    obtain ⟨rest, hrest, heq⟩ := bind_eq_ok_iff.1 h
    cases heq
    rw [builtAll]
    intro node hnode
    rcases List.mem_append.1 hnode with hnode | hnode
    · exact (nodes_comes b child hfirst node hnode).imp_left (List.mem_append_left _)
    · exact (flatten_comes b children hrest node hnode).imp_left (List.mem_append_right _)

end

end Child

lemma checkTag_eq_ok_iff {tag : String} {hasChildren : Bool} :
    checkTag tag hasChildren = .ok () ↔ ¬ isComponentName tag ∧ (isVoidTag tag → hasChildren = false) := by
  unfold checkTag
  cases isComponentName tag <;> cases isVoidTag tag <;> cases hasChildren <;> simp

namespace Node

mutual

def WellFormed : Node → Prop
  | .text _ => True
  | .prerendered _ => True
  | .element tag _ children => ¬ isComponentName tag ∧ (isVoidTag tag → children = []) ∧ AllWellFormed children

def AllWellFormed : List Node → Prop
  | [] => True
  | node :: nodes => node.WellFormed ∧ AllWellFormed nodes

end

lemma allWellFormed_iff {nodes : List Node} : AllWellFormed nodes ↔ ∀ node ∈ nodes, node.WellFormed := by
  induction nodes with
  | nil => simp [AllWellFormed]
  | cons node nodes ih => rw [AllWellFormed, ih, List.forall_mem_cons]

lemma wellFormed_text (value : String) : (text value).WellFormed := by rw [WellFormed]; trivial

lemma wellFormed_prerendered (html : String) : (prerendered html).WellFormed := by rw [WellFormed]; trivial

lemma wellFormed_element_iff {tag : String} {attributes : Attributes} {children : List Node} :
    (element tag attributes children).WellFormed ↔
      checkTag tag (!children.isEmpty) = .ok () ∧ ∀ child ∈ children, child.WellFormed := by
  rw [WellFormed, checkTag_eq_ok_iff, allWellFormed_iff, Bool.not_eq_false', List.isEmpty_iff, and_assoc]

def Checks {N : Type} (b : Builder N) : Prop := ∀ tag values children,
  (∃ node, b.element tag values children = .ok node) ↔ checkTag tag (!children.isEmpty) = .ok ()

lemma checks_raw : Checks rawBuilder := by
  intro tag values children
  simp only [rawBuilder]
  cases checkTag tag (!children.isEmpty) with
  | error fault => exact iff_of_false (by rintro ⟨node, h⟩; cases h) (by simp)
  | ok u => exact iff_of_true ⟨_, rfl⟩ rfl

lemma checks_structured : Checks structuredBuilder := by
  intro tag values children
  simp only [structuredBuilder]
  cases checkTag tag (!children.isEmpty) with
  | error fault => exact iff_of_false (by rintro ⟨node, h⟩; cases h) (by simp)
  | ok u => exact iff_of_true ⟨_, rfl⟩ rfl

section Rebuild

variable {N : Type} {b : Builder N}

lemma rebuildAll_length (nodes : List Node) {built : List N} (h : rebuildAll b nodes = .ok built) :
    built.length = nodes.length := by
  induction nodes generalizing built with
  | nil =>
    cases h
    rfl
  | cons node nodes ih =>
    rw [rebuildAll] at h
    obtain ⟨first, -, h⟩ := bind_eq_ok_iff.1 h
    obtain ⟨rest, hrest, heq⟩ := bind_eq_ok_iff.1 h
    cases heq
    rw [List.length_cons, List.length_cons, ih hrest]

lemma rebuildAll_isEmpty {nodes : List Node} {built : List N} (h : rebuildAll b nodes = .ok built) :
    built.isEmpty = nodes.isEmpty := by
  rw [Bool.eq_iff_iff, List.isEmpty_iff_length_eq_zero, List.isEmpty_iff_length_eq_zero, rebuildAll_length nodes h]

mutual

lemma rebuild_ok_iff (hb : Checks b) : (tree : Node) → (∃ node, tree.rebuild b = .ok node) ↔ tree.WellFormed
  | .text value => iff_of_true ⟨_, by rw [rebuild]⟩ (wellFormed_text value)
  | .prerendered html => iff_of_true ⟨_, by rw [rebuild]⟩ (wellFormed_prerendered html)
  | .element tag attributes children => by
    rw [wellFormed_element_iff, ← rebuildAll_ok_iff hb children]
    simp only [rebuild, bind_eq_ok_iff]
    constructor
    · rintro ⟨node, built, hbuilt, hnode⟩
      refine ⟨?_, built, hbuilt⟩
      rw [← rebuildAll_isEmpty hbuilt]
      exact (hb tag attributes.values built).1 ⟨node, hnode⟩
    · rintro ⟨hcheck, built, hbuilt⟩
      rw [← rebuildAll_isEmpty hbuilt] at hcheck
      obtain ⟨node, hnode⟩ := (hb tag attributes.values built).2 hcheck
      exact ⟨node, built, hbuilt, hnode⟩

lemma rebuildAll_ok_iff (hb : Checks b) : (trees : List Node) →
    (∃ nodes, rebuildAll b trees = .ok nodes) ↔ ∀ tree ∈ trees, tree.WellFormed
  | [] => iff_of_true ⟨[], by rw [rebuildAll]⟩ (by simp)
  | tree :: trees => by
    rw [List.forall_mem_cons, ← rebuild_ok_iff hb tree, ← rebuildAll_ok_iff hb trees]
    simp only [rebuildAll, bind_eq_ok_iff]
    constructor
    · rintro ⟨nodes, node, hnode, rest, hrest, -⟩
      exact ⟨⟨node, hnode⟩, rest, hrest⟩
    · rintro ⟨⟨node, hnode⟩, rest, hrest⟩
      exact ⟨node :: rest, node, hnode, rest, hrest, rfl⟩

end

end Rebuild

lemma toHtml_ok_iff {tree : Node} : (∃ html, tree.toHtml = .ok html) ↔ tree.WellFormed := by
  rw [← rebuild_ok_iff checks_raw tree, toHtml]
  cases tree.rebuild rawBuilder <;> simp [Except.map]

section Operations

variable {tag : String} {values : AttributeValues} {tree result : Node}

lemma wellFormed_of_element {children : List Node} (hchildren : ∀ child ∈ children, child.WellFormed)
    (h : structuredBuilder.element tag values children = .ok result) : result.WellFormed := by
  rw [Representations.structured_element h, wellFormed_element_iff]
  exact ⟨(checks_structured tag values children).1 ⟨result, h⟩, hchildren⟩

lemma wellFormed_of_flatten {children : List (Child Node)} {nodes : List Node}
    (hchildren : ∀ node ∈ Child.builtAll children, node.WellFormed)
    (h : Child.flatten structuredBuilder children = .ok nodes) : ∀ node ∈ nodes, node.WellFormed := by
  intro node hnode
  rcases Child.flatten_comes structuredBuilder children h node hnode with hgiven | ⟨value, rfl⟩ | ⟨html, rfl⟩
  · exact hchildren node hgiven
  · exact wellFormed_text value
  · exact wellFormed_prerendered html

lemma wellFormed_of_addItems {children : List (Child Node)} (htree : tree.WellFormed)
    (hchildren : ∀ node ∈ Child.builtAll children, node.WellFormed) (h : tree.addItems values children = .ok result) :
    result.WellFormed := by
  cases tree with
  | text value => cases h
  | prerendered html => cases h
  | element tag attributes own =>
    simp only [addItems] at h
    split at h
    · cases h
    · next hvoid =>
      obtain ⟨added, hadded, heq⟩ := bind_eq_ok_iff.1 h
      cases heq
      obtain ⟨hcheck, hown⟩ := wellFormed_element_iff.1 htree
      rw [wellFormed_element_iff, List.forall_mem_append]
      refine ⟨?_, hown, wellFormed_of_flatten hchildren hadded⟩
      exact checkTag_eq_ok_iff.2 ⟨(checkTag_eq_ok_iff.1 hcheck).1, fun h => absurd h hvoid⟩

mutual

lemma WellFormed.compact : (tree : Node) → tree.WellFormed → tree.compact.WellFormed
  | .text value, _ => by simpa using wellFormed_text value
  | .prerendered html, _ => by simpa using wellFormed_prerendered html
  | .element tag attributes children, h => by
    rw [WellFormed, allWellFormed_iff] at h
    obtain ⟨hcomponent, hvoid, hchildren⟩ := h
    rw [compact_element, WellFormed, allWellFormed_iff]
    refine ⟨hcomponent, fun htag => ?_, fun node hnode => ?_⟩
    · rw [hvoid htag]
      rfl
    · rcases mem_joinTexts hnode with ⟨value, rfl⟩ | hnode
      · exact wellFormed_text value
      · exact WellFormed.compact_all children hchildren node hnode

lemma WellFormed.compact_all : (trees : List Node) → (∀ tree ∈ trees, tree.WellFormed) →
    ∀ node ∈ trees.map Node.compact, node.WellFormed
  | [], _ => by simp
  | tree :: trees, h => by
    rw [List.forall_mem_cons] at h
    rw [List.map_cons, List.forall_mem_cons]
    exact ⟨WellFormed.compact tree h.1, WellFormed.compact_all trees h.2⟩

end

end Operations

/-- One operation on trees, where `pool` are the trees that have been made so far. The trees among the children of an
operation have been made before or are well-formed by themselves; any tree may be built again. -/
inductive Step (pool : List Node) : List Node → Prop
  | text (value : String) : Step pool (structuredBuilder.text value :: pool)
  | prerendered (html : String) : Step pool (structuredBuilder.prerendered html :: pool)
  | element (tag : String) (values : AttributeValues) (children : List Node) {result : Node} :
    (∀ child ∈ children, child ∈ pool ∨ child.WellFormed) → structuredBuilder.element tag values children = .ok result →
      Step pool (result :: pool)
  | normalize (children : List (Child Node)) {nodes : List Node} :
    (∀ node ∈ Child.builtAll children, node ∈ pool ∨ node.WellFormed) →
      Child.flatten structuredBuilder children = .ok nodes → Step pool (nodes ++ pool)
  | addItems (tree : Node) (values : AttributeValues) (children : List (Child Node)) {result : Node} : tree ∈ pool →
    (∀ node ∈ Child.builtAll children, node ∈ pool ∨ node.WellFormed) → tree.addItems values children = .ok result →
      Step pool (result :: pool)
  | compact (tree : Node) : tree ∈ pool → Step pool (tree.compact :: pool)
  | rebuild (tree : Node) {result : Node} : tree.rebuild structuredBuilder = .ok result → Step pool (result :: pool)

lemma Step.wellFormed {pool pool' : List Node} (hpool : ∀ tree ∈ pool, tree.WellFormed) (h : Step pool pool') :
    ∀ tree ∈ pool', tree.WellFormed := by
  have hgiven {nodes : List Node} (h : ∀ node ∈ nodes, node ∈ pool ∨ node.WellFormed) : ∀ node ∈ nodes, node.WellFormed :=
    fun node hnode => (h node hnode).elim (hpool node) id
  cases h with
  | text value => exact List.forall_mem_cons.2 ⟨wellFormed_text value, hpool⟩
  | prerendered html => exact List.forall_mem_cons.2 ⟨wellFormed_prerendered html, hpool⟩
  | element tag values children hchildren hresult =>
    exact List.forall_mem_cons.2 ⟨wellFormed_of_element (hgiven hchildren) hresult, hpool⟩
  | normalize children hchildren hnodes =>
    exact List.forall_mem_append.2 ⟨wellFormed_of_flatten (hgiven hchildren) hnodes, hpool⟩
  | addItems tree values children htree hchildren hresult =>
    exact List.forall_mem_cons.2 ⟨wellFormed_of_addItems (hpool tree htree) (hgiven hchildren) hresult, hpool⟩
  | compact tree htree => exact List.forall_mem_cons.2 ⟨(hpool tree htree).compact, hpool⟩
  | rebuild tree hresult =>
    refine List.forall_mem_cons.2 ⟨?_, hpool⟩
    rw [Representations.rebuild_structured tree hresult]
    exact (rebuild_ok_iff checks_structured tree).1 ⟨_, hresult⟩

lemma wellFormed_of_steps {pool : List Node} (h : Relation.ReflTransGen Step [] pool) : ∀ tree ∈ pool, tree.WellFormed := by
  induction h with
  | refl => simp
  | tail _ hstep ih => exact hstep.wellFormed ih

/-- Whatever is made of nothing by operations on trees is well-formed, and the well-formed trees are those that have a
text. -/
theorem made_wellFormed :
    (∀ pool, Relation.ReflTransGen Step [] pool → ∀ tree ∈ pool, tree.WellFormed) ∧
    ∀ tree : Node, tree.WellFormed ↔ ∃ html, tree.toHtml = .ok html :=
  ⟨fun _ h => wellFormed_of_steps h, fun _ => toHtml_ok_iff.symm⟩

theorem made_wellFormed_paragraph :
    let attributes : Attributes := ⟨[("id", .text "u")], by decide⟩
    let paragraph : Node := .element "p" attributes [.element "br" ⟨[], by decide⟩ [], .text "ab"]
    ∃ pool, Relation.ReflTransGen Step [] pool ∧ paragraph ∈ pool ∧ paragraph.WellFormed ∧
      ∃ html, paragraph.toHtml = .ok html := by
  intro attributes paragraph
  let values : AttributeValues := ⟨[("id", .string "u")], by decide⟩
  let none : AttributeValues := ⟨[], by decide⟩
  let lineBreak : Node := .element "br" ⟨[], by decide⟩ []
  have hbreak : Step [] [lineBreak] := by
    refine .element "br" none [] (by simp) ?_
    rfl
  have hempty : Step [lineBreak] [.element "p" attributes [lineBreak], lineBreak] := by
    refine .element "p" values [lineBreak] (by simp) ?_
    rfl
  have hadded : Step [.element "p" attributes [lineBreak], lineBreak]
      [.element "p" attributes [lineBreak, .text "a", .text "b"], .element "p" attributes [lineBreak], lineBreak] := by
    refine .addItems _ none [.list [.text "a"], .text "b"] List.mem_cons_self (by simp [Child.builtAll, Child.built]) ?_
    rfl
  have hrun := (((Relation.ReflTransGen.single hbreak).tail hempty).tail hadded).tail (.compact _ List.mem_cons_self)
  have hwell := made_wellFormed.1 _ hrun paragraph List.mem_cons_self
  exact ⟨_, hrun, List.mem_cons_self, hwell, (made_wellFormed.2 paragraph).1 hwell⟩

end Node

end TemplateScript
