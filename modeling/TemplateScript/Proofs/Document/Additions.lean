import TemplateScript.Proofs.Document.Children
import TemplateScript.Proofs.Document.Composition
import TemplateScript.Proofs.Document.Patches
import TemplateScript.Proofs.Document.WellFormedTrees

/-!
Adding to a tree and adding to the stream node that it is built again as. The tree merges and normalizes its attributes
at once, while the stream node keeps a patch and merges whenever it is rendered: both are refused alike, or they have the
same text.
-/

namespace TemplateScript

namespace Child

variable {M N : Type} {f : M → Except Fault N}

mutual

lemma mapNodes_of_built : (child : Child M) → (∀ x ∈ child.built, ∃ y, f x = .ok y) →
    ∃ mapped, child.mapNodes f = .ok mapped ∧ Child.Rel (fun x y => f x = .ok y) child mapped
  | .absent, _ => ⟨.absent, by rw [mapNodes], .absent⟩
  | .text value, _ => ⟨.text value, by rw [mapNodes], .text value⟩
  | .number value, _ => ⟨.number value, by rw [mapNodes], .number value⟩
  | .safe html, _ => ⟨.safe html, by rw [mapNodes], .safe html⟩
  | .invalid found, _ => ⟨.invalid found, by rw [mapNodes], .invalid found⟩
  | .node x, h => by
    obtain ⟨y, hy⟩ := h x (by simp [built])
    refine ⟨.node y, ?_, .node hy⟩
    rw [mapNodes, hy]
    rfl
  | .list items, h => by
    obtain ⟨mapped, hm, hr⟩ := mapAll_of_builtAll items (by simpa only [built] using h)
    refine ⟨.list mapped, ?_, .list hr⟩
    rw [mapNodes, hm]
    rfl

lemma mapAll_of_builtAll : (children : List (Child M)) → (∀ x ∈ builtAll children, ∃ y, f x = .ok y) →
    ∃ mapped, mapAll f children = .ok mapped ∧
      List.Forall₂ (Child.Rel fun x y => f x = .ok y) children mapped
  | [], _ => ⟨[], by rw [mapAll], .nil⟩
  | child :: children, h => by
    rw [builtAll, List.forall_mem_append] at h
    obtain ⟨first, hfirst, hf⟩ := mapNodes_of_built child h.1
    obtain ⟨rest, hrest, hr⟩ := mapAll_of_builtAll children h.2
    refine ⟨first :: rest, ?_, .cons hf hr⟩
    rw [mapAll, hfirst, hrest]
    rfl

end

end Child

lemma OrderedMap.empty_setAll {α : Type} (m : OrderedMap α) : OrderedMap.empty.setAll m = m :=
  OrderedMap.ext (Entries.setAll_nil_of_nodup m.nodup)

namespace StreamNode

variable {γ ε σ : Type}

lemma renderAll_append (sink : Sink γ ε σ) (xs ys : List (StreamNode γ)) :
    renderAll sink (xs ++ ys) = (do renderAll sink xs; renderAll sink ys) := by
  induction xs with
  | nil => simp only [List.nil_append, renderAll, pure_bind]
  | cons x xs ih => simp only [List.cons_append, renderAll_cons, ih, bind_assoc]

def adding (x : StreamNode γ) (values : AttributeValues) (nodes : List (StreamNode γ)) : StreamNode γ :=
  .patched x ⟨false, [], values⟩ ⟨false, [], nodes⟩

lemma extension_adding (x : StreamNode γ) (values : AttributeValues) (nodes : List (StreamNode γ)) :
    (x.adding values nodes).extension = x.extension >>= x.kind.extend (·.setAll values) (· ++ nodes) := by
  have hchanges : (x.adding values nodes).nodeChanges = x.nodeChanges ++ [((·.setAll values), (· ++ nodes))] := by
    have ha : AttributePatch.apply ⟨false, [], values⟩ = (·.setAll values) := rfl
    have hc : ChildrenPatch.apply ⟨false, [], nodes⟩ = (· ++ nodes) := rfl
    simp only [adding, nodeChanges, ha, hc]
  simp only [extension, hchanges, LeafKind.extendAll_append]
  rw [show (x.adding values nodes).kind = x.kind from rfl]
  exact bind_congr fun e => LeafKind.extendAll_singleton x.kind _ e

lemma render_adding_element (sink : Sink γ ε σ) {tag : String} (hvoid : isVoidTag tag = false) (attributes : Attributes)
    (own : List (StreamNode γ)) (values : AttributeValues) (nodes : List (StreamNode γ)) :
    ((StreamNode.element tag attributes own).adding values nodes).render sink =
      (StreamNode.element tag (attributes.merge values).normalize (own ++ nodes)).render sink := by
  have he : ((StreamNode.element tag attributes own).adding values nodes).extension =
      .ok ⟨some values, some nodes⟩ := by
    have hstart : (StreamNode.element tag attributes own).extension = .ok {} := rfl
    rw [extension_adding, hstart]
    simp [Bind.bind, Except.bind, kind, LeafKind.extend, hvoid, OrderedMap.empty_setAll]
  rw [render_eq, he, render_element]
  change renderElement sink tag attributes (renderAll sink own) _ = _
  simp only [renderElement, Extension.map, Option.map_some, Option.getD_some, Option.getD_none, ← renderAll_eq,
    shownAttributes, renderStaged, renderAll_append, bind_assoc, pure_bind]

end StreamNode

namespace Node

variable {γ : Type}

lemma rebuilt_related : Builder.Related
    (fun (tree : Node) (node : StreamNode γ) => tree.rebuild streamBuilder = .ok node) structuredBuilder streamBuilder where
  text value := by simp only [structuredBuilder, rebuild]
  prerendered html := by simp only [structuredBuilder, rebuild]
  element tag values xs ys h := by
    have hs (values : AttributeValues) : (streamBuilder : Builder (StreamNode γ)).element tag values ys = (do
      checkTag tag (!ys.isEmpty)
      return .element tag values.normalize ys) := rfl
    simp only [structuredBuilder, hs, isEmpty_eq h]
    cases hc : checkTag tag (!ys.isEmpty) with
    | error fault => exact .error fault
    | ok _ =>
      refine .ok ?_
      rw [rebuild, rebuildAll_eq_ok_iff.2 h]
      change streamBuilder.element tag values.normalize.values ys = _
      rw [hs, hc, Attributes.normalize_values]
      rfl

lemma addItems_rebuilt {tag : String} (hvoid : isVoidTag tag = false) {attributes : Attributes} {own : List Node}
    {node : StreamNode γ} (hnode : (Node.element tag attributes own).rebuild streamBuilder = .ok node)
    (values : AttributeValues) {children : List (Child Node)} {children' : List (Child (StreamNode γ))}
    (h : List.Forall₂ (Child.Rel fun tree node => tree.rebuild streamBuilder = .ok node) children children') :
    Agree (fun tree patched => ∃ built : StreamNode γ, tree.rebuild streamBuilder = .ok built ∧
        ∀ {ε σ : Type} (sink : Sink γ ε σ), patched.render sink = built.render sink)
      ((Node.element tag attributes own).addItems values children) (node.addItems values children') := by
  rw [rebuild] at hnode
  obtain ⟨own', hown, hnode⟩ := bind_eq_ok_iff.1 hnode
  obtain ⟨_, hcheck, hnode⟩ := bind_eq_ok_iff.1 hnode
  rw [Attributes.normalize_values] at hnode
  obtain rfl := Except.ok.inj hnode
  have hkind : (StreamNode.element tag attributes own').kind ≠ .prerendered := nofun
  simp only [Node.addItems, hvoid, Bool.false_eq_true, if_false, StreamNode.addItems, hkind]
  refine (Child.flatten_related rebuilt_related h).bind fun nodes nodes' hn => .ok ?_
  refine ⟨.element tag (attributes.merge values).normalize (own' ++ nodes'), ?_, fun sink => ?_⟩
  · have hcheck' : checkTag tag (!(own' ++ nodes').isEmpty) = .ok () :=
      checkTag_eq_ok_iff.2 ⟨(checkTag_eq_ok_iff.1 hcheck).1, by simp [hvoid]⟩
    rw [rebuild, rebuildAll_eq_ok_iff.2 (List.rel_append (rebuildAll_eq_ok_iff.1 hown) hn)]
    change (do checkTag tag (!(own' ++ nodes').isEmpty); return _) = _
    rw [hcheck', Attributes.normalize_values]
    rfl
  · exact StreamNode.render_adding_element sink hvoid attributes own' values nodes'

lemma toHtml_rebuild (call : Call) (tree : Node) :
    Agree (fun html node => ∀ store, node.materialize call store = .ok html store) tree.toHtml
      (tree.rebuild streamBuilder) := by
  have h := rebuild_related (StreamNode.raw_stream_related (Representations.accepts_writes call)) tree
  rw [toHtml]
  generalize tree.rebuild rawBuilder = raw at h ⊢
  generalize (tree.rebuild streamBuilder : Except Fault (StreamNode Value)) = stream at h ⊢
  cases h with
  | error fault => exact .error fault
  | ok hw => exact .ok (Representations.materialize_of_writes call hw)

lemma stream_of_toHtml (call : Call) {tree : Node} {text : String} (h : tree.toHtml = .ok text) :
    ∃ node : StreamNode Value, tree.rebuild streamBuilder = .ok node ∧
      ∀ store, node.materialize call store = .ok text store := by
  have hagree := toHtml_rebuild call tree
  rw [h] at hagree
  generalize (tree.rebuild streamBuilder : Except Fault (StreamNode Value)) = stream at hagree ⊢
  cases hagree with
  | ok hw => exact ⟨_, rfl, hw⟩

lemma toHtml_of_stream (call : Call) {tree : Node} {node : StreamNode Value} (h : tree.rebuild streamBuilder = .ok node) :
    ∃ text, tree.toHtml = .ok text ∧ ∀ store, node.materialize call store = .ok text store := by
  have hagree := toHtml_rebuild call tree
  rw [h] at hagree
  generalize tree.toHtml = html at hagree ⊢
  cases hagree with
  | ok hw => exact ⟨_, rfl, hw⟩

lemma addItems_texts (call : Call) {tag : String} (hvoid : isVoidTag tag = false) {attributes : Attributes}
    {own : List Node} {node : StreamNode Value}
    (hnode : (Node.element tag attributes own).rebuild streamBuilder = .ok node) (values : AttributeValues)
    {children : List (Child Node)} {children' : List (Child (StreamNode Value))}
    (h : List.Forall₂ (Child.Rel fun tree node => tree.rebuild streamBuilder = .ok node) children children') :
    Agree (fun tree patched => ∃ text, tree.toHtml = .ok text ∧
        ∀ store, patched.materialize call store = .ok text store)
      ((Node.element tag attributes own).addItems values children) (node.addItems values children') := by
  refine (addItems_rebuilt hvoid hnode values h).mono fun tree patched => ?_
  rintro ⟨built, hbuilt, hrender⟩
  obtain ⟨text, htext, hwrites⟩ := toHtml_of_stream call hbuilt
  refine ⟨text, htext, fun store => ?_⟩
  rw [← hwrites store, StreamNode.materialize, StreamNode.materialize, StreamNode.renderOutside, StreamNode.renderOutside,
    hrender]

lemma addItems_nothing {tag : String} (hvoid : isVoidTag tag = false) (attributes : Attributes) (own : List Node) :
    (Node.element tag attributes own).addItems .empty [] = .ok (.element tag attributes own) := by
  have hmerge : (attributes.merge .empty).normalize = attributes := attributes.normalize_values
  have hflat : Child.flatten structuredBuilder [] = .ok [] := by rw [Child.flatten]
  rw [addItems_element hvoid attributes own .empty hflat, hmerge, List.append_nil]

/-- Attributes and children are added to a tree and to the stream node that it is built again as with the same fault,
or the results have the same text. Where there is nothing to add, it is the text of the tree. -/
theorem addItems_rebuild_agrees (call : Call) {tag : String} (hvoid : isVoidTag tag = false) {attributes : Attributes}
    {own : List Node} {html : String} (htree : (Node.element tag attributes own).toHtml = .ok html)
    (values : AttributeValues) {children : List (Child Node)}
    (hchildren : ∀ tree ∈ Child.builtAll children, ∃ text, tree.toHtml = .ok text) :
    ∃ (node : StreamNode Value) (children' : List (Child (StreamNode Value))),
      (Node.element tag attributes own).rebuild streamBuilder = .ok node ∧
      Child.mapAll (Node.rebuild streamBuilder) children = .ok children' ∧
      Agree (fun tree patched => ∃ text, tree.toHtml = .ok text ∧
          ∀ store, patched.materialize call store = .ok text store)
        ((Node.element tag attributes own).addItems values children) (node.addItems values children') ∧
      (Node.element tag attributes own).addItems .empty [] = .ok (.element tag attributes own) ∧
      ∃ patched, node.addItems .empty [] = .ok patched ∧ ∀ store, patched.materialize call store = .ok html store := by
  obtain ⟨node, hnode, -⟩ := stream_of_toHtml call htree
  have hbuilt : ∀ tree ∈ Child.builtAll children, ∃ node : StreamNode Value, tree.rebuild streamBuilder = .ok node := by
    intro tree hm
    obtain ⟨text, ht⟩ := hchildren tree hm
    obtain ⟨node, hn, -⟩ := stream_of_toHtml call ht
    exact ⟨node, hn⟩
  obtain ⟨children', hmapped, hrel⟩ := Child.mapAll_of_builtAll children hbuilt
  have hsame := addItems_nothing hvoid attributes own
  refine ⟨node, children', hnode, hmapped, addItems_texts call hvoid hnode values hrel, hsame, ?_⟩
  have hnothing := addItems_texts call hvoid hnode .empty .nil
  rw [hsame] at hnothing
  generalize node.addItems .empty [] = result at hnothing ⊢
  cases hnothing with
  | ok hpatched =>
    obtain ⟨text, htext, hwrites⟩ := hpatched
    obtain rfl := Except.ok.inj (htext.symm.trans htree)
    exact ⟨_, rfl, hwrites⟩

theorem addItems_rebuild_agrees_paragraph :
    let call : Call := fun _ _ => pure .undefined
    let tree : Node := .element "p" ⟨[("id", .text "u"), ("title", .text "t")], by decide⟩ [.text "a"]
    let bold : Node := .element "b" ⟨[], by decide⟩ [.text "<"]
    let values : AttributeValues := ⟨[("id", .null), ("title", .string "v"), ("hidden", .bool true)], by decide⟩
    let children : List (Child Node) := [.list [.absent, .node bold, .list [.text "&"]], .safe "<hr>"]
    isVoidTag "p" = false ∧ tree.toHtml = .ok "<p id=\"u\" title=\"t\">a</p>" ∧ bold ∈ Child.builtAll children ∧
      bold.toHtml = .ok "<b>&lt;</b>" ∧ ∃ (node : StreamNode Value) (children' : List (Child (StreamNode Value)))
        (patched : StreamNode Value), tree.rebuild streamBuilder = .ok node ∧
        Child.mapAll (Node.rebuild streamBuilder) children = .ok children' ∧
        node.addItems values children' = .ok patched ∧ ∀ store, patched.materialize call store =
          .ok "<p title=\"v\" hidden>a<b>&lt;</b>&amp;<hr></p>" store := by
  intro call tree bold values children
  have htree : tree.toHtml = .ok "<p id=\"u\" title=\"t\">a</p>" := by decide +kernel
  have hbold : bold.toHtml = .ok "<b>&lt;</b>" := by decide +kernel
  have hbuilt : Child.builtAll children = [bold] := rfl
  have hchildren : ∀ tree ∈ Child.builtAll children, ∃ text, tree.toHtml = .ok text := by simp [hbuilt, hbold]
  refine ⟨by decide, htree, by simp [hbuilt], hbold, ?_⟩
  obtain ⟨node, children', hnode, hmapped, hagree, -⟩ := addItems_rebuild_agrees call
    (show isVoidTag "p" = false by decide) htree values hchildren
  refine ⟨node, children', ?_⟩
  let added : Node := .element "p" ⟨[("title", .text "v"), ("hidden", .bare)], by decide⟩
    [.text "a", bold, .text "&", .prerendered "<hr>"]
  have hadded : tree.addItems values children = .ok added := rfl
  have haddedText : added.toHtml = .ok "<p title=\"v\" hidden>a<b>&lt;</b>&amp;<hr></p>" := by decide +kernel
  rw [hadded] at hagree
  generalize node.addItems values children' = result at hagree ⊢
  cases hagree with
  | ok h =>
    obtain ⟨text, htext, hwrites⟩ := h
    obtain rfl := Except.ok.inj (htext.symm.trans haddedText)
    exact ⟨_, hnode, hmapped, rfl, hwrites⟩

end Node

end TemplateScript
