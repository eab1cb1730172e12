import TemplateScript.Proofs.Document.Compaction
import TemplateScript.Proofs.Document.Representations

namespace TemplateScript

section Html

def elementHtml (tag : String) (attributes : Attributes) (inner : String) : String :=
  "<" ++ tag ++ attributes.render ++ ">" ++ inner ++ (if isVoidTag tag then "" else "</" ++ tag ++ ">")

lemma rawBuilder_element (tag : String) (values : AttributeValues) (children : List RawNode) :
    rawBuilder.element tag values children = (checkTag tag (!children.isEmpty)).map fun _ =>
      ⟨elementHtml tag values.normalize (String.join (children.map RawNode.html))⟩ := by
  simp only [rawBuilder]
  cases checkTag tag (!children.isEmpty) <;> rfl

def htmlOf (raws : List RawNode) : String := String.join (raws.map RawNode.html)

lemma htmlOf_append (xs ys : List RawNode) : htmlOf (xs ++ ys) = htmlOf xs ++ htmlOf ys := by
  simp [htmlOf, String.join_append]

lemma htmlOf_cons (raw : RawNode) (raws : List RawNode) : htmlOf (raw :: raws) = raw.html ++ htmlOf raws :=
  String.join_cons

lemma escapeText_append (a b : String) : escapeText (a ++ b) = escapeText a ++ escapeText b := by
  simp [escapeText]

end Html

section Rebuilt

abbrev Rebuilt : List RawNode → List Node → Prop :=
  List.Forall₂ fun raw node => Node.rebuild rawBuilder node = .ok raw

lemma consText_rebuilt (value : String) {raws : List RawNode} {nodes : List Node} (h : Rebuilt raws nodes) :
    ∃ raws', Rebuilt raws' (Node.consText value nodes) ∧ htmlOf raws' = escapeText value ++ htmlOf raws := by
  have hcons : Rebuilt (⟨escapeText value⟩ :: raws) (.text value :: nodes) := by
    refine .cons ?_ h
    simp only [Node.rebuild]
    rfl
  cases nodes with
  | nil => exact ⟨_, hcons, htmlOf_cons _ _⟩
  | cons node nodes =>
    cases node with
    | text next =>
      cases h with
      | @cons raw _ raws _ hn hs =>
        simp only [Node.rebuild] at hn
        obtain rfl := Except.ok.inj hn
        refine ⟨⟨escapeText (value ++ next)⟩ :: raws, .cons ?_ hs, ?_⟩
        · simp only [Node.rebuild]
          rfl
        · simp only [htmlOf_cons, escapeText_append, String.append_assoc]
          rfl
    | prerendered html => exact ⟨_, hcons, htmlOf_cons _ _⟩
    | element tag attributes children => exact ⟨_, hcons, htmlOf_cons _ _⟩

lemma joinTexts_rebuilt {raws : List RawNode} {nodes : List Node} (h : Rebuilt raws nodes) :
    ∃ raws', Rebuilt raws' (Node.joinTexts nodes) ∧ htmlOf raws' = htmlOf raws ∧ (raws = [] → raws' = []) := by
  induction h with
  | nil => exact ⟨[], by simpa only [Node.joinTexts] using .nil, rfl, fun _ => rfl⟩
  | @cons raw node raws nodes hn hs ih =>
    obtain ⟨joined, hj, hhtml, -⟩ := ih
    have hne {raws' : List RawNode} (e : raw :: raws = []) : raws' = [] := absurd e (List.cons_ne_nil raw raws)
    cases node with
    | text value =>
      simp only [Node.rebuild] at hn
      obtain rfl := Except.ok.inj hn
      simp only [Node.joinTexts]
      split
      · subst value
        refine ⟨joined, hj, ?_, hne⟩
        rw [htmlOf_cons, hhtml]
        simp [rawBuilder, escapeText]
      · obtain ⟨raws', hr, hh⟩ := consText_rebuilt value hj
        exact ⟨raws', hr, by rw [hh, hhtml, htmlOf_cons]; rfl, hne⟩
    | prerendered html =>
      refine ⟨raw :: joined, ?_, by rw [htmlOf_cons, htmlOf_cons, hhtml], hne⟩
      simpa only [Node.joinTexts] using .cons hn hj
    | element tag attributes children =>
      refine ⟨raw :: joined, ?_, by rw [htmlOf_cons, htmlOf_cons, hhtml], hne⟩
      simpa only [Node.joinTexts] using .cons hn hj

lemma checkTag_of_fewer {tag : String} {xs ys : List RawNode} (h : checkTag tag (!xs.isEmpty) = .ok ())
    (hempty : xs = [] → ys = []) : checkTag tag (!ys.isEmpty) = .ok () := by
  cases xs with
  | nil => rwa [hempty rfl]
  | cons x xs =>
    simp only [checkTag, List.isEmpty_cons, Bool.not_false, Bool.true_and] at h ⊢
    split at h
    · cases h
    · split at h
      · cases h
      · simp_all

lemma rebuild_element_of_html {tag : String} {values : AttributeValues} {raws raws' : List RawNode} {raw : RawNode}
    (h : rawBuilder.element tag values raws = .ok raw) {nodes : List Node} (hn : Rebuilt raws' nodes)
    (hhtml : htmlOf raws' = htmlOf raws) (hempty : raws = [] → raws' = []) :
    Node.rebuild rawBuilder (.element tag values.normalize nodes) = .ok raw := by
  rw [rawBuilder_element] at h
  cases hc : checkTag tag (!raws.isEmpty) with
  | error fault =>
    rw [hc] at h
    cases h
  | ok u =>
    rw [hc] at h
    obtain rfl := Except.ok.inj h
    have hr : Node.rebuild rawBuilder (.element tag values.normalize nodes) =
        rawBuilder.element tag values.normalize.values raws' := by
      simp only [Node.rebuild, Node.rebuildAll_eq_ok_iff.2 hn.flip]
      rfl
    rw [hr, rawBuilder_element, checkTag_of_fewer hc hempty, Attributes.normalize_values]
    exact congrArg (fun html => Except.ok (⟨elementHtml tag values.normalize html⟩ : RawNode)) hhtml

mutual

lemma compact_rebuilt : (node : Node) → {raw : RawNode} → node.rebuild rawBuilder = .ok raw →
    node.compact.rebuild rawBuilder = .ok raw
  | .text _, _, h => by simpa only [Node.compact] using h
  | .prerendered _, _, h => by simpa only [Node.compact] using h
  | .element tag attributes children, raw, h => by
    simp only [Node.rebuild] at h
    obtain ⟨raws, hr, he⟩ := bind_eq_ok_iff.1 h
    obtain ⟨raws', hj, hhtml, hempty⟩ := joinTexts_rebuilt (compactAll_rebuilt children (Node.rebuildAll_eq_ok_iff.1 hr).flip)
    have hc := rebuild_element_of_html he hj hhtml hempty
    rw [Attributes.normalize_values] at hc
    simpa only [Node.compact] using hc

lemma compactAll_rebuilt : (nodes : List Node) → {raws : List RawNode} → Rebuilt raws nodes →
    Rebuilt raws (Node.compactAll nodes)
  | [], _, .nil => by
    simp only [Node.compactAll]
    exact .nil
  | node :: nodes, _, .cons hn hs => by
    simp only [Node.compactAll]
    exact .cons (compact_rebuilt node hn) (compactAll_rebuilt nodes hs)

end

end Rebuilt

namespace Node

section Shape

inductive Within (node : Node) : Node → Prop
  | self : Within node node
  | child {tag : String} {attributes : Attributes} {children : List Node} {child : Node} : child ∈ children →
    Within node child → Within node (.element tag attributes children)

lemma Within.compact_eq {node tree : Node} (h : node.Within tree) (hc : tree.compact = tree) : node.compact = node := by
  induction h with
  | self => exact hc
  | child hm _ ih => exact ih ((children_of_compact hc).2 _ hm)

lemma Joined.of_append {before nodes : List Node} (h : Joined (before ++ nodes)) : Joined nodes := by
  induction before with
  | nil => exact h
  | cons node before ih => exact ih h.tail

lemma Joined.empty_not_mem {nodes : List Node} (h : Joined nodes) : .text "" ∉ nodes := by
  intro hm
  obtain ⟨before, after, rfl⟩ := List.append_of_mem hm
  exact h.of_append.1 rfl

lemma Joined.not_adjacent {nodes : List Node} (h : Joined nodes) (s t : String) : ¬ [.text s, .text t] <:+: nodes := by
  rintro ⟨before, after, rfl⟩
  rw [List.append_assoc] at h
  exact h.of_append.2.1 t rfl

mutual

def withoutTexts : Node → Node
  | .element tag attributes children => .element tag attributes (dropTexts children)
  | node => node

def dropTexts : List Node → List Node
  | [] => []
  | .text _ :: nodes => dropTexts nodes
  | node :: nodes => node.withoutTexts :: dropTexts nodes

end

lemma dropTexts_consText (s : String) (nodes : List Node) : dropTexts (consText s nodes) = dropTexts nodes := by
  cases nodes with
  | nil => simp only [consText, dropTexts]
  | cons node nodes => cases node <;> simp only [consText, dropTexts]

lemma dropTexts_joinTexts (nodes : List Node) : dropTexts (joinTexts nodes) = dropTexts nodes := by
  induction nodes with
  | nil => rfl
  | cons node nodes ih =>
    cases node with
    | text s =>
      simp only [joinTexts, dropTexts]
      split
      · exact ih
      · rw [dropTexts_consText, ih]
    | prerendered html => simp only [joinTexts, dropTexts, ih]
    | element tag attributes children => simp only [joinTexts, dropTexts, ih]

mutual

lemma withoutTexts_compact : (node : Node) → node.compact.withoutTexts = node.withoutTexts
  | .text _ => by rw [compact_text]
  | .prerendered _ => by rw [compact_prerendered]
  | .element tag attributes children => by
    simp only [compact, withoutTexts, dropTexts_joinTexts, dropTexts_compactAll children]

lemma dropTexts_compactAll : (nodes : List Node) → dropTexts (compactAll nodes) = dropTexts nodes
  | [] => by simp only [compactAll]
  | .text s :: nodes => by simp only [compactAll, compact_text, dropTexts, dropTexts_compactAll nodes]
  | .prerendered html :: nodes => by
    simp only [compactAll, compact_prerendered, dropTexts, dropTexts_compactAll nodes]
  | .element tag attributes children :: nodes => by
    have hfirst := withoutTexts_compact (.element tag attributes children)
    simp only [compactAll, compact, dropTexts, dropTexts_compactAll nodes] at hfirst ⊢
    rw [hfirst]

end

end Shape

lemma toHtml_compact {tree : Node} {html : String} (h : tree.toHtml = .ok html) : tree.compact.toHtml = .ok html := by
  cases hr : tree.rebuild rawBuilder with
  | error fault =>
    rw [toHtml, hr] at h
    cases h
  | ok raw =>
    rw [toHtml, hr] at h
    rwa [toHtml, compact_rebuilt tree hr]

/-- Compacting a compacted tree changes nothing; no element in it has an empty text or two texts side by side among its
children; its elements, attributes and nodes other than texts are those of the tree, in the same places; and it has the
text of the tree. -/
theorem compact_canonical (tree : Node) :
    tree.compact.compact = tree.compact ∧
    (∀ tag attributes children, (Node.element tag attributes children).Within tree.compact →
      .text "" ∉ children ∧ ∀ s t, ¬ [.text s, .text t] <:+: children) ∧
    tree.compact.withoutTexts = tree.withoutTexts ∧
    ∀ html, tree.toHtml = .ok html → tree.compact.toHtml = .ok html := by
  refine ⟨tree.compact_compact, fun tag attributes children hw => ?_, tree.withoutTexts_compact, fun _ => toHtml_compact⟩
  have hj := (children_of_compact (hw.compact_eq tree.compact_compact)).1
  exact ⟨hj.empty_not_mem, hj.not_adjacent⟩

theorem compact_canonical_nested :
    let attributes : Attributes := ⟨[("title", .text "a\"")], by decide⟩
    let inner := Node.element "b" attributes [.text "", .text "x", .text "<"]
    let tree := Node.element "p" attributes [.text "a", .text "", .text "b", inner, .prerendered "<i>", .text "", .text "c"]
    let html := "<p title=\"a&quot;\">ab<b title=\"a&quot;\">x&lt;</b><i>c</p>"
    tree.toHtml = .ok html ∧ tree.compact.toHtml = .ok html ∧
    (Node.element "b" attributes [.text "x<"]).Within tree.compact ∧ .text "" ∉ [Node.text "x<"] := by
  intro attributes inner tree html
  obtain ⟨-, htexts, -, hhtml⟩ := compact_canonical tree
  have hb : (Node.element "b" attributes [.text "x<"]).Within tree.compact := by
    simp only [tree, inner, compact, compactAll, joinTexts, consText]
    exact .child (.tail _ (.head _)) .self
  have hrender : tree.toHtml = .ok html := by decide +kernel
  exact ⟨hrender, hhtml html hrender, hb, (htexts _ _ _ hb).1⟩

end Node

end TemplateScript
