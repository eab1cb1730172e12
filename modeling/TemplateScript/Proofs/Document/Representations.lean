import TemplateScript.Evaluation.Render
import TemplateScript.Proofs.Document.Agreement
import TemplateScript.Proofs.Document.Attributes

namespace TemplateScript

namespace StreamNode

variable {γ ε σ : Type}

lemma render_element (sink : Sink γ ε σ) (tag : String) (attributes : Attributes)
    (children : List (StreamNode γ)) :
    render sink (.element tag attributes children) =
      renderElement sink tag attributes (renderAll sink children) {} := rfl

lemma renderAll_cons (sink : Sink γ ε σ) (node : StreamNode γ) (nodes : List (StreamNode γ)) :
    renderAll sink (node :: nodes) = (do render sink node; renderAll sink nodes) := by
  simp only [renderAll]
  rfl

end StreamNode

section Texts

variable {γ ε σ ι : Type}

/-- A notion of computations that write a text into a sink: it holds of writing chunks, and of one computation
after the other. The computations may depend on a parameter. -/
structure Sink.Accepts (sink : ι → Sink γ ε σ) (P : String → (ι → EStateM ε σ Unit) → Prop) : Prop where
  putAll (chunks : List String) : P (String.join chunks) fun i => (sink i).putAll chunks
  seq {a b : String} {m k : ι → EStateM ε σ Unit} : P a m → P b k → P (a ++ b) fun i => m i >>= fun _ => k i

variable {sink : ι → Sink γ ε σ} {P : String → (ι → EStateM ε σ Unit) → Prop}

lemma Sink.Accepts.empty (h : Sink.Accepts sink P) : P "" fun _ => pure () := by
  simpa [Sink.putAll] using h.putAll []

lemma Sink.Accepts.put (h : Sink.Accepts sink P) (chunk : String) : P chunk fun i => (sink i).put chunk := by
  simpa [Sink.putAll] using h.putAll [chunk]

namespace StreamNode

lemma renderAll_writes (h : Sink.Accepts sink P) {texts : List RawNode} {nodes : List (StreamNode γ)}
    (hn : List.Forall₂ (fun raw node => P raw.html fun i => node.render (sink i)) texts nodes) :
    P (String.join (texts.map RawNode.html)) fun i => renderAll (sink i) nodes := by
  induction hn with
  | nil => simpa [renderAll] using h.empty
  | cons hx _ ih =>
    simp only [renderAll_cons, List.map_cons, String.join_cons]
    exact h.seq hx ih

lemma element_writes (h : Sink.Accepts sink P) (tag : String) (attributes : Attributes) {texts : List RawNode}
    {nodes : List (StreamNode γ)}
    (hn : List.Forall₂ (fun raw node => P raw.html fun i => node.render (sink i)) texts nodes) :
    P ("<" ++ tag ++ attributes.render ++ ">" ++ String.join (texts.map RawNode.html) ++
        (if isVoidTag tag then "" else "</" ++ tag ++ ">"))
      fun i => (StreamNode.element tag attributes nodes).render (sink i) := by
  have hopen := h.putAll ["<", tag, attributes.render, ">"]
  have hclose : P (if isVoidTag tag then "" else "</" ++ tag ++ ">")
      fun i => if isVoidTag tag then pure () else (sink i).putAll ["</", tag, ">"] := by
    split
    · exact h.empty
    · simpa [String.join_cons, String.append_assoc] using h.putAll ["</", tag, ">"]
  have hall := h.seq hopen (h.seq (renderAll_writes h hn) (h.seq h.empty hclose))
  simpa [String.join_cons, String.append_assoc, render_element, renderElement, shownAttributes, renderStaged]
    using hall

lemma raw_stream_related (h : Sink.Accepts sink P) :
    Builder.Related (fun raw node => P raw.html fun i => node.render (sink i)) rawBuilder streamBuilder where
  text value := h.put (escapeText value)
  prerendered html := by
    have hw (i : ι) : (StreamNode.prerendered ⟨[html], none⟩ : StreamNode γ).render (sink i) = (sink i).put html := by
      simp only [render, renderLeaf, kind, changes, LeafKind.extendAll, leafBody, Sink.putWriting, Sink.putAll, bind_pure_unit]
    simp only [rawBuilder, streamBuilder, streamBuilderWith, hw]
    exact h.put html
  element tag values xs ys hn := by
    simp only [rawBuilder, streamBuilder, streamBuilderWith]
    have hl : xs.isEmpty = ys.isEmpty := by cases hn <;> rfl
    rw [hl]
    cases hc : checkTag tag (!ys.isEmpty) with
    | error fault => exact .error fault
    | ok _ => exact .ok (element_writes h tag values.normalize hn)

end StreamNode

end Texts

lemma nil_of_void {α : Type} {tag : String} {children : List α} (hcheck : checkTag tag (!children.isEmpty) = .ok ())
    (hvoid : isVoidTag tag = true) : children = [] := by
  cases children with
  | nil => rfl
  | cons child children =>
    simp only [checkTag, hvoid] at hcheck
    split at hcheck <;> simp at hcheck

namespace Representations

variable (call : Call)

lemma putAll_outside (chunks : List String) (store : Store) (out : String) :
    (StreamNode.outsideSink (· ++ ·) call).putAll chunks (store, out) =
      .ok () (store, out ++ String.join chunks) := by
  induction chunks generalizing out with
  | nil => simp [Sink.putAll, pure, EStateM.pure]
  | cons chunk chunks ih =>
    have hp : (StreamNode.outsideSink (· ++ ·) call).put chunk (store, out) =
        .ok () (store, out ++ chunk) := rfl
    simp only [Sink.putAll, bind, EStateM.bind, hp, ih, String.join_cons, String.append_assoc]

def Writes (text : String) (m : Unit → EStateM Halt (Store × String) Unit) : Prop :=
  ∀ store out, m () (store, out) = .ok () (store, out ++ text)

lemma accepts_writes : Sink.Accepts (fun _ => StreamNode.outsideSink (· ++ ·) call) Writes where
  putAll chunks := putAll_outside call chunks
  seq hm hk := by
    intro store out
    simp only [bind, EStateM.bind, hm store out, hk store _, String.append_assoc]

lemma structured_raw_related : Builder.Related (fun _ _ => True) structuredBuilder rawBuilder where
  text _ := trivial
  prerendered _ := trivial
  element tag values xs ys h := by
    simp only [structuredBuilder, rawBuilder]
    have hl : xs.isEmpty = ys.isEmpty := by cases h <;> rfl
    rw [hl]
    cases hc : checkTag tag (!ys.isEmpty) with
    | error fault => exact .error fault
    | ok _ => exact .ok trivial

lemma structured_element {tag : String} {values : AttributeValues} {children : List Node} {node : Node}
    (h : structuredBuilder.element tag values children = .ok node) :
    node = .element tag values.normalize children := by
  obtain ⟨_, _, hn⟩ := bind_eq_ok_iff.mp h
  exact (Except.ok.inj hn).symm

mutual

lemma rebuild_structured : (tree : Node) → {node : Node} →
    tree.rebuild structuredBuilder = .ok node → node = tree
  | .text _, _, h => by simpa [Node.rebuild, structuredBuilder, eq_comm] using h
  | .prerendered _, _, h => by simpa [Node.rebuild, structuredBuilder, eq_comm] using h
  | .element tag attributes children, node, h => by
    simp only [Node.rebuild] at h
    obtain ⟨nodes, hr, he⟩ := bind_eq_ok_iff.mp h
    obtain rfl := rebuildAll_structured children hr
    rw [structured_element he, Attributes.normalize_values]

lemma rebuildAll_structured : (trees : List Node) → {nodes : List Node} →
    Node.rebuildAll structuredBuilder trees = .ok nodes → nodes = trees
  | [], _, h => by simpa [Node.rebuildAll, eq_comm] using h
  | tree :: trees, nodes, h => by
    simp only [Node.rebuildAll] at h
    obtain ⟨first, hf, hr⟩ := bind_eq_ok_iff.mp h
    obtain ⟨rest, hs, he⟩ := bind_eq_ok_iff.mp hr
    obtain rfl := rebuild_structured tree hf
    obtain rfl := rebuildAll_structured trees hs
    exact (Except.ok.inj he).symm

end

lemma materialize_of_writes {html : String} {node : StreamNode Value}
    (h : Writes html fun _ => node.render (StreamNode.outsideSink (· ++ ·) call)) (store : Store) :
    node.materialize call store = .ok html store := by
  simp [StreamNode.materialize, StreamNode.renderOutside, h store ""]

end Representations

open Representations in
/-- The three builders accept the same trees. What they make of one is the tree, a node that writes its
text, and the text. -/
theorem rebuild_agrees (call : Call) (tree : Node) :
    (∃ fault, tree.rebuild structuredBuilder = .error fault ∧
      (tree.rebuild streamBuilder : Except Fault (StreamNode Value)) = .error fault ∧
      tree.rebuild rawBuilder = .error fault) ∨
    ∃ (node : StreamNode Value) (html : String), tree.rebuild structuredBuilder = .ok tree ∧
      tree.rebuild streamBuilder = .ok node ∧ tree.rebuild rawBuilder = .ok ⟨html⟩ ∧
      tree.toHtml = .ok html ∧ ∀ store, node.materialize call store = .ok html store := by
  have hs := Node.rebuild_related structured_raw_related tree
  have hw := Node.rebuild_related (StreamNode.raw_stream_related (accepts_writes call)) tree
  generalize hraw : tree.rebuild rawBuilder = raw at hs hw
  generalize hstream : (tree.rebuild streamBuilder : Except Fault (StreamNode Value)) = stream at hw
  generalize htree : tree.rebuild structuredBuilder = structured at hs
  cases hw with
  | error fault =>
    cases hs with
    | error => exact .inl ⟨fault, rfl, rfl, rfl⟩
  | @ok text node hw =>
    cases hs with
    | @ok rebuilt _ _ =>
      obtain rfl := rebuild_structured tree htree
      refine .inr ⟨node, text.html, rfl, rfl, rfl, ?_, materialize_of_writes call hw⟩
      simp [Node.toHtml, hraw, Except.map]

end TemplateScript
