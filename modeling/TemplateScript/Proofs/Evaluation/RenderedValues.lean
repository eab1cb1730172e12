import TemplateScript.Proofs.Document.Additions
import TemplateScript.Proofs.Document.CanonicalTrees
import TemplateScript.Proofs.Evaluation.NodeValues
import TemplateScript.Proofs.Evaluation.Showing

/-!
A value is rendered as inside of an element. Rendering it joins the texts of the nodes that it stands for as a child, and
the text of an element, of whatever representation, has the texts of its nodes between its tags.
-/

namespace TemplateScript

variable {call : Call} {N : Type}

def textsOf (text : N → Eval String) : List N → Eval String
  | [] => return ""
  | node :: nodes => return (← text node) ++ (← textsOf text nodes)

lemma textsOf_append (text : N → Eval String) (xs ys : List N) :
    textsOf text (xs ++ ys) = (do return (← textsOf text xs) ++ (← textsOf text ys)) := by
  induction xs with
  | nil => simp only [List.nil_append, textsOf, pure_bind, String.empty_append, bind_pure]
  | cons x xs ih => simp only [List.cons_append, textsOf, ih, bind_assoc, pure_bind, String.append_assoc]

structure Builder.Texts (b : Builder N) (text : N → Eval String) : Prop where
  ofText (value : String) : text (b.text value) = pure (escapeText value)
  ofPrerendered (html : String) : text (b.prerendered html) = pure html
  element (tag : String) (values : AttributeValues) (nodes : List N) : checkTag tag (!nodes.isEmpty) = .ok () →
    ∃ node, b.element tag values nodes = .ok node ∧
      text node = (do return elementHtml tag values.normalize (← textsOf text nodes))

section Builders

lemma textsOf_raw (call : Call) (nodes : List RawNode) :
    textsOf (fun node => (AnyNode.raw node).toHtml call) nodes = pure (htmlOf nodes) := by
  induction nodes with
  | nil => rfl
  | cons node nodes ih =>
    rw [textsOf, ih, htmlOf_cons]
    rfl

lemma texts_raw (call : Call) : rawBuilder.Texts fun node => (AnyNode.raw node).toHtml call where
  ofText _ := rfl
  ofPrerendered _ := rfl
  element tag values nodes h := by
    refine ⟨⟨elementHtml tag values.normalize (htmlOf nodes)⟩, ?_, ?_⟩
    · rw [rawBuilder_element, h]
      rfl
    · rw [textsOf_raw]
      rfl

lemma textsOf_structured (call : Call) (nodes : List Node) :
    textsOf (fun node => (AnyNode.structured node).toHtml call) nodes =
      Eval.ofExcept ((Node.rebuildAll rawBuilder nodes).map htmlOf) := by
  induction nodes with
  | nil =>
    rw [textsOf, Node.rebuildAll]
    rfl
  | cons node nodes ih =>
    rw [textsOf, ih]
    simp only [AnyNode.toHtml, Node.toHtml, Node.rebuildAll]
    cases node.rebuild rawBuilder with
    | error fault => rfl
    | ok raw =>
      cases Node.rebuildAll rawBuilder nodes with
      | error fault => rfl
      | ok raws => exact congrArg (pure (f := Eval)) (htmlOf_cons raw raws).symm

lemma texts_structured (call : Call) : structuredBuilder.Texts fun node => (AnyNode.structured node).toHtml call where
  ofText value := by
    simp only [structuredBuilder, AnyNode.toHtml, Node.toHtml, Node.rebuild]
    rfl
  ofPrerendered html := by
    simp only [structuredBuilder, AnyNode.toHtml, Node.toHtml, Node.rebuild]
    rfl
  element tag values nodes h := by
    refine ⟨.element tag values.normalize nodes, ?_, ?_⟩
    · simp only [structuredBuilder, h]
      rfl
    · rw [textsOf_structured]
      simp only [AnyNode.toHtml, Node.toHtml, Node.rebuild]
      cases hr : Node.rebuildAll rawBuilder nodes with
      | error fault => rfl
      | ok raws =>
        have hempty : raws.isEmpty = nodes.isEmpty := by
          cases Node.rebuildAll_eq_ok_iff.1 hr <;> rfl
        simp only [Bind.bind, Except.bind, rawBuilder_element, hempty, h, Attributes.normalize_values]
        rfl

open StreamNode

lemma gather_putAll (call : Call) (chunks : List String) (out : String) :
    gather ((outsideSink (· ++ ·) call).putAll chunks) out = pure (out ++ String.join chunks) := by
  funext s
  rw [gather, Representations.putAll_outside]
  rfl

lemma gather_render (call : Call) (x : StreamNode Value) (out : String) :
    gather (x.render (outsideSink (· ++ ·) call)) out = (do return out ++ (← x.materialize call)) := by
  have h := gather_append call x out ""
  rw [String.append_empty] at h
  rw [materialize_eq_gather]
  exact h

lemma gather_renderAll (call : Call) (nodes : List (StreamNode Value)) (out : String) :
    gather (renderAll (outsideSink (· ++ ·) call) nodes) out =
      (do return out ++ (← textsOf (fun node => (AnyNode.stream node).toHtml call) nodes)) := by
  induction nodes generalizing out with
  | nil =>
    simp only [renderAll, textsOf, pure_bind, String.append_empty]
    rfl
  | cons node nodes ih =>
    simp only [renderAll_cons, gather_seq, gather_render, ih, textsOf, AnyNode.toHtml, bind_assoc, pure_bind,
      String.append_assoc]

lemma materialize_element (call : Call) (tag : String) (attributes : Attributes) (nodes : List (StreamNode Value)) :
    (StreamNode.element tag attributes nodes).materialize call = (do
      return elementHtml tag attributes (← textsOf (fun node => (AnyNode.stream node).toHtml call) nodes)) := by
  let sink := outsideSink (· ++ ·) call
  have hrender : (StreamNode.element tag attributes nodes).render sink = (do
      sink.putAll ["<", tag, attributes.render, ">"]
      renderAll sink nodes
      if isVoidTag tag then pure () else sink.putAll ["</", tag, ">"]) := by
    simp only [render_element, renderElement, shownAttributes, Option.getD_none, renderStaged, pure_bind]
  have hclose (out : String) : gather (if isVoidTag tag then pure () else sink.putAll ["</", tag, ">"]) out =
      pure (out ++ if isVoidTag tag then "" else "</" ++ tag ++ ">") := by
    split
    · rw [String.append_empty]
      rfl
    · rw [gather_putAll]
      simp [String.join_cons, String.append_assoc]
  rw [materialize_eq_gather, hrender]
  simp only [gather_seq, sink, gather_putAll, gather_renderAll, hclose, pure_bind, bind_assoc]
  simp [elementHtml, String.join_cons, String.append_assoc]

lemma texts_stream (call : Call) : streamBuilder.Texts fun node => (AnyNode.stream node).toHtml call where
  ofText value := funext <| Representations.materialize_of_writes call <|
    (raw_stream_related (Representations.accepts_writes call)).text value
  ofPrerendered html := funext <| Representations.materialize_of_writes call <|
    (raw_stream_related (Representations.accepts_writes call)).prerendered html
  element tag values nodes h := by
    refine ⟨.element tag values.normalize nodes, ?_, materialize_element call tag values.normalize nodes⟩
    simp only [streamBuilder, streamBuilderWith, h]
    rfl

end Builders

section Children

variable {ι : Type} {calls : ι → Call} {b : Builder N} {R : N → AnyNode Value → Prop}
  {P : (ι → Eval String) → Except Fault (List N) → Prop} {text : N → Eval String}

/-- A notion of computations that give the texts of nodes: it holds of the texts that a builder and the nodes give, of a
failure, and of one text in front of another. The computations may depend on a parameter. -/
structure Child.Joins (calls : ι → Call) (b : Builder N) (R : N → AnyNode Value → Prop)
    (P : (ι → Eval String) → Except Fault (List N) → Prop) : Prop where
  empty : P (fun _ => pure "") (.ok [])
  text (value : String) : P (fun _ => pure (escapeText value)) (.ok [b.text value])
  prerendered (html : String) : P (fun _ => pure html) (.ok [b.prerendered html])
  node {n : N} {node : AnyNode Value} : R n node → P (fun i => node.toHtml (calls i)) (.ok [n])
  fail (fault : Fault) : P (fun _ => Eval.fail fault) (.error fault)
  concat {m k : ι → Eval String} {x y : Except Fault (List N)} : P m x → P k y →
    P (fun i => do return (← m i) ++ (← k i)) (do return (← x) ++ (← y))

mutual

lemma Child.toHtml_joins (h : Child.Joins calls b R P) : {child : Child N} → {shown : Child (AnyNode Value)} →
    Child.Rel R child shown → P (fun i => shown.toHtml (calls i)) (child.nodes b)
  | _, _, .absent => by simpa only [Child.toHtml, Child.nodes] using h.empty
  | _, _, .text value => by simpa only [Child.toHtml, Child.nodes] using h.text value
  | _, _, .number value => by simpa only [Child.toHtml, Child.nodes] using h.text value.text
  | _, _, .safe html => by simpa only [Child.toHtml, Child.nodes] using h.prerendered html
  | _, _, .invalid found => by simpa only [Child.toHtml, Child.nodes] using h.fail (.invalidChild found)
  | _, _, .node hn => by simpa only [Child.toHtml, Child.nodes] using h.node hn
  | _, _, .list hs => by simpa only [Child.toHtml, Child.nodes] using Child.toHtmls_joins h hs

lemma Child.toHtmls_joins (h : Child.Joins calls b R P) : {children : List (Child N)} →
    {shown : List (Child (AnyNode Value))} → List.Forall₂ (Child.Rel R) children shown →
    P (fun i => do return String.join (← Child.toHtmls (calls i) shown)) (Child.flatten b children)
  | _, _, .nil => by simpa only [Child.toHtmls, Child.flatten, pure_bind, String.join_nil] using h.empty
  | _, _, .cons hc hs => by
    have hboth := h.concat (Child.toHtml_joins h hc) (Child.toHtmls_joins h hs)
    simp only [bind_assoc, pure_bind] at hboth
    simpa only [Child.toHtmls, Child.flatten, bind_assoc, pure_bind, String.join_cons] using hboth

end

def RendersAs (text : N → Eval String) (m : Eval String) : Except Fault (List N) → Prop
  | .ok nodes => m = textsOf text nodes
  | .error _ => ∀ s html t, m s ≠ .ok html t

lemma RendersAs.concat {m k : Eval String} {x y : Except Fault (List N)} (hm : RendersAs text m x)
    (hk : RendersAs text k y) :
    RendersAs text (do return (← m) ++ (← k)) (do return (← x) ++ (← y)) := by
  cases x with
  | error fault =>
    intro s html t h
    obtain ⟨a, u, ha, -⟩ := run_bind_eq_ok.1 h
    exact hm s a u ha
  | ok xs =>
    cases y with
    | error fault =>
      intro s html t h
      obtain ⟨a, u, -, h⟩ := run_bind_eq_ok.1 h
      obtain ⟨c, w, hc, -⟩ := run_bind_eq_ok.1 h
      exact hk u c w hc
    | ok ys =>
      rw [RendersAs] at hm hk
      rw [hm, hk]
      exact (textsOf_append text xs ys).symm

lemma Builder.Texts.joins (hb : b.Texts text) (hn : ∀ n node, R n node → node.toHtml call = text n) :
    Child.Joins (fun _ : Unit => call) b R fun m nodes => RendersAs text (m ()) nodes where
  empty := rfl
  text value := by simp only [RendersAs, textsOf, hb.ofText, pure_bind, String.append_empty]
  prerendered html := by simp only [RendersAs, textsOf, hb.ofPrerendered, pure_bind, String.append_empty]
  node h := by simp only [RendersAs, textsOf, hn _ _ h, pure_bind, String.append_empty, bind_pure]
  fail fault s html t h := by cases h
  concat := RendersAs.concat

end Children

section Elements

variable {r : Representation} {b : Builder N} {narrow : AnyNode Value → Except Fault N} {wrap : N → AnyNode Value}

lemma AnyNode.render_toValue (node : AnyNode Value) (s : Store) (html : String) :
    (∃ t, (node.toValue >>= Value.render call) s = .ok html t) ↔ ∃ t, node.toHtml call s = .ok html t := by
  obtain ⟨v, u, hv, hread, -⟩ := node.toValue_read s (.refl _ _)
  have hrun : (node.toValue >>= Value.render call) s = node.toHtml call u := by
    simp only [Bind.bind, EStateM.bind, hv, Value.render, hread, Child.toHtml]
  rw [hrun]
  -- Objects that were made for a tree or a raw node do not matter to its text; a stream node makes none.
  cases node with
  | stream node =>
    obtain ⟨-, rfl⟩ := EStateM.Result.ok.inj hv
    rfl
  | structured node => simp only [toHtml, ofExcept_eq_ok, exists_and_left, exists_eq']
  | raw node =>
    have hraw : toHtml call (.raw node) = Eval.ofExcept (.ok node.html) := rfl
    simp only [hraw, ofExcept_eq_ok, exists_and_left, exists_eq']

lemma Representation.render_method_element (tag : String) (i : Nat) (fields : List (String × Value)) (vs : List Value)
    (s : Store) (html : String) :
    (∃ t, (r.method "element" (.string tag :: .object i fields :: vs) >>= Value.render call) s = .ok html t) ↔
      ∃ node, AnyNode.element streamBuilder r tag (Value.toAttributeValues fields) Value.toChild vs = .ok node ∧
        ∃ t, node.toHtml call s = .ok html t := by
  simp only [method_element_eq, bind_assoc, ← AnyNode.render_toValue, run_bind_eq_ok, ofExcept_eq_ok]
  constructor
  · rintro ⟨t, node, _, ⟨hnode, rfl⟩, h⟩
    exact ⟨node, hnode, t, h⟩
  · rintro ⟨node, hnode, t, h⟩
    exact ⟨t, node, s, ⟨hnode, rfl⟩, h⟩

lemma Representation.Makes.element_value (h : r.Makes b narrow wrap) {v : Value} {own : Child N}
    (hown : v.toChild.mapNodes narrow = .ok own) (tag : String) (values : AttributeValues) :
    AnyNode.element streamBuilder r tag values Value.toChild [v] = (own.nodes b >>= b.element tag values).map wrap := by
  have hread : Child.readAll Value.toChild narrow [v] = .ok [own] := by
    simp only [Child.readAll, hown]
    rfl
  have hflat : Child.flatten b [own] = own.nodes b := by
    simp only [Child.flatten]
    cases own.nodes b with
    | error fault => rfl
    | ok nodes => exact congrArg Except.ok (List.append_nil nodes)
  simp only [h.element, hread, Bind.bind, Except.bind, hflat]

lemma Representation.Makes.element_html (h : r.Makes b narrow wrap) (hb : b.Texts fun n => (wrap n).toHtml call)
    {v : Value} (hv : ∀ node ∈ v.toChild.built, node.representation = r) {tag : String} (hvoid : isVoidTag tag = false)
    (hname : isComponentName tag = false) (values : AttributeValues) (s : Store) (html : String) :
    (∃ node, AnyNode.element streamBuilder r tag values Value.toChild [v] = .ok node ∧
        ∃ t, node.toHtml call s = .ok html t) ↔
      ∃ inner t, v.render call s = .ok inner t ∧ html = elementHtml tag values.normalize inner := by
  obtain ⟨own, hown, hrel⟩ := Child.mapNodes_of_built (f := narrow) v.toChild fun node hnode => by
    obtain ⟨n, rfl⟩ := h.wrapped (hv node hnode)
    exact ⟨n, h.narrow_eq_ok.2 rfl⟩
  have hrenders := Child.toHtml_joins (hb.joins fun n node hn => by rw [h.narrow_eq_ok.1 hn]) hrel.flip
  rw [h.element_value hown, Value.render]
  cases hnodes : own.nodes b with
  | error fault =>
    rw [hnodes] at hrenders
    constructor
    · rintro ⟨node, hnode, -⟩
      cases hnode
    · rintro ⟨inner, t, hinner, -⟩
      exact absurd hinner (hrenders s inner t)
  | ok nodes =>
    have hcheck : checkTag tag (!nodes.isEmpty) = .ok () := by simp [checkTag, hvoid, hname]
    obtain ⟨n, helement, htext⟩ := hb.element tag values nodes hcheck
    rw [hnodes, RendersAs] at hrenders
    have hmade : ((Except.ok nodes >>= b.element tag values).map wrap : Except Fault (AnyNode Value)) = .ok (wrap n) := by
      simp only [Bind.bind, Except.bind, helement]
      rfl
    simp only [hmade, Except.ok.injEq, exists_eq_left', htext, hrenders]
    constructor
    · rintro ⟨t, h⟩
      obtain ⟨inner, u, hinner, hhtml⟩ := run_bind_eq_ok.1 h
      obtain ⟨rfl, rfl⟩ := EStateM.Result.ok.inj hhtml
      exact ⟨inner, u, hinner, rfl⟩
    · rintro ⟨inner, t, hinner, rfl⟩
      exact ⟨t, run_bind_eq_ok.2 ⟨inner, t, hinner, rfl⟩⟩

/-- An element without attributes that is made around a value is rendered if and only if the value is, and to the text of
the value between its tags. -/
theorem Value.render_in_element (call : Call) (r : Representation) (v : Value)
    (hv : ∀ node ∈ v.toChild.built, node.representation = r) (tag : String) (hvoid : isVoidTag tag = false)
    (hname : isComponentName tag = false) (i : Nat) (s : Store) (html : String) :
    (∃ t, ((Value.builder r).callMethod call "element" [.string tag, .object i [], v] >>= Value.render call) s =
        .ok html t) ↔
      ∃ inner t, v.render call s = .ok inner t ∧ html = "<" ++ tag ++ ">" ++ inner ++ "</" ++ tag ++ ">" := by
  have htext (inner : String) : elementHtml tag (AttributeValues.normalize .empty) inner =
      "<" ++ tag ++ ">" ++ inner ++ "</" ++ tag ++ ">" := by
    have hnone : Attributes.render (AttributeValues.normalize .empty) = "" := rfl
    simp [elementHtml, hvoid, hnone, String.append_assoc]
  have hmethod : (Value.builder r).callMethod call "element" = r.method "element" := rfl
  have hempty : Value.toAttributeValues [] = .empty := rfl
  simp only [hmethod, Representation.render_method_element, hempty, ← htext]
  cases r with
  | structured => exact Representation.makes_structured.element_html (texts_structured call) hv hvoid hname .empty s html
  | stream => exact Representation.makes_stream.element_html (texts_stream call) hv hvoid hname .empty s html
  | raw => exact Representation.makes_raw.element_html (texts_raw call) hv hvoid hname .empty s html

theorem Value.render_in_element_list :
    let call := Evaluation.callWithin 0
    let v := Value.array 0 [.string "a<", .array 1 [.stream (.element "b" ⟨[], by decide⟩ []), .null], .safe "<i>"]
    (∀ node ∈ v.toChild.built, node.representation = .stream) ∧ v.render call {} = .ok "a&lt;<b></b><i>" {} ∧
    ∃ t, ((Value.builder .stream).callMethod call "element" [.string "p", .object 2 [], v] >>= Value.render call) {} =
      .ok "<p>a&lt;<b></b><i></p>" t := by
  intro call v
  have hv : ∀ node ∈ v.toChild.built, node.representation = .stream := by
    simp [v, Value.toChild, Value.toChildren, Value.toNode?, Child.built, Child.builtAll, AnyNode.representation]
  have hrender : v.render call {} = .ok "a&lt;<b></b><i>" {} := rfl
  exact ⟨hv, hrender, (Value.render_in_element call .stream v hv "p" (by decide) (by decide) 2 {} _).2
    ⟨_, _, hrender, rfl⟩⟩

end Elements

end TemplateScript
