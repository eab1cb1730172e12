import TemplateScript.Proofs.Document.Attributes
import TemplateScript.Proofs.Document.Children
import TemplateScript.Proofs.Evaluation.Growth

namespace TemplateScript

section ReadBack

variable {l₀ : Store}

lemma Attributes.normalize_toAttributeValues (attributes : Attributes) :
    AttributeValues.normalize (Value.toAttributeValues (Entries.mapValues Attribute.toValue attributes.entries)) =
      attributes := by
  have hv : Value.toAttributeValues (Entries.mapValues Attribute.toValue attributes.entries) = attributes.values := by
    have hm : Entries.mapValues Attribute.value attributes.entries = attributes.values.entries :=
      (Entries.choose_some_comp _ _).symm
    apply OrderedMap.ext
    rw [Value.toAttributeValues_eq, Entries.mapValues_mapValues]
    simp only [Attribute.toAttributeValue_toValue, hm]
    exact Entries.setAll_nil_of_nodup attributes.values.nodup
  rw [hv, Attributes.normalize_values]

lemma toNode?_element {i j k : Nat} {tag : String} {attributes : Attributes} {vs : List Value} {nodes : List Node}
    (h : Value.trees? vs = some nodes) :
    (Value.object i [("type", .string "element"), ("tag", .string tag),
      ("attributes", .object j (Entries.mapValues Attribute.toValue attributes.entries)),
      ("children", .array k vs)]).toNode? = some (.structured (.element tag attributes nodes)) := by
  simp [Value.toNode?, Value.objectNode?, Value.stringField?, Value.elementAttributes?, Entries.get?, Value.string?,
    Value.childTrees?, Value.listedTrees?, h, Attributes.normalize_toAttributeValues]

lemma Value.toChild_of_toNode? {v : Value} {node : AnyNode Value} (h : v.toNode? = some node) : v.toChild = .node node := by
  cases v with
  | object i fields => simp only [toChild, h]
  | stream x => simp only [toChild, h]
  | _ => simp [toNode?] at h

lemma Value.toNode?_of_toChild {v : Value} {node : AnyNode Value} (h : v.toChild = .node node) : v.toNode? = some node := by
  cases v with
  | object i fields =>
    simp only [toChild] at h
    split at h
    · cases h
      assumption
    · cases h
  | stream x => simpa [toChild, toNode?] using h
  | bool b => cases b <;> simp [toChild, toNode?] at h
  | _ => simp [toChild, toNode?] at h

lemma Value.trees?_cons {v : Value} {vs : List Value} {node : Node} {nodes : List Node}
    (hv : v.toNode? = some (.structured node)) (hs : trees? vs = some nodes) : trees? (v :: vs) = some (node :: nodes) := by
  simp [trees?, hv, hs]

mutual

lemma Node.toValue_read : (node : Node) → Quietly l₀ (fun v => v.toNode? = some (.structured node)) node.toValue
  | .text value => by
    simp only [Node.toValue]
    refine (Quietly.newObject _).mono ?_
    rintro _ ⟨i, rfl⟩
    simp [Value.toNode?, Value.objectNode?, Value.stringField?, Entries.get?, Value.string?]
  | .prerendered html => by
    simp only [Node.toValue]
    refine (Quietly.newObject _).mono ?_
    rintro _ ⟨i, rfl⟩
    simp [Value.toNode?, Value.objectNode?, Value.stringField?, Entries.get?, Value.string?]
  | .element tag attributes children => by
    simp only [Node.toValue, Attributes.toValue]
    refine (Quietly.newObject _).bind ?_
    rintro _ ⟨j, rfl⟩
    refine (Node.toValues_read children).bind fun vs hvs => (Quietly.newArray vs).bind ?_
    rintro _ ⟨k, rfl⟩
    refine (Quietly.newObject _).mono ?_
    rintro _ ⟨i, rfl⟩
    exact toNode?_element hvs

lemma Node.toValues_read : (nodes : List Node) → Quietly l₀ (fun vs => Value.trees? vs = some nodes) (Node.toValues nodes)
  | [] => by
    simp only [Node.toValues]
    exact .pure (by simp only [Value.trees?])
  | node :: nodes => by
    simp only [Node.toValues]
    exact (Node.toValue_read node).bind fun v hv => (Node.toValues_read nodes).bind fun vs hvs =>
      .pure (Value.trees?_cons hv hvs)

end

lemma AnyNode.toValue_read (node : AnyNode Value) : Quietly l₀ (fun v => v.toChild = .node node) node.toValue := by
  cases node with
  | structured node => exact node.toValue_read.mono fun _ h => Value.toChild_of_toNode? h
  | stream node => exact .pure (Value.toChild_of_toNode? (by simp only [Value.toNode?]))
  | raw node =>
    refine (Quietly.newObject _).mono ?_
    rintro _ ⟨i, rfl⟩
    refine Value.toChild_of_toNode? ?_
    simp [Value.toNode?, Value.objectNode?, Value.stringField?, Entries.get?, Value.string?]

lemma AnyNode.toValues_read (nodes : List (AnyNode Value)) :
    Quietly l₀ (List.Forall₂ (fun node v => Value.toChild v = .node node) nodes) (AnyNode.toValues nodes) := by
  induction nodes with
  | nil =>
    simp only [toValues]
    exact .pure .nil
  | cons node nodes ih =>
    simp only [toValues]
    exact node.toValue_read.bind fun v hv => ih.bind fun vs hvs => .pure (.cons hv hvs)

end ReadBack

section Makes

variable {r : Representation} {N : Type} {b : Builder N} {narrow : AnyNode Value → Except Fault N}
  {wrap : N → AnyNode Value}

structure Representation.Makes (r : Representation) (b : Builder N) (narrow : AnyNode Value → Except Fault N)
    (wrap : N → AnyNode Value) : Prop where
  narrow_eq_ok {node : AnyNode Value} {n : N} : narrow node = .ok n ↔ node = wrap n
  wrapped {node : AnyNode Value} : node.representation = r → ∃ n, node = wrap n
  normalize (values : List Value) : AnyNode.normalize streamBuilder r Value.toChild values = (do
    let children ← Child.readAll Value.toChild narrow values
    return (← Child.flatten b children).map wrap)
  element (tag : String) (attributes : AttributeValues) (values : List Value) :
    AnyNode.element streamBuilder r tag attributes Value.toChild values = ((do
      let children ← Child.readAll Value.toChild narrow values
      b.element tag attributes (← Child.flatten b children) : Except Fault N).map wrap)

lemma Representation.makes_structured :
    Representation.structured.Makes structuredBuilder AnyNode.toStructured .structured where
  narrow_eq_ok {node n} := by cases node <;> simp [AnyNode.toStructured]
  wrapped {node} h := by
    cases node with
    | structured node => exact ⟨node, rfl⟩
    | _ => cases h
  normalize _ := rfl
  element _ _ _ := rfl

lemma Representation.makes_stream : Representation.stream.Makes streamBuilder AnyNode.toStream .stream where
  narrow_eq_ok {node n} := by cases node <;> simp [AnyNode.toStream]
  wrapped {node} h := by
    cases node with
    | stream node => exact ⟨node, rfl⟩
    | _ => cases h
  normalize _ := rfl
  element _ _ _ := rfl

lemma Representation.makes_raw : Representation.raw.Makes rawBuilder AnyNode.toRaw .raw where
  narrow_eq_ok {node n} := by cases node <;> simp [AnyNode.toRaw]
  wrapped {node} h := by
    cases node with
    | raw node => exact ⟨node, rfl⟩
    | _ => cases h
  normalize _ := rfl
  element _ _ _ := rfl

lemma Representation.exists_makes (r : Representation) : ∃ (N : Type) (b : Builder N)
    (narrow : AnyNode Value → Except Fault N) (wrap : N → AnyNode Value), r.Makes b narrow wrap := by
  cases r with
  | structured => exact ⟨_, _, _, _, makes_structured⟩
  | stream => exact ⟨_, _, _, _, makes_stream⟩
  | raw => exact ⟨_, _, _, _, makes_raw⟩

abbrev ReadAsNodes : List (AnyNode Value) → List Value → Prop :=
  List.Forall₂ fun node v => Value.toChild v = .node node

lemma ReadAsNodes.map_toNode? {nodes : List (AnyNode Value)} {vs : List Value} (h : ReadAsNodes nodes vs) :
    vs.map Value.toNode? = nodes.map some := by
  induction h with
  | nil => rfl
  | cons hv _ ih => rw [List.map_cons, List.map_cons, Value.toNode?_of_toChild hv, ih]

lemma Representation.Makes.readAll_nodes (h : r.Makes b narrow wrap) {nodes : List N} {vs : List Value}
    (hv : ReadAsNodes (nodes.map wrap) vs) : Child.readAll Value.toChild narrow vs = .ok (nodes.map .node) := by
  induction nodes generalizing vs with
  | nil =>
    cases hv
    rfl
  | cons n nodes ih =>
    cases hv with
    | cons hfirst hrest =>
      simp only [Child.readAll, hfirst, Child.mapNodes, h.narrow_eq_ok.2 rfl, ih hrest]
      rfl

lemma AnyNode.normalize_again {vs ws : List Value} {nodes : List (AnyNode Value)}
    (h : AnyNode.normalize streamBuilder r Value.toChild vs = .ok nodes) (hws : ReadAsNodes nodes ws) :
    AnyNode.normalize streamBuilder r Value.toChild ws = .ok nodes ∧ ∀ tag attributes,
      AnyNode.element streamBuilder r tag attributes Value.toChild ws =
        AnyNode.element streamBuilder r tag attributes Value.toChild vs := by
  obtain ⟨N, b, narrow, wrap, hr⟩ := r.exists_makes
  rw [hr.normalize] at h
  obtain ⟨children, hchildren, h⟩ := bind_eq_ok_iff.1 h
  obtain ⟨own, hown, heq⟩ := bind_eq_ok_iff.1 h
  obtain rfl := Except.ok.inj heq
  have hread := hr.readAll_nodes hws
  refine ⟨?_, fun tag attributes => ?_⟩
  · simp only [hr.normalize, hread, Bind.bind, Except.bind, flatten_nodes_eq]
    rfl
  · simp only [hr.element, hread, hchildren, Bind.bind, Except.bind, flatten_nodes_eq, hown]

end Makes

section NormalizeChildren

variable {r : Representation} {vs : List Value} {nodes : List (AnyNode Value)} {l₀ : Store}

lemma normalizeChildren_reads (h : AnyNode.normalize streamBuilder r Value.toChild vs = .ok nodes) :
    Quietly l₀ (fun v => ∃ i ws, v = .array i ws ∧ ReadAsNodes nodes ws)
      (Native.normalizeChildren.run (.builder r :: vs)) := by
  have hrun : Native.normalizeChildren.run (.builder r :: vs) = AnyNode.toValues nodes >>= Eval.newArray := by
    simp only [Native.run, Support.normalizeChildren, h]
    rfl
  rw [hrun]
  refine (AnyNode.toValues_read nodes).bind fun ws hws => (Quietly.newArray ws).mono ?_
  rintro _ ⟨i, rfl⟩
  exact ⟨i, ws, rfl, hws⟩

lemma normalizeChildren_eq_ok {s t : Store} {i : Nat} {ws : List Value}
    (h : Native.normalizeChildren.run (.builder r :: vs) s = .ok (.array i ws) t) :
    ∃ nodes, AnyNode.normalize streamBuilder r Value.toChild vs = .ok nodes ∧ ReadAsNodes nodes ws := by
  cases hn : AnyNode.normalize streamBuilder r Value.toChild vs with
  | error fault =>
    simp only [Native.run, Support.normalizeChildren, hn] at h
    cases h
  | ok nodes =>
    obtain ⟨_, _, hrun, ⟨j, ws', rfl, hread⟩, -⟩ := normalizeChildren_reads hn s (.refl _ _)
    rw [h] at hrun
    cases hrun
    exact ⟨nodes, rfl, hread⟩

lemma method_element_eq (name : String) (identity : Nat) (fs : List (String × Value)) (vs : List Value) :
    r.method "element" (.string name :: .object identity fs :: vs) = (do
      let node ← Eval.ofExcept (AnyNode.element streamBuilder r name (Value.toAttributeValues fs) Value.toChild vs)
      node.toValue) := by
  rfl

lemma Representation.method_element_congr {vs ws : List Value} (h : ∀ tag attributes,
      AnyNode.element streamBuilder r tag attributes Value.toChild ws =
        AnyNode.element streamBuilder r tag attributes Value.toChild vs) (tag attributes : Value) :
    r.method "element" (tag :: attributes :: ws) = r.method "element" (tag :: attributes :: vs) := by
  cases tag with
  | string tag =>
    have hsecond (values : List Value) : Support.second (.string tag :: attributes :: values) = attributes := rfl
    simp [method, hsecond, h]
  | _ => rfl

/-- A node that has become a value is read back from it, also if it has been read from some other value. Children that
were normalized are, as values, the nodes that they were normalized to: normalizing them again gives these nodes, and an
element takes them for the children that were given. -/
theorem Value.nodes_survive :
    (∀ (node : AnyNode Value) (s : Store), ∃ v t, node.toValue s = .ok v t ∧ v.toNode? = some node) ∧
    (∀ (v : Value) (s : Store), ∀ node ∈ v.toNode?, ∃ w t, node.toValue s = .ok w t ∧ w.toNode? = v.toNode?) ∧
    ∀ (r : Representation) (vs : List Value) (s : Store) (i : Nat) (ws : List Value) (t : Store),
      Native.normalizeChildren.run (.builder r :: vs) s = .ok (.array i ws) t →
      ∃ nodes : List (AnyNode Value), ws.map Value.toNode? = nodes.map some ∧
        (∀ u, ∃ j ws' t', Native.normalizeChildren.run (.builder r :: ws) u = .ok (.array j ws') t' ∧
          ws'.map Value.toNode? = nodes.map some) ∧
        ∀ tag attributes, r.method "element" (tag :: attributes :: ws) = r.method "element" (tag :: attributes :: vs) := by
  have hback (node : AnyNode Value) (s : Store) : ∃ v t, node.toValue s = .ok v t ∧ v.toNode? = some node := by
    obtain ⟨v, t, hv, hread, -⟩ := node.toValue_read s (.refl _ _)
    exact ⟨v, t, hv, Value.toNode?_of_toChild hread⟩
  refine ⟨hback, fun v s node hnode => ?_, fun r vs s i ws t h => ?_⟩
  · rw [Option.mem_def.1 hnode]
    exact hback node s
  · obtain ⟨nodes, hnodes, hws⟩ := normalizeChildren_eq_ok h
    obtain ⟨hagain, helement⟩ := AnyNode.normalize_again hnodes hws
    refine ⟨nodes, hws.map_toNode?, fun u => ?_, Representation.method_element_congr helement⟩
    obtain ⟨_, t', hrun, ⟨j, ws', rfl, hread⟩, -⟩ := normalizeChildren_reads hagain u (.refl _ _)
    exact ⟨j, ws', t', hrun, hread.map_toNode?⟩

theorem Value.nodes_survive_written :
    let written := Value.object 0 [("type", .string "element"), ("tag", .string "b"),
      ("attributes", .object 1 [("id", .string "x"), ("hidden", .null)])]
    let vs := [written, .array 2 [.string "a", .null, .array 3 [.bool false, .safe "<i>"]]]
    ∃ i ws t, Native.normalizeChildren.run (.builder .structured :: vs) {} = .ok (.array i ws) t ∧ ws.length = 3 ∧
      (∃ j ws' t', Native.normalizeChildren.run (.builder .structured :: ws) {} = .ok (.array j ws') t' ∧
        ws'.map Value.toNode? = ws.map Value.toNode?) ∧
      ∀ tag attributes, Representation.structured.method "element" (tag :: attributes :: ws) =
        Representation.structured.method "element" (tag :: attributes :: vs) := by
  intro written vs
  have hnodes : AnyNode.normalize streamBuilder .structured Value.toChild vs =
      .ok [.structured (.element "b" ⟨[("id", .text "x")], by decide⟩ []), .structured (.text "a"),
        .structured (.prerendered "<i>")] := rfl
  obtain ⟨_, t, hrun, ⟨i, ws, rfl, hread⟩, -⟩ := normalizeChildren_reads hnodes {} (.refl _ _)
  obtain ⟨nodes, hws, hagain, helement⟩ := Value.nodes_survive.2.2 _ _ _ _ _ _ hrun
  obtain ⟨j, ws', t', hrun', hws'⟩ := hagain {}
  exact ⟨i, ws, t, hrun, hread.length_eq.symm, ⟨j, ws', t', hrun', hws'.trans hws.symm⟩, helement⟩

end NormalizeChildren

end TemplateScript
