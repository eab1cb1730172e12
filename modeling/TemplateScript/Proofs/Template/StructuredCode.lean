import TemplateScript.Proofs.Template.Meaning

/-! Joining neighbouring texts changes neither the text that a tree shows nor what the tree is compacted to,
so the object that is written out for an element stands for the same as the element that the builder makes. -/

namespace TemplateScript

open Evaluation

section Views

/-- What trees stand for: they are made as a builder makes what they stand for, and stand for the same when texts are
joined and when they are compacted. -/
structure TreeView {M : Type} (b₀ : Builder M) (R : M → Node → Prop) : Prop where
  builder : Builder.Related R b₀ structuredBuilder
  accepts {tag : String} {ms : List M} (values : AttributeValues) : checkTag tag (!ms.isEmpty) = .ok () →
    ∃ m, b₀.element tag values ms = .ok m
  joined {tag : String} {values : AttributeValues} {ms : List M} {nodes : List Node} {m : M} : List.Forall₂ R ms nodes →
    b₀.element tag values ms = .ok m → R m (.element tag values.normalize (Node.joinTexts nodes))
  compact {m : M} {node : Node} : R m node → R m node.compact

lemma treeView_rebuilt : TreeView rawBuilder fun raw node => node.rebuild rawBuilder = .ok raw where
  builder := raw_structured_related
  accepts values h := ⟨_, by rw [rawBuilder_element, h]; rfl⟩
  joined h hm := by
    obtain ⟨raws', hj, hhtml, hempty⟩ := joinTexts_rebuilt h
    exact rebuild_element_of_html hm hj hhtml hempty
  compact h := compact_rebuilt _ h

lemma map_compact_eq {xs ys : List Node} (h : List.Forall₂ (fun x y : Node => y.compact = x.compact) xs ys) :
    ys.map Node.compact = xs.map Node.compact := by
  induction h with
  | nil => rfl
  | cons hx _ ih => rw [List.map_cons, List.map_cons, hx, ih]

lemma treeView_compact : TreeView structuredBuilder fun tree node => node.compact = tree.compact where
  builder :=
    { text := fun _ => rfl
      prerendered := fun _ => rfl
      element := by
        intro tag values xs ys h
        simp only [structuredBuilder, isEmpty_eq h]
        cases checkTag tag (!ys.isEmpty) with
        | error fault => exact .error fault
        | ok _ =>
          refine .ok ?_
          rw [Node.compact_element, Node.compact_element, map_compact_eq h] }
  accepts values h := ⟨_, by simp only [structuredBuilder, h]; rfl⟩
  joined h hm := by
    rw [Representations.structured_element hm, Node.compact_element, Node.compact_element, Node.map_compact_joinTexts,
      map_compact_eq h, Node.joinTexts_joinTexts]
  compact h := by rw [Node.compact_compact, h]

end Views

section Literals

variable {n : Nat} {scope : Scope} {l₀ s t : Store}

lemma expression_attribute (call : Call) (scope : Scope) (a : Attribute) :
    expression call scope a.literal = pure a.toValue := by
  cases a <;> simp only [Attribute.literal, Expr.bool, Expr.string, expression, literal, Attribute.toValue]

lemma fields_attributes (call : Call) (scope : Scope) (acc : List (String × Value)) (es : List (String × Attribute)) :
    fields call scope acc (es.map fun e => .keyed e.1 e.2.literal) =
      pure (Entries.setAll acc (Entries.mapValues Attribute.toValue es)) := by
  induction es generalizing acc with
  | nil => simp only [List.map_nil, fields, Entries.mapValues, Entries.setAll, List.foldl_nil]
  | cons e es ih =>
    simp only [List.map_cons, fields, expression_attribute, pure_bind, ih]
    rfl

lemma attributes_quietly (attributes : Attributes) : Quietly l₀
    (fun v => ∃ identity, v = .object identity (Entries.mapValues Attribute.toValue attributes.entries))
    (expression (callWithin n) scope attributes.literal) := by
  have hn : (Entries.keys (Entries.mapValues Attribute.toValue attributes.entries)).Nodup := by
    rw [Entries.keys_mapValues]
    exact attributes.nodup
  simp only [Attributes.literal, Expr.fields, List.map_map, Function.comp_def, expression, fields_attributes, pure_bind,
    Entries.setAll_nil_of_nodup hn]
  exact .newObject _

mutual

lemma Node.literal_read : (node : Node) → Quietly l₀ (fun v => v.toNode? = some (.structured node))
    (expression (callWithin n) scope node.literal)
  | .text value => by
    simp only [Node.literal, Expr.fields, List.map_cons, List.map_nil, expression, fields, Expr.string, Evaluation.literal, pure_bind,
      Entries.set, String.reduceEq, if_false]
    refine (Quietly.newObject _).mono ?_
    rintro _ ⟨i, rfl⟩
    simp [Value.toNode?, Value.objectNode?, Value.stringField?, Entries.get?, Value.string?]
  | .prerendered html => by
    simp only [Node.literal, Expr.fields, List.map_cons, List.map_nil, expression, fields, Expr.string, Evaluation.literal, pure_bind,
      Entries.set, String.reduceEq, if_false]
    refine (Quietly.newObject _).mono ?_
    rintro _ ⟨i, rfl⟩
    simp [Value.toNode?, Value.objectNode?, Value.stringField?, Entries.get?, Value.string?]
  | .element tag attributes children => by
    simp only [Node.literal, Expr.fields, List.map_cons, List.map_nil, expression, fields, Expr.string, Evaluation.literal, pure_bind,
      bind_assoc]
    refine (attributes_quietly attributes).bind ?_
    rintro _ ⟨j, rfl⟩
    refine (Node.literals_read children).bind fun vs hvs => (Quietly.newArray vs).bind ?_
    rintro _ ⟨k, rfl⟩
    simp only [Entries.set, String.reduceEq, if_false]
    refine (Quietly.newObject _).mono ?_
    rintro _ ⟨i, rfl⟩
    exact toNode?_element hvs

lemma Node.literals_read : (nodes : List Node) → Quietly l₀ (fun vs => Value.trees? vs = some nodes)
    (items (callWithin n) scope (Node.literals nodes))
  | [] => by
    simp only [Node.literals, items]
    exact .pure (by simp only [Value.trees?])
  | node :: nodes => by
    simp only [Node.literals, items]
    exact (Node.literal_read node).bind fun v hv => (Node.literals_read nodes).bind fun vs hvs =>
      .pure (Value.trees?_cons hv hvs)

end

end Literals

section Static

variable {M : Type} {b₀ : Builder M} {R : M → Node → Prop} {s₀ s t : Store} {scope : Scope} {codes : List AttributeCode}
  {content : List Compiled} {A : List (String × AttributeValue) → Prop} {E : List (Child M) → Prop}

lemma ContentMeans.static_structured (h : ContentMeans (Trees R) s₀ scope content E) (hview : TreeView b₀ R)
    (hs : content.all Compiled.isStatic = true) :
    ∃ children ms nodes, (∀ cs, E cs ↔ cs = children) ∧ Child.flatten b₀ children = .ok ms ∧
      content.filterMap Compiled.structured? = nodes ∧ allSome (content.map Compiled.structured?) = some nodes ∧
      List.Forall₂ R ms nodes := by
  induction h with
  | nil hE => exact ⟨[], [], [], hE, rfl, rfl, rfl, .nil⟩
  | @cons code content D E F hcode _ hF ih =>
    simp only [List.all_cons, Bool.and_eq_true] at hs
    obtain ⟨children, ms, nodes, hE, hf, hm, ha, hn⟩ := ih hs.2
    have hshape := hcode.shape
    have hfirst : ∃ child m node, (∀ ch, D ch ↔ ch = child) ∧ child.nodes b₀ = .ok [m] ∧
        code.structured? = some node ∧ R m node := by
      have hstatic := hs.1
      obtain ⟨expr, shape⟩ := code
      cases shape with
      | dynamic => cases hstatic
      | text value =>
        exact ⟨.text value, b₀.text value, .text value, hshape, by simp only [Child.nodes], rfl, hview.builder.text value⟩
      | constant node =>
        obtain ⟨m, hm, hD⟩ := hshape
        obtain ⟨tree, htree, hr⟩ := hm s₀
        cases node with
        | structured node =>
          obtain rfl := AnyNode.structured.inj htree
          exact ⟨.node m, m, node, hD, by simp only [Child.nodes], rfl, hr⟩
        | raw raw => cases htree
    obtain ⟨child, m, node, hD, hc, hnode, hr⟩ := hfirst
    refine ⟨child :: children, m :: ms, node :: nodes, fun cs => ?_, ?_, ?_, ?_, .cons hr hn⟩
    · rw [hF]
      simp [hD, hE]
    · simp only [Child.flatten, hc, hf]
      rfl
    · simp [hnode, hm]
    · simp [allSome, hnode, ha]

variable {c : Config}

lemma structuredAttributes_runs (h : AttributesMean s₀ scope codes A) (hin : scope.In s₀)
    (hsupport : s₀.Supports scope c.support) (hg : Store.Grows none s₀ s) (hs : s.Closed)
    {es : List (String × AttributeValue)} (he : A es) :
    ∃ identity t, Evaluates scope (StructuredElement.attributes c codes) s (.object identity
      (Entries.mapValues Attribute.toValue (AttributeValues.normalize (.ofList es)).entries)) t := by
  simp only [StructuredElement.attributes]
  cases hv : AttributeCode.staticValues? codes with
  | some values =>
    obtain ⟨entries, hentries, rfl⟩ := Option.map_eq_some_iff.1 hv
    obtain rfl := (h.static hentries es).1 he
    obtain ⟨_, t, hv, identity, rfl⟩ := Quietly.evaluates (n := 0) (attributes_quietly _)
    exact ⟨identity, t, hv⟩
  | none =>
    obtain ⟨identity, fs, u, hobject, hfs⟩ := h.object_runs hin hg hs he
    refine ⟨u.identities, u.next, (evaluates_support (hsupport.grow hin hg) .normalizeAttributes).2
      ⟨[.object identity fs], u, itemsYield_single.2 ⟨_, u, [], hobject, itemsYield_nil.2 ⟨rfl, rfl⟩, rfl⟩, ?_⟩⟩
    simp only [Native.run, Support.first, List.head?_cons, Option.getD_some, Value.attributeValues, hfs]
    rfl

lemma structuredAttributes_shows (h : AttributesMean s₀ scope codes A) (hin : scope.In s₀)
    (hsupport : s₀.Supports scope c.support) (hg : Store.Grows none s₀ s) (hs : s.Closed) {v : Value}
    (hv : Evaluates scope (StructuredElement.attributes c codes) s v t) : ∃ es, A es := by
  simp only [StructuredElement.attributes] at hv
  cases hvalues : AttributeCode.staticValues? codes with
  | some values =>
    obtain ⟨entries, hentries, rfl⟩ := Option.map_eq_some_iff.1 hvalues
    exact ⟨entries, (h.static hentries _).2 rfl⟩
  | none =>
    rw [hvalues] at hv
    obtain ⟨vs, u, hvs, -⟩ := (evaluates_support (hsupport.grow hin hg) .normalizeAttributes).1 hv
    obtain ⟨w, _, _, hw, -⟩ := itemsYield_single.1 hvs
    obtain ⟨es, _, _, he, -⟩ := h.object_shows hin hg hs hw
    exact ⟨es, he⟩

lemma flatten_trees (hview : TreeView b₀ R) {children : List (Child M)} {vs : List Value}
    (h : ReadAs (Trees R s) children vs) : ∃ own, Child.readAll Value.toChild AnyNode.toStructured vs = .ok own ∧
      Agree (List.Forall₂ R) (Child.flatten b₀ children) (Child.flatten structuredBuilder own) := by
  obtain ⟨own, hown, hc⟩ := (represents_trees hview.builder s).readAll h
  exact ⟨own, hown, Child.flatten_related hview.builder hc⟩

lemma evaluates_flattenCompact {v : Value} (h : s.Supports scope c.support) :
    Evaluates scope (c.callWith "flattenCompact" (content.map Compiled.expr)) s v t ↔
      ∃ vs u own nodes ws u', ItemsYield scope (content.map fun code => .single code.expr) s vs u ∧
        Child.readAll Value.toChild AnyNode.toStructured vs = .ok own ∧ Child.flatten structuredBuilder own = .ok nodes ∧
        Node.toValues (Node.joinTexts nodes) u = .ok ws u' ∧ Eval.newArray ws u' = .ok v t := by
  have hcall : c.callWith "flattenCompact" (content.map Compiled.expr) =
      c.call Native.flattenCompact.name (content.map fun code => .single code.expr) := by
    simp only [Config.callWith, Expr.callWith, List.map_map, Function.comp_def]
    rfl
  rw [hcall, evaluates_support h]
  refine exists_congr fun vs => exists_congr fun u => ?_
  simp only [Native.run, Support.flattenCompact, run_bind_eq_ok, ofExcept_eq_ok]
  constructor
  · rintro ⟨hvs, own, _, ⟨hown, rfl⟩, nodes, _, ⟨hn, rfl⟩, ws, u', hws, hv⟩
    exact ⟨own, nodes, ws, u', hvs, hown, hn, hws, hv⟩
  · rintro ⟨own, nodes, ws, u', hvs, hown, hn, hws, hv⟩
    exact ⟨hvs, own, u, ⟨hown, rfl⟩, nodes, u, ⟨hn, rfl⟩, ws, u', hws, hv⟩

lemma structuredChildren_runs (hview : TreeView b₀ R) (h : ContentMeans (Trees R) s₀ scope content E)
    (hin : scope.In s₀) (hsupport : s₀.Supports scope c.support) (hg : Store.Grows none s₀ s) (hs : s.Closed)
    {children : List (Child M)} (he : E children) {ms : List M} (hf : Child.flatten b₀ children = .ok ms) :
    ∃ identity vs t nodes, Evaluates scope (StructuredElement.children c content) s (.array identity vs) t ∧
      Value.trees? vs = some (Node.joinTexts nodes) ∧ List.Forall₂ R ms nodes := by
  simp only [StructuredElement.children]
  split
  · next hstatic =>
    obtain ⟨_, ms₀, nodes, hE, hf₀, hm, -, hn⟩ := h.static_structured hview hstatic
    obtain rfl := (hE _).1 he
    obtain rfl := Except.ok.inj (hf₀.symm.trans hf)
    rw [hm]
    have hread : Quietly s _ (items (callWithin 0) scope (Node.literals (Node.joinTexts nodes))) :=
      Node.literals_read (Node.joinTexts nodes)
    obtain ⟨vs, u, hvs, htrees, -⟩ := hread s (.refl _ _)
    exact ⟨u.identities, vs, u.next, nodes, evaluates_array.2 ⟨vs, u, ⟨0, hvs⟩, rfl⟩, htrees, hn⟩
  · obtain ⟨vs, u, hvs, hread⟩ := h.runs (mirrors_trees hview.builder) hin hg hs he
    obtain ⟨own, hown, ha⟩ := flatten_trees hview hread
    rw [hf] at ha
    generalize hy : Child.flatten structuredBuilder own = y at ha
    cases ha with
    | @ok _ nodes hn =>
      obtain ⟨ws, u', hws, htrees, -⟩ := Node.toValues_read (Node.joinTexts nodes) u (.refl _ _)
      refine ⟨u'.identities, ws, u'.next, nodes, ?_, htrees, hn⟩
      exact (evaluates_flattenCompact (hsupport.grow hin hg)).2 ⟨vs, u, own, nodes, ws, u', hvs, hown, hy, hws, rfl⟩

lemma structuredChildren_shows (hview : TreeView b₀ R) (h : ContentMeans (Trees R) s₀ scope content E)
    (hin : scope.In s₀) (hsupport : s₀.Supports scope c.support) (hg : Store.Grows none s₀ s) (hs : s.Closed) {v : Value}
    (hv : Evaluates scope (StructuredElement.children c content) s v t) :
    ∃ children ms, E children ∧ Child.flatten b₀ children = .ok ms := by
  simp only [StructuredElement.children] at hv
  split at hv
  · next hstatic =>
    obtain ⟨children, ms, -, hE, hf, -⟩ := h.static_structured hview hstatic
    exact ⟨children, ms, (hE _).2 rfl, hf⟩
  · obtain ⟨vs, u, own, nodes, -, -, hvs, hown, hn, -⟩ := (evaluates_flattenCompact (hsupport.grow hin hg)).1 hv
    obtain ⟨children, he⟩ := h.shows hin hg hs hvs
    obtain ⟨_, _, hvs', hread⟩ := h.runs (mirrors_trees hview.builder) hin hg hs he
    obtain ⟨rfl, rfl⟩ := Yields.unique (items_steady scope _) hvs hvs'
    obtain ⟨_, hown', ha⟩ := flatten_trees hview hread
    obtain rfl := Except.ok.inj (hown.symm.trans hown')
    rw [hn] at ha
    generalize hx : Child.flatten b₀ children = x at ha
    cases ha with
    | ok _ => exact ⟨children, _, he, hx⟩

lemma evaluates_structuredStatic {tag : String} {v : Value} :
    Evaluates scope (StructuredElement.static c tag codes content) s v t ↔
      ∃ a u b u', Evaluates scope (StructuredElement.attributes c codes) s a u ∧
        Evaluates scope (StructuredElement.children c content) u b u' ∧ u'.next = t ∧
        v = .object u'.identities [("type", .string "element"), ("tag", .string tag), ("attributes", a), ("children", b)] := by
  simp only [StructuredElement.static, Expr.fields, List.map_cons, List.map_nil, evaluates_object, fieldsYield_keyed,
    fieldsYield_nil, evaluates_string]
  constructor
  · rintro ⟨_, _, ⟨_, _, ⟨rfl, rfl⟩, _, _, ⟨rfl, rfl⟩, a, u, ha, b, u', hb, rfl, rfl⟩, h⟩
    obtain ⟨rfl, rfl⟩ := EStateM.Result.ok.inj h
    refine ⟨a, u, b, u', ha, hb, rfl, ?_⟩
    simp [Entries.set]
  · rintro ⟨a, u, b, u', ha, hb, rfl, rfl⟩
    refine ⟨_, u', ⟨_, s, ⟨rfl, rfl⟩, _, s, ⟨rfl, rfl⟩, a, u, ha, b, u', hb, rfl, rfl⟩, ?_⟩
    simp only [Entries.set, String.reduceEq, if_false]
    rfl

lemma structuredStatic_means (hview : TreeView b₀ R) (hin : scope.In s₀) (hsupport : s₀.Supports scope c.support)
    (hattributes : AttributesMean s₀ scope codes A) (hcontent : ContentMeans (Trees R) s₀ scope content E) {tag : String}
    (hname : isComponentName tag = false) (hvoid : isVoidTag tag → content = []) :
    Means (Trees R) s₀ scope (StructuredElement.static c tag codes content) (ElementShows b₀ (· = tag) A E) where
  runs {s} hg hs child := by
    rintro ⟨_, es, children, ms, m, rfl, ha, he, hf, hm, rfl⟩
    obtain ⟨identity, u, hobject⟩ := structuredAttributes_runs hattributes hin hsupport hg hs ha
    obtain ⟨j, vs, u', nodes, harray, htrees, hn⟩ := structuredChildren_runs hview hcontent hin hsupport
      (hg.trans hobject.grows) (hobject.closed hs (hin.grow hg)).1 he hf
    refine ⟨_, _, evaluates_structuredStatic.2 ⟨_, u, _, u', hobject, harray, rfl, rfl⟩, ?_⟩
    rw [Value.toChild_of_toNode? (toNode?_element htrees)]
    exact .node ⟨_, rfl, hview.joined hn hm⟩
  shows {s t v} hg hs hv := by
    obtain ⟨a, u, b, u', ha, hb, -⟩ := evaluates_structuredStatic.1 hv
    obtain ⟨es, hes⟩ := structuredAttributes_shows hattributes hin hsupport hg hs ha
    obtain ⟨children, ms, he, hf⟩ := structuredChildren_shows hview hcontent hin hsupport (hg.trans ha.grows)
      (ha.closed hs (hin.grow hg)).1 hb
    obtain ⟨m, hm⟩ := hview.accepts (.ofList es) (hcontent.check_ok hname hvoid he hf)
    exact ⟨_, tag, es, children, ms, m, rfl, hes, he, hf, hm, rfl⟩

lemma structuredConstant_means (hview : TreeView b₀ R) (hattributes : AttributesMean s₀ scope codes A)
    (hcontent : ContentMeans (Trees R) s₀ scope content E) (hstatic : content.all Compiled.isStatic = true)
    {values : AttributeValues} (hvalues : AttributeCode.staticValues? codes = some values) {tag : String} {nodes : List Node}
    (hnodes : allSome (content.map Compiled.structured?) = some nodes) {node : Node}
    (hnode : structuredBuilder.element tag values nodes = .ok node) :
    Compiled.Means (Trees R) s₀ scope ⟨node.compact.literal, .constant (.structured node.compact)⟩
      (ElementShows b₀ (· = tag) A E) := by
  obtain ⟨children, ms, _, hE, hf, -, hnodes', hn⟩ := hcontent.static_structured hview hstatic
  obtain rfl := Option.some.inj (hnodes.symm.trans hnodes')
  obtain ⟨entries, hentries, rfl⟩ := Option.map_eq_some_iff.1 hvalues
  have ha := hview.builder.element tag (.ofList entries) hn
  rw [hnode] at ha
  generalize hx : b₀.element tag (.ofList entries) ms = x at ha
  cases ha with
  | @ok m _ hm =>
    have hD (child : Child M) : ElementShows b₀ (· = tag) A E child ↔ child = .node m := by
      constructor
      · rintro ⟨_, es, _, _, _, rfl, hes, he, hf', hm', rfl⟩
        obtain rfl := (hattributes.static hentries es).1 hes
        obtain rfl := (hE _).1 he
        obtain rfl := Except.ok.inj (hf.symm.trans hf')
        obtain rfl := Except.ok.inj (hx.symm.trans hm')
        rfl
      · rintro rfl
        exact ⟨tag, entries, children, ms, m, rfl, (hattributes.static hentries _).2 rfl, (hE _).2 rfl, hf, hx, rfl⟩
    have hcompact : ∀ s, Trees R s m (.structured node.compact) := fun _ => ⟨_, rfl, hview.compact hm⟩
    refine ⟨⟨fun {s} hg hs child hd => ?_, fun _ _ _ => ⟨_, (hD _).2 rfl⟩⟩, m, hcompact, hD⟩
    obtain rfl := (hD child).1 hd
    obtain ⟨v, t, hv, hread⟩ := Quietly.evaluates (n := 0) (Node.literal_read node.compact)
    refine ⟨v, t, hv, ?_⟩
    rw [Value.toChild_of_toNode? hread]
    exact .node (hcompact t)

end Static

end TemplateScript
