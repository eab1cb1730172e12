import TemplateScript.Proofs.Script.Subterms
import TemplateScript.Proofs.Template.Outcomes
import TemplateScript.Proofs.Template.TemplateCode

namespace TemplateScript

open Evaluation

def MarkupAttribute.isNamed : MarkupAttribute → Bool
  | .named .. => true
  | .spread _ => false

mutual

def Markup.isConstant : Markup → Bool
  | .element (.static _) attributes children _ => attributes.all MarkupAttribute.isNamed && Markup.areConstant children
  | .text _ => true
  | .container none => true
  | .container (some (.literal (.string ..))) => true
  | .container (some (.markup node)) => node.isConstant
  | _ => false

def Markup.areConstant : List Markup → Bool
  | [] => true
  | node :: nodes => node.isConstant && Markup.areConstant nodes

end

def Markup.holdsElement : Markup → Bool
  | .element (.static _) .. => true
  | .container (some (.markup node)) => node.holdsElement
  | _ => false

def Subterm.isData : Subterm → Bool
  | .expression (.literal _) | .expression (.array _) | .expression (.object _) => true
  | _ => false

def Constant.representation : Constant → Representation
  | .structured _ => .structured
  | .raw _ => .raw

section Data

lemma Property.data_fields {entries : List (String × Expr)} (h : ∀ e ∈ entries, ∀ x ∈ e.2.subterms, x.isData) :
    ∀ x ∈ (Expr.fields entries).subterms, x.isData := by
  rw [Expr.fields, Expr.subterms, List.forall_mem_cons]
  refine ⟨rfl, ?_⟩
  induction entries with
  | nil => simp
  | cons entry entries ih =>
    obtain ⟨hentry, hentries⟩ := List.forall_mem_cons.1 h
    rw [List.map_cons, Property.subterms, List.forall_mem_append]
    exact ⟨hentry, ih hentries⟩

lemma Expr.data_string (value : String) : ∀ x ∈ (Expr.string value).subterms, x.isData := by
  simp [Expr.string, Subterm.isData]

lemma Expr.data_leaf (kind value : String) :
    ∀ x ∈ (Expr.fields [("type", .string kind), ("value", .string value)]).subterms, x.isData := by
  simp [Expr.fields, Expr.string, Subterm.isData]

lemma Attributes.data_literal (attributes : Attributes) : ∀ x ∈ attributes.literal.subterms, x.isData := by
  refine Property.data_fields ?_
  simp only [List.forall_mem_map]
  rintro ⟨name, a⟩ -
  cases a <;> simp [Attribute.literal, Expr.bool, Expr.string, Subterm.isData]

mutual

lemma Node.data_literal : (node : Node) → ∀ x ∈ node.literal.subterms, x.isData
  | .text value => Expr.data_leaf "text" value
  | .prerendered html => Expr.data_leaf "prerendered" html
  | .element tag attributes children => by
    refine Property.data_fields ?_
    simp only [List.forall_mem_cons, Expr.subterms]
    exact ⟨Expr.data_string _, Expr.data_string _, attributes.data_literal, ⟨rfl, Node.data_literals children⟩, by simp⟩

lemma Node.data_literals : (nodes : List Node) → ∀ x ∈ Item.subterms (Node.literals nodes), x.isData
  | [] => by simp [Node.literals]
  | node :: nodes => by
    rw [Node.literals, Item.subterms, List.forall_mem_append]
    exact ⟨node.data_literal, Node.data_literals nodes⟩

end

lemma Constant.data_literal (constant : Constant) : ∀ x ∈ constant.literal.subterms, x.isData := by
  cases constant with
  | structured node => exact node.data_literal
  | raw node => exact Expr.data_leaf "raw" node.html

end Data

section Evaluating

variable {n : Nat} {scope : Scope} {l₀ : Store}

lemma RawNode.literal_read (node : RawNode) : Quietly l₀ (fun v => v.toNode? = some (.raw node))
    (expression (callWithin n) scope node.literal) := by
  simp only [RawNode.literal, Expr.fields, List.map_cons, List.map_nil, expression, fields, Expr.string, Evaluation.literal,
    pure_bind, Entries.set, String.reduceEq, if_false]
  refine (Quietly.newObject _).mono ?_
  rintro _ ⟨i, rfl⟩
  simp [Value.toNode?, Value.objectNode?, Value.stringField?, Entries.get?, Value.string?]

lemma Constant.literal_read (constant : Constant) : Quietly l₀ (fun v => v.toNode? = some constant.toAnyNode)
    (expression (callWithin n) scope constant.literal) := by
  cases constant with
  | structured node => exact node.literal_read
  | raw node => exact node.literal_read

end Evaluating

def Compiled.Sound (c : Config) (node : Markup) (code : Compiled) : Prop :=
  match code.shape with
  | .dynamic => True
  | .text value => code.expr = .string value ∧ node.isConstant
  | .constant constant => code.expr = constant.literal ∧ c.mode = .optimizing ∧ constant.representation = c.target ∧
    node.holdsElement ∧ node.isConstant

lemma Compiled.isStatic_of_isEmptyText {code : Compiled} (h : code.isEmptyText) : code.isStatic := by
  unfold Compiled.isEmptyText at h
  unfold Compiled.isStatic
  split at h <;> simp_all

lemma Compiled.Sound.isConstant {c : Config} {node : Markup} {code : Compiled} (h : code.Sound c node)
    (hstatic : code.isStatic) : node.isConstant := by
  unfold Compiled.Sound at h
  unfold Compiled.isStatic at hstatic
  split at h
  · simp_all
  · exact h.2
  · exact h.2.2.2.2

namespace Compile

variable {c : Config} {codes : List AttributeCode} {content : List Compiled}

lemma representation_constant? {tag : TagCode} {constant : Constant}
    (h : constant? c tag codes content = .ok (some constant)) :
    constant.representation = c.target := by
  obtain ⟨name, values, -, -, -, h⟩ := constant?_eq_some h
  simp only [Constant.element] at h
  split at h
  · next htarget =>
    split at h
    · cases h
    · split at h
      · cases h
        exact htarget.symm
      · cases h
  · next htarget =>
    split at h
    · cases h
    · split at h
      · cases h
        exact htarget.symm
      · cases h
  · cases h

lemma element_sound {tag : TagCode} {node : Markup} (hstatic : ∀ name, tag = .static name →
      (AttributeCode.staticValues? codes).isSome → content.all Compiled.isStatic → node.holdsElement ∧ node.isConstant) :
    Gives (element c tag codes content) (Compiled.Sound c node) := by
  cases hmode : c.mode with
  | direct => cases tag <;> simp only [element, hmode] <;> exact .pure trivial
  | optimizing =>
    simp only [element, hmode]
    cases hconstant : constant? c tag codes content with
    | error e => exact .throw e
    | ok constant =>
      cases constant with
      | none => exact (Gives.lift (P := fun _ => True) fun _ => trivial).bind fun _ _ => .pure trivial
      | some constant =>
        have hrepresentation := representation_constant? hconstant
        obtain ⟨name, values, htag, hvalues, hcontent, -⟩ := constant?_eq_some hconstant
        exact .pure ⟨rfl, hmode, hrepresentation, hstatic name htag (by simp [hvalues]) hcontent⟩

lemma attributeCodes_named (attributes : List MarkupAttribute) : Gives (attributeCodes c attributes) fun codes =>
    (AttributeCode.staticValues? codes).isSome → attributes.all MarkupAttribute.isNamed := by
  simp only [AttributeCode.staticValues?, Option.isSome_map]
  induction attributes with
  | nil => exact .pure fun _ => rfl
  | cons first attributes ih =>
    cases first with
    | spread source =>
      simp only [attributeCodes]
      refine (Gives.trivial _).bind fun source _ => ih.bind fun codes _ => .pure ?_
      simp [AttributeCode.staticEntries?]
    | named name value =>
      cases value with
      | none =>
        simp only [attributeCodes]
        refine ih.bind fun codes hcodes => .pure ?_
        simpa [AttributeCode.staticEntries?, MarkupAttribute.isNamed] using hcodes
      | some value =>
        simp only [attributeCodes]
        refine (Gives.trivial _).bind fun value _ => ih.bind fun codes hcodes => .pure ?_
        cases value.constant? with
        | none => simp [AttributeCode.staticEntries?]
        | some value => simpa [AttributeCode.staticEntries?, MarkupAttribute.isNamed] using hcodes

lemma container_sound (e : Expr) (he : ∀ node, e ≠ .markup node) :
    Gives (markup c (.container (some e))) (Compiled.Sound c (.container (some e))) := by
  rw [markup_container he]
  refine (expression_stringValue? e he).bind fun code hcode => .pure ?_
  cases hstring : code.stringValue? with
  | none => trivial
  | some s =>
    refine ⟨rfl, ?_⟩
    rw [hstring] at hcode
    unfold Expr.stringValue? at hcode
    split at hcode
    · simp [Markup.isConstant]
    · cases hcode

mutual

lemma markup_sound : (node : Markup) → Gives (markup c node) (Compiled.Sound c node)
  | .text value => by
    simp only [markup]
    exact .pure ⟨rfl, by simp [Markup.isConstant]⟩
  | .container none => by
    simp only [markup]
    exact .pure trivial
  | .container (some (.markup node)) => by
    simp only [markup]
    refine (markup_sound node).mono fun code hcode => ?_
    simpa only [Compiled.Sound, Markup.isConstant, Markup.holdsElement] using hcode
  | .container (some (.identifier _)) | .container (some (.literal _)) | .container (some (.array _))
  | .container (some (.object _)) | .container (some (.member ..)) | .container (some (.index ..))
  | .container (some (.call ..)) | .container (some (.not _)) | .container (some (.binary ..))
  | .container (some (.conditional ..)) | .container (some (.arrow ..)) => container_sound _ (by simp)
  | .fragment children => by
    simp only [markup]
    exact (Gives.trivial _).bind fun _ _ => .pure trivial
  | .element (.component callee) attributes children _ => by
    simp only [markup]
    exact (Gives.trivial _).bind fun _ _ => (Gives.trivial _).bind fun _ _ => (Gives.trivial _).bind fun _ _ => .pure trivial
  | .element (.computed name) attributes children _ => by
    simp only [markup]
    exact (Gives.trivial _).bind fun _ _ => (Gives.trivial _).bind fun _ _ => (Gives.trivial _).bind fun _ _ =>
      element_sound (by simp)
  | .element (.static name) attributes children closed => by
    simp only [markup]
    split
    · exact .throw_bind _ _
    · refine (attributeCodes_named attributes).bind fun codes hcodes => (children_sound children).bind fun content hcontent =>
        (Gives.trivial _).bind fun _ _ => element_sound ?_
      rintro _ - hvalues hstatic
      exact ⟨rfl, by simp only [Markup.isConstant, hcodes hvalues, hcontent hstatic, Bool.and_self]⟩

lemma children_sound : (parts : List Markup) → Gives (children c parts) fun content =>
    content.all Compiled.isStatic → Markup.areConstant parts
  | [] => by
    simp only [children]
    exact .pure fun _ => by simp [Markup.areConstant]
  | node :: nodes => by
    by_cases hnode : node = .container none
    · subst hnode
      simp only [children]
      exact (children_sound nodes).mono fun content hcontent hstatic => by
        simp [Markup.areConstant, Markup.isConstant, hcontent hstatic]
    · rw [children_cons hnode]
      refine (markup_sound node).bind fun child hchild => (children_sound nodes).bind fun content hcontent => .pure ?_
      intro hstatic
      rw [Markup.areConstant, Bool.and_eq_true]
      -- A child that is left out is an empty text, so it is static too.
      split at hstatic
      · next hempty => exact ⟨hchild.isConstant (Compiled.isStatic_of_isEmptyText hempty), hcontent hstatic⟩
      · rw [List.all_cons, Bool.and_eq_true] at hstatic
        exact ⟨hchild.isConstant hstatic.1, hcontent hstatic.2⟩

end

/-- What is known of compiled markup is true. A node that is known is an element of the target's representation, made
of constant parts only, and its code is evaluated to the node in every scope. -/
theorem shape_sound {node : Markup} {code : Compiled} {k k' : Nat} (h : (markup c node).run k = (.ok code, k')) :
    (∀ value, code.shape = .text value → code.expr = .string value) ∧
    ∀ constant, code.shape = .constant constant →
      c.mode = .optimizing ∧ constant.representation = c.target ∧ c.target ≠ .stream ∧
      node.holdsElement ∧ node.isConstant ∧ (∀ x ∈ code.expr.subterms, x.isData) ∧
      ∀ (n : Nat) (scope : Scope) (s : Store), ∃ v t,
        Evaluation.expression (callWithin n) scope code.expr s = .ok v t ∧ v.toNode? = some constant.toAnyNode := by
  have hsound : code.Sound c node := markup_sound node k code k' h
  refine ⟨fun value hshape => ?_, fun constant hshape => ?_⟩
  · rw [Compiled.Sound, hshape] at hsound
    exact hsound.1
  · rw [Compiled.Sound, hshape] at hsound
    obtain ⟨hcode, hmode, htarget, hholds, hconstant⟩ := hsound
    refine ⟨hmode, htarget, ?_, hholds, hconstant, hcode ▸ constant.data_literal, fun n scope s => ?_⟩
    · rw [← htarget]
      cases constant <;> simp [Constant.representation]
    · have hquiet : Quietly s _ (Evaluation.expression (callWithin n) scope constant.literal) := constant.literal_read
      obtain ⟨v, t, hv, hread, -⟩ := hquiet s (.refl _ _)
      exact ⟨v, t, hcode ▸ hv, hread⟩

def constantMarkup : Markup :=
  .element (.static "p") [.named "hidden" (some (.bool false)), .named "title" (some (.string "y"))]
    [.text "a", .container (some (.string "b")), .container none,
      .container (some (.markup (.element (.static "b") [] [.text "c"] false)))] false

theorem shape_sound_paragraph :
    let c : Config := { target := .structured }
    let node : Node := .element "p" (AttributeValues.normalize (.ofList [("title", .string "y")]))
      [.text "ab", .element "b" .empty [.text "c"]]
    (markup c constantMarkup).run 0 = (.ok ⟨node.literal, .constant (.structured node)⟩, 0) ∧
      (∀ x ∈ node.literal.subterms, x.isData) ∧
      ∃ v t, Evaluation.expression (callWithin 0) [] node.literal {} = .ok v t ∧ v.toNode? = some (.structured node) := by
  intro c node
  have h : (markup c constantMarkup).run 0 = (.ok ⟨node.literal, .constant (.structured node)⟩, 0) := rfl
  obtain ⟨-, -, -, -, -, hdata, hread⟩ := (shape_sound h).2 (.structured node) rfl
  exact ⟨h, hdata, hread 0 [] {}⟩

end Compile

end TemplateScript
