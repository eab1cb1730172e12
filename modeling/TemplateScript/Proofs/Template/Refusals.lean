import TemplateScript.Proofs.Script.ReadPrograms
import TemplateScript.Proofs.Template.Outcomes
import TemplateScript.Proofs.Template.TemplateCode

/-!
What compilation refuses. The refusals of a program are read off the program alone, in the order in which compilation
meets them, so that every configuration fails with the first of them or succeeds.
-/

namespace TemplateScript

inductive Refusal where
  | component (tag : String)
  | filledVoid (tag : String)

def Refusal.error : Refusal → CompileError
  | .component tag => .componentTag tag
  | .filledVoid tag => .voidElementChildren tag

mutual

def Expr.shownText? : Expr → Option String
  | .literal (.string value _) => some value
  | .markup node => node.shownText?
  | _ => none

def Markup.shownText? : Markup → Option String
  | .text value => some (normalizeText value)
  | .container (some value) => value.shownText?
  | _ => none

end

def Markup.isDropped : Markup → Bool
  | .container none => true
  | node => node.shownText? == some ""

mutual

def Expr.refusals : Expr → List Refusal
  | .identifier _ => []
  | .literal _ => []
  | .array items => Item.refusals items
  | .object properties => Property.refusals properties
  | .member object _ => object.refusals
  | .index object index => object.refusals ++ index.refusals
  | .call callee arguments => callee.refusals ++ Item.refusals arguments
  | .not operand => operand.refusals
  | .binary _ left right => left.refusals ++ right.refusals
  | .conditional test consequent alternate => test.refusals ++ (consequent.refusals ++ alternate.refusals)
  | .arrow _ body => body.refusals
  | .markup node => node.refusals

def Item.refusals : List Item → List Refusal
  | [] => []
  | .single value :: items => value.refusals ++ Item.refusals items
  | .spread source :: items => source.refusals ++ Item.refusals items

def Property.refusals : List Property → List Refusal
  | [] => []
  | .keyed _ value :: properties => value.refusals ++ Property.refusals properties
  | .spread source :: properties => source.refusals ++ Property.refusals properties

def Body.refusals : Body → List Refusal
  | .expression value => value.refusals
  | .block ss => Stmt.allRefusals ss

def Stmt.refusals : Stmt → List Refusal
  | .importModule .. => []
  | .declare _ _ value => value.refusals
  | .expression value => value.refusals
  | .branch test consequent none => test.refusals ++ consequent.refusals
  | .branch test consequent (some alternate) => test.refusals ++ (consequent.refusals ++ alternate.refusals)
  | .block ss => Stmt.allRefusals ss
  | .forOf _ source body => source.refusals ++ body.refusals
  | .leave none => []
  | .leave (some value) => value.refusals

def Stmt.allRefusals : List Stmt → List Refusal
  | [] => []
  | s :: ss => s.refusals ++ Stmt.allRefusals ss

def Markup.refusals : Markup → List Refusal
  -- A component name is refused before the parts of the element are looked at, children only after them.
  | .element (.static name) attributes children _ =>
    (if isComponentName name then [.component name] else []) ++
      (MarkupAttribute.refusals attributes ++ (Markup.allRefusals children ++
        (if isVoidTag name && !children.all Markup.isDropped then [.filledVoid name] else [])))
  | .element (.computed name) attributes children _ =>
    name.refusals ++ (MarkupAttribute.refusals attributes ++ Markup.allRefusals children)
  | .element (.component callee) attributes children _ =>
    callee.refusals ++ (MarkupAttribute.refusals attributes ++ Markup.allRefusals children)
  | .text _ => []
  | .container none => []
  | .container (some value) => value.refusals
  | .fragment children => Markup.allRefusals children

def Markup.allRefusals : List Markup → List Refusal
  | [] => []
  | node :: nodes => node.refusals ++ Markup.allRefusals nodes

def MarkupAttribute.refusals : List MarkupAttribute → List Refusal
  | [] => []
  | .named _ none :: attributes => MarkupAttribute.refusals attributes
  | .named _ (some value) :: attributes => value.refusals ++ MarkupAttribute.refusals attributes
  | .spread source :: attributes => source.refusals ++ MarkupAttribute.refusals attributes

end

lemma Expr.shownText?_eq_stringValue? {e : Expr} (he : ∀ node, e ≠ .markup node) : e.shownText? = e.stringValue? := by
  cases e with
  | markup node => exact absurd rfl (he node)
  | literal value => cases value <;> simp [Expr.shownText?, Expr.stringValue?]
  | _ => simp [Expr.shownText?, Expr.stringValue?]

abbrev Program.refusals (p : Program) : List Refusal := Stmt.allRefusals p

def Refusal.report : List Refusal → Except CompileError Unit
  | [] => .ok ()
  | r :: _ => .error r.error

namespace Compile

open Refusal

variable {c : Config} {k : Nat}

lemma report_append (rs qs : List Refusal) : report (rs ++ qs) = (report rs >>= fun _ => report qs) := by
  cases rs <;> rfl

section Steps

variable {α β : Type} {x : Compile α} {f : α → Compile β} {P : α → Prop} {Q : β → Prop}

lemma Ends.then {rs qs : List Refusal} (hx : Ends x k P (report rs)) (hf : ∀ a k', P a → Ends (f a) k' Q (report qs)) :
    Ends (x >>= f) k Q (report (rs ++ qs)) := by
  rw [report_append]
  exact hx.bind hf

lemma Ends.and_gives {P' : α → Prop} {check : Except CompileError Unit} (hx : Ends x k P check) (h : Gives x P') :
    Ends x k (fun a => P a ∧ P' a) check := by
  cases check with
  | error e => exact hx
  | ok _ =>
    obtain ⟨a, k', hxk, ha⟩ := hx
    exact ⟨a, k', hxk, ha, h k a k' hxk⟩

end Steps

lemma element_ends {tag : TagCode} {codes : List AttributeCode} {content : List Compiled} (h : tag.Accepts content) :
    Ends (element c tag codes content) k (fun code => code.isEmptyText = false) (report []) := by
  cases hmode : c.mode with
  | direct => cases tag <;> simp only [element, hmode] <;> exact .pure rfl
  | optimizing =>
    simp only [element, hmode]
    cases hconstant : constant? c tag codes content with
    | error e => exact absurd hconstant (constant?_ne_error h e)
    | ok constant =>
      cases constant with
      | none => exact ⟨_, _, rfl, rfl⟩
      | some node => exact .pure rfl

lemma checkContent_ends (name : String) (content : List Compiled) :
    Ends (checkContent name content) k (fun _ => isVoidTag name → content = [])
      (report (if isVoidTag name && !content.isEmpty then [.filledVoid name] else [])) := by
  unfold checkContent
  split
  · exact .throw _
  · next h => exact .pure (by simpa using h)

lemma container_ends {e : Expr} (he : ∀ node, e ≠ .markup node)
    (h : Ends (expression c e) k (fun _ => True) (report e.refusals)) :
    Ends (markup c (.container (some e))) k
      (fun code => code.isEmptyText = ((Markup.container (some e)).shownText? == some ""))
      (report (Markup.container (some e)).refusals) := by
  rw [markup_container he, Markup.refusals, Markup.shownText?]
  refine (h.and_gives (expression_stringValue? e he)).map fun code ⟨_, hcode⟩ => ?_
  rw [Expr.shownText?_eq_stringValue? he, ← hcode]
  cases code.stringValue? <;> rfl

mutual

lemma expression_ends : (e : Expr) → ∀ k, Ends (expression c e) k (fun _ => True) (report e.refusals)
  | .identifier _, k => by
    simp only [expression, Expr.refusals]
    exact .pure trivial
  | .literal value, k => by
    cases value <;> simp only [expression, Expr.refusals] <;> exact .pure trivial
  | .array parts, k => by
    simp only [expression, Expr.refusals]
    exact (items_ends parts k).map fun _ _ => trivial
  | .object parts, k => by
    simp only [expression, Expr.refusals]
    exact (properties_ends parts k).map fun _ _ => trivial
  | .member object _, k => by
    simp only [expression, Expr.refusals]
    exact (expression_ends object k).map fun _ _ => trivial
  | .index object index, k => by
    simp only [expression, Expr.refusals]
    exact (expression_ends object k).then fun _ k' _ => (expression_ends index k').map fun _ _ => trivial
  | .call callee arguments, k => by
    simp only [expression, Expr.refusals]
    exact (expression_ends callee k).then fun _ k' _ => (items_ends arguments k').map fun _ _ => trivial
  | .not operand, k => by
    simp only [expression, Expr.refusals]
    exact (expression_ends operand k).map fun _ _ => trivial
  | .binary _ left right, k => by
    simp only [expression, Expr.refusals]
    exact (expression_ends left k).then fun _ k' _ => (expression_ends right k').map fun _ _ => trivial
  | .conditional test consequent alternate, k => by
    simp only [expression, Expr.refusals]
    exact (expression_ends test k).then fun _ k₁ _ => (expression_ends consequent k₁).then fun _ k₂ _ =>
      (expression_ends alternate k₂).map fun _ _ => trivial
  | .arrow _ body, k => by
    simp only [expression, Expr.refusals]
    exact (function_ends body k).map fun _ _ => trivial
  | .markup node, k => by
    simp only [expression, Expr.refusals]
    exact (markup_ends node k).map fun _ _ => trivial

lemma items_ends : (parts : List Item) → ∀ k, Ends (items c parts) k (fun _ => True) (report (Item.refusals parts))
  | [], k => by
    simp only [items, Item.refusals]
    exact .pure trivial
  | .single value :: parts, k => by
    simp only [items, Item.refusals]
    exact (expression_ends value k).then fun _ k' _ => (items_ends parts k').map fun _ _ => trivial
  | .spread source :: parts, k => by
    simp only [items, Item.refusals]
    exact (expression_ends source k).then fun _ k' _ => (items_ends parts k').map fun _ _ => trivial

lemma properties_ends : (parts : List Property) → ∀ k,
    Ends (properties c parts) k (fun _ => True) (report (Property.refusals parts))
  | [], k => by
    simp only [properties, Property.refusals]
    exact .pure trivial
  | .keyed _ value :: parts, k => by
    simp only [properties, Property.refusals]
    exact (expression_ends value k).then fun _ k' _ => (properties_ends parts k').map fun _ _ => trivial
  | .spread source :: parts, k => by
    simp only [properties, Property.refusals]
    exact (expression_ends source k).then fun _ k' _ => (properties_ends parts k').map fun _ _ => trivial

lemma function_ends : (body : Body) → ∀ k, Ends (function c body) k (fun _ => True) (report body.refusals)
  | .expression value, k => by
    simp only [function, Body.refusals]
    exact (expression_ends value k).map fun _ _ => trivial
  | .block ss, k => by
    simp only [function, Body.refusals]
    exact (statements_ends ss k).map fun _ _ => trivial

lemma statement_ends : (s : Stmt) → ∀ k, Ends (statement c s) k (fun _ => True) (report s.refusals)
  | .importModule .., k => by
    simp only [statement, Stmt.refusals]
    exact .pure trivial
  | .declare _ _ value, k => by
    simp only [statement, Stmt.refusals]
    exact (expression_ends value k).map fun _ _ => trivial
  | .expression value, k => by
    simp only [statement, Stmt.refusals]
    exact (expression_ends value k).map fun _ _ => trivial
  | .branch test consequent none, k => by
    simp only [statement, otherwise, Stmt.refusals, pure_bind]
    exact (expression_ends test k).then fun _ k' _ => (statement_ends consequent k').map fun _ _ => trivial
  | .branch test consequent (some alternate), k => by
    simp only [statement, otherwise, Stmt.refusals, bind_assoc, pure_bind]
    exact (expression_ends test k).then fun _ k₁ _ => (statement_ends consequent k₁).then fun _ k₂ _ =>
      (statement_ends alternate k₂).map fun _ _ => trivial
  | .block ss, k => by
    simp only [statement, Stmt.refusals]
    exact (statements_ends ss k).map fun _ _ => trivial
  | .forOf _ source body, k => by
    simp only [statement, Stmt.refusals]
    exact (expression_ends source k).then fun _ k' _ => (statement_ends body k').map fun _ _ => trivial
  | .leave none, k => by
    simp only [statement, Stmt.refusals]
    exact .pure trivial
  | .leave (some value), k => by
    simp only [statement, Stmt.refusals]
    exact (expression_ends value k).map fun _ _ => trivial

lemma statements_ends : (ss : List Stmt) → ∀ k,
    Ends (statements c ss) k (fun _ => True) (report (Stmt.allRefusals ss))
  | [], k => by
    simp only [statements, Stmt.allRefusals]
    exact .pure trivial
  | s :: ss, k => by
    simp only [statements, Stmt.allRefusals]
    exact (statement_ends s k).then fun _ k' _ => (statements_ends ss k').map fun _ _ => trivial

lemma markup_ends : (node : Markup) → ∀ k,
    Ends (markup c node) k (fun code => code.isEmptyText = (node.shownText? == some "")) (report node.refusals)
  | .text value, k => by
    simp only [markup, Markup.refusals]
    exact .pure (by simp [Compiled.text, Compiled.isEmptyText, Markup.shownText?])
  | .container none, k => by
    simp only [markup, Markup.refusals]
    exact .pure rfl
  | .container (some (.markup node)), k => by
    simpa only [markup, Markup.refusals, Expr.refusals, Markup.shownText?, Expr.shownText?] using markup_ends node k
  | .container (some (.identifier name)), k => container_ends (by simp) (expression_ends (.identifier name) k)
  | .container (some (.literal value)), k => container_ends (by simp) (expression_ends (.literal value) k)
  | .container (some (.array parts)), k => container_ends (by simp) (expression_ends (.array parts) k)
  | .container (some (.object parts)), k => container_ends (by simp) (expression_ends (.object parts) k)
  | .container (some (.member object name)), k => container_ends (by simp) (expression_ends (.member object name) k)
  | .container (some (.index object index)), k => container_ends (by simp) (expression_ends (.index object index) k)
  | .container (some (.call callee parts)), k => container_ends (by simp) (expression_ends (.call callee parts) k)
  | .container (some (.not operand)), k => container_ends (by simp) (expression_ends (.not operand) k)
  | .container (some (.binary op left right)), k => container_ends (by simp) (expression_ends (.binary op left right) k)
  | .container (some (.conditional test consequent alternate)), k =>
    container_ends (by simp) (expression_ends (.conditional test consequent alternate) k)
  | .container (some (.arrow params body)), k => container_ends (by simp) (expression_ends (.arrow params body) k)
  | .fragment parts, k => by
    simp only [markup, Markup.refusals]
    exact (children_ends parts k).map fun _ _ => rfl
  | .element (.static name) attributes parts _, k => by
    simp only [markup, Markup.refusals]
    split
    · exact ⟨k, rfl⟩
    · next hname =>
      refine (attributeCodes_ends attributes k).then fun codes k₁ _ =>
        (children_ends parts k₁).then fun content k₂ hcontent => ?_
      rw [← hcontent]
      refine (checkContent_ends name content).next fun _ k₃ hvoid => ?_
      exact element_ends ⟨by simpa using hname, hvoid⟩
  | .element (.computed name) attributes parts _, k => by
    simp only [markup, Markup.refusals]
    exact (expression_ends name k).then fun _ k₁ _ => (attributeCodes_ends attributes k₁).then fun _ k₂ _ =>
      (children_ends parts k₂).next fun _ k₃ _ => element_ends trivial
  | .element (.component callee) attributes parts _, k => by
    simp only [markup, Markup.refusals]
    exact (expression_ends callee k).then fun _ k₁ _ => (attributeCodes_ends attributes k₁).then fun _ k₂ _ =>
      (children_ends parts k₂).map fun _ _ => rfl

lemma children_ends : (parts : List Markup) → ∀ k, Ends (children c parts) k
    (fun content => content.isEmpty = parts.all Markup.isDropped) (report (Markup.allRefusals parts))
  | [], k => by
    simp only [children, Markup.allRefusals]
    exact .pure rfl
  | node :: nodes, k => by
    by_cases hnode : node = .container none
    · subst hnode
      simpa [children, Markup.allRefusals, Markup.refusals, Markup.isDropped] using children_ends nodes k
    · rw [children_cons hnode, Markup.allRefusals]
      refine (markup_ends node k).then fun child k' hchild => (children_ends nodes k').map fun content hcontent => ?_
      have hdropped : node.isDropped = child.isEmptyText := by
        rw [hchild]
        unfold Markup.isDropped
        split
        · exact absurd rfl hnode
        · rfl
      rw [List.all_cons, hdropped, ← hcontent]
      cases child.isEmptyText <;> rfl

lemma attributeCodes_ends : (attributes : List MarkupAttribute) → ∀ k,
    Ends (attributeCodes c attributes) k (fun _ => True) (report (MarkupAttribute.refusals attributes))
  | [], k => by
    simp only [attributeCodes, MarkupAttribute.refusals]
    exact .pure trivial
  | .named _ none :: attributes, k => by
    simp only [attributeCodes, MarkupAttribute.refusals]
    exact (attributeCodes_ends attributes k).map fun _ _ => trivial
  | .named _ (some value) :: attributes, k => by
    simp only [attributeCodes, MarkupAttribute.refusals]
    exact (expression_ends value k).then fun _ k' _ => (attributeCodes_ends attributes k').map fun _ _ => trivial
  | .spread source :: attributes, k => by
    simp only [attributeCodes, MarkupAttribute.refusals]
    exact (expression_ends source k).then fun _ k' _ => (attributeCodes_ends attributes k').map fun _ _ => trivial

end

end Compile

lemma Program.compile_report (c : Config) (p : Program) : (p.compile c).map (fun _ => ()) = Refusal.report p.refusals := by
  have h := Compile.statements_ends (c := c) p 0
  simp only [Program.compile]
  cases hreport : Refusal.report p.refusals with
  | error e =>
    rw [hreport] at h
    obtain ⟨k', h⟩ := h
    rw [show (Compile.statements c p).run 0 = _ from h]
    rfl
  | ok _ =>
    rw [hreport] at h
    obtain ⟨body, k', h, -⟩ := h
    rw [show (Compile.statements c p).run 0 = _ from h]
    rfl

def Markup.isVacant : Markup → Bool
  | .text value => normalizeText value == ""
  | .container none => true
  | .container (some (.literal (.string value _))) => value == ""
  | _ => false

def Subterm.fillsVoid : Subterm → Bool
  | .markup (.element (.static name) _ children _) => isVoidTag name && !children.all Markup.isVacant
  | _ => false

/-- Static tags name elements, and markup among the expressions is an element or a fragment. -/
def Subterm.isRegular : Subterm → Bool
  | .expression (.markup node) => node.isTree
  | .markup (.element (.static name) ..) => !isComponentName name
  | _ => true

lemma Tag.WellFormed.not_isComponentName {name : String} (h : (Tag.static name).WellFormed) :
    isComponentName name = false := by
  obtain ⟨s, -, hs⟩ := h
  unfold Parser.classifyTag at hs
  split at hs
  · cases hs
  · split at hs
    · cases hs
    · next hplain =>
      cases hs
      simp_all

lemma Subterm.IsRead.isRegular {x : Subterm} (h : x.IsRead) : x.isRegular := by
  unfold Subterm.isRegular
  split
  · exact h
  · rw [Tag.WellFormed.not_isComponentName h]
    rfl
  · rfl

lemma Parser.isRegular_memberChain (path : String) : ∀ x ∈ (memberChain path).subterms, x.isRegular := by
  have hfold (names : List (List Char)) (e : Expr) (he : ∀ x ∈ e.subterms, x.isRegular) :
      ∀ x ∈ (names.foldl (fun e name => Expr.member e (String.ofList name)) e).subterms, x.isRegular := by
    induction names generalizing e with
    | nil => exact he
    | cons name names ih =>
      refine ih _ ?_
      rw [Expr.subterms, List.forall_mem_cons]
      exact ⟨rfl, he⟩
  have hroot (name : String) : ∀ x ∈ (Expr.identifier name).subterms, x.isRegular := by
    simp [Subterm.isRegular]
  unfold memberChain
  split
  · exact hroot _
  · exact hfold _ _ (hroot _)

lemma Tag.WellFormed.isRegular {tag : Tag} (h : tag.WellFormed) : ∀ x ∈ tag.subterms, x.isRegular := by
  obtain ⟨s, -, rfl⟩ := h
  unfold Parser.classifyTag
  split
  · rw [Tag.subterms]
    exact Parser.isRegular_memberChain _
  · split
    · rw [Tag.subterms]
      exact Parser.isRegular_memberChain _
    · simp

lemma Program.isRegular_of_parse {source : String} {p : Program} (h : Program.parse source = .ok p) :
    ∀ x ∈ p.subterms, x.isRegular := by
  intro x hx
  rcases Program.asRead_of_parse h x hx with hread | ⟨tag, -, -, -, htag, -, hmem⟩
  · exact hread.isRegular
  · exact htag.isRegular x hmem

lemma Markup.isDropped_eq_isVacant {node : Markup} (h : ∀ x ∈ node.subterms, x.isRegular) :
    node.isDropped = node.isVacant := by
  cases node with
  | element | fragment => rfl
  | text value => simp [Markup.isDropped, Markup.isVacant, Markup.shownText?]
  | container value =>
    cases value with
    | none => rfl
    | some e =>
      cases e with
      | literal value => cases value <;> simp [Markup.isDropped, Markup.isVacant, Markup.shownText?, Expr.shownText?]
      | markup node =>
        simp only [Markup.subterms, Expr.subterms, List.forall_mem_cons] at h
        obtain ⟨-, htree, -⟩ := h
        cases node <;> simp_all [Markup.isDropped, Markup.isVacant, Markup.shownText?, Expr.shownText?, Subterm.isRegular,
          Markup.isTree]
      | _ => simp [Markup.isDropped, Markup.isVacant, Markup.shownText?, Expr.shownText?]

lemma Markup.all_isDropped {nodes : List Markup} (h : ∀ x ∈ Markup.allSubterms nodes, x.isRegular) :
    nodes.all Markup.isDropped = nodes.all Markup.isVacant := by
  induction nodes with
  | nil => rfl
  | cons node nodes ih =>
    rw [Markup.allSubterms, List.forall_mem_append] at h
    rw [List.all_cons, List.all_cons, ih h.2, Markup.isDropped_eq_isVacant h.1]

def Refusal.Agree (refusals : List Refusal) (subterms : List Subterm) : Prop :=
  (∀ x ∈ subterms, x.isRegular) → (refusals = [] ↔ ∀ x ∈ subterms, x.fillsVoid = false)

namespace Refusal.Agree

variable {rs rs' : List Refusal} {xs xs' : List Subterm}

lemma nil : Agree [] [] := by simp [Agree]

lemma append (h : Agree rs xs) (h' : Agree rs' xs') : Agree (rs ++ rs') (xs ++ xs') := by
  intro hregular
  rw [List.forall_mem_append] at hregular
  rw [List.append_eq_nil_iff, List.forall_mem_append, h hregular.1, h' hregular.2]

lemma cons {x : Subterm} (hx : x.fillsVoid = false) (h : Agree rs xs) : Agree rs (x :: xs) := by
  intro hregular
  rw [List.forall_mem_cons] at hregular
  rw [List.forall_mem_cons, h hregular.2, and_iff_right hx]

lemma element {name : String} {attributes : List MarkupAttribute} {nodes : List Markup} {closed : Bool}
    (hattributes : Agree (MarkupAttribute.refusals attributes) (MarkupAttribute.subterms attributes))
    (hnodes : Agree (Markup.allRefusals nodes) (Markup.allSubterms nodes)) :
    Agree (Markup.element (.static name) attributes nodes closed).refusals
      (Markup.element (.static name) attributes nodes closed).subterms := by
  intro hregular
  have hboth := hattributes.append hnodes
  simp only [Markup.subterms, Tag.subterms, List.nil_append, List.forall_mem_cons] at hregular ⊢
  obtain ⟨hname, hrest⟩ := hregular
  have hplain : isComponentName name = false := by simpa [Subterm.isRegular] using hname
  -- What is left to compare is the element itself, which is refused if it is void and one of its children is shown.
  rw [← hboth hrest]
  rw [List.forall_mem_append] at hrest
  simp only [Markup.refusals, hplain, Markup.all_isDropped hrest.2, Subterm.fillsVoid]
  cases isVoidTag name && !nodes.all Markup.isVacant <;> simp

end Refusal.Agree

mutual

lemma Expr.refusals_agree : (e : Expr) → Refusal.Agree e.refusals e.subterms
  | .identifier _ | .literal _ => .cons rfl .nil
  | .array parts => .cons rfl (Item.refusals_agree parts)
  | .object parts => .cons rfl (Property.refusals_agree parts)
  | .member object _ => .cons rfl object.refusals_agree
  | .index object index => .cons rfl (object.refusals_agree.append index.refusals_agree)
  | .call callee arguments => .cons rfl (callee.refusals_agree.append (Item.refusals_agree arguments))
  | .not operand => .cons rfl operand.refusals_agree
  | .binary _ left right => .cons rfl (left.refusals_agree.append right.refusals_agree)
  | .conditional test consequent alternate =>
    .cons rfl (test.refusals_agree.append (consequent.refusals_agree.append alternate.refusals_agree))
  | .arrow _ body => .cons rfl body.refusals_agree
  | .markup node => .cons rfl node.refusals_agree

lemma Item.refusals_agree : (parts : List Item) → Refusal.Agree (Item.refusals parts) (Item.subterms parts)
  | [] => .nil
  | .single value :: parts => value.refusals_agree.append (Item.refusals_agree parts)
  | .spread source :: parts => source.refusals_agree.append (Item.refusals_agree parts)

lemma Property.refusals_agree : (parts : List Property) →
    Refusal.Agree (Property.refusals parts) (Property.subterms parts)
  | [] => .nil
  | .keyed _ value :: parts => value.refusals_agree.append (Property.refusals_agree parts)
  | .spread source :: parts => source.refusals_agree.append (Property.refusals_agree parts)

lemma Body.refusals_agree : (body : Body) → Refusal.Agree body.refusals body.subterms
  | .expression value => value.refusals_agree
  | .block ss => Stmt.allRefusals_agree ss

lemma Stmt.refusals_agree : (s : Stmt) → Refusal.Agree s.refusals s.subterms
  | .importModule .. | .leave none => .cons rfl .nil
  | .declare _ _ value | .expression value | .leave (some value) => .cons rfl value.refusals_agree
  | .branch test consequent none => .cons rfl (test.refusals_agree.append consequent.refusals_agree)
  | .branch test consequent (some alternate) =>
    .cons rfl (test.refusals_agree.append (consequent.refusals_agree.append alternate.refusals_agree))
  | .block ss => .cons rfl (Stmt.allRefusals_agree ss)
  | .forOf _ source body => .cons rfl (source.refusals_agree.append body.refusals_agree)

lemma Stmt.allRefusals_agree : (ss : List Stmt) → Refusal.Agree (Stmt.allRefusals ss) (Stmt.allSubterms ss)
  | [] => .nil
  | s :: ss => s.refusals_agree.append (Stmt.allRefusals_agree ss)

lemma Markup.refusals_agree : (node : Markup) → Refusal.Agree node.refusals node.subterms
  | .text _ | .container none => .cons rfl .nil
  | .container (some value) => .cons rfl value.refusals_agree
  | .fragment nodes => .cons rfl (Markup.allRefusals_agree nodes)
  | .element (.computed name) attributes nodes _ => .cons rfl
    (name.refusals_agree.append ((MarkupAttribute.refusals_agree attributes).append (Markup.allRefusals_agree nodes)))
  | .element (.component callee) attributes nodes _ => .cons rfl
    (callee.refusals_agree.append ((MarkupAttribute.refusals_agree attributes).append (Markup.allRefusals_agree nodes)))
  | .element (.static _) attributes nodes _ =>
    .element (MarkupAttribute.refusals_agree attributes) (Markup.allRefusals_agree nodes)

lemma Markup.allRefusals_agree : (nodes : List Markup) →
    Refusal.Agree (Markup.allRefusals nodes) (Markup.allSubterms nodes)
  | [] => .nil
  | node :: nodes => node.refusals_agree.append (Markup.allRefusals_agree nodes)

lemma MarkupAttribute.refusals_agree : (attributes : List MarkupAttribute) →
    Refusal.Agree (MarkupAttribute.refusals attributes) (MarkupAttribute.subterms attributes)
  | [] => .nil
  | .named _ none :: attributes => MarkupAttribute.refusals_agree attributes
  | .named _ (some value) :: attributes => value.refusals_agree.append (MarkupAttribute.refusals_agree attributes)
  | .spread source :: attributes => source.refusals_agree.append (MarkupAttribute.refusals_agree attributes)

end

namespace Program

/-- Whether compilation fails, and how, does not depend on the configuration, and building a constant node never fails.
A program that was read fails exactly if somewhere in it a void element has children. -/
theorem compile_fails_alike (p : Program) :
    (∀ c c', (p.compile c).map (fun _ => ()) = (p.compile c').map fun _ => ()) ∧
    (∀ c fault, p.compile c ≠ .error (.constantElement fault)) ∧
    ∀ source, Program.parse source = .ok p → ∀ c, (∃ e, p.compile c = .error e) ↔ ∃ x ∈ p.subterms, x.fillsVoid := by
  refine ⟨fun c c' => ?_, fun c fault h => ?_, fun source hparse c => ?_⟩
  · rw [compile_report, compile_report]
  · have hreport := compile_report c p
    rw [h] at hreport
    unfold Refusal.report at hreport
    split at hreport
    · cases hreport
    · next r _ _ => cases r <;> cases hreport
  · have hreport := compile_report c p
    have hnone := Stmt.allRefusals_agree p (isRegular_of_parse hparse)
    have hfails : (∃ e, p.compile c = .error e) ↔ p.refusals ≠ [] := by
      cases hp : p.refusals <;> cases hc : p.compile c <;> simp_all [Refusal.report, Except.map]
    rw [hfails, ne_eq, hnone]
    simp

def filledBreak : Program :=
  [.declare .constant "a" (.arrow [] (.expression (.markup (.element (.static "p")
    [.named "title" (some (.markup (.element (.static "br") [] [.container none, .text " x"] false)))] [] true))))]

theorem compile_fails_alike_break :
    Program.parse "const a = () => <p title=\x7b<br>\x7b\x7d x</br>\x7d />;" = .ok filledBreak ∧
      ∀ c, ∃ e, filledBreak.compile c = .error e := by
  have hparse : Program.parse "const a = () => <p title=\x7b<br>\x7b\x7d x</br>\x7d />;" = .ok filledBreak := rfl
  have hfilled : ∃ x ∈ filledBreak.subterms, x.fillsVoid :=
    ⟨.markup (.element (.static "br") [] [.container none, .text " x"] false),
      by simp [filledBreak],
      by decide⟩
  refine ⟨hparse, fun c => ?_⟩
  rw [(compile_fails_alike filledBreak).2.2 _ hparse c]
  exact hfilled

end Program

end TemplateScript
