import TemplateScript.Proofs.Script.Subterms
import TemplateScript.Proofs.Template.GeneratedCode
import TemplateScript.Proofs.Template.TemplateCode

/-!
A vocabulary that has room for a program and for generated code has room for the compiled program. The attributes of a
computed element stand outside every function of the generated code, except in code that is specialized to the raw target.
-/

namespace TemplateScript

def TagCode.Within (V : Vocabulary) (scope : List String) : TagCode → Prop
  | .static _ => True
  | .computed name => name.Within V scope

def Vocabulary.Allows (V : Vocabulary) (scope : List String) : Subterm → Prop
  | .expression (.identifier name) => V.refers scope name
  | .expression (.literal (.number value)) => V.literal (.number value)
  | .expression (.member _ name) => V.member name
  | .expression (.arrow params _) => ∀ name ∈ params, V.binds name ∧ V.tracks name = false
  | .statement (.importModule name _) => V.binds name
  | .statement (.declare _ name _) => V.binds name ∧ V.tracks name = false
  | .statement (.forOf name _ _) => V.binds name ∧ V.tracks name = false
  | _ => True

/-- The attributes of computed elements, in code for which they stand inside the function that binds the tag, are allowed
there as well. -/
structure Vocabulary.Admits (V : Vocabulary) (c : Config) (scope : List String) (xs : List Subterm) : Prop where
  allows : ∀ x ∈ xs, V.Allows scope x
  inner : c.mode = .optimizing → c.target = .raw → ∀ name attributes children closed,
    Subterm.markup (.element (.computed name) attributes children closed) ∈ xs →
    ∀ outer inner : List String, (∀ name ∈ inner, RawElement.IsOuter name) →
      ∀ x ∈ MarkupAttribute.subterms attributes, V.Allows outer x → V.Allows inner x

namespace Vocabulary.Admits

variable {V : Vocabulary} {c : Config} {scope : List String} {xs ys : List Subterm} {x : Subterm}

lemma mono (h : V.Admits c scope xs) (hsub : ys ⊆ xs) : V.Admits c scope ys :=
  ⟨fun x hx => h.allows x (hsub hx), fun hmode htarget name attributes children closed helement =>
    h.inner hmode htarget name attributes children closed (hsub helement)⟩

lemma head (h : V.Admits c scope (x :: xs)) : V.Allows scope x := h.allows x (List.mem_cons_self ..)

lemma tail (h : V.Admits c scope (x :: xs)) : V.Admits c scope xs := h.mono (List.subset_cons_self ..)

lemma left (h : V.Admits c scope (xs ++ ys)) : V.Admits c scope xs := h.mono (List.subset_append_left ..)

lemma right (h : V.Admits c scope (xs ++ ys)) : V.Admits c scope ys := h.mono (List.subset_append_right ..)

end Vocabulary.Admits

namespace Compile

open RawElement (IsOuter)

variable {V : Vocabulary} {c : Config} {scope : List String}

lemma specialized_within (hV : V.Suits c) {tag : TagCode} {codes : List AttributeCode} {content : List Compiled}
    (htag : tag.Within V scope) (hcodes : ∀ code ∈ codes, code.Within V scope)
    (hinner : c.target = .raw → ∀ name, tag = .computed name → ∀ names : List String, (∀ name ∈ names, IsOuter name) →
      ∀ code ∈ codes, code.Within V (V.extend names scope))
    (hcontent : ∀ child ∈ content, child.expr.Within V scope) :
    Fresh.Gives (specialized c tag codes content) (Expr.Within V scope) := by
  cases htarget : c.target <;> cases tag <;> simp only [specialized, htarget]
  case structured.static name => exact .pure (StructuredElement.static_within hV hcodes hcontent name)
  case structured.computed name => exact .pure (Config.elementCall_within hV htag hcodes hcontent .structured)
  case stream.static name => exact StreamElement.static_within hV hcodes hcontent name
  case stream.computed name => exact StreamElement.computed_within hV htag hcodes hcontent
  case raw.static name => exact RawElement.static_within hV hcodes hcontent name
  case raw.computed name => exact RawElement.computed_within hV htag (hinner htarget name rfl) hcontent

lemma element_within (hV : V.Suits c) {tag : TagCode} {codes : List AttributeCode} {content : List Compiled}
    (htag : tag.Within V scope) (hcodes : ∀ code ∈ codes, code.Within V scope)
    (hinner : c.mode = .optimizing → c.target = .raw → ∀ name, tag = .computed name →
      ∀ names : List String, (∀ name ∈ names, IsOuter name) → ∀ code ∈ codes, code.Within V (V.extend names scope))
    (hcontent : ∀ child ∈ content, child.expr.Within V scope) :
    Gives (element c tag codes content) fun code => code.expr.Within V scope := by
  cases hmode : c.mode with
  | direct =>
    cases tag with
    | static name =>
      simp only [element, hmode]
      exact .pure (Config.elementCall_within hV (hV.string_within name) hcodes hcontent c.target)
    | computed name =>
      simp only [element, hmode]
      exact .pure (Config.elementCall_within hV htag hcodes hcontent c.target)
  | optimizing =>
    simp only [element, hmode]
    cases constant? c tag codes content with
    | error e => exact .throw e
    | ok constant =>
      cases constant with
      | some node => exact .pure (node.literal_within hV)
      | none =>
        refine (Gives.lift (P := Expr.Within V scope) ?_).bind fun code hcode => .pure hcode
        exact specialized_within hV htag hcodes (hinner hmode) hcontent

lemma attributeCode_within (hV : V.Suits c) (name : String) {value : Expr} (h : value.Within V scope) :
    AttributeCode.Within V scope (match value.constant? with
      | some value => .static name value
      | none => .computed name value) := by
  cases hconstant : value.constant? with
  | none => exact h
  | some v =>
    unfold Expr.constant? at hconstant
    split at hconstant <;> cases hconstant
    · change (Expr.string _).Within V scope
      exact hV.string_within _
    all_goals simpa [AttributeCode.Within, AttributeValue.literal, Expr.bool, Expr.null, Expr.undefined] using h

lemma container_within (hV : V.Suits c) {e : Expr} (he : ∀ node, e ≠ .markup node)
    (h : Gives (expression c e) (Expr.Within V scope)) :
    Gives (markup c (.container (some e))) fun code => code.expr.Within V scope := by
  rw [markup_container he]
  refine h.bind fun code hcode => .pure ?_
  cases code.stringValue? with
  | none => exact hcode
  | some s => exact hV.string_within s

mutual

lemma expression_within (hV : V.Suits c) : (e : Expr) → ∀ scope, (∀ name ∈ scope, IsOuter name) → V.Admits c scope e.subterms →
    Gives (expression c e) (Expr.Within V scope)
  | .identifier name, scope, _, h => by
    simp only [expression]
    refine .pure ?_
    rw [Expr.subterms] at h
    rw [Expr.Within]
    exact h.head
  | .literal (.string value _), scope, _, _ => by
    simp only [expression]
    exact .pure (hV.string_within value)
  | .literal (.number value), scope, _, h => by
    simp only [expression]
    refine .pure ?_
    rw [Expr.subterms] at h
    rw [Expr.Within]
    exact h.head
  | .literal (.bool value), scope, _, _ => by
    simp only [expression]
    exact .pure (hV.bool_within value)
  | .literal .null, scope, _, _ => by
    simp only [expression]
    exact .pure hV.null_within
  | .literal .undefined, scope, _, _ => by
    simp only [expression]
    exact .pure hV.undefined_within
  | .array parts, scope, hscope, h => by
    simp only [expression]
    rw [Expr.subterms] at h
    exact (items_within hV parts scope hscope h.tail).bind fun parts hparts => .pure (by rwa [Expr.Within])
  | .object parts, scope, hscope, h => by
    simp only [expression]
    rw [Expr.subterms] at h
    exact (properties_within hV parts scope hscope h.tail).bind fun parts hparts => .pure (by rwa [Expr.Within])
  | .member object name, scope, hscope, h => by
    simp only [expression]
    rw [Expr.subterms] at h
    refine (expression_within hV object scope hscope h.tail).bind fun object hobject => .pure ?_
    rw [Expr.Within]
    exact ⟨hobject, h.head⟩
  | .index object index, scope, hscope, h => by
    simp only [expression]
    rw [Expr.subterms] at h
    refine (expression_within hV object scope hscope h.tail.left).bind fun object hobject =>
      (expression_within hV index scope hscope h.tail.right).bind fun index hindex => .pure ?_
    rw [Expr.Within]
    exact ⟨hobject, hindex⟩
  | .call callee arguments, scope, hscope, h => by
    simp only [expression]
    rw [Expr.subterms] at h
    refine (expression_within hV callee scope hscope h.tail.left).bind fun callee hcallee =>
      (items_within hV arguments scope hscope h.tail.right).bind fun arguments harguments => .pure ?_
    rw [Expr.Within]
    exact ⟨hcallee, harguments⟩
  | .not operand, scope, hscope, h => by
    simp only [expression]
    rw [Expr.subterms] at h
    exact (expression_within hV operand scope hscope h.tail).bind fun operand hoperand => .pure (by rwa [Expr.Within])
  | .binary op left right, scope, hscope, h => by
    simp only [expression]
    rw [Expr.subterms] at h
    refine (expression_within hV left scope hscope h.tail.left).bind fun left hleft =>
      (expression_within hV right scope hscope h.tail.right).bind fun right hright => .pure ?_
    rw [Expr.Within]
    exact ⟨hleft, hright⟩
  | .conditional test consequent alternate, scope, hscope, h => by
    simp only [expression]
    rw [Expr.subterms] at h
    refine (expression_within hV test scope hscope h.tail.left).bind fun test htest =>
      (expression_within hV consequent scope hscope h.tail.right.left).bind fun consequent hconsequent =>
        (expression_within hV alternate scope hscope h.tail.right.right).bind fun alternate halternate => .pure ?_
    rw [Expr.Within]
    exact ⟨htest, hconsequent, halternate⟩
  | .arrow params body, scope, hscope, h => by
    simp only [expression]
    rw [Expr.subterms] at h
    refine (function_within hV body scope hscope h.tail).bind fun body hbody => .pure ?_
    rw [Expr.Within, Vocabulary.extend_of_untracked fun name hname => (h.head name hname).2]
    exact ⟨fun name hname => (h.head name hname).1, hbody⟩
  | .markup node, scope, hscope, h => by
    simp only [expression]
    rw [Expr.subterms] at h
    exact (markup_within hV node scope hscope h.tail).bind fun code hcode => .pure hcode

lemma items_within (hV : V.Suits c) : (parts : List Item) → ∀ scope, (∀ name ∈ scope, IsOuter name) →
    V.Admits c scope (Item.subterms parts) → Gives (items c parts) (Item.AllWithin V scope)
  | [], scope, _, _ => by
    simp only [items]
    exact .pure (by simp [Item.AllWithin])
  | .single value :: parts, scope, hscope, h => by
    simp only [items]
    rw [Item.subterms] at h
    refine (expression_within hV value scope hscope h.left).bind fun value hvalue =>
      (items_within hV parts scope hscope h.right).bind fun parts hparts => .pure ?_
    rw [Item.AllWithin]
    exact ⟨hvalue, hparts⟩
  | .spread source :: parts, scope, hscope, h => by
    simp only [items]
    rw [Item.subterms] at h
    refine (expression_within hV source scope hscope h.left).bind fun source hsource =>
      (items_within hV parts scope hscope h.right).bind fun parts hparts => .pure ?_
    rw [Item.AllWithin]
    exact ⟨hsource, hparts⟩

lemma properties_within (hV : V.Suits c) : (parts : List Property) → ∀ scope, (∀ name ∈ scope, IsOuter name) →
    V.Admits c scope (Property.subterms parts) → Gives (properties c parts) (Property.AllWithin V scope)
  | [], scope, _, _ => by
    simp only [properties]
    exact .pure (by simp [Property.AllWithin])
  | .keyed key value :: parts, scope, hscope, h => by
    simp only [properties]
    rw [Property.subterms] at h
    refine (expression_within hV value scope hscope h.left).bind fun value hvalue =>
      (properties_within hV parts scope hscope h.right).bind fun parts hparts => .pure ?_
    rw [Property.AllWithin]
    exact ⟨hvalue, hparts⟩
  | .spread source :: parts, scope, hscope, h => by
    simp only [properties]
    rw [Property.subterms] at h
    refine (expression_within hV source scope hscope h.left).bind fun source hsource =>
      (properties_within hV parts scope hscope h.right).bind fun parts hparts => .pure ?_
    rw [Property.AllWithin]
    exact ⟨hsource, hparts⟩

lemma function_within (hV : V.Suits c) : (body : Body) → ∀ scope, (∀ name ∈ scope, IsOuter name) →
    V.Admits c scope body.subterms → Gives (function c body) (Body.Within V scope)
  | .expression value, scope, hscope, h => by
    simp only [function]
    rw [Body.subterms] at h
    exact (expression_within hV value scope hscope h).bind fun value hvalue => .pure (by rwa [Body.Within])
  | .block ss, scope, hscope, h => by
    simp only [function]
    rw [Body.subterms] at h
    refine (statements_within hV ss scope hscope h).bind fun ss hss => .pure ?_
    rw [Body.Within, Vocabulary.extend_of_untracked hss.2]
    exact hss.1

lemma statement_within (hV : V.Suits c) : (s : Stmt) → ∀ scope, (∀ name ∈ scope, IsOuter name) →
    V.Admits c scope s.subterms →
    Gives (statement c s) fun s => s.Within V scope ∧ ∀ name ∈ Stmt.declared [s], V.tracks name = false
  | .importModule name path, scope, _, h => by
    simp only [statement]
    rw [Stmt.subterms] at h
    refine .pure ⟨?_, by simp [Stmt.declared]⟩
    rw [Stmt.Within]
    exact h.head
  | .declare kind name value, scope, hscope, h => by
    simp only [statement]
    rw [Stmt.subterms] at h
    refine (expression_within hV value scope hscope h.tail).bind fun value hvalue => .pure ⟨?_, ?_⟩
    · rw [Stmt.Within]
      exact ⟨h.head.1, hvalue⟩
    · simpa [Stmt.declared] using h.head.2
  | .expression value, scope, hscope, h => by
    simp only [statement]
    rw [Stmt.subterms] at h
    refine (expression_within hV value scope hscope h.tail).bind fun value hvalue => .pure ⟨?_, by simp [Stmt.declared]⟩
    rwa [Stmt.Within]
  | .branch test consequent none, scope, hscope, h => by
    simp only [statement, otherwise, pure_bind]
    rw [Stmt.subterms] at h
    refine (expression_within hV test scope hscope h.tail.left).bind fun test htest =>
      (statement_within hV consequent scope hscope h.tail.right).bind fun consequent hconsequent =>
        .pure ⟨?_, by simp [Stmt.declared]⟩
    rw [Stmt.Within]
    exact ⟨htest, hconsequent.1⟩
  | .branch test consequent (some alternate), scope, hscope, h => by
    simp only [statement, otherwise, bind_assoc, pure_bind]
    rw [Stmt.subterms] at h
    refine (expression_within hV test scope hscope h.tail.left).bind fun test htest =>
      (statement_within hV consequent scope hscope h.tail.right.left).bind fun consequent hconsequent =>
        (statement_within hV alternate scope hscope h.tail.right.right).bind fun alternate halternate =>
          .pure ⟨?_, by simp [Stmt.declared]⟩
    rw [Stmt.Within]
    exact ⟨htest, hconsequent.1, halternate.1⟩
  | .block ss, scope, hscope, h => by
    simp only [statement]
    rw [Stmt.subterms] at h
    refine (statements_within hV ss scope hscope h.tail).bind fun ss hss => .pure ⟨?_, by simp [Stmt.declared]⟩
    rw [Stmt.Within, Vocabulary.extend_of_untracked hss.2]
    exact hss.1
  | .forOf name source body, scope, hscope, h => by
    simp only [statement]
    rw [Stmt.subterms] at h
    refine (expression_within hV source scope hscope h.tail.left).bind fun source hsource =>
      (statement_within hV body scope hscope h.tail.right).bind fun body hbody => .pure ⟨?_, by simp [Stmt.declared]⟩
    rw [Stmt.Within, Vocabulary.extend_of_untracked (by simpa using h.head.2)]
    exact ⟨h.head.1, hsource, hbody.1⟩
  | .leave none, scope, _, _ => by
    simp only [statement]
    exact .pure (by simp [Stmt.Within, Stmt.declared])
  | .leave (some value), scope, hscope, h => by
    simp only [statement]
    rw [Stmt.subterms] at h
    refine (expression_within hV value scope hscope h.tail).bind fun value hvalue => .pure ⟨?_, by simp [Stmt.declared]⟩
    rwa [Stmt.Within]

lemma statements_within (hV : V.Suits c) : (ss : List Stmt) → ∀ scope, (∀ name ∈ scope, IsOuter name) →
    V.Admits c scope (Stmt.allSubterms ss) →
    Gives (statements c ss) fun ss => Stmt.AllWithin V scope ss ∧ ∀ name ∈ Stmt.declared ss, V.tracks name = false
  | [], scope, _, _ => by
    simp only [statements]
    exact .pure (by simp [Stmt.AllWithin, Stmt.declared])
  | s :: ss, scope, hscope, h => by
    simp only [statements]
    rw [Stmt.allSubterms] at h
    refine (statement_within hV s scope hscope h.left).bind fun s hs =>
      (statements_within hV ss scope hscope h.right).bind fun ss hss => .pure ⟨?_, ?_⟩
    · rw [Stmt.AllWithin]
      exact ⟨hs.1, hss.1⟩
    · rw [Stmt.declared_cons, List.forall_mem_append]
      exact ⟨hs.2, hss.2⟩

lemma markup_within (hV : V.Suits c) : (node : Markup) → ∀ scope, (∀ name ∈ scope, IsOuter name) →
    V.Admits c scope node.subterms → Gives (markup c node) fun code => code.expr.Within V scope
  | .text value, scope, _, _ => by
    simp only [markup]
    exact .pure (hV.string_within _)
  | .container none, scope, _, _ => by
    simp only [markup]
    exact .pure hV.undefined_within
  | .container (some (.markup node)), scope, hscope, h => by
    simp only [markup]
    rw [Markup.subterms, Expr.subterms] at h
    exact markup_within hV node scope hscope h.tail.tail
  | .container (some (.identifier name)), scope, hscope, h => by
    rw [Markup.subterms] at h
    exact container_within hV (by simp) (expression_within hV (.identifier name) scope hscope h.tail)
  | .container (some (.literal value)), scope, hscope, h => by
    rw [Markup.subterms] at h
    exact container_within hV (by simp) (expression_within hV (.literal value) scope hscope h.tail)
  | .container (some (.array parts)), scope, hscope, h => by
    rw [Markup.subterms] at h
    exact container_within hV (by simp) (expression_within hV (.array parts) scope hscope h.tail)
  | .container (some (.object parts)), scope, hscope, h => by
    rw [Markup.subterms] at h
    exact container_within hV (by simp) (expression_within hV (.object parts) scope hscope h.tail)
  | .container (some (.member object name)), scope, hscope, h => by
    rw [Markup.subterms] at h
    exact container_within hV (by simp) (expression_within hV (.member object name) scope hscope h.tail)
  | .container (some (.index object index)), scope, hscope, h => by
    rw [Markup.subterms] at h
    exact container_within hV (by simp) (expression_within hV (.index object index) scope hscope h.tail)
  | .container (some (.call callee parts)), scope, hscope, h => by
    rw [Markup.subterms] at h
    exact container_within hV (by simp) (expression_within hV (.call callee parts) scope hscope h.tail)
  | .container (some (.not operand)), scope, hscope, h => by
    rw [Markup.subterms] at h
    exact container_within hV (by simp) (expression_within hV (.not operand) scope hscope h.tail)
  | .container (some (.binary op left right)), scope, hscope, h => by
    rw [Markup.subterms] at h
    exact container_within hV (by simp) (expression_within hV (.binary op left right) scope hscope h.tail)
  | .container (some (.conditional test consequent alternate)), scope, hscope, h => by
    rw [Markup.subterms] at h
    exact container_within hV (by simp) (expression_within hV (.conditional test consequent alternate) scope hscope h.tail)
  | .container (some (.arrow params body)), scope, hscope, h => by
    rw [Markup.subterms] at h
    exact container_within hV (by simp) (expression_within hV (.arrow params body) scope hscope h.tail)
  | .fragment parts, scope, hscope, h => by
    simp only [markup]
    rw [Markup.subterms] at h
    exact (children_within hV parts scope hscope h.tail).bind fun content hcontent =>
      .pure (Config.componentCall_within hV (hV.support_within (by decide)) (by simp) hcontent)
  | .element (.static name) attributes parts closed, scope, hscope, h => by
    simp only [markup]
    rw [Markup.subterms, Tag.subterms, List.nil_append] at h
    split
    · exact .throw_bind _ _
    · exact (attributeCodes_within hV attributes scope hscope h.tail.left).bind fun codes hcodes =>
        (children_within hV parts scope hscope h.tail.right).bind fun content hcontent =>
          (Gives.trivial _).bind fun _ _ => element_within hV trivial hcodes (by simp) hcontent
  | .element (.computed name) attributes parts closed, scope, hscope, h => by
    simp only [markup]
    rw [Markup.subterms, Tag.subterms] at h
    -- Code that is specialized to the raw target has the attributes inside the function that binds the tag, so that they
    -- are followed in both places. They are compiled once: both facts are about the same answer.
    have hinner : c.mode = .optimizing → c.target = .raw → Gives (attributeCodes c attributes) fun codes =>
        ∀ inner : List String, (∀ name ∈ inner, IsOuter name) → ∀ code ∈ codes, code.Within V inner := by
      intro hmode htarget k codes k' heq inner houter
      have hattributes := h.tail.right.left
      have hallows : ∀ x ∈ MarkupAttribute.subterms attributes, V.Allows inner x := fun x hx =>
        h.inner hmode htarget name attributes parts closed (List.mem_cons_self ..) scope inner houter x hx
          (hattributes.allows x hx)
      exact attributeCodes_within hV attributes inner houter ⟨hallows, hattributes.inner⟩ k codes k' heq
    refine (expression_within hV name scope hscope h.tail.left).bind fun name hname => ?_
    refine Gives.bind (P := fun codes => (∀ code ∈ codes, code.Within V scope) ∧ (c.mode = .optimizing → c.target = .raw →
        ∀ inner : List String, (∀ name ∈ inner, IsOuter name) → ∀ code ∈ codes, code.Within V inner)) ?_ ?_
    · intro k codes k' heq
      exact ⟨attributeCodes_within hV attributes scope hscope h.tail.right.left k codes k' heq,
        fun hmode htarget => hinner hmode htarget k codes k' heq⟩
    · rintro codes ⟨hcodes, hinner⟩
      exact (children_within hV parts scope hscope h.tail.right.right).bind fun content hcontent =>
        element_within hV hname hcodes (fun hmode htarget _ _ names hnames =>
          hinner hmode htarget _ (Vocabulary.forall_mem_extend hnames hscope)) hcontent
  | .element (.component callee) attributes parts closed, scope, hscope, h => by
    simp only [markup]
    rw [Markup.subterms, Tag.subterms] at h
    exact (expression_within hV callee scope hscope h.tail.left).bind fun callee hcallee =>
      (attributeCodes_within hV attributes scope hscope h.tail.right.left).bind fun codes hcodes =>
        (children_within hV parts scope hscope h.tail.right.right).bind fun content hcontent =>
          .pure (Config.componentCall_within hV hcallee hcodes hcontent)

lemma children_within (hV : V.Suits c) : (parts : List Markup) → ∀ scope, (∀ name ∈ scope, IsOuter name) →
    V.Admits c scope (Markup.allSubterms parts) →
    Gives (children c parts) fun content => ∀ child ∈ content, child.expr.Within V scope
  | [], scope, _, _ => by
    simp only [children]
    exact .pure (by simp)
  | node :: nodes, scope, hscope, h => by
    rw [Markup.allSubterms] at h
    by_cases hnode : node = .container none
    · subst hnode
      simp only [children]
      exact children_within hV nodes scope hscope h.right
    · rw [children_cons hnode]
      refine (markup_within hV node scope hscope h.left).bind fun child hchild =>
        (children_within hV nodes scope hscope h.right).bind fun content hcontent => .pure ?_
      split
      · exact hcontent
      · exact List.forall_mem_cons.2 ⟨hchild, hcontent⟩

lemma attributeCodes_within (hV : V.Suits c) : (attributes : List MarkupAttribute) → ∀ scope, (∀ name ∈ scope, IsOuter name) →
    V.Admits c scope (MarkupAttribute.subterms attributes) →
    Gives (attributeCodes c attributes) fun codes => ∀ code ∈ codes, code.Within V scope
  | [], scope, _, _ => by
    simp only [attributeCodes]
    exact .pure (by simp)
  | .named name none :: attributes, scope, hscope, h => by
    simp only [attributeCodes]
    rw [MarkupAttribute.subterms] at h
    have htrue : (Expr.bool true).Within V scope := hV.bool_within true
    exact (attributeCodes_within hV attributes scope hscope h).bind fun codes hcodes =>
      .pure (List.forall_mem_cons.2 ⟨htrue, hcodes⟩)
  | .named name (some value) :: attributes, scope, hscope, h => by
    simp only [attributeCodes]
    rw [MarkupAttribute.subterms] at h
    exact (expression_within hV value scope hscope h.left).bind fun value hvalue =>
      (attributeCodes_within hV attributes scope hscope h.right).bind fun codes hcodes =>
        .pure (List.forall_mem_cons.2 ⟨attributeCode_within hV name hvalue, hcodes⟩)
  | .spread source :: attributes, scope, hscope, h => by
    simp only [attributeCodes]
    rw [MarkupAttribute.subterms] at h
    exact (expression_within hV source scope hscope h.left).bind fun source hsource =>
      (attributeCodes_within hV attributes scope hscope h.right).bind fun codes hcodes =>
        .pure (List.forall_mem_cons.2 ⟨hsource, hcodes⟩)

end

end Compile

lemma Program.compile_eq_ok {c : Config} {p q : Program} (h : p.compile c = .ok q) : ∃ body k,
    Compile.statements c p 0 = (.ok body, k) ∧ q = (c.importPath.map (Stmt.importModule c.support)).toList ++ body := by
  simp only [Program.compile] at h
  cases hrun : (Compile.statements c p).run 0 with
  | mk result k =>
    rw [hrun] at h
    cases result with
    | error e => cases h
    | ok body =>
      cases h
      exact ⟨body, k, hrun, rfl⟩

lemma Program.compile_within {V : Vocabulary} {c : Config} (hV : V.Suits c) (hsupport : V.binds c.support) {p q : Program}
    (hp : V.Admits c [] p.subterms) (h : p.compile c = .ok q) : q.Within V := by
  obtain ⟨body, k, hbody, rfl⟩ := Program.compile_eq_ok h
  obtain ⟨hwithin, hdeclared⟩ := Compile.statements_within hV p [] (by simp) hp 0 body k hbody
  cases c.importPath with
  | none =>
    rw [Option.map_none, Option.toList_none, List.nil_append, Program.Within, Vocabulary.extend_of_untracked hdeclared]
    exact hwithin
  | some path =>
    rw [Option.map_some, Option.toList_some, List.singleton_append, Program.Within, Stmt.declared_cons,
      Vocabulary.extend_of_untracked (by simpa [Stmt.declared] using hdeclared), Stmt.AllWithin, Stmt.Within]
    exact ⟨hsupport, hwithin⟩

end TemplateScript
