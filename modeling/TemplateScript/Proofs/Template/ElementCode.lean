import TemplateScript.Proofs.Template.RawCode
import TemplateScript.Proofs.Template.StreamCode
import TemplateScript.Proofs.Template.StructuredCode

namespace TemplateScript

open Evaluation

/-- What the nodes of a target stand for: the texts that they show, or what their trees or streams stand for. -/
inductive View (c : Config) : {M : Type} → Builder M → (Store → M → AnyNode Value → Prop) → Prop
  | texts : View c rawBuilder (Shown c.target)
  | trees {M : Type} {b₀ : Builder M} {R : M → Node → Prop} : c.target = .structured → TreeView b₀ R →
    View c b₀ (Trees R)
  | streams {M : Type} {b₀ : Builder M} {S : Store → M → AnyNode Value → Prop} : c.target = .stream → StreamView b₀ S →
    View c b₀ S

variable {M : Type} {b₀ : Builder M} {S : Store → M → AnyNode Value → Prop} {c : Config}

lemma View.mirrors (h : View c b₀ S) : Mirrors c.target b₀ S := by
  cases h with
  | texts => exact mirrors_shown c.target
  | trees htarget hview =>
    rw [htarget]
    exact mirrors_trees hview.builder
  | streams htarget hview =>
    rw [htarget]
    exact hview.mirrors

lemma View.tree (h : View c b₀ S) (htarget : c.target = .structured) :
    ∃ R : M → Node → Prop, S = Trees R ∧ TreeView b₀ R := by
  cases h with
  | texts =>
    rw [htarget]
    exact ⟨_, rfl, treeView_rebuilt⟩
  | trees _ hview => exact ⟨_, rfl, hview⟩
  | streams hstream => simp [htarget] at hstream

lemma View.stream (h : View c b₀ S) (htarget : c.target = .stream) : StreamView b₀ S := by
  cases h with
  | texts =>
    rw [htarget]
    exact streamView_shown
  | trees htree => simp [htarget] at htree
  | streams _ hview => exact hview

structure ElementParts (c : Config) (S : Store → M → AnyNode Value → Prop) (s₀ : Store) (scope : Scope) (tag : TagCode)
    (codes : List AttributeCode) (content : List Compiled) (N : String → Prop)
    (A : List (String × AttributeValue) → Prop) (E : List (Child M) → Prop) : Prop where
  inStore : scope.In s₀
  closed : s₀.Closed
  supports : s₀.Supports scope c.support
  tag : TextMeans s₀ scope tag.expr N
  attributes : AttributesMean s₀ scope codes A
  content : ContentMeans S s₀ scope content E
  temporary : c.target ≠ .structured → isTemporary c.support = false
  inside : c.target ≠ .structured → AttributesMeanInside s₀ scope codes A

def TagCode.Accepts (content : List Compiled) : TagCode → Prop
  | .static name => isComponentName name = false ∧ (isVoidTag name → content = [])
  | .computed _ => True

variable {s₀ : Store} {scope : Scope} {tag : TagCode} {codes : List AttributeCode} {content : List Compiled}
  {N : String → Prop} {A : List (String × AttributeValue) → Prop} {E : List (Child M) → Prop}

lemma TextMeans.static {name : String} (h : TextMeans s₀ scope (.string name) N) (hs : s₀.Closed) :
    N = (· = name) := by
  funext text
  have hiff := (h s₀ (.refl _ _) hs (.string text)).symm.trans (string_means name s₀ (.refl _ _) hs (.string text))
  simpa using hiff

lemma specialized_means_trees {R : M → Node → Prop} (hview : TreeView b₀ R) (htarget : c.target = .structured)
    (h : ElementParts c (Trees R) s₀ scope tag codes content N A E) (ha : tag.Accepts content) (k : Nat) :
    Means (Trees R) s₀ scope (Compile.specialized c tag codes content k).1 (ElementShows b₀ N A E) := by
  simp only [Compile.specialized, htarget]
  cases tag with
  | computed name => exact elementCall_means (mirrors_trees hview.builder) h.inStore h.supports h.tag h.attributes h.content
  | static name =>
    obtain rfl := h.tag.static h.closed
    exact structuredStatic_means hview h.inStore h.supports h.attributes h.content ha.1 ha.2

lemma specialized_means (hview : View c b₀ S) (h : ElementParts c S s₀ scope tag codes content N A E)
    (ha : tag.Accepts content) (k : Nat) :
    Means S s₀ scope (Compile.specialized c tag codes content k).1 (ElementShows b₀ N A E) := by
  cases htarget : c.target with
  | structured =>
    obtain ⟨R, rfl, htree⟩ := hview.tree htarget
    exact specialized_means_trees htree htarget h ha k
  | stream =>
    refine streamElement_means (hview.stream htarget) h.inStore h.supports (h.temporary (by simp [htarget])) htarget h.tag
      ?_ h.attributes h.content k
    rintro name rfl
    exact ha
  | raw =>
    cases hview with
    | trees htree => simp [htarget] at htree
    | streams hstream => simp [htarget] at hstream
    | texts =>
      have htemporary := h.temporary (by simp [htarget])
      have hcontent := h.content
      rw [htarget] at hcontent
      simp only [Compile.specialized, htarget]
      cases tag with
      | computed name =>
        exact rawComputed_means h.inStore h.supports htemporary h.tag.spells (h.inside (by simp [htarget])) hcontent k
      | static name =>
        obtain rfl := h.tag.static h.closed
        exact rawStatic_means h.inStore h.closed h.supports htemporary h.attributes hcontent ha.1 ha.2 k

lemma constant?_eq_some {node : Constant} (h : Compile.constant? c tag codes content = .ok (some node)) :
    ∃ name values, tag = .static name ∧ AttributeCode.staticValues? codes = some values ∧
      content.all Compiled.isStatic = true ∧ Constant.element c.target name values content = .ok (some node) := by
  cases tag with
  | computed e => simp [Compile.constant?] at h
  | static name =>
    simp only [Compile.constant?] at h
    cases hvalues : AttributeCode.staticValues? codes with
    | none => simp [hvalues] at h
    | some values =>
      simp only [hvalues] at h
      split at h
      · next hs => exact ⟨name, values, rfl, rfl, (Bool.and_eq_true _ _ ▸ hs).2, h⟩
      · simp at h

lemma constant_means (hview : View c b₀ S) (h : ElementParts c S s₀ scope tag codes content N A E) {node : Constant}
    (hnode : Compile.constant? c tag codes content = .ok (some node)) :
    Compiled.Means S s₀ scope ⟨node.literal, .constant node⟩ (ElementShows b₀ N A E) := by
  obtain ⟨name, values, rfl, hvalues, hstatic, hnode⟩ := constant?_eq_some hnode
  obtain rfl := h.tag.static h.closed
  have hcontent := h.content
  cases htarget : c.target with
  | stream => simp [Constant.element, htarget] at hnode
  | structured =>
    obtain ⟨R, rfl, htree⟩ := hview.tree htarget
    rw [htarget] at hnode
    simp only [Constant.element] at hnode
    cases hnodes : allSome (content.map Compiled.structured?) with
    | none => simp [hnodes] at hnode
    | some nodes =>
      simp only [hnodes] at hnode
      cases hbuilt : structuredBuilder.element name values nodes with
      | error fault => simp [hbuilt] at hnode
      | ok built =>
        rw [hbuilt] at hnode
        obtain rfl := Option.some.inj (Except.ok.inj hnode)
        exact structuredConstant_means htree h.attributes hcontent hstatic hvalues hnodes hbuilt
  | raw =>
    cases hview with
    | trees htree => simp [htarget] at htree
    | streams hstream => simp [htarget] at hstream
    | texts =>
      rw [htarget] at hcontent hnode ⊢
      simp only [Constant.element] at hnode
      cases hraws : allSome (content.map Compiled.raw?) with
      | none => simp [hraws] at hnode
      | some raws =>
        simp only [hraws] at hnode
        cases hbuilt : rawBuilder.element name values raws with
        | error fault => simp [hbuilt] at hnode
        | ok built =>
          rw [hbuilt] at hnode
          obtain rfl := Option.some.inj (Except.ok.inj hnode)
          exact rawConstant_means h.inStore h.attributes hcontent hvalues hraws hbuilt

lemma allSome_eq_nil {α β : Type} {f : α → Option β} {xs : List α} {ys : List β} (h : allSome (xs.map f) = some ys)
    (hx : xs = []) : ys = [] := by
  subst hx
  exact (Option.some.inj h).symm

lemma constant?_ne_error (ha : tag.Accepts content) (e : CompileError) :
    Compile.constant? c tag codes content ≠ .error e := by
  intro h
  cases tag with
  | computed e => simp [Compile.constant?] at h
  | static name =>
    have hcheck {α : Type} {xs : List α} (hx : content = [] → xs = []) : checkTag name (!xs.isEmpty) = .ok () := by
      cases hv : isVoidTag name with
      | false => simp [checkTag, ha.1, hv]
      | true => simp [checkTag, ha.1, hx (ha.2 hv)]
    simp only [Compile.constant?] at h
    split at h
    · simp at h
    · split at h
      · simp only [Constant.element] at h
        split at h
        · split at h
          · simp at h
          · next nodes hnodes =>
            simp [structuredBuilder, hcheck (allSome_eq_nil hnodes)] at h
        · split at h
          · simp at h
          · next raws hraws => simp [rawBuilder_element, hcheck (allSome_eq_nil hraws), Except.map] at h
        · simp at h
      · simp at h

lemma element_code (c : Config) (codes : List AttributeCode) (ha : tag.Accepts content) (k : Nat) :
    ∃ code k', (Compile.element c tag codes content).run k = (.ok code, k') ∧ code.isEmptyText = false ∧
      ∀ {M : Type} {b₀ : Builder M} {S : Store → M → AnyNode Value → Prop} {s₀ : Store} {scope : Scope}
        {N : String → Prop} {A : List (String × AttributeValue) → Prop} {E : List (Child M) → Prop}, View c b₀ S →
        ElementParts c S s₀ scope tag codes content N A E → code.Means S s₀ scope (ElementShows b₀ N A E) := by
  cases hmode : c.mode with
  | direct =>
    cases tag with
    | static name =>
      refine ⟨.dynamic (c.elementCall c.target (.string name) codes content), k, ?_, rfl, fun hview h => ⟨?_, trivial⟩⟩
      · simp only [Compile.element, hmode]
        rfl
      · exact elementCall_means hview.mirrors h.inStore h.supports h.tag h.attributes h.content
    | computed name =>
      refine ⟨.dynamic (c.elementCall c.target name codes content), k, ?_, rfl, fun hview h => ⟨?_, trivial⟩⟩
      · simp only [Compile.element, hmode]
        rfl
      · exact elementCall_means hview.mirrors h.inStore h.supports h.tag h.attributes h.content
  | optimizing =>
    simp only [Compile.element, hmode]
    cases hconstant : Compile.constant? c tag codes content with
    | error e => exact absurd hconstant (constant?_ne_error ha e)
    | ok constant =>
      cases constant with
      | some node => exact ⟨_, _, rfl, rfl, fun hview h => constant_means hview h hconstant⟩
      | none => exact ⟨_, _, rfl, rfl, fun hview h => ⟨specialized_means hview h ha k, trivial⟩⟩

end TemplateScript
