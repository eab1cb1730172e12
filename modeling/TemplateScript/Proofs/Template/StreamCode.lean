import TemplateScript.Proofs.Template.LeafObservation
import TemplateScript.Proofs.Template.Meaning
import TemplateScript.Proofs.Template.StreamTexts

namespace TemplateScript

open Evaluation StreamNode

variable {c : Config} {s₀ s t : Store} {scope : Scope} {codes : List AttributeCode} {content : List Compiled}
  {N : String → Prop} {A : List (String × AttributeValue) → Prop} {M : Type} {b₀ : Builder M}
  {S : Store → M → AnyNode Value → Prop} {E : List (Child M) → Prop}

lemma leafText_grows (n : Nat) (code : Value) (e : Extension (StreamNode Value)) :
    Eval.Grows none (leafText (callWithin n) code e) := by
  refine (Eval.Grows.newSink "").bind fun i => e.toValue_grows.bind fun v => (callWithin_grows n none _ _).bind fun _ => ?_
  exact fun s => .refl _ s

lemma renderOutside_steady (x : StreamNode Value) :
    Steady fun n => x.renderOutside (fun (out : String) chunk => out ++ chunk) (callWithin n) :=
  fun _ _ hk => render_related (outsideSink_below _ (callWithin_below hk)) (.refl (fun _ => rfl) x)

lemma renderOutside_grows (n : Nat) (x : StreamNode Value) : Preserves (fun a b => Store.Grows none a.1 b.1)
    (x.renderOutside (fun (out : String) chunk => out ++ chunk) (callWithin n)) := by
  refine .render (fun a => .refl none a.1) (fun _ _ _ hab hbc => hab.trans hbc) (fun chunk a => .refl none a.1) ?_ x
  rintro code e ⟨s, out⟩
  have hgrows := leafText_grows n code e s
  simp only [outsideSink]
  generalize leafText (callWithin n) code e s = result at hgrows
  cases result <;> exact hgrows

lemma generated_renderOutside {n : Nat} {code : Value} {kind : LeafKind} {written : String} (out : String) :
    (StreamNode.generated code kind).renderOutside (fun (out : String) chunk => out ++ chunk) (callWithin n) (s, out) =
      .ok () (t, written) ↔
        ∃ text, (StreamNode.generated code kind).textWith (callWithin n) {} s = .ok text t ∧ written = out ++ text := by
  have hrun : (StreamNode.generated code kind).renderOutside (fun (out : String) chunk => out ++ chunk) (callWithin n) =
      (outsideSink (fun (out : String) chunk => out ++ chunk) (callWithin n)).run code {} := rfl
  simp only [hrun, textWith, leafBody, outsideSink]
  cases hleaf : leafText (callWithin n) code {} s with
  | error halt u => simp [Extension.map, hleaf]
  | ok text u => simp [Extension.map, hleaf, eq_comm]

lemma Written.generated {q : Pairing} {code : Value} {kind : LeafKind} {tag : String} {attributes : Attributes}
    {xs ys : List (StreamNode Value)} {text? : Option String}
    (h : Written t text? (.stream (.element tag attributes ys)))
    (hw : StreamElement.WritesElement s code tag attributes xs) (hst : Store.Match q s t)
    (hxs : List.Forall₂ (StreamNode.Rel (Value.Match q)) xs ys) :
    Written s text? (.stream (.generated code kind)) := by
  obtain ⟨_, he, h⟩ := h
  obtain rfl := AnyNode.stream.inj he
  have hnothing : Extension.Rel (StreamNode.Rel (Value.Match q)) {} {} := ⟨rfl, .none⟩
  have hend (n : Nat) {l : Store} (hl : Store.Grows none s l) :
      SameEnd ((StreamNode.generated code kind).textWith (callWithin (n + 2)) {} l)
        ((StreamNode.element tag attributes ys).textWith (callWithin (n + 1)) {} t) :=
    StreamElement.textWith_sameEnd hw hst hxs hl (.refl _ _) (hst.grow hl (.refl _ _)) hnothing n
  have htext {n : Nat} {text : String} {u : Store} :
      (StreamNode.element tag attributes ys).textWith (callWithin n) {} t = .ok text u ↔
        (StreamNode.element tag attributes ys).renderOutside (· ++ ·) (callWithin n) (t, "") = .ok () (u, text) := by
    rw [← gather_eq_ok, renderOutside, ← materialize_eq_gather, materialize_eq]
    rfl
  refine ⟨_, rfl, ?_⟩
  cases text? with
  | none =>
    refine ⟨renderOutside_steady _, fun l out st hl => ?_⟩
    rintro ⟨n, hn⟩
    obtain ⟨text, hx, -⟩ := (generated_renderOutside out).1 hn
    have hend := hend n hl
    rw [(textWith_steady _ {}).ok hx 2] at hend
    generalize hy : (StreamNode.element tag attributes ys).textWith (callWithin (n + 1)) {} t = y at hend
    cases hend with
    | ok _ _ u => exact h.2 t "" (u, text) (.refl _ _) ⟨n + 1, htext.1 hy⟩
  | some text =>
    refine ⟨renderOutside_steady _, fun l out hl => ?_⟩
    obtain ⟨u, hu, n, hn⟩ := h.2 t "" (.refl _ _)
    rw [String.empty_append] at hn
    have hend := hend n hl
    rw [(textWith_steady _ {}).ok (htext.2 hn) 1] at hend
    generalize hx : (StreamNode.generated code kind).textWith (callWithin (n + 2)) {} l = x at hend
    cases hend with
    | ok _ l' _ =>
      have hrun := (generated_renderOutside out).2 ⟨text, hx, rfl⟩
      exact ⟨l', (renderOutside_grows _ _).of_ok hrun, n + 2, hrun⟩

/-- Stream nodes stand for what is made as the nodes are, and leaves for what the elements that they write stand for. -/
structure StreamView (b₀ : Builder M) (S : Store → M → AnyNode Value → Prop) : Prop where
  mirrors : Mirrors .stream b₀ S
  generated {q : Pairing} {s t : Store} {code : Value} {kind : LeafKind} {tag : String} {attributes : Attributes}
    {xs ys : List (StreamNode Value)} {m : M} : S t m (.stream (.element tag attributes ys)) →
    StreamElement.WritesElement s code tag attributes xs → Store.Match q s t →
    List.Forall₂ (StreamNode.Rel (Value.Match q)) xs ys → S s m (.stream (.generated code kind))

lemma streamView_written : StreamView partialBuilder Written := ⟨mirrors_written, Written.generated⟩

lemma streamView_shown : StreamView rawBuilder (Shown .stream) where
  mirrors := mirrors_shown .stream
  generated {_ _ t _ _ _ _ _ _ raw} h hw hst hxs := (show Written t (some raw.html) _ from h).generated hw hst hxs

lemma leaf_means (hview : StreamView b₀ S) (kind : String → LeafKind) {leaf element : Expr} {D : Child M → Prop}
    (helement : Means S s₀ scope element D)
    (hout : ∀ s, Store.Grows none s₀ s → s.Closed → ∀ n, StreamElement.LeafEnds kind (.same s)
      (expression (callWithin (n + 1)) scope leaf s) (expression (callWithin (n + 1)) scope element s)) :
    Means S s₀ scope leaf D where
  runs {s} hg hs child hd := by
    obtain ⟨w, t, ⟨n, hw⟩, hshown⟩ := helement.runs hg hs hd
    have ho := hout s hg hs n
    rw [show expression (callWithin (n + 1)) scope element s = _ from (expression_steady scope _).ok hw 1] at ho
    generalize hx : expression (callWithin (n + 1)) scope leaf s = x at ho
    cases ho with
    | ok _ hst hwrites hxs =>
      refine ⟨_, _, ⟨n + 1, hx⟩, ?_⟩
      rw [Value.toChild_of_toNode? rfl] at hshown ⊢
      cases hshown with
      | node hshown => exact .node (hview.generated hshown hwrites hst hxs)
  shows {s t v} hg hs := by
    rintro ⟨n, hv⟩
    have ho := hout s hg hs n
    rw [show expression (callWithin (n + 1)) scope leaf s = _ from (expression_steady scope _).ok hv 1] at ho
    generalize hy : expression (callWithin (n + 1)) scope element s = y at ho
    cases ho with
    | ok => exact helement.shows hg hs ⟨n + 1, hy⟩

lemma streamElement_means (hview : StreamView b₀ S) (hin : scope.In s₀) (hsupport : s₀.Supports scope c.support)
    (hc : isTemporary c.support = false) (htarget : c.target = .stream) {tag : TagCode} (htag : TextMeans s₀ scope tag.expr N)
    (hadmits : ∀ name, tag = .static name → isComponentName name = false ∧ (isVoidTag name → content = []))
    (hattributes : AttributesMean s₀ scope codes A) (hcontent : ContentMeans S s₀ scope content E) (k : Nat) :
    Means S s₀ scope (Compile.specialized c tag codes content k).1 (ElementShows b₀ N A E) := by
  refine leaf_means hview .element (elementCall_means hview.mirrors hin hsupport htag hattributes hcontent)
    fun s hg hs n => ?_
  refine StreamElement.specialized_outcome hs (hin.grow hg) (hsupport.grow hin hg) hc htarget ?_ codes k (.refl _ _)
    (.refl _ _) n
  cases tag with
  | static name => exact hadmits name rfl
  | computed e =>
    intro n v t hv
    obtain ⟨name, rfl, -⟩ := (htag s hg hs v).1 ⟨t, n, hv⟩
    exact ⟨name, rfl⟩

end TemplateScript
