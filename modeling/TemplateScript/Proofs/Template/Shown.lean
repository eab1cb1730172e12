import Mathlib.Data.Option.NAry
import TemplateScript.Proofs.Evaluation.BigStep
import TemplateScript.Proofs.Evaluation.RenderedValues
import TemplateScript.Proofs.Template.Execution

namespace TemplateScript

open Evaluation

def Puts (s : Store) (text : String) (m : Nat → EStateM Halt (Store × String) Unit) : Prop :=
  Steady m ∧ ∀ t out, Store.Grows none s t → ∃ u, Store.Grows none t u ∧ Yields m (t, out) () (u, out ++ text)

lemma accepts_puts (s : Store) :
    Sink.Accepts (fun n => StreamNode.outsideSink (· ++ ·) (callWithin n)) (Puts s) where
  putAll chunks := by
    refine ⟨fun n k _ st => .inr ?_, fun t out _ => ⟨t, .refl _ _, 0, Representations.putAll_outside _ chunks t out⟩⟩
    exact (Representations.putAll_outside _ chunks st.1 st.2).trans
      (Representations.putAll_outside _ chunks st.1 st.2).symm
  seq hm hk := by
    refine ⟨hm.1.bind fun _ => hk.1, fun t out hs => ?_⟩
    obtain ⟨u, hu, hy⟩ := hm.2 t out hs
    obtain ⟨w, hw, hz⟩ := hk.2 u _ (hs.trans hu)
    refine ⟨w, hu.trans hw, (Yields.bind hm.1 fun _ => hk.1).2 ⟨(), _, hy, ?_⟩⟩
    rwa [← String.append_assoc]

def Trees {M : Type} (R : M → Node → Prop) (_ : Store) (m : M) (node : AnyNode Value) : Prop :=
  ∃ tree, node = .structured tree ∧ R m tree

def Shown : Representation → Store → RawNode → AnyNode Value → Prop
  | .structured => Trees fun raw tree => tree.rebuild rawBuilder = .ok raw
  | .stream => fun s raw node => ∃ stream, node = .stream stream ∧
    Puts s raw.html fun n => stream.renderOutside (· ++ ·) (callWithin n)
  | .raw => fun _ raw node => node = .raw raw

lemma Shown.later {s t : Store} {r : Representation} {raw : RawNode} {node : AnyNode Value} (h : Shown r s raw node)
    (hg : Store.Grows none s t) : Shown r t raw node := by
  cases r with
  | structured => exact h
  | stream =>
    obtain ⟨stream, rfl, h⟩ := h
    exact ⟨stream, rfl, h.1, fun u out hu => h.2 u out (hg.trans hu)⟩
  | raw => exact h

lemma raw_structured_related :
    Builder.Related (fun raw node => Node.rebuild rawBuilder node = .ok raw) rawBuilder structuredBuilder where
  text value := by simp only [structuredBuilder, Node.rebuild]
  prerendered html := by simp only [structuredBuilder, Node.rebuild]
  element tag values xs ys h := by
    have hl : xs.isEmpty = ys.isEmpty := by cases h <;> rfl
    rw [rawBuilder_element, hl]
    simp only [structuredBuilder]
    cases hc : checkTag tag (!ys.isEmpty) with
    | error fault => exact .error fault
    | ok _ =>
      refine .ok ?_
      have hr : Node.rebuild rawBuilder (.element tag values.normalize ys) =
          rawBuilder.element tag values.normalize.values xs := by
        simp only [Node.rebuild, Node.rebuildAll_eq_ok_iff.2 h.flip]
        rfl
      rw [hr, rawBuilder_element, hl, hc, Attributes.normalize_values]
      rfl

section Representations

variable {r : Representation} {M N : Type} {b₀ : Builder M} {S : M → AnyNode Value → Prop}

/-- How the nodes of a representation are made and told apart, and that they are made as another builder makes the
nodes that stand for them. -/
structure Represents (r : Representation) (b₀ : Builder M) (S : M → AnyNode Value → Prop) (R : M → N → Prop)
    (b : Builder N) (narrow : AnyNode Value → Except Fault N) (wrap : N → AnyNode Value) : Prop where
  builder : Builder.Related R b₀ b
  narrowed {m : M} {node : AnyNode Value} : S m node → Agree R (.ok m) (narrow node)
  wrapped {m : M} {node : N} : R m node → S m (wrap node)
  normalize (values : List Value) : AnyNode.normalize streamBuilder r Value.toChild values = (do
    let children ← Child.readAll Value.toChild narrow values
    return (← Child.flatten b children).map wrap)
  element (tag : String) (attributes : AttributeValues) (values : List Value) :
    AnyNode.element streamBuilder r tag attributes Value.toChild values = ((do
      let children ← Child.readAll Value.toChild narrow values
      b.element tag attributes (← Child.flatten b children) : Except Fault N).map wrap)

def ReadAs (S : M → AnyNode Value → Prop) : List (Child M) → List Value → Prop :=
  List.Forall₂ fun child v => Child.Rel S child v.toChild

lemma Represents.readAll {R : M → N → Prop} {b : Builder N} {narrow : AnyNode Value → Except Fault N}
    {wrap : N → AnyNode Value} (h : Represents r b₀ S R b narrow wrap) {children : List (Child M)}
    {values : List Value} (hv : ReadAs S children values) :
    ∃ own, Child.readAll Value.toChild narrow values = .ok own ∧ List.Forall₂ (Child.Rel R) children own := by
  have ha : Agree (List.Forall₂ (Child.Rel R)) (Child.mapAll .ok children)
      (Child.readAll Value.toChild narrow values) := by
    rw [Child.readAll_eq_mapAll]
    refine Child.mapAll_related (fun _ _ hn => h.narrowed hn) ?_
    rwa [List.forall₂_map_right_iff]
  rw [Child.mapAll_ok] at ha
  generalize Child.readAll Value.toChild narrow values = own at ha ⊢
  cases ha with
  | ok ho => exact ⟨_, rfl, ho⟩

structure Mirrors (r : Representation) (b₀ : Builder M) (S : Store → M → AnyNode Value → Prop) : Prop where
  later {s t : Store} {m : M} {node : AnyNode Value} : S s m node → Store.Grows none s t → S t m node
  represents (s : Store) : ∃ (N : Type) (R : M → N → Prop) (b : Builder N) (narrow : AnyNode Value → Except Fault N)
    (wrap : N → AnyNode Value), Represents r b₀ (S s) R b narrow wrap

lemma represents_trees {R : M → Node → Prop} (h : Builder.Related R b₀ structuredBuilder) (s : Store) :
    Represents .structured b₀ (Trees R s) R structuredBuilder AnyNode.toStructured .structured where
  builder := h
  narrowed := by
    rintro m _ ⟨tree, rfl, hr⟩
    exact .ok hr
  wrapped hr := ⟨_, rfl, hr⟩
  normalize _ := rfl
  element _ _ _ := rfl

lemma mirrors_trees {R : M → Node → Prop} (h : Builder.Related R b₀ structuredBuilder) :
    Mirrors .structured b₀ (Trees R) where
  later hr _ := hr
  represents s := ⟨_, _, _, _, _, represents_trees h s⟩

lemma mirrors_shown (r : Representation) : Mirrors r rawBuilder (Shown r) := by
  cases r with
  | structured => exact mirrors_trees raw_structured_related
  | stream =>
    refine ⟨Shown.later, fun s => ⟨_, _, streamBuilder, AnyNode.toStream, .stream,
      StreamNode.raw_stream_related (accepts_puts s), ?_, fun h => ⟨_, rfl, h⟩, fun _ => rfl, fun _ _ _ => rfl⟩⟩
    rintro raw _ ⟨stream, rfl, h⟩
    exact .ok h
  | raw =>
    refine ⟨Shown.later, fun s => ⟨_, _, rawBuilder, AnyNode.toRaw, .raw, Builder.related_self _, ?_, fun h => h ▸ rfl,
      fun _ => rfl, fun _ _ _ => rfl⟩⟩
    rintro raw _ rfl
    exact .ok rfl

variable {S : Store → M → AnyNode Value → Prop} {s : Store}

lemma Mirrors.normalize (h : Mirrors r b₀ S) {children : List (Child M)} {values : List Value}
    (hv : ReadAs (S s) children values) :
    Agree (List.Forall₂ (S s)) (Child.flatten b₀ children)
      (AnyNode.normalize streamBuilder r Value.toChild values) := by
  obtain ⟨N, R, b, narrow, wrap, hr⟩ := h.represents s
  obtain ⟨own, ho, hc⟩ := hr.readAll hv
  rw [hr.normalize, ho]
  have ha := Child.flatten_related hr.builder hc
  generalize Child.flatten b₀ children = x at ha ⊢
  generalize hy : Child.flatten b own = y at ha
  simp only [Bind.bind, Except.bind, hy]
  cases ha with
  | error fault => exact .error fault
  | ok hn =>
    refine .ok ?_
    rw [List.forall₂_map_right_iff]
    exact hn.imp fun _ _ h => hr.wrapped h

lemma Mirrors.element (h : Mirrors r b₀ S) (tag : String) (attributes : AttributeValues) {children : List (Child M)}
    {values : List Value} (hv : ReadAs (S s) children values) :
    Agree (S s) (Child.flatten b₀ children >>= b₀.element tag attributes)
      (AnyNode.element streamBuilder r tag attributes Value.toChild values) := by
  obtain ⟨N, R, b, narrow, wrap, hr⟩ := h.represents s
  obtain ⟨own, ho, hc⟩ := hr.readAll hv
  rw [hr.element, ho]
  have ha := (Child.flatten_related hr.builder hc).bind fun _ _ hn => hr.builder.element tag attributes hn
  generalize (Child.flatten b₀ children >>= b₀.element tag attributes) = x at ha ⊢
  generalize hy : (Child.flatten b own >>= b.element tag attributes) = y at ha
  simp only [Bind.bind, Except.bind] at hy ⊢
  rw [hy]
  cases ha with
  | ok h => exact .ok (hr.wrapped h)
  | error fault => exact .error fault

end Representations

section Html

variable {s t : Store} {r : Representation}

lemma AnyNode.toHtml_steady (node : AnyNode Value) : Steady fun n => node.toHtml (callWithin n) := by
  cases node with
  | stream node => exact node.materialize_steady
  | structured node => exact .const _
  | raw node => exact .const _

mutual

lemma Child.toHtml_steady : (child : Child (AnyNode Value)) → Steady fun n => child.toHtml (callWithin n)
  | .absent | .text _ | .number _ | .safe _ | .invalid _ => by
    simp only [Child.toHtml]
    exact .const _
  | .node built => by
    simp only [Child.toHtml]
    exact built.toHtml_steady
  | .list items => by
    simp only [Child.toHtml]
    exact (Child.toHtmls_steady items).bind fun _ => .const _

lemma Child.toHtmls_steady : (children : List (Child (AnyNode Value))) →
    Steady fun n => Child.toHtmls (callWithin n) children
  | [] => by
    simp only [Child.toHtmls]
    exact .const _
  | child :: children => by
    simp only [Child.toHtmls]
    exact (Child.toHtml_steady child).bind fun _ => (Child.toHtmls_steady children).bind fun _ => .const _

end

lemma Shown.toHtml {raw : RawNode} {node : AnyNode Value} (h : Shown r s raw node) (hg : Store.Grows none s t) :
    ∃ u, Store.Grows none t u ∧ Yields (fun n => node.toHtml (callWithin n)) t raw.html u := by
  cases r with
  | structured =>
    obtain ⟨tree, rfl, h⟩ := h
    refine ⟨t, .refl _ _, 0, ?_⟩
    simp only [AnyNode.toHtml, Node.toHtml, h]
    rfl
  | stream =>
    obtain ⟨stream, rfl, h⟩ := h
    obtain ⟨u, hu, n, hn⟩ := h.2 t "" hg
    refine ⟨u, hu, n, ?_⟩
    simp only [AnyNode.toHtml, StreamNode.materialize, hn, String.empty_append]
  | raw =>
    obtain rfl := h
    exact ⟨t, .refl _ _, 0, rfl⟩

lemma yields_concat {σ : Type} {m k : Nat → EStateM Halt σ String} {s u : σ} {text : String} (hm : Steady m)
    (hk : Steady k) : Yields (fun n => do
      let a ← m n
      let b ← k n
      return a ++ b) s text u ↔ ∃ a t, Yields m s a t ∧ ∃ b, Yields k t b u ∧ text = a ++ b := by
  refine (Yields.bind hm fun a => ?_).trans ?_
  · exact hk.bind fun b => .const (pure (a ++ b))
  · refine exists_congr fun a => exists_congr fun t => and_congr_right fun _ => ?_
    rw [Yields.bind_const hk]
    constructor
    · rintro ⟨b, _, hb, h⟩
      obtain ⟨rfl, rfl⟩ := EStateM.Result.ok.inj h
      exact ⟨b, hb, rfl⟩
    · rintro ⟨b, hb, rfl⟩
      exact ⟨b, u, hb, rfl⟩

def TextEnds (t : Store) (m : Nat → Eval String) : Option String → Prop
  | some html => ∃ u, Store.Grows none t u ∧ Yields m t html u
  | none => ∀ html u, ¬ Yields m t html u

structure HasTexts {M : Type} (s : Store) (b₀ : Builder M) (S : M → AnyNode Value → Prop) (text : M → Option String) :
    Prop where
  ofText (value : String) : text (b₀.text value) = some (escapeText value)
  ofPrerendered (html : String) : text (b₀.prerendered html) = some html
  ofNode {t : Store} {m : M} {node : AnyNode Value} : S m node → Store.Grows none s t →
    TextEnds t (fun n => node.toHtml (callWithin n)) (text m)

lemma hasTexts_shown (r : Representation) (s : Store) : HasTexts s rawBuilder (Shown r s) fun raw => some raw.html where
  ofText _ := rfl
  ofPrerendered _ := rfl
  ofNode h hg := h.toHtml hg

variable {M : Type} {b₀ : Builder M} {S : M → AnyNode Value → Prop} {text : M → Option String}

def textOf (text : M → Option String) : List M → Option String
  | [] => some ""
  | m :: ms => Option.map₂ (· ++ ·) (text m) (textOf text ms)

lemma textOf_append (ms ms' : List M) :
    textOf text (ms ++ ms') = Option.map₂ (· ++ ·) (textOf text ms) (textOf text ms') := by
  induction ms with
  | nil => cases h : textOf text ms' <;> simp [textOf, h]
  | cons m ms ih =>
    simp only [List.cons_append, textOf, ih]
    exact (Option.map₂_assoc fun a b c => @String.append_assoc a b c).symm

lemma textOf_html (raws : List RawNode) : textOf (fun raw : RawNode => some raw.html) raws = some (htmlOf raws) := by
  induction raws with
  | nil => rfl
  | cons raw raws ih => simp [textOf, ih, htmlOf, String.join_cons]

def HtmlEnds (text : M → Option String) (t : Store) (m : Nat → Eval String) : Except Fault (List M) → Prop
  | .ok ms => TextEnds t m (textOf text ms)
  | .error _ => TextEnds t m none

lemma TextEnds.concat {m k : Nat → Eval String} {a b : Option String} (hm : Steady m) (hk : Steady k)
    (ha : TextEnds t m a) (hb : ∀ u, Store.Grows none t u → TextEnds u k b) :
    TextEnds t (fun n => do
      let a ← m n
      let b ← k n
      return a ++ b) (Option.map₂ (· ++ ·) a b) := by
  cases a with
  | none =>
    intro html u h
    obtain ⟨a, v, hv, -⟩ := (yields_concat hm hk).1 h
    exact ha a v hv
  | some a =>
    obtain ⟨v, hv, hy⟩ := ha
    have hb := hb v hv
    cases b with
    | none =>
      intro html u h
      obtain ⟨a, v', hv', b, hz, -⟩ := (yields_concat hm hk).1 h
      obtain ⟨-, rfl⟩ := Yields.unique hm hy hv'
      exact hb b u hz
    | some b =>
      obtain ⟨u, hu, hz⟩ := hb
      exact ⟨u, hv.trans hu, (yields_concat hm hk).2 ⟨a, v, hy, b, hz, rfl⟩⟩

lemma HasTexts.joins (h : HasTexts s b₀ S text) : Child.Joins callWithin b₀ S fun m nodes =>
    Steady m ∧ ∀ {t : Store}, Store.Grows none s t → HtmlEnds text t m nodes where
  empty := ⟨.const _, fun {t} _ => ⟨t, .refl _ _, 0, rfl⟩⟩
  text value := by
    refine ⟨.const _, fun {t} _ => ?_⟩
    simp only [HtmlEnds, textOf, h.ofText]
    exact ⟨t, .refl _ _, 0, by simp [pure, EStateM.pure]⟩
  prerendered html := by
    refine ⟨.const _, fun {t} _ => ?_⟩
    simp only [HtmlEnds, textOf, h.ofPrerendered]
    exact ⟨t, .refl _ _, 0, by simp [pure, EStateM.pure]⟩
  node {m node} hm := by
    refine ⟨node.toHtml_steady, fun hg => ?_⟩
    have hends := h.ofNode hm hg
    simp only [HtmlEnds, textOf]
    generalize text m = html at hends ⊢
    cases html <;> simpa using hends
  fail fault := by
    refine ⟨.const _, fun _ => ?_⟩
    rintro html u ⟨n, h⟩
    cases h
  concat {m k x y} hm hk := by
    refine ⟨hm.1.bind fun _ => hk.1.bind fun _ => .const _, fun {t} hg => ?_⟩
    have hrest (u : Store) (hu : Store.Grows none t u) := hk.2 (hg.trans hu)
    have hfirst := hm.2 hg
    cases x with
    | error fault =>
      intro html u h
      obtain ⟨a, v, ha, -⟩ := (yields_concat hm.1 hk.1).1 h
      exact hfirst a v ha
    | ok ms =>
      cases y with
      | error fault =>
        simp only [HtmlEnds] at hrest
        have hends := hfirst.concat hm.1 hk.1 hrest
        rwa [Option.map₂_none_right] at hends
      | ok ms' =>
        have hends := hfirst.concat hm.1 hk.1 hrest
        rwa [← textOf_append] at hends

lemma Child.toHtml_ends (h : HasTexts s b₀ S text) {child : Child M} {shown : Child (AnyNode Value)}
    (hc : Child.Rel S child shown) (hg : Store.Grows none s t) :
    HtmlEnds text t (fun n => shown.toHtml (callWithin n)) (child.nodes b₀) :=
  (Child.toHtml_joins h.joins hc).2 hg

end Html

end TemplateScript
