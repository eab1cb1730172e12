import TemplateScript.Proofs.Evaluation.Showing
import TemplateScript.Proofs.Template.Shown

namespace TemplateScript

open Evaluation

variable {s t : Store} {text? inner? : Option String} {m k : Nat → EStateM Halt (Store × String) Unit}

def MayPut (s : Store) : Option String → (Nat → EStateM Halt (Store × String) Unit) → Prop
  | some text, m => Puts s text m
  | none, m => Steady m ∧ ∀ t out st, Store.Grows none s t → ¬ Yields m (t, out) () st

lemma MayPut.steady (h : MayPut s text? m) : Steady m := by
  cases text? with
  | none => exact h.1
  | some text => exact h.1

lemma MayPut.later (h : MayPut s text? m) (hg : Store.Grows none s t) : MayPut t text? m := by
  cases text? with
  | none => exact ⟨h.1, fun u out st hu => h.2 u out st (hg.trans hu)⟩
  | some text => exact ⟨h.1, fun u out hu => h.2 u out (hg.trans hu)⟩

lemma MayPut.seq (hm : MayPut s text? m) (hk : MayPut s inner? k) :
    MayPut s (Option.map₂ (· ++ ·) text? inner?) fun n => m n >>= fun _ => k n := by
  have hsteady := hm.steady.bind fun _ => hk.steady
  cases text? with
  | none =>
    refine ⟨hsteady, fun t out st ht h => ?_⟩
    obtain ⟨_, st', hst', -⟩ := (Yields.bind hm.steady fun _ => hk.steady).1 h
    exact hm.2 t out st' ht hst'
  | some text =>
    cases inner? with
    | none =>
      refine ⟨hsteady, fun t out st ht h => ?_⟩
      obtain ⟨_, st', hst', hst⟩ := (Yields.bind hm.steady fun _ => hk.steady).1 h
      obtain ⟨u, hu, hyields⟩ := hm.2 t out ht
      obtain ⟨-, rfl⟩ := Yields.unique hm.steady hyields hst'
      exact hk.2 u _ st (ht.trans hu) hst
    | some inner => exact (accepts_puts s).seq hm hk

def partialBuilder : Builder (Option String) where
  text value := some (escapeText value)
  prerendered html := some html
  element tag values texts := do
    checkTag tag (!texts.isEmpty)
    return (textOf id texts).map (elementHtml tag values.normalize)

section Elements

variable {nodes : List (StreamNode Value)} {texts : List (Option String)}

lemma renderAll_mayPut (h : List.Forall₂ (fun text? x => MayPut s text? fun n => x.renderOutside (· ++ ·) (callWithin n))
    texts nodes) : MayPut s (textOf id texts) fun n =>
      StreamNode.renderAll (StreamNode.outsideSink (· ++ ·) (callWithin n)) nodes := by
  induction h with
  | nil => exact (accepts_puts s).empty
  | cons hx _ ih =>
    simp only [StreamNode.renderAll_cons, textOf]
    exact hx.seq ih

lemma element_mayPut (tag : String) (attributes : Attributes)
    (h : MayPut s text? fun n => StreamNode.renderAll (StreamNode.outsideSink (· ++ ·) (callWithin n)) nodes) :
    MayPut s (text?.map (elementHtml tag attributes)) fun n =>
      (StreamNode.element tag attributes nodes).renderOutside (· ++ ·) (callWithin n) := by
  have hopen : MayPut s (some _) _ := (accepts_puts s).putAll ["<", tag, attributes.render, ">"]
  have hclose : MayPut s (some (if isVoidTag tag then "" else "</" ++ tag ++ ">")) fun n =>
      if isVoidTag tag then pure () else (StreamNode.outsideSink (· ++ ·) (callWithin n)).putAll ["</", tag, ">"] := by
    split
    · exact (accepts_puts s).empty
    · simpa [MayPut, String.join_cons, String.append_assoc] using (accepts_puts s).putAll ["</", tag, ">"]
  have hall := hopen.seq (h.seq hclose)
  cases text? with
  | none => simpa [StreamNode.renderOutside, StreamNode.render_element, StreamNode.renderElement,
      StreamNode.shownAttributes, StreamNode.renderStaged] using hall
  | some inner => simpa [StreamNode.renderOutside, elementHtml, String.join_cons, String.append_assoc,
      StreamNode.render_element, StreamNode.renderElement, StreamNode.shownAttributes, StreamNode.renderStaged] using hall

lemma partial_stream_related (s : Store) :
    Builder.Related (fun text? x => MayPut s text? fun n => x.renderOutside (· ++ ·) (callWithin n)) partialBuilder
      streamBuilder where
  text value := (StreamNode.raw_stream_related (accepts_puts s)).text value
  prerendered html := (StreamNode.raw_stream_related (accepts_puts s)).prerendered html
  element tag values texts nodes h := by
    have hlength : texts.isEmpty = nodes.isEmpty := by cases h <;> rfl
    simp only [partialBuilder, streamBuilder, streamBuilderWith, hlength]
    cases checkTag tag (!nodes.isEmpty) with
    | error fault => exact .error fault
    | ok _ => exact .ok (element_mayPut tag values.normalize (renderAll_mayPut h))

end Elements

def Written (s : Store) (text? : Option String) (node : AnyNode Value) : Prop :=
  ∃ stream, node = .stream stream ∧ MayPut s text? fun n => stream.renderOutside (· ++ ·) (callWithin n)

lemma mirrors_written : Mirrors .stream partialBuilder Written where
  later := by
    rintro s t text? _ ⟨stream, rfl, h⟩ hg
    exact ⟨stream, rfl, h.later hg⟩
  represents s := by
    refine ⟨_, _, streamBuilder, AnyNode.toStream, .stream, partial_stream_related s, ?_, fun h => ⟨_, rfl, h⟩,
      fun _ => rfl, fun _ _ _ => rfl⟩
    rintro text? _ ⟨stream, rfl, h⟩
    exact .ok h

lemma hasTexts_written (s : Store) : HasTexts s partialBuilder (Written s) id where
  ofText _ := rfl
  ofPrerendered _ := rfl
  ofNode := by
    rintro t text? _ ⟨stream, rfl, h⟩ hg
    cases text? with
    | some text =>
      have hshown : Shown .stream s ⟨text⟩ (.stream stream) := ⟨stream, rfl, h⟩
      exact hshown.toHtml hg
    | none =>
      rintro html u ⟨n, hn⟩
      simp only [AnyNode.toHtml, StreamNode.materialize_eq_gather] at hn
      exact h.2 t "" _ hg ⟨n, StreamNode.gather_eq_ok.1 hn⟩

end TemplateScript
