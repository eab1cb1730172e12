import TemplateScript.Proofs.Template.TemplateCode

namespace TemplateScript

open Evaluation

def Expr.toHtml (call : Call) (scope : Scope) (e : Expr) : Eval String := do
  let v ← expression call scope e
  v.render call

def Renders (scope : Scope) (e : Expr) (s : Store) (answer : Except Fault String) : Prop :=
  Ends (fun n => e.toHtml (callWithin n) scope) s answer

def NodeFree (_ : RawNode) (_ : AnyNode Value) : Prop := False

variable {c : Config} {s : Store} {scope : Scope} {code : Expr} {html : String}

lemma renders_ok : Renders scope code s (.ok html) ↔
    ∃ v t, Evaluates scope code s v t ∧ ∃ u, Yields (fun n => v.render (callWithin n)) t html u := by
  have hbind {u : Store} : Yields (fun n => code.toHtml (callWithin n) scope) s html u ↔
      ∃ v t, Evaluates scope code s v t ∧ Yields (fun n => v.render (callWithin n)) t html u :=
    Yields.bind (expression_steady scope code) fun v => v.toChild.toHtml_steady
  constructor
  · rintro ⟨n, u, h⟩
    obtain ⟨v, t, hv, hu⟩ := hbind.1 ⟨n, h⟩
    exact ⟨v, t, hv, u, hu⟩
  · rintro ⟨v, t, hv, u, hu⟩
    obtain ⟨n, h⟩ := hbind.2 ⟨v, t, hv, hu⟩
    exact ⟨n, u, h⟩

lemma Means.renders_iff {M : Type} {b₀ : Builder M} {S : Store → M → AnyNode Value → Prop} {text : M → Option String}
    {D : Child M → Prop} (htexts : ∀ t, HasTexts t b₀ (S t) text) (h : Means S s scope code D) (hs : s.Closed) :
    Renders scope code s (.ok html) ↔
      ∃ child ms, D child ∧ child.nodes b₀ = .ok ms ∧ textOf text ms = some html := by
  rw [TemplateScript.renders_ok]
  constructor
  · rintro ⟨v, t, hv, u, hu⟩
    obtain ⟨child, hd⟩ := h.shows (.refl _ _) hs hv
    obtain ⟨w, t', hw, hread⟩ := h.runs (.refl _ _) hs hd
    obtain ⟨rfl, rfl⟩ := Yields.unique (expression_steady scope code) hv hw
    have hends := Child.toHtml_ends (htexts t) hread (.refl _ _)
    cases hnodes : child.nodes b₀ with
    | error fault =>
      rw [hnodes] at hends
      exact absurd hu (hends html u)
    | ok ms =>
      rw [hnodes, HtmlEnds] at hends
      cases htext : textOf text ms with
      | none =>
        rw [htext] at hends
        exact absurd hu (hends html u)
      | some html' =>
        rw [htext] at hends
        obtain ⟨u', -, hu'⟩ := hends
        obtain ⟨rfl, -⟩ := Yields.unique v.toChild.toHtml_steady hu hu'
        exact ⟨child, ms, hd, hnodes, htext⟩
  · rintro ⟨child, ms, hd, hnodes, htext⟩
    obtain ⟨v, t, hv, hread⟩ := h.runs (.refl _ _) hs hd
    have hends := Child.toHtml_ends (htexts t) hread (.refl _ _)
    rw [hnodes, HtmlEnds, htext] at hends
    obtain ⟨u, -, hu⟩ := hends
    exact ⟨v, t, hv, u, hu⟩

lemma Means.renders_ok {r : Representation} {D : Child RawNode → Prop} (h : Means (Shown r) s scope code D)
    (hs : s.Closed) : Renders scope code s (.ok html) ↔
      ∃ child raws, D child ∧ child.nodes rawBuilder = .ok raws ∧ html = htmlOf raws := by
  rw [h.renders_iff (hasTexts_shown r) hs]
  simp only [textOf_html, Option.some.injEq, eq_comm]

def Markup.answer? (c : Config) (scope : Scope) (s : Store) (n : Nat) (m : Markup) : Option (Except Fault String) :=
  match ((Compile.expression c (.markup m)).run 0).1 with
  | .error _ => none
  | .ok code =>
    match code.toHtml (callWithin n) scope s with
    | .ok html _ => some (.ok html)
    | .error (.fault fault) _ => some (.error fault)
    | .error .outOfFuel _ => none

lemma Markup.renders_of_answer? {m : Markup} {n : Nat} {answer : Except Fault String}
    (h : m.answer? c scope s n = some answer) :
    ∃ code, ((Compile.expression c (.markup m)).run 0).1 = .ok code ∧ Renders scope code s answer := by
  unfold Markup.answer? at h
  split at h
  · cases h
  · next code hcode =>
    refine ⟨code, hcode, ?_⟩
    split at h
    · next html t ht =>
      cases h
      exact ⟨n, t, ht⟩
    · next fault t ht =>
      cases h
      exact ⟨n, t, ht⟩
    · cases h

lemma reading_shown (h : isTemporary c.support = false) :
    Reading c (fun name => !isTemporary name) rawBuilder (Shown c.target) (fun _ => NodeFree) where
  view := .texts
  leaves := ⟨fun h => h.elim, fun _ _ => Iff.rfl⟩
  temporary _ := h
  ordinary _ name hname := by simp [hname]

/-- A template that is compiled for one target and mode is compiled for all, and its code renders to the same text. -/
theorem TemplateNode.renders_for_all (hsupport : isTemporary c.support = false) (node : TemplateNode)
    (hp : node.isProper (fun name => !isTemporary name) c.support = true) (hcontext : Context c s scope)
    (hsuits : node.Suits NodeFree s scope) {k : Nat}
    (hcode : ((Compile.expression c (.markup node.toMarkup)).run k).1 = .ok code) (target : Representation) (mode : Mode)
    (l : Nat) : ∃ code', ((Compile.expression { c with target, mode } (.markup node.toMarkup)).run l).1 = .ok code' ∧
      ∀ html, Renders scope code s (.ok html) ↔ Renders scope code' s (.ok html) := by
  have ends (target : Representation) (mode : Mode) :=
    Template.code (reading_shown (c := { c with target, mode }) hsupport) (.markup node)
      (by simpa only [Template.isProper] using hp)
  simp only [Template.toExpr, Template.SuitsIn] at ends
  have hcontext' (target : Representation) (mode : Mode) : Context { c with target, mode } s scope :=
    ⟨hcontext.inStore, hcontext.closed, hcontext.supports⟩
  obtain ⟨hcheck, -, hmeans⟩ := (ends c.target c.mode k).of_ok hcode
  have hend := ends target mode l
  rw [hcheck] at hend
  obtain ⟨code', hcode', -, hmeans'⟩ := hend.exists_ok
  refine ⟨code', hcode', fun html => ?_⟩
  rw [(hmeans (hcontext' _ _) hsuits).renders_ok hcontext.closed,
    (hmeans' (hcontext' _ _) hsuits).renders_ok hcontext.closed]

theorem TemplateNode.renders_for_all_list :
    let c : Config := {}
    let s := Store.ofSupport "_h"
    let item : TemplateNode := .element (.static "b") [] [.container (.plain (.identifier "x"))] false
    let node : TemplateNode := .element (.computed (.string "p"))
      [.named "title" (some (.conditional (.bool true) (.string "y") .null)), .spread (.object [.keyed "id" (.string "z")])]
      [.container (.map (.array [.single (.string "a"), .single (.string "<")]) "x" (.markup item))] false
    ∃ code, ((Compile.expression c (.markup node.toMarkup)).run 0).1 = .ok code ∧
      Renders [0] code s (.ok "<p title=\"y\" id=\"z\"><b>a</b><b>&lt;</b></p>") ∧
      ∀ target mode, ∃ code', ((Compile.expression { c with target, mode } (.markup node.toMarkup)).run 0).1 = .ok code' ∧
        ∀ html, Renders [0] code s (.ok html) ↔ Renders [0] code' s (.ok html) := by
  intro c s item node
  have hcontext : Context c s [0] := ⟨Store.ofSupport_in _, Store.ofSupport_closed _, Store.ofSupport_supports _⟩
  have hsuits : node.Suits NodeFree s [0] := by
    refine ⟨fun v t hv => ⟨"p", (evaluates_string.1 hv).1⟩, fun v t hv => ?_, trivial⟩
    simp only [evaluates_array, itemsYield_single, itemsYield_nil, evaluates_string] at hv
    obtain ⟨_, _, ⟨_, _, _, ⟨rfl, rfl⟩, ⟨_, _, _, ⟨rfl, rfl⟩, ⟨rfl, rfl⟩, rfl⟩, rfl⟩, hnew⟩ := hv
    obtain ⟨rfl, rfl⟩ := EStateM.Result.ok.inj hnew
    refine ⟨rfl, fun identity items h value hi => ⟨trivial, fun v t hv => ?_, trivial⟩⟩
    cases h
    have hget := (Store.get?_enter (hcontext.inStore.grow s.next_grows) _ _).symm.trans (evaluates_identifier.1 hv).1
    obtain rfl : value = v := by simpa [Entries.get?] using hget
    obtain rfl | rfl : value = .string "a" ∨ value = .string "<" := by simpa using hi
    · exact ⟨.text _, .text _⟩
    · exact ⟨.text _, .text _⟩
  obtain ⟨code, hcode, hrenders⟩ := Markup.renders_of_answer? (show node.toMarkup.answer? c [0] s 5 =
    some (.ok "<p title=\"y\" id=\"z\"><b>a</b><b>&lt;</b></p>") by decide +kernel)
  exact ⟨code, hcode, hrenders, fun target mode =>
    TemplateNode.renders_for_all (by decide) node (by decide) hcontext hsuits hcode target mode 0⟩

/-- The text depends on the target if what is mapped has a method of its own for it, and the code of some targets fails
if the support module has the name of a temporary. -/
theorem TemplateNode.renders_for_some :
    let item : TemplateNode := .element (.static "b") [] [.container (.plain (.identifier "x"))] false
    let own : Expr := .object [.keyed "map" (.arrow ["f"]
      (.expression (.member (.call (.identifier "f") [.single (.string "a")]) "type")))]
    let mapped : TemplateNode := .element (.static "p") [] [.container (.map own "x" (.markup item))] false
    let titled : TemplateNode :=
      .element (.static "p") [.named "title" (some (.conditional (.bool true) (.string "y") .null))] [] false
    (∃ code code', ((Compile.expression { target := .structured } (.markup mapped.toMarkup)).run 0).1 = .ok code ∧
      ((Compile.expression { target := .raw } (.markup mapped.toMarkup)).run 0).1 = .ok code' ∧
      Renders [0] code (Store.ofSupport "_h") (.ok "<p>element</p>") ∧
      Renders [0] code' (Store.ofSupport "_h") (.ok "<p>raw</p>")) ∧
    ∃ code code' fault,
      ((Compile.expression { target := .structured, support := "_a3" } (.markup titled.toMarkup)).run 0).1 = .ok code ∧
      ((Compile.expression { target := .stream, support := "_a3" } (.markup titled.toMarkup)).run 0).1 = .ok code' ∧
      Renders [0] code (Store.ofSupport "_a3") (.ok "<p title=\"y\"></p>") ∧
      Renders [0] code' (Store.ofSupport "_a3") (.error fault) := by
  intro item own mapped titled
  constructor
  · obtain ⟨code, hcode, hrenders⟩ := Markup.renders_of_answer? (show mapped.toMarkup.answer? { target := .structured }
      [0] (Store.ofSupport "_h") 5 = some (.ok "<p>element</p>") by decide +kernel)
    obtain ⟨code', hcode', hrenders'⟩ := Markup.renders_of_answer? (show mapped.toMarkup.answer? { target := .raw }
      [0] (Store.ofSupport "_h") 5 = some (.ok "<p>raw</p>") by decide +kernel)
    exact ⟨code, code', hcode, hcode', hrenders, hrenders'⟩
  · obtain ⟨code, hcode, hrenders⟩ := Markup.renders_of_answer? (show titled.toMarkup.answer?
      { target := .structured, support := "_a3" } [0] (Store.ofSupport "_a3") 5 = some (.ok "<p title=\"y\"></p>")
      by decide +kernel)
    obtain ⟨code', hcode', hrenders'⟩ := Markup.renders_of_answer? (show titled.toMarkup.answer?
      { target := .stream, support := "_a3" } [0] (Store.ofSupport "_a3") 5 =
      some (.error (.type (.notCallable "undefined"))) by decide +kernel)
    exact ⟨code, code', _, hcode, hcode', hrenders, hrenders'⟩

end TemplateScript
