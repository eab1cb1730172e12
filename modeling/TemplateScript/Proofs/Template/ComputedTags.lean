import TemplateScript.Proofs.Template.Configurations
import TemplateScript.Proofs.Template.ValidNodes

/-!
Computed tags. Direct code and all code of the structured target ask for a string. Optimized code of the other targets
takes the text of whatever the tag evaluates to: both modes agree on strings, and of anything else optimized code makes
the element that direct code makes of its text.
-/

namespace TemplateScript

open Evaluation

section Spelling

variable {M : Type} {b₀ : Builder M} {S : Store → M → AnyNode Value → Prop} {V : String → Bool} {c : Config} {s t : Store}
  {scope : Scope} {e : Expr} {v : Value} {codes : List AttributeCode} {content : List Compiled} {N : String → Prop}
  {A : List (String × AttributeValue) → Prop} {E : List (Child M) → Prop}

lemma spells_of_evaluates (hp : e.isPlain V = true) (hin : scope.In s) (hs : s.Closed) (hv : Evaluates scope e s v t) :
    Spells s scope e.unsourced (· = v.text) := by
  intro u hg _ text
  obtain ⟨p, hsu, hscope⟩ := (hs.seen (V := V) hin).later hg
  rw [← evaluates_congr hsu hscope (.unsourced e hp) (F := fun w _ => w.text = text) fun q v w _ _ _ _ hvw => by
    rw [hvw.text_eq]]
  constructor
  · rintro rfl
    exact ⟨v, t, hv, rfl⟩
  · rintro ⟨w, u', hw, rfl⟩
    obtain ⟨rfl, -⟩ := Yields.unique (expression_steady scope e) hv hw
    rfl

lemma leafKind_later (hp : e.isPlain V = true) (hin : scope.In s) (hs : s.Closed) (hv : Evaluates scope e s v t)
    {u u' : Store} {x : Value} (hg : Store.Grows none s u) (hx : Evaluates scope e.unsourced u x u') :
    Representation.leafKind (some x) = Representation.leafKind (some v) := by
  obtain ⟨p, hsu, hscope⟩ := (hs.seen (V := V) hin).later hg
  obtain ⟨w, t', hw, hkind⟩ := (evaluates_congr hsu hscope (.unsourced e hp)
    (F := fun w _ => Representation.leafKind (some x) = Representation.leafKind (some w))
    (G := fun w _ => Representation.leafKind (some x) = Representation.leafKind (some w)) fun q w w' _ _ _ _ hww => by
      rw [Representation.leafKind_eq (.some hww)]).2 ⟨x, u', hx, rfl⟩
  obtain ⟨rfl, -⟩ := Yields.unique (expression_steady scope e) hv hw
  exact hkind

lemma spelled_ends {kind : String → LeafKind} {n : Nat} (hset : Context c s scope) (hc : isTemporary c.support = false)
    (hkind : ∀ x t, Evaluates scope e s.next x t → Representation.leafKind (some x) = kind x.text) (k : Nat) :
    StreamElement.LeafEnds kind (.same s)
      (expression (callWithin (n + 1)) scope (StreamElement.computed c e codes content k).1 s)
      (expression (callWithin (n + 1)) scope (c.elementCall .stream (.binary .add (.string "") e) codes content) s) := by
  have hscopes := hset.inStore.match AnyName
  refine StreamElement.computed_ends hset.closed.match hscopes hset.supports hset.supports hc codes content ?_ k
  have ho := expression_follows (callWithin_follows (n + 1)) hscopes (Expr.Alike.refl e) s.next s
    (hset.closed.match.grow s.next_grows (.refl _ _))
  simp only [expression, Expr.string, literal, pure_bind]
  simp only [Bind.bind, EStateM.bind]
  generalize hx : expression (callWithin (n + 1)) scope e s.next = x at ho
  generalize expression (callWithin (n + 1)) scope e s = y at ho
  cases ho with
  | error halt had => exact .error halt had
  | ok had hxy =>
    refine .ok had ⟨?_, hkind _ _ ⟨n + 1, hx⟩⟩
    rw [hxy.text_eq]
    simp [Value.add, Value.addend?, Value.text]

lemma spelled_means (hview : View c b₀ S) (htarget : c.target ≠ .structured) (hset : Context c s scope)
    (hc : isTemporary c.support = false) (htag : Spells s scope e N) (kind : String → LeafKind)
    (hkind : ∀ {u u' x}, Store.Grows none s u → Evaluates scope e u x u' →
      Representation.leafKind (some x) = kind x.text)
    (hattributes : AttributesMean s scope codes A) (hinside : AttributesMeanInside s scope codes A)
    (hcontent : ContentMeans S s scope content E) (k : Nat) :
    Means S s scope (Compile.specialized c (.computed e) codes content k).1 (ElementShows b₀ N A E) := by
  cases hr : c.target with
  | structured => exact absurd hr htarget
  | raw =>
    cases hview with
    | trees htree => simp [hr] at htree
    | streams hstream => simp [hr] at hstream
    | texts =>
      rw [hr] at hcontent ⊢
      simp only [Compile.specialized, hr]
      exact rawComputed_means hset.inStore hset.supports hc htag hinside hcontent k
  | stream =>
    have hstream := hview.stream hr
    have htext : TextMeans s scope (.binary .add (.string "") e) N :=
      ((string_means "").add hset.inStore htag).congr fun text => by simp
    simp only [Compile.specialized, hr]
    refine leaf_means hstream kind
      (elementCall_means hstream.mirrors hset.inStore hset.supports htext hattributes hcontent) fun u hg hu n => ?_
    exact spelled_ends (hset.later hg hu) hc (fun x t hx => hkind (hg.trans u.next_grows) hx) k

end Spelling

section Modes

variable {M : Type} {b₀ : Builder M} {L S : Store → M → AnyNode Value → Prop} {text : M → Option String} {V : String → Bool}
  {c : Config} {s t : Store} {scope : Scope} {tag code : Expr} {v : Value} {attributes : List MarkupAttribute}
  {children : List TemplateNode} {selfClosing : Bool}

def Compile.computedCode (c : Config) (tag : Expr) (codes : List AttributeCode) (content : List Compiled) (k : Nat) : Expr :=
  match c.mode with
  | .direct => c.elementCall c.target tag codes content
  | .optimizing => (Compile.specialized c (.computed tag) codes content k).1

lemma computedCode_eq_call (h : c.mode = .direct ∨ c.target = .structured) (codes : List AttributeCode)
    (content : List Compiled) (k : Nat) :
    Compile.computedCode c tag codes content k = c.elementCall c.target tag codes content := by
  cases hmode : c.mode with
  | direct => simp only [Compile.computedCode, hmode]
  | optimizing =>
    have htarget : c.target = .structured := h.resolve_left (by simp [hmode])
    simp only [Compile.computedCode, hmode, Compile.specialized, htarget]
    rfl

lemma computedCode_ends (h : Reading c V b₀ S L)
    (hp : (TemplateNode.element (.computed tag) attributes children selfClosing).isProper V c.support = true) (k : Nat) :
    Compile.Ends (Compile.expression c
        (.markup (TemplateNode.element (.computed tag) attributes children selfClosing).toMarkup)) k (fun code =>
      ∃ content k', code = Compile.computedCode c tag.unsourced (attributes.map MarkupAttribute.code) content k' ∧
        ∀ {s scope}, Context c s scope → TemplateNode.AllSuitIn L children s scope →
          ContentMeans S s scope content (TemplateNode.AllShowIn b₀ L children s scope)) (TemplateNode.checkAll children) := by
  rw [TemplateNode.isProper, Bool.and_eq_true, Bool.and_eq_true] at hp
  simp only [Compile.expression, TemplateNode.toMarkup, TagCode.toTag, Compile.markup, bind_assoc]
  refine .after (Compile.expression_plain tag hp.1.1 k) (.after (Compile.attributeCodes_plain attributes hp.1.2 k) ?_)
  refine (TemplateNode.codes h children hp.2 k).next fun content k' hcontent => ?_
  cases hmode : c.mode with
  | direct =>
    simp only [Compile.element, hmode, pure_bind]
    exact .pure ⟨content, k', by simp only [Compile.computedCode, hmode]; rfl, hcontent.2⟩
  | optimizing =>
    simp only [Compile.element, hmode, Compile.constant?]
    exact ⟨_, _, rfl, content, k', by simp only [Compile.computedCode, hmode]; rfl, hcontent.2⟩

lemma name_of_elementCall {r : Representation} {codes : List AttributeCode} {content : List Compiled}
    (hs : s.Supports scope c.support) (h : Evaluates scope (c.elementCall r tag codes content) s v t) :
    ∃ name u, Evaluates scope tag s (.string name) u := by
  obtain ⟨x, u, w, u', vs, u'', hx, -, -, hm⟩ := (evaluates_elementCall hs).1 h
  cases x with
  | string name => exact ⟨name, u, hx⟩
  | _ => cases hm

lemma not_renders_of_call (hset : Context c s scope) (hcalls : c.mode = .direct ∨ c.target = .structured)
    (hp : tag.isPlain V = true) (hv : Evaluates scope tag s v t) (hne : ∀ name, v ≠ .string name)
    {codes : List AttributeCode} {content : List Compiled} {k : Nat} {html : String} :
    ¬ Renders scope (Compile.computedCode c tag.unsourced codes content k) s (.ok html) := by
  rw [computedCode_eq_call hcalls]
  intro h
  obtain ⟨w, u, hw, -⟩ := renders_ok.1 h
  obtain ⟨name, u', hname⟩ := name_of_elementCall hset.supports hw
  obtain ⟨p, hs, hscope⟩ := hset.closed.seen (V := V) hset.inStore
  obtain ⟨x, u'', hx, hstring⟩ := (evaluates_congr hs hscope (.unsourced tag hp) (F := fun x _ => x = .string name)
    (G := fun x _ => x = .string name) fun q v w _ _ _ _ hvw => hvw.eq_string_iff name).2 ⟨_, u', hname, rfl⟩
  obtain ⟨rfl, -⟩ := Yields.unique (expression_steady scope tag) hv hx
  exact hne name hstring

lemma Sight.reading (h : Sight c.target b₀ S text) (hsupport : isTemporary c.support = false) :
    Reading c (fun name => !isTemporary name) b₀ S S where
  view := h.view rfl
  leaves := h.leaves
  temporary _ := hsupport
  ordinary _ name hname := by simp [hname]

lemma computedCode_compiles (hsight : Sight c.target b₀ S text) (hsupport : isTemporary c.support = false)
    (hp : (TemplateNode.element (.computed tag) attributes children selfClosing).isProper (fun name => !isTemporary name)
      c.support = true) {k : Nat}
    (hcode : ((Compile.expression c
      (.markup (TemplateNode.element (.computed tag) attributes children selfClosing).toMarkup)).run k).1 = .ok code)
    (mode : Mode) {e : Expr} (he : (TemplateNode.element (.computed e) attributes children selfClosing).isProper
      (fun name => !isTemporary name) c.support = true) (l : Nat) :
    ∃ code', ((Compile.expression { c with mode }
        (.markup (TemplateNode.element (.computed e) attributes children selfClosing).toMarkup)).run l).1 = .ok code' ∧
      ∃ content k', code' = Compile.computedCode { c with mode } e.unsourced (attributes.map MarkupAttribute.code) content k' := by
  have hcheck := ((computedCode_ends (hsight.reading hsupport) hp k).of_ok hcode).1
  have hend := computedCode_ends (Sight.reading (c := { c with mode }) hsight hsupport) he l
  rw [hcheck] at hend
  obtain ⟨code', hcode', content, k', heq, -⟩ := hend.exists_ok
  exact ⟨code', hcode', content, k', heq⟩

lemma TemplateNode.renders_iff (hset : Context c s scope) (hsight : Sight c.target b₀ S text)
    (hsupport : isTemporary c.support = false) {node : TemplateNode}
    (hp : node.isProper (fun name => !isTemporary name) c.support = true) (hsuits : node.SuitsIn S s scope) {k : Nat}
    (hcode : ((Compile.expression c (.markup node.toMarkup)).run k).1 = .ok code) (html : String) :
    Renders scope code s (.ok html) ↔ ∃ child ms, node.ShowsIn b₀ S s scope child ∧ child.nodes b₀ = .ok ms ∧
      textOf text ms = some html := by
  have hends := Template.code (hsight.reading hsupport) (.markup node) (by simpa only [Template.isProper] using hp) k
  simp only [Template.toExpr, Template.SuitsIn] at hends
  obtain ⟨-, -, hmeans⟩ := hends.of_ok hcode
  rw [(hmeans hset hsuits).renders_iff hsight.hasTexts hset.closed]
  simp only [Template.ShowsIn]

lemma renders_spelled (hset : Context c s scope) (hsight : Sight c.target b₀ S text)
    (hsupport : isTemporary c.support = false) (htarget : c.target ≠ .structured) (hmode : c.mode = .optimizing)
    (hp : (TemplateNode.element (.computed tag) attributes children selfClosing).isProper (fun name => !isTemporary name)
      c.support = true)
    (hsuits : TemplateNode.AllSuitIn S children s scope) (hv : Evaluates scope tag s v t)
    (hne : ∀ name, v ≠ .string name) {k : Nat}
    (hcode : ((Compile.expression c
      (.markup (TemplateNode.element (.computed tag) attributes children selfClosing).toMarkup)).run k).1 = .ok code)
    (html : String) :
    Renders scope code s (.ok html) ↔ ∃ child ms, ElementShows b₀ (· = v.text)
      (MarkupAttribute.AllGive s scope attributes) (TemplateNode.AllShowIn b₀ S children s scope) child ∧
      child.nodes b₀ = .ok ms ∧ textOf text ms = some html := by
  have hreading := hsight.reading hsupport
  obtain ⟨-, content, k', rfl, hcontent⟩ := (computedCode_ends hreading hp k).of_ok hcode
  rw [TemplateNode.isProper, Bool.and_eq_true, Bool.and_eq_true] at hp
  have hkind : Representation.leafKind (some v) = .text := by
    cases v with
    | string name => exact absurd rfl (hne name)
    | _ => rfl
  have hmeans := spelled_means hreading.view htarget hset hsupport
    (spells_of_evaluates hp.1.1 hset.inStore hset.closed hv) (fun _ => .text)
    (fun hg hx => (leafKind_later hp.1.1 hset.inStore hset.closed hv hg hx).trans hkind)
    (attributes_mean hp.1.2 (hset.closed.seen hset.inStore)) (attributes_inside hreading hset hp.1.2 htarget)
    (hcontent hset hsuits) k'
  rw [Compile.computedCode, hmode]
  exact hmeans.renders_iff hsight.hasTexts hset.closed

lemma isProper_named (hp : (TemplateNode.element (.computed tag) attributes children selfClosing).isProper V c.support = true)
    (name : String) :
    (TemplateNode.element (.computed (.string name)) attributes children selfClosing).isProper V c.support = true := by
  rw [TemplateNode.isProper, Bool.and_eq_true, Bool.and_eq_true] at hp ⊢
  exact ⟨⟨rfl, hp.1.2⟩, hp.2⟩

lemma renders_spelled_iff (hset : Context c s scope) (hsight : Sight c.target b₀ S text)
    (hsupport : isTemporary c.support = false) (htarget : c.target ≠ .structured)
    (hp : (TemplateNode.element (.computed tag) attributes children selfClosing).isProper (fun name => !isTemporary name)
      c.support = true)
    (hsuits : TemplateNode.AllSuitIn S children s scope) (hv : Evaluates scope tag s v t)
    (hne : ∀ name, v ≠ .string name) {l : Nat} {optimized named : Expr}
    (hoptimized : ((Compile.expression { c with mode := .optimizing }
      (.markup (TemplateNode.element (.computed tag) attributes children selfClosing).toMarkup)).run l).1 = .ok optimized)
    (hnamed : ((Compile.expression { c with mode := .direct } (.markup
      (TemplateNode.element (.computed (.string v.text)) attributes children selfClosing).toMarkup)).run l).1 = .ok named)
    (html : String) : Renders scope optimized s (.ok html) ↔ Renders scope named s (.ok html) := by
  have hset' (mode : Mode) : Context { c with mode } s scope := ⟨hset.inStore, hset.closed, hset.supports⟩
  have hnames : TagCode.Names s scope (.computed (.string v.text)) = (· = v.text) := by
    funext text
    simp [TagCode.Names, evaluates_string]
  have hsuits' : (TemplateNode.element (.computed (.string v.text)) attributes children selfClosing).SuitsIn S s scope :=
    ⟨fun x u hx => ⟨_, (evaluates_string.1 hx).1⟩, hsuits⟩
  rw [renders_spelled (hset' .optimizing) hsight hsupport htarget rfl hp hsuits hv hne hoptimized html,
    TemplateNode.renders_iff (hset' .direct) hsight hsupport (isProper_named hp v.text) hsuits' hnamed html]
  simp only [TemplateNode.ShowsIn, hnames]

/-- Both modes compile an element with a computed tag, whose children are valid for the target. If the tag is a string, or
the target the structured one, their code renders to the same text. If the tag is anything else, direct code never
renders; for the other targets optimized code renders what direct code renders if the text of the tag stands in its
place. -/
theorem TemplateNode.computed_tag_modes (hsupport : isTemporary c.support = false) (hset : Context c s scope)
    (hp : (TemplateNode.element (.computed tag) attributes children selfClosing).isProper (fun name => !isTemporary name)
      c.support = true)
    (hsuits : TemplateNode.AllSuit (fun (_ : Unit) node => node.Valid c.target) children s scope) {k : Nat}
    (hcode : ((Compile.expression c
      (.markup (TemplateNode.element (.computed tag) attributes children selfClosing).toMarkup)).run k).1 = .ok code)
    (l : Nat) :
    let compiled (mode : Mode) (tag : Expr) := ((Compile.expression { c with mode }
      (.markup (TemplateNode.element (.computed tag) attributes children selfClosing).toMarkup)).run l).1
    ∃ direct optimized, compiled .direct tag = .ok direct ∧ compiled .optimizing tag = .ok optimized ∧
      ((TagCode.computed tag).IsText s scope ∨ c.target = .structured →
        ∀ html, Renders scope direct s (.ok html) ↔ Renders scope optimized s (.ok html)) ∧
      ∀ v t, Evaluates scope tag s v t → (∀ name, v ≠ .string name) →
        (∀ html, ¬ Renders scope direct s (.ok html)) ∧ (c.target ≠ .structured →
          ∃ named, compiled .direct (.string v.text) = .ok named ∧
            ∀ html, Renders scope optimized s (.ok html) ↔ Renders scope named s (.ok html)) := by
  intro compiled
  obtain ⟨M, b₀, S, text, hsight⟩ := exists_sight c.target
  have hset' (mode : Mode) : Context { c with mode } s scope := ⟨hset.inStore, hset.closed, hset.supports⟩
  have hplain := hp
  rw [TemplateNode.isProper, Bool.and_eq_true, Bool.and_eq_true] at hplain
  have hsuits := TemplateNode.AllSuitIn.inStores hsight.valid children hplain.2 hset hsuits
  obtain ⟨direct, hdirect, hcall⟩ := computedCode_compiles hsight hsupport hp hcode .direct hp l
  obtain ⟨optimized, hoptimized, hcall'⟩ := computedCode_compiles hsight hsupport hp hcode .optimizing hp l
  have hrefuses {v : Value} {t : Store} (hv : Evaluates scope tag s v t) (hne : ∀ name, v ≠ .string name) (html : String) :
      ¬ Renders scope direct s (.ok html) := by
    obtain ⟨content, k', rfl⟩ := hcall
    exact not_renders_of_call (hset' .direct) (.inl rfl) hplain.1.1 hv hne
  refine ⟨direct, optimized, hdirect, hoptimized, fun h html => ?_, fun v t hv hne => ⟨hrefuses hv hne, fun htarget => ?_⟩⟩
  · by_cases htext : (TagCode.computed tag).IsText s scope
    · exact (TemplateNode.renders_iff (hset' .direct) hsight hsupport hp ⟨htext, hsuits⟩ hdirect html).trans
        (TemplateNode.renders_iff (hset' .optimizing) hsight hsupport hp ⟨htext, hsuits⟩ hoptimized html).symm
    · -- A tag that is no string is refused by the structured builder in both modes.
      have htarget := h.resolve_left htext
      simp only [TagCode.IsText, not_forall, not_exists] at htext
      obtain ⟨v, t, hv, hne⟩ := htext
      refine iff_of_false (hrefuses hv hne html) ?_
      obtain ⟨content, k', rfl⟩ := hcall'
      exact not_renders_of_call (hset' .optimizing) (.inr htarget) hplain.1.1 hv hne
  · obtain ⟨named, hnamed, -⟩ := computedCode_compiles hsight hsupport hp hcode .direct (isProper_named hp v.text) l
    exact ⟨named, hnamed, renders_spelled_iff hset hsight hsupport htarget hp hsuits hv hne hoptimized hnamed⟩

theorem TemplateNode.computed_tag_modes_list :
    let c : Config := { target := .stream }
    let s := Store.ofSupport "_h"
    let attributes : List MarkupAttribute := [.spread (.object [.keyed "title" (.string "y")])]
    let children : List TemplateNode := [.element (.static "b") [] [.container (.plain (.string "<"))] false,
      .container (.plain (.call (.member (c.builder .stream) "text") [.single (.string "z")]))]
    let compiled (mode : Mode) (tag : Expr) := ((Compile.expression { c with mode }
      (.markup (TemplateNode.element (.computed tag) attributes children false).toMarkup)).run 0).1
    ∃ direct optimized named, compiled .direct (.array [.single (.string "p")]) = .ok direct ∧
      compiled .optimizing (.array [.single (.string "p")]) = .ok optimized ∧ compiled .direct (.string "p") = .ok named ∧
      (∀ html, ¬ Renders [0] direct s (.ok html)) ∧
      Renders [0] optimized s (.ok "<p title=\"y\"><b>&lt;</b>z</p>") ∧
      Renders [0] named s (.ok "<p title=\"y\"><b>&lt;</b>z</p>") := by
  intro c s attributes children compiled
  have hset : Context c s [0] := ⟨Store.ofSupport_in _, Store.ofSupport_closed _, Store.ofSupport_supports _⟩
  have hsuits : TemplateNode.AllSuit (fun (_ : Unit) node => node.Valid c.target) children s [0] := by
    refine ⟨⟨trivial, fun v t hv => ?_, trivial⟩, fun v t hv => ?_, trivial⟩
    · obtain ⟨rfl, -⟩ := evaluates_string.1 hv
      exact ⟨.text _, .text _⟩
    · have hz : Evaluates [0] (.call (.member (c.builder .stream) "text") [.single (.string "z")]) s
          (.stream (.text "z")) s := ⟨1, rfl⟩
      obtain ⟨rfl, -⟩ := Yields.unique (expression_steady _ _) hz hv
      exact ⟨.node (), .node trivial⟩
  obtain ⟨code, hcode, hrenders⟩ := Markup.renders_of_answer? (show (TemplateNode.element
    (.computed (.array [.single (.string "p")])) attributes children false).toMarkup.answer? c [0] s 9 =
    some (.ok "<p title=\"y\"><b>&lt;</b>z</p>") by decide +kernel)
  obtain ⟨direct, optimized, hdirect, hoptimized, -, hother⟩ :=
    TemplateNode.computed_tag_modes (by decide) hset (by decide) hsuits hcode 0
  obtain ⟨hnever, hspelled⟩ := hother (.array s.identities [.string "p"]) s.next ⟨0, rfl⟩ (by simp)
  obtain ⟨named, hnamed, hsame⟩ := hspelled (by decide)
  obtain rfl : code = optimized := Except.ok.inj (hcode.symm.trans hoptimized)
  exact ⟨direct, code, named, hdirect, hoptimized, hnamed, hnever, hrenders, (hsame _).1 hrenders⟩

/-- A number is refused as a tag by direct code, and spelled by optimized code unless the target is the structured one. -/
theorem TemplateNode.computed_tag_modes_differ :
    let node : TemplateNode := .element (.computed (.literal (.number (.ofNat 5)))) [] [] false
    let answers (target : Representation) (mode : Mode) (answer : Except Fault String) := ∃ code,
      ((Compile.expression { target, mode } (.markup node.toMarkup)).run 0).1 = .ok code ∧
        Renders [0] code (Store.ofSupport "_h") answer
    let refusal := Except.error (.type (.tagExpected "number"))
    answers .stream .direct refusal ∧ answers .stream .optimizing (.ok "<5></5>") ∧
      answers .raw .direct refusal ∧ answers .raw .optimizing (.ok "<5></5>") ∧
      answers .structured .direct refusal ∧ answers .structured .optimizing refusal := by
  intro node answers refusal
  have hanswers {target : Representation} {mode : Mode} {answer : Except Fault String}
      (h : node.toMarkup.answer? { target, mode } [0] (Store.ofSupport "_h") 9 = some answer) : answers target mode answer :=
    Markup.renders_of_answer? h
  refine ⟨hanswers ?_, hanswers ?_, hanswers ?_, hanswers ?_, hanswers ?_, hanswers ?_⟩
  all_goals decide +kernel

end Modes

end TemplateScript
