import TemplateScript.Proofs.Evaluation.Convergence
import TemplateScript.Proofs.Template.StreamElement

namespace TemplateScript

namespace StreamElement

open Evaluation StreamNode

lemma nodesWrite_stage {q : Pairing} {l r l₀ : Store} (h : Store.Match q l r) (hl₀ : Store.Grows none l l₀)
    (hi : l.sinks.size < l₀.sinks.size) {xs ys : List (StreamNode Value)}
    (hxs : List.Forall₂ (StreamNode.Rel (Value.Match q)) xs ys) (n : Nat) :
    NodesWrite (fun (out : String) chunk => out ++ chunk) l.sinks.size l₀ r (callWithin n) xs
      (ys.map (stage (outsideSink (· ++ ·) (callWithin n)))) := by
  rw [NodesWrite, List.forall₂_map_right_iff]
  refine hxs.imp fun x y hx => ?_
  exact renderShared_alike lawfulAppend_string (callWithin_follows n) (callWithin_grows n) (callWithin_grows n)
    (h.grow hl₀ (.refl _ _)) hi (fun j hj => absurd (h.sinks_lt hj).1 (lt_irrefl _)) hx

lemma textWith_sameEnd {q : Pairing} {s t : Store} {code : Value} {kind : LeafKind} {tag : String} {attributes : Attributes}
    {xs ys : List (StreamNode Value)} (hw : WritesElement s code tag attributes xs) (hst : Store.Match q s t)
    (hxs : List.Forall₂ (StreamNode.Rel (Value.Match q)) xs ys) {l r : Store} (hl : Store.Grows none s l)
    (hr : Store.Grows none t r) {p : Pairing} (hp : Store.Match p l r) {e e' : Extension (StreamNode Value)}
    (he : e.Rel (StreamNode.Rel (Value.Match p)) e') (n : Nat) :
    SameEnd ((StreamNode.generated code kind).textWith (callWithin (n + 2)) e l)
      ((StreamNode.element tag attributes ys).textWith (callWithin (n + 1)) e' r) := by
  let sink := outsideSink (fun (out : String) chunk => out ++ chunk) (callWithin (n + 1))
  let l₁ : Store := { l with sinks := l.sinks.push "" }
  have hl₁ : Store.Grows none l l₁ := Eval.Grows.newSink "" l
  obtain ⟨v, l₀, hv, hext, hl₀, hsinks⟩ := toValue_quietly e l₁ (.refl _ _)
  have hfresh : l.sinks.size < l₀.sinks.size := by simp [hsinks, l₁]
  have hgrow := hl₁.trans hl₀
  have hown := nodesWrite_stage (hst.grow hl hr) hgrow hfresh hxs (n + 1)
  have hadded := nodesWrite_stage hp hgrow hfresh (LeafKind.getD_related he) (n + 1)
  have ho := hw lawfulAppend_string n l.sinks.size l₀ r (callWithin (n + 1)) e v _ _ (hl.trans hgrow) hext hown hadded
    l₀ r "" (.refl _ _) (.refl _ _)
  -- The leaf writes into the new sink, and its contents are what it has written.
  have hleft : (StreamNode.generated code kind).textWith (callWithin (n + 2)) e l =
      (callWithin (n + 2) code [.sink l.sinks.size, v] >>= fun _ => Eval.sinkContents l.sinks.size) l₀ := by
    have hnew : Eval.newSink "" l = .ok l.sinks.size l₁ := Eval.newSink_run "" l
    simp only [textWith, leafBody, map_stage_fst, outsideSink, leafText, Bind.bind, EStateM.bind, hnew, hv]
    cases callWithin (n + 2) code [.sink l.sinks.size, v] l₀ with
    | error halt l' => rfl
    | ok _ l' => simp [Eval.sinkContents_run]
  have hright : (StreamNode.element tag attributes ys).leafBody sink (e'.map (stage sink)) = (do
      sink.putAll ["<", tag, (shownAttributes attributes e.attributes).render, ">"]
      renderStaged (ys.map (stage sink))
      renderStaged ((e'.children.getD []).map (stage sink))
      if isVoidTag tag then pure () else sink.putAll ["</", tag, ">"]) := by
    simp only [leafBody, renderElement, renderAll_eq, getD_map_stage, he.attributes]
    rfl
  rw [hleft, textWith, hright]
  generalize hx : callWithin (n + 2) code [.sink l.sinks.size, v] l₀ = x at ho
  generalize (do
      sink.putAll ["<", tag, (shownAttributes attributes e.attributes).render, ">"]
      renderStaged (ys.map (stage sink))
      renderStaged ((e'.children.getD []).map (stage sink))
      if isVoidTag tag then pure () else sink.putAll ["</", tag, ">"] : EStateM Halt (Store × String) Unit) (r, "") = y
    at ho ⊢
  simp only [Bind.bind, EStateM.bind, hx]
  cases ho with
  | error halt l' r' => exact .error halt _ _
  | @ok _ _ l' r' text _ _ _ ht =>
    have hcontents : l'.sinks[l.sinks.size]?.getD "" = "" ++ text := by
      rw [ht, hsinks]
      simp [l₁]
    have hend : Eval.sinkContents l.sinks.size l' = .ok ("" ++ text) l' :=
      congrArg (fun x => EStateM.Result.ok x l') hcontents
    simp only [hend]
    exact .ok _ _ _

end StreamElement

def TagCode.expr : TagCode → Expr
  | .static name => .string name
  | .computed name => name

/-- The tag may stand before the content: a static one is the name of an element, and void only if there is no
content; a computed one evaluates to a string, if at all. -/
def TagCode.Admits (s : Store) (scope : Scope) (content : List Compiled) : TagCode → Prop
  | .static name => isComponentName name = false ∧ (isVoidTag name → content = [])
  | .computed e => ∀ n v t, Evaluation.expression (Evaluation.callWithin n) scope e s = .ok v t → ∃ name, v = .string name

def StreamNode.In (s : Store) (x : StreamNode Value) : Prop := x.Rel (Value.Match (.same s)) x

def Child.In (s : Store) (child : Child (StreamNode Value)) : Prop :=
  Child.Rel (StreamNode.Rel (Value.Match (.same s))) child child

def StreamNode.Alike (s : Store) (a b : StreamNode Value) : Prop :=
  ∀ e : Extension (StreamNode Value), (∀ x ∈ e.children.getD [], x.In s) → ∀ r,
    Ends (fun n => a.textWith (Evaluation.callWithin n) e) s r ↔ Ends (fun n => b.textWith (Evaluation.callWithin n) e) s r

/-- Values that are stream nodes of the same kind. In every later store they write the same text or fail alike with
every extension, and also after attributes and children have been added to both step by step. -/
def Value.ObservedAlike (s : Store) (v w : Value) : Prop :=
  ∃ a b, v = .stream a ∧ w = .stream b ∧ a.kind = b.kind ∧ ∀ t, Store.Grows none s t → t.Closed → a.Alike t b ∧
    ∀ changes : List (AttributeValues × List (Child (StreamNode Value))), (∀ change ∈ changes, ∀ child ∈ change.2, child.In t) →
      Agree (fun a b => ∀ r, Ends (fun n => a.materialize (Evaluation.callWithin n)) t r ↔
        Ends (fun n => b.materialize (Evaluation.callWithin n)) t r) (a.addAll changes) (b.addAll changes)

namespace StreamElement

open Evaluation StreamNode

variable {c : Config} {scope : Scope}

lemma ends_materialize {s : Store} {a b : StreamNode Value} (h : a.Alike s b) {x y : StreamNode Value}
    (hxy : Over (StreamNode.In s) a b x y) (r : Except Fault String) :
    Ends (fun n => x.materialize (callWithin n)) s r ↔ Ends (fun n => y.materialize (callWithin n)) s r := by
  have hx (call : Call) (e : Extension (StreamNode Value)) : x.textWith call e = a.textWith call e := by
    funext s
    simp only [textWith, hxy.left]
  have hy (call : Call) (e : Extension (StreamNode Value)) : y.textWith call e = b.textWith call e := by
    funext s
    simp only [textWith, hxy.right]
  simp only [materialize_eq, ← hxy.extension_eq, hx, hy]
  cases he : x.extension with
  | error fault => rfl
  | ok e => exact h e (hxy.of_mem_extension he) r

lemma flatten_in {s : Store} {children : List (Child (StreamNode Value))} (h : ∀ child ∈ children, child.In s)
    {nodes : List (StreamNode Value)} (hf : Child.flatten streamBuilder children = .ok nodes) : ∀ x ∈ nodes, x.In s := by
  have ha := Child.flatten_related (streamBuilder_related _) (List.forall₂_same.2 h)
  rw [hf] at ha
  cases ha with
  | ok hn => exact fun x hx => List.forall₂_same.1 hn x hx

lemma observedAlike {q : Pairing} {s t u : Store} {code : Value} {tag : String} {attributes : Attributes}
    {xs ys : List (StreamNode Value)} (hw : WritesElement s code tag attributes xs) (hst : Store.Match q s t)
    (hxs : List.Forall₂ (StreamNode.Rel (Value.Match q)) xs ys) (hs : Store.Grows none s u) (ht : Store.Grows none t u) :
    Value.ObservedAlike u (.stream (.generated code (.element tag))) (.stream (.element tag attributes ys)) := by
  refine ⟨_, _, rfl, rfl, rfl, fun l hl hclosed => ?_⟩
  have halike : (StreamNode.generated code (.element tag)).Alike l (.element tag attributes ys) := by
    intro e he r
    have hrel : e.Rel (StreamNode.Rel (Value.Match (.same l))) e := by
      refine ⟨rfl, ?_⟩
      obtain ⟨_, children⟩ := e
      cases children with
      | none => exact .none
      | some nodes => exact .some (List.forall₂_same.2 he)
    exact ends_congr (textWith_steady _ e) (textWith_steady _ e)
      (textWith_sameEnd hw hst hxs (hs.trans hl) (ht.trans hl) hclosed.match hrel) r
  refine ⟨halike, fun changes hchanges => ?_⟩
  have hover : Over (StreamNode.In l) (StreamNode.generated code (.element tag)) (.element tag attributes ys)
      (.generated code (.element tag)) (.element tag attributes ys) := ⟨rfl, rfl, fun _ => rfl, fun _ => rfl, nofun⟩
  exact (hover.addAll fun change hm nodes hf => flatten_in (hchanges change hm) hf).mono
    fun _ _ h => ends_materialize halike h

variable {s : Store} {tag : TagCode} {content : List Compiled}

lemma specialized_outcome (hs : s.Closed) (hscope : scope.In s) (hsupport : s.Supports scope c.support)
    (hc : isTemporary c.support = false) (htarget : c.target = .stream) (ha : tag.Admits s scope content)
    (codes : List AttributeCode) (k : Nat) {l r : Store} (hl : Store.Grows none s l) (hr : Store.Grows none s r) (n : Nat) :
    LeafOutcome (.same s)
      (expression (callWithin (n + 1)) scope (Compile.specialized c tag codes content k).1 l)
      (expression (callWithin (n + 1)) scope (c.elementCall .stream tag.expr codes content) r) := by
  have hmatch := hs.match.grow hl hr
  have hscopes := hscope.match AnyName
  have hl' := hsupport.grow hscope hl
  have hr' := hsupport.grow hscope hr
  cases tag with
  | static name =>
    simp only [Compile.specialized, htarget]
    exact static_outcome hmatch hscopes hl' hr' hc codes ha.1 ha.2 k
  | computed e =>
    simp only [Compile.specialized, htarget]
    refine computed_outcome hmatch hscopes hl' hr' hc codes content (fun w r' hw => ?_) k
    have ho := expression_follows (callWithin_follows (n + 1)) hscopes (Expr.Alike.refl e) s r
      (hs.match.grow (.refl _ _) hr)
    rw [show expression (callWithin (n + 1)) scope e r = _ from hw] at ho
    generalize hx : expression (callWithin (n + 1)) scope e s = x at ho
    cases ho with
    | ok _ hv =>
      obtain ⟨name, rfl⟩ := ha (n + 1) _ _ hx
      cases hv
      exact ⟨name, rfl⟩

/-- The code that the stream target makes of an element is observed like the call of the stream builder: the two fail
alike, and where they do not, they evaluate to nodes that cannot be told apart by what is added to them. -/
theorem specialized_observed_as_element (hs : s.Closed) (hscope : scope.In s) (hsupport : s.Supports scope c.support)
    (hc : isTemporary c.support = false) (htarget : c.target = .stream) (ha : tag.Admits s scope content)
    (codes : List AttributeCode) (k : Nat) :
    let leaf := (Compile.specialized c tag codes content k).1
    let element := c.elementCall .stream tag.expr codes content
    (∀ fault, Ends (fun n => expression (callWithin n) scope leaf) s (.error fault) ↔
      Ends (fun n => expression (callWithin n) scope element) s (.error fault)) ∧
    (∀ n v t, expression (callWithin n) scope leaf s = .ok v t →
      ∃ m w u, expression (callWithin m) scope element t = .ok w u ∧ Value.ObservedAlike u v w) ∧
    (∀ n w t, expression (callWithin n) scope element s = .ok w t →
      ∃ m v u, expression (callWithin m) scope leaf t = .ok v u ∧ Value.ObservedAlike u v w) := by
  intro leaf element
  have hleaf := expression_steady scope leaf
  have helement := expression_steady scope element
  have hout {l r : Store} (hl : Store.Grows none s l) (hr : Store.Grows none s r) (n : Nat) :=
    specialized_outcome hs hscope hsupport hc htarget ha codes k hl hr n
  refine ⟨fun fault => ⟨?_, ?_⟩, fun n v t hv => ?_, fun n w t hw => ?_⟩
  · rintro ⟨n, t, he⟩
    have ho := hout (.refl _ _) (.refl _ _) n
    rw [show expression (callWithin (n + 1)) scope leaf s = _ from hleaf.fault he 1] at ho
    generalize hy : expression (callWithin (n + 1)) scope element s = y at ho
    cases ho with
    | error _ _ t' => exact ⟨n + 1, t', hy⟩
  · rintro ⟨n, t, he⟩
    have ho := hout (.refl _ _) (.refl _ _) n
    rw [show expression (callWithin (n + 1)) scope element s = _ from helement.fault he 1] at ho
    generalize hy : expression (callWithin (n + 1)) scope leaf s = y at ho
    cases ho with
    | error _ t' _ => exact ⟨n + 1, t', hy⟩
  · have ho := hout (.refl _ _) (grows_of_expression hv) n
    rw [show expression (callWithin (n + 1)) scope leaf s = _ from hleaf.ok hv 1] at ho
    generalize hy : expression (callWithin (n + 1)) scope element t = y at ho
    cases ho with
    | ok _ hst hwrites hxs =>
      exact ⟨n + 1, _, _, hy, observedAlike hwrites hst hxs (grows_of_expression hy) (.refl _ _)⟩
  · have ho := hout (grows_of_expression hw) (.refl _ _) n
    rw [show expression (callWithin (n + 1)) scope element s = _ from helement.ok hw 1] at ho
    generalize hx : expression (callWithin (n + 1)) scope leaf t = x at ho
    cases ho with
    | ok _ hst hwrites hxs =>
      exact ⟨n + 1, _, _, hx, observedAlike hwrites hst hxs (.refl _ _) (grows_of_expression hx)⟩

theorem specialized_observed_paragraph :
    let c : Config := { target := .stream }
    let s := Store.ofSupport "_h"
    let codes : List AttributeCode := [.computed "title" (.string "y"), .spread (.object [.keyed "id" (.string "z")])]
    let leaf := (Compile.specialized c (.computed (.string "p")) codes [.text "x"] 0).1
    let element := c.elementCall .stream (.string "p") codes [.text "x"]
    (∀ fault, Ends (fun n => expression (callWithin n) [0] leaf) s (.error fault) ↔
      Ends (fun n => expression (callWithin n) [0] element) s (.error fault)) ∧
    (∀ n v t, expression (callWithin n) [0] leaf s = .ok v t →
      ∃ m w u, expression (callWithin m) [0] element t = .ok w u ∧ Value.ObservedAlike u v w) ∧
    (∀ n w t, expression (callWithin n) [0] element s = .ok w t →
      ∃ m v u, expression (callWithin m) [0] leaf t = .ok v u ∧ Value.ObservedAlike u v w) := by
  have ha : TagCode.Admits (Store.ofSupport "_h") [0] [.text "x"] (.computed (.string "p")) := by
    intro n v t h
    simp only [Expr.string, expression, literal] at h
    exact ⟨"p", (EStateM.Result.ok.inj h).1.symm⟩
  exact specialized_observed_as_element (Store.ofSupport_closed _) (Store.ofSupport_in _) (Store.ofSupport_supports _)
    (by decide) rfl ha _ _

/-- A name of the shape of a temporary is not safe for the support module: the code of the leaf may bind it anew. -/
theorem specialized_shadows_support :
    let c : Config := { target := .stream, support := "_a3" }
    let codes : List AttributeCode := [.computed "title" (.string "y")]
    (∃ fault, Ends (fun n => expression (callWithin n) [0] (Compile.specialized c (.static "p") codes [] 0).1)
      (Store.ofSupport "_a3") (.error fault)) ∧
    ∃ node, Ends (fun n => expression (callWithin n) [0] (c.elementCall .stream (.string "p") codes []))
      (Store.ofSupport "_a3") (.ok node) := by
  refine ⟨⟨_, 1, _, rfl⟩, ⟨_, 1, _, rfl⟩⟩

end StreamElement

end TemplateScript
