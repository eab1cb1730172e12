import TemplateScript.Proofs.Template.AttributeCode
import TemplateScript.Proofs.Template.Shown

/-!
What generated code means: the texts, attributes and children that it evaluates to, in every later store. The
call of a builder means the element that a mirrored builder makes of what its parts mean.
-/

namespace TemplateScript

open Evaluation

section Steps

variable {c : Config} {scope : Scope} {s t : Store} {v : Value}

lemma evaluates_support (h : s.Supports scope c.support) (f : Native) {arguments : List Item} :
    Evaluates scope (c.call f.name arguments) s v t ↔
      ∃ vs u, ItemsYield scope arguments s vs u ∧ f.run vs u = .ok v t := by
  refine Iff.trans ?_ (Yields.bind_const (f := fun vs => f.run vs) (items_steady scope arguments))
  simp only [Evaluates, Yields, expression_support h, callWithin_native]

lemma evaluates_builder (h : s.Supports scope c.support) (r : Representation) :
    Evaluates scope (c.builder r) s v t ↔ v = .builder r ∧ s = t := by
  simp only [Evaluates, Yields, expression_builder h]
  constructor
  · rintro ⟨_, h⟩
    obtain ⟨rfl, rfl⟩ := EStateM.Result.ok.inj h
    exact ⟨rfl, rfl⟩
  · rintro ⟨rfl, rfl⟩
    exact ⟨0, rfl⟩

lemma returns_closure {identity : Nat} {params : List String} {e : Expr} {outer : Scope} {arguments : List Value} :
    Returns (.closure identity params (.expression e) outer) arguments s v t ↔
      Evaluates (s.frames.size :: outer) e (s.enter (bindAll [] params arguments)) v t := by
  constructor
  · rintro ⟨n, h⟩
    cases n with
    | zero => cases h
    | succ n =>
      exact ⟨n, (callWithin_closure n identity params _ outer arguments s).symm.trans h⟩
  · rintro ⟨n, h⟩
    exact ⟨n + 1, (callWithin_closure n identity params _ outer arguments s).trans h⟩

lemma evaluates_bindNames {bindings : List (String × Expr)} {e : Expr} :
    Evaluates scope (bindNames bindings (.expression e)) s v t ↔
      ∃ vs u, ItemsYield scope (bindings.map fun b => .single b.2) s.next vs u ∧
        Evaluates (u.frames.size :: scope) e (u.enter (bindAll [] (bindings.map Prod.fst) vs)) v t := by
  simp only [Evaluates, expression_bindNames]
  have hid : Eval.newIdentity s = .ok s.identities s.next := rfl
  have hsteady (identity : Nat) : Steady fun n => (do
      let values ← items (callWithin n) scope (bindings.map fun b => .single b.2)
      callWithin n (.closure identity (bindings.map Prod.fst) (.expression e) scope) values : Eval Value) :=
    (items_steady scope _).bind fun vs => call_steady _ vs
  have hnext : Yields (fun n => (do
        let identity ← Eval.newIdentity
        let values ← items (callWithin n) scope (bindings.map fun b => .single b.2)
        callWithin n (.closure identity (bindings.map Prod.fst) (.expression e) scope) values : Eval Value)) s v t ↔
      Yields (fun n => (do
        let values ← items (callWithin n) scope (bindings.map fun b => .single b.2)
        callWithin n (.closure s.identities (bindings.map Prod.fst) (.expression e) scope) values : Eval Value))
        s.next v t := by
    simp only [Yields, Bind.bind, EStateM.bind, hid]
  rw [hnext, Yields.bind (items_steady scope _) fun vs => call_steady _ vs]
  refine exists_congr fun vs => exists_congr fun u => and_congr_right fun _ => ?_
  exact returns_closure

lemma evaluates_bindTwo {a b : String} (hne : a ≠ b) {x y e : Expr} :
    Evaluates scope (bindNames [(a, x), (b, y)] (.expression e)) s v t ↔ ∃ w u w' u', Evaluates scope x s.next w u ∧
      Evaluates scope y u w' u' ∧ Evaluates (u'.frames.size :: scope) e (u'.enter [(a, w), (b, w')]) v t := by
  have hbind (w w' : Value) : bindAll [] [a, b] [w, w'] = [(a, w), (b, w')] := by
    simp [bindAll, Entries.set, hne, Support.first]
  refine evaluates_bindNames.trans ?_
  simp only [List.map_cons, List.map_nil, itemsYield_single, itemsYield_nil]
  constructor
  · rintro ⟨_, _, ⟨w, u, _, hx, ⟨w', u', _, hy, ⟨rfl, rfl⟩, rfl⟩, rfl⟩, hv⟩
    exact ⟨w, u, w', u', hx, hy, hbind w w' ▸ hv⟩
  · rintro ⟨w, u, w', u', hx, hy, hv⟩
    exact ⟨_, _, ⟨w, u, _, hx, ⟨w', u', _, hy, ⟨rfl, rfl⟩, rfl⟩, rfl⟩, (hbind w w').symm ▸ hv⟩

lemma evaluates_arrow {params : List String} {code : Body} :
    Evaluates scope (.arrow params code) s v t ↔ v = .closure s.identities params code scope ∧ s.next = t := by
  simp only [Evaluates, expression]
  rw [Yields.const]
  exact (EStateM.Result.ok.injEq ..).to_iff.trans (and_congr_left' eq_comm)

def invoke (call : Call) (receiver : Value) (name : String) (arguments : List Value) : Eval Value :=
  match receiver with
  | .object _ fields => call ((Entries.get? name fields).getD .undefined) arguments
  | _ => method call receiver name arguments

lemma expression_methodCall (call : Call) (scope : Scope) (receiver : Expr) (name : String) (arguments : List Item) :
    expression call scope (.call (.member receiver name) arguments) = (do
      let x ← expression call scope receiver
      let vs ← items call scope arguments
      invoke call x name vs) := by
  simp only [expression]
  rfl

abbrev Invokes (receiver : Value) (name : String) (arguments : List Value) : Store → Value → Store → Prop :=
  Yields fun n => invoke (callWithin n) receiver name arguments

lemma invoke_steady (receiver : Value) (name : String) (arguments : List Value) :
    Steady fun n => invoke (callWithin n) receiver name arguments := by
  intro n k hk
  cases receiver with
  | object i fields => exact callWithin_below hk _ _
  | _ =>
    simp only [invoke]
    exact method_below (callWithin_below hk) _ name arguments

lemma evaluates_methodCall {receiver : Expr} {name : String} {arguments : List Item} :
    Evaluates scope (.call (.member receiver name) arguments) s v t ↔
      ∃ x u vs u', Evaluates scope receiver s x u ∧ ItemsYield scope arguments u vs u' ∧ Invokes x name vs u' v t := by
  simp only [Evaluates, expression_methodCall]
  refine (Yields.bind (expression_steady scope receiver) fun x => ?_).trans ?_
  · exact (items_steady scope arguments).bind (invoke_steady x name)
  · refine exists_congr fun x => exists_congr fun u => ?_
    rw [Yields.bind (items_steady scope arguments) (invoke_steady x name)]
    constructor
    · rintro ⟨hx, vs, u', hvs, h⟩
      exact ⟨vs, u', hx, hvs, h⟩
    · rintro ⟨vs, u', hx, hvs, h⟩
      exact ⟨hx, vs, u', hvs, h⟩

lemma invokes_map {identity : Nat} {items : List Value} {f : Value} :
    Invokes (.array identity items) "map" [f] s v t ↔
      ∃ vs u, MapYields f 0 items s vs u ∧ Eval.newArray vs u = .ok v t := by
  have hm (n : Nat) : invoke (callWithin n) (.array identity items) "map" [f] =
      (mapItems (callWithin n) f 0 items >>= Eval.newArray) := rfl
  simp only [Invokes, hm]
  exact Yields.bind_const (mapItems_steady f 0 items)

lemma invokes_join {identity : Nat} {items : List Value} {f : Value} :
    Invokes (.array identity items) "join" [f] s v t ↔
      v = .string ((separator (some f)).intercalate (Value.itemTexts items)) ∧ s = t := by
  have hm (n : Nat) : invoke (callWithin n) (.array identity items) "join" [f] =
      pure (.string ((separator (some f)).intercalate (Value.itemTexts items))) := rfl
  simp only [Invokes, hm]
  exact Yields.pure.trans (and_congr_left' eq_comm)

lemma Quietly.evaluates {n : Nat} {e : Expr} {P : Value → Prop} (h : Quietly s P (expression (callWithin n) scope e)) :
    ∃ v t, Evaluates scope e s v t ∧ P v := by
  obtain ⟨v, t, hv, hp, -⟩ := h s (.refl _ _)
  exact ⟨v, t, ⟨n, hv⟩, hp⟩

lemma Store.Closed.next (hs : s.Closed) : s.next.Closed :=
  fun frame bindings hb => (hs frame bindings hb).mono (Pairing.same_le s.next_grows)

lemma Store.Closed.enter (hs : s.Closed) {bindings : List (String × Value)} (hb : Fields.Match (.same s) bindings bindings) :
    (s.enter bindings).Closed := by
  intro frame entries he
  have hle := Pairing.same_le (s.enter_grows bindings)
  by_cases hf : frame = s.frames.size
  · obtain rfl : bindings = entries := by simpa [Store.enter, hf] using he
    exact hb.mono hle
  · have he' : s.frames[frame]? = some entries := by simpa [Store.enter, Array.getElem?_push, hf] using he
    exact (hs frame entries he').mono hle

lemma Store.Supports.enter {name : String} (h : s.Supports scope name) (hin : scope.In s)
    (hname : isTemporary name = false) {bindings : List (String × Value)}
    (hb : ∀ b ∈ bindings, isTemporary b.1 = true) : (s.enter bindings).Supports (s.frames.size :: scope) name := by
  obtain ⟨identity, h⟩ := h
  have hother (b : String × Value) (hm : b ∈ bindings) : b.1 ≠ name := fun e => by simp [← e, hb b hm] at hname
  exact ⟨identity, (Store.get?_enter_other hin hother).trans h⟩

end Steps

section Meaning

variable {M : Type}

/-- In every later store the code evaluates to a value that shows a child with the property; it evaluates at all only
if there is such a child. -/
structure Means (S : Store → M → AnyNode Value → Prop) (s₀ : Store) (scope : Scope) (code : Expr) (D : Child M → Prop) :
    Prop where
  runs {s : Store} : Store.Grows none s₀ s → s.Closed → ∀ {child : Child M}, D child →
    ∃ v t, Evaluates scope code s v t ∧ Child.Rel (S t) child v.toChild
  shows {s t : Store} {v : Value} : Store.Grows none s₀ s → s.Closed → Evaluates scope code s v t → ∃ child, D child

lemma Means.congr {S : Store → M → AnyNode Value → Prop} {s₀ : Store} {scope : Scope} {code : Expr} {D F : Child M → Prop}
    (h : Means S s₀ scope code D) (hdf : ∀ child, D child ↔ F child) : Means S s₀ scope code F := by
  obtain rfl : D = F := funext fun child => propext (hdf child)
  exact h

def TextMeans (s₀ : Store) (scope : Scope) (code : Expr) (D : String → Prop) : Prop :=
  ∀ s, Store.Grows none s₀ s → s.Closed → ∀ v, (∃ t, Evaluates scope code s v t) ↔ ∃ text, v = .string text ∧ D text

def Constant.toAnyNode : Constant → AnyNode Value
  | .structured node => .structured node
  | .raw node => .raw node

def Shape.Fits (S : Store → M → AnyNode Value → Prop) (D : Child M → Prop) : Shape → Prop
  | .dynamic => True
  | .text value => ∀ child, D child ↔ child = .text value
  | .constant node => ∃ m, (∀ s, S s m node.toAnyNode) ∧ ∀ child, D child ↔ child = .node m

structure Compiled.Means (S : Store → M → AnyNode Value → Prop) (s₀ : Store) (scope : Scope) (code : Compiled)
    (D : Child M → Prop) : Prop where
  expr : TemplateScript.Means S s₀ scope code.expr D
  shape : code.shape.Fits S D

inductive ContentMeans (S : Store → M → AnyNode Value → Prop) (s₀ : Store) (scope : Scope) :
    List Compiled → (List (Child M) → Prop) → Prop
  | nil {E : List (Child M) → Prop} : (∀ children, E children ↔ children = []) → ContentMeans S s₀ scope [] E
  | cons {code : Compiled} {content : List Compiled} {D : Child M → Prop} {E F : List (Child M) → Prop} :
    code.Means S s₀ scope D → ContentMeans S s₀ scope content E →
    (∀ children, F children ↔ ∃ child rest, D child ∧ E rest ∧ children = child :: rest) →
    ContentMeans S s₀ scope (code :: content) F

end Meaning

section Children

variable {M : Type} {b₀ : Builder M} {S : Store → M → AnyNode Value → Prop} {c : Config} {r : Representation}
  {s₀ s t : Store} {scope : Scope} {content : List Compiled} {E : List (Child M) → Prop}

lemma ReadAs.later {children : List (Child M)} {vs : List Value} (hm : Mirrors r b₀ S) (h : ReadAs (S s) children vs)
    (hg : Store.Grows none s t) : ReadAs (S t) children vs :=
  h.imp fun _ _ hc => hc.mono fun _ _ hn => hm.later hn hg

lemma Value.toChildren_eq (vs : List Value) : Value.toChildren vs = vs.map Value.toChild := by
  induction vs with
  | nil => simp only [Value.toChildren, List.map_nil]
  | cons v vs ih => simp only [Value.toChildren, List.map_cons, ih]

lemma ReadAs.list {children : List (Child M)} {vs : List Value} (h : ReadAs (S s) children vs) (identity : Nat) :
    Child.Rel (S s) (.list children) (Value.array identity vs).toChild := by
  rw [Value.toChild, Value.toChildren_eq]
  exact .list (List.forall₂_map_right_iff.2 h)

lemma ContentMeans.runs (h : ContentMeans S s₀ scope content E) (hm : Mirrors r b₀ S) (hin : scope.In s₀) (hg : Store.Grows none s₀ s)
    (hs : s.Closed) {children : List (Child M)} (he : E children) :
    ∃ vs t, ItemsYield scope (content.map fun code => .single code.expr) s vs t ∧ ReadAs (S t) children vs := by
  induction h generalizing s children with
  | nil hE =>
    obtain rfl := (hE _).1 he
    exact ⟨[], s, itemsYield_nil.2 ⟨rfl, rfl⟩, .nil⟩
  | cons hcode _ hF ih =>
    obtain ⟨child, rest, hd, hr, rfl⟩ := (hF _).1 he
    obtain ⟨v, u, hv, hread⟩ := hcode.expr.runs hg hs hd
    obtain ⟨vs, t, hvs, hreads⟩ := ih (hg.trans hv.grows) (hv.closed hs (hin.grow hg)).1 hr
    refine ⟨v :: vs, t, itemsYield_single.2 ⟨v, u, vs, hv, hvs, rfl⟩, .cons ?_ hreads⟩
    exact hread.mono fun _ _ hn => hm.later hn hvs.grows

lemma ContentMeans.shows (h : ContentMeans S s₀ scope content E) (hin : scope.In s₀) (hg : Store.Grows none s₀ s)
    (hs : s.Closed) {vs : List Value} (hvs : ItemsYield scope (content.map fun code => .single code.expr) s vs t) :
    ∃ children, E children := by
  induction h generalizing s vs with
  | nil hE => exact ⟨[], (hE _).2 rfl⟩
  | cons hcode _ hF ih =>
    obtain ⟨v, u, ws, hv, hws, rfl⟩ := itemsYield_single.1 hvs
    obtain ⟨child, hd⟩ := hcode.expr.shows hg hs hv
    obtain ⟨rest, hr⟩ := ih (hg.trans hv.grows) (hv.closed hs (hin.grow hg)).1 hws
    exact ⟨_, (hF _).2 ⟨child, rest, hd, hr, rfl⟩⟩

lemma evaluates_normalizeChildren {v : Value} (h : s.Supports scope c.support) :
    Evaluates scope (c.normalizeChildren r content) s v t ↔
      ∃ vs u, ItemsYield scope (content.map fun code => .single code.expr) s vs u ∧
        Support.normalizeChildren (.builder r :: vs) u = .ok v t := by
  have hc : c.normalizeChildren r content = c.call Native.normalizeChildren.name
      (.single (c.builder r) :: content.map fun code => .single code.expr) := by
    simp only [Config.normalizeChildren, Config.callWith, Expr.callWith, List.map_cons, List.map_map, Function.comp_def]
    rfl
  rw [hc, evaluates_support h]
  constructor
  · rintro ⟨_, u, hvs, hrun⟩
    obtain ⟨b, w, vs, hb, hvs, rfl⟩ := itemsYield_single.1 hvs
    obtain ⟨rfl, rfl⟩ := (evaluates_builder h r).1 hb
    exact ⟨vs, u, hvs, hrun⟩
  · rintro ⟨vs, u, hvs, hrun⟩
    exact ⟨_, u, itemsYield_single.2 ⟨_, s, vs, (evaluates_builder h r).2 ⟨rfl, rfl⟩, hvs, rfl⟩, hrun⟩

lemma readAs_nodes {ms : List M} {nodes : List (AnyNode Value)} (hm : Mirrors r b₀ S)
    (h : List.Forall₂ (S s) ms nodes)
    (hg : Store.Grows none s t) {vs : List Value}
    (hvs : List.Forall₂ (fun node v => Value.toChild v = .node node) nodes vs) : ReadAs (S t) (ms.map .node) vs := by
  rw [ReadAs, List.forall₂_map_left_iff]
  induction h generalizing vs with
  | nil =>
    cases hvs
    exact .nil
  | cons hn _ ih =>
    cases hvs with
    | cons hv hvs => exact .cons (hv ▸ .node (hm.later hn hg)) (ih hvs)

lemma toArray_read {ms : List M} {nodes : List (AnyNode Value)} (hm : Mirrors r b₀ S)
    (h : List.Forall₂ (S s) ms nodes) :
    ∃ identity vs t, (do Eval.newArray (← AnyNode.toValues nodes)) s = .ok (.array identity vs) t ∧
      ReadAs (S t) (ms.map .node) vs := by
  have hq : Quietly s (fun v => ∃ identity vs, v = .array identity vs ∧
      List.Forall₂ (fun node v => Value.toChild v = .node node) nodes vs) (do Eval.newArray (← AnyNode.toValues nodes)) := by
    refine (AnyNode.toValues_read nodes).bind fun vs hvs => (Quietly.newArray vs).mono ?_
    rintro _ ⟨identity, rfl⟩
    exact ⟨identity, vs, rfl, hvs⟩
  obtain ⟨_, t, he, ⟨identity, vs, rfl, hvs⟩, hg, -⟩ := hq s (.refl _ _)
  exact ⟨identity, vs, t, he, readAs_nodes hm h hg hvs⟩

lemma ContentMeans.normalize_runs (h : ContentMeans S s₀ scope content E) (hm : Mirrors r b₀ S) (hin : scope.In s₀)
    (hsupport : s₀.Supports scope c.support) (hg : Store.Grows none s₀ s) (hs : s.Closed)
    {children : List (Child M)} (he : E children) {ms : List M}
    (hf : Child.flatten b₀ children = .ok ms) :
    ∃ identity vs t, Evaluates scope (c.normalizeChildren r content) s (.array identity vs) t ∧
      ReadAs (S t) (ms.map .node) vs := by
  obtain ⟨vs, u, hvs, hread⟩ := h.runs hm hin hg hs he
  have hn := hm.normalize hread
  rw [hf] at hn
  generalize hy : AnyNode.normalize streamBuilder r Value.toChild vs = y at hn
  cases hn with
  | ok hnodes =>
    obtain ⟨identity, ws, t, hw, hread⟩ := toArray_read hm hnodes
    refine ⟨identity, ws, t, ?_, hread⟩
    refine (evaluates_normalizeChildren (hsupport.grow hin hg)).2 ⟨vs, u, hvs, ?_⟩
    simp only [Support.normalizeChildren, hy]
    exact hw

lemma ContentMeans.normalize_shows (h : ContentMeans S s₀ scope content E) (hm : Mirrors r b₀ S) (hin : scope.In s₀)
    (hsupport : s₀.Supports scope c.support) (hg : Store.Grows none s₀ s) (hs : s.Closed) {v : Value}
    (hv : Evaluates scope (c.normalizeChildren r content) s v t) :
    ∃ children ms identity vs, E children ∧ Child.flatten b₀ children = .ok ms ∧ v = .array identity vs ∧
      ReadAs (S t) (ms.map .node) vs := by
  obtain ⟨vs, u, hvs, hrun⟩ := (evaluates_normalizeChildren (hsupport.grow hin hg)).1 hv
  obtain ⟨children, he⟩ := h.shows hin hg hs hvs
  obtain ⟨ws, u', hws, hread⟩ := h.runs hm hin hg hs he
  obtain ⟨rfl, rfl⟩ := Yields.unique (items_steady scope _) hvs hws
  have hn := hm.normalize hread
  simp only [Support.normalizeChildren] at hrun
  generalize AnyNode.normalize streamBuilder r Value.toChild vs = y at hn hrun
  generalize hx : Child.flatten b₀ children = x at hn
  cases hn with
  | error fault => cases hrun
  | ok hnodes =>
    obtain ⟨identity, ws, t', hv', hread⟩ := h.normalize_runs hm hin hsupport hg hs he hx
    obtain ⟨rfl, rfl⟩ := Yields.unique (expression_steady scope _) hv hv'
    exact ⟨children, _, identity, ws, he, hx, rfl, hread⟩

lemma ContentMeans.spread_runs (h : ContentMeans S s₀ scope content E) (hm : Mirrors r b₀ S) (hin : scope.In s₀)
    (hsupport : s₀.Supports scope c.support) (hg : Store.Grows none s₀ s) (hs : s.Closed)
    {children : List (Child M)} (he : E children) {ms : List M}
    (hf : Child.flatten b₀ children = .ok ms) :
    ∃ vs t, ItemsYield scope (c.spreadChildren r content) s vs t ∧ ReadAs (S t) (ms.map .node) vs := by
  cases content with
  | nil =>
    cases h with
    | nil hE =>
      obtain rfl := (hE _).1 he
      obtain rfl := Except.ok.inj hf
      exact ⟨[], s, itemsYield_nil.2 ⟨rfl, rfl⟩, .nil⟩
  | cons code content =>
    obtain ⟨identity, vs, t, hv, hread⟩ := h.normalize_runs hm hin hsupport hg hs he hf
    exact ⟨vs, t, itemsYield_spread.2 ⟨identity, hv⟩, hread⟩

lemma ContentMeans.spread_shows (h : ContentMeans S s₀ scope content E) (hm : Mirrors r b₀ S) (hin : scope.In s₀)
    (hsupport : s₀.Supports scope c.support) (hg : Store.Grows none s₀ s) (hs : s.Closed) {vs : List Value}
    (hvs : ItemsYield scope (c.spreadChildren r content) s vs t) :
    ∃ children ms, E children ∧ Child.flatten b₀ children = .ok ms ∧ ReadAs (S t) (ms.map .node) vs := by
  cases content with
  | nil =>
    obtain ⟨rfl, -⟩ := itemsYield_nil.1 hvs
    cases h with
    | nil hE => exact ⟨[], [], (hE _).2 rfl, rfl, .nil⟩
  | cons code content =>
    obtain ⟨identity, hv⟩ := itemsYield_spread.1 hvs
    obtain ⟨children, ms, _, _, he, hf, hvs, hread⟩ := h.normalize_shows hm hin hsupport hg hs hv
    cases hvs
    exact ⟨children, ms, he, hf, hread⟩

end Children

section Attributes

def AttributeCode.Means (s₀ : Store) (scope : Scope) (P : List (String × AttributeValue) → Prop) : AttributeCode → Prop
  | .static name value => ∀ es, P es ↔ es = [(name, value)]
  | .computed name e => ∀ s, Store.Grows none s₀ s → s.Closed → ∀ es, P es ↔
    ∃ v t, Evaluates scope e s v t ∧ es = [(name, v.toAttributeValue)]
  | .spread e => ∀ s, Store.Grows none s₀ s → s.Closed → ∀ es, P es ↔
    ∃ v t, Evaluates scope e s v t ∧ es = Entries.mapValues Value.toAttributeValue (spreadFields v)

inductive AttributesMean (s₀ : Store) (scope : Scope) :
    List AttributeCode → (List (String × AttributeValue) → Prop) → Prop
  | nil {A : List (String × AttributeValue) → Prop} : (∀ es, A es ↔ es = []) → AttributesMean s₀ scope [] A
  | cons {code : AttributeCode} {codes : List AttributeCode} {P A B : List (String × AttributeValue) → Prop} :
    code.Means s₀ scope P → AttributesMean s₀ scope codes A →
    (∀ es, B es ↔ ∃ new rest, P new ∧ A rest ∧ es = new ++ rest) → AttributesMean s₀ scope (code :: codes) B

variable {s₀ s t : Store} {scope : Scope} {codes : List AttributeCode} {A : List (String × AttributeValue) → Prop}

lemma evaluates_attributeLiteral {value : AttributeValue} {v : Value} :
    Evaluates scope value.literal s v t ↔ v = value.toValue ∧ s = t := by
  simp only [Evaluates, AttributeCode.expression_literal]
  exact Yields.pure.trans (and_congr_left' eq_comm)

lemma AttributesMean.static {entries : List (String × AttributeValue)} (h : AttributesMean s₀ scope codes A)
    (hc : AttributeCode.staticEntries? codes = some entries) (es : List (String × AttributeValue)) :
    A es ↔ es = entries := by
  induction h generalizing entries es with
  | nil hA =>
    obtain rfl := Option.some.inj hc
    exact hA es
  | @cons code codes P A B hcode _ hB ih =>
    cases code with
    | static name value =>
      simp only [AttributeCode.staticEntries?, Option.map_eq_some_iff] at hc
      obtain ⟨rest, hr, rfl⟩ := hc
      rw [hB]
      simp only [hcode _, ih hr]
      simp
    | computed name e => simp [AttributeCode.staticEntries?] at hc
    | spread e => simp [AttributeCode.staticEntries?] at hc

lemma AttributeCode.Means.step_runs {code : AttributeCode} {P : List (String × AttributeValue) → Prop}
    (h : code.Means s₀ scope P) (hin : scope.In s₀) (hg : Store.Grows none s₀ s) (hs : s.Closed)
    (acc : List (String × Value)) {es : List (String × AttributeValue)} (he : P es) :
    ∃ new u, Entries.mapValues Value.toAttributeValue new = es ∧ Store.Grows none s u ∧ u.Closed ∧
      ∀ parts fs t, FieldsYield scope (Entries.setAll acc new) parts u fs t →
        FieldsYield scope acc (code.property :: parts) s fs t := by
  cases code with
  | static name value =>
    obtain rfl := (h es).1 he
    refine ⟨[(name, value.toValue)], s, ?_, .refl _ _, hs, fun parts fs t hf => ?_⟩
    · simp [Entries.mapValues, AttributeValue.toAttributeValue_toValue]
    · exact fieldsYield_keyed.2 ⟨_, s, evaluates_attributeLiteral.2 ⟨rfl, rfl⟩, hf⟩
  | computed name e =>
    obtain ⟨v, u, hv, rfl⟩ := (h s hg hs es).1 he
    refine ⟨[(name, v)], u, rfl, hv.grows, (hv.closed hs (hin.grow hg)).1, fun parts fs t hf => ?_⟩
    exact fieldsYield_keyed.2 ⟨v, u, hv, hf⟩
  | spread e =>
    obtain ⟨v, u, hv, rfl⟩ := (h s hg hs es).1 he
    refine ⟨spreadFields v, u, rfl, hv.grows, (hv.closed hs (hin.grow hg)).1, fun parts fs t hf => ?_⟩
    exact fieldsYield_spread.2 ⟨v, u, hv, hf⟩

lemma AttributeCode.Means.step_shows {code : AttributeCode} {P : List (String × AttributeValue) → Prop}
    (h : code.Means s₀ scope P) (hin : scope.In s₀) (hg : Store.Grows none s₀ s) (hs : s.Closed) {parts : List Property}
    {acc fs : List (String × Value)} (hf : FieldsYield scope acc (code.property :: parts) s fs t) :
    ∃ new u, P (Entries.mapValues Value.toAttributeValue new) ∧ Store.Grows none s u ∧ u.Closed ∧
      FieldsYield scope (Entries.setAll acc new) parts u fs t := by
  cases code with
  | static name value =>
    obtain ⟨v, u, hv, hf⟩ := fieldsYield_keyed.1 hf
    obtain ⟨rfl, rfl⟩ := evaluates_attributeLiteral.1 hv
    refine ⟨[(name, value.toValue)], s, (h _).2 ?_, .refl _ _, hs, hf⟩
    simp [Entries.mapValues, AttributeValue.toAttributeValue_toValue]
  | computed name e =>
    obtain ⟨v, u, hv, hf⟩ := fieldsYield_keyed.1 hf
    exact ⟨[(name, v)], u, (h s hg hs _).2 ⟨v, u, hv, rfl⟩, hv.grows, (hv.closed hs (hin.grow hg)).1, hf⟩
  | spread e =>
    obtain ⟨v, u, hv, hf⟩ := fieldsYield_spread.1 hf
    exact ⟨spreadFields v, u, (h s hg hs _).2 ⟨v, u, hv, rfl⟩, hv.grows, (hv.closed hs (hin.grow hg)).1, hf⟩

lemma AttributesMean.fields_runs (h : AttributesMean s₀ scope codes A) (hin : scope.In s₀) (hg : Store.Grows none s₀ s)
    (hs : s.Closed) (acc : List (String × Value)) {es : List (String × AttributeValue)} (he : A es) :
    ∃ fs t, FieldsYield scope acc (codes.map AttributeCode.property) s fs t ∧
      Entries.mapValues Value.toAttributeValue fs =
        Entries.setAll (Entries.mapValues Value.toAttributeValue acc) es := by
  induction h generalizing s acc es with
  | nil hA =>
    obtain rfl := (hA _).1 he
    exact ⟨acc, s, fieldsYield_nil.2 ⟨rfl, rfl⟩, rfl⟩
  | cons hcode _ hB ih =>
    obtain ⟨_, rest, hp, hr, rfl⟩ := (hB _).1 he
    obtain ⟨new, u, rfl, hu, hclosed, hstep⟩ := hcode.step_runs hin hg hs acc hp
    obtain ⟨fs, t, hf, hm⟩ := ih (hg.trans hu) hclosed (Entries.setAll acc new) hr
    refine ⟨fs, t, hstep _ _ _ hf, ?_⟩
    rw [hm, Entries.mapValues_setAll, AttributeCode.setAll_append]

lemma AttributesMean.fields_shows (h : AttributesMean s₀ scope codes A) (hin : scope.In s₀) (hg : Store.Grows none s₀ s)
    (hs : s.Closed) {acc fs : List (String × Value)}
    (hf : FieldsYield scope acc (codes.map AttributeCode.property) s fs t) : ∃ es, A es := by
  induction h generalizing s acc with
  | nil hA => exact ⟨[], (hA _).2 rfl⟩
  | cons hcode _ hB ih =>
    obtain ⟨new, u, hp, hu, hclosed, hf⟩ := hcode.step_shows hin hg hs hf
    obtain ⟨rest, hr⟩ := ih (hg.trans hu) hclosed hf
    exact ⟨_, (hB _).2 ⟨_, rest, hp, hr, rfl⟩⟩

lemma AttributesMean.object_runs (h : AttributesMean s₀ scope codes A) (hin : scope.In s₀) (hg : Store.Grows none s₀ s)
    (hs : s.Closed) {es : List (String × AttributeValue)} (he : A es) :
    ∃ identity fs t, Evaluates scope (AttributeCode.toObject codes) s (.object identity fs) t ∧
      Value.toAttributeValues fs = .ofList es := by
  obtain ⟨fs, u, hf, hm⟩ := h.fields_runs hin hg hs [] he
  refine ⟨u.identities, fs, u.next, evaluates_object.2 ⟨fs, u, hf, rfl⟩, ?_⟩
  apply OrderedMap.ext
  rw [Value.toAttributeValues_eq, hm]
  exact Entries.setAll_nil_of_nodup (Entries.nodup_setAll .nil)

lemma AttributesMean.object_shows (h : AttributesMean s₀ scope codes A) (hin : scope.In s₀) (hg : Store.Grows none s₀ s)
    (hs : s.Closed) {v : Value} (hv : Evaluates scope (AttributeCode.toObject codes) s v t) :
    ∃ es identity fs, A es ∧ v = .object identity fs ∧ Value.toAttributeValues fs = .ofList es := by
  obtain ⟨fs, u, hf, -⟩ := evaluates_object.1 hv
  obtain ⟨es, he⟩ := h.fields_shows hin hg hs hf
  obtain ⟨identity, fs, t', hv', hfs⟩ := h.object_runs hin hg hs he
  obtain ⟨rfl, rfl⟩ := Yields.unique (expression_steady scope _) hv hv'
  exact ⟨es, identity, fs, he, rfl, hfs⟩

end Attributes

section Elements

variable {M : Type}

def ElementShows (b₀ : Builder M) (N : String → Prop) (A : List (String × AttributeValue) → Prop) (E : List (Child M) → Prop)
    (child : Child M) : Prop :=
  ∃ name es children ms node, N name ∧ A es ∧ E children ∧ Child.flatten b₀ children = .ok ms ∧
    b₀.element name (.ofList es) ms = .ok node ∧ child = .node node

def FragmentShows (b₀ : Builder M) (E : List (Child M) → Prop) (child : Child M) : Prop :=
  ∃ children ms, E children ∧ Child.flatten b₀ children = .ok ms ∧ child = .list (ms.map .node)

end Elements

section Calls

variable {M : Type} {b₀ : Builder M} {S : Store → M → AnyNode Value → Prop} {c : Config} {r : Representation}
  {s₀ s t : Store} {scope : Scope} {tag : Expr} {codes : List AttributeCode}
  {content : List Compiled} {N : String → Prop} {A : List (String × AttributeValue) → Prop}
  {E : List (Child M) → Prop}

lemma evaluates_elementCall {v : Value} (h : s.Supports scope c.support) :
    Evaluates scope (c.elementCall r tag codes content) s v t ↔
      ∃ x u w u' vs u'', Evaluates scope tag s x u ∧ Evaluates scope (AttributeCode.toObject codes) u w u' ∧
        ItemsYield scope (c.spreadChildren r content) u' vs u'' ∧ r.method "element" (x :: w :: vs) u'' = .ok v t := by
  simp only [Evaluates, Yields, expression_elementCall h]
  refine (Yields.bind (expression_steady scope tag) fun x => ?_).trans ?_
  · exact (items_steady scope _).bind fun vs => .const (r.method "element" (x :: vs))
  · refine exists_congr fun x => exists_congr fun u => ?_
    rw [Yields.bind_const (items_steady scope _)]
    simp only [itemsYield_single]
    constructor
    · rintro ⟨hx, _, u'', ⟨w, u', vs, hw, hvs, rfl⟩, hm⟩
      exact ⟨w, u', vs, u'', hx, hw, hvs, hm⟩
    · rintro ⟨w, u', vs, u'', hx, hw, hvs, hm⟩
      exact ⟨hx, _, u'', ⟨w, u', vs, hw, hvs, rfl⟩, hm⟩

lemma elementCall_means (hm : Mirrors r b₀ S) (hin : scope.In s₀) (hsupport : s₀.Supports scope c.support) (htag : TextMeans s₀ scope tag N)
    (hattributes : AttributesMean s₀ scope codes A) (hcontent : ContentMeans S s₀ scope content E) :
    Means S s₀ scope (c.elementCall r tag codes content) (ElementShows b₀ N A E) where
  runs {s} hg hs child := by
    rintro ⟨name, es, children, ms, node, hn, ha, he, hf, hnode, rfl⟩
    obtain ⟨u, hx⟩ := (htag s hg hs _).2 ⟨name, rfl, hn⟩
    have hu := hg.trans hx.grows
    have hclosed := (hx.closed hs (hin.grow hg)).1
    obtain ⟨identity, fs, u', hw, hfs⟩ := hattributes.object_runs hin hu hclosed ha
    have hu' := hu.trans hw.grows
    obtain ⟨vs, u'', hvs, hread⟩ := hcontent.spread_runs hm hin hsupport hu' (hw.closed hclosed (hin.grow hu)).1 he hf
    have hshown := hm.element name (.ofList es) hread
    rw [flatten_nodes_eq] at hshown
    simp only [Bind.bind, Except.bind, hnode] at hshown
    generalize hy : AnyNode.element streamBuilder r name (.ofList es) Value.toChild vs = y at hshown
    cases hshown with
    | @ok _ built hshown =>
      obtain ⟨v, t, hv, hread, hgrow, -⟩ := built.toValue_read u'' (.refl _ _)
      refine ⟨v, t, (evaluates_elementCall (hsupport.grow hin hg)).2 ⟨_, u, _, u', vs, u'', hx, hw, hvs, ?_⟩, ?_⟩
      · rw [method_element_eq, hfs, hy]
        exact hv
      · rw [hread]
        exact .node (hm.later hshown hgrow)
  shows {s t v} hg hs hv := by
    obtain ⟨x, u, w, u', vs, u'', hx, hw, hvs, hmethod⟩ := (evaluates_elementCall (hsupport.grow hin hg)).1 hv
    obtain ⟨name, rfl, hn⟩ := (htag s hg hs x).1 ⟨u, hx⟩
    have hu := hg.trans hx.grows
    have hclosed := (hx.closed hs (hin.grow hg)).1
    have hclosed' := (hw.closed hclosed (hin.grow hu)).1
    obtain ⟨es, identity, fs, ha, rfl, hfs⟩ := hattributes.object_shows hin hu hclosed hw
    obtain ⟨children, ms, he, hf, hread⟩ := hcontent.spread_shows hm hin hsupport (hu.trans hw.grows) hclosed' hvs
    have hshown := hm.element name (.ofList es) hread
    rw [flatten_nodes_eq] at hshown
    rw [method_element_eq, hfs] at hmethod
    generalize AnyNode.element streamBuilder r name (.ofList es) Value.toChild vs = y at hshown hmethod
    simp only [Bind.bind, Except.bind] at hshown
    generalize hnode : b₀.element name (.ofList es) ms = x at hshown
    cases hshown with
    | error fault => cases hmethod
    | ok _ => exact ⟨_, name, es, children, ms, _, hn, ha, he, hf, hnode, rfl⟩

lemma ContentMeans.check_ok (h : ContentMeans S s₀ scope content E) {name : String}
    (hname : isComponentName name = false) (hvoid : isVoidTag name → content = []) {children : List (Child M)}
    (he : E children) {ms : List M} (hf : Child.flatten b₀ children = .ok ms) : checkTag name (!ms.isEmpty) = .ok () := by
  cases hv : isVoidTag name with
  | false => simp [checkTag, hname, hv]
  | true =>
    obtain rfl := hvoid hv
    cases h with
    | nil hE =>
      obtain rfl := (hE _).1 he
      obtain rfl := Except.ok.inj hf
      simp [checkTag, hname]

lemma evaluates_fragment {v : Value} (h : s.Supports scope c.support) :
    Evaluates scope (c.componentCall (c.member "Fragment") [] content) s v t ↔
      ∃ vs u, ItemsYield scope (c.spreadChildren c.target content) s.next vs u ∧ Eval.newArray vs u = .ok v t := by
  refine (evaluates_support h .fragment).trans ?_
  simp only [itemsYield_single]
  constructor
  · rintro ⟨_, u, ⟨w, u', vs, hw, hvs, rfl⟩, hrun⟩
    obtain ⟨es, u'', hes, he⟩ := evaluates_object.1 hw
    obtain ⟨rfl, rfl⟩ := fieldsYield_nil.1 hes
    obtain ⟨-, rfl⟩ := EStateM.Result.ok.inj he
    exact ⟨vs, u, hvs, hrun⟩
  · rintro ⟨vs, u, hvs, hrun⟩
    refine ⟨_, u, ⟨.object s.identities [], s.next, vs, ?_, hvs, rfl⟩, hrun⟩
    exact evaluates_object.2 ⟨[], s, fieldsYield_nil.2 ⟨rfl, rfl⟩, rfl⟩

lemma fragment_means (hm : Mirrors c.target b₀ S) (hin : scope.In s₀) (hsupport : s₀.Supports scope c.support)
    (hcontent : ContentMeans S s₀ scope content E) :
    Means S s₀ scope (c.componentCall (c.member "Fragment") [] content) (FragmentShows b₀ E) where
  runs {s} hg hs child := by
    rintro ⟨children, ms, he, hf, rfl⟩
    obtain ⟨vs, u, hvs, hread⟩ := hcontent.spread_runs hm hin hsupport (hg.trans s.next_grows) hs.next he hf
    refine ⟨.array u.identities vs, u.next, (evaluates_fragment (hsupport.grow hin hg)).2 ⟨vs, u, hvs, rfl⟩, ?_⟩
    exact (hread.later hm u.next_grows).list _
  shows {s t v} hg hs hv := by
    obtain ⟨vs, u, hvs, -⟩ := (evaluates_fragment (hsupport.grow hin hg)).1 hv
    obtain ⟨children, ms, he, hf, -⟩ := hcontent.spread_shows hm hin hsupport (hg.trans s.next_grows) hs.next hvs
    exact ⟨_, children, ms, he, hf, rfl⟩

end Calls

end TemplateScript
