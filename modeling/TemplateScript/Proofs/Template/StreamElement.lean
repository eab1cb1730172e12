import TemplateScript.Proofs.Document.Composition
import TemplateScript.Proofs.Template.StreamLeaf

/-!
The code of the stream target and the call of the stream builder, made of the same parts, end alike: in the
same failure, or with a leaf that writes the element that the builder has made.
-/

namespace TemplateScript

def Value.stream? : Value → Option (StreamNode Value)
  | .stream x => some x
  | _ => none

namespace StreamElement

open Evaluation

variable {c : Config} {scope : Scope} {n : Nat}

lemma toValues_streams (nodes : List (StreamNode Value)) :
    AnyNode.toValues (nodes.map AnyNode.stream) = pure (nodes.map Value.stream) := by
  induction nodes with
  | nil => rfl
  | cons node nodes ih => simp only [List.map_cons, AnyNode.toValues, AnyNode.toValue, ih, pure_bind]

lemma streams_of_normalizeChildren {s t : Store} {content : List Compiled} {v : Value}
    (hs : s.Supports scope c.support)
    (h : expression (callWithin n) scope (c.normalizeChildren .stream content) s = .ok v t) :
    ∃ (identity : Nat) (nodes : List (StreamNode Value)), v = .array identity (nodes.map .stream) := by
  rw [Config.normalizeChildren, Config.callWith, Expr.callWith] at h
  have he := (expression_support hs .normalizeChildren _).symm.trans h
  simp only [List.map_cons, items, run_bind_eq_ok, expression_builder hs, callWithin_native, Native.run] at he
  obtain ⟨_, t', ⟨_, _, hb, values, t'', hvalues, hp⟩, he⟩ := he
  obtain ⟨rfl, rfl⟩ := EStateM.Result.ok.inj hb
  obtain ⟨rfl, rfl⟩ := EStateM.Result.ok.inj hp
  simp only [Support.normalizeChildren, run_bind_eq_ok, ofExcept_eq_ok, AnyNode.normalize, bind_eq_ok_iff] at he
  obtain ⟨_, _, ⟨⟨children, hc, nodes, hn, hr⟩, -⟩, array, t₂, hv, he⟩ := he
  obtain rfl := Except.ok.inj hr
  rw [toValues_streams] at hv
  obtain ⟨rfl, rfl⟩ := EStateM.Result.ok.inj hv
  exact ⟨_, nodes, (EStateM.Result.ok.inj he).1.symm⟩

inductive PartsMatch (codes : List AttributeCode) (q : Pairing) : List Compiled → List Value → List Value → Prop
  | bare {identity : Nat} {new : List (String × Value)} {w : Value} :
    AttributeCode.Gathers codes new → Value.Match q (.object identity (Entries.setAll [] new)) w →
    PartsMatch codes q [] [.object identity (Entries.setAll [] new)] [w]
  | filled {identity identity' : Nat} {new : List (String × Value)} {w : Value} {child : Compiled}
    {content : List Compiled} {xs ys : List (StreamNode Value)} :
    AttributeCode.Gathers codes new → Value.Match q (.object identity (Entries.setAll [] new)) w →
    List.Forall₂ (StreamNode.Rel (Value.Match q)) xs ys →
    PartsMatch codes q (child :: content) [.object identity (Entries.setAll [] new), .array identity' (xs.map .stream)]
      (w :: ys.map .stream)

lemma streams_match_inv {q : Pairing} {xs : List (StreamNode Value)} {ws : List Value}
    (h : Values.Match q (xs.map .stream) ws) :
    ∃ ys, ws = ys.map .stream ∧ List.Forall₂ (StreamNode.Rel (Value.Match q)) xs ys := by
  induction xs generalizing ws with
  | nil =>
    cases h
    exact ⟨[], rfl, .nil⟩
  | cons x xs ih =>
    cases h with
    | cons hx hs =>
      cases hx with
      | stream hx =>
        obtain ⟨ys, rfl, hys⟩ := ih hs
        exact ⟨_ :: ys, rfl, .cons hx hys⟩

lemma parts_outcome {p : Pairing} {s t : Store} (hst : Store.Match p s t) {scope' : Scope}
    (hscope : Scope.Match p AnyName scope scope') (hin : scope.In s) (hs : s.Supports scope c.support)
    (codes : List AttributeCode) (content : List Compiled) (nodes : Option String)
    (hnodes : nodes.isNone = content.isEmpty) :
    Outcome p (fun q => PartsMatch codes q content) s t
      (items (callWithin n) scope (.single (AttributeCode.toObject codes) ::
        (childBinding c content nodes).map fun b => .single b.2) s)
      (items (callWithin n) scope' (.single (AttributeCode.toObject codes) :: c.spreadChildren .stream content) t) := by
  have hcall := callWithin_follows n
  simp only [items]
  refine (expression_follows hcall hscope (Expr.Alike.refl _) s t hst).bind
    fun q v w s' t' hv _ had hvw => ?_
  obtain ⟨identity, new, hg, rfl⟩ := AttributeCode.gathers_of_object hv
  have hs' := hs.grow hin (grows_of_expression hv)
  cases content with
  | nil =>
    obtain rfl : nodes = none := Option.isNone_iff_eq_none.1 hnodes
    exact .ok (.refl had.stores) (.bare hg hvw)
  | cons child content =>
    cases nodes with
    | none => cases hnodes
    | some name =>
      simp only [childBinding, List.map_cons, List.map_nil, Config.spreadChildren, List.isEmpty_cons,
        Bool.false_eq_true, if_false, items, bind_assoc, pure_bind]
      refine (expression_follows hcall (hscope.mono had.le) (Expr.Alike.refl _) s' t' had.stores).bind
        fun q' v' w' s'' t'' hv' _ had' hvw' => ?_
      obtain ⟨identity', xs, rfl⟩ := streams_of_normalizeChildren hs' hv'
      cases hvw' with
      | array _ hxs =>
        obtain ⟨ys, rfl, hys⟩ := streams_match_inv hxs
        simp only [List.append_nil, pure_bind]
        exact .ok (.refl had'.stores) (.filled hg (hvw.mono had'.le) hys)

lemma readAll_streams (ys : List (StreamNode Value)) :
    Child.readAll Value.toChild AnyNode.toStream (ys.map .stream) = .ok (ys.map .node) := by
  induction ys with
  | nil => rfl
  | cons y ys ih =>
    simp only [List.map_cons, Child.readAll, ih]
    rfl

lemma method_element (tag : String) {w : Value} {values : AttributeValues} (hw : w.attributeValues = .ok values)
    (ys : List (StreamNode Value)) :
    Representation.stream.method "element" (.string tag :: w :: ys.map .stream) = (do
      Eval.ofExcept (checkTag tag (!ys.isEmpty))
      return .stream (.element tag values.normalize ys)) := by
  have he : AnyNode.element streamBuilder .stream tag values Value.toChild (ys.map .stream) =
      (checkTag tag (!ys.isEmpty)).map fun _ => .stream (.element tag values.normalize ys) := by
    simp only [AnyNode.element, AnyNode.build, readAll_streams, Bind.bind, Except.bind, flatten_nodes_eq, streamBuilder,
      streamBuilderWith]
    cases checkTag tag (!ys.isEmpty) <;> rfl
  have hr : Representation.stream.method "element" (.string tag :: w :: ys.map .stream) = (do
      let values ← Eval.ofExcept w.attributeValues
      let node ← Eval.ofExcept (AnyNode.element streamBuilder .stream tag values Value.toChild (ys.map .stream))
      node.toValue) := rfl
  rw [hr, hw, Eval.ofExcept, pure_bind, he]
  cases checkTag tag (!ys.isEmpty) <;> rfl

lemma leaf_quietly {l₀ : Store} (hin : scope.In l₀) (hs : l₀.Supports scope c.support) (sink extension : String)
    (code : List Stmt) {tag : Expr} {x : Value} (ht : Quietly l₀ (· = x) (expression (callWithin n) scope tag)) :
    Quietly l₀ (fun v => ∃ id, v = .stream (.generated (.closure id [sink, extension] (.block code) scope)
        (Representation.leafKind (some x))))
      (expression (callWithin n) scope (leaf c sink extension code tag)) := by
  intro l hl
  have hb := expression_builder (hs.grow hin hl) n .stream
  obtain ⟨v, l', he, rfl, hg, hsinks⟩ := ht l.next (hl.trans l.next_grows)
  refine ⟨_, l', ?_, ⟨l.identities, rfl⟩, l.next_grows.trans hg, hsinks⟩
  have hid : Eval.newIdentity l = .ok l.identities l.next := rfl
  simp only [leaf, Expr.callWith, List.map_cons, List.map_nil, expression, items, Bind.bind, EStateM.bind, hb, hid,
    pure, EStateM.pure, he]
  rfl

inductive LeafEnds (kind : String → LeafKind) (p : Pairing) :
    EStateM.Result Halt Store Value → EStateM.Result Halt Store Value → Prop
  | ok {q : Pairing} {s' t' : Store} {code : Value} {tag : String} {attributes : Attributes}
    {xs ys : List (StreamNode Value)} :
    p ≤ q → Store.Match q s' t' → WritesElement s' code tag attributes xs →
    List.Forall₂ (StreamNode.Rel (Value.Match q)) xs ys →
    LeafEnds kind p (.ok (.stream (.generated code (kind tag))) s') (.ok (.stream (.element tag attributes ys)) t')
  | error (halt : Halt) (s' t' : Store) : LeafEnds kind p (.error halt s') (.error halt t')

abbrev LeafOutcome : Pairing → EStateM.Result Halt Store Value → EStateM.Result Halt Store Value → Prop :=
  LeafEnds .element

lemma LeafEnds.after {kind : String → LeafKind} {α β : Type} {p : Pairing} {R : Pairing → α → β → Prop} {s t : Store}
    {m : Eval α} {m' : Eval β} {f : α → Eval Value} {f' : β → Eval Value} (h : Outcome p R s t (m s) (m' t))
    (hf : ∀ q a b s' t', m s = .ok a s' → m' t = .ok b t' → Advance p q s t s' t' → R q a b →
      LeafEnds kind q (f a s') (f' b t')) : LeafEnds kind p ((m >>= f) s) ((m' >>= f') t) := by
  simp only [Bind.bind, EStateM.bind]
  generalize m s = x at h hf ⊢
  generalize m' t = y at h hf ⊢
  cases h with
  | error halt _ => exact .error halt _ _
  | @ok q a b s' t' had hr =>
    have hn := hf q a b s' t' rfl rfl had hr
    dsimp only
    generalize f a s' = x at hn ⊢
    generalize f' b t' = y at hn ⊢
    cases hn with
    | error halt s' t' => exact .error halt s' t'
    | ok hle hst hw hxs => exact .ok (had.le.trans hle) hst hw hxs

lemma WritesElement.later {s l : Store} {code : Value} {tag : String} {attributes : Attributes}
    {own : List (StreamNode Value)} (h : WritesElement s code tag attributes own) (hl : Store.Grows none s l) :
    WritesElement l code tag attributes own :=
  fun ha n i l₀ r₀ call' e v xs ys hl₀ => h ha n i l₀ r₀ call' e v xs ys (hl.trans hl₀)

def NodesBound (s : Store) (scope : Scope) : Option String → List (StreamNode Value) → Prop
  | none, nodes => nodes = []
  | some name, nodes => ∃ identity, s.get? name scope = some (.array identity (nodes.map .stream))

lemma own_writes {τ : Type} {append : τ → String → τ} (ha : LawfulAppend append) {s l r₀ : Store} (hin : scope.In s)
    {a k : Nat} {content : List Compiled} {nodes : List (StreamNode Value)}
    (hb : NodesBound s scope (ownChildren (temporary 's' a) content k).1.1 nodes) (hl : Store.Grows none s l) {b i : Nat}
    {v : Value} {xs : List (StreamNode.Staged Value Halt (Store × τ))}
    (hx : NodesWrite append i (leafStore l a b i v) r₀ (callWithin n) nodes xs) :
    Writes append i (leafStore l a b i v) r₀ (statements (callWithin n) (l.frames.size :: scope)
      (ownChildren (temporary 's' a) content k).1.2) (StreamNode.renderStaged xs) := by
  have hin' := hin.grow hl
  cases content with
  | nil =>
    obtain rfl : nodes = [] := hb
    cases hx
    exact statements_nil_writes ha
  | cons child content =>
    obtain ⟨identity, hg⟩ : ∃ identity, s.get? (temporary 'c' (k + 1)) scope =
      some (.array identity (nodes.map .stream)) := hb
    have hnodes : (leafStore l a b i v).get? (temporary 'c' (k + 1)) (l.frames.size :: scope) =
        some (.array identity (nodes.map .stream)) := by
      rw [get?_leafStore hin' a b i v (temporary_ne (by decide) _ _) (temporary_ne (by decide) _ _)]
      exact (hl.get?_eq hin _).trans hg
    have hsink : (leafStore l a b i v).get? (temporary 's' a) (l.frames.size :: scope) = some (.sink i) := by
      rw [leafStore, Store.get?_enter hin']
      simp [Entries.get?]
    have hne : temporary 'n' (k + 2) ≠ temporary 's' a := temporary_ne (by decide) _ _
    have hown : (ownChildren (temporary 's' a) (child :: content) k).1.2 =
      [renderEach (temporary 's' a) (temporary 'n' (k + 2)) (.identifier (temporary 'c' (k + 1)))] := rfl
    rw [hown]
    exact statements_one_writes ha (renderEach_writes ha (hin'.enter _) hne hsink
      ((identifier_quietly (hin'.enter _) hnodes).mono fun _ e => ⟨identity, e⟩) hx)

lemma partsScope_enter {s : Store} (hin : scope.In s) (hs : s.Supports scope c.support) {frame : List (String × Value)}
    {values : String} {base : Value} (hv : Entries.get? values frame = some base)
    (hnone : Entries.get? c.support frame = none) :
    PartsScope c values base (s.frames.size :: scope) (s.enter frame) where
  inStore := hin.enter frame
  support := by
    obtain ⟨identity, he⟩ := hs
    exact ⟨identity, by rw [Store.get?_enter hin, hnone, he]; rfl⟩
  values := by rw [Store.get?_enter hin, hv]; rfl

def leafCode (c : Config) (a b v k item : Nat) (opening : Expr) (codes : List AttributeCode) (content : List Compiled)
    (close : List Stmt) : List Stmt :=
  let plain := plainChunks c (.identifier (temporary 'a' v)) codes k
  [write (temporary 's' a) opening, writeAttributes c (temporary 's' a) (temporary 'e' b)
    (.identifier (temporary 'a' v)) plain.1, write (temporary 's' a) (.string ">")] ++
    (ownChildren (temporary 's' a) content plain.2).1.2 ++
    [renderAdded (temporary 's' a) (temporary 'e' b) (temporary 'n' item)] ++ close

def leafNodes (c : Config) (a v k : Nat) (codes : List AttributeCode) (content : List Compiled) : Option String :=
  (ownChildren (temporary 's' a) content (plainChunks c (.identifier (temporary 'a' v)) codes k).2).1.1

lemma static_eq (c : Config) (tag : String) (codes : List AttributeCode) (content : List Compiled) (k : Nat) :
    ∃ item, (static c tag codes content k).1 =
      bindNames ((temporary 'a' (k + 3), AttributeCode.toObject codes) ::
          childBinding c content (leafNodes c (k + 1) (k + 3) (k + 3) codes content))
        (.expression (leaf c (temporary 's' (k + 1)) (temporary 'e' (k + 2))
          (leafCode c (k + 1) (k + 2) (k + 3) (k + 3) item (.string ("<" ++ tag)) codes content
            (if isVoidTag tag then [] else [write (temporary 's' (k + 1)) (.string ("</" ++ tag ++ ">"))]))
          (.string tag))) :=
  ⟨_, rfl⟩

section Close

variable {τ : Type} {append : τ → String → τ} {l₀ r₀ : Store} {i : Nat} {sink tag : String} {x : Value} {call' : Call}

lemma writeClose_writes (ha : LawfulAppend append) (hin : scope.In l₀) (hsink : l₀.get? sink scope = some (.sink i))
    {text : Expr} (ht : Quietly l₀ (· = .string ("</" ++ tag ++ ">")) (expression (callWithin n) scope text)) :
    Writes append i l₀ r₀ (statement (callWithin n) scope (write sink text))
      ((StreamNode.outsideSink append call').putAll ["</", tag, ">"]) := by
  rw [putAll_eq ha, show String.join ["</", tag, ">"] = "</" ++ tag ++ ">" by simp [String.join_cons, String.append_assoc]]
  exact write_writes hin hsink ht

lemma staticClose_writes (ha : LawfulAppend append) (hin : scope.In l₀)
    (hsink : l₀.get? sink scope = some (.sink i)) :
    Writes append i l₀ r₀ (statements (callWithin n) scope
        (if isVoidTag tag then [] else [write sink (.string ("</" ++ tag ++ ">"))]))
      (if isVoidTag tag then pure () else (StreamNode.outsideSink append call').putAll ["</", tag, ">"]) := by
  split
  · exact statements_nil_writes ha
  · exact statements_one_writes ha (writeClose_writes ha hin hsink (string_quietly _))

lemma not_quietly {e : Expr} (h : Quietly l₀ (· = x) (expression (callWithin n) scope e)) :
    Quietly l₀ (· = .bool (!x.isTruthy)) (expression (callWithin n) scope (.not e)) := by
  simp only [expression]
  exact h.bind fun _ e => .pure (by rw [e])

lemma computedClose_writes (ha : LawfulAppend append) (hin : scope.In l₀)
    (hsink : l₀.get? sink scope = some (.sink i)) {name isVoid : String}
    (hname : l₀.get? name scope = some x) (hvoid : l₀.get? isVoid scope = some (.bool (isVoidTag x.text))) :
    Writes append i l₀ r₀ (statements (callWithin n) scope [.branch (.not (.identifier isVoid))
        (write sink (.concat [.string "</", .identifier name, .string ">"])) none])
      (if isVoidTag x.text then pure () else (StreamNode.outsideSink append call').putAll ["</", x.text, ">"]) := by
  refine statements_one_writes ha (branch_writes (not_quietly (identifier_quietly hin hvoid)) (fun ht l hl => ?_) fun hf => ?_)
  · have hv : isVoidTag x.text = false := by simpa [Value.isTruthy] using ht
    have hin' := hin.grow hl
    have hname' := (Store.get?_enter hin' [] _).trans ((hl.get?_eq hin name).trans hname)
    rw [hv]
    refine writeClose_writes ha (hin'.enter []) ?_ ?_
    · exact (Store.get?_enter hin' [] _).trans ((hl.get?_eq hin sink).trans hsink)
    · exact add_quietly (add_quietly (string_quietly _) (identifier_quietly (hin'.enter []) hname')) (string_quietly _)
  · have hv : isVoidTag x.text = true := by simpa [Value.isTruthy] using hf
    rw [hv, otherwise]
    exact .done ha rfl

end Close

lemma attributeValues_of_match {q : Pairing} {identity : Nat} {new : List (String × Value)} {w : Value}
    (h : Value.Match q (.object identity (Entries.setAll [] new)) w) :
    w.attributeValues = .ok (Value.toAttributeValues new) := by
  rw [← h.attributeValues_eq, Value.attributeValues, Value.toAttributeValues_setAll]

/-- The frame of a leaf: it binds the attributes and the children besides what it has bound before. -/
structure LeafFrame (v : Nat) (nodes : Option String) (base : Value) (xs : List (StreamNode Value))
    (before frame : List (String × Value)) : Prop where
  values : Entries.get? (temporary 'a' v) frame = some base
  children (name : String) (_ : nodes = some name) :
    ∃ identity, Entries.get? name frame = some (.array identity (xs.map .stream))
  others (name : String) (_ : name ≠ temporary 'a' v) (_ : nodes ≠ some name) :
    Entries.get? name frame = Entries.get? name before

lemma LeafFrame.set {v : Nat} {nodes : Option String} {base : Value} {xs : List (StreamNode Value)}
    {before frame : List (String × Value)} (h : LeafFrame v nodes base xs before frame) {key : String}
    (hkey : key ≠ temporary 'a' v) (hnodes : nodes ≠ some key) (value : Value) :
    LeafFrame v nodes base xs (Entries.set key value before) (Entries.set key value frame) where
  values := by rw [Entries.get?_set, if_neg hkey, h.values]
  children name hn := by
    obtain ⟨identity, hg⟩ := h.children name hn
    have hne : key ≠ name := fun e => hnodes (e ▸ hn)
    exact ⟨identity, by rw [Entries.get?_set, if_neg hne, hg]⟩
  others name hv hn := by rw [Entries.get?_set, Entries.get?_set, h.others name hv hn]

lemma leafNodes_cases (c : Config) (a v k : Nat) (codes : List AttributeCode) (content : List Compiled) :
    content = [] ∧ leafNodes c a v k codes content = none ∨
      content ≠ [] ∧ ∃ j, leafNodes c a v k codes content = some (temporary 'c' j) := by
  cases content with
  | nil => exact .inl ⟨rfl, rfl⟩
  | cons child content => exact .inr ⟨nofun, _, rfl⟩

lemma leafNodes_ne (c : Config) (a v k : Nat) (codes : List AttributeCode) (content : List Compiled) {name : String}
    (h : ∀ j, name ≠ temporary 'c' j) : leafNodes c a v k codes content ≠ some name := by
  obtain ⟨-, hn⟩ | ⟨-, j, hn⟩ := leafNodes_cases c a v k codes content
  · rw [hn]
    nofun
  · rw [hn]
    exact fun e => h j (Option.some.inj e).symm

lemma bare_frame (v : Nat) (base : Value) (before : List (String × Value)) :
    LeafFrame v none base [] before (bindAll before [temporary 'a' v] [base]) where
  values := by simp [bindAll, Entries.get?_set, Support.first]
  children := by rintro _ ⟨⟩
  others name hv _ := by simp [bindAll, Entries.get?_set, hv.symm]

lemma filled_frame (v j identity : Nat) (base : Value) (xs : List (StreamNode Value)) (before : List (String × Value)) :
    LeafFrame v (some (temporary 'c' j)) base xs before
      (bindAll before [temporary 'a' v, temporary 'c' j] [base, .array identity (xs.map .stream)]) where
  values := by
    have hne : temporary 'c' j ≠ temporary 'a' v := temporary_ne (by decide) _ _
    simp [bindAll, Entries.get?_set, Support.first, hne]
  children := by
    rintro _ ⟨⟩
    exact ⟨identity, by simp [bindAll, Entries.get?_set, Support.first]⟩
  others name hv hn := by
    have hne : temporary 'c' j ≠ name := fun e => hn (congrArg some e)
    simp [bindAll, Entries.get?_set, hv.symm, hne]

lemma PartsMatch.frame {codes : List AttributeCode} {q : Pairing} {content : List Compiled} {vs ws : List Value}
    (h : PartsMatch codes q content vs ws) {v : Nat} {nodes : Option String}
    (hnodes : content = [] ∧ nodes = none ∨ content ≠ [] ∧ ∃ j, nodes = some (temporary 'c' j))
    (before : List (String × Value)) :
    ∃ identity new w xs ys, AttributeCode.Gathers codes new ∧
      w.attributeValues = .ok (Value.toAttributeValues new) ∧ ws = w :: ys.map .stream ∧
      List.Forall₂ (StreamNode.Rel (Value.Match q)) xs ys ∧ (content = [] → xs = []) ∧
      LeafFrame v nodes (.object identity (Entries.setAll [] new)) xs before
        (bindAll before (temporary 'a' v :: (childBinding c content nodes).map Prod.fst) vs) := by
  cases h with
  | @bare identity new w hg hw =>
    obtain ⟨-, rfl⟩ | ⟨hne, -⟩ := hnodes
    · exact ⟨identity, new, w, [], [], hg, attributeValues_of_match hw, rfl, .nil, fun _ => rfl, bare_frame v _ before⟩
    · exact absurd rfl hne
  | @filled identity identity' new w child content xs ys hg hw hxs =>
    obtain ⟨he, -⟩ | ⟨-, j, rfl⟩ := hnodes
    · cases he
    · exact ⟨identity, new, w, xs, ys, hg, attributeValues_of_match hw, rfl, hxs, fun e => absurd e (List.cons_ne_nil _ _),
        filled_frame v j identity' _ xs before⟩

lemma LeafFrame.nodesBound {s : Store} (hin : scope.In s) {a v k : Nat} {codes : List AttributeCode}
    {content : List Compiled} {base : Value} {xs : List (StreamNode Value)} {before frame : List (String × Value)}
    (h : LeafFrame v (leafNodes c a v k codes content) base xs before frame) (hbare : content = [] → xs = []) :
    NodesBound (s.enter frame) (s.frames.size :: scope) (leafNodes c a v k codes content) xs := by
  obtain ⟨hcontent, hn⟩ | ⟨-, j, hn⟩ := leafNodes_cases c a v k codes content
  · rw [hn]
    exact hbare hcontent
  · obtain ⟨id, hg⟩ := h.children _ hn
    rw [hn]
    exact ⟨id, by rw [Store.get?_enter hin, hg]; rfl⟩

def childNodes : String × Value → List (StreamNode Value)
  | (name, .array _ items) => if name.toList.take 2 = ['_', 'c'] then items.filterMap Value.stream? else []
  | _ => []

def ownNodes (s : Store) : Value → List (StreamNode Value)
  | .closure _ _ _ (frame :: _) => (s.frames[frame]?.getD []).flatMap childNodes
  | _ => []

/-- The evaluation, begun in the store, ends with a leaf that writes an element with its own children. -/
inductive MakesLeaf (s : Store) (kind : LeafKind) (tag : String) (attributes : Attributes) (own : List (StreamNode Value)) :
    EStateM.Result Halt Store Value → Prop
  | intro {code : Value} {t : Store} : Store.Grows none s t → WritesElement t code tag attributes own →
    own ⊆ ownNodes t code → MakesLeaf s kind tag attributes own (.ok (.stream (.generated code kind)) t)

lemma MakesLeaf.earlier {s s' : Store} {kind : LeafKind} {tag : String} {attributes : Attributes}
    {own : List (StreamNode Value)} {r : EStateM.Result Halt Store Value} (h : MakesLeaf s' kind tag attributes own r)
    (hs : Store.Grows none s s') : MakesLeaf s kind tag attributes own r := by
  cases h with
  | intro hg hw hown => exact .intro (hs.trans hg) hw hown

lemma mem_childNodes {xs : List (StreamNode Value)} {y : StreamNode Value} (hy : y ∈ xs) (j identity : Nat) :
    y ∈ childNodes (temporary 'c' j, .array identity (xs.map .stream)) := by
  simp only [childNodes, toList_temporary, List.take_succ_cons, List.take_zero, if_true, List.filterMap_map]
  exact List.mem_filterMap.2 ⟨y, hy, rfl⟩

lemma LeafFrame.subset_ownNodes {s t : Store} {a v k id : Nat} {params : List String} {statements : Body}
    {codes : List AttributeCode} {content : List Compiled} {base : Value} {xs : List (StreamNode Value)}
    {before frame : List (String × Value)}
    (h : LeafFrame v (leafNodes c a v k codes content) base xs before frame) (hbare : content = [] → xs = [])
    (ht : Store.Grows none (s.enter frame) t) :
    xs ⊆ ownNodes t (.closure id params statements (s.frames.size :: scope)) := by
  intro y hy
  have hframe : t.frames[s.frames.size]? = some frame :=
    (ht.frames _ (by simp [s.size_enter]) (by simp)).trans (s.frames_enter frame)
  obtain ⟨hcontent, -⟩ | ⟨-, j, hn⟩ := leafNodes_cases c a v k codes content
  · rw [hbare hcontent] at hy
    cases hy
  · obtain ⟨identity, hg⟩ := h.children _ hn
    rw [ownNodes, hframe]
    exact List.mem_flatMap.2 ⟨_, Entries.mem_of_get? hg, mem_childNodes hy j identity⟩

section Leaf

variable {s : Store} {before frame : List (String × Value)} {codes : List AttributeCode} {content : List Compiled}
  {a b v k identity : Nat} {new : List (String × Value)} {xs : List (StreamNode Value)}

lemma leaf_makes (hin : scope.In s) (hs : s.Supports scope c.support) (hc : isTemporary c.support = false)
    (hframe : LeafFrame v (leafNodes c a v k codes content) (.object identity (Entries.setAll [] new)) xs before frame)
    (hbefore : Entries.get? c.support before = none) (hg : AttributeCode.Gathers codes new) (hbare : content = [] → xs = [])
    {item : Nat} {tag : String} {name opening : Expr} {close : List Stmt} {x : Value}
    (hname : Quietly (s.enter frame) (· = x) (expression (callWithin n) (s.frames.size :: scope) name))
    (hopening : ∀ n i v l, Store.Grows none (s.enter frame) l → Quietly (leafStore l a b i v) (· = .string ("<" ++ tag))
      (expression (callWithin n) (l.frames.size :: s.frames.size :: scope) opening))
    (hclose : ∀ {τ : Type} {append : τ → String → τ} (_ : LawfulAppend append) n i v l r₀ call',
      Store.Grows none (s.enter frame) l →
      Writes append i (leafStore l a b i v) r₀ (statements (callWithin n) (l.frames.size :: s.frames.size :: scope) close)
        (if isVoidTag tag then pure () else (StreamNode.outsideSink append call').putAll ["</", tag, ">"])) :
    MakesLeaf s (Representation.leafKind (some x)) tag (AttributeValues.normalize (Value.toAttributeValues new)) xs
      (expression (callWithin n) (s.frames.size :: scope) (leaf c (temporary 's' a) (temporary 'e' b)
        (leafCode c a b v k item opening codes content close) name) (s.enter frame)) := by
  have hsupport : Entries.get? c.support frame = none :=
    (hframe.others _ (ne_temporary hc 'a' (by decide) v)
      (leafNodes_ne c a v k codes content (ne_temporary hc 'c' (by decide)))).trans hbefore
  have hnodes := hframe.nodesBound hin hbare
  have hparts := partsScope_enter hin hs hframe.values hsupport
  obtain ⟨_, t, he, ⟨id, rfl⟩, hgrow, -⟩ := leaf_quietly hparts.inStore hparts.support (temporary 's' a)
    (temporary 'e' b) (leafCode c a b v k item opening codes content close) hname _ (.refl _ _)
  have hwrites : WritesElement (s.enter frame) _ tag _ xs := leaf_writesElement hc hparts hg a b id k item hopening
    (fun ha n i v l r₀ xs hl hx => own_writes ha hparts.inStore hnodes hl hx) hclose
  rw [he]
  exact .intro ((s.enter_grows frame).trans hgrow) (hwrites.later hgrow) (hframe.subset_ownNodes hbare hgrow)

lemma staticLeaf_makes (hin : scope.In s) (hs : s.Supports scope c.support) (hc : isTemporary c.support = false)
    (hframe : LeafFrame v (leafNodes c a v k codes content) (.object identity (Entries.setAll [] new)) xs [] frame)
    (hg : AttributeCode.Gathers codes new) (hbare : content = [] → xs = []) (b item : Nat) (tag : String) :
    MakesLeaf s (.element tag) tag (AttributeValues.normalize (Value.toAttributeValues new)) xs
      (expression (callWithin n) (s.frames.size :: scope) (leaf c (temporary 's' a) (temporary 'e' b)
        (leafCode c a b v k item (.string ("<" ++ tag)) codes content
          (if isVoidTag tag then [] else [write (temporary 's' a) (.string ("</" ++ tag ++ ">"))]))
        (.string tag)) (s.enter frame)) := by
  refine leaf_makes hin hs hc hframe rfl hg hbare (string_quietly _) (fun _ _ _ _ _ => string_quietly _)
    fun ha n i v l r₀ call' hl => ?_
  have hin' := (hin.enter frame).grow hl
  refine staticClose_writes ha (hin'.enter _) ?_
  rw [leafStore, Store.get?_enter hin']
  simp [Entries.get?]

lemma MakesLeaf.ends (kind : String → LeafKind) {q : Pairing} {t : Store} {tag : String} {attributes : Attributes}
    {ys : List (StreamNode Value)} {r : EStateM.Result Halt Store Value}
    (h : MakesLeaf s (kind tag) tag attributes xs r) (hst : Store.Match q s t)
    (hxs : List.Forall₂ (StreamNode.Rel (Value.Match q)) xs ys) :
    LeafEnds kind q r (.ok (.stream (.element tag attributes ys)) t) := by
  cases h with
  | intro hgrow hwrites _ => exact .ok le_rfl (hst.grow hgrow (.refl _ _)) hwrites hxs

end Leaf

theorem static_outcome {p : Pairing} {s t : Store} (hst : Store.Match p s t) {scope' : Scope}
    (hscope : Scope.Match p AnyName scope scope') (hs : s.Supports scope c.support)
    (ht : t.Supports scope' c.support) (hc : isTemporary c.support = false) {tag : String} (codes : List AttributeCode)
    {content : List Compiled} (htag : isComponentName tag = false) (hvoid : isVoidTag tag → content = []) (k : Nat) :
    LeafOutcome p (expression (callWithin (n + 1)) scope (static c tag codes content k).1 s)
      (expression (callWithin (n + 1)) scope' (c.elementCall .stream (.string tag) codes content) t) := by
  have hin := hscope.in_left hst
  have hnodes := leafNodes_cases c (k + 1) (k + 3) (k + 3) codes content
  obtain ⟨item, he⟩ := static_eq c tag codes content k
  have hstring : expression (callWithin (n + 1)) scope' (.string tag) = pure (.string tag) := by
    simp only [Expr.string, expression, literal]
  rw [he, expression_bindNames, expression_elementCall ht, hstring, pure_bind]
  simp only [List.map_cons]
  change LeafOutcome p ((items (callWithin (n + 1)) scope _ >>= _) s.next) _
  have hparts := parts_outcome (n := n + 1) (hst.grow s.next_grows (.refl _ _)) hscope (hin.grow s.next_grows)
    (hs.grow hin s.next_grows) codes content (leafNodes c (k + 1) (k + 3) (k + 3) codes content)
    (by cases content <;> rfl)
  refine .after hparts fun q vs ws s' t' hvs _ had hm => ?_
  have hgrow : Store.Grows none s s' := s.next_grows.trans (grows_of_items hvs)
  obtain ⟨identity, new, w, xs, ys, hg, hw, rfl, hxs, hbare, hframe⟩ := hm.frame (c := c) hnodes []
  have hcheck : checkTag tag (!ys.isEmpty) = .ok () := by
    have hempty : isVoidTag tag → ys = [] := by
      intro hv
      obtain rfl := hbare (hvoid hv)
      cases hxs
      rfl
    cases hv : isVoidTag tag with
    | false => simp [checkTag, htag, hv]
    | true => simp [checkTag, htag, hv, hempty hv]
  rw [callWithin_closure, method_element tag hw ys, hcheck, Eval.ofExcept, pure_bind]
  exact (staticLeaf_makes (hin.grow hgrow) (hs.grow hin hgrow) hc hframe hg hbare _ item tag).ends .element had.stores hxs

lemma checkVoid_enter {s : Store} {frame : List (String × Value)}
    (hs : (s.enter frame).Supports (s.frames.size :: scope) c.support)
    {name : String} {x : Value} (hname : (s.enter frame).get? name (s.frames.size :: scope) = some x)
    {nodes : Option String} {xs : List (StreamNode Value)}
    (hnodes : NodesBound (s.enter frame) (s.frames.size :: scope) nodes xs) :
    ∃ s', s'.frames = s.frames ∧ Store.Grows none s s' ∧
      expression (callWithin n) (s.frames.size :: scope) (c.callWith "checkVoid" [.identifier name,
        (nodes.map Expr.identifier).getD (.array [])]) (s.enter frame) =
      ((do
        Eval.ofExcept (checkTag x.text (!xs.isEmpty))
        return Value.bool (isVoidTag x.text)) : Eval Value) (s'.enter frame) := by
  let arguments : List Item := [.single (.identifier name), .single ((nodes.map Expr.identifier).getD (.array []))]
  have hcall : expression (callWithin n) _ (c.call Native.checkVoid.name arguments) _ = _ :=
    expression_support hs .checkVoid arguments
  cases nodes with
  | none =>
    obtain rfl : xs = [] := hnodes
    refine ⟨s.next, rfl, s.next_grows, hcall.trans ?_⟩
    have hnew : Eval.newArray [] (s.enter frame) = .ok (.array s.identities []) (s.next.enter frame) := rfl
    simp only [arguments, items, expression, Bind.bind, EStateM.bind, lookup_eq hname, pure, EStateM.pure, Option.map_none,
      Option.getD_none, hnew, callWithin_native, Native.run]
    rfl
  | some nodes =>
    obtain ⟨identity, hg⟩ := hnodes
    refine ⟨s, rfl, .refl _ _, hcall.trans ?_⟩
    simp only [arguments, items, expression, Bind.bind, EStateM.bind, lookup_eq hname, lookup_eq hg, pure, EStateM.pure,
      Option.map_some, Option.getD_some, callWithin_native, Native.run]
    simp only [Support.checkVoid, Support.first, List.head?_cons, Option.getD_some, List.getElem?_cons_succ,
      List.getElem?_cons_zero, Support.hasChildren, List.isEmpty_map]
    rfl

section Computed

variable {s : Store} {frame : List (String × Value)} {codes : List AttributeCode} {content : List Compiled}
  {a b j v k identity : Nat} {new : List (String × Value)} {xs : List (StreamNode Value)} {x : Value}

def computedBody (c : Config) (a b j v k item isVoid : Nat) (codes : List AttributeCode) (content : List Compiled) : Body :=
  let name := Expr.identifier (temporary 't' j)
  .block [.declare .constant (temporary 'v' isVoid) (c.callWith "checkVoid"
      [name, ((leafNodes c a v k codes content).map Expr.identifier).getD (.array [])]),
    .leave (some (leaf c (temporary 's' a) (temporary 'e' b)
      (leafCode c a b v k item (.concat [.string "<", name]) codes content
        [.branch (.not (.identifier (temporary 'v' isVoid)))
          (write (temporary 's' a) (.concat [.string "</", name, .string ">"])) none]) name))]

lemma computed_eq (c : Config) (tag : Expr) (codes : List AttributeCode) (content : List Compiled) (k : Nat) :
    ∃ item isVoid, (computed c tag codes content k).1 =
      bindNames ((temporary 't' (k + 3), tag) :: (temporary 'a' (k + 4), AttributeCode.toObject codes) ::
          childBinding c content (leafNodes c (k + 1) (k + 4) (k + 4) codes content))
        (computedBody c (k + 1) (k + 2) (k + 3) (k + 4) (k + 4) item isVoid codes content) :=
  ⟨_, _, by
    simp only [computed, computedBody, leafCode, List.append_assoc]
    rfl⟩

lemma taggedLeaf_makes (hin : scope.In s) (hs : s.Supports scope c.support) (hc : isTemporary c.support = false)
    {before : List (String × Value)}
    (hframe : LeafFrame v (leafNodes c a v k codes content) (.object identity (Entries.setAll [] new)) xs before frame)
    (hbefore : Entries.get? c.support before = none) (hg : AttributeCode.Gathers codes new) (hbare : content = [] → xs = [])
    {isVoid : Nat} (hname : Entries.get? (temporary 't' j) frame = some x)
    (hvoid : Entries.get? (temporary 'v' isVoid) frame = some (.bool (isVoidTag x.text))) (b item : Nat) :
    MakesLeaf s (Representation.leafKind (some x)) x.text (AttributeValues.normalize (Value.toAttributeValues new)) xs
      (expression (callWithin n) (s.frames.size :: scope) (leaf c (temporary 's' a) (temporary 'e' b)
        (leafCode c a b v k item (.concat [.string "<", .identifier (temporary 't' j)]) codes content
          [.branch (.not (.identifier (temporary 'v' isVoid)))
            (write (temporary 's' a) (.concat [.string "</", .identifier (temporary 't' j), .string ">"])) none])
        (.identifier (temporary 't' j))) (s.enter frame)) := by
  have hin' : Scope.In (s.enter frame) (s.frames.size :: scope) := hin.enter _
  have hbound {name : String} {y : Value} (h : Entries.get? name frame = some y) :
      (s.enter frame).get? name (s.frames.size :: scope) = some y := by
    rw [Store.get?_enter hin, h]
    rfl
  -- The parameters of the function do not hide these bindings.
  have hinside {kind : Char} {m i : Nat} {y v : Value} {l : Store} (hl : Store.Grows none (s.enter frame) l)
      (h : Entries.get? (temporary kind m) frame = some y) (hsink : kind ≠ 's') (hextension : kind ≠ 'e') :
      (leafStore l a b i v).get? (temporary kind m) (l.frames.size :: s.frames.size :: scope) = some y :=
    (get?_leafStore (hin'.grow hl) a b i v (temporary_ne hsink _ _) (temporary_ne hextension _ _)).trans
      ((hl.get?_eq hin' _).trans (hbound h))
  apply leaf_makes hin hs hc hframe hbefore hg hbare (identifier_quietly hin' (hbound hname))
  · intro n i v l hl
    exact add_quietly (string_quietly _)
      (identifier_quietly ((hin'.grow hl).enter _) (hinside hl hname (by decide) (by decide)))
  · intro τ append ha n i v l r₀ call' hl
    apply computedClose_writes ha ((hin'.grow hl).enter _)
    · rw [Store.get?_enter (hin'.grow hl)]
      simp [Entries.get?]
    · exact hinside hl hname (by decide) (by decide)
    · exact hinside hl hvoid (by decide) (by decide)

lemma computedLeaf_makes (hin : scope.In s) (hs : s.Supports scope c.support) (hc : isTemporary c.support = false)
    (hframe : LeafFrame v (leafNodes c a v k codes content) (.object identity (Entries.setAll [] new)) xs
      [(temporary 't' j, x)] frame)
    (hg : AttributeCode.Gathers codes new) (hbare : content = [] → xs = []) (b item isVoid : Nat) :
    let result := body (callWithin n) (s.frames.size :: scope) (computedBody c a b j v k item isVoid codes content)
      (s.enter frame)
    (∀ fault, checkTag x.text (!xs.isEmpty) = .error fault → ∃ t, result = .error (.fault fault) t) ∧
    (checkTag x.text (!xs.isEmpty) = .ok () → MakesLeaf s (Representation.leafKind (some x)) x.text
      (AttributeValues.normalize (Value.toAttributeValues new)) xs result) := by
  have hbefore : Entries.get? c.support [(temporary 't' j, x)] = none := by
    simp [Entries.get?, (ne_temporary hc 't' (by decide) j).symm]
  have hname : Entries.get? (temporary 't' j) frame = some x := by
    rw [hframe.others _ (temporary_ne (by decide) _ _) (leafNodes_ne c a v k codes content (temporary_ne (by decide) _))]
    simp [Entries.get?]
  have hsupport := (partsScope_enter hin hs hframe.values ((hframe.others _ (ne_temporary hc 'a' (by decide) v)
    (leafNodes_ne c a v k codes content (ne_temporary hc 'c' (by decide)))).trans hbefore)).support
  obtain ⟨s', hframes, hgrow, hcheck⟩ := checkVoid_enter (n := n) hsupport
    ((Store.get?_enter hin frame (temporary 't' j)).trans (by rw [hname]; rfl)) (hframe.nodesBound hin hbare)
  have hsize : s.frames.size = s'.frames.size := by rw [hframes]
  simp only [computedBody, body, statements, statement, bind_assoc, pure_bind, bind_pure]
  refine ⟨fun fault hx => ?_, fun hx => ?_⟩
  · rw [hx] at hcheck
    simp only [Bind.bind, EStateM.bind, hcheck]
    exact ⟨_, rfl⟩
  · rw [hx] at hcheck
    have hdefine := Eval.define_enter s' scope frame (temporary 'v' isVoid) (.bool (isVoidTag x.text))
    have hkey : temporary 'v' isVoid ≠ temporary 'a' v := temporary_ne (by decide) _ _
    have hbind := hframe.set hkey (leafNodes_ne c a v k codes content (temporary_ne (by decide) _))
      (.bool (isVoidTag x.text))
    have hname' : Entries.get? (temporary 't' j) (Entries.set (temporary 'v' isVoid) (.bool (isVoidTag x.text)) frame) =
        some x := by
      rw [Entries.get?_set, if_neg (temporary_ne (by decide) _ _), hname]
    have hsupport' : Entries.get? c.support (Entries.set (temporary 'v' isVoid) (.bool (isVoidTag x.text))
        [(temporary 't' j, x)]) = none := by
      rw [Entries.get?_set, if_neg (ne_temporary hc 'v' (by decide) isVoid).symm, hbefore]
    rw [← hsize] at hdefine
    simp only [Bind.bind, EStateM.bind, hcheck, Eval.ofExcept, pure, EStateM.pure, hdefine]
    rw [hsize]
    exact (taggedLeaf_makes (hin.grow hgrow) (hs.grow hin hgrow) hc hbind hsupport' hg hbare hname'
      (by rw [Entries.get?_set, if_pos rfl]) b item).earlier hgrow

lemma computedLeaf_outcome {q : Pairing} {t : Store} (hst : Store.Match q s t) (hin : scope.In s)
    (hs : s.Supports scope c.support) (hc : isTemporary c.support = false) {ys : List (StreamNode Value)}
    {kind : String → LeafKind}
    (hframe : LeafFrame v (leafNodes c a v k codes content) (.object identity (Entries.setAll [] new)) xs
      [(temporary 't' j, x)] frame)
    (hkind : Representation.leafKind (some x) = kind x.text)
    (hg : AttributeCode.Gathers codes new) (hbare : content = [] → xs = [])
    (hxs : List.Forall₂ (StreamNode.Rel (Value.Match q)) xs ys) (item isVoid : Nat) :
    LeafEnds kind q
      (body (callWithin n) (s.frames.size :: scope) (computedBody c a b j v k item isVoid codes content) (s.enter frame))
      ((do
        Eval.ofExcept (checkTag x.text (!ys.isEmpty))
        return .stream (.element x.text (AttributeValues.normalize (Value.toAttributeValues new)) ys) : Eval Value) t) := by
  obtain ⟨hfails, hmakes⟩ := computedLeaf_makes (n := n) hin hs hc hframe hg hbare b item isVoid
  rw [isEmpty_eq hxs] at hfails hmakes
  cases hx : checkTag x.text (!ys.isEmpty) with
  | error fault =>
    obtain ⟨_, he⟩ := hfails fault hx
    rw [he]
    exact .error _ _ _
  | ok _ => exact (hkind ▸ hmakes hx).ends kind hst hxs

end Computed

lemma computed_ends {kind : String → LeafKind} {p : Pairing} {s t : Store} (hst : Store.Match p s t) {scope' : Scope}
    (hscope : Scope.Match p AnyName scope scope') (hs : s.Supports scope c.support)
    (ht : t.Supports scope' c.support) (hc : isTemporary c.support = false) {tag tag' : Expr} (codes : List AttributeCode)
    (content : List Compiled)
    (htag : Outcome p (fun _ x y => y = .string x.text ∧ Representation.leafKind (some x) = kind x.text) s.next t
      (expression (callWithin (n + 1)) scope tag s.next) (expression (callWithin (n + 1)) scope' tag' t)) (k : Nat) :
    LeafEnds kind p (expression (callWithin (n + 1)) scope (computed c tag codes content k).1 s)
      (expression (callWithin (n + 1)) scope' (c.elementCall .stream tag' codes content) t) := by
  have hin := hscope.in_left hst
  have hnodes := leafNodes_cases c (k + 1) (k + 4) (k + 4) codes content
  obtain ⟨item, isVoid, he⟩ := computed_eq c tag codes content k
  rw [he, expression_bindNames, expression_elementCall ht]
  simp only [List.map_cons]
  rw [items]
  simp only [bind_assoc, pure_bind]
  change LeafEnds kind p ((expression (callWithin (n + 1)) scope tag >>= _) s.next) _
  refine .after htag fun p' x y s₁ t₁ hx hy had₁ hxy => ?_
  obtain ⟨rfl, hkind⟩ := hxy
  have hgrow₁ : Store.Grows none s s₁ := s.next_grows.trans (grows_of_expression hx)
  have hparts := parts_outcome (n := n + 1) had₁.stores (hscope.mono had₁.le) (hin.grow hgrow₁) (hs.grow hin hgrow₁) codes
    content (leafNodes c (k + 1) (k + 4) (k + 4) codes content) (by cases content <;> rfl)
  refine .after hparts fun q vs ws s' t' hvs _ had hm => ?_
  have hgrow : Store.Grows none s s' := hgrow₁.trans (grows_of_items hvs)
  obtain ⟨identity, new, w, xs, ys, hg, hw, rfl, hxs, hbare, hframe⟩ :=
    hm.frame (c := c) (v := k + 4) hnodes [(temporary 't' (k + 3), x)]
  rw [callWithin_closure, method_element x.text hw ys]
  exact computedLeaf_outcome had.stores (hin.grow hgrow) (hs.grow hin hgrow) hc hframe hkind hg hbare hxs _ _

theorem computed_outcome {p : Pairing} {s t : Store} (hst : Store.Match p s t) {scope' : Scope}
    (hscope : Scope.Match p AnyName scope scope') (hs : s.Supports scope c.support)
    (ht : t.Supports scope' c.support) (hc : isTemporary c.support = false) {tag : Expr} (codes : List AttributeCode)
    (content : List Compiled)
    (htag : ∀ w t', expression (callWithin (n + 1)) scope' tag t = .ok w t' → ∃ name, w = .string name) (k : Nat) :
    LeafOutcome p (expression (callWithin (n + 1)) scope (computed c tag codes content k).1 s)
      (expression (callWithin (n + 1)) scope' (c.elementCall .stream tag codes content) t) := by
  refine computed_ends hst hscope hs ht hc codes content ?_ k
  have ho := expression_follows (callWithin_follows (n + 1)) hscope (Expr.Alike.refl tag) _ _
    (hst.grow s.next_grows (.refl _ _))
  generalize expression (callWithin (n + 1)) scope tag s.next = x at ho
  generalize expression (callWithin (n + 1)) scope' tag t = y at ho htag
  cases ho with
  | error halt had => exact .error halt had
  | ok had hxy =>
    obtain ⟨name, rfl⟩ := htag _ _ rfl
    cases hxy
    exact .ok had ⟨rfl, rfl⟩

section Makes

variable {s t : Store} {codes : List AttributeCode} {content : List Compiled}

end Makes

end StreamElement

end TemplateScript
