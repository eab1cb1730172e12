import TemplateScript.Proofs.Template.AttributeCode

/-!
The function of a generated leaf. Run with a sink and an extension, it writes what the element would write
that the stream builder makes of the same parts.
-/

namespace TemplateScript

namespace StreamElement

open Evaluation StreamNode

variable {τ : Type} {append : τ → String → τ} {i n : Nat} {l₀ r₀ : Store} {scope : Scope} {call' : Call}

abbrev Writes (append : τ → String → τ) (i : Nat) (l₀ r₀ : Store) (m : Eval Flow)
    (m' : EStateM Halt (Store × τ) Unit) : Prop :=
  WritesAlike append i l₀ r₀ (· = .next) m m'

lemma write_writes (hs : scope.In l₀) {sink : String} (hsink : l₀.get? sink scope = some (.sink i)) {chunk : Expr}
    {text : String} (ht : Quietly l₀ (· = .string text) (expression (callWithin n) scope chunk)) :
    Writes append i l₀ r₀ (statement (callWithin n) scope (write sink chunk)) ((outsideSink append call').put text) := by
  intro l r out hl hr
  have hg : l.get? sink scope = some (.sink i) := (hl.get?_eq hs sink).trans hsink
  obtain ⟨values, l', he, ⟨_, rfl, rfl⟩, hgl, hsinks⟩ := items_one_quietly ht l hl
  have hrun : statement (callWithin n) scope (write sink chunk) l =
      .ok .next { l' with sinks := l'.sinks.modify i (· ++ text) } := by
    simp only [write, Expr.callWith, List.map_cons, List.map_nil, statement, expression, Bind.bind, EStateM.bind,
      lookup_eq hg, he, method, Value.callMethod, if_true, Support.first, List.head?_cons, Option.getD_some,
      Value.text, Eval.writeSink_run]
    rfl
  rw [hrun]
  refine .ok text rfl (hgl.trans (Eval.Grows.writeSink i text l')) (.refl _ _) ?_
  simp [Array.getElem?_modify, hsinks]

lemma statements_writes (ha : LawfulAppend append) {s : Stmt} {ss : List Stmt}
    {m' k' : EStateM Halt (Store × τ) Unit} (h : Writes append i l₀ r₀ (statement (callWithin n) scope s) m')
    (hs : Writes append i l₀ r₀ (statements (callWithin n) scope ss) k') :
    Writes append i l₀ r₀ (statements (callWithin n) scope (s :: ss)) (m' >>= fun _ => k') := by
  simp only [statements]
  refine .seq ha h fun flow e => ?_
  subst e
  exact hs

lemma statements_nil_writes (ha : LawfulAppend append) :
    Writes append i l₀ r₀ (statements (callWithin n) scope []) (pure ()) := by
  simp only [statements]
  exact .done ha rfl

lemma statements_one_writes (ha : LawfulAppend append) {s : Stmt} {m' : EStateM Halt (Store × τ) Unit}
    (h : Writes append i l₀ r₀ (statement (callWithin n) scope s) m') :
    Writes append i l₀ r₀ (statements (callWithin n) scope [s]) m' := by
  have hs := statements_writes ha h (statements_nil_writes ha)
  simp only [bind_pure_unit] at hs
  exact hs

lemma enter_writes (scope : Scope) (bindings : List (String × Value)) {m : Eval Flow} (k : Scope → Eval Flow)
    {m' : EStateM Halt (Store × τ) Unit} (hm : ∀ l, Store.Grows none l₀ l → m l = k (l.frames.size :: scope) (l.enter bindings))
    (h : ∀ l, Store.Grows none l₀ l → Writes append i (l.enter bindings) r₀ (k (l.frames.size :: scope)) m') :
    Writes append i l₀ r₀ m m' := by
  intro l r out hl hr
  have ho := h l hl (l.enter bindings) r out (.refl _ _) hr
  rw [hm l hl]
  generalize k (l.frames.size :: scope) (l.enter bindings) = x at ho ⊢
  generalize m' (r, out) = y at ho ⊢
  cases ho with
  | error halt l' r' => exact .error halt l' r'
  | ok text hp hgl hgr ht => exact .ok text hp ((l.enter_grows bindings).trans hgl) hgr ht

lemma forEach_writes (ha : LawfulAppend append) {step : Value → Eval Flow} {xs : List Value}
    {ys : List (Staged Value Halt (Store × τ))}
    (h : List.Forall₂ (fun x y => Writes append i l₀ r₀ (step x) y.2) xs ys) :
    Writes append i l₀ r₀ (forEach step xs) (renderStaged ys) := by
  induction h with
  | nil => exact .done ha rfl
  | cons hx _ ih =>
    refine .seq ha hx fun flow e => ?_
    subst e
    exact ih

abbrev NodesWrite (append : τ → String → τ) (i : Nat) (l₀ r₀ : Store) (call : Call) :
    List (StreamNode Value) → List (Staged Value Halt (Store × τ)) → Prop :=
  List.Forall₂ fun x y => WritesAlike append i l₀ r₀ (fun _ => True) (x.renderShared call i) y.2

def renderItem (sink item : String) : Stmt :=
  .expression (.callWith (.member (.identifier item) "render") [.identifier sink])

lemma renderItem_writes (hs : scope.In l₀) {sink item : String} (hsink : l₀.get? sink scope = some (.sink i))
    {x : StreamNode Value} (hitem : l₀.get? item scope = some (.stream x)) {m' : EStateM Halt (Store × τ) Unit}
    (hw : WritesAlike append i l₀ r₀ (fun _ => True) (x.renderShared (callWithin n) i) m') :
    Writes append i l₀ r₀ (statement (callWithin n) scope (renderItem sink item)) m' := by
  intro l r out hl hr
  have hx : l.get? item scope = some (.stream x) := (hl.get?_eq hs item).trans hitem
  have hi : l.get? sink scope = some (.sink i) := (hl.get?_eq hs sink).trans hsink
  have hrun : statement (callWithin n) scope (renderItem sink item) l =
      (x.renderShared (callWithin n) i >>= fun _ => pure Flow.next) l := by
    simp only [renderItem, Expr.callWith, List.map_cons, List.map_nil, statement, expression, items, Bind.bind, EStateM.bind,
      lookup_eq hx, lookup_eq hi, pure, EStateM.pure, method, Value.callMethod, if_true, List.head?_cons]
    cases x.renderShared (callWithin n) i l <;> rfl
  rw [hrun]
  exact hw.map (Q := (· = Flow.next)) (fun _ _ => rfl) l r out hl hr

lemma renderEach_writes (ha : LawfulAppend append) (hs : scope.In l₀) {sink item : String} (hne : item ≠ sink)
    (hsink : l₀.get? sink scope = some (.sink i)) {nodes : Expr} {xs : List (StreamNode Value)}
    {ys : List (Staged Value Halt (Store × τ))}
    (hnodes : Quietly l₀ (fun v => ∃ identity, v = .array identity (xs.map .stream))
      (expression (callWithin n) scope nodes))
    (hx : NodesWrite append i l₀ r₀ (callWithin n) xs ys) :
    Writes append i l₀ r₀ (statement (callWithin n) scope (renderEach sink item nodes)) (renderStaged ys) := by
  simp only [renderEach]
  rw [statement]
  refine .after hnodes fun _ ⟨identity, e⟩ => ?_
  subst e
  refine forEach_writes ha ?_
  rw [List.forall₂_map_left_iff]
  refine hx.imp fun x y hw => ?_
  refine enter_writes scope [(item, .stream x)] (fun inner => statement (callWithin n) inner (renderItem sink item))
    (fun l _ => ?_) fun l hl => ?_
  · have hd := Eval.define_enter l scope [] item (.stream x)
    have hn : Eval.newScope scope l = .ok (l.frames.size :: scope) (l.enter []) := rfl
    simp only [Bind.bind, EStateM.bind, hn, hd]
    rfl
  · have hs' := hs.grow hl
    refine renderItem_writes (hs'.enter _) ?_ ?_ (hw.later (hl.trans (l.enter_grows _)))
    · rw [Store.get?_enter hs']
      simpa [Entries.get?, hne] using (hl.get?_eq hs sink).trans hsink
    · rw [Store.get?_enter hs']
      simp [Entries.get?]

structure LeafScope (c : Config) (sink extension values : String) (i : Nat) (extended base : Value) (scope : Scope)
    (l : Store) : Prop where
  inStore : scope.In l
  support : l.Supports scope c.support
  sink : l.get? sink scope = some (.sink i)
  extension : l.get? extension scope = some extended
  values : l.get? values scope = some base

namespace LeafScope

variable {c : Config} {sink extension values : String} {extended base : Value} {l : Store}

lemma grow (h : LeafScope c sink extension values i extended base scope l₀) (hl : Store.Grows none l₀ l) :
    LeafScope c sink extension values i extended base scope l where
  inStore := h.inStore.grow hl
  support := h.support.grow h.inStore hl
  sink := (hl.get?_eq h.inStore sink).trans h.sink
  extension := (hl.get?_eq h.inStore extension).trans h.extension
  values := (hl.get?_eq h.inStore values).trans h.values

lemma enter (h : LeafScope c sink extension values i extended base scope l) :
    LeafScope c sink extension values i extended base (l.frames.size :: scope) (l.enter []) where
  inStore := h.inStore.enter []
  support := by
    obtain ⟨identity, hs⟩ := h.support
    exact ⟨identity, (Store.get?_enter h.inStore [] _).trans hs⟩
  sink := (Store.get?_enter h.inStore [] _).trans h.sink
  extension := (Store.get?_enter h.inStore [] _).trans h.extension
  values := (Store.get?_enter h.inStore [] _).trans h.values

end LeafScope

lemma put_put (ha : LawfulAppend append) (call : Call) (a b : String) :
    ((outsideSink append call).put a >>= fun _ => (outsideSink append call).put b) =
      (outsideSink append call).put (a ++ b) := by
  funext ⟨r, out⟩
  change EStateM.Result.ok () (r, append (append out a) b) = .ok () (r, append out (a ++ b))
  rw [ha.assoc]

lemma put_empty (ha : LawfulAppend append) (call : Call) : (outsideSink append call).put "" = pure () := by
  funext ⟨r, out⟩
  change EStateM.Result.ok () (r, append out "") = .ok () (r, out)
  rw [ha.empty]

lemma writeAll_writes (ha : LawfulAppend append) (hs : scope.In l₀) {sink : String}
    (hsink : l₀.get? sink scope = some (.sink i)) {chunks : List Expr} {texts : List String}
    (ht : Texts n scope l₀ chunks texts) :
    Writes append i l₀ r₀ (statements (callWithin n) scope (chunks.map (write sink)))
      ((outsideSink append call').put (String.join texts)) := by
  induction ht with
  | nil =>
    rw [String.join_nil, put_empty ha]
    exact statements_nil_writes ha
  | cons hc _ ih =>
    rw [String.join_cons, ← put_put ha]
    exact statements_writes ha (write_writes hs hsink hc) ih

def AddedAttributes : Option AttributeValues → Value → Prop
  | none, v => v = .undefined
  | some extra, v => ∃ identity, v = .object identity (Entries.mapValues AttributeValue.toValue extra.entries)

def AddedChildren : Option (List (StreamNode Value)) → Value → Prop
  | none, v => v = .undefined
  | some nodes, v => ∃ identity, v = .array identity (nodes.map .stream)

def Extended (e : Extension (StreamNode Value)) (v : Value) : Prop :=
  ∃ identity attributes children, AddedAttributes e.attributes attributes ∧ AddedChildren e.children children ∧
    v = .object identity [("attributes", attributes), ("children", children)]

lemma toValue_quietly (e : Extension (StreamNode Value)) : Quietly l₀ (Extended e) e.toValue := by
  rw [Extension.toValue_eq]
  refine Quietly.bind (P := AddedAttributes e.attributes) ?_ fun attributes hattributes => ?_
  · cases e.attributes with
    | none => exact .pure rfl
    | some extra => exact .newObject _
  refine Quietly.bind (P := AddedChildren e.children) ?_ fun children hchildren => ?_
  · cases e.children with
    | none => exact .pure rfl
    | some nodes => exact .newArray _
  exact (Quietly.newObject _).mono fun v ⟨identity, hv⟩ => ⟨identity, attributes, children, hattributes, hchildren, hv⟩

section Body

variable {c : Config} {sink extension values : String} {extended : Value} {identity : Nat} {new : List (String × Value)}
  {codes : List AttributeCode} {e : Extension (StreamNode Value)}

lemma member_quietly {object : Expr} {id : Nat} {fs : List (String × Value)}
    (h : Quietly l₀ (· = .object id fs) (expression (callWithin n) scope object)) (name : String) :
    Quietly l₀ (· = (Entries.get? name fs).getD .undefined) (expression (callWithin n) scope (.member object name)) := by
  simp only [expression]
  refine h.bind fun _ e => ?_
  subst e
  exact .pure rfl

lemma branch_writes {test : Expr} {x : Value} (ht : Quietly l₀ (· = x) (expression (callWithin n) scope test))
    {consequent : Stmt} {alternate : Option Stmt} {m' : EStateM Halt (Store × τ) Unit}
    (htrue : x.isTruthy = true → ∀ l, Store.Grows none l₀ l →
      Writes append i (l.enter []) r₀ (statement (callWithin n) (l.frames.size :: scope) consequent) m')
    (hfalse : x.isTruthy = false → Writes append i l₀ r₀ (otherwise (callWithin n) scope alternate) m') :
    Writes append i l₀ r₀ (statement (callWithin n) scope (.branch test consequent alternate)) m' := by
  rw [statement]
  refine .after ht fun _ e => ?_
  subst e
  split
  · exact enter_writes scope [] (fun inner => statement (callWithin n) inner consequent) (fun _ _ => rfl)
      (htrue ‹_›)
  · exact hfalse (Bool.eq_false_iff.2 ‹_›)

lemma block_writes {ss : List Stmt} {m' : EStateM Halt (Store × τ) Unit}
    (h : ∀ l, Store.Grows none l₀ l →
      Writes append i (l.enter []) r₀ (statements (callWithin n) (l.frames.size :: scope) ss) m') :
    Writes append i l₀ r₀ (statement (callWithin n) scope (.block ss)) m' := by
  rw [statement]
  exact enter_writes scope [] (fun inner => statements (callWithin n) inner ss) (fun _ _ => rfl) h

lemma undefined_quietly : Quietly l₀ (· = .undefined) (expression (callWithin n) scope .undefined) := by
  simp only [Expr.undefined, expression, literal]
  exact .pure rfl

lemma merged_quietly
    (hl : LeafScope c sink extension values i extended (.object identity (Entries.setAll [] new)) scope l₀)
    {added : Expr} {id : Nat} {extra : AttributeValues}
    (hadded : Quietly l₀ (· = .object id (Entries.mapValues AttributeValue.toValue extra.entries))
      (expression (callWithin n) scope added)) :
    Quietly l₀ (fun v => ∃ id, v = .object id (Entries.setAll (Entries.setAll []
        (Entries.mapValues Attribute.toValue (AttributeValues.normalize (Value.toAttributeValues new)).entries))
        (Entries.mapValues AttributeValue.toValue extra.entries)))
      (expression (callWithin n) scope
        (.object [.spread (c.callWith "normalizeAttributes" [.identifier values]), .spread added])) := by
  have hown : Quietly l₀ (fun v => ∃ id, v = .object id
      (Entries.mapValues Attribute.toValue (AttributeValues.normalize (Value.toAttributeValues new)).entries))
      (expression (callWithin n) scope (c.callWith "normalizeAttributes" [.identifier values])) := by
    refine support_quietly hl.inStore hl.support .normalizeAttributes
      (items_one_quietly (identifier_quietly hl.inStore hl.values)) ?_
    rintro _ ⟨_, rfl, rfl⟩
    have hr := Value.toAttributeValues_setAll new
    simp only [Native.run, Support.first, List.head?_cons, Option.getD_some, Value.attributeValues, hr]
    exact .newObject _
  simp only [expression, fields, bind_assoc]
  refine hown.bind ?_
  rintro _ ⟨id', rfl⟩
  refine hadded.bind ?_
  rintro _ rfl
  exact (Quietly.pure (P := (· = _)) rfl).bind fun _ e => e ▸ .newObject _

lemma writeAttributes_writes (ha : LawfulAppend append)
    (hl : LeafScope c sink extension values i extended (.object identity (Entries.setAll [] new)) scope l₀)
    (hc : isTemporary c.support = false) (hg : AttributeCode.Gathers codes new) (he : Extended e extended) (k : Nat) :
    Writes append i l₀ r₀ (statement (callWithin (n + 1)) scope (writeAttributes c sink extension (.identifier values)
        (plainChunks c (.identifier values) codes k).1))
      ((outsideSink append call').put
        (shownAttributes (AttributeValues.normalize (Value.toAttributeValues new)) e.attributes).render) := by
  obtain ⟨id, attributes, children, hattributes, hchildren, rfl⟩ := he
  have hadded {scope : Scope} {l : Store}
      (hl : LeafScope c sink extension values i (.object id [("attributes", attributes), ("children", children)])
        (.object identity (Entries.setAll [] new)) scope l) :
      Quietly l (· = attributes)
        (expression (callWithin (n + 1)) scope (.member (.identifier extension) "attributes")) :=
    member_quietly (identifier_quietly hl.inStore hl.extension) "attributes"
  cases hx : e.attributes with
  | none =>
    rw [hx] at hattributes
    obtain rfl : attributes = .undefined := hattributes
    refine branch_writes (strictEq_quietly (hadded hl) undefined_quietly) (fun _ l hlater => ?_) nofun
    refine block_writes fun l' hlater' => ?_
    have hin := (((hl.grow hlater).enter).grow hlater').enter
    obtain ⟨texts, ht, hj⟩ := plainChunks_texts hin.inStore hin.support hc
      (identifier_quietly (n := n + 1) hin.inStore hin.values) hg k
    rw [shownAttributes, ← hj]
    exact writeAll_writes ha hin.inStore hin.sink ht
  | some extra =>
    rw [hx] at hattributes
    obtain ⟨id', rfl⟩ : ∃ id, attributes = .object id _ := hattributes
    refine branch_writes (strictEq_quietly (hadded hl) undefined_quietly) nofun fun _ => ?_
    rw [otherwise]
    refine enter_writes scope [] (fun inner => statement (callWithin (n + 1)) inner _) (fun _ _ => rfl) fun l hlater => ?_
    refine block_writes fun l' hlater' => ?_
    have hin := (((hl.grow hlater).enter).grow hlater').enter
    have hr := renderAttributes_quietly hin.inStore hin.support (merged_quietly hin (hadded hin))
    rw [Value.toAttributeValues_merge] at hr
    have hj (text : String) : text = String.join [text] := by simp
    rw [shownAttributes, hj (Attributes.render _)]
    exact writeAll_writes ha hin.inStore hin.sink (.cons hr .nil)

lemma strictNe_quietly {a b : Expr} {x y : Value} (ha : Quietly l₀ (· = x) (expression (callWithin n) scope a))
    (hb : Quietly l₀ (· = y) (expression (callWithin n) scope b)) :
    Quietly l₀ (· = .bool (!x.strictEquals y)) (expression (callWithin n) scope (.binary .strictNe a b)) := by
  simp only [expression]
  exact ha.bind fun _ e => hb.bind fun _ e' => .pure (by rw [e, e'])

lemma renderAdded_writes (ha : LawfulAppend append) {base : Value}
    (hl : LeafScope c sink extension values i extended base scope l₀) (he : Extended e extended) {item : String}
    (hne : item ≠ sink) {ys : List (Staged Value Halt (Store × τ))}
    (hx : NodesWrite append i l₀ r₀ (callWithin n) (e.children.getD []) ys) :
    Writes append i l₀ r₀ (statement (callWithin n) scope (renderAdded sink extension item)) (renderStaged ys) := by
  obtain ⟨id, attributes, children, hattributes, hchildren, rfl⟩ := he
  have hadded {scope : Scope} {l : Store}
      (hl : LeafScope c sink extension values i (.object id [("attributes", attributes), ("children", children)])
        base scope l) :
      Quietly l (· = children) (expression (callWithin n) scope (.member (.identifier extension) "children")) :=
    member_quietly (identifier_quietly hl.inStore hl.extension) "children"
  cases hc : e.children with
  | none =>
    rw [hc] at hchildren hx
    obtain rfl : children = .undefined := hchildren
    cases hx
    refine branch_writes (strictNe_quietly (hadded hl) undefined_quietly) nofun fun _ => ?_
    rw [otherwise]
    exact .done ha rfl
  | some nodes =>
    rw [hc] at hchildren hx
    obtain ⟨id', rfl⟩ : ∃ id, children = .array id _ := hchildren
    refine branch_writes (strictNe_quietly (hadded hl) undefined_quietly) (fun _ l hlater => ?_) nofun
    have hin := (hl.grow hlater).enter
    refine renderEach_writes ha hin.inStore hne hin.sink ((hadded hin).mono fun _ e => ⟨id', e⟩) ?_
    exact hx.imp fun _ _ hw => hw.later (hlater.trans (l.enter_grows []))

lemma putAll_eq (ha : LawfulAppend append) (call : Call) (chunks : List String) :
    (outsideSink append call).putAll chunks = (outsideSink append call).put (String.join chunks) := by
  induction chunks with
  | nil => exact (put_empty ha call).symm
  | cons chunk chunks ih => rw [Sink.putAll, ih, put_put ha, String.join_cons]

lemma statements_append (call : Call) (ss ts : List Stmt) : statements call scope (ss ++ ts) = (do
      match ← statements call scope ss with
      | .next => statements call scope ts
      | .leave value => return .leave value) := by
  induction ss with
  | nil => simp only [List.nil_append, statements, pure_bind]
  | cons s ss ih =>
    simp only [List.cons_append, statements, ih, bind_assoc]
    congr 1
    funext flow
    cases flow <;> simp

lemma statements_append_writes (ha : LawfulAppend append) {ss ts : List Stmt} {m' k' : EStateM Halt (Store × τ) Unit}
    (h : Writes append i l₀ r₀ (statements (callWithin n) scope ss) m')
    (hs : Writes append i l₀ r₀ (statements (callWithin n) scope ts) k') :
    Writes append i l₀ r₀ (statements (callWithin n) scope (ss ++ ts)) (m' >>= fun _ => k') := by
  rw [statements_append]
  refine .seq ha h fun flow e => ?_
  subst e
  exact hs

lemma body_writes (ha : LawfulAppend append)
    (hl : LeafScope c sink extension values i extended (.object identity (Entries.setAll [] new)) scope l₀)
    (hc : isTemporary c.support = false) (hg : AttributeCode.Gathers codes new) (he : Extended e extended) (k : Nat)
    {tag : String} {opening : Expr} {own close : List Stmt} {item : String} (hne : item ≠ sink)
    {children : EStateM Halt (Store × τ) Unit} {ys : List (Staged Value Halt (Store × τ))}
    (hopening : Quietly l₀ (· = .string ("<" ++ tag)) (expression (callWithin (n + 1)) scope opening))
    (hown : Writes append i l₀ r₀ (statements (callWithin (n + 1)) scope own) children)
    (hx : NodesWrite append i l₀ r₀ (callWithin (n + 1)) (e.children.getD []) ys)
    (hclose : Writes append i l₀ r₀ (statements (callWithin (n + 1)) scope close)
      (if isVoidTag tag then pure () else (outsideSink append call').putAll ["</", tag, ">"])) :
    Writes append i l₀ r₀ (statements (callWithin (n + 1)) scope
        ([write sink opening, writeAttributes c sink extension (.identifier values)
          (plainChunks c (.identifier values) codes k).1, write sink (.string ">")] ++ own ++
          [renderAdded sink extension item] ++ close))
      (do
        (outsideSink append call').putAll ["<", tag,
          (shownAttributes (AttributeValues.normalize (Value.toAttributeValues new)) e.attributes).render, ">"]
        children
        renderStaged ys
        if isVoidTag tag then pure () else (outsideSink append call').putAll ["</", tag, ">"]) := by
  let shown := shownAttributes (AttributeValues.normalize (Value.toAttributeValues new)) e.attributes
  let out := outsideSink append call'
  have hstart : Writes append i l₀ r₀ (statements (callWithin (n + 1)) scope
      [write sink opening, writeAttributes c sink extension (.identifier values)
        (plainChunks c (.identifier values) codes k).1, write sink (.string ">")])
      (out.putAll ["<", tag, shown.render, ">"]) := by
    have hputs : out.putAll ["<", tag, shown.render, ">"] =
        (out.put ("<" ++ tag) >>= fun _ => out.put shown.render >>= fun _ => out.put ">" >>= fun _ => pure ()) := by
      rw [putAll_eq ha, ← put_empty ha call', put_put ha, put_put ha, put_put ha]
      simp [String.join_cons, String.append_assoc]
    rw [hputs]
    refine statements_writes ha (write_writes hl.inStore hl.sink hopening) ?_
    refine statements_writes ha (writeAttributes_writes ha hl hc hg he k) ?_
    exact statements_writes ha (write_writes hl.inStore hl.sink (string_quietly ">")) (statements_nil_writes ha)
  have hadded : Writes append i l₀ r₀ (statements (callWithin (n + 1)) scope [renderAdded sink extension item])
      (renderStaged ys) :=
    statements_one_writes ha (renderAdded_writes ha hl he hne hx)
  have hall := statements_append_writes ha (statements_append_writes ha
    (statements_append_writes ha hstart hown) hadded) hclose
  simpa only [bind_assoc] using hall

end Body

/-- Called with a sink and an extension, the code writes an element: its start with the attributes and those
that are added, its own children, the children that are added, and its end. -/
def WritesElement (s : Store) (code : Value) (tag : String) (attributes : Attributes) (own : List (StreamNode Value)) :
    Prop :=
  ∀ {τ : Type} {append : τ → String → τ} (_ : LawfulAppend append) (n i : Nat) (l₀ r₀ : Store) (call' : Call)
    (e : Extension (StreamNode Value)) (v : Value) (xs ys : List (Staged Value Halt (Store × τ))),
    Store.Grows none s l₀ → Extended e v → NodesWrite append i l₀ r₀ (callWithin (n + 1)) own xs →
    NodesWrite append i l₀ r₀ (callWithin (n + 1)) (e.children.getD []) ys →
    WritesAlike append i l₀ r₀ (fun _ => True) (callWithin (n + 2) code [.sink i, v])
      (do
        (outsideSink append call').putAll ["<", tag, (shownAttributes attributes e.attributes).render, ">"]
        renderStaged xs
        renderStaged ys
        if isVoidTag tag then pure () else (outsideSink append call').putAll ["</", tag, ">"])

lemma leafCall_writes {sink extension : String} (hne : sink ≠ extension) {id : Nat} {ss : List Stmt} {v : Value}
    {m' : EStateM Halt (Store × τ) Unit}
    (h : ∀ l, Store.Grows none l₀ l → Writes append i (l.enter [(sink, .sink i), (extension, v)]) r₀
      (statements (callWithin n) (l.frames.size :: scope) ss) m') :
    WritesAlike append i l₀ r₀ (fun _ => True)
      (callWithin (n + 1) (.closure id [sink, extension] (.block ss) scope) [.sink i, v]) m' := by
  have hframe : bindAll [] [sink, extension] [.sink i, v] = [(sink, .sink i), (extension, v)] := by
    simp [bindAll, Entries.set, Support.first, hne]
  intro l r out hl hr
  have ho := h l hl _ r out (.refl _ _) hr
  rw [callWithin_closure, hframe]
  simp only [body, Bind.bind, EStateM.bind]
  generalize statements (callWithin n) (l.frames.size :: scope) ss (l.enter [(sink, .sink i), (extension, v)]) = x at ho ⊢
  generalize m' (r, out) = y at ho ⊢
  cases ho with
  | error halt l' r' => exact .error halt l' r'
  | ok text hp hgl hgr ht =>
    subst hp
    exact .ok text trivial ((l.enter_grows _).trans hgl) hgr ht

structure PartsScope (c : Config) (values : String) (base : Value) (scope : Scope) (s : Store) : Prop where
  inStore : scope.In s
  support : s.Supports scope c.support
  values : s.get? values scope = some base

def leafStore (l : Store) (a b i : Nat) (v : Value) : Store :=
  l.enter [(temporary 's' a, .sink i), (temporary 'e' b, v)]

lemma get?_leafStore {l : Store} (hs : scope.In l) (a b i : Nat) (v : Value) {name : String}
    (hsink : name ≠ temporary 's' a) (hextension : name ≠ temporary 'e' b) :
    (leafStore l a b i v).get? name (l.frames.size :: scope) = l.get? name scope := by
  rw [leafStore, Store.get?_enter hs]
  simp [Entries.get?, hsink.symm, hextension.symm]

lemma PartsScope.leafScope {c : Config} (hc : isTemporary c.support = false) {k : Nat} {base : Value} {s : Store}
    (h : PartsScope c (temporary 'a' k) base scope s) {l : Store} (hl : Store.Grows none s l) (a b i : Nat) (v : Value) :
    LeafScope c (temporary 's' a) (temporary 'e' b) (temporary 'a' k) i v base (l.frames.size :: scope)
      (leafStore l a b i v) := by
  have hin := h.inStore.grow hl
  refine ⟨hin.enter _, ?_, ?_, ?_, ?_⟩
  · obtain ⟨id, hs⟩ := h.support.grow h.inStore hl
    refine ⟨id, (get?_leafStore hin a b i v ?_ ?_).trans hs⟩
    · exact ne_temporary hc 's' (by decide) a
    · exact ne_temporary hc 'e' (by decide) b
  · rw [leafStore, Store.get?_enter hin]
    simp [Entries.get?]
  · rw [leafStore, Store.get?_enter hin]
    simp [Entries.get?, temporary_ne (show 's' ≠ 'e' by decide) a b]
  · refine (get?_leafStore hin a b i v ?_ ?_).trans ((hl.get?_eq h.inStore _).trans h.values)
    · exact temporary_ne (by decide) k a
    · exact temporary_ne (by decide) k b

lemma leaf_writesElement {c : Config} (hc : isTemporary c.support = false) {k identity : Nat} {s : Store}
    {new : List (String × Value)} {codes : List AttributeCode}
    (h : PartsScope c (temporary 'a' k) (.object identity (Entries.setAll [] new)) scope s)
    (hg : AttributeCode.Gathers codes new) (a b id k' item : Nat) {tag : String} {opening : Expr} {own close : List Stmt}
    {nodes : List (StreamNode Value)}
    (hopening : ∀ n i v l, Store.Grows none s l → Quietly (leafStore l a b i v) (· = .string ("<" ++ tag))
      (expression (callWithin n) (l.frames.size :: scope) opening))
    (hown : ∀ {τ : Type} {append : τ → String → τ} (_ : LawfulAppend append) n i v l r₀ xs, Store.Grows none s l →
      NodesWrite append i (leafStore l a b i v) r₀ (callWithin n) nodes xs →
      Writes append i (leafStore l a b i v) r₀ (statements (callWithin n) (l.frames.size :: scope) own) (renderStaged xs))
    (hclose : ∀ {τ : Type} {append : τ → String → τ} (_ : LawfulAppend append) n i v l r₀ call', Store.Grows none s l →
      Writes append i (leafStore l a b i v) r₀ (statements (callWithin n) (l.frames.size :: scope) close)
        (if isVoidTag tag then pure () else (outsideSink append call').putAll ["</", tag, ">"])) :
    WritesElement s (.closure id [temporary 's' a, temporary 'e' b] (.block
        ([write (temporary 's' a) opening, writeAttributes c (temporary 's' a) (temporary 'e' b)
          (.identifier (temporary 'a' k)) (plainChunks c (.identifier (temporary 'a' k)) codes k').1,
          write (temporary 's' a) (.string ">")] ++ own ++
          [renderAdded (temporary 's' a) (temporary 'e' b) (temporary 'n' item)] ++ close)) scope) tag
      (AttributeValues.normalize (Value.toAttributeValues new)) nodes := by
  intro τ append ha n i l₀ r₀ call' e v xs ys hl₀ he hx hy
  refine leafCall_writes (temporary_ne (by decide) a b) fun l hl => ?_
  have hsl := hl₀.trans hl
  have hgrow : Store.Grows none l₀ (leafStore l a b i v) := hl.trans (l.enter_grows _)
  have hscope := h.leafScope hc hsl a b i v
  refine body_writes ha hscope hc hg he k' (temporary_ne (by decide) item a) (hopening _ i v l hsl) ?_ ?_ ?_
  · exact hown ha _ i v l r₀ xs hsl (hx.imp fun _ _ hw => hw.later hgrow)
  · exact hy.imp fun _ _ hw => hw.later hgrow
  · exact hclose ha _ i v l r₀ call' hsl

end StreamElement

end TemplateScript
