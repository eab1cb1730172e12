import TemplateScript.Proofs.Script.Sources
import TemplateScript.Proofs.Template.ElementCode
import TemplateScript.Template.Compile

namespace TemplateScript

section Compiling

variable {α β : Type} {k k' : Nat}

def Compile.Ends (x : Compile α) (k : Nat) (P : α → Prop) : Except CompileError Unit → Prop
  | .ok _ => ∃ a k', x k = (.ok a, k') ∧ P a
  | .error e => ∃ k', x k = (.error e, k')

namespace Compile

lemma bind_ok {x : Compile α} {f : α → Compile β} {a : α} (h : x k = (.ok a, k')) : (x >>= f) k = f a k' := by
  change (ExceptT.bind x f) k = f a k'
  simp only [ExceptT.bind, ExceptT.mk, bind, StateT.bind]
  rw [h]
  rfl

lemma bind_error {x : Compile α} {f : α → Compile β} {e : CompileError} (h : x k = (.error e, k')) :
    (x >>= f) k = (.error e, k') := by
  change (ExceptT.bind x f) k = _
  simp only [ExceptT.bind, ExceptT.mk, bind, StateT.bind]
  rw [h]
  rfl

lemma Ends.pure {P : α → Prop} {a : α} (h : P a) : Ends (pure a) k P (.ok ()) := ⟨a, k, rfl, h⟩

lemma Ends.throw {P : α → Prop} (e : CompileError) : Ends (throw e : Compile α) k P (.error e) := ⟨k, rfl⟩

lemma Ends.bind {x : Compile α} {f : α → Compile β} {P : α → Prop} {Q : β → Prop} {check check' : Except CompileError Unit}
    (hx : Ends x k P check) (hf : ∀ a k', P a → Ends (f a) k' Q check') :
    Ends (x >>= f) k Q (check >>= fun _ => check') := by
  cases check with
  | error e =>
    obtain ⟨k', h⟩ := hx
    exact ⟨k', bind_error h⟩
  | ok _ =>
    obtain ⟨a, k', h, hp⟩ := hx
    have hend := hf a k' hp
    cases check' with
    | error e =>
      obtain ⟨k'', h'⟩ := hend
      exact ⟨k'', (bind_ok h).trans h'⟩
    | ok _ =>
      obtain ⟨b, k'', h', hq⟩ := hend
      exact ⟨b, k'', (bind_ok h).trans h', hq⟩

lemma Ends.after {x : Compile α} {f : α → Compile β} {P : β → Prop} {check : Except CompileError Unit} {a : α}
    (h : x k = (.ok a, k')) (hf : Ends (f a) k' P check) : Ends (x >>= f) k P check := by
  cases check with
  | error e => simpa only [Ends, bind_ok h] using hf
  | ok _ => simpa only [Ends, bind_ok h] using hf

lemma Ends.next {x : Compile α} {f : α → Compile β} {P : α → Prop} {Q : β → Prop} {check : Except CompileError Unit}
    (hx : Ends x k P check) (hf : ∀ a k', P a → Ends (f a) k' Q (.ok ())) : Ends (x >>= f) k Q check := by
  have h := hx.bind hf
  cases check <;> exact h

lemma Ends.map {x : Compile α} {f : α → β} {P : α → Prop} {Q : β → Prop} {check : Except CompileError Unit}
    (hx : Ends x k P check) (hf : ∀ a, P a → Q (f a)) : Ends (x >>= fun a => Pure.pure (f a)) k Q check :=
  hx.next fun a _ hp => .pure (hf a hp)

lemma Ends.of_ok {x : Compile α} {P : α → Prop} {check : Except CompileError Unit} {a : α} (h : Ends x k P check)
    (hx : (x.run k).1 = .ok a) : check = .ok () ∧ P a := by
  cases check with
  | error e =>
    obtain ⟨k', h⟩ := h
    rw [show x.run k = (.error e, k') from h] at hx
    cases hx
  | ok _ =>
    obtain ⟨b, k', h, hb⟩ := h
    rw [show x.run k = (.ok b, k') from h] at hx
    cases hx
    exact ⟨rfl, hb⟩

lemma Ends.exists_ok {x : Compile α} {P : α → Prop} (h : Ends x k P (.ok ())) : ∃ a, (x.run k).1 = .ok a ∧ P a := by
  obtain ⟨a, k', h, ha⟩ := h
  exact ⟨a, congrArg Prod.fst h, ha⟩

end Compile

end Compiling

namespace Compile

variable {V : String → Bool} {c : Config}

mutual

lemma expression_plain : (e : Expr) → e.isPlain V = true → ∀ k, expression c e k = (.ok e.unsourced, k)
  | .identifier name, _, k => by simp only [expression, Expr.unsourced]; rfl
  | .literal l, _, k => by cases l <;> simp only [expression, Expr.unsourced] <;> rfl
  | .array parts, h, k => by
    simp only [Expr.isPlain] at h
    simp only [expression, Expr.unsourced, bind_ok (items_plain parts h k)]
    rfl
  | .object parts, h, k => by
    simp only [Expr.isPlain] at h
    simp only [expression, Expr.unsourced, bind_ok (properties_plain parts h k)]
    rfl
  | .member object name, h, k => by
    simp only [Expr.isPlain] at h
    simp only [expression, Expr.unsourced, bind_ok (expression_plain object h k)]
    rfl
  | .index object index, h, k => by
    simp only [Expr.isPlain, Bool.and_eq_true] at h
    simp only [expression, Expr.unsourced, bind_ok (expression_plain object h.1 k), bind_ok (expression_plain index h.2 k)]
    rfl
  | .call callee arguments, h, k => by
    simp only [Expr.isPlain, Bool.and_eq_true] at h
    simp only [expression, Expr.unsourced, bind_ok (expression_plain callee h.1 k), bind_ok (items_plain arguments h.2 k)]
    rfl
  | .not operand, h, k => by
    simp only [Expr.isPlain] at h
    simp only [expression, Expr.unsourced, bind_ok (expression_plain operand h k)]
    rfl
  | .binary op left right, h, k => by
    simp only [Expr.isPlain, Bool.and_eq_true] at h
    simp only [expression, Expr.unsourced, bind_ok (expression_plain left h.1 k), bind_ok (expression_plain right h.2 k)]
    rfl
  | .conditional test consequent alternate, h, k => by
    simp only [Expr.isPlain, Bool.and_eq_true] at h
    simp only [expression, Expr.unsourced, bind_ok (expression_plain test h.1.1 k),
      bind_ok (expression_plain consequent h.1.2 k), bind_ok (expression_plain alternate h.2 k)]
    rfl
  | .arrow params body, h, k => by
    simp only [Expr.isPlain] at h
    simp only [expression, Expr.unsourced, bind_ok (function_plain body h k)]
    rfl
  | .markup node, h, _ => by simp [Expr.isPlain] at h

lemma items_plain : (parts : List Item) → Item.arePlain V parts = true → ∀ k,
    items c parts k = (.ok (Item.unsourcedAll parts), k)
  | [], _, k => by simp only [items, Item.unsourcedAll]; rfl
  | .single value :: parts, h, k => by
    simp only [Item.arePlain, Bool.and_eq_true] at h
    simp only [items, Item.unsourcedAll, bind_ok (expression_plain value h.1 k), bind_ok (items_plain parts h.2 k)]
    rfl
  | .spread source :: parts, h, k => by
    simp only [Item.arePlain, Bool.and_eq_true] at h
    simp only [items, Item.unsourcedAll, bind_ok (expression_plain source h.1 k), bind_ok (items_plain parts h.2 k)]
    rfl

lemma properties_plain : (parts : List Property) → Property.arePlain V parts = true → ∀ k,
    properties c parts k = (.ok (Property.unsourcedAll parts), k)
  | [], _, k => by simp only [properties, Property.unsourcedAll]; rfl
  | .keyed key value :: parts, h, k => by
    simp only [Property.arePlain, Bool.and_eq_true] at h
    simp only [properties, Property.unsourcedAll, bind_ok (expression_plain value h.1 k),
      bind_ok (properties_plain parts h.2 k)]
    rfl
  | .spread source :: parts, h, k => by
    simp only [Property.arePlain, Bool.and_eq_true] at h
    simp only [properties, Property.unsourcedAll, bind_ok (expression_plain source h.1 k),
      bind_ok (properties_plain parts h.2 k)]
    rfl

lemma function_plain : (body : Body) → body.isPlain V = true → ∀ k, function c body k = (.ok body.unsourced, k)
  | .expression value, h, k => by
    simp only [Body.isPlain] at h
    simp only [function, Body.unsourced, bind_ok (expression_plain value h k)]
    rfl
  | .block ss, h, k => by
    simp only [Body.isPlain] at h
    simp only [function, Body.unsourced, bind_ok (statements_plain ss h k)]
    rfl

lemma statement_plain : (s : Stmt) → s.isPlain V = true → ∀ k, statement c s k = (.ok s.unsourced, k)
  | .importModule name path, _, k => by simp only [statement, Stmt.unsourced]; rfl
  | .declare kind name value, h, k => by
    simp only [Stmt.isPlain] at h
    simp only [statement, Stmt.unsourced, bind_ok (expression_plain value h k)]
    rfl
  | .expression value, h, k => by
    simp only [Stmt.isPlain] at h
    simp only [statement, Stmt.unsourced, bind_ok (expression_plain value h k)]
    rfl
  | .branch test consequent none, h, k => by
    simp only [Stmt.isPlain, Bool.and_eq_true] at h
    simp only [statement, otherwise, Stmt.unsourced, bind_ok (expression_plain test h.1 k),
      bind_ok (statement_plain consequent h.2 k), pure_bind]
    rfl
  | .branch test consequent (some alternate), h, k => by
    simp only [Stmt.isPlain, Bool.and_eq_true] at h
    simp only [statement, otherwise, Stmt.unsourced, bind_ok (expression_plain test h.1.1 k),
      bind_ok (statement_plain consequent h.1.2 k), bind_assoc, bind_ok (statement_plain alternate h.2 k), pure_bind]
    rfl
  | .block ss, h, k => by
    simp only [Stmt.isPlain] at h
    simp only [statement, Stmt.unsourced, bind_ok (statements_plain ss h k)]
    rfl
  | .forOf name source body, h, k => by
    simp only [Stmt.isPlain, Bool.and_eq_true] at h
    simp only [statement, Stmt.unsourced, bind_ok (expression_plain source h.1 k), bind_ok (statement_plain body h.2 k)]
    rfl
  | .leave none, _, k => by simp only [statement, Stmt.unsourced]; rfl
  | .leave (some value), h, k => by
    simp only [Stmt.isPlain] at h
    simp only [statement, Stmt.unsourced, bind_ok (expression_plain value h k)]
    rfl

lemma statements_plain : (ss : List Stmt) → Stmt.arePlain V ss = true → ∀ k,
    statements c ss k = (.ok (Stmt.unsourcedAll ss), k)
  | [], _, k => by simp only [statements, Stmt.unsourcedAll]; rfl
  | s :: ss, h, k => by
    simp only [Stmt.arePlain, Bool.and_eq_true] at h
    simp only [statements, Stmt.unsourcedAll, bind_ok (statement_plain s h.1 k), bind_ok (statements_plain ss h.2 k)]
    rfl

end

end Compile

open Evaluation

section Corresponding

variable {p : Pairing} {V : String → Prop} {s s' : Store} {scope scope' : Scope} {e e' : Expr}

lemma evaluates_congr (hs : Store.Match p s s') (hscope : Scope.Match p V scope scope') (he : Expr.Alike V e e')
    {F G : Value → Store → Prop}
    (hF : ∀ q v w t t', p ≤ q → Store.Match q t t' → Value.Match q v w → (F v t ↔ G w t')) :
    (∃ v t, Evaluates scope e s v t ∧ F v t) ↔ ∃ v t, Evaluates scope' e' s' v t ∧ G v t := by
  constructor
  · rintro ⟨v, t, ⟨n, h⟩, hf⟩
    have ho := expression_follows (callWithin_follows n) hscope he s s' hs
    rw [show expression (callWithin n) scope e s = .ok v t from h] at ho
    generalize hx : expression (callWithin n) scope' e' s' = x at ho
    cases ho with
    | ok had hv => exact ⟨_, _, ⟨n, hx⟩, (hF _ _ _ _ _ had.le had.stores hv).1 hf⟩
  · rintro ⟨v, t, ⟨n, h⟩, hf⟩
    have ho := expression_follows (callWithin_follows n) hscope he s s' hs
    rw [show expression (callWithin n) scope' e' s' = .ok v t from h] at ho
    generalize hx : expression (callWithin n) scope e s = x at ho
    cases ho with
    | ok had hv => exact ⟨_, _, ⟨n, hx⟩, (hF _ _ _ _ _ had.le had.stores hv).2 hf⟩

lemma evaluates_forall_congr (hs : Store.Match p s s') (hscope : Scope.Match p V scope scope') (he : Expr.Alike V e e')
    {F G : Value → Store → Prop}
    (hF : ∀ q v w t t', p ≤ q → Store.Match q t t' → Value.Match q v w → (F v t ↔ G w t')) :
    (∀ v t, Evaluates scope e s v t → F v t) ↔ ∀ v t, Evaluates scope' e' s' v t → G v t := by
  have h := evaluates_congr hs hscope he fun q v w t t' hq ht hv => not_congr (hF q v w t t' hq ht hv)
  simpa using not_congr h

end Corresponding

def Store.Seen (V : String → Bool) (s : Store) (scope : Scope) (s' : Store) (scope' : Scope) : Prop :=
  ∃ p, Store.Match p s s' ∧ Scope.Match p (V · = true) scope scope'

section Seen

variable {V : String → Bool} {s₀ s s' : Store} {scope scope' : Scope}

lemma Store.Closed.seen (hs : s.Closed) (hin : scope.In s) : s.Seen V scope s scope :=
  ⟨_, hs.match, hin.match _⟩

lemma Store.Seen.later (h : s₀.Seen V scope s scope') (hg : Store.Grows none s s') : s₀.Seen V scope s' scope' := by
  obtain ⟨p, hs, hscope⟩ := h
  exact ⟨p, hs.grow (.refl _ _) hg, hscope⟩

def Pairing.hide (p : Pairing) (V : String → Bool) (frame : Nat) : Pairing :=
  { p with hidden := fun j name => p.hidden j name ∨ j = frame ∧ V name = true }

lemma Pairing.le_hide (p : Pairing) (V : String → Bool) (frame : Nat) : p ≤ p.hide V frame :=
  ⟨id, id, id, id, .inl⟩

lemma Store.Match.enter_hidden {p : Pairing} (h : Store.Match p s₀ s) {bindings : List (String × Value)}
    (hb : ∀ b ∈ bindings, V b.1 = false) : Store.Match (p.hide V s.frames.size) s₀ (s.enter bindings) := by
  have hgrown := h.grow (.refl _ _) (s.enter_grows bindings)
  refine { hgrown with
    frames := fun hf => ?_
    groups := fun hg => (hgrown.groups hg).mono (p.le_hide V _)
    apart := { h.apart with hidden := ?_ }
    hidden := ?_
    hidden_not_paired := ?_ }
  · obtain ⟨es, fs, he, hf, hm⟩ := hgrown.frames hf
    exact ⟨es, fs, he, hf, hm.mono (p.le_hide V _)⟩
  · rintro a b j name hg (hj | ⟨rfl, -⟩)
    · exact h.apart.hidden hg hj
    · exact fun hm => lt_irrefl _ ((h.groups hg).right _ hm)
  · rintro j name (hj | ⟨rfl, hname⟩)
    · exact hgrown.hidden hj
    · refine ⟨bindings, by simp [Store.enter], Entries.get?_eq_none fun b hm hne => ?_⟩
      have hother := hb b hm
      rw [hne, hname] at hother
      cases hother
  · rintro i j name (hj | ⟨rfl, -⟩) hf
    · exact h.hidden_not_paired hj hf
    · exact absurd (h.frames_lt hf).2 (lt_irrefl _)

lemma Store.Seen.enter_hidden (h : s₀.Seen V scope s scope') {bindings : List (String × Value)}
    (hb : ∀ b ∈ bindings, V b.1 = false) : s₀.Seen V scope (s.enter bindings) (s.frames.size :: scope') := by
  obtain ⟨p, hs, hscope⟩ := h
  refine ⟨_, hs.enter_hidden hb, .hidden (fun name hname => .inr ⟨rfl, hname⟩) (hscope.mono (p.le_hide V _))⟩

end Seen

section Plain

variable {M : Type} {S : Store → M → AnyNode Value → Prop} {V : String → Bool} {s₀ s s' : Store} {scope scope' : Scope}
  {e : Expr}

def PlainShows (L : Store → M → AnyNode Value → Prop) (e : Expr) (s : Store) (scope : Scope) (child : Child M) : Prop :=
  ∃ v t, Evaluates scope e s v t ∧ Child.Rel (L t) child v.toChild

/-- What nodes are taken for in a store, and so are those that correspond to them in another store. -/
structure Leaves (L S : Store → M → AnyNode Value → Prop) : Prop where
  stands {s : Store} {m : M} {node : AnyNode Value} : L s m node → S s m node
  moves {p : Pairing} {s s' : Store} {m : M} {node node' : AnyNode Value} : Store.Match p s s' →
    AnyNode.Rel (Value.Match p) node node' → (L s m node ↔ L s' m node')

variable {L : Store → M → AnyNode Value → Prop}

lemma Leaves.child_iff (hl : Leaves L S) {p : Pairing} (hs : Store.Match p s s') {child : Child M} {v w : Value}
    (hv : Value.Match p v w) : Child.Rel (L s) child v.toChild ↔ Child.Rel (L s') child w.toChild := by
  have hchild := hv.toChild_related
  refine ⟨fun h => h.comp (fun m node node' hm hn => ?_) hchild, fun h => h.comp (fun m node node' hm hn => ?_) hchild.flip⟩
  · exact (hl.moves hs hn).1 hm
  · exact (hl.moves hs hn).2 hm

lemma Leaves.plainShows_iff (hl : Leaves L S) (he : e.isPlain V = true) (hseen : s₀.Seen V scope s scope')
    (child : Child M) : PlainShows L e s₀ scope child ↔ PlainShows L e.unsourced s scope' child := by
  obtain ⟨p, hs, hscope⟩ := hseen
  exact evaluates_congr hs hscope (.unsourced e he) fun q v w t t' _ ht hv => hl.child_iff ht hv

lemma plain_means (hl : Leaves L S) (he : e.isPlain V = true) (hin : scope.In s₀) (hclosed : s₀.Closed)
    (hread : ∀ v t, Evaluates scope e s₀ v t → ∃ child, Child.Rel (L t) child v.toChild) :
    Means S s₀ scope e.unsourced (PlainShows L e s₀ scope) where
  runs {s} hg _ child hd := by
    obtain ⟨v, t, hv, hc⟩ := (hl.plainShows_iff he ((hclosed.seen hin).later hg) child).1 hd
    exact ⟨v, t, hv, hc.mono fun _ _ hn => hl.stands hn⟩
  shows {s t v} hg _ hv := by
    obtain ⟨p, hs, hscope⟩ := (hclosed.seen (V := V) hin).later hg
    obtain ⟨w, u, hw, -⟩ := (evaluates_congr hs hscope (.unsourced e he) (F := fun _ _ => True) (G := fun _ _ => True)
      fun _ _ _ _ _ _ _ _ => Iff.rfl).2 ⟨v, t, hv, trivial⟩
    obtain ⟨child, hc⟩ := hread w u hw
    exact ⟨child, w, u, hw, hc⟩

end Plain

section Tags

variable {V : String → Bool} {s₀ s : Store} {scope scope' : Scope}

def TagCode.unsourced : TagCode → TagCode
  | .static name => .static name
  | .computed name => .computed name.unsourced

def TagCode.isPlain (V : String → Bool) : TagCode → Bool
  | .static _ => true
  | .computed name => name.isPlain V

def TagCode.Names (s : Store) (scope : Scope) : TagCode → String → Prop
  | .static name, text => text = name
  | .computed e, text => ∃ t, Evaluates scope e s (.string text) t

def TagCode.IsText (s : Store) (scope : Scope) : TagCode → Prop
  | .static _ => True
  | .computed e => ∀ v t, Evaluates scope e s v t → ∃ text, v = .string text

lemma Value.Match.eq_string_iff {p : Pairing} {v w : Value} (h : Value.Match p v w) (text : String) :
    v = .string text ↔ w = .string text := by
  cases h <;> simp

lemma tag_means {tag : TagCode} (hp : tag.isPlain V = true) (hin : scope.In s₀) (hclosed : s₀.Closed)
    (ht : tag.IsText s₀ scope) : TextMeans s₀ scope tag.unsourced.expr (tag.Names s₀ scope) := by
  cases tag with
  | static name => exact string_means name
  | computed e =>
    intro s hg _ v
    obtain ⟨p, hs, hscope⟩ := (hclosed.seen (V := V) hin).later hg
    have htext := (evaluates_forall_congr hs hscope (.unsourced e hp) (G := fun v _ => ∃ text, v = .string text)
      fun q v w t t' _ _ hv => exists_congr hv.eq_string_iff).1 ht
    have hnames (text : String) : TagCode.Names s₀ scope (.computed e) text ↔
        ∃ t, Evaluates scope e.unsourced s (.string text) t := by
      have h := evaluates_congr hs hscope (.unsourced e hp) (F := fun v _ => v = .string text)
        (G := fun v _ => v = .string text) fun q v w t t' _ _ hv => hv.eq_string_iff text
      simpa [TagCode.Names] using h
    constructor
    · rintro ⟨t, hv⟩
      obtain ⟨text, rfl⟩ := htext v t hv
      exact ⟨text, rfl, (hnames text).2 ⟨t, hv⟩⟩
    · rintro ⟨text, rfl, hn⟩
      exact (hnames text).1 hn

end Tags

section Attributes

variable {V : String → Bool} {c : Config} {s₀ s : Store} {scope scope' : Scope}

def MarkupAttribute.isPlain (V : String → Bool) : MarkupAttribute → Bool
  | .named _ none => true
  | .named _ (some value) => value.isPlain V
  | .spread source => source.isPlain V

def MarkupAttribute.Gives (s : Store) (scope : Scope) : MarkupAttribute → List (String × AttributeValue) → Prop
  | .named name none, es => es = [(name, .bool true)]
  | .named name (some e), es => ∃ v t, Evaluates scope e s v t ∧ es = [(name, v.toAttributeValue)]
  | .spread e, es => ∃ v t, Evaluates scope e s v t ∧ es = Entries.mapValues Value.toAttributeValue (spreadFields v)

def MarkupAttribute.AllGive (s : Store) (scope : Scope) : List MarkupAttribute → List (String × AttributeValue) → Prop
  | [], es => es = []
  | a :: attributes, es => ∃ new rest, a.Gives s scope new ∧ MarkupAttribute.AllGive s scope attributes rest ∧ es = new ++ rest

def MarkupAttribute.code : MarkupAttribute → AttributeCode
  | .named name none => .static name (.bool true)
  | .named name (some e) =>
    match e.unsourced.constant? with
    | some value => .static name value
    | none => .computed name e.unsourced
  | .spread e => .spread e.unsourced

lemma Compile.attributeCodes_plain : (attributes : List MarkupAttribute) →
    attributes.all (MarkupAttribute.isPlain V) = true → ∀ k,
    attributeCodes c attributes k = (.ok (attributes.map MarkupAttribute.code), k)
  | [], _, k => by
    simp only [attributeCodes]
    rfl
  | .named name none :: attributes, h, k => by
    simp only [List.all_cons, Bool.and_eq_true] at h
    simp only [attributeCodes, bind_ok (attributeCodes_plain attributes h.2 k)]
    rfl
  | .named name (some value) :: attributes, h, k => by
    simp only [List.all_cons, Bool.and_eq_true] at h
    simp only [attributeCodes, bind_ok (expression_plain value h.1 k), bind_ok (attributeCodes_plain attributes h.2 k)]
    rfl
  | .spread source :: attributes, h, k => by
    simp only [List.all_cons, Bool.and_eq_true] at h
    simp only [attributeCodes, bind_ok (expression_plain source h.1 k), bind_ok (attributeCodes_plain attributes h.2 k)]
    rfl

lemma Value.Match.spread_eq {p : Pairing} {v w : Value} (h : Value.Match p v w) :
    Entries.mapValues Value.toAttributeValue (spreadFields v) = Entries.mapValues Value.toAttributeValue (spreadFields w) := by
  have hs := spreadFields_match h
  generalize spreadFields v = es at hs
  generalize spreadFields w = fs at hs
  induction hs with
  | nil => rfl
  | cons he _ ih =>
    cases he with
    | mk name hv => simp only [Entries.mapValues, List.map_cons, hv.toAttributeValue_eq] at ih ⊢; rw [ih]

lemma evaluates_constant {e : Expr} {value : AttributeValue} (h : e.constant? = some value) {v : Value} {t : Store} :
    Evaluates scope e s v t ↔ v = value.toValue ∧ s = t := by
  cases e with
  | literal l =>
    rw [evaluates_literal]
    cases l <;> obtain rfl := Option.some.inj h <;> exact and_congr_left' eq_comm
  | _ => simp [Expr.constant?] at h

lemma attribute_means {a : MarkupAttribute} (hp : a.isPlain V = true) (hseen : s₀.Seen V scope s scope') :
    a.code.Means s scope' (a.Gives s₀ scope) := by
  match a with
  | .named name none => exact fun es => Iff.rfl
  | .named name (some e) =>
    have heval {u : Store} (hg : Store.Grows none s u) (es : List (String × AttributeValue)) :
        MarkupAttribute.Gives s₀ scope (.named name (some e)) es ↔
          ∃ v t, Evaluates scope' e.unsourced u v t ∧ es = [(name, v.toAttributeValue)] := by
      obtain ⟨p, hs, hscope⟩ := hseen.later hg
      exact evaluates_congr hs hscope (.unsourced e hp) fun q v w t t' _ _ hv => by rw [hv.toAttributeValue_eq]
    simp only [MarkupAttribute.code]
    cases hc : e.unsourced.constant? with
    | none => exact fun u hg _ es => heval hg es
    | some value =>
      intro es
      rw [heval (.refl _ _)]
      simp [evaluates_constant hc, AttributeValue.toAttributeValue_toValue]
  | .spread e =>
    intro u hg _ es
    obtain ⟨p, hs, hscope⟩ := hseen.later hg
    exact evaluates_congr hs hscope (.unsourced e hp) fun q v w t t' _ _ hv => by rw [hv.spread_eq]

lemma attributes_mean {attributes : List MarkupAttribute} (hp : attributes.all (MarkupAttribute.isPlain V) = true)
    (hseen : s₀.Seen V scope s scope') :
    AttributesMean s scope' (attributes.map MarkupAttribute.code) (MarkupAttribute.AllGive s₀ scope attributes) := by
  induction attributes with
  | nil => exact .nil fun es => Iff.rfl
  | cons a attributes ih =>
    simp only [List.all_cons, Bool.and_eq_true] at hp
    exact .cons (attribute_means hp.1 hseen) (ih hp.2) fun es => Iff.rfl

end Attributes

end TemplateScript
