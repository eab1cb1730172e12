import TemplateScript.Proofs.Template.PlainCode

/-!
Templates: markup whose containers hold plain expressions, markup, arrays, conditionals and mapped functions of
templates again. A template shows children that depend neither on how it is compiled nor on where its values are
stored: what a builder makes of its elements and of what its plain expressions evaluate to.
-/

namespace TemplateScript

open Evaluation

mutual

inductive Template where
  | plain (e : Expr)
  | markup (node : TemplateNode)
  | array (items : List Template)
  | conditional (test : Expr) (consequent alternate : Template)
  | map (source : Expr) (param : String) (body : Template)

inductive TemplateNode where
  | text (value : String)
  | empty
  | container (value : Template)
  | fragment (children : List TemplateNode)
  | element (tag : TagCode) (attributes : List MarkupAttribute) (children : List TemplateNode) (selfClosing : Bool)

end

def TagCode.toTag : TagCode → Tag
  | .static name => .static name
  | .computed name => .computed name

mutual

def Template.toExpr : Template → Expr
  | .plain e => e
  | .markup node => .markup node.toMarkup
  | .array items => .array (Template.toItems items)
  | .conditional test consequent alternate => .conditional test consequent.toExpr alternate.toExpr
  | .map source param body => .call (.member source "map") [.single (.arrow [param] (.expression body.toExpr))]

def Template.toItems : List Template → List Item
  | [] => []
  | item :: items => .single item.toExpr :: Template.toItems items

def TemplateNode.toMarkup : TemplateNode → Markup
  | .text value => .text value
  | .empty => .container none
  | .container value => .container (some value.toExpr)
  | .fragment children => .fragment (TemplateNode.toMarkups children)
  | .element tag attributes children selfClosing =>
    .element tag.toTag attributes (TemplateNode.toMarkups children) selfClosing

def TemplateNode.toMarkups : List TemplateNode → List Markup
  | [] => []
  | node :: nodes => node.toMarkup :: TemplateNode.toMarkups nodes

end

section Proper

mutual

def Template.isProper (V : String → Bool) (support : String) : Template → Bool
  | .plain e => e.isPlain V
  | .markup node => node.isProper V support
  | .array items => Template.areProper V support items
  | .conditional test consequent alternate =>
    test.isPlain V && consequent.isProper V support && alternate.isProper V support
  | .map source param body => source.isPlain V && param != support && body.isProper V support

def Template.areProper (V : String → Bool) (support : String) : List Template → Bool
  | [] => true
  | item :: items => item.isProper V support && Template.areProper V support items

def TemplateNode.isProper (V : String → Bool) (support : String) : TemplateNode → Bool
  | .text _ => true
  | .empty => true
  | .container value => value.isProper V support
  | .fragment children => TemplateNode.areProper V support children
  | .element tag attributes children _ =>
    tag.isPlain V && attributes.all (MarkupAttribute.isPlain V) && TemplateNode.areProper V support children

def TemplateNode.areProper (V : String → Bool) (support : String) : List TemplateNode → Bool
  | [] => true
  | node :: nodes => node.isProper V support && TemplateNode.areProper V support nodes

end

end Proper

mutual

def Template.literalText? : Template → Option String
  | .plain e => e.stringValue?
  | .markup node => node.literalText?
  | _ => none

def TemplateNode.literalText? : TemplateNode → Option String
  | .text value => some (normalizeText value)
  | .container value => value.literalText?
  | _ => none

end

def TemplateNode.isDropped : TemplateNode → Bool
  | .empty => true
  | node => node.literalText? == some ""

mutual

def Template.check : Template → Except CompileError Unit
  | .plain _ => return
  | .markup node => node.check
  | .array items => Template.checkAll items
  | .conditional _ consequent alternate => do
    consequent.check
    alternate.check
  | .map _ _ body => body.check

def Template.checkAll : List Template → Except CompileError Unit
  | [] => return
  | item :: items => do
    item.check
    Template.checkAll items

def TemplateNode.check : TemplateNode → Except CompileError Unit
  | .text _ => return
  | .empty => return
  | .container value => value.check
  | .fragment children => TemplateNode.checkAll children
  | .element (.static name) _ children _ => do
    if isComponentName name then throw (.componentTag name)
    TemplateNode.checkAll children
    if isVoidTag name && !children.all TemplateNode.isDropped then throw (.voidElementChildren name)
  | .element (.computed _) _ children _ => TemplateNode.checkAll children

def TemplateNode.checkAll : List TemplateNode → Except CompileError Unit
  | [] => return
  | node :: nodes => do
    node.check
    TemplateNode.checkAll nodes

end

section Showing

variable {M : Type}

def ItemsShow (K : Store → Scope → Child M → Prop) (param : String) (scope : Scope) (v : Value) (t : Store)
    (child : Child M) : Prop :=
  ∃ identity items children, v = .array identity items ∧ List.Forall₂ (fun item child =>
    K (t.enter [(param, item)]) (t.frames.size :: scope) child) items children ∧ child = .list children

mutual

/-- The children that a template shows where its plain expressions are evaluated in the scope. What nodes are taken for may
depend on the store. -/
def Template.ShowsIn (b : Builder M) (L : Store → M → AnyNode Value → Prop) : Template → Store → Scope → Child M → Prop
  | .plain e, s, scope, child => PlainShows L e s scope child
  | .markup node, s, scope, child => node.ShowsIn b L s scope child
  | .array items, s, scope, child => ∃ children, Template.AllShowIn b L items s scope children ∧ child = .list children
  | .conditional test consequent alternate, s, scope, child => ∃ v t, Evaluates scope test s v t ∧
    if v.isTruthy then consequent.ShowsIn b L s scope child else alternate.ShowsIn b L s scope child
  | .map source param body, s, scope, child => ∃ v t, Evaluates scope source s v t ∧
    ItemsShow (body.ShowsIn b L) param scope v t child

def Template.AllShowIn (b : Builder M) (L : Store → M → AnyNode Value → Prop) :
    List Template → Store → Scope → List (Child M) → Prop
  | [], _, _, children => children = []
  | item :: items, s, scope, children => ∃ child rest, item.ShowsIn b L s scope child ∧
    Template.AllShowIn b L items s scope rest ∧ children = child :: rest

def TemplateNode.ShowsIn (b : Builder M) (L : Store → M → AnyNode Value → Prop) : TemplateNode → Store → Scope → Child M → Prop
  | .text value, _, _, child => child = .text (normalizeText value)
  | .empty, _, _, child => child = .absent
  | .container value, s, scope, child => value.ShowsIn b L s scope child
  | .fragment children, s, scope, child => FragmentShows b (TemplateNode.AllShowIn b L children s scope) child
  | .element tag attributes children _, s, scope, child => ElementShows b (tag.Names s scope)
    (MarkupAttribute.AllGive s scope attributes) (TemplateNode.AllShowIn b L children s scope) child

def TemplateNode.AllShowIn (b : Builder M) (L : Store → M → AnyNode Value → Prop) :
    List TemplateNode → Store → Scope → List (Child M) → Prop
  | [], _, _, children => children = []
  | node :: nodes, s, scope, children =>
    if node.isDropped then TemplateNode.AllShowIn b L nodes s scope children
    else ∃ child rest, node.ShowsIn b L s scope child ∧ TemplateNode.AllShowIn b L nodes s scope rest ∧
      children = child :: rest

end

end Showing

def Value.hasOwnMap : Value → Bool
  | .object _ fields => (Entries.get? "map" fields).isSome
  | _ => false

def ItemsSuit (K : Store → Scope → Prop) (param : String) (scope : Scope) (v : Value) (t : Store) : Prop :=
  v.hasOwnMap = false ∧ ∀ identity items, v = .array identity items →
    ∀ item ∈ items, K (t.enter [(param, item)]) (t.frames.size :: scope)

mutual

/-- Where its plain expressions evaluate, those that are children are read as children, computed tags are strings, and
nothing is mapped by a method of its own. -/
def Template.SuitsIn {M : Type} (L : Store → M → AnyNode Value → Prop) : Template → Store → Scope → Prop
  | .plain e, s, scope => ∀ v t, Evaluates scope e s v t → ∃ child, Child.Rel (L t) child v.toChild
  | .markup node, s, scope => node.SuitsIn L s scope
  | .array items, s, scope => Template.AllSuitIn L items s scope
  | .conditional test consequent alternate, s, scope => ∀ v t, Evaluates scope test s v t →
    if v.isTruthy then consequent.SuitsIn L s scope else alternate.SuitsIn L s scope
  | .map source param body, s, scope => ∀ v t, Evaluates scope source s v t → ItemsSuit (body.SuitsIn L) param scope v t

def Template.AllSuitIn {M : Type} (L : Store → M → AnyNode Value → Prop) : List Template → Store → Scope → Prop
  | [], _, _ => True
  | item :: items, s, scope => item.SuitsIn L s scope ∧ Template.AllSuitIn L items s scope

def TemplateNode.SuitsIn {M : Type} (L : Store → M → AnyNode Value → Prop) : TemplateNode → Store → Scope → Prop
  | .text _, _, _ => True
  | .empty, _, _ => True
  | .container value, s, scope => value.SuitsIn L s scope
  | .fragment children, s, scope => TemplateNode.AllSuitIn L children s scope
  | .element tag _ children _, s, scope => tag.IsText s scope ∧ TemplateNode.AllSuitIn L children s scope

def TemplateNode.AllSuitIn {M : Type} (L : Store → M → AnyNode Value → Prop) : List TemplateNode → Store → Scope → Prop
  | [], _, _ => True
  | node :: nodes, s, scope => node.SuitsIn L s scope ∧ TemplateNode.AllSuitIn L nodes s scope

end

abbrev TemplateNode.Suits {M : Type} (L : M → AnyNode Value → Prop) (node : TemplateNode) : Store → Scope → Prop :=
  node.SuitsIn fun _ => L

abbrev TemplateNode.AllSuit {M : Type} (L : M → AnyNode Value → Prop) (nodes : List TemplateNode) :
    Store → Scope → Prop :=
  TemplateNode.AllSuitIn (fun _ => L) nodes

section Seen

variable {M : Type} {b : Builder M} {L S : Store → M → AnyNode Value → Prop} {V : String → Bool}
  {support : String} {p : Pairing} {s s' : Store} {scope scope' : Scope}

lemma Store.Seen.enter (hs : Store.Match p s s') (hscope : Scope.Match p (V · = true) scope scope') (param : String)
    {item item' : Value} (hi : Value.Match p item item') :
    (s.enter [(param, item)]).Seen V (s.frames.size :: scope) (s'.enter [(param, item')]) (s'.frames.size :: scope') :=
  ⟨_, hs.newFrame (.cons (.mk param hi) .nil), .cons (.inr ⟨rfl, rfl⟩) (hscope.mono (p.le_addFrame _ _))⟩

lemma TagCode.names_congr {tag : TagCode} (hp : tag.isPlain V = true) (hseen : s.Seen V scope s' scope') (text : String) :
    tag.Names s scope text ↔ tag.Names s' scope' text := by
  cases tag with
  | static name => exact Iff.rfl
  | computed e =>
    obtain ⟨p, hs, hscope⟩ := hseen
    have h := evaluates_congr hs hscope (.plain e hp) (F := fun v _ => v = .string text)
      (G := fun v _ => v = .string text) fun q v w t t' _ _ hv => hv.eq_string_iff text
    simpa [TagCode.Names] using h

lemma MarkupAttribute.gives_congr {a : MarkupAttribute} (hp : a.isPlain V = true) (hseen : s.Seen V scope s' scope')
    (es : List (String × AttributeValue)) : a.Gives s scope es ↔ a.Gives s' scope' es := by
  obtain ⟨p, hs, hscope⟩ := hseen
  match a with
  | .named name none => exact Iff.rfl
  | .named name (some e) =>
    exact evaluates_congr hs hscope (.plain e hp) fun q v w t t' _ _ hv => by rw [hv.toAttributeValue_eq]
  | .spread e => exact evaluates_congr hs hscope (.plain e hp) fun q v w t t' _ _ hv => by rw [hv.spread_eq]

lemma MarkupAttribute.allGive_congr {attributes : List MarkupAttribute}
    (hp : attributes.all (MarkupAttribute.isPlain V) = true) (hseen : s.Seen V scope s' scope')
    (es : List (String × AttributeValue)) : AllGive s scope attributes es ↔ AllGive s' scope' attributes es := by
  induction attributes generalizing es with
  | nil => exact Iff.rfl
  | cons a attributes ih =>
    simp only [List.all_cons, Bool.and_eq_true] at hp
    simp only [AllGive, MarkupAttribute.gives_congr hp.1 hseen, ih hp.2]

lemma forall₂_congr_left {α β : Type} {R : α → α → Prop} {T T' : α → β → Prop} {xs xs' : List α}
    (hxs : List.Forall₂ R xs xs') (h : ∀ x x', R x x' → ∀ y, T x y ↔ T' x' y) (ys : List β) :
    List.Forall₂ T xs ys ↔ List.Forall₂ T' xs' ys := by
  induction hxs generalizing ys with
  | nil => cases ys <;> simp
  | cons hx _ ih => cases ys <;> simp [h _ _ hx, ih]

lemma itemsShow_congr {K : Store → Scope → Child M → Prop}
    (hK : ∀ {s s' scope scope'}, s.Seen V scope s' scope' → ∀ child, K s scope child ↔ K s' scope' child)
    (hs : Store.Match p s s') (hscope : Scope.Match p (V · = true) scope scope') (param : String) {v w : Value}
    (hv : Value.Match p v w) (child : Child M) : ItemsShow K param scope v s child ↔ ItemsShow K param scope' w s' child := by
  cases hv with
  | @array i j items items' _ hitems =>
    have hbody := forall₂_congr_left hitems fun item item' hi => hK (Store.Seen.enter hs hscope param hi)
    simp [ItemsShow, hbody]
  | _ => simp [ItemsShow]

mutual

lemma Template.shows_congr (hl : Leaves L S) : (template : Template) → template.isProper V support = true →
    {s s' : Store} → {scope scope' : Scope} → s.Seen V scope s' scope' → ∀ child,
    template.ShowsIn b L s scope child ↔ template.ShowsIn b L s' scope' child
  | .plain e, hp, s, s', scope, scope', ⟨p, hs, hscope⟩, child => by
    rw [Template.isProper] at hp
    simp only [Template.ShowsIn]
    exact evaluates_congr hs hscope (.plain e hp) fun q v w t t' _ ht hv => hl.child_iff ht hv
  | .markup node, hp, _, _, _, _, hseen, child => by
    rw [Template.isProper] at hp
    simp only [Template.ShowsIn]
    exact TemplateNode.shows_congr hl node hp hseen child
  | .array items, hp, _, _, _, _, hseen, child => by
    rw [Template.isProper] at hp
    simp only [Template.ShowsIn, Template.allShow_congr hl items hp hseen]
  | .conditional test consequent alternate, hp, s, s', scope, scope', ⟨p, hs, hscope⟩, child => by
    rw [Template.isProper, Bool.and_eq_true, Bool.and_eq_true] at hp
    simp only [Template.ShowsIn]
    refine evaluates_congr hs hscope (.plain test hp.1.1) fun q v w t t' _ _ hv => ?_
    rw [hv.isTruthy_eq]
    split
    · exact Template.shows_congr hl consequent hp.1.2 ⟨p, hs, hscope⟩ child
    · exact Template.shows_congr hl alternate hp.2 ⟨p, hs, hscope⟩ child
  | .map source param body, hp, s, s', scope, scope', ⟨p, hs, hscope⟩, child => by
    rw [Template.isProper, Bool.and_eq_true, Bool.and_eq_true] at hp
    simp only [Template.ShowsIn]
    exact evaluates_congr hs hscope (.plain source hp.1.1) fun q v w t t' hq ht hv =>
      itemsShow_congr (Template.shows_congr hl body hp.2) ht (hscope.mono hq) param hv child

lemma Template.allShow_congr (hl : Leaves L S) : (items : List Template) → Template.areProper V support items = true →
    {s s' : Store} → {scope scope' : Scope} → s.Seen V scope s' scope' → ∀ children,
    Template.AllShowIn b L items s scope children ↔ Template.AllShowIn b L items s' scope' children
  | [], _, _, _, _, _, _, _ => Iff.rfl
  | item :: items, hp, _, _, _, _, hseen, children => by
    rw [Template.areProper, Bool.and_eq_true] at hp
    simp only [Template.AllShowIn, Template.shows_congr hl item hp.1 hseen, Template.allShow_congr hl items hp.2 hseen]

lemma TemplateNode.shows_congr (hl : Leaves L S) : (node : TemplateNode) → node.isProper V support = true →
    {s s' : Store} → {scope scope' : Scope} → s.Seen V scope s' scope' → ∀ child,
    node.ShowsIn b L s scope child ↔ node.ShowsIn b L s' scope' child
  | .text _, _, _, _, _, _, _, _ => Iff.rfl
  | .empty, _, _, _, _, _, _, _ => Iff.rfl
  | .container value, hp, _, _, _, _, hseen, child => by
    rw [TemplateNode.isProper] at hp
    simp only [TemplateNode.ShowsIn]
    exact Template.shows_congr hl value hp hseen child
  | .fragment children, hp, _, _, _, _, hseen, child => by
    rw [TemplateNode.isProper] at hp
    simp only [TemplateNode.ShowsIn, FragmentShows, TemplateNode.allShow_congr hl children hp hseen]
  | .element tag attributes children _, hp, _, _, _, _, hseen, child => by
    rw [TemplateNode.isProper, Bool.and_eq_true, Bool.and_eq_true] at hp
    simp only [TemplateNode.ShowsIn, ElementShows, TagCode.names_congr hp.1.1 hseen,
      MarkupAttribute.allGive_congr hp.1.2 hseen, TemplateNode.allShow_congr hl children hp.2 hseen]

lemma TemplateNode.allShow_congr (hl : Leaves L S) : (nodes : List TemplateNode) →
    TemplateNode.areProper V support nodes = true → {s s' : Store} → {scope scope' : Scope} → s.Seen V scope s' scope' →
    ∀ children, TemplateNode.AllShowIn b L nodes s scope children ↔ TemplateNode.AllShowIn b L nodes s' scope' children
  | [], _, _, _, _, _, _, _ => Iff.rfl
  | node :: nodes, hp, _, _, _, _, hseen, children => by
    rw [TemplateNode.areProper, Bool.and_eq_true] at hp
    simp only [TemplateNode.AllShowIn, TemplateNode.shows_congr hl node hp.1 hseen,
      TemplateNode.allShow_congr hl nodes hp.2 hseen]

end

lemma Value.Match.hasOwnMap_eq {v w : Value} (h : Value.Match p v w) : v.hasOwnMap = w.hasOwnMap := by
  cases h with
  | @object _ _ xs ys _ hs =>
    simp only [Value.hasOwnMap]
    have hmap := Entries.get?_related hs "map"
    generalize Entries.get? "map" xs = x at hmap
    generalize Entries.get? "map" ys = y at hmap
    cases hmap <;> rfl
  | _ => rfl

lemma TagCode.isText_congr {tag : TagCode} (hp : tag.isPlain V = true) (hseen : s.Seen V scope s' scope') :
    tag.IsText s scope ↔ tag.IsText s' scope' := by
  cases tag with
  | static name => exact Iff.rfl
  | computed e =>
    obtain ⟨p, hs, hscope⟩ := hseen
    exact evaluates_forall_congr hs hscope (.plain e hp) fun q v w t t' _ _ hv => exists_congr hv.eq_string_iff

lemma forall_mem_congr {α : Type} {R : α → α → Prop} {T T' : α → Prop} {xs xs' : List α} (hxs : List.Forall₂ R xs xs')
    (h : ∀ x x', R x x' → (T x ↔ T' x')) : (∀ x ∈ xs, T x) ↔ ∀ x ∈ xs', T' x := by
  induction hxs with
  | nil => simp
  | cons hx _ ih => simp [h _ _ hx, ih]

lemma itemsSuit_congr {K : Store → Scope → Prop}
    (hK : ∀ {s s' scope scope'}, s.Seen V scope s' scope' → (K s scope ↔ K s' scope')) (hs : Store.Match p s s')
    (hscope : Scope.Match p (V · = true) scope scope') (param : String) {v w : Value} (hv : Value.Match p v w) :
    ItemsSuit K param scope v s ↔ ItemsSuit K param scope' w s' := by
  simp only [ItemsSuit, hv.hasOwnMap_eq]
  refine and_congr_right fun _ => ?_
  cases hv with
  | @array i j items items' _ hitems =>
    simpa using forall_mem_congr hitems fun item item' hi => hK (Store.Seen.enter hs hscope param hi)
  | _ => simp

mutual

lemma Template.suits_congr (hl : Leaves L S) : (template : Template) → template.isProper V support = true →
    {s s' : Store} → {scope scope' : Scope} → s.Seen V scope s' scope' →
    (template.SuitsIn L s scope ↔ template.SuitsIn L s' scope')
  | .plain e, hp, s, s', scope, scope', ⟨p, hs, hscope⟩ => by
    rw [Template.isProper] at hp
    simp only [Template.SuitsIn]
    exact evaluates_forall_congr hs hscope (.plain e hp) fun q v w t t' _ ht hv => exists_congr fun _ => hl.child_iff ht hv
  | .markup node, hp, _, _, _, _, hseen => by
    rw [Template.isProper] at hp
    simp only [Template.SuitsIn]
    exact TemplateNode.suits_congr hl node hp hseen
  | .array items, hp, _, _, _, _, hseen => by
    rw [Template.isProper] at hp
    simp only [Template.SuitsIn, Template.allSuit_congr hl items hp hseen]
  | .conditional test consequent alternate, hp, s, s', scope, scope', ⟨p, hs, hscope⟩ => by
    rw [Template.isProper, Bool.and_eq_true, Bool.and_eq_true] at hp
    simp only [Template.SuitsIn]
    refine evaluates_forall_congr hs hscope (.plain test hp.1.1) fun q v w t t' _ _ hv => ?_
    rw [hv.isTruthy_eq]
    split
    · exact Template.suits_congr hl consequent hp.1.2 ⟨p, hs, hscope⟩
    · exact Template.suits_congr hl alternate hp.2 ⟨p, hs, hscope⟩
  | .map source param body, hp, s, s', scope, scope', ⟨p, hs, hscope⟩ => by
    rw [Template.isProper, Bool.and_eq_true, Bool.and_eq_true] at hp
    simp only [Template.SuitsIn]
    exact evaluates_forall_congr hs hscope (.plain source hp.1.1) fun q v w t t' hq ht hv =>
      itemsSuit_congr (Template.suits_congr hl body hp.2) ht (hscope.mono hq) param hv

lemma Template.allSuit_congr (hl : Leaves L S) : (items : List Template) → Template.areProper V support items = true →
    {s s' : Store} → {scope scope' : Scope} → s.Seen V scope s' scope' →
    (Template.AllSuitIn L items s scope ↔ Template.AllSuitIn L items s' scope')
  | [], _, _, _, _, _, _ => Iff.rfl
  | item :: items, hp, _, _, _, _, hseen => by
    rw [Template.areProper, Bool.and_eq_true] at hp
    simp only [Template.AllSuitIn, Template.suits_congr hl item hp.1 hseen, Template.allSuit_congr hl items hp.2 hseen]

lemma TemplateNode.suits_congr (hl : Leaves L S) : (node : TemplateNode) → node.isProper V support = true →
    {s s' : Store} → {scope scope' : Scope} → s.Seen V scope s' scope' →
    (node.SuitsIn L s scope ↔ node.SuitsIn L s' scope')
  | .text _, _, _, _, _, _, _ => Iff.rfl
  | .empty, _, _, _, _, _, _ => Iff.rfl
  | .container value, hp, _, _, _, _, hseen => by
    rw [TemplateNode.isProper] at hp
    simp only [TemplateNode.SuitsIn]
    exact Template.suits_congr hl value hp hseen
  | .fragment children, hp, _, _, _, _, hseen => by
    rw [TemplateNode.isProper] at hp
    simp only [TemplateNode.SuitsIn, TemplateNode.allSuit_congr hl children hp hseen]
  | .element tag attributes children _, hp, _, _, _, _, hseen => by
    rw [TemplateNode.isProper, Bool.and_eq_true, Bool.and_eq_true] at hp
    simp only [TemplateNode.SuitsIn, TagCode.isText_congr hp.1.1 hseen, TemplateNode.allSuit_congr hl children hp.2 hseen]

lemma TemplateNode.allSuit_congr (hl : Leaves L S) : (nodes : List TemplateNode) →
    TemplateNode.areProper V support nodes = true → {s s' : Store} → {scope scope' : Scope} → s.Seen V scope s' scope' →
    (TemplateNode.AllSuitIn L nodes s scope ↔ TemplateNode.AllSuitIn L nodes s' scope')
  | [], _, _, _, _, _, _ => Iff.rfl
  | node :: nodes, hp, _, _, _, _, hseen => by
    rw [TemplateNode.areProper, Bool.and_eq_true] at hp
    simp only [TemplateNode.AllSuitIn, TemplateNode.suits_congr hl node hp.1 hseen,
      TemplateNode.allSuit_congr hl nodes hp.2 hseen]

end

end Seen

end TemplateScript
