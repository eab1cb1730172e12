import TemplateScript.Proofs.Template.ComputedTags

/-!
Fragments are transparent. A fragment among the children of a fragment or of an element can be replaced by its own
children: children count only for the nodes that they are flattened to, and a fragment stands for the nodes of its
children.
-/

namespace TemplateScript

open Evaluation

section Opening

def TagCode.HoldsChildren (tag : TagCode) : Prop := ∀ name, tag = .static name → isVoidTag name = false

mutual

/-- Somewhere in the template, a fragment that is a child is replaced by its own children. -/
inductive Template.Opens : Template → Template → Prop
  | markup {node node' : TemplateNode} : TemplateNode.Opens node node' → Template.Opens (.markup node) (.markup node')
  | item (before after : List Template) {item item' : Template} : Template.Opens item item' →
    Template.Opens (.array (before ++ item :: after)) (.array (before ++ item' :: after))
  | consequent (test : Expr) (alternate : Template) {value value' : Template} : Template.Opens value value' →
    Template.Opens (.conditional test value alternate) (.conditional test value' alternate)
  | alternate (test : Expr) (consequent : Template) {value value' : Template} : Template.Opens value value' →
    Template.Opens (.conditional test consequent value) (.conditional test consequent value')
  | body (source : Expr) (param : String) {value value' : Template} : Template.Opens value value' →
    Template.Opens (.map source param value) (.map source param value')

inductive TemplateNode.Opens : TemplateNode → TemplateNode → Prop
  | fragment (before inner after : List TemplateNode) :
    TemplateNode.Opens (.fragment (before ++ .fragment inner :: after)) (.fragment (before ++ inner ++ after))
  | element {tag : TagCode} (htag : tag.HoldsChildren) (attributes : List MarkupAttribute)
    (before inner after : List TemplateNode) (selfClosing : Bool) :
    TemplateNode.Opens (.element tag attributes (before ++ .fragment inner :: after) selfClosing)
      (.element tag attributes (before ++ inner ++ after) selfClosing)
  | content {value value' : Template} : Template.Opens value value' →
    TemplateNode.Opens (.container value) (.container value')
  | inFragment (before after : List TemplateNode) {node node' : TemplateNode} : TemplateNode.Opens node node' →
    TemplateNode.Opens (.fragment (before ++ node :: after)) (.fragment (before ++ node' :: after))
  | inElement (tag : TagCode) (attributes : List MarkupAttribute) (before after : List TemplateNode) (selfClosing : Bool)
    {node node' : TemplateNode} : TemplateNode.Opens node node' →
    TemplateNode.Opens (.element tag attributes (before ++ node :: after) selfClosing)
      (.element tag attributes (before ++ node' :: after) selfClosing)

end

end Opening

section Alike

structure Template.Alike (x y : Template) : Prop where
  literalText : x.literalText? = y.literalText?
  check : x.check = y.check
  proper (V : String → Bool) (support : String) : x.isProper V support = y.isProper V support
  suits {M : Type} (L : Store → M → AnyNode Value → Prop) (s : Store) (scope : Scope) :
    x.SuitsIn L s scope ↔ y.SuitsIn L s scope
  shows {M : Type} (b : Builder M) (L : Store → M → AnyNode Value → Prop) (s : Store) (scope : Scope) (child : Child M) :
    x.ShowsIn b L s scope child ↔ y.ShowsIn b L s scope child

structure Template.AllAlike (xs ys : List Template) : Prop where
  check : Template.checkAll xs = Template.checkAll ys
  proper (V : String → Bool) (support : String) : Template.areProper V support xs = Template.areProper V support ys
  suits {M : Type} (L : Store → M → AnyNode Value → Prop) (s : Store) (scope : Scope) :
    Template.AllSuitIn L xs s scope ↔ Template.AllSuitIn L ys s scope
  shows {M : Type} (b : Builder M) (L : Store → M → AnyNode Value → Prop) (s : Store) (scope : Scope)
    (children : List (Child M)) : Template.AllShowIn b L xs s scope children ↔ Template.AllShowIn b L ys s scope children

structure TemplateNode.Alike (x y : TemplateNode) : Prop where
  literalText : x.literalText? = y.literalText?
  dropped : x.isDropped = y.isDropped
  check : x.check = y.check
  proper (V : String → Bool) (support : String) : x.isProper V support = y.isProper V support
  suits {M : Type} (L : Store → M → AnyNode Value → Prop) (s : Store) (scope : Scope) :
    x.SuitsIn L s scope ↔ y.SuitsIn L s scope
  shows {M : Type} (b : Builder M) (L : Store → M → AnyNode Value → Prop) (s : Store) (scope : Scope) (child : Child M) :
    x.ShowsIn b L s scope child ↔ y.ShowsIn b L s scope child

def TemplateNode.Fill {M : Type} (b : Builder M) (L : Store → M → AnyNode Value → Prop) (nodes : List TemplateNode)
    (s : Store) (scope : Scope) (ms : List M) : Prop :=
  ∃ children, TemplateNode.AllShowIn b L nodes s scope children ∧ Child.flatten b children = .ok ms

structure TemplateNode.ContentAlike (xs ys : List TemplateNode) : Prop where
  check : TemplateNode.checkAll xs = TemplateNode.checkAll ys
  proper (V : String → Bool) (support : String) :
    TemplateNode.areProper V support xs = TemplateNode.areProper V support ys
  suits {M : Type} (L : Store → M → AnyNode Value → Prop) (s : Store) (scope : Scope) :
    TemplateNode.AllSuitIn L xs s scope ↔ TemplateNode.AllSuitIn L ys s scope
  fills {M : Type} (b : Builder M) (L : Store → M → AnyNode Value → Prop) (s : Store) (scope : Scope) (ms : List M) :
    TemplateNode.Fill b L xs s scope ms ↔ TemplateNode.Fill b L ys s scope ms

end Alike

namespace TemplateNode

section Fill

variable {M : Type} {b : Builder M} {L : Store → M → AnyNode Value → Prop} {s : Store} {scope : Scope}
  {nodes inner after : List TemplateNode} {ms : List M}

lemma fill_nil : Fill b L [] s scope ms ↔ ms = [] := by
  simp only [Fill, AllShowIn, exists_eq_left, Child.flatten, Except.ok.injEq, eq_comm]

lemma fill_cons {node : TemplateNode} : Fill b L (node :: nodes) s scope ms ↔
    if node.isDropped then Fill b L nodes s scope ms
    else ∃ child first rest, node.ShowsIn b L s scope child ∧ child.nodes b = .ok first ∧
      Fill b L nodes s scope rest ∧ ms = first ++ rest := by
  simp only [Fill, AllShowIn]
  split
  · exact Iff.rfl
  · constructor
    · rintro ⟨_, ⟨child, children, hchild, hchildren, rfl⟩, hflat⟩
      rw [Child.flatten] at hflat
      obtain ⟨first, hfirst, hflat⟩ := bind_eq_ok_iff.1 hflat
      obtain ⟨rest, hrest, heq⟩ := bind_eq_ok_iff.1 hflat
      exact ⟨child, first, rest, hchild, hfirst, ⟨children, hchildren, hrest⟩, (Except.ok.inj heq).symm⟩
    · rintro ⟨child, first, rest, hchild, hfirst, ⟨children, hchildren, hrest⟩, rfl⟩
      refine ⟨_, ⟨child, children, hchild, hchildren, rfl⟩, ?_⟩
      rw [Child.flatten, hfirst, hrest]
      rfl

lemma fill_append {xs ys : List TemplateNode} : Fill b L (xs ++ ys) s scope ms ↔
    ∃ first rest, Fill b L xs s scope first ∧ Fill b L ys s scope rest ∧ ms = first ++ rest := by
  induction xs generalizing ms with
  | nil => simp [fill_nil]
  | cons x xs ih =>
    simp only [List.cons_append, fill_cons]
    split
    · exact ih
    · simp only [ih]
      constructor
      · rintro ⟨child, first, _, hchild, hfirst, ⟨second, rest, hsecond, hrest, rfl⟩, rfl⟩
        exact ⟨_, rest, ⟨child, first, second, hchild, hfirst, hsecond, rfl⟩, hrest, (List.append_assoc ..).symm⟩
      · rintro ⟨_, rest, ⟨child, first, second, hchild, hfirst, hsecond, rfl⟩, hrest, rfl⟩
        exact ⟨child, first, _, hchild, hfirst, ⟨second, rest, hsecond, hrest, rfl⟩, List.append_assoc ..⟩

lemma showsIn_fragment {child : Child M} : (TemplateNode.fragment nodes).ShowsIn b L s scope child ↔
    ∃ ms, Fill b L nodes s scope ms ∧ child = .list (ms.map .node) := by
  simp only [ShowsIn, FragmentShows, Fill]
  constructor
  · rintro ⟨children, ms, hshow, hflat, rfl⟩
    exact ⟨ms, ⟨children, hshow, hflat⟩, rfl⟩
  · rintro ⟨ms, ⟨children, hshow, hflat⟩, rfl⟩
    exact ⟨children, ms, hshow, hflat, rfl⟩

lemma showsIn_element {tag : TagCode} {attributes : List MarkupAttribute} {selfClosing : Bool}
    {child : Child M} : (TemplateNode.element tag attributes nodes selfClosing).ShowsIn b L s scope child ↔
      ∃ ms, Fill b L nodes s scope ms ∧ ∃ name es node, tag.Names s scope name ∧
        MarkupAttribute.AllGive s scope attributes es ∧ b.element name (.ofList es) ms = .ok node ∧ child = .node node := by
  simp only [ShowsIn, ElementShows, Fill]
  constructor
  · rintro ⟨name, es, children, ms, node, hname, hes, hshow, hflat, hnode, rfl⟩
    exact ⟨ms, ⟨children, hshow, hflat⟩, name, es, node, hname, hes, hnode, rfl⟩
  · rintro ⟨ms, ⟨children, hshow, hflat⟩, name, es, node, hname, hes, hnode, rfl⟩
    exact ⟨name, es, children, ms, node, hname, hes, hshow, hflat, hnode, rfl⟩

lemma fill_fragment : Fill b L (.fragment inner :: after) s scope ms ↔
    Fill b L (inner ++ after) s scope ms := by
  have hkept : (TemplateNode.fragment inner).isDropped = false := by simp [isDropped, literalText?]
  rw [fill_cons, hkept, fill_append]
  simp only [Bool.false_eq_true, if_false, showsIn_fragment]
  constructor
  · rintro ⟨_, first, rest, ⟨ms, hinner, rfl⟩, hfirst, hrest, rfl⟩
    rw [Child.nodes, flatten_nodes_eq] at hfirst
    obtain rfl := Except.ok.inj hfirst
    exact ⟨ms, rest, hinner, hrest, rfl⟩
  · rintro ⟨first, rest, hinner, hrest, rfl⟩
    exact ⟨_, first, rest, ⟨first, hinner, rfl⟩, by rw [Child.nodes, flatten_nodes_eq], hrest, rfl⟩

end Fill

section Content

variable {x y : TemplateNode} {xs ys : List TemplateNode}

lemma checkAll_append (xs ys : List TemplateNode) : checkAll (xs ++ ys) = (do checkAll xs; checkAll ys) := by
  induction xs with
  | nil => simp only [List.nil_append, checkAll, pure_bind]
  | cons x xs ih => simp only [List.cons_append, checkAll, ih, bind_assoc]

lemma areProper_append (V : String → Bool) (support : String) (xs ys : List TemplateNode) :
    areProper V support (xs ++ ys) = (areProper V support xs && areProper V support ys) := by
  induction xs with
  | nil => simp only [List.nil_append, areProper, Bool.true_and]
  | cons x xs ih => simp only [List.cons_append, areProper, ih, Bool.and_assoc]

lemma allSuitIn_append {M : Type} (L : Store → M → AnyNode Value → Prop) (s : Store) (scope : Scope)
    (xs ys : List TemplateNode) : AllSuitIn L (xs ++ ys) s scope ↔ AllSuitIn L xs s scope ∧ AllSuitIn L ys s scope := by
  induction xs with
  | nil => simp only [List.nil_append, AllSuitIn, true_and]
  | cons x xs ih => simp only [List.cons_append, AllSuitIn, ih, and_assoc]

lemma contentAlike_fragment (inner after : List TemplateNode) :
    ContentAlike (.fragment inner :: after) (inner ++ after) where
  check := by rw [checkAll_append, checkAll, check]
  proper V support := by rw [areProper_append, areProper, isProper]
  suits L s scope := by rw [allSuitIn_append, AllSuitIn, SuitsIn]
  fills _ _ _ _ _ := fill_fragment

lemma Alike.refl (x : TemplateNode) : x.Alike x :=
  ⟨rfl, rfl, rfl, fun _ _ => rfl, fun _ _ _ => Iff.rfl, fun _ _ _ _ _ => Iff.rfl⟩

lemma ContentAlike.refl (xs : List TemplateNode) : ContentAlike xs xs :=
  ⟨rfl, fun _ _ => rfl, fun _ _ _ => Iff.rfl, fun _ _ _ _ _ => Iff.rfl⟩

lemma ContentAlike.cons (hx : x.Alike y) (h : ContentAlike xs ys) : ContentAlike (x :: xs) (y :: ys) where
  check := by rw [checkAll, checkAll, hx.check, h.check]
  proper V support := by rw [areProper, areProper, hx.proper, h.proper]
  suits L s scope := by rw [AllSuitIn, AllSuitIn, hx.suits, h.suits]
  fills b L s scope ms := by simp only [fill_cons, hx.dropped, hx.shows, h.fills]

lemma ContentAlike.append (before : List TemplateNode) (h : ContentAlike xs ys) :
    ContentAlike (before ++ xs) (before ++ ys) := by
  induction before with
  | nil => exact h
  | cons node before ih => exact .cons (.refl node) ih

lemma ContentAlike.fragment (h : ContentAlike xs ys) : (TemplateNode.fragment xs).Alike (.fragment ys) where
  literalText := by simp only [literalText?]
  dropped := by simp only [isDropped, literalText?]
  check := by rw [TemplateNode.check, TemplateNode.check, h.check]
  proper V support := by rw [isProper, isProper, h.proper]
  suits L s scope := by rw [SuitsIn, SuitsIn, h.suits]
  shows b L s scope child := by simp only [showsIn_fragment, h.fills]

lemma ContentAlike.element (h : ContentAlike xs ys) {tag : TagCode}
    (hvoid : tag.HoldsChildren ∨ xs.all isDropped = ys.all isDropped) (attributes : List MarkupAttribute)
    (selfClosing : Bool) :
    (TemplateNode.element tag attributes xs selfClosing).Alike (.element tag attributes ys selfClosing) where
  literalText := by simp only [literalText?]
  dropped := by simp only [isDropped, literalText?]
  check := by
    cases tag with
    | computed e => rw [TemplateNode.check, TemplateNode.check, h.check]
    | static name =>
      rw [TemplateNode.check, TemplateNode.check, h.check]
      obtain hholds | hdropped := hvoid
      · simp only [hholds name rfl, Bool.false_and]
      · rw [hdropped]
  proper V support := by rw [isProper, isProper, h.proper]
  suits L s scope := by rw [SuitsIn, SuitsIn, h.suits]
  shows b L s scope child := by simp only [showsIn_element, h.fills]

lemma Alike.container {x y : Template} (h : x.Alike y) : (TemplateNode.container x).Alike (.container y) where
  literalText := by simp only [literalText?, h.literalText]
  dropped := by simp only [isDropped, literalText?, h.literalText]
  check := by rw [TemplateNode.check, TemplateNode.check, h.check]
  proper V support := by rw [isProper, isProper, h.proper]
  suits L s scope := by rw [SuitsIn, SuitsIn, h.suits]
  shows b L s scope child := by rw [ShowsIn, ShowsIn, h.shows]

end Content

end TemplateNode

namespace Template

section Forms

variable {x x' y y' : Template} {xs ys : List Template}

lemma Alike.refl (x : Template) : x.Alike x :=
  ⟨rfl, rfl, fun _ _ => rfl, fun _ _ _ => Iff.rfl, fun _ _ _ _ _ => Iff.rfl⟩

lemma AllAlike.refl (xs : List Template) : AllAlike xs xs :=
  ⟨rfl, fun _ _ => rfl, fun _ _ _ => Iff.rfl, fun _ _ _ _ _ => Iff.rfl⟩

lemma AllAlike.cons (hx : x.Alike y) (h : AllAlike xs ys) : AllAlike (x :: xs) (y :: ys) where
  check := by rw [checkAll, checkAll, hx.check, h.check]
  proper V support := by rw [areProper, areProper, hx.proper, h.proper]
  suits L s scope := by rw [AllSuitIn, AllSuitIn, hx.suits, h.suits]
  shows b L s scope children := by simp only [AllShowIn, hx.shows, h.shows]

lemma AllAlike.append (before : List Template) (h : AllAlike xs ys) : AllAlike (before ++ xs) (before ++ ys) := by
  induction before with
  | nil => exact h
  | cons item before ih => exact .cons (.refl item) ih

lemma AllAlike.array (h : AllAlike xs ys) : (Template.array xs).Alike (.array ys) where
  literalText := by simp only [literalText?]
  check := by rw [Template.check, Template.check, h.check]
  proper V support := by rw [isProper, isProper, h.proper]
  suits L s scope := by rw [SuitsIn, SuitsIn, h.suits]
  shows b L s scope child := by simp only [ShowsIn, h.shows]

lemma Alike.conditional (test : Expr) (hx : x.Alike x') (hy : y.Alike y') :
    (Template.conditional test x y).Alike (.conditional test x' y') where
  literalText := by simp only [literalText?]
  check := by rw [Template.check, Template.check, hx.check, hy.check]
  proper V support := by rw [isProper, isProper, hx.proper, hy.proper]
  suits L s scope := by simp only [SuitsIn, hx.suits, hy.suits]
  shows b L s scope child := by simp only [ShowsIn, hx.shows, hy.shows]

lemma Alike.map (source : Expr) (param : String) (h : x.Alike y) :
    (Template.map source param x).Alike (.map source param y) where
  literalText := by simp only [literalText?]
  check := by rw [Template.check, Template.check, h.check]
  proper V support := by rw [isProper, isProper, h.proper]
  suits L s scope := by simp only [SuitsIn, ItemsSuit, h.suits]
  shows b L s scope child := by simp only [ShowsIn, ItemsShow, h.shows]

lemma Alike.markup {x y : TemplateNode} (h : x.Alike y) : (Template.markup x).Alike (.markup y) where
  literalText := by simp only [literalText?, h.literalText]
  check := by rw [Template.check, Template.check, h.check]
  proper V support := by rw [isProper, isProper, h.proper]
  suits L s scope := by rw [SuitsIn, SuitsIn, h.suits]
  shows b L s scope child := by rw [ShowsIn, ShowsIn, h.shows]

end Forms

end Template

mutual

lemma Template.Opens.alike : {x y : Template} → x.Opens y → x.Alike y
  | _, _, .markup h => .markup (TemplateNode.Opens.alike h)
  | _, _, .item before after h => (Template.AllAlike.append before (.cons (Template.Opens.alike h) (.refl after))).array
  | _, _, .consequent test alternate h => .conditional test (Template.Opens.alike h) (.refl alternate)
  | _, _, .alternate test consequent h => .conditional test (.refl consequent) (Template.Opens.alike h)
  | _, _, .body source param h => .map source param (Template.Opens.alike h)

lemma TemplateNode.Opens.alike : {x y : TemplateNode} → x.Opens y → x.Alike y
  | _, _, .fragment before inner after => by
    rw [List.append_assoc]
    exact ((TemplateNode.contentAlike_fragment inner after).append before).fragment
  | _, _, .element htag attributes before inner after selfClosing => by
    rw [List.append_assoc]
    exact ((TemplateNode.contentAlike_fragment inner after).append before).element (.inl htag) attributes selfClosing
  | _, _, .content h => .container (Template.Opens.alike h)
  | _, _, .inFragment before after h =>
    (TemplateNode.ContentAlike.append before (.cons (TemplateNode.Opens.alike h) (.refl after))).fragment
  | _, _, .inElement tag attributes before after selfClosing h => by
    have hnode := TemplateNode.Opens.alike h
    -- The tag may be void here: it sees of its children only whether they are dropped.
    refine (TemplateNode.ContentAlike.append before (.cons hnode (.refl after))).element (.inr ?_) attributes selfClosing
    simp only [List.all_append, List.all_cons, hnode.dropped]

end

section Transparency

variable {c : Config} {s : Store} {scope : Scope} {code : Expr}

lemma Compile.Ends.eq_error_iff {α : Type} {x : Compile α} {k : Nat} {P : α → Prop} {check : Except CompileError Unit}
    (h : Compile.Ends x k P check) (e : CompileError) : (x.run k).1 = .error e ↔ check = .error e := by
  cases check with
  | error e' =>
    obtain ⟨k', h⟩ := h
    rw [show x.run k = (.error e', k') from h, Except.error.injEq, Except.error.injEq]
  | ok _ =>
    obtain ⟨a, hx, -⟩ := h.exists_ok
    simp [hx]

lemma Means.evaluates_iff {M : Type} {S : Store → M → AnyNode Value → Prop} {D : Child M → Prop}
    (h : Means S s scope code D) (hs : s.Closed) : (∃ v t, Evaluates scope code s v t) ↔ ∃ child, D child := by
  constructor
  · rintro ⟨v, t, hv⟩
    exact h.shows (.refl _ _) hs hv
  · rintro ⟨child, hd⟩
    obtain ⟨v, t, hv, -⟩ := h.runs (.refl _ _) hs hd
    exact ⟨v, t, hv⟩

/-- Replacing a fragment by its own children changes neither whether a template is compiled, or which error it is refused
with, nor whether its code evaluates, nor what it renders to. The values in the template are valid for the target, and
the support module does not have the name of a temporary. -/
theorem TemplateNode.fragments_transparent (hsupport : isTemporary c.support = false) {node node' : TemplateNode}
    (hopens : node.Opens node') (hp : node.isProper (fun name => !isTemporary name) c.support = true) (k k' : Nat) :
    let compiled (node : TemplateNode) (k : Nat) := ((Compile.expression c (.markup node.toMarkup)).run k).1
    (∀ e, compiled node k = .error e ↔ compiled node' k' = .error e) ∧
    ∀ code code', compiled node k = .ok code → compiled node' k' = .ok code' → ∀ s scope, Context c s scope →
      node.Suits (fun (_ : Unit) node => node.Valid c.target) s scope →
      ((∃ v t, Evaluates scope code s v t) ↔ ∃ v t, Evaluates scope code' s v t) ∧
      ∀ html, Renders scope code s (.ok html) ↔ Renders scope code' s (.ok html) := by
  intro compiled
  obtain ⟨M, b₀, S, text, hsight⟩ := exists_sight c.target
  have halike := hopens.alike
  have hp' := (halike.proper _ _).symm.trans hp
  have ends {node : TemplateNode} (hp : node.isProper (fun name => !isTemporary name) c.support = true) :=
    Template.code (hsight.reading hsupport) (.markup node) (by simpa only [Template.isProper] using hp)
  simp only [Template.toExpr, Template.check, Template.SuitsIn, Template.ShowsIn] at ends
  refine ⟨fun e => ?_, fun code code' hcode hcode' s scope hset hsuits => ?_⟩
  · rw [(ends hp k).eq_error_iff, (ends hp' k').eq_error_iff, halike.check]
  · have hsuits := TemplateNode.SuitsIn.inStores hsight.valid node hp hset hsuits
    have hsuits' := (halike.suits S s scope).1 hsuits
    obtain ⟨-, -, hmeans⟩ := (ends hp k).of_ok hcode
    obtain ⟨-, -, hmeans'⟩ := (ends hp' k').of_ok hcode'
    constructor
    · rw [(hmeans hset hsuits).evaluates_iff hset.closed, (hmeans' hset hsuits').evaluates_iff hset.closed]
      exact exists_congr (halike.shows b₀ S s scope)
    · intro html
      rw [TemplateNode.renders_iff hset hsight hsupport hp hsuits hcode,
        TemplateNode.renders_iff hset hsight hsupport hp' hsuits' hcode']
      simp only [halike.shows]

theorem TemplateNode.fragments_transparent_nested :
    let c : Config := {}
    let s := Store.ofSupport "_h"
    let chosen : Expr := .conditional (.bool true) (.string "<") .null
    let bold : TemplateNode := .element (.static "b") [.named "title" (some chosen)] [] false
    let paragraph (children : List TemplateNode) : TemplateNode := .element (.static "div") []
      [.container (.markup (.element (.computed (.string "p")) [] (children ++ [.text "z"]) false))] false
    let node := paragraph [.fragment [bold, .container (.plain chosen)]]
    let node' := paragraph [bold, .container (.plain chosen)]
    let compiled (node : TemplateNode) := ((Compile.expression c (.markup node.toMarkup)).run 0).1
    node.Opens node' ∧ ∃ code code', compiled node = .ok code ∧ compiled node' = .ok code' ∧
      Renders [0] code s (.ok "<div><p><b title=\"&lt;\"></b>&lt;z</p></div>") ∧
      Renders [0] code' s (.ok "<div><p><b title=\"&lt;\"></b>&lt;z</p></div>") := by
  intro c s chosen bold paragraph node node' compiled
  have hopens : node.Opens node' :=
    .inElement _ _ [] [] _ (.content (.markup (.element (fun _ h => by cases h) _ [] [bold, .container (.plain chosen)]
      [.text "z"] _)))
  have hset : Context c s [0] := ⟨Store.ofSupport_in _, Store.ofSupport_closed _, Store.ofSupport_supports _⟩
  have hsuits : node.Suits (fun (_ : Unit) node => node.Valid c.target) s [0] := by
    have hchosen : Evaluates [0] chosen s (.string "<") s := ⟨1, rfl⟩
    refine ⟨trivial, ⟨fun v t hv => ⟨"p", (evaluates_string.1 hv).1⟩, ⟨⟨trivial, trivial⟩, fun v t hv => ?_, trivial⟩,
      trivial, trivial⟩, trivial⟩
    obtain ⟨rfl, -⟩ := Yields.unique (expression_steady _ _) hchosen hv
    exact ⟨.text _, .text _⟩
  obtain ⟨code, hcode, hrenders⟩ := Markup.renders_of_answer? (show node.toMarkup.answer? c [0] s 9 =
    some (.ok "<div><p><b title=\"&lt;\"></b>&lt;z</p></div>") by decide +kernel)
  obtain ⟨code', hcode', -⟩ := Markup.renders_of_answer? (show node'.toMarkup.answer? c [0] s 9 =
    some (.ok "<div><p><b title=\"&lt;\"></b>&lt;z</p></div>") by decide +kernel)
  have hsame := (TemplateNode.fragments_transparent (by decide) hopens (by decide) 0 0).2 code code' hcode hcode' s [0]
    hset hsuits
  exact ⟨hopens, code, code', hcode, hcode', hrenders, (hsame.2 _).1 hrenders⟩

/-- A fragment takes a temporary of its own, so that a later one can have the name of the support module with it, and
another name without it. -/
theorem TemplateNode.fragments_shadow_support :
    let c : Config := { target := .raw, support := "_a2" }
    let s := Store.ofSupport "_a2"
    let bold : TemplateNode := .element (.static "b") [] [] false
    let titled : TemplateNode :=
      .element (.static "i") [.named "title" (some (.conditional (.bool true) (.string "y") .null))] [] false
    let page (children : List TemplateNode) : TemplateNode :=
      .element (.static "div") [] [.element (.static "p") [] children false, titled] false
    let compiled (node : TemplateNode) := ((Compile.expression c (.markup node.toMarkup)).run 0).1
    (page [.fragment [bold]]).Opens (page [bold]) ∧ Context c s [0] ∧
      (page [.fragment [bold]]).isProper (fun name => !isTemporary name) c.support = true ∧
      (page [.fragment [bold]]).Suits (fun (_ : Unit) node => node.Valid c.target) s [0] ∧
      ∃ code code' fault, compiled (page [.fragment [bold]]) = .ok code ∧ compiled (page [bold]) = .ok code' ∧
        Renders [0] code s (.error fault) ∧ Renders [0] code' s (.ok "<div><p><b></b></p><i title=\"y\"></i></div>") := by
  intro c s bold titled page compiled
  have hopens : (page [.fragment [bold]]).Opens (page [bold]) :=
    .inElement _ _ [] [titled] _ (.element (fun name h => by cases h; rfl) _ [] [bold] [] _)
  have hset : Context c s [0] := ⟨Store.ofSupport_in _, Store.ofSupport_closed _, Store.ofSupport_supports _⟩
  have hsuits : (page [.fragment [bold]]).Suits (fun (_ : Unit) node => node.Valid c.target) s [0] :=
    ⟨trivial, ⟨trivial, ⟨⟨trivial, trivial⟩, trivial⟩, trivial⟩, ⟨trivial, trivial⟩, trivial⟩
  obtain ⟨code, hcode, hrenders⟩ := Markup.renders_of_answer? (show (page [.fragment [bold]]).toMarkup.answer? c [0] s 9 =
    some (.error (.type (.noMethod "string" "escapeHTML"))) by decide +kernel)
  obtain ⟨code', hcode', hrenders'⟩ := Markup.renders_of_answer? (show (page [bold]).toMarkup.answer? c [0] s 9 =
    some (.ok "<div><p><b></b></p><i title=\"y\"></i></div>") by decide +kernel)
  exact ⟨hopens, hset, by decide, hsuits, code, code', _, hcode, hcode', hrenders, hrenders'⟩

end Transparency

end TemplateScript
