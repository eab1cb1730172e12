import TemplateScript.Proofs.Template.Templates

namespace TemplateScript

open Evaluation

structure Context (c : Config) (s : Store) (scope : Scope) : Prop where
  inStore : scope.In s
  closed : s.Closed
  supports : s.Supports scope c.support

variable {M : Type} {c : Config} {b₀ : Builder M} {L S : Store → M → AnyNode Value → Prop}
  {V : String → Bool} {s₀ s t : Store} {scope : Scope}

lemma Context.later (h : Context c s₀ scope) (hg : Store.Grows none s₀ s) (hs : s.Closed) : Context c s scope :=
  ⟨h.inStore.grow hg, hs, h.supports.grow h.inStore hg⟩

lemma Context.enter (h : Context c s scope) {param : String} (hparam : param ≠ c.support) {item : Value}
    (hi : item.In s) : Context c (s.enter [(param, item)]) (s.frames.size :: scope) where
  inStore := h.inStore.enter _
  closed := h.closed.enter (.cons (.mk param hi) .nil)
  supports := by
    obtain ⟨identity, hsupport⟩ := h.supports
    exact ⟨identity, (Store.get?_enter_other h.inStore (by simpa using hparam)).trans hsupport⟩

section Forms

lemma conditional_means {test a b : Expr} (hp : test.isPlain V = true) (hset : Context c s₀ scope)
    {D F : Child M → Prop}
    (hbranch : ∀ v t, Evaluates scope test s₀ v t → if v.isTruthy then Means S s₀ scope a D else Means S s₀ scope b F) :
    Means S s₀ scope (.conditional test.unsourced a b) fun child => ∃ v t, Evaluates scope test s₀ v t ∧
      if v.isTruthy then D child else F child := by
  have hiff {s : Store} (hg : Store.Grows none s₀ s) (G : Bool → Prop) :
      (∃ v t, Evaluates scope test s₀ v t ∧ G v.isTruthy) ↔
        ∃ v t, Evaluates scope test.unsourced s v t ∧ G v.isTruthy := by
    obtain ⟨p, hs, hscope⟩ := (hset.closed.seen (V := V) hset.inStore).later hg
    exact evaluates_congr hs hscope (.unsourced test hp) fun q v w t t' _ _ hv => by rw [hv.isTruthy_eq]
  -- Where the test is evaluated later, it chooses the same branch.
  have hchosen {s t : Store} {v : Value} (hg : Store.Grows none s₀ s) (hv : Evaluates scope test.unsourced s v t) :
      ∃ w u, Evaluates scope test s₀ w u ∧ w.isTruthy = v.isTruthy :=
    (hiff hg (· = v.isTruthy)).2 ⟨v, t, hv, rfl⟩
  constructor
  · rintro s hg hs child ⟨v, t, hv, hd⟩
    obtain ⟨w, u, hw, htruthy⟩ := (hiff hg (· = v.isTruthy)).1 ⟨v, t, hv, rfl⟩
    have hu := hg.trans hw.grows
    have hclosed := (hw.closed hs (hset.inStore.grow hg)).1
    have hmeans := hbranch v t hv
    have hcode : ∃ x t', Evaluates scope (if w.isTruthy then a else b) u x t' ∧ Child.Rel (S t') child x.toChild := by
      rw [htruthy]
      split at hmeans
      · next h => simpa [h] using hmeans.runs hu hclosed (by simpa [h] using hd)
      · next h => simpa [h] using hmeans.runs hu hclosed (by simpa [h] using hd)
    obtain ⟨x, t', hx, hc⟩ := hcode
    exact ⟨x, t', evaluates_conditional.2 ⟨w, u, hw, hx⟩, hc⟩
  · intro s t v hg hs hv
    obtain ⟨w, u, hw, hv⟩ := evaluates_conditional.1 hv
    have hu := hg.trans hw.grows
    have hclosed := (hw.closed hs (hset.inStore.grow hg)).1
    obtain ⟨w', u', hw', htruthy⟩ := hchosen hg hw
    have hmeans := hbranch w' u' hw'
    rw [← htruthy] at hv
    split at hmeans
    · next h =>
      obtain ⟨child, hd⟩ := hmeans.shows hu hclosed (by simpa [h] using hv)
      exact ⟨child, w', u', hw', by simpa [h] using hd⟩
    · next h =>
      obtain ⟨child, hd⟩ := hmeans.shows hu hclosed (by simpa [h] using hv)
      exact ⟨child, w', u', hw', by simpa [h] using hd⟩

lemma array_means {r : Representation} (hm : Mirrors r b₀ S) (hin : scope.In s₀) {codes : List Expr}
    {E : List (Child M) → Prop} (h : ContentMeans S s₀ scope (codes.map Compiled.dynamic) E) :
    Means S s₀ scope (.array (codes.map Item.single)) fun child => ∃ children, E children ∧ child = .list children := by
  have hitems : ((codes.map Compiled.dynamic).map fun code => Item.single code.expr) = codes.map Item.single := by
    simp [Compiled.dynamic]
  constructor
  · rintro s hg hs _ ⟨children, he, rfl⟩
    obtain ⟨vs, u, hvs, hread⟩ := h.runs hm hin hg hs he
    rw [hitems] at hvs
    exact ⟨_, _, evaluates_array.2 ⟨vs, u, hvs, rfl⟩, (hread.later hm u.next_grows).list _⟩
  · intro s t v hg hs hv
    obtain ⟨vs, u, hvs, -⟩ := evaluates_array.1 hv
    rw [← hitems] at hvs
    obtain ⟨children, he⟩ := h.shows hin hg hs hvs
    exact ⟨_, children, he, rfl⟩

variable {param : String} {code : Expr} {K : Value → Child M → Prop} {identity i : Nat}

abbrev itemFunction (identity : Nat) (param : String) (code : Expr) (scope : Scope) : Value :=
  .closure identity [param] (.expression code) scope

def ItemMeans (S : Store → M → AnyNode Value → Prop) (s₀ : Store) (scope : Scope) (param : String) (code : Expr)
    (item : Value) (D : Child M → Prop) : Prop :=
  ∀ s, Store.Grows none s₀ s → s.Closed → (s.enter [(param, item)]).Closed ∧
    Means S (s.enter [(param, item)]) (s.frames.size :: scope) code D

lemma returns_itemFunction {item v : Value} : Returns (itemFunction identity param code scope) [item, .number (.ofNat i)] s v t ↔
    Evaluates (s.frames.size :: scope) code (s.enter [(param, item)]) v t := by
  refine returns_closure.trans ?_
  simp [bindAll, Entries.set, Support.first]

lemma ItemMeans.later {item : Value} {D : Child M → Prop} (h : ItemMeans S s₀ scope param code item D)
    (hg : Store.Grows none s₀ s) : ItemMeans S s scope param code item D :=
  fun u hu hclosed => h u (hg.trans hu) hclosed

lemma mapYields_runs {r : Representation} (hm : Mirrors r b₀ S) (hin : scope.In s) (hs : s.Closed) {items : List Value}
    (hitems : ∀ item ∈ items, ItemMeans S s scope param code item (K item)) {children : List (Child M)}
    (h : List.Forall₂ K items children) :
    ∃ vs t, MapYields (itemFunction identity param code scope) i items s vs t ∧ ReadAs (S t) children vs := by
  induction h generalizing s i with
  | nil => exact ⟨[], s, mapYields_nil.2 ⟨rfl, rfl⟩, .nil⟩
  | @cons item child items children hd _ ih =>
    rw [List.forall_mem_cons] at hitems
    obtain ⟨hclosed, hmeans⟩ := hitems.1 s (.refl _ _) hs
    obtain ⟨v, u, hv, hread⟩ := hmeans.runs (.refl _ _) hclosed hd
    have hg : Store.Grows none s u := (s.enter_grows _).trans hv.grows
    have hu := (hv.closed hclosed (hin.enter _)).1
    obtain ⟨vs, t, hvs, hreads⟩ := ih (i := i + 1) (hin.grow hg) hu fun item hi => (hitems.2 item hi).later hg
    refine ⟨v :: vs, t, mapYields_cons.2 ⟨v, u, vs, returns_itemFunction.2 hv, hvs, rfl⟩, .cons ?_ hreads⟩
    exact hread.mono fun _ _ hn => hm.later hn hvs.grows

lemma mapYields_shows (hin : scope.In s) (hs : s.Closed) {items vs : List Value}
    (hitems : ∀ item ∈ items, ItemMeans S s scope param code item (K item))
    (h : MapYields (itemFunction identity param code scope) i items s vs t) :
    ∃ children, List.Forall₂ K items children := by
  induction items generalizing s i vs with
  | nil => exact ⟨[], .nil⟩
  | cons item items ih =>
    rw [List.forall_mem_cons] at hitems
    obtain ⟨v, u, ws, hv, hws, rfl⟩ := mapYields_cons.1 h
    have hv := returns_itemFunction.1 hv
    obtain ⟨hclosed, hmeans⟩ := hitems.1 s (.refl _ _) hs
    obtain ⟨child, hd⟩ := hmeans.shows (.refl _ _) hclosed hv
    have hg : Store.Grows none s u := (s.enter_grows _).trans hv.grows
    have hu := (hv.closed hclosed (hin.enter _)).1
    obtain ⟨children, hrest⟩ := ih (hin.grow hg) hu (fun item hi => (hitems.2 item hi).later hg) hws
    exact ⟨child :: children, .cons hd hrest⟩

lemma array_of_invokes {v w f : Value} (hown : v.hasOwnMap = false) (h : Invokes v "map" [f] s w t) :
    ∃ identity items, v = .array identity items := by
  obtain ⟨n, h⟩ := h
  cases v with
  | array identity items => exact ⟨identity, items, rfl⟩
  | object identity fields =>
    simp only [Value.hasOwnMap, Option.isSome_eq_false_iff, Option.isNone_iff_eq_none] at hown
    simp only [invoke, hown, Option.getD_none] at h
    cases n <;> cases h
  | builder r => cases r <;> cases h
  | _ => cases h

lemma evaluates_map {source : Expr} {v : Value} :
    Evaluates scope (.call (.member source "map") [.single (.arrow [param] (.expression code))]) s v t ↔
      ∃ x u, Evaluates scope source s x u ∧
        Invokes x "map" [itemFunction u.identities param code scope] u.next v t := by
  simp only [evaluates_methodCall, itemsYield_single, itemsYield_nil, evaluates_arrow]
  constructor
  · rintro ⟨x, u, _, _, hx, ⟨_, _, _, ⟨rfl, rfl⟩, ⟨rfl, rfl⟩, rfl⟩, h⟩
    exact ⟨x, u, hx, h⟩
  · rintro ⟨x, u, hx, h⟩
    exact ⟨x, u, _, _, hx, ⟨_, _, _, ⟨rfl, rfl⟩, ⟨rfl, rfl⟩, rfl⟩, h⟩

lemma itemMeans_of_body (hset : Context c s scope) (hparam : param ≠ c.support) {K : Store → Scope → Child M → Prop}
    {Q : Store → Scope → Prop}
    (hK : ∀ {s s' scope scope'}, s.Seen V scope s' scope' → ∀ child, K s scope child ↔ K s' scope' child)
    (hQ : ∀ {s s' scope scope'}, s.Seen V scope s' scope' → (Q s scope ↔ Q s' scope'))
    (hbody : ∀ {s scope}, Context c s scope → Q s scope → Means S s scope code (K s scope)) {item : Value}
    (hi : item.In s) (hq : Q (s.enter [(param, item)]) (s.frames.size :: scope)) :
    ItemMeans S s scope param code item (K (s.enter [(param, item)]) (s.frames.size :: scope)) := by
  intro u hg hu
  have hseen : (s.enter [(param, item)]).Seen V (s.frames.size :: scope) (u.enter [(param, item)]) (u.frames.size :: scope) :=
    Store.Seen.enter (hset.closed.match.grow (.refl _ _) hg) (hset.inStore.match _) param hi
  have hset' := (hset.later hg hu).enter hparam (hi.mono (Pairing.same_le hg))
  exact ⟨hset'.closed, (hbody hset' ((hQ hseen).1 hq)).congr fun child => (hK hseen child).symm⟩

lemma map_means {r : Representation} (hm : Mirrors r b₀ S) (hset : Context c s₀ scope) {source : Expr}
    (hp : source.isPlain V = true) (hparam : param ≠ c.support) {K : Store → Scope → Child M → Prop}
    {Q : Store → Scope → Prop}
    (hK : ∀ {s s' scope scope'}, s.Seen V scope s' scope' → ∀ child, K s scope child ↔ K s' scope' child)
    (hQ : ∀ {s s' scope scope'}, s.Seen V scope s' scope' → (Q s scope ↔ Q s' scope'))
    (hbody : ∀ {s scope}, Context c s scope → Q s scope → Means S s scope code (K s scope))
    (hsuits : ∀ v t, Evaluates scope source s₀ v t → ItemsSuit Q param scope v t) :
    Means S s₀ scope (.call (.member source.unsourced "map") [.single (.arrow [param] (.expression code))])
      fun child => ∃ v t, Evaluates scope source s₀ v t ∧ ItemsShow K param scope v t child := by
  have hseen {s : Store} (hg : Store.Grows none s₀ s) := (hset.closed.seen (V := V) hset.inStore).later hg
  have hshow {s : Store} (hg : Store.Grows none s₀ s) (child : Child M) :
      (∃ v t, Evaluates scope source s₀ v t ∧ ItemsShow K param scope v t child) ↔
        ∃ v t, Evaluates scope source.unsourced s v t ∧ ItemsShow K param scope v t child := by
    obtain ⟨p, hs, hscope⟩ := hseen hg
    exact evaluates_congr hs hscope (.unsourced source hp) fun q v w t t' hq ht hv =>
      itemsShow_congr hK ht (hscope.mono hq) param hv child
  have hsuit {s : Store} (hg : Store.Grows none s₀ s) :
      ∀ v t, Evaluates scope source.unsourced s v t → ItemsSuit Q param scope v t := by
    obtain ⟨p, hs, hscope⟩ := hseen hg
    exact (evaluates_forall_congr hs hscope (.unsourced source hp) fun q v w t t' hq ht hv =>
      itemsSuit_congr hQ ht (hscope.mono hq) param hv).1 hsuits
  have hitems {s u : Store} {j : Nat} {items : List Value} (hg : Store.Grows none s₀ s) (hs : s.Closed)
      (hv : Evaluates scope source.unsourced s (.array j items) u) : ∀ item ∈ items,
      ItemMeans S u.next scope param code item (K (u.enter [(param, item)]) (u.frames.size :: scope)) := by
    intro item hi
    obtain ⟨hu, hin⟩ := hv.closed hs (hset.inStore.grow hg)
    have hitem : item.In u := by
      cases hin with
      | array _ hs => exact List.forall₂_same.1 hs item hi
    exact (itemMeans_of_body (hset.later (hg.trans hv.grows) hu) hparam hK hQ hbody hitem
      ((hsuit hg _ _ hv).2 _ _ rfl item hi)).later u.next_grows
  constructor
  · intro s hg hs child hd
    obtain ⟨_, u, hv, j, items, children, rfl, hall, rfl⟩ := (hshow hg child).1 hd
    have hu := (hv.closed hs (hset.inStore.grow hg)).1
    have hin := hset.inStore.grow ((hg.trans hv.grows).trans u.next_grows)
    obtain ⟨vs, t, hvs, hread⟩ : ∃ vs t, MapYields (itemFunction u.identities param code scope) 0 items u.next vs t ∧
        ReadAs (S t) children vs := mapYields_runs hm hin hu.next (hitems hg hs hv) hall
    refine ⟨_, _, evaluates_map.2 ⟨_, u, hv, invokes_map.2 ⟨vs, t, hvs, rfl⟩⟩, ?_⟩
    exact (hread.later hm t.next_grows).list _
  · intro s t v hg hs hv
    obtain ⟨x, u, hx, hmap⟩ := evaluates_map.1 hv
    obtain ⟨j, items, rfl⟩ := array_of_invokes (hsuit hg _ _ hx).1 hmap
    obtain ⟨vs, t', hvs, -⟩ := invokes_map.1 hmap
    have hu := (hx.closed hs (hset.inStore.grow hg)).1
    have hin := hset.inStore.grow ((hg.trans hx.grows).trans u.next_grows)
    obtain ⟨children, hall⟩ := mapYields_shows hin hu.next (hitems hg hs hx) hvs
    exact ⟨_, (hshow hg _).2 ⟨_, u, hx, j, items, children, rfl, hall, rfl⟩⟩

end Forms

/-- What is needed of a target and of what stands for its nodes: only generated code binds temporary names, and it does
not do so for the structured target. -/
structure Reading (c : Config) (V : String → Bool) (b₀ : Builder M) (S L : Store → M → AnyNode Value → Prop) : Prop where
  view : View c b₀ S
  leaves : Leaves L S
  temporary : c.target ≠ .structured → isTemporary c.support = false
  ordinary : c.target ≠ .structured → ∀ name, isTemporary name = true → V name = false

section Elements

variable {tag : TagCode} {attributes : List MarkupAttribute} {content : List Compiled} {E : List (Child M) → Prop}

lemma attributes_inside (h : Reading c V b₀ S L) (hset : Context c s scope)
    (hattributes : attributes.all (MarkupAttribute.isPlain V) = true) (htarget : c.target ≠ .structured) :
    AttributesMeanInside s scope (attributes.map MarkupAttribute.code) (MarkupAttribute.AllGive s scope attributes) := by
  intro u bindings hg _ hb
  have hseen := (hset.closed.seen (V := V) hset.inStore).later hg
  exact attributes_mean hattributes (hseen.enter_hidden fun b hm => h.ordinary htarget b.1 (hb b hm))

lemma elementParts (h : Reading c V b₀ S L) (hset : Context c s scope) (htag : tag.isPlain V = true)
    (hattributes : attributes.all (MarkupAttribute.isPlain V) = true) (htext : tag.IsText s scope)
    (hcontent : ContentMeans S s scope content E) :
    ElementParts c S s scope tag.unsourced (attributes.map MarkupAttribute.code) content (tag.Names s scope)
      (MarkupAttribute.AllGive s scope attributes) E where
  inStore := hset.inStore
  closed := hset.closed
  supports := hset.supports
  tag := tag_means htag hset.inStore hset.closed htext
  attributes := attributes_mean hattributes (hset.closed.seen hset.inStore)
  content := hcontent
  temporary := h.temporary
  inside := attributes_inside h hset hattributes

lemma element_ends (h : Reading c V b₀ S L) (tag : TagCode) (htag : tag.isPlain V = true)
    (hattributes : attributes.all (MarkupAttribute.isPlain V) = true) (ha : tag.unsourced.Accepts content)
    {E : Store → Scope → List (Child M) → Prop} {Q : Store → Scope → Prop}
    (hcontent : ∀ {s scope}, Context c s scope → Q s scope → ContentMeans S s scope content (E s scope)) (k : Nat) :
    Compile.Ends (Compile.element c tag.unsourced (attributes.map MarkupAttribute.code) content) k
      (fun code => code.isEmptyText = false ∧ ∀ {s scope}, Context c s scope → tag.IsText s scope ∧ Q s scope →
        code.Means S s scope
          (ElementShows b₀ (tag.Names s scope) (MarkupAttribute.AllGive s scope attributes) (E s scope))) (.ok ()) := by
  obtain ⟨code, k', hcode, hempty, hmeans⟩ := element_code c (attributes.map MarkupAttribute.code) ha k
  refine ⟨code, k', hcode, hempty, fun hset hsuits => ?_⟩
  exact hmeans h.view (elementParts h hset htag hattributes hsuits.1 (hcontent hset hsuits.2))

end Elements

section Containers

lemma Compile.markup_container {e : Expr} (he : ∀ node, e ≠ .markup node) :
    Compile.markup c (.container (some e)) = (do
      let value ← Compile.expression c e
      return match value.stringValue? with
        | some s => .text s
        | none => .dynamic value) := by
  cases e with
  | markup node => exact absurd rfl (he node)
  | _ =>
    simp only [Compile.markup]
    refine bind_congr fun value => ?_
    cases value.stringValue? <;> rfl

lemma Means.eq_text {code : Expr} {D : Child M → Prop} (h : Means S s scope code D) (hs : s.Closed) {value : String}
    (hcode : code.stringValue? = some value) (child : Child M) : D child ↔ child = .text value := by
  have hv {v : Value} {t : Store} : Evaluates scope code s v t ↔ v = .string value ∧ s = t := by
    cases code with
    | literal l =>
      cases l with
      | string text source =>
        obtain rfl := Option.some.inj hcode
        exact evaluates_literal.trans (and_congr_left' eq_comm)
      | _ => cases hcode
    | _ => cases hcode
  have honly {child : Child M} (hd : D child) : child = .text value := by
    obtain ⟨v, t, he, hread⟩ := h.runs (.refl _ _) hs hd
    obtain ⟨rfl, rfl⟩ := hv.1 he
    simp only [Value.toChild] at hread
    cases hread
    rfl
  refine ⟨honly, ?_⟩
  rintro rfl
  obtain ⟨child, hd⟩ := h.shows (.refl _ _) hs (hv.2 ⟨rfl, rfl⟩)
  exact honly hd ▸ hd

lemma text_means {value : String} {D : Child M → Prop} (hd : ∀ child, D child ↔ child = .text value) :
    Compiled.Means S s scope (.text value) D := by
  refine ⟨⟨?_, fun {_ _ _} _ _ _ => ⟨_, (hd _).2 rfl⟩⟩, hd⟩
  intro u _ _ child hc
  obtain rfl := (hd child).1 hc
  refine ⟨.string value, u, evaluates_string.2 ⟨rfl, rfl⟩, ?_⟩
  simp only [Value.toChild]
  exact .text value

lemma absent_means : Means S s scope .undefined (· = .absent) := by
  refine ⟨?_, fun {_ _ _} _ _ _ => ⟨_, rfl⟩⟩
  rintro u _ _ _ rfl
  refine ⟨.undefined, u, evaluates_literal.2 ⟨rfl, rfl⟩, ?_⟩
  simp only [Value.toChild]
  exact .absent

lemma container_means {code : Expr} {D : Child M → Prop} (h : Means S s scope code D) (hs : s.Closed) :
    Compiled.Means S s scope (match code.stringValue? with
      | some s => .text s
      | none => .dynamic code) D := by
  split
  · next value hcode => exact text_means (h.eq_text hs hcode)
  · exact ⟨h, trivial⟩

lemma Template.toExpr_ne {template : Template} {support : String} (hp : template.isProper V support = true)
    (hne : ∀ node, template ≠ .markup node) (m : Markup) : template.toExpr ≠ .markup m := by
  cases template with
  | markup node => exact absurd rfl (hne node)
  | plain e =>
    rintro (rfl : e = .markup m)
    simp [Template.isProper, Expr.isPlain] at hp
  | _ => simp [Template.toExpr]

lemma container_ends {template : Template} {support : String} (hp : template.isProper V support = true)
    (hne : ∀ node, template ≠ .markup node) {D : Store → Scope → Child M → Prop} {Q : Store → Scope → Prop} {k : Nat}
    (h : Compile.Ends (Compile.expression c template.toExpr) k (fun code =>
      ((∀ node, template ≠ .markup node) → code.stringValue? = template.literalText?) ∧
        ∀ {s scope}, Context c s scope → Q s scope → Means S s scope code (D s scope)) template.check) :
    Compile.Ends (Compile.markup c (.container (some template.toExpr))) k (fun code =>
      code.isEmptyText = (template.literalText? == some "") ∧
        ∀ {s scope}, Context c s scope → Q s scope → code.Means S s scope (D s scope)) template.check := by
  rw [Compile.markup_container (Template.toExpr_ne hp hne)]
  refine h.map fun code hcode => ⟨?_, fun hset hsuits => container_means (hcode.2 hset hsuits) hset.closed⟩
  rw [← hcode.1 hne]
  cases code.stringValue? <;> rfl

end Containers

section Children

lemma Compile.children_cons {m : Markup} (hm : m ≠ .container none) (parts : List Markup) :
    Compile.children c (m :: parts) = (do
      let child ← Compile.markup c m
      let rest ← Compile.children c parts
      return if child.isEmptyText then rest else child :: rest) := by
  cases m with
  | container value =>
    cases value with
    | none => exact absurd rfl hm
    | some e => simp only [Compile.children]
  | _ => simp only [Compile.children]

lemma children_ends {node : TemplateNode} {nodes : List TemplateNode} (hne : node ≠ .empty) {D : Store → Scope → Child M → Prop}
    {E : Store → Scope → List (Child M) → Prop} {Q R : Store → Scope → Prop} {check : Except CompileError Unit} {k : Nat}
    (h : Compile.Ends (Compile.markup c node.toMarkup) k (fun code => code.isEmptyText = (node.literalText? == some "") ∧
      ∀ {s scope}, Context c s scope → Q s scope → code.Means S s scope (D s scope)) node.check)
    (hrest : ∀ k, Compile.Ends (Compile.children c (TemplateNode.toMarkups nodes)) k (fun content =>
      content.isEmpty = nodes.all TemplateNode.isDropped ∧
        ∀ {s scope}, Context c s scope → R s scope → ContentMeans S s scope content (E s scope)) check) :
    Compile.Ends (Compile.children c (TemplateNode.toMarkups (node :: nodes))) k (fun content =>
      content.isEmpty = (node :: nodes).all TemplateNode.isDropped ∧
        ∀ {s scope}, Context c s scope → Q s scope ∧ R s scope → ContentMeans S s scope content fun children =>
          if node.isDropped then E s scope children
          else ∃ child rest, D s scope child ∧ E s scope rest ∧ children = child :: rest)
      (node.check >>= fun _ => check) := by
  have hmarkup : node.toMarkup ≠ .container none := by
    cases node <;> simp_all [TemplateNode.toMarkup]
  have hdropped : node.isDropped = (node.literalText? == some "") := by
    cases node <;> first | rfl | exact absurd rfl hne
  rw [TemplateNode.toMarkups, Compile.children_cons hmarkup]
  refine h.bind fun code k' hcode => (hrest k').map fun content hcontent => ?_
  rw [hcode.1, ← hdropped, List.all_cons]
  cases node.isDropped with
  | true => exact ⟨by simpa using hcontent.1, fun hset hsuits => by simpa using hcontent.2 hset hsuits.2⟩
  | false =>
    refine ⟨rfl, fun hset hsuits => ?_⟩
    exact .cons (hcode.2 hset hsuits.1) (hcontent.2 hset hsuits.2) fun children => by simp

end Children

mutual

lemma Template.code (h : Reading c V b₀ S L) : (template : Template) → template.isProper V c.support = true → ∀ k,
    Compile.Ends (Compile.expression c template.toExpr) k (fun code =>
      ((∀ node, template ≠ .markup node) → code.stringValue? = template.literalText?) ∧ ∀ {s scope}, Context c s scope →
        template.SuitsIn L s scope → Means S s scope code (template.ShowsIn b₀ L s scope)) template.check
  | .plain e, hp, k => by
    rw [Template.isProper] at hp
    refine ⟨e.unsourced, k, Compile.expression_plain e hp k, fun _ => ?_, fun hset hsuits => ?_⟩
    · cases e with
      | literal l => cases l <;> rfl
      | _ => simp [Expr.unsourced, Expr.stringValue?, Template.literalText?]
    · rw [Template.SuitsIn] at hsuits
      simp only [Template.ShowsIn]
      exact plain_means h.leaves hp hset.inStore hset.closed hsuits
  | .markup node, hp, k => by
    rw [Template.isProper] at hp
    simp only [Template.toExpr, Compile.expression, Template.check, Template.ShowsIn, Template.SuitsIn]
    refine (TemplateNode.code h node hp k).map fun code hcode => ⟨fun hne => absurd rfl (hne node), fun hset hsuits => ?_⟩
    exact (hcode.2 hset hsuits).expr
  | .array items, hp, k => by
    rw [Template.isProper] at hp
    simp only [Template.toExpr, Compile.expression, Template.check, Template.ShowsIn, Template.SuitsIn]
    refine (Template.codes h items hp k).map ?_
    rintro _ ⟨codes, rfl, hcodes⟩
    exact ⟨fun _ => rfl, fun hset hsuits => array_means h.view.mirrors hset.inStore (hcodes hset hsuits)⟩
  | .conditional test consequent alternate, hp, k => by
    rw [Template.isProper, Bool.and_eq_true, Bool.and_eq_true] at hp
    simp only [Template.toExpr, Compile.expression, Template.check, Template.ShowsIn, Template.SuitsIn]
    refine Compile.Ends.after (Compile.expression_plain test hp.1.1 k) ?_
    refine (Template.code h consequent hp.1.2 k).bind fun a k' ha => (Template.code h alternate hp.2 k').map fun b hb => ?_
    refine ⟨fun _ => rfl, fun hset hsuits => conditional_means hp.1.1 hset fun v t hv => ?_⟩
    have hbranch := hsuits v t hv
    split at hbranch
    · next htruthy => simpa [htruthy] using ha.2 hset hbranch
    · next htruthy => simpa [htruthy] using hb.2 hset hbranch
  | .map source param body, hp, k => by
    rw [Template.isProper, Bool.and_eq_true, Bool.and_eq_true] at hp
    simp only [Template.toExpr, Compile.expression, Compile.items, Compile.function, bind_assoc, pure_bind,
      Template.check, Template.ShowsIn, Template.SuitsIn]
    refine Compile.Ends.after (Compile.expression_plain source hp.1.1 k) ?_
    refine (Template.code h body hp.2 k).map fun code hcode => ⟨fun _ => rfl, fun hset hsuits => ?_⟩
    exact map_means h.view.mirrors hset hp.1.1 (by simpa using hp.1.2) (Template.shows_congr h.leaves body hp.2)
      (Template.suits_congr h.leaves body hp.2) hcode.2 hsuits

lemma Template.codes (h : Reading c V b₀ S L) : (items : List Template) → Template.areProper V c.support items = true → ∀ k,
    Compile.Ends (Compile.items c (Template.toItems items)) k (fun parts => ∃ codes : List Expr,
      parts = codes.map Item.single ∧ ∀ {s scope}, Context c s scope → Template.AllSuitIn L items s scope →
        ContentMeans S s scope (codes.map Compiled.dynamic) (Template.AllShowIn b₀ L items s scope)) (Template.checkAll items)
  | [], _, k => by
    simp only [Template.toItems, Compile.items]
    exact .pure ⟨[], rfl, fun _ _ => .nil fun _ => by simp only [Template.AllShowIn]⟩
  | item :: items, hp, k => by
    rw [Template.areProper, Bool.and_eq_true] at hp
    simp only [Template.toItems, Compile.items, Template.checkAll]
    refine (Template.code h item hp.1 k).bind fun code k' hcode => (Template.codes h items hp.2 k').map ?_
    rintro _ ⟨codes, rfl, hcodes⟩
    refine ⟨code :: codes, rfl, fun hset hsuits => ?_⟩
    rw [Template.AllSuitIn] at hsuits
    refine .cons ⟨hcode.2 hset hsuits.1, trivial⟩ (hcodes hset hsuits.2) fun children => ?_
    simp only [Template.AllShowIn]

lemma TemplateNode.code (h : Reading c V b₀ S L) : (node : TemplateNode) → node.isProper V c.support = true → ∀ k,
    Compile.Ends (Compile.markup c node.toMarkup) k (fun code => code.isEmptyText = (node.literalText? == some "") ∧
      ∀ {s scope}, Context c s scope → node.SuitsIn L s scope → code.Means S s scope (node.ShowsIn b₀ L s scope)) node.check
  | .text value, _, k => by
    simp only [TemplateNode.toMarkup, Compile.markup, TemplateNode.ShowsIn]
    exact .pure ⟨by simp [Compiled.isEmptyText, Compiled.text, TemplateNode.literalText?], fun _ _ => text_means fun _ => Iff.rfl⟩
  | .empty, _, k => by
    simp only [TemplateNode.toMarkup, Compile.markup, TemplateNode.ShowsIn]
    exact .pure ⟨rfl, fun _ _ => ⟨absent_means, trivial⟩⟩
  | .container value, hp, k => by
    rw [TemplateNode.isProper] at hp
    simp only [TemplateNode.toMarkup, TemplateNode.ShowsIn, TemplateNode.literalText?, TemplateNode.check, TemplateNode.SuitsIn]
    cases value with
    | markup node =>
      rw [Template.isProper] at hp
      simp only [Template.toExpr, Compile.markup, Template.ShowsIn, Template.literalText?, Template.check, Template.SuitsIn]
      exact TemplateNode.code h node hp k
    | _ => exact container_ends hp (by simp) (Template.code h _ hp k)
  | .fragment children, hp, k => by
    rw [TemplateNode.isProper] at hp
    simp only [TemplateNode.toMarkup, Compile.markup, TemplateNode.ShowsIn, TemplateNode.SuitsIn, TemplateNode.check]
    refine (TemplateNode.codes h children hp k).map fun content hcontent => ⟨rfl, fun hset hsuits => ⟨?_, trivial⟩⟩
    exact fragment_means h.view.mirrors hset.inStore hset.supports (hcontent.2 hset hsuits)
  | .element (.static name) attributes children _, hp, k => by
    rw [TemplateNode.isProper, Bool.and_eq_true, Bool.and_eq_true] at hp
    simp only [TemplateNode.toMarkup, TagCode.toTag, Compile.markup, TemplateNode.ShowsIn, TemplateNode.SuitsIn, TemplateNode.check]
    cases hcomponent : isComponentName name with
    | true => exact ⟨k, rfl⟩
    | false =>
      simp only [Bool.false_eq_true, if_false]
      refine .after (Compile.attributeCodes_plain attributes hp.1.2 k) ?_
      refine (TemplateNode.codes h children hp.2 k).bind fun content k' hcontent => ?_
      simp only [Compile.checkContent, hcontent.1]
      split
      · exact ⟨k', rfl⟩
      · next hvoid =>
        simp only [pure_bind]
        refine element_ends h (.static name) hp.1.1 hp.1.2 ⟨hcomponent, fun hv => ?_⟩ hcontent.2 k'
        rw [← hcontent.1] at hvoid
        simpa [hv] using hvoid
  | .element (.computed e) attributes children _, hp, k => by
    rw [TemplateNode.isProper, Bool.and_eq_true, Bool.and_eq_true] at hp
    simp only [TemplateNode.toMarkup, TagCode.toTag, Compile.markup, TemplateNode.ShowsIn, TemplateNode.SuitsIn, TemplateNode.check]
    refine .after (Compile.expression_plain e hp.1.1 k) (.after (Compile.attributeCodes_plain attributes hp.1.2 k) ?_)
    exact (TemplateNode.codes h children hp.2 k).next fun content k' hcontent =>
      element_ends h (.computed e) hp.1.1 hp.1.2 trivial hcontent.2 k'

lemma TemplateNode.codes (h : Reading c V b₀ S L) : (nodes : List TemplateNode) →
    TemplateNode.areProper V c.support nodes = true → ∀ k,
    Compile.Ends (Compile.children c (TemplateNode.toMarkups nodes)) k (fun content =>
      content.isEmpty = nodes.all TemplateNode.isDropped ∧ ∀ {s scope}, Context c s scope →
        TemplateNode.AllSuitIn L nodes s scope → ContentMeans S s scope content (TemplateNode.AllShowIn b₀ L nodes s scope))
      (TemplateNode.checkAll nodes)
  | [], _, k => by
    simp only [TemplateNode.toMarkups, Compile.children]
    exact .pure ⟨rfl, fun _ _ => .nil fun _ => by simp only [TemplateNode.AllShowIn]⟩
  | node :: nodes, hp, k => by
    rw [TemplateNode.areProper, Bool.and_eq_true] at hp
    simp only [TemplateNode.AllSuitIn, TemplateNode.AllShowIn, TemplateNode.checkAll]
    cases node with
    | empty =>
      simp only [TemplateNode.toMarkups, TemplateNode.toMarkup, Compile.children, TemplateNode.SuitsIn, true_and]
      exact TemplateNode.codes h nodes hp.2 k
    | _ => exact children_ends (by simp) (TemplateNode.code h _ hp.1 k) (TemplateNode.codes h nodes hp.2)

end

end TemplateScript
