import TemplateScript.Proofs.Template.Meaning

namespace TemplateScript

open Evaluation

section Texts

variable {s₀ : Store} {scope : Scope}

inductive TextsMean (s₀ : Store) (scope : Scope) : List Expr → (String → Prop) → Prop
  | nil {D : String → Prop} : (∀ text, D text ↔ text = "") → TextsMean s₀ scope [] D
  | cons {e : Expr} {es : List Expr} {D F G : String → Prop} : TextMeans s₀ scope e D → TextsMean s₀ scope es F →
    (∀ text, G text ↔ ∃ a b, D a ∧ F b ∧ text = a ++ b) → TextsMean s₀ scope (e :: es) G

lemma TextMeans.congr {e : Expr} {D F : String → Prop} (h : TextMeans s₀ scope e D) (hdf : ∀ text, D text ↔ F text) :
    TextMeans s₀ scope e F := by
  obtain rfl : D = F := funext fun text => propext (hdf text)
  exact h

lemma string_means (value : String) : TextMeans s₀ scope (.string value) (· = value) := by
  intro s _ _ v
  simp only [evaluates_string]
  constructor
  · rintro ⟨_, rfl, -⟩
    exact ⟨value, rfl, rfl⟩
  · rintro ⟨_, rfl, rfl⟩
    exact ⟨s, rfl, rfl⟩

def Spells (s₀ : Store) (scope : Scope) (code : Expr) (D : String → Prop) : Prop :=
  ∀ s, Store.Grows none s₀ s → s.Closed → ∀ text, D text ↔ ∃ v t, Evaluates scope code s v t ∧ v.text = text

lemma TextMeans.spells {e : Expr} {D : String → Prop} (h : TextMeans s₀ scope e D) : Spells s₀ scope e D := by
  intro s hg hs text
  constructor
  · intro hd
    obtain ⟨t, hv⟩ := (h s hg hs _).2 ⟨text, rfl, hd⟩
    exact ⟨_, t, hv, rfl⟩
  · rintro ⟨v, t, hv, rfl⟩
    obtain ⟨text, rfl, hd⟩ := (h s hg hs v).1 ⟨t, hv⟩
    exact hd

lemma TextMeans.add (hin : scope.In s₀) {a b : Expr} {D F : String → Prop} (ha : TextMeans s₀ scope a D)
    (hb : Spells s₀ scope b F) :
    TextMeans s₀ scope (.binary .add a b) fun text => ∃ x y, D x ∧ F y ∧ text = x ++ y := by
  intro s hg hs v
  constructor
  · rintro ⟨t, h⟩
    obtain ⟨x, u, y, hx, hy, rfl⟩ := evaluates_add.1 h
    obtain ⟨x, rfl, hd⟩ := (ha s hg hs x).1 ⟨u, hx⟩
    have hf := (hb u (hg.trans hx.grows) (hx.closed hs (hin.grow hg)).1 _).2 ⟨y, t, hy, rfl⟩
    exact ⟨x ++ y.text, rfl, x, y.text, hd, hf, rfl⟩
  · rintro ⟨_, rfl, x, _, hd, hf, rfl⟩
    obtain ⟨u, hx⟩ := (ha s hg hs _).2 ⟨x, rfl, hd⟩
    obtain ⟨y, t, hy, rfl⟩ := (hb u (hg.trans hx.grows) (hx.closed hs (hin.grow hg)).1 _).1 hf
    exact ⟨t, evaluates_add.2 ⟨_, u, y, hx, hy, rfl⟩⟩

lemma TextsMean.foldl (hin : scope.In s₀) {es : List Expr} {F : String → Prop} (h : TextsMean s₀ scope es F) {e : Expr}
    {D : String → Prop} (he : TextMeans s₀ scope e D) :
    TextMeans s₀ scope (es.foldl (.binary .add) e) fun text => ∃ a b, D a ∧ F b ∧ text = a ++ b := by
  induction h generalizing e D with
  | nil hF =>
    refine he.congr fun text => ?_
    simp [hF]
  | cons ha _ hG ih =>
    refine (ih (he.add hin ha.spells)).congr fun text => ?_
    simp only [hG]
    constructor
    · rintro ⟨_, c, ⟨a, b, ha, hb, rfl⟩, hc, rfl⟩
      exact ⟨a, b ++ c, ha, ⟨b, c, hb, hc, rfl⟩, String.append_assoc⟩
    · rintro ⟨a, _, ha, ⟨b, c, hb, hc, rfl⟩, rfl⟩
      exact ⟨a ++ b, c, ⟨a, b, ha, hb, rfl⟩, hc, String.append_assoc.symm⟩

lemma TextsMean.concat (hin : scope.In s₀) {es : List Expr} {D : String → Prop} (h : TextsMean s₀ scope es D) :
    TextMeans s₀ scope (.concat es) D := by
  cases h with
  | nil hD => exact (string_means "").congr fun text => (hD text).symm
  | cons he hes hD => exact (hes.foldl hin he).congr fun text => (hD text).symm

lemma TextsMean.congr {es : List Expr} {D F : String → Prop} (h : TextsMean s₀ scope es D)
    (hdf : ∀ text, D text ↔ F text) : TextsMean s₀ scope es F := by
  obtain rfl : D = F := funext fun text => propext (hdf text)
  exact h

end Texts

section Segments

variable {s₀ : Store} {scope : Scope}

open RawElement

def RawElement.Segment.Means (s₀ : Store) (scope : Scope) (D : String → Prop) : Segment → Prop
  | .constant value => ∀ text, D text ↔ text = value
  | .computed e => TextMeans s₀ scope e D

inductive SegmentsMean (s₀ : Store) (scope : Scope) : List Segment → (String → Prop) → Prop
  | nil {D : String → Prop} : (∀ text, D text ↔ text = "") → SegmentsMean s₀ scope [] D
  | cons {segment : Segment} {segments : List Segment} {D F G : String → Prop} : segment.Means s₀ scope D →
    SegmentsMean s₀ scope segments F → (∀ text, G text ↔ ∃ a b, D a ∧ F b ∧ text = a ++ b) →
    SegmentsMean s₀ scope (segment :: segments) G

lemma SegmentsMean.congr {segments : List Segment} {D F : String → Prop} (h : SegmentsMean s₀ scope segments D)
    (hdf : ∀ text, D text ↔ F text) : SegmentsMean s₀ scope segments F := by
  obtain rfl : D = F := funext fun text => propext (hdf text)
  exact h

lemma SegmentsMean.constant {segments : List Segment} {F : String → Prop} (h : SegmentsMean s₀ scope segments F)
    (value : String) : SegmentsMean s₀ scope (.constant value :: segments) fun text => ∃ b, F b ∧ text = value ++ b :=
  .cons (D := (· = value)) (fun _ => Iff.rfl) h fun text => by simp

lemma SegmentsMean.computed {segments : List Segment} {F : String → Prop} (h : SegmentsMean s₀ scope segments F)
    {e : Expr} {D : String → Prop} (he : TextMeans s₀ scope e D) :
    SegmentsMean s₀ scope (.computed e :: segments) fun text => ∃ a b, D a ∧ F b ∧ text = a ++ b :=
  .cons (D := D) he h fun _ => Iff.rfl

lemma SegmentsMean.append {xs ys : List Segment} {F G : String → Prop} (hx : SegmentsMean s₀ scope xs F)
    (hy : SegmentsMean s₀ scope ys G) :
    SegmentsMean s₀ scope (xs ++ ys) fun text => ∃ a b, F a ∧ G b ∧ text = a ++ b := by
  induction hx with
  | nil hF => exact hy.congr fun text => by simp [hF]
  | cons hsegment _ hH ih =>
    refine .cons hsegment ih fun text => ?_
    simp only [hH]
    constructor
    · rintro ⟨_, c, ⟨a, b, ha, hb, rfl⟩, hc, rfl⟩
      exact ⟨a, b ++ c, ha, ⟨b, c, hb, hc, rfl⟩, String.append_assoc⟩
    · rintro ⟨a, _, ha, ⟨b, c, hb, hc, rfl⟩, rfl⟩
      exact ⟨a ++ b, c, ⟨a, b, ha, hb, rfl⟩, hc, String.append_assoc.symm⟩

lemma constantPart_mean {es : List Expr} {F : String → Prop} (h : TextsMean s₀ scope es F) (value : String) :
    TextsMean s₀ scope (constantPart value ++ es) fun text => ∃ b, F b ∧ text = value ++ b := by
  simp only [constantPart]
  split
  · subst value
    exact h.congr fun text => by simp
  · exact .cons (string_means value) h fun text => by simp

lemma SegmentsMean.operands {segments : List Segment} {F : String → Prop} (h : SegmentsMean s₀ scope segments F)
    (pending : String) :
    TextsMean s₀ scope (operands pending segments) fun text => ∃ b, F b ∧ text = pending ++ b := by
  induction h generalizing pending with
  | nil hF =>
    have hempty : TextsMean s₀ scope [] (· = "") := .nil fun _ => Iff.rfl
    have hp := constantPart_mean hempty pending
    rw [List.append_nil] at hp
    simp only [RawElement.operands]
    exact hp.congr fun text => by simp [hF]
  | @cons segment segments D F G hsegment _ hG ih =>
    cases segment with
    | constant value =>
      simp only [RawElement.operands]
      refine (ih (pending ++ value)).congr fun text => ?_
      simp only [hG, hsegment _]
      constructor
      · rintro ⟨b, hb, rfl⟩
        exact ⟨value ++ b, ⟨value, b, rfl, hb, rfl⟩, String.append_assoc⟩
      · rintro ⟨_, ⟨_, b, rfl, hb, rfl⟩, rfl⟩
        exact ⟨b, hb, String.append_assoc.symm⟩
    | computed e =>
      simp only [RawElement.operands]
      refine constantPart_mean (.cons hsegment (ih "") fun text => ?_) pending
      simp [hG]

lemma rawObject_means {segments : List Segment} {F : String → Prop}
    (htext : TextMeans s₀ scope (.concat (RawElement.operands "" segments)) F) :
    Means (Shown .raw) s₀ scope (RawElement.node segments) fun child => ∃ text, F text ∧ child = .node ⟨text⟩ := by
  have hnode {s t : Store} {v : Value} : Evaluates scope (RawElement.node segments) s v t ↔ ∃ x u,
      Evaluates scope (.concat (RawElement.operands "" segments)) s x u ∧ u.next = t ∧
        v = .object u.identities [("type", .string "raw"), ("value", x)] := by
    simp only [RawElement.node, Expr.fields, List.map_cons, List.map_nil, evaluates_object, fieldsYield_keyed,
      fieldsYield_nil, evaluates_string]
    constructor
    · rintro ⟨_, _, ⟨_, _, ⟨rfl, rfl⟩, x, u, hx, rfl, rfl⟩, h⟩
      obtain ⟨rfl, rfl⟩ := EStateM.Result.ok.inj h
      exact ⟨x, u, hx, rfl, by simp [Entries.set]⟩
    · rintro ⟨x, u, hx, rfl, rfl⟩
      refine ⟨_, u, ⟨_, s, ⟨rfl, rfl⟩, x, u, hx, rfl, rfl⟩, ?_⟩
      simp only [Entries.set, String.reduceEq, if_false]
      rfl
  constructor
  · rintro s hg hs _ ⟨text, hf, rfl⟩
    obtain ⟨u, hx⟩ := (htext s hg hs _).2 ⟨text, rfl, hf⟩
    refine ⟨_, u.next, hnode.2 ⟨_, u, hx, rfl, rfl⟩, ?_⟩
    have hread : (Value.object u.identities [("type", .string "raw"), ("value", .string text)]).toNode? =
        some (.raw ⟨text⟩) := by
      simp [Value.toNode?, Value.objectNode?, Value.stringField?, Entries.get?, Value.string?]
    rw [Value.toChild_of_toNode? hread]
    exact .node rfl
  · intro s t v hg hs hv
    obtain ⟨x, u, hx, -⟩ := hnode.1 hv
    obtain ⟨text, -, hf⟩ := (htext s hg hs x).1 ⟨u, hx⟩
    exact ⟨_, text, hf, rfl⟩

lemma rawNode_means (hin : scope.In s₀) {segments : List Segment} {F : String → Prop}
    (h : SegmentsMean s₀ scope segments F) :
    Means (Shown .raw) s₀ scope (RawElement.node segments) fun child => ∃ text, F text ∧ child = .node ⟨text⟩ :=
  rawObject_means (((h.operands "").concat hin).congr fun text => by simp)

end Segments

section Attributes

variable {c : Config} {s₀ s t : Store} {scope : Scope} {codes : List AttributeCode}
  {A : List (String × AttributeValue) → Prop}

open RawElement AttributeCode

lemma evaluates_computedAttribute (hin : scope.In s) (hsupport : s.Supports scope c.support)
    (hc : isTemporary c.support = false) {name : String} {e : Expr} {k : Nat} {w : Value} :
    (∃ t, Evaluates scope (computedAttribute c name e k).1 s w t) ↔
      ∃ v u, Evaluates scope e s.next v u ∧ w = .string (attributeText name v.toAttributeValue) := by
  have hid : Eval.newIdentity s = .ok s.identities s.next := rfl
  let closure (v : Value) : Nat → Eval Value := fun n => callWithin n (.closure s.identities [temporary 'a' (k + 1)]
    (.expression (attributeChoice c name (temporary 'a' (k + 1)))) scope) [Support.normalizeAttribute v]
  have hsteady (v : Value) : Steady (closure v) := call_steady _ _
  have hstep (t : Store) : Evaluates scope (computedAttribute c name e k).1 s w t ↔
      ∃ v u, Evaluates scope e s.next v u ∧ Yields (closure v) u w t := by
    refine Iff.trans ?_ (Yields.bind (expression_steady scope e) hsteady)
    simp only [Evaluates, Yields, expression_computedAttribute hsupport, Bind.bind, EStateM.bind, hid]
  have hcall (v : Value) {u : Store} (hu : Store.Grows none s u) :
      ∃ t, Yields (closure v) u (.string (attributeText name v.toAttributeValue)) t := by
    obtain ⟨_, t, he, rfl, -⟩ := attribute_call_quietly (n := 0) (hin.grow hu) (hsupport.grow hin hu) hc name (k + 1)
      s.identities v u (.refl _ _)
    exact ⟨t, 1, he⟩
  simp only [hstep]
  constructor
  · rintro ⟨t, v, u, hv, hw⟩
    obtain ⟨t', hw'⟩ := hcall v (s.next_grows.trans hv.grows)
    exact ⟨v, u, hv, (Yields.unique (hsteady v) hw hw').1⟩
  · rintro ⟨v, u, hv, rfl⟩
    obtain ⟨t, hw⟩ := hcall v (s.next_grows.trans hv.grows)
    exact ⟨t, v, u, hv, hw⟩

lemma computedAttribute_means (hin : scope.In s₀) (hsupport : s₀.Supports scope c.support)
    (hc : isTemporary c.support = false) {name : String} {e : Expr} {P : List (String × AttributeValue) → Prop}
    (h : (AttributeCode.computed name e).Means s₀ scope P) (k : Nat) :
    TextMeans s₀ scope (computedAttribute c name e k).1 fun text => ∃ es, P es ∧ text = entriesText es := by
  intro s hg hs w
  rw [evaluates_computedAttribute (hin.grow hg) (hsupport.grow hin hg) hc]
  simp only [h s.next (hg.trans s.next_grows) hs.next]
  constructor
  · rintro ⟨v, u, hv, rfl⟩
    exact ⟨_, rfl, _, ⟨v, u, hv, rfl⟩, by simp [entriesText]⟩
  · rintro ⟨_, rfl, _, ⟨v, u, hv, rfl⟩, rfl⟩
    exact ⟨v, u, hv, by simp [entriesText]⟩

lemma separateAttributes_mean (hin : scope.In s₀) (hsupport : s₀.Supports scope c.support)
    (hc : isTemporary c.support = false) (h : AttributesMean s₀ scope codes A) (hspread : ∀ e, .spread e ∉ codes)
    (k : Nat) : SegmentsMean s₀ scope (separateAttributes c codes k).1 fun text => ∃ es, A es ∧ text = entriesText es := by
  induction h generalizing k with
  | nil hA => exact .nil fun text => by simp [hA, entriesText]
  | @cons code codes P A B hcode _ hB ih =>
    have hrest (k : Nat) := ih (fun e hm => hspread e (List.mem_cons_of_mem _ hm)) k
    have hB' (text : String) : (∃ es, B es ∧ text = entriesText es) ↔ ∃ a b,
        (∃ es, P es ∧ a = entriesText es) ∧ (∃ es, A es ∧ b = entriesText es) ∧ text = a ++ b := by
      simp only [hB]
      constructor
      · rintro ⟨_, ⟨new, rest, hp, ha, rfl⟩, rfl⟩
        exact ⟨_, _, ⟨new, hp, rfl⟩, ⟨rest, ha, rfl⟩, entriesText_append new rest⟩
      · rintro ⟨_, _, ⟨new, hp, rfl⟩, ⟨rest, ha, rfl⟩, rfl⟩
        exact ⟨_, ⟨new, rest, hp, ha, rfl⟩, (entriesText_append new rest).symm⟩
    cases code with
    | static name value =>
      refine .cons (fun text => ?_) (hrest k) hB'
      simp [hcode _, entriesText, attributeText]
    | computed name e =>
      exact .cons (computedAttribute_means hin hsupport hc hcode k) (hrest _) hB'
    | spread e => exact absurd List.mem_cons_self (hspread e)

lemma AttributesMean.keys (h : AttributesMean s₀ scope codes A) (hg : Store.Grows none s₀ s) (hs : s.Closed)
    (hspread : ∀ e, .spread e ∉ codes) {es : List (String × AttributeValue)} (he : A es) :
    Entries.keys es = codes.filterMap AttributeCode.name? := by
  induction h generalizing es with
  | nil hA =>
    obtain rfl := (hA _).1 he
    rfl
  | @cons code codes P A B hcode _ hB ih =>
    obtain ⟨new, rest, hp, hr, rfl⟩ := (hB _).1 he
    have hrest := ih (fun e hm => hspread e (List.mem_cons_of_mem _ hm)) hr
    cases code with
    | static name value =>
      obtain rfl := (hcode _).1 hp
      simpa [Entries.keys, AttributeCode.name?] using hrest
    | computed name e =>
      obtain ⟨v, u, -, rfl⟩ := (hcode s hg hs _).1 hp
      simpa [Entries.keys, AttributeCode.name?] using hrest
    | spread e => exact absurd List.mem_cons_self (hspread e)

lemma rawAttributes_mean (hin : scope.In s₀) (hs : s₀.Closed) (hsupport : s₀.Supports scope c.support)
    (hc : isTemporary c.support = false) (h : AttributesMean s₀ scope codes A) (k : Nat) :
    SegmentsMean s₀ scope (RawElement.attributes c codes k).1 fun text =>
      ∃ es, A es ∧ text = (AttributeValues.normalize (.ofList es)).render := by
  simp only [RawElement.attributes]
  split
  · refine .cons (F := (· = "")) (D := fun text => ∃ es, A es ∧ text = (AttributeValues.normalize (.ofList es)).render)
      ?_ (.nil fun _ => Iff.rfl) fun text => by simp
    intro s hg hs v
    constructor
    · rintro ⟨t, hv⟩
      obtain ⟨vs, u, hvs, hrun⟩ := (evaluates_support (hsupport.grow hin hg) .renderAttributes).1 hv
      obtain ⟨x, u', ws, hx, hws, rfl⟩ := itemsYield_single.1 hvs
      obtain ⟨es, identity, fs, he, rfl, hfs⟩ := h.object_shows hin hg hs hx
      simp only [Native.run, Support.first, List.head?_cons, Option.getD_some, Value.attributeValues, hfs] at hrun
      exact ⟨_, (EStateM.Result.ok.inj hrun).1.symm, es, he, rfl⟩
    · rintro ⟨_, rfl, es, he, rfl⟩
      obtain ⟨identity, fs, u, hobject, hfs⟩ := h.object_runs hin hg hs he
      refine ⟨u, (evaluates_support (hsupport.grow hin hg) .renderAttributes).2 ⟨[.object identity fs], u,
        itemsYield_single.2 ⟨_, u, [], hobject, itemsYield_nil.2 ⟨rfl, rfl⟩, rfl⟩, ?_⟩⟩
      simp only [Native.run, Support.first, List.head?_cons, Option.getD_some, Value.attributeValues, hfs]
      rfl
  · next hm =>
    obtain ⟨hspread, hn⟩ := of_not_needMerge (Bool.not_eq_true _ ▸ hm)
    refine (separateAttributes_mean hin hsupport hc h hspread k).congr fun text => exists_congr fun es =>
      and_congr_right fun he => ?_
    rw [render_ofList (h.keys (.refl _ _) hs hspread he ▸ hn)]

end Attributes

section Children

variable {c : Config} {s₀ s t : Store} {scope : Scope}

structure NodesMean (s₀ : Store) (scope : Scope) (code : Expr) (G : List RawNode → Prop) : Prop where
  runs {s : Store} : Store.Grows none s₀ s → s.Closed → ∀ {raws : List RawNode}, G raws →
    ∃ identity vs t, Evaluates scope code s (.array identity vs) t ∧ ReadAs (Shown .raw t) (raws.map .node) vs
  shows {s t : Store} {v : Value} : Store.Grows none s₀ s → s.Closed → Evaluates scope code s v t →
    ∃ raws identity vs, G raws ∧ v = .array identity vs ∧ ReadAs (Shown .raw t) (raws.map .node) vs

lemma rawValue_of_read {v : Value} {raw : RawNode} (h : v.toNode? = some (.raw raw)) :
    ∃ i fields, v = .object i fields ∧ Entries.get? "value" fields = some (.string raw.html) := by
  cases v with
  | object i fields =>
    refine ⟨i, fields, rfl, ?_⟩
    simp only [Value.toNode?, Value.objectNode?, Value.stringField?, Option.bind_eq_bind, Option.bind_eq_some_iff] at h
    obtain ⟨kind, -, h⟩ := h
    split_ifs at h
    · simp only [Option.bind_eq_some_iff] at h
      obtain ⟨html, ⟨w, hw, hstring⟩, h⟩ := h
      obtain rfl := AnyNode.raw.inj (Option.some.inj h)
      cases w with
      | string value =>
        obtain rfl := Option.some.inj hstring
        exact hw
      | _ => cases hstring
    all_goals simp [Option.bind_eq_some_iff] at h
  | stream node => simp [Value.toNode?] at h
  | _ => simp [Value.toNode?] at h

lemma ReadAs.raw_values {raws : List RawNode} {vs : List Value} (h : ReadAs (Shown .raw t) (raws.map .node) vs) :
    List.Forall₂ (fun raw v => ∃ i fields, v = Value.object i fields ∧
      Entries.get? "value" fields = some (.string (RawNode.html raw))) raws vs := by
  rw [ReadAs, List.forall₂_map_left_iff] at h
  refine h.imp fun raw v hv => ?_
  generalize hc : v.toChild = child at hv
  cases hv with
  | node hn =>
    obtain rfl := hn
    exact rawValue_of_read (Value.toNode?_of_toChild hc)

lemma mapYields_values {raws : List RawNode} {vs : List Value} (h : List.Forall₂ (fun raw v => ∃ i fields,
      v = Value.object i fields ∧ Entries.get? "value" fields = some (.string (RawNode.html raw))) raws vs)
    (identity : Nat) (item : String) (outer : Scope) (i : Nat) (s : Store) :
    ∃ u, MapYields (.closure identity [item] (.expression (.member (.identifier item) "value")) outer) i vs s
      (raws.map fun raw => .string raw.html) u := by
  induction h generalizing i s with
  | nil => exact ⟨s, mapYields_nil.2 ⟨rfl, rfl⟩⟩
  | @cons raw v raws vs hv _ ih =>
    obtain ⟨j, fields, rfl, hfield⟩ := hv
    let s' := s.enter [(item, .object j fields)]
    have hget : s'.get? item (s.frames.size :: outer) = some (.object j fields) := by
      simp [s', Store.get?, Store.enter, Entries.get?]
    have hv : Evaluates (s.frames.size :: outer) (.member (.identifier item) "value") s' (.string raw.html) s' := by
      refine ⟨0, ?_⟩
      simp only [expression, Bind.bind, EStateM.bind, lookup_eq hget, Evaluation.property, hfield]
      rfl
    obtain ⟨u, hu⟩ := ih (i + 1) s'
    exact ⟨u, mapYields_cons.2 ⟨_, s', _, returns_closure.2 hv, hu, rfl⟩⟩

lemma itemTexts_strings (texts : List String) : Value.itemTexts (texts.map .string) = texts := by
  induction texts with
  | nil => simp only [List.map_nil, Value.itemTexts]
  | cons text texts ih => simp only [List.map_cons, Value.itemTexts, Value.text, ih]

lemma intercalate_empty (texts : List String) : "".intercalate texts = String.join texts := by
  induction texts with
  | nil => simp
  | cons text texts ih =>
    cases texts with
    | nil => simp
    | cons next texts => rw [String.intercalate_cons_cons, ih, String.append_empty, String.join_cons (s := text)]

lemma evaluates_joinValues {nodes : Expr} {k : Nat} {w : Value} :
    Evaluates scope (joinValues nodes k).1 s w t ↔ ∃ x u y u', Evaluates scope nodes s x u ∧
      Invokes x "map" [.closure u.identities [temporary 'n' (k + 1)]
        (.expression (.member (.identifier (temporary 'n' (k + 1))) "value")) scope] u.next y u' ∧
      Invokes y "join" [.string ""] u' w t := by
  have hj : (joinValues nodes k).1 = .call (.member (.call (.member nodes "map") [.single (.arrow [temporary 'n' (k + 1)]
    (.expression (.member (.identifier (temporary 'n' (k + 1))) "value")))]) "join") [.single (.string "")] := rfl
  simp only [hj, evaluates_methodCall, itemsYield_single, itemsYield_nil, evaluates_arrow, evaluates_string]
  constructor
  · rintro ⟨y, u', _, _, ⟨x, u, _, _, hx, ⟨_, _, _, ⟨rfl, rfl⟩, ⟨rfl, rfl⟩, rfl⟩, hy⟩, ⟨_, _, _, ⟨rfl, rfl⟩, ⟨rfl, rfl⟩, rfl⟩, hw⟩
    exact ⟨x, u, y, u', hx, hy, hw⟩
  · rintro ⟨x, u, y, u', hx, hy, hw⟩
    exact ⟨y, u', _, _, ⟨x, u, _, _, hx, ⟨_, _, _, ⟨rfl, rfl⟩, ⟨rfl, rfl⟩, rfl⟩, hy⟩, ⟨_, _, _, ⟨rfl, rfl⟩, ⟨rfl, rfl⟩, rfl⟩, hw⟩

lemma join_strings {identity : Nat} {raws : List RawNode} {w : Value} :
    Invokes (.array identity (raws.map fun raw => .string raw.html)) "join" [.string ""] s w t ↔
      w = .string (htmlOf raws) ∧ s = t := by
  have htexts : Value.itemTexts (raws.map fun raw => .string raw.html) = raws.map RawNode.html := by
    rw [← itemTexts_strings (raws.map RawNode.html), List.map_map]
    rfl
  rw [invokes_join, htexts]
  have hsep : separator (some (.string "")) = "" := rfl
  rw [hsep, intercalate_empty, htmlOf]

lemma joinValues_means {nodes : Expr} {G : List RawNode → Prop} (h : NodesMean s₀ scope nodes G) (k : Nat) :
    TextMeans s₀ scope (joinValues nodes k).1 fun text => ∃ raws, G raws ∧ text = htmlOf raws := by
  intro s hg hs w
  simp only [evaluates_joinValues]
  constructor
  · rintro ⟨t, x, u, y, u', hx, hy, hw⟩
    obtain ⟨raws, identity, vs, hraws, rfl, hread⟩ := h.shows hg hs hx
    obtain ⟨ws, u₁, hws, hnew⟩ := invokes_map.1 hy
    obtain ⟨u₂, hws'⟩ := mapYields_values hread.raw_values u.identities (temporary 'n' (k + 1)) scope 0 u.next
    obtain ⟨rfl, rfl⟩ := Yields.unique (mapItems_steady _ 0 vs) hws hws'
    obtain ⟨rfl, rfl⟩ := EStateM.Result.ok.inj hnew
    exact ⟨_, (join_strings.1 hw).1, raws, hraws, rfl⟩
  · rintro ⟨_, rfl, raws, hraws, rfl⟩
    obtain ⟨identity, vs, u, hx, hread⟩ := h.runs hg hs hraws
    obtain ⟨u₁, hws⟩ := mapYields_values hread.raw_values u.identities (temporary 'n' (k + 1)) scope 0 u.next
    exact ⟨_, _, u, _, _, hx, invokes_map.2 ⟨_, u₁, hws, rfl⟩, join_strings.2 ⟨rfl, rfl⟩⟩

variable {content : List Compiled} {E : List (Child RawNode) → Prop}

def FlattensTo (E : List (Child RawNode) → Prop) (raws : List RawNode) : Prop :=
  ∃ children, E children ∧ Child.flatten rawBuilder children = .ok raws

lemma normalizeChildren_nodesMean (hin : scope.In s₀) (hsupport : s₀.Supports scope c.support)
    (h : ContentMeans (Shown .raw) s₀ scope content E) :
    NodesMean s₀ scope (c.normalizeChildren .raw content) (FlattensTo E) where
  runs hg hs _ := by
    rintro ⟨children, he, hf⟩
    exact h.normalize_runs (mirrors_shown .raw) hin hsupport hg hs he hf
  shows hg hs hv := by
    obtain ⟨children, raws, identity, vs, he, hf, hv, hread⟩ := h.normalize_shows (mirrors_shown .raw) hin hsupport hg hs hv
    exact ⟨raws, identity, vs, ⟨children, he, hf⟩, hv, hread⟩

lemma flattensTo_cons {D : Child RawNode → Prop} {F : List (Child RawNode) → Prop}
    (hF : ∀ children, F children ↔ ∃ child rest, D child ∧ E rest ∧ children = child :: rest) (raws : List RawNode) :
    FlattensTo F raws ↔ ∃ child first rest, D child ∧ child.nodes rawBuilder = .ok first ∧ FlattensTo E rest ∧
      raws = first ++ rest := by
  simp only [FlattensTo, hF]
  constructor
  · rintro ⟨_, ⟨child, children, hd, he, rfl⟩, hf⟩
    simp only [Child.flatten] at hf
    obtain ⟨first, hfirst, hf⟩ := bind_eq_ok_iff.1 hf
    obtain ⟨rest, hrest, hf⟩ := bind_eq_ok_iff.1 hf
    exact ⟨child, first, rest, hd, hfirst, ⟨children, he, hrest⟩, (Except.ok.inj hf).symm⟩
  · rintro ⟨child, first, rest, hd, hfirst, ⟨children, he, hrest⟩, rfl⟩
    refine ⟨_, ⟨child, children, hd, he, rfl⟩, ?_⟩
    simp only [Child.flatten, hfirst, hrest]
    rfl

lemma Compiled.Means.raw_constant {code : Compiled} {D : Child RawNode → Prop} (h : code.Means (Shown .raw) s₀ scope D)
    {raw : RawNode} (hraw : code.raw? = some raw) :
    ∃ child, child.nodes rawBuilder = .ok [raw] ∧ ∀ ch, D ch ↔ ch = child := by
  have hshape := h.shape
  obtain ⟨expr, shape⟩ := code
  cases shape with
  | dynamic => cases hraw
  | text value =>
    obtain rfl := Option.some.inj hraw
    exact ⟨.text value, by simp only [Child.nodes], hshape⟩
  | constant node =>
    cases node with
    | structured node => cases hraw
    | raw node =>
      obtain rfl := Option.some.inj hraw
      obtain ⟨raw, hraw, hD⟩ := hshape
      obtain rfl := AnyNode.raw.inj (hraw s₀)
      exact ⟨.node node, by simp only [Child.nodes], hD⟩

lemma rawChildren_mean (hin : scope.In s₀) (hsupport : s₀.Supports scope c.support)
    (h : ContentMeans (Shown .raw) s₀ scope content E) (k : Nat) :
    SegmentsMean s₀ scope (RawElement.children c content k).1 fun text => ∃ raws, FlattensTo E raws ∧ text = htmlOf raws := by
  induction h generalizing k with
  | nil hE =>
    refine .nil fun text => ?_
    constructor
    · rintro ⟨raws, ⟨children, he, hf⟩, rfl⟩
      obtain rfl := (hE _).1 he
      obtain rfl := Except.ok.inj hf
      rfl
    · rintro rfl
      exact ⟨[], ⟨[], (hE _).2 rfl, rfl⟩, rfl⟩
  | @cons code content D E F hcode _ hF ih =>
    have hsplit (text : String) : (∃ raws, FlattensTo F raws ∧ text = htmlOf raws) ↔ ∃ a b,
        (∃ child first, D child ∧ child.nodes rawBuilder = .ok first ∧ a = htmlOf first) ∧
          (∃ rest, FlattensTo E rest ∧ b = htmlOf rest) ∧ text = a ++ b := by
      simp only [flattensTo_cons hF]
      constructor
      · rintro ⟨_, ⟨child, first, rest, hd, hfirst, hrest, rfl⟩, rfl⟩
        exact ⟨_, _, ⟨child, first, hd, hfirst, rfl⟩, ⟨rest, hrest, rfl⟩, htmlOf_append first rest⟩
      · rintro ⟨_, _, ⟨child, first, hd, hfirst, rfl⟩, ⟨rest, hrest, rfl⟩, rfl⟩
        exact ⟨_, ⟨child, first, rest, hd, hfirst, hrest, rfl⟩, (htmlOf_append first rest).symm⟩
    cases hraw : code.raw? with
    | some raw =>
      obtain ⟨child, hnodes, hD⟩ := hcode.raw_constant hraw
      simp only [RawElement.children, hraw]
      refine .cons (fun text => ?_) (ih k) hsplit
      simp only [hD]
      constructor
      · rintro ⟨_, first, rfl, hfirst, rfl⟩
        obtain rfl := Except.ok.inj (hnodes.symm.trans hfirst)
        simp [htmlOf]
      · rintro rfl
        exact ⟨child, [raw], rfl, hnodes, by simp [htmlOf]⟩
    | none =>
      simp only [RawElement.children, hraw]
      have hsingle : ContentMeans (Shown .raw) s₀ scope [code] fun children => ∃ child, D child ∧ children = [child] :=
        .cons hcode (.nil fun _ => Iff.rfl) fun children => by simp
      have hone := joinValues_means (normalizeChildren_nodesMean hin hsupport hsingle) k
      refine .cons (hone.congr fun text => ?_) (ih _) hsplit
      constructor
      · rintro ⟨raws, ⟨_, ⟨child, hd, rfl⟩, hf⟩, rfl⟩
        simp only [Child.flatten] at hf
        obtain ⟨first, hfirst, hf⟩ := bind_eq_ok_iff.1 hf
        refine ⟨child, first, hd, hfirst, ?_⟩
        rw [← Except.ok.inj hf, List.append_nil]
      · rintro ⟨child, first, hd, hfirst, rfl⟩
        refine ⟨first, ⟨_, ⟨child, hd, rfl⟩, ?_⟩, rfl⟩
        simp only [Child.flatten, hfirst, Bind.bind, Except.bind, List.append_nil]
        rfl

end Children

section Elements

variable {c : Config} {s₀ s t : Store} {scope : Scope} {codes : List AttributeCode} {content : List Compiled}
  {A : List (String × AttributeValue) → Prop} {E : List (Child RawNode) → Prop} {tag : String}

lemma single_constant (value : String) : SegmentsMean s₀ scope [.constant value] (· = value) :=
  .cons (F := (· = "")) (D := (· = value)) (fun _ => Iff.rfl) (.nil fun _ => Iff.rfl) fun text => by simp

lemma ContentMeans.element_ok {r : Representation} (h : ContentMeans (Shown r) s₀ scope content E)
    (hname : isComponentName tag = false) (hvoid : isVoidTag tag → content = []) {children : List (Child RawNode)}
    (he : E children) {raws : List RawNode} (hf : Child.flatten rawBuilder children = .ok raws) (values : AttributeValues) :
    rawBuilder.element tag values raws = .ok ⟨elementHtml tag values.normalize (htmlOf raws)⟩ := by
  rw [rawBuilder_element, h.check_ok hname hvoid he hf]
  rfl

lemma rawStatic_means (hin : scope.In s₀) (hs : s₀.Closed) (hsupport : s₀.Supports scope c.support)
    (hc : isTemporary c.support = false) (hattributes : AttributesMean s₀ scope codes A)
    (hcontent : ContentMeans (Shown .raw) s₀ scope content E) (hname : isComponentName tag = false)
    (hvoid : isVoidTag tag → content = []) (k : Nat) :
    Means (Shown .raw) s₀ scope (RawElement.static c tag codes content k).1 (ElementShows rawBuilder (· = tag) A E) := by
  let close := if isVoidTag tag then "" else "</" ++ tag ++ ">"
  have hshown := rawAttributes_mean hin hs hsupport hc hattributes k
  have hinner := rawChildren_mean hin hsupport hcontent (RawElement.attributes c codes k).2
  have htext := ((hshown.constant ("<" ++ tag)).append (hinner.constant ">")).append (single_constant close)
  refine (rawNode_means hin htext).congr fun child => ?_
  have hhtml (es : List (String × AttributeValue)) (raws : List RawNode) :
      "<" ++ tag ++ (AttributeValues.normalize (.ofList es)).render ++ (">" ++ htmlOf raws) ++ close =
        elementHtml tag (AttributeValues.normalize (.ofList es)) (htmlOf raws) := by
    simp only [elementHtml, close, String.append_assoc]
  constructor
  · rintro ⟨_, ⟨_, _, ⟨_, _, ⟨_, ⟨es, hes, rfl⟩, rfl⟩, ⟨_, ⟨raws, ⟨children, he, hf⟩, rfl⟩, rfl⟩, rfl⟩, rfl, rfl⟩, rfl⟩
    refine ⟨tag, es, children, raws, _, rfl, hes, he, hf, hcontent.element_ok hname hvoid he hf _, ?_⟩
    rw [hhtml]
  · rintro ⟨_, es, children, raws, node, rfl, hes, he, hf, hnode, rfl⟩
    obtain rfl := Except.ok.inj ((hcontent.element_ok hname hvoid he hf _).symm.trans hnode)
    rw [← hhtml]
    exact ⟨_, ⟨_, _, ⟨_, _, ⟨_, ⟨es, hes, rfl⟩, rfl⟩, ⟨_, ⟨raws, ⟨children, he, hf⟩, rfl⟩, rfl⟩, rfl⟩, rfl, rfl⟩, rfl⟩

lemma ContentMeans.static_raw {raws : List RawNode} (h : ContentMeans (Shown .raw) s₀ scope content E)
    (hraws : allSome (content.map Compiled.raw?) = some raws) :
    ∃ children, (∀ cs, E cs ↔ cs = children) ∧ Child.flatten rawBuilder children = .ok raws := by
  induction h generalizing raws with
  | nil hE =>
    obtain rfl := Option.some.inj hraws
    exact ⟨[], hE, rfl⟩
  | @cons code content D E F hcode _ hF ih =>
    cases hraw : code.raw? with
    | none => simp [allSome, hraw] at hraws
    | some raw =>
      simp only [List.map_cons, hraw, allSome, Option.map_eq_some_iff] at hraws
      obtain ⟨rest, hrest, rfl⟩ := hraws
      obtain ⟨child, hnodes, hD⟩ := hcode.raw_constant hraw
      obtain ⟨children, hE, hf⟩ := ih hrest
      refine ⟨child :: children, fun cs => ?_, ?_⟩
      · rw [hF]
        simp [hD, hE]
      · simp only [Child.flatten, hnodes, hf]
        rfl

lemma rawConstant_means (hin : scope.In s₀) (hattributes : AttributesMean s₀ scope codes A)
    (hcontent : ContentMeans (Shown .raw) s₀ scope content E) {values : AttributeValues}
    (hvalues : AttributeCode.staticValues? codes = some values) {raws : List RawNode}
    (hraws : allSome (content.map Compiled.raw?) = some raws) {node : RawNode}
    (hnode : rawBuilder.element tag values raws = .ok node) :
    Compiled.Means (Shown .raw) s₀ scope ⟨node.literal, .constant (.raw node)⟩ (ElementShows rawBuilder (· = tag) A E) := by
  obtain ⟨children, hE, hf⟩ := hcontent.static_raw hraws
  obtain ⟨entries, hentries, rfl⟩ := Option.map_eq_some_iff.1 hvalues
  have hD (child : Child RawNode) : ElementShows rawBuilder (· = tag) A E child ↔ child = .node node := by
    constructor
    · rintro ⟨_, es, _, _, _, rfl, hes, he, hf', hnode', rfl⟩
      obtain rfl := (hattributes.static hentries es).1 hes
      obtain rfl := (hE _).1 he
      obtain rfl := Except.ok.inj (hf.symm.trans hf')
      obtain rfl := Except.ok.inj (hnode.symm.trans hnode')
      rfl
    · rintro rfl
      exact ⟨tag, entries, children, raws, node, rfl, (hattributes.static hentries _).2 rfl, (hE _).2 rfl, hf, hnode, rfl⟩
  refine ⟨?_, node, fun _ => rfl, hD⟩
  have hliteral : node.literal = RawElement.node [.constant node.html] := by
    simp only [RawNode.literal, RawElement.node, RawElement.operands, RawElement.constantPart]
    split <;> simp_all [Expr.concat]
  rw [hliteral]
  refine (rawNode_means hin (single_constant node.html)).congr fun child => ?_
  rw [hD]
  simp

variable {name nodes : String} {x : Value} {identity : Nat} {vs : List Value} {raws : List RawNode}

lemma evaluates_bound (hin : scope.In s₀) {v : Value} (hname : s₀.get? name scope = some x)
    (hg : Store.Grows none s₀ s) : Evaluates scope (.identifier name) s v t ↔ v = x ∧ s = t := by
  rw [evaluates_identifier, hg.get?_eq hin, hname, Option.some.injEq, eq_comm (a := x)]

lemma identifier_spells (hin : scope.In s₀) (hname : s₀.get? name scope = some x) :
    Spells s₀ scope (.identifier name) (· = x.text) := by
  intro s hg _ text
  simp only [evaluates_bound hin hname hg]
  constructor
  · rintro rfl
    exact ⟨x, s, ⟨rfl, rfl⟩, rfl⟩
  · rintro ⟨_, _, ⟨rfl, -⟩, rfl⟩
    rfl

lemma identifier_nodesMean (hin : scope.In s₀) (hnodes : s₀.get? nodes scope = some (.array identity vs))
    (hread : ReadAs (Shown .raw s₀) (raws.map .node) vs) : NodesMean s₀ scope (.identifier nodes) (· = raws) where
  runs {s} hg _ _ := by
    rintro rfl
    exact ⟨identity, vs, s, (evaluates_bound hin hnodes hg).2 ⟨rfl, rfl⟩, hread.later (mirrors_shown .raw) hg⟩
  shows {s _ _} hg _ hv := by
    obtain ⟨rfl, rfl⟩ := (evaluates_bound hin hnodes hg).1 hv
    exact ⟨raws, identity, vs, rfl, rfl, hread.later (mirrors_shown .raw) hg⟩

lemma evaluates_checkVoid (hin : scope.In s₀) (hsupport : s₀.Supports scope c.support)
    (hname : s₀.get? name scope = some x) (hnodes : s₀.get? nodes scope = some (.array identity vs))
    (hg : Store.Grows none s₀ s) {w : Value} :
    Evaluates scope (c.callWith "checkVoid" [.identifier name, .identifier nodes]) s w t ↔
      checkTag x.text (!vs.isEmpty) = .ok () ∧ w = .bool (isVoidTag x.text) ∧ s = t := by
  refine (evaluates_support (hsupport.grow hin hg) .checkVoid).trans ?_
  have harguments (ws : List Value) (u : Store) :
      ItemsYield scope [.single (.identifier name), .single (.identifier nodes)] s ws u ↔
        ws = [x, .array identity vs] ∧ s = u := by
    simp only [itemsYield_single, itemsYield_nil, evaluates_bound hin hname hg]
    constructor
    · rintro ⟨_, _, _, ⟨rfl, rfl⟩, ⟨_, _, _, hw, ⟨rfl, rfl⟩, rfl⟩, rfl⟩
      obtain ⟨rfl, rfl⟩ := (evaluates_bound hin hnodes hg).1 hw
      exact ⟨rfl, rfl⟩
    · rintro ⟨rfl, rfl⟩
      exact ⟨_, s, _, ⟨rfl, rfl⟩, ⟨_, s, [], (evaluates_bound hin hnodes hg).2 ⟨rfl, rfl⟩, ⟨rfl, rfl⟩, rfl⟩, rfl⟩
  have hrun : Native.checkVoid.run [x, .array identity vs] s = .ok w t ↔
      checkTag x.text (!vs.isEmpty) = .ok () ∧ w = .bool (isVoidTag x.text) ∧ s = t := by
    refine run_bind_eq_ok.trans ?_
    simp only [ofExcept_eq_ok]
    constructor
    · rintro ⟨_, _, ⟨hcheck, rfl⟩, hw⟩
      obtain ⟨rfl, rfl⟩ := EStateM.Result.ok.inj hw
      exact ⟨hcheck, rfl, rfl⟩
    · rintro ⟨hcheck, rfl, rfl⟩
      exact ⟨(), s, ⟨hcheck, rfl⟩, rfl⟩
  constructor
  · rintro ⟨ws, u, hws, hw⟩
    obtain ⟨rfl, rfl⟩ := (harguments ws u).1 hws
    exact hrun.1 hw
  · intro h
    exact ⟨_, s, (harguments _ s).2 ⟨rfl, rfl⟩, hrun.2 h⟩

lemma checkedClose_means (hin : scope.In s₀) (hsupport : s₀.Supports scope c.support)
    (hname : s₀.get? name scope = some x) (hnodes : s₀.get? nodes scope = some (.array identity vs))
    (hread : ReadAs (Shown .raw s₀) (raws.map .node) vs) (k : Nat) :
    TextMeans s₀ scope (.conditional (c.callWith "checkVoid" [.identifier name, .identifier nodes]) (.string "")
      (.concat [(joinValues (.identifier nodes) k).1, .string "</", .identifier name, .string ">"]))
      fun text => checkTag x.text (!raws.isEmpty) = .ok () ∧
        text = htmlOf raws ++ if isVoidTag x.text then "" else "</" ++ x.text ++ ">" := by
  have hempty : vs.isEmpty = raws.isEmpty := by
    have hlength := List.Forall₂.length_eq hread
    cases raws <;> cases vs <;> simp_all
  have hjoined := joinValues_means (identifier_nodesMean hin hnodes hread) k
  have hclose : TextMeans s₀ scope
      (.concat [(joinValues (.identifier nodes) k).1, .string "</", .identifier name, .string ">"]) _ :=
    ((hjoined.add hin (string_means "</").spells).add hin (identifier_spells hin hname)).add hin (string_means ">").spells
  intro s hg hs v
  simp only [evaluates_conditional, evaluates_checkVoid hin hsupport hname hnodes hg, hempty]
  cases hvoid : isVoidTag x.text with
  | true =>
    constructor
    · rintro ⟨t, _, _, ⟨hcheck, rfl, rfl⟩, hv⟩
      obtain ⟨rfl, -⟩ := evaluates_string.1 hv
      obtain rfl := nil_of_void hcheck hvoid
      exact ⟨"", rfl, hcheck, by simp [htmlOf]⟩
    · rintro ⟨_, rfl, hcheck, rfl⟩
      obtain rfl := nil_of_void hcheck hvoid
      exact ⟨s, _, s, ⟨hcheck, rfl, rfl⟩, evaluates_string.2 ⟨by simp [htmlOf], rfl⟩⟩
  | false =>
    constructor
    · rintro ⟨t, _, _, ⟨hcheck, rfl, rfl⟩, hv⟩
      obtain ⟨_, rfl, _, _, ⟨_, _, ⟨_, _, ⟨_, rfl, rfl⟩, rfl, rfl⟩, rfl, rfl⟩, rfl, rfl⟩ := (hclose s hg hs v).1 ⟨t, hv⟩
      exact ⟨_, rfl, hcheck, by simp [String.append_assoc]⟩
    · rintro ⟨_, rfl, hcheck, rfl⟩
      obtain ⟨t, hv⟩ := (hclose s hg hs _).2
        ⟨_, rfl, _, _, ⟨_, _, ⟨_, _, ⟨_, rfl, rfl⟩, rfl, rfl⟩, rfl, rfl⟩, rfl, rfl⟩
      refine ⟨t, _, s, ⟨hcheck, rfl, rfl⟩, ?_⟩
      simpa [String.append_assoc, Value.isTruthy] using hv

def RawElement.computedBody (c : Config) (name nodes : String) (shown : List Segment) (k : Nat) : Expr :=
  node (.constant "<" :: .computed (.identifier name) :: shown ++ [.constant ">", .computed
    (.conditional (c.callWith "checkVoid" [.identifier name, .identifier nodes]) (.string "")
      (.concat [(joinValues (.identifier nodes) k).1, .string "</", .identifier name, .string ">"]))])

lemma computedBody_means (hin : scope.In s₀) (hs : s₀.Closed) (hsupport : s₀.Supports scope c.support)
    (hc : isTemporary c.support = false) (hname : s₀.get? name scope = some x)
    (hnodes : s₀.get? nodes scope = some (.array identity vs)) (hread : ReadAs (Shown .raw s₀) (raws.map .node) vs)
    (hattributes : AttributesMean s₀ scope codes A) (k k' : Nat) :
    Means (Shown .raw) s₀ scope (RawElement.computedBody c name nodes (RawElement.attributes c codes k).1 k')
      fun child => ∃ es node, A es ∧ rawBuilder.element x.text (.ofList es) raws = .ok node ∧ child = .node node := by
  have hshown := rawAttributes_mean hin hs hsupport hc hattributes k
  have hclose := checkedClose_means hin hsupport hname hnodes hread k'
  have hempty : SegmentsMean s₀ scope [] (· = "") := .nil fun _ => Iff.rfl
  have hend := (hempty.computed hclose).constant ">"
  -- The tag stands after a text, so what it is bound to need not be a text itself.
  have hopen := (string_means "<").add hin (identifier_spells hin hname)
  have htext := ((hshown.append hend).operands "").foldl hin hopen
  refine (rawObject_means htext).congr fun child => ?_
  have hhtml (es : List (String × AttributeValue)) :
      "<" ++ x.text ++ ("" ++ ((AttributeValues.normalize (.ofList es)).render ++
        (">" ++ ((htmlOf raws ++ if isVoidTag x.text then "" else "</" ++ x.text ++ ">") ++ "")))) =
        elementHtml x.text (AttributeValues.normalize (.ofList es)) (htmlOf raws) := by
    simp only [elementHtml, String.append_empty, String.empty_append, String.append_assoc]
  simp only [rawBuilder_element]
  constructor
  · rintro ⟨_, ⟨_, _, ⟨_, _, rfl, rfl, rfl⟩, ⟨_, ⟨_, _, ⟨es, hes, rfl⟩, ⟨_, ⟨_, _, ⟨hcheck, rfl⟩, rfl, rfl⟩, rfl⟩, rfl⟩,
      rfl⟩, rfl⟩, rfl⟩
    rw [hhtml, hcheck]
    exact ⟨es, _, hes, rfl, rfl⟩
  · rintro ⟨es, node, hes, hnode, rfl⟩
    cases hcheck : checkTag x.text (!raws.isEmpty) with
    | error fault => simp [hcheck, Except.map] at hnode
    | ok _ =>
      rw [hcheck] at hnode
      obtain rfl := Except.ok.inj hnode
      refine ⟨_, ⟨_, _, ⟨_, _, rfl, rfl, rfl⟩, ⟨_, ⟨_, _, ⟨es, hes, rfl⟩, ⟨_, ⟨_, _, ⟨rfl, rfl⟩, rfl, rfl⟩, rfl⟩, rfl⟩,
        rfl⟩, rfl⟩, ?_⟩
      rw [hhtml]
      rfl

def AttributesMeanInside (s₀ : Store) (scope : Scope) (codes : List AttributeCode)
    (A : List (String × AttributeValue) → Prop) : Prop :=
  ∀ s bindings, Store.Grows none s₀ s → (s.enter bindings).Closed → (∀ b ∈ bindings, isTemporary b.1 = true) →
    AttributesMean (s.enter bindings) (s.frames.size :: scope) codes A

lemma computedBody_inside (hin : scope.In s₀) (hsupport : s₀.Supports scope c.support) (hc : isTemporary c.support = false)
    (hattributes : AttributesMeanInside s₀ scope codes A) (hg : Store.Grows none s₀ s) (hs : s.Closed)
    (hvs : Value.Match (.same s) (.array identity vs) (.array identity vs)) (hread : ReadAs (Shown .raw s) (raws.map .node) vs)
    (hx : x.In s) (i j k k' : Nat) :
    Means (Shown .raw) (s.enter [(temporary 't' i, x), (temporary 'c' j, .array identity vs)]) (s.frames.size :: scope)
      (RawElement.computedBody c (temporary 't' i) (temporary 'c' j) (RawElement.attributes c codes k).1 k')
      fun child => ∃ es node, A es ∧ rawBuilder.element x.text (.ofList es) raws = .ok node ∧ child = .node node := by
  have hin' := hin.grow hg
  have hne : temporary 't' i ≠ temporary 'c' j := temporary_ne (by decide) _ _
  have hclosed := hs.enter (.cons (.mk (temporary 't' i) hx) (.cons (.mk (temporary 'c' j) hvs) .nil))
  have htemporary : ∀ b ∈ [(temporary 't' i, x), (temporary 'c' j, .array identity vs)],
      isTemporary b.1 = true := by
    simp [isTemporary_temporary]
  have hsupport' := (hsupport.grow hin hg).enter hin' hc htemporary
  have hname : (s.enter _).get? (temporary 't' i) (s.frames.size :: scope) = some x :=
    (Store.get?_enter hin' [(temporary 't' i, x), (temporary 'c' j, .array identity vs)] _).trans
      (by simp [Entries.get?])
  have hnodes : (s.enter _).get? (temporary 'c' j) (s.frames.size :: scope) = some (.array identity vs) :=
    (Store.get?_enter hin' [(temporary 't' i, x), (temporary 'c' j, .array identity vs)] _).trans
      (by simp [Entries.get?, hne])
  exact computedBody_means (hin'.enter _) hclosed hsupport' hc hname hnodes (hread.later (mirrors_shown .raw) (s.enter_grows _))
    (hattributes s _ hg hclosed htemporary) k k'

lemma rawComputed_means {tag : Expr} {N : String → Prop} (hin : scope.In s₀) (hsupport : s₀.Supports scope c.support)
    (hc : isTemporary c.support = false) (htag : Spells s₀ scope tag N)
    (hattributes : AttributesMeanInside s₀ scope codes A) (hcontent : ContentMeans (Shown .raw) s₀ scope content E) (k : Nat) :
    Means (Shown .raw) s₀ scope (RawElement.computed c tag codes content k).1 (ElementShows rawBuilder N A E) := by
  let shown := RawElement.attributes c codes (k + 1)
  have hcode : (RawElement.computed c tag codes content k).1 = bindNames
      [(temporary 't' (k + 1), tag), (temporary 'c' (shown.2 + 1), c.normalizeChildren .raw content)]
      (.expression (RawElement.computedBody c (temporary 't' (k + 1)) (temporary 'c' (shown.2 + 1)) shown.1 (shown.2 + 1))) :=
    rfl
  have hne : temporary 't' (k + 1) ≠ temporary 'c' (shown.2 + 1) := temporary_ne (by decide) _ _
  rw [hcode]
  constructor
  · rintro s hg hs _ ⟨_, es, children, raws, node, hn, hes, he, hf, hnode, rfl⟩
    have hg' := hg.trans s.next_grows
    obtain ⟨x, u, hx, rfl⟩ := (htag s.next hg' hs.next _).1 hn
    obtain ⟨hu, hxin⟩ := hx.closed hs.next (hin.grow hg')
    obtain ⟨identity, vs, u', hw, hread⟩ := hcontent.normalize_runs (mirrors_shown .raw) hin hsupport (hg'.trans hx.grows) hu he hf
    obtain ⟨hu', hvs⟩ := hw.closed hu (hin.grow (hg'.trans hx.grows))
    have hxin' := hxin.mono (Pairing.same_le hw.grows)
    have hbody := computedBody_inside hin hsupport hc hattributes ((hg'.trans hx.grows).trans hw.grows) hu' hvs hread hxin'
      (k + 1) (shown.2 + 1) (k + 1) (shown.2 + 1)
    obtain ⟨v, t, hv, hshown⟩ := hbody.runs (.refl _ _) (hu'.enter (.cons (.mk _ hxin') (.cons (.mk _ hvs) .nil)))
      ⟨es, node, hes, hnode, rfl⟩
    exact ⟨v, t, (evaluates_bindTwo hne).2 ⟨_, u, _, u', hx, hw, hv⟩, hshown⟩
  · intro s t v hg hs hv
    have hg' := hg.trans s.next_grows
    obtain ⟨x, u, w, u', hx, hw, hv⟩ := (evaluates_bindTwo hne).1 hv
    have hn := (htag s.next hg' hs.next _).2 ⟨x, u, hx, rfl⟩
    obtain ⟨hu, hxin⟩ := hx.closed hs.next (hin.grow hg')
    obtain ⟨children, raws, identity, vs, he, hf, rfl, hread⟩ :=
      hcontent.normalize_shows (mirrors_shown .raw) hin hsupport (hg'.trans hx.grows) hu hw
    obtain ⟨hu', hvs⟩ := hw.closed hu (hin.grow (hg'.trans hx.grows))
    have hxin' := hxin.mono (Pairing.same_le hw.grows)
    have hbody := computedBody_inside hin hsupport hc hattributes ((hg'.trans hx.grows).trans hw.grows) hu' hvs hread hxin'
      (k + 1) (shown.2 + 1) (k + 1) (shown.2 + 1)
    obtain ⟨_, es, node, hes, hnode, rfl⟩ := hbody.shows (.refl _ _)
      (hu'.enter (.cons (.mk _ hxin') (.cons (.mk _ hvs) .nil))) hv
    exact ⟨_, x.text, es, children, raws, node, hn, hes, he, hf, hnode, rfl⟩

end Elements

end TemplateScript
