import TemplateScript.Proofs.Document.Attributes

/-!
Adding attributes and children to a tree twice. The tree is normalized after each step: adding at once gives the same
attributes, but not always in the same order, since a value that was taken away and is given again goes to the end.
-/

namespace TemplateScript

namespace Entries

variable {α β : Type}

lemma set_set_self (key : String) (v w : α) (es : List (String × α)) : set key w (set key v es) = set key w es := by
  induction es with
  | nil => simp [set]
  | cons e es ih => grind [set]

lemma set_set_of_mem {key other : String} (hne : key ≠ other) (v w : α) {es : List (String × α)} (h : key ∈ keys es) :
    set key v (set other w es) = set other w (set key v es) := by
  induction es with
  | nil => simp [keys] at h
  | cons e es ih =>
    obtain ⟨k, x⟩ := e
    by_cases hk : k = key
    · simp [set, hk, hne]
    · have hm : key ∈ keys es := by simpa [keys, Ne.symm hk] using h
      by_cases ho : k = other
      · simp [set, ho, Ne.symm hne]
      · simp [set, hk, ho, ih hm]

lemma setAll_cons (es new : List (String × α)) (key : String) (v : α) :
    setAll es ((key, v) :: new) = setAll (set key v es) new := rfl

lemma set_setAll_of_mem {key : String} (v : α) {es new : List (String × α)} (h : key ∈ keys es)
    (hn : key ∉ keys new) : set key v (setAll es new) = setAll (set key v es) new := by
  induction new generalizing es with
  | nil => rfl
  | cons e new ih =>
    obtain ⟨k, w⟩ := e
    simp only [keys, List.map_cons, List.mem_cons, not_or] at hn
    rw [setAll_cons, setAll_cons, ih (mem_keys_set.2 (.inl h)) hn.2, set_set_of_mem hn.1 v w h]

lemma setAll_set (key : String) (v : α) (es : List (String × α)) {new : List (String × α)} (h : (keys new).Nodup) :
    setAll es (set key v new) = set key v (setAll es new) := by
  induction new generalizing es with
  | nil => rfl
  | cons e new ih =>
    obtain ⟨k, w⟩ := e
    have hc := List.nodup_cons.1 h
    by_cases hk : k = key
    · subst hk
      have hm : k ∈ keys (set k w es) := mem_keys_set.2 (.inr rfl)
      rw [set, if_pos rfl, setAll_cons, setAll_cons, set_setAll_of_mem v hm hc.1, set_set_self]
    · rw [set, if_neg hk, setAll_cons, setAll_cons, ih _ hc.2]

lemma setAll_setAll (es : List (String × α)) {new : List (String × α)} (h : (keys new).Nodup)
    (newer : List (String × α)) : setAll (setAll es new) newer = setAll es (setAll new newer) := by
  induction newer generalizing new with
  | nil => rfl
  | cons e newer ih => rw [setAll_cons, setAll_cons, ← setAll_set _ _ _ h, ih (nodup_set h)]

lemma get?_eq_none_iff {key : String} {es : List (String × α)} : get? key es = none ↔ key ∉ keys es := by
  induction es with
  | nil => simp [get?, keys]
  | cons e es ih =>
    simp only [keys] at ih
    simp only [get?, keys, List.map_cons, List.mem_cons, not_or]
    split
    · next he => simp [he]
    · next he => simp [ih, Ne.symm he]

lemma mem_of_get? {key : String} {value : α} {es : List (String × α)} (h : get? key es = some value) :
    (key, value) ∈ es := by
  induction es with
  | nil => simp [get?] at h
  | cons e es ih => grind [get?]

lemma get?_setAll (key : String) (es : List (String × α)) {new : List (String × α)} (h : (keys new).Nodup) :
    get? key (setAll es new) = (get? key new).or (get? key es) := by
  induction new generalizing es with
  | nil => simp [setAll, get?]
  | cons e new ih =>
    obtain ⟨k, v⟩ := e
    have hc := List.nodup_cons.1 h
    rw [setAll_cons, ih _ hc.2, get?_set, get?]
    split
    · next hk =>
      subst hk
      rw [get?_eq_none_iff.2 hc.1]
      rfl
    · rfl

variable (f : α → Option β)

lemma get?_choose (key : String) {es : List (String × α)} (h : (keys es).Nodup) :
    get? key (choose f es) = (get? key es).bind f := by
  induction es with
  | nil => rfl
  | cons e es ih =>
    obtain ⟨k, v⟩ := e
    have hc := List.nodup_cons.1 h
    have hrest (hk : k = key) : get? key (choose f es) = none := by
      rw [ih hc.2, get?_eq_none_iff.2 (hk ▸ hc.1)]
      rfl
    cases hv : f v with
    | none =>
      by_cases hk : k = key
      · simp [choose, hv, get?, hk, hrest hk]
      · simp [choose, hv, get?, hk, ih hc.2]
    | some w =>
      by_cases hk : k = key
      · simp [choose, hv, get?, hk]
      · simp [choose, hv, get?, hk, ih hc.2]

lemma erase_of_not_mem {key : String} {es : List (String × α)} (h : key ∉ keys es) : erase key es = es := by
  rw [erase, List.filter_eq_self]
  intro e he
  simp only [decide_eq_true_eq]
  rintro rfl
  exact h (List.mem_map.2 ⟨e, he, rfl⟩)

lemma erase_cons_self (key : String) (value : α) (es : List (String × α)) :
    erase key ((key, value) :: es) = erase key es := by
  simp [erase]

def change (key : String) (value : α) (es : List (String × β)) : List (String × β) :=
  match f value with
  | some w => set key w es
  | none => erase key es

lemma choose_set {key : String} {value : α} {es : List (String × α)} (h : (keys es).Nodup)
    (hk : ∀ v, get? key es = some v → f v = none → f value = none) :
    choose f (set key value es) = change f key value (choose f es) := by
  induction es with
  | nil => cases hv : f value <;> simp [set, choose, change, hv, erase]
  | cons e es ih =>
    obtain ⟨k, v⟩ := e
    have hc := List.nodup_cons.1 h
    by_cases he : k = key
    · subst he
      have hm : k ∉ keys (choose f es) := fun hm => hc.1 ((keys_choose_sublist f es).subset hm)
      have hold := hk v (by simp [get?])
      cases hv : f value with
      | none =>
        have herase : erase k (choose f es) = choose f es := erase_of_not_mem hm
        cases hw : f v with
        | none => simp only [set, choose, change, hv, hw, if_true, herase]
        | some w => simp only [set, choose, change, hv, hw, if_true, erase_cons_self, herase]
      | some w =>
        cases hw : f v with
        | none => simp [hold hw] at hv
        | some w' => simp [set, choose, change, hv, hw]
    · have hrest := ih hc.2 fun v hv => hk v (by simpa [get?, he] using hv)
      cases hw : f v with
      | none => simp [set, choose, he, hw, hrest]
      | some w =>
        simp only [set, choose, he, if_false, hw, hrest, change]
        cases f value with
        | none => simp [erase, he]
        | some w => simp

lemma choose_setAll {es new : List (String × α)} (hes : (keys es).Nodup) (hnew : (keys new).Nodup)
    (hk : ∀ key v w, get? key es = some v → f v = none → get? key new = some w → f w = none) :
    choose f (setAll es new) = new.foldl (fun left e => change f e.1 e.2 left) (choose f es) := by
  induction new generalizing es with
  | nil => rfl
  | cons e new ih =>
    obtain ⟨k, w⟩ := e
    have hc := List.nodup_cons.1 hnew
    have hfirst : ∀ v, get? k es = some v → f v = none → f w = none :=
      fun v hv hn => hk k v w hv hn (by simp [get?])
    rw [setAll_cons, ih (nodup_set hes) hc.2, List.foldl_cons, choose_set f hes hfirst]
    intro key v x hv hn hx
    have hne : k ≠ key := by
      rintro rfl
      rw [get?_eq_none_iff.2 hc.1] at hx
      cases hx
    refine hk key v x ?_ hn ?_
    · simpa [get?_set, hne] using hv
    · simpa [get?, hne] using hx

end Entries

lemma OrderedMap.setAll_setAll {α : Type} (m new newer : OrderedMap α) :
    (m.setAll new).setAll newer = m.setAll (new.setAll newer) :=
  OrderedMap.ext (Entries.setAll_setAll m.entries new.nodup newer.entries)

lemma Child.flatten_append {N : Type} (b : Builder N) (xs ys : List (Child N)) : Child.flatten b (xs ++ ys) = (do
    let first ← Child.flatten b xs
    let rest ← Child.flatten b ys
    return first ++ rest) := by
  induction xs with
  | nil =>
    simp only [List.nil_append, Child.flatten]
    cases Child.flatten b ys <;> rfl
  | cons x xs ih =>
    simp only [List.cons_append, Child.flatten, ih]
    cases x.nodes b with
    | error fault => rfl
    | ok first =>
      cases Child.flatten b xs with
      | error fault => rfl
      | ok rest =>
        cases Child.flatten b ys with
        | error fault => rfl
        | ok others => exact congrArg Except.ok (List.append_assoc first rest others).symm

section Trees

namespace AttributeValues

/-- No attribute that the first values take away is given again by the others. -/
def KeepsAway (values values' : AttributeValues) : Prop :=
  ∀ e ∈ values.entries, e.2.normalize = none → ∀ e' ∈ values'.entries, e'.1 = e.1 → e'.2.normalize = none

instance (values values' : AttributeValues) : Decidable (values.KeepsAway values') :=
  inferInstanceAs (Decidable (∀ e ∈ values.entries, _))

end AttributeValues

namespace Attributes

lemma get?_normalize (values : AttributeValues) (name : String) :
    values.normalize.get? name = (values.get? name).bind AttributeValue.normalize :=
  Entries.get?_choose _ name values.nodup

lemma get?_merge (attributes : Attributes) (extra : AttributeValues) (name : String) :
    (attributes.merge extra).get? name = (extra.get? name).or (attributes.values.get? name) :=
  Entries.get?_setAll name attributes.values.entries extra.nodup

lemma get?_merge_merge (attributes : Attributes) (values values' : AttributeValues) (name : String) :
    (((attributes.merge values).normalize.merge values').normalize).get? name =
      ((attributes.merge (values.setAll values')).normalize).get? name := by
  have hs : (values.setAll values').get? name = (values'.get? name).or (values.get? name) :=
    Entries.get?_setAll name values.entries values'.nodup
  have hv : ((attributes.merge values).normalize.values.get? name).bind AttributeValue.normalize =
      ((attributes.merge values).get? name).bind AttributeValue.normalize := by
    rw [← get?_normalize, normalize_values, get?_normalize]
  simp only [get?_normalize, get?_merge, hs] at hv ⊢
  cases values'.get? name with
  | some w => rfl
  | none => simpa using hv

lemma get?_values (attributes : Attributes) (name : String) :
    attributes.values.get? name = (attributes.get? name).map Attribute.value :=
  (Entries.get?_choose _ name attributes.nodup).trans Option.map_eq_bind.symm

lemma normalize_ne_none {attributes : Attributes} {name : String} {v : AttributeValue}
    (h : attributes.values.get? name = some v) : v.normalize ≠ none := by
  rw [get?_values, Option.map_eq_some_iff] at h
  obtain ⟨a, -, rfl⟩ := h
  simp [Attribute.normalize_value]

lemma merge_merge {values values' : AttributeValues} (h : values.KeepsAway values') (attributes : Attributes) :
    ((attributes.merge values).normalize.merge values').normalize =
      (attributes.merge (values.setAll values')).normalize := by
  have honce : attributes.merge (values.setAll values') = (attributes.merge values).setAll values' :=
    (OrderedMap.setAll_setAll attributes.values values values').symm
  have hsame : Entries.choose AttributeValue.normalize (attributes.merge values).normalize.values.entries =
      Entries.choose AttributeValue.normalize (attributes.merge values).entries :=
    congrArg OrderedMap.entries (normalize_values (attributes.merge values).normalize)
  apply OrderedMap.ext
  rw [honce]
  refine (Entries.choose_setAll _ (OrderedMap.nodup _) values'.nodup ?_).trans ?_
  · intro name v w hv hn _
    exact absurd hn (normalize_ne_none hv)
  · rw [hsame]
    refine (Entries.choose_setAll _ (OrderedMap.nodup _) values'.nodup ?_).symm
    intro name v w hv hn hw
    have hv' := (get?_merge attributes values name).symm.trans hv
    cases hx : values.get? name with
    | none =>
      rw [hx, Option.none_or] at hv'
      exact absurd hn (normalize_ne_none hv')
    | some x =>
      rw [hx, Option.some_or] at hv'
      obtain rfl := Option.some.inj hv'
      exact h _ (Entries.mem_of_get? hx) hn _ (Entries.mem_of_get? hw) rfl

end Attributes

namespace Node

lemma addItems_element {tag : String} (hvoid : isVoidTag tag = false) (attributes : Attributes) (own : List Node)
    (values : AttributeValues) {children : List (Child Node)} {nodes : List Node}
    (h : Child.flatten structuredBuilder children = .ok nodes) :
    (Node.element tag attributes own).addItems values children =
      .ok (.element tag (attributes.merge values).normalize (own ++ nodes)) := by
  simp only [addItems, hvoid, h]
  rfl

/-- Adding attributes and children to an element step by step or at once makes elements that have the same children
and agree in every attribute. They are the same element, with the same text, if no attribute comes back that was
taken away. -/
theorem addItems_addItems {tag : String} (hvoid : isVoidTag tag = false) (attributes : Attributes) (own : List Node)
    (values values' : AttributeValues) {children children' : List (Child Node)} {nodes nodes' : List Node}
    (h : Child.flatten structuredBuilder children = .ok nodes)
    (h' : Child.flatten structuredBuilder children' = .ok nodes') :
    ∃ left right : Attributes,
      (do (← (Node.element tag attributes own).addItems values children).addItems values' children') =
        .ok (.element tag left (own ++ nodes ++ nodes')) ∧
      (Node.element tag attributes own).addItems (values.setAll values') (children ++ children') =
        .ok (.element tag right (own ++ nodes ++ nodes')) ∧
      (∀ name, left.get? name = right.get? name) ∧
      (values.KeepsAway values' → left = right ∧
        (Node.element tag left (own ++ nodes ++ nodes')).toHtml =
          (Node.element tag right (own ++ nodes ++ nodes')).toHtml) := by
  have hall : Child.flatten structuredBuilder (children ++ children') = .ok (nodes ++ nodes') := by
    rw [Child.flatten_append, h, h']
    rfl
  refine ⟨_, _, ?_, ?_, attributes.get?_merge_merge values values', fun hk => ?_⟩
  · rw [addItems_element hvoid attributes own values h]
    exact addItems_element hvoid _ _ values' h'
  · rw [addItems_element hvoid attributes own _ hall, List.append_assoc]
  · have hsame := attributes.merge_merge hk
    exact ⟨hsame, by rw [hsame]⟩

theorem addItems_addItems_paragraph :
    let values : AttributeValues := ⟨[("title", .null), ("id", .string "v")], by decide⟩
    let values' : AttributeValues := ⟨[("id", .bool false), ("title", .undefined), ("hidden", .bool true)], by decide⟩
    let node : Node := .element "p" ⟨[("title", .text "t"), ("id", .text "u")], by decide⟩ [.text "a"]
    values.KeepsAway values' ∧ ∃ both : Attributes,
      (do (← node.addItems values [.text "b"]).addItems values' [.list [.absent, .text "c"]]) =
        .ok (.element "p" both [.text "a", .text "b", .text "c"]) ∧
      node.addItems (values.setAll values') [.text "b", .list [.absent, .text "c"]] =
        .ok (.element "p" both [.text "a", .text "b", .text "c"]) := by
  intro values values' node
  have hk : values.KeepsAway values' := by decide
  have hb : Child.flatten structuredBuilder [.text "b"] = .ok [.text "b"] := rfl
  have hc : Child.flatten structuredBuilder [.list [.absent, .text "c"]] = .ok [.text "c"] := rfl
  obtain ⟨left, right, hl, hr, -, hs⟩ := addItems_addItems (show isVoidTag "p" = false by decide)
    ⟨[("title", .text "t"), ("id", .text "u")], by decide⟩ [.text "a"] values values' hb hc
  obtain ⟨rfl, -⟩ := hs hk
  exact ⟨hk, left, hl, hr⟩

/-- An attribute that is taken away and given again goes to the end, while it keeps its place when both are done at
once. -/
theorem addItems_moves_returning_attribute :
    let values : AttributeValues := ⟨[("x", .null)], by decide⟩
    let values' : AttributeValues := ⟨[("x", .string "3")], by decide⟩
    let node : Node := .element "p" ⟨[("x", .text "1"), ("y", .text "2")], by decide⟩ []
    (do (← (← node.addItems values []).addItems values' []).toHtml) = .ok "<p y=\"2\" x=\"3\"></p>" ∧
      (do (← node.addItems (values.setAll values') []).toHtml) = .ok "<p x=\"3\" y=\"2\"></p>" := by
  decide +kernel

end Node

end Trees

end TemplateScript
