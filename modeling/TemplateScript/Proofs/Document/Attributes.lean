import Mathlib.Tactic.Common
import TemplateScript.Evaluation.Conversion

namespace TemplateScript

namespace Entries

variable {α β γ : Type}

lemma choose_choose (f : α → Option β) (g : β → Option γ) (es : List (String × α)) :
    choose g (choose f es) = choose (fun v => (f v).bind g) es := by
  induction es with
  | nil => rfl
  | cons e es ih =>
    obtain ⟨k, v⟩ := e
    cases hv : f v with
    | none => simpa [choose, hv] using ih
    | some w => cases hw : g w <;> simpa [choose, hv, hw] using ih

lemma choose_some (es : List (String × α)) : choose some es = es := by
  induction es with
  | nil => rfl
  | cons e es ih => simp [choose, ih]

def mapValues (f : α → β) (es : List (String × α)) : List (String × β) := es.map fun e => (e.1, f e.2)

lemma choose_some_comp (f : α → β) (es : List (String × α)) : choose (fun v => some (f v)) es = mapValues f es := by
  induction es with
  | nil => rfl
  | cons e es ih => simpa [choose, mapValues] using ih

@[simp]
lemma keys_mapValues (f : α → β) (es : List (String × α)) : keys (mapValues f es) = keys es := by
  simp [keys, mapValues, Function.comp_def]

lemma mapValues_mapValues (f : α → β) (g : β → γ) (es : List (String × α)) :
    mapValues g (mapValues f es) = mapValues (fun v => g (f v)) es := by
  simp [mapValues, Function.comp_def]

lemma mapValues_set (f : α → β) (key : String) (value : α) (es : List (String × α)) :
    mapValues f (set key value es) = set key (f value) (mapValues f es) := by
  induction es with
  | nil => rfl
  | cons e es ih =>
    simp only [mapValues, set, List.map_cons] at ih ⊢
    split
    · rfl
    · rw [List.map_cons, ih]

lemma mapValues_setAll (f : α → β) (es new : List (String × α)) :
    mapValues f (setAll es new) = setAll (mapValues f es) (mapValues f new) := by
  induction new generalizing es with
  | nil => rfl
  | cons e new ih => exact (ih _).trans (by rw [mapValues_set]; rfl)

lemma set_of_not_mem {key : String} (value : α) {es : List (String × α)} (h : key ∉ keys es) :
    set key value es = es ++ [(key, value)] := by
  induction es with
  | nil => rfl
  | cons e es ih =>
    simp only [keys, List.map_cons, List.mem_cons, not_or] at h
    simp only [set, if_neg (Ne.symm h.1), ih h.2, List.cons_append]

lemma get?_set (name key : String) (value : α) (es : List (String × α)) :
    get? name (set key value es) = if key = name then some value else get? name es := by
  induction es with
  | nil => simp [set, get?]
  | cons e es ih => grind [set, get?]

lemma setAll_of_nodup {es new : List (String × α)} (h : (keys (es ++ new)).Nodup) : setAll es new = es ++ new := by
  induction new generalizing es with
  | nil => simp [setAll]
  | cons e new ih =>
    obtain ⟨k, v⟩ := e
    have hk : k ∉ keys es := by
      simp only [keys, List.map_append, List.map_cons] at h ⊢
      exact fun hm => (List.nodup_append.1 h).2.2 k hm k List.mem_cons_self rfl
    have hs : setAll es ((k, v) :: new) = setAll (es ++ [(k, v)]) new := by
      rw [← set_of_not_mem v hk]
      rfl
    rw [hs, ih (by simpa using h)]
    simp

lemma setAll_nil_of_nodup {es : List (String × α)} (h : (keys es).Nodup) : setAll [] es = es :=
  setAll_of_nodup h

lemma get?_of_mem {es : List (String × α)} (h : (keys es).Nodup) {key : String} {value : α}
    (hm : (key, value) ∈ es) : get? key es = some value := by
  induction es with
  | nil => simp at hm
  | cons e es ih =>
    obtain ⟨k, v⟩ := e
    have hc := List.nodup_cons.1 h
    rcases List.mem_cons.1 hm with he | hm
    · obtain ⟨rfl, rfl⟩ := Prod.mk.injEq .. ▸ he
      simp [get?]
    · have hk : k ≠ key := by
        rintro rfl
        exact hc.1 (List.mem_map.2 ⟨_, hm, rfl⟩)
      simpa [get?, hk] using ih hc.2 hm

end Entries

lemma OrderedMap.ext {α : Type} {m n : OrderedMap α} (h : m.entries = n.entries) : m = n := by
  obtain ⟨_, _⟩ := m
  obtain ⟨_, _⟩ := n
  cases h
  rfl

lemma Attributes.normalize_values (attributes : Attributes) : attributes.values.normalize = attributes := by
  apply OrderedMap.ext
  change Entries.choose AttributeValue.normalize
    (Entries.choose (fun a => some a.value) attributes.entries) = attributes.entries
  rw [Entries.choose_choose]
  simp only [Option.bind_some, Attribute.normalize_value, Entries.choose_some]

lemma Attribute.toAttributeValue_toValue (a : Attribute) : a.toValue.toAttributeValue = a.value := by
  cases a <;> rfl

lemma AttributeValue.toAttributeValue_toValue (v : AttributeValue) : v.toValue.toAttributeValue = v := by
  cases v <;> rfl

namespace Value

lemma toAttributeValues_eq (fields : List (String × Value)) :
    toAttributeValues fields = .ofList (Entries.mapValues toAttributeValue fields) := rfl

lemma toAttributeValues_setAll (fields : List (String × Value)) :
    toAttributeValues (Entries.setAll [] fields) = toAttributeValues fields := by
  apply OrderedMap.ext
  have hn : (Entries.keys (Entries.setAll [] (Entries.mapValues toAttributeValue fields))).Nodup :=
    Entries.nodup_setAll .nil
  rw [toAttributeValues_eq, Entries.mapValues_setAll]
  exact Entries.setAll_nil_of_nodup hn

lemma toAttributeValues_merge (attributes : Attributes) (extra : AttributeValues) :
    toAttributeValues (Entries.setAll (Entries.setAll [] (Entries.mapValues Attribute.toValue attributes.entries))
      (Entries.mapValues AttributeValue.toValue extra.entries)) = attributes.merge extra := by
  have hv : Entries.mapValues Attribute.value attributes.entries = attributes.values.entries :=
    (Entries.choose_some_comp _ _).symm
  have hx : Entries.mapValues (fun v : AttributeValue => v) extra.entries = extra.entries := by
    simp [Entries.mapValues]
  apply OrderedMap.ext
  rw [toAttributeValues_eq, Entries.mapValues_setAll, Entries.mapValues_setAll, Entries.mapValues_mapValues,
    Entries.mapValues_mapValues]
  simp only [Attribute.toAttributeValue_toValue, AttributeValue.toAttributeValue_toValue, hv, hx]
  have hn : (Entries.keys (Entries.setAll attributes.values.entries extra.entries)).Nodup :=
    Entries.nodup_setAll attributes.values.nodup
  have hs : Entries.setAll [] attributes.values.entries = attributes.values.entries :=
    Entries.setAll_nil_of_nodup attributes.values.nodup
  change Entries.setAll [] (Entries.setAll (Entries.setAll [] attributes.values.entries) extra.entries) = _
  rw [hs, Entries.setAll_nil_of_nodup hn]
  rfl

end Value

end TemplateScript
