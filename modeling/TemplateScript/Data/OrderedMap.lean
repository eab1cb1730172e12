/-!
Maps from names that keep the order in which their keys were first set. Setting a key that is present
replaces its value in place, so the keys of a map are distinct.
-/

namespace TemplateScript

namespace Entries

variable {α β : Type}

def keys (es : List (String × α)) : List String := es.map Prod.fst

def get? (key : String) : List (String × α) → Option α
  | [] => none
  | (k, v) :: es => if k = key then some v else get? key es

def set (key : String) (value : α) : List (String × α) → List (String × α)
  | [] => [(key, value)]
  | (k, v) :: es => if k = key then (k, value) :: es else (k, v) :: set key value es

def setAll (es new : List (String × α)) : List (String × α) :=
  new.foldl (fun es e => set e.1 e.2 es) es

def erase (key : String) (es : List (String × α)) : List (String × α) :=
  es.filter fun e => decide (e.1 ≠ key)

def choose (f : α → Option β) : List (String × α) → List (String × β)
  | [] => []
  | (k, v) :: es => match f v with
    | some w => (k, w) :: choose f es
    | none => choose f es

theorem mem_keys_set {key k : String} {value : α} {es : List (String × α)} :
    k ∈ keys (set key value es) ↔ k ∈ keys es ∨ k = key := by
  induction es with
  | nil => simp [set, keys]
  | cons e es ih =>
    obtain ⟨k', v⟩ := e
    simp only [keys] at ih
    by_cases hk : k' = key
    · simp only [set, hk, keys, if_true, List.map_cons, List.mem_cons]
      exact ⟨Or.inl, fun h => h.elim id Or.inl⟩
    · simp only [set, hk, keys, if_false, List.map_cons, List.mem_cons, ih]
      exact or_assoc.symm

theorem nodup_set {key : String} {value : α} {es : List (String × α)} (h : (keys es).Nodup) :
    (keys (set key value es)).Nodup := by
  induction es with
  | nil => simp [set, keys]
  | cons e es ih =>
    obtain ⟨k, v⟩ := e
    have hc := List.nodup_cons.1 h
    by_cases hk : k = key
    · simpa [set, hk, keys] using h
    · have hm : k ∉ keys (set key value es) := by
        rw [mem_keys_set]
        exact fun hh => hh.elim hc.1 hk
      simpa [set, hk, keys] using List.nodup_cons.2 ⟨hm, ih hc.2⟩

theorem nodup_setAll {es new : List (String × α)} (h : (keys es).Nodup) :
    (keys (setAll es new)).Nodup := by
  induction new generalizing es with
  | nil => exact h
  | cons e new ih => exact ih (nodup_set h)

theorem nodup_erase {key : String} {es : List (String × α)} (h : (keys es).Nodup) :
    (keys (erase key es)).Nodup :=
  h.sublist (List.filter_sublist.map Prod.fst)

theorem keys_choose_sublist (f : α → Option β) (es : List (String × α)) :
    (keys (choose f es)).Sublist (keys es) := by
  induction es with
  | nil => exact .slnil
  | cons e es ih =>
    obtain ⟨k, v⟩ := e
    cases h : f v with
    | none => simpa [choose, h, keys] using ih.cons k
    | some w => simpa [choose, h, keys] using ih.cons_cons k

theorem nodup_choose {f : α → Option β} {es : List (String × α)} (h : (keys es).Nodup) :
    (keys (choose f es)).Nodup :=
  h.sublist (keys_choose_sublist f es)

end Entries

structure OrderedMap (α : Type) where
  entries : List (String × α)
  nodup : (Entries.keys entries).Nodup := by decide
  deriving DecidableEq

namespace OrderedMap

variable {α β : Type}

def empty : OrderedMap α := ⟨[], .nil⟩

def isEmpty (m : OrderedMap α) : Bool := m.entries.isEmpty

def get? (m : OrderedMap α) (key : String) : Option α := Entries.get? key m.entries

def set (m : OrderedMap α) (key : String) (value : α) : OrderedMap α :=
  ⟨Entries.set key value m.entries, Entries.nodup_set m.nodup⟩

def setAll (m new : OrderedMap α) : OrderedMap α :=
  ⟨Entries.setAll m.entries new.entries, Entries.nodup_setAll m.nodup⟩

def ofList (es : List (String × α)) : OrderedMap α :=
  ⟨Entries.setAll [] es, Entries.nodup_setAll .nil⟩

def erase (m : OrderedMap α) (key : String) : OrderedMap α :=
  ⟨Entries.erase key m.entries, Entries.nodup_erase m.nodup⟩

def choose (f : α → Option β) (m : OrderedMap α) : OrderedMap β :=
  ⟨Entries.choose f m.entries, Entries.nodup_choose m.nodup⟩

def map (f : α → β) (m : OrderedMap α) : OrderedMap β := m.choose fun v => some (f v)

end OrderedMap

end TemplateScript
