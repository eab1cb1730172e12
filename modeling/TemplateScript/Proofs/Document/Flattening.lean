import Mathlib.Data.List.Lex
import Mathlib.Data.List.Sort
import TemplateScript.Proofs.Document.Children
import TemplateScript.Proofs.Document.Composition

/-! The children inside nested lists are found by paths of indices, and the order of the paths is the order
in which the lists are read. -/

namespace TemplateScript

namespace Child

variable {M N β : Type}

def isList : Child N → Bool
  | .list _ => true
  | _ => false

def at? : Child N → List Nat → Option (Child N)
  | child, [] => some child
  | .list items, i :: path => items[i]?.bind fun item => item.at? path
  | _, _ :: _ => none

def invalid? : Child N → Option String
  | .invalid found => some found
  | _ => none

def node? (b : Builder N) : Child N → Option N
  | .text value => some (b.text value)
  | .number value => some (b.text value.text)
  | .safe html => some (b.prerendered html)
  | .node n => some n
  | _ => none

mutual

def leaves : Child N → List (List Nat × Child N)
  | .list items => leavesFrom 0 items
  | child => [([], child)]

def leavesFrom : Nat → List (Child N) → List (List Nat × Child N)
  | _, [] => []
  | i, child :: children => child.leaves.map (fun e => (i :: e.1, e.2)) ++ leavesFrom (i + 1) children

end

lemma leaves_of_not_isList {c : Child N} (h : c.isList = false) : c.leaves = [([], c)] := by
  cases c with
  | list items => cases h
  | _ => simp only [leaves]

lemma mem_leavesFrom {path : List Nat} {leaf : Child N} {i : Nat} {cs : List (Child N)} :
    (path, leaf) ∈ leavesFrom i cs ↔
      ∃ j p c, path = (i + j) :: p ∧ cs[j]? = some c ∧ (p, leaf) ∈ c.leaves := by
  induction cs generalizing i with
  | nil => simp [leavesFrom]
  | cons c cs ih =>
    simp only [leavesFrom, List.mem_append, List.mem_map, ih, Prod.mk.injEq, Prod.exists]
    constructor
    · rintro (⟨p, d, hm, rfl, rfl⟩ | ⟨j, p, d, rfl, hd, hm⟩)
      · exact ⟨0, p, c, rfl, rfl, hm⟩
      · exact ⟨j + 1, p, d, by rw [Nat.add_assoc, Nat.add_comm 1], hd, hm⟩
    · rintro ⟨j, p, d, rfl, hd, hm⟩
      cases j with
      | zero =>
        obtain rfl : c = d := Option.some.inj hd
        exact .inl ⟨p, leaf, hm, rfl, rfl⟩
      | succ j => exact .inr ⟨j, p, d, by rw [Nat.add_assoc, Nat.add_comm 1], hd, hm⟩

lemma mem_leaves {path : List Nat} {leaf c : Child N} :
    (path, leaf) ∈ c.leaves ↔ c.at? path = some leaf ∧ leaf.isList = false := by
  induction path generalizing c with
  | nil =>
    by_cases hc : c.isList = false
    · rw [leaves_of_not_isList hc]
      simp only [List.mem_singleton, Prod.mk.injEq, true_and, at?, Option.some.injEq]
      constructor
      · rintro rfl
        exact ⟨rfl, hc⟩
      · exact fun h => h.1.symm
    · cases c with
      | list items =>
        simp only [leaves, mem_leavesFrom, at?, Option.some.injEq]
        constructor
        · rintro ⟨j, p, d, hp, -⟩
          cases hp
        · rintro ⟨rfl, hl⟩
          cases hl
      | _ => exact absurd rfl hc
  | cons i path ih =>
    by_cases hc : c.isList = false
    · rw [leaves_of_not_isList hc]
      cases c with
      | list items => cases hc
      | _ => simp [at?]
    · cases c with
      | list items =>
        simp only [leaves, mem_leavesFrom, at?, Nat.zero_add, List.cons.injEq, Option.bind_eq_some_iff]
        constructor
        · rintro ⟨_, _, d, ⟨rfl, rfl⟩, hd, hm⟩
          obtain ⟨hat, hl⟩ := ih.1 hm
          exact ⟨⟨d, hd, hat⟩, hl⟩
        · rintro ⟨⟨d, hd, hat⟩, hl⟩
          exact ⟨i, path, d, ⟨rfl, rfl⟩, hd, ih.2 ⟨hat, hl⟩⟩
      | _ => exact absurd rfl hc

abbrev Sorted (entries : List (List Nat × Child N)) : Prop := entries.Pairwise fun a b => a.1 < b.1

mutual

lemma leaves_sorted : (c : Child N) → Sorted c.leaves
  | .list items => by
    simp only [leaves]
    exact leavesFrom_sorted 0 items
  | .absent | .text _ | .number _ | .safe _ | .node _ | .invalid _ => by
    simp only [leaves]
    exact List.pairwise_singleton _ _

lemma leavesFrom_sorted : (i : Nat) → (cs : List (Child N)) → Sorted (leavesFrom i cs)
  | _, [] => by
    simp only [leavesFrom]
    exact .nil
  | i, c :: cs => by
    simp only [leavesFrom]
    apply List.pairwise_append.2
    refine ⟨List.pairwise_map.2 ?_, leavesFrom_sorted (i + 1) cs, ?_⟩
    · exact (leaves_sorted c).imp fun h => List.cons_lt_cons_iff.2 (.inr ⟨rfl, h⟩)
    · -- A path into the first child starts with a smaller index than one into a later child.
      intro x hx y hy
      obtain ⟨e, -, rfl⟩ := List.mem_map.1 hx
      obtain ⟨j, p, d, hp, -⟩ := mem_leavesFrom.1 hy
      rw [hp]
      exact List.cons_lt_cons_iff.2 (.inl (by omega))

end

/-- The entries are all children inside the list that are no lists, in the order of their paths. -/
structure Enumerates (cs : List (Child N)) (entries : List (List Nat × Child N)) : Prop where
  sorted : Sorted entries
  mem_iff (path : List Nat) (child : Child N) :
    (path, child) ∈ entries ↔ (list cs).at? path = some child ∧ child.isList = false

lemma enumerates_leaves (cs : List (Child N)) : Enumerates cs (list cs).leaves where
  sorted := leaves_sorted _
  mem_iff _ _ := mem_leaves

lemma Enumerates.unique {cs : List (Child N)} {entries entries' : List (List Nat × Child N)}
    (h : Enumerates cs entries) (h' : Enumerates cs entries') : entries = entries' := by
  have : Std.Irrefl fun a b : List Nat × Child N => a.1 < b.1 := ⟨fun a => lt_irrefl a.1⟩
  have : Std.Antisymm fun a b : List Nat × Child N => a.1 < b.1 := ⟨fun a b hab hba => (lt_asymm hab hba).elim⟩
  apply h.sorted.eq_of_mem_iff h'.sorted
  rintro ⟨path, child⟩
  rw [h.mem_iff, h'.mem_iff]

def First (f : Child N → Option β) (cs : List (Child N)) (y : β) : Prop :=
  ∃ path child, (list cs).at? path = some child ∧ f child = some y ∧
    ∀ path' child', (list cs).at? path' = some child' → (f child').isSome → path ≤ path'

lemma findSome?_sorted {entries : List (List Nat × Child N)} (h : Sorted entries) {f : Child N → Option β} {y : β} :
    entries.findSome? (fun e => f e.2) = some y ↔
      ∃ e ∈ entries, f e.2 = some y ∧ ∀ e' ∈ entries, (f e'.2).isSome → e.1 ≤ e'.1 := by
  induction entries with
  | nil => simp
  | cons e entries ih =>
    obtain ⟨hlt, hs⟩ := List.pairwise_cons.1 h
    rw [List.findSome?_cons]
    cases hf : f e.2 with
    | some z =>
      constructor
      · rintro ⟨⟩
        refine ⟨e, List.mem_cons_self, hf, fun e' he' _ => ?_⟩
        rcases List.mem_cons.1 he' with rfl | he'
        · exact le_rfl
        · exact (hlt e' he').le
      · rintro ⟨e', he', hy, hleast⟩
        rcases List.mem_cons.1 he' with rfl | he'
        · exact hf.symm.trans hy
        · exact absurd (hlt e' he') (not_lt.2 (hleast e List.mem_cons_self (by rw [hf]; rfl)))
    | none =>
      apply (ih hs).trans
      constructor
      · rintro ⟨e', he', hy, hleast⟩
        refine ⟨e', List.mem_cons_of_mem _ he', hy, fun e'' he'' hsome => ?_⟩
        rcases List.mem_cons.1 he'' with rfl | he''
        · rw [hf] at hsome
          cases hsome
        · exact hleast e'' he'' hsome
      · rintro ⟨e', he', hy, hleast⟩
        rcases List.mem_cons.1 he' with rfl | he'
        · rw [hf] at hy
          cases hy
        · exact ⟨e', he', hy, fun e'' he'' => hleast e'' (List.mem_cons_of_mem _ he'')⟩

section Leaves

variable {f : Child N → Option β} {cs : List (Child N)}

lemma isList_of_isSome (hf : ∀ items, f (list items) = none) {c : Child N} (h : (f c).isSome) : c.isList = false := by
  cases c with
  | list items =>
    rw [hf] at h
    cases h
  | _ => rfl

lemma findSome?_leaves (hf : ∀ items, f (list items) = none) {y : β} :
    (list cs).leaves.findSome? (fun e => f e.2) = some y ↔ First f cs y := by
  apply (findSome?_sorted (leaves_sorted _)).trans
  constructor
  · rintro ⟨⟨path, child⟩, hm, hy, hleast⟩
    refine ⟨path, child, (mem_leaves.1 hm).1, hy, fun path' child' hat hsome => ?_⟩
    exact hleast (path', child') (mem_leaves.2 ⟨hat, isList_of_isSome hf hsome⟩) hsome
  · rintro ⟨path, child, hat, hy, hleast⟩
    have hsome : (f child).isSome := by rw [hy]; rfl
    refine ⟨(path, child), mem_leaves.2 ⟨hat, isList_of_isSome hf hsome⟩, hy, fun e he hsome' => ?_⟩
    exact hleast e.1 e.2 (mem_leaves.1 he).1 hsome'

lemma exists_first_iff (hf : ∀ items, f (list items) = none) :
    (∃ y, First f cs y) ↔ ∃ path child, (list cs).at? path = some child ∧ (f child).isSome := by
  simp only [← findSome?_leaves hf, ← Option.isSome_iff_exists, List.findSome?_isSome_iff]
  constructor
  · rintro ⟨⟨path, child⟩, hm, hsome⟩
    exact ⟨path, child, (mem_leaves.1 hm).1, hsome⟩
  · rintro ⟨path, child, hat, hsome⟩
    exact ⟨(path, child), mem_leaves.2 ⟨hat, isList_of_isSome hf hsome⟩, hsome⟩

lemma findSome?_leaves_none (hf : ∀ items, f (list items) = none) :
    (list cs).leaves.findSome? (fun e => f e.2) = none ↔
      ∀ path child, (list cs).at? path = some child → f child = none := by
  rw [List.findSome?_eq_none_iff]
  constructor
  · intro h path child hat
    by_contra hne
    have hsome : (f child).isSome := Option.isSome_iff_ne_none.2 hne
    exact hne (h (path, child) (mem_leaves.2 ⟨hat, isList_of_isSome hf hsome⟩))
  · exact fun h e he => h e.1 e.2 (mem_leaves.1 he).1

end Leaves

def gather (b : Builder N) (entries : List (List Nat × Child N)) : Except Fault (List N) :=
  match entries.findSome? fun e => e.2.invalid? with
  | some found => .error (.invalidChild found)
  | none => .ok (entries.filterMap fun e => e.2.node? b)

lemma gather_append (b : Builder N) (xs ys : List (List Nat × Child N)) :
    gather b (xs ++ ys) = (do return (← gather b xs) ++ (← gather b ys)) := by
  simp only [gather, List.findSome?_append, List.filterMap_append]
  cases xs.findSome? fun e => e.2.invalid? with
  | some found => rfl
  | none =>
    cases ys.findSome? fun e => e.2.invalid? with
    | some found => rfl
    | none => rfl

lemma gather_shift (b : Builder N) (i : Nat) (xs : List (List Nat × Child N)) :
    gather b (xs.map fun e => (i :: e.1, e.2)) = gather b xs := by
  simp only [gather, List.findSome?_map, List.filterMap_map]
  rfl

mutual

lemma nodes_eq_gather (b : Builder N) : (c : Child N) → c.nodes b = gather b c.leaves
  | .list items => by
    simp only [nodes, leaves]
    exact flatten_eq_gather b 0 items
  | .absent | .text _ | .number _ | .safe _ | .node _ | .invalid _ => by
    simp only [nodes, leaves]
    rfl

lemma flatten_eq_gather (b : Builder N) : (i : Nat) → (cs : List (Child N)) → flatten b cs = gather b (leavesFrom i cs)
  | _, [] => by
    simp only [flatten, leavesFrom]
    rfl
  | i, c :: cs => by
    simp only [flatten, leavesFrom, gather_append, gather_shift, nodes_eq_gather b c, flatten_eq_gather b (i + 1) cs]

end

lemma flatten_eq_gather_leaves (b : Builder N) (cs : List (Child N)) : flatten b cs = gather b (list cs).leaves := by
  simpa only [leaves] using flatten_eq_gather b 0 cs

lemma flatten_eq_error_iff {b : Builder N} {cs : List (Child N)} {fault : Fault} :
    flatten b cs = .error fault ↔ ∃ found, First invalid? cs found ∧ fault = .invalidChild found := by
  simp only [flatten_eq_gather_leaves, gather, ← findSome?_leaves (f := invalid?) fun _ => rfl]
  cases (list cs).leaves.findSome? fun e => e.2.invalid? with
  | some found => simp [eq_comm]
  | none => simp

lemma flatten_eq_ok_iff {b : Builder N} {cs : List (Child N)} {nodes : List N} :
    flatten b cs = .ok nodes ↔ (∀ path child, (list cs).at? path = some child → child.invalid? = none) ∧
      nodes = (list cs).leaves.filterMap fun e => e.2.node? b := by
  simp only [flatten_eq_gather_leaves, gather, ← findSome?_leaves_none (f := invalid?) fun _ => rfl]
  cases (list cs).leaves.findSome? fun e => e.2.invalid? with
  | some found => simp
  | none => simp [eq_comm]

/-- One of the lists inside, at any depth, is replaced by its items. -/
inductive Opened : List (Child N) → List (Child N) → Prop
  | here (before items after : List (Child N)) : Opened (before ++ list items :: after) (before ++ items ++ after)
  | inside (before after : List (Child N)) {items items' : List (Child N)} :
    Opened items items' → Opened (before ++ list items :: after) (before ++ list items' :: after)

lemma flatten_list (b : Builder N) (items after : List (Child N)) :
    flatten b (list items :: after) = flatten b (items ++ after) := by
  rw [flatten_append, flatten, nodes]

lemma Opened.flatten_eq (b : Builder N) {cs ds : List (Child N)} (h : Opened cs ds) : flatten b ds = flatten b cs := by
  induction h with
  | here before items after =>
    rw [List.append_assoc, flatten_append b before, flatten_append b before, flatten_list]
  | inside before after _ ih =>
    rw [flatten_append b before, flatten_append b before, flatten, flatten, nodes, nodes, ih]

def fault? (f : M → Except Fault N) : Child M → Option Fault
  | .node n => match f n with
    | .ok _ => none
    | .error fault => some fault
  | _ => none

section Narrowing

variable {f : M → Except Fault N}

def failure {α : Type} : Except Fault α → Option Fault
  | .ok _ => none
  | .error fault => some fault

lemma failure_eq_some {α : Type} {x : Except Fault α} {fault : Fault} : failure x = some fault ↔ x = .error fault := by
  cases x <;> simp [failure]

lemma findSome?_shift (g : Child M → Option β) (i : Nat) (xs : List (List Nat × Child M)) :
    (xs.map fun e => (i :: e.1, e.2)).findSome? (fun e => g e.2) = xs.findSome? fun e => g e.2 := by
  rw [List.findSome?_map]
  rfl

mutual

lemma failure_mapNodes : (c : Child M) → failure (c.mapNodes f) = c.leaves.findSome? fun e => e.2.fault? f
  | .list items => by
    simp only [mapNodes, leaves, ← failure_mapAll 0 items]
    cases mapAll f items <;> rfl
  | .node n => by
    simp only [mapNodes, leaves, List.findSome?_singleton, fault?]
    cases f n <;> rfl
  | .absent | .text _ | .number _ | .safe _ | .invalid _ => by
    simp only [mapNodes, leaves]
    rfl

lemma failure_mapAll : (i : Nat) → (cs : List (Child M)) →
    failure (mapAll f cs) = (leavesFrom i cs).findSome? fun e => e.2.fault? f
  | _, [] => by
    simp only [mapAll, leavesFrom]
    rfl
  | i, c :: cs => by
    simp only [mapAll, leavesFrom, List.findSome?_append, findSome?_shift, ← failure_mapNodes c,
      ← failure_mapAll (i + 1) cs]
    cases c.mapNodes f with
    | error fault => rfl
    | ok d => cases mapAll f cs <;> rfl

end

mutual

lemma invalid_mapNodes : {c : Child M} → {d : Child N} → c.mapNodes f = .ok d →
    (d.leaves.findSome? fun e => e.2.invalid?) = c.leaves.findSome? fun e => e.2.invalid?
  | .list items, d, h => by
    simp only [mapNodes] at h
    obtain ⟨items', hi, hd⟩ := bind_eq_ok_iff.1 h
    obtain rfl := Except.ok.inj hd
    simp only [leaves]
    exact invalid_mapAll 0 hi
  | .node n, d, h => by
    simp only [mapNodes] at h
    obtain ⟨n', -, hd⟩ := bind_eq_ok_iff.1 h
    obtain rfl := Except.ok.inj hd
    simp [leaves, invalid?]
  | .absent, _, h | .text _, _, h | .number _, _, h | .safe _, _, h | .invalid _, _, h => by
    simp only [mapNodes] at h
    obtain rfl := Except.ok.inj h
    simp [leaves, invalid?]

lemma invalid_mapAll : {cs : List (Child M)} → {ds : List (Child N)} → (i : Nat) → mapAll f cs = .ok ds →
    ((leavesFrom i ds).findSome? fun e => e.2.invalid?) = (leavesFrom i cs).findSome? fun e => e.2.invalid?
  | [], ds, i, h => by
    simp only [mapAll] at h
    obtain rfl := Except.ok.inj h
    simp [leavesFrom]
  | c :: cs, ds, i, h => by
    simp only [mapAll] at h
    obtain ⟨d, hd, h⟩ := bind_eq_ok_iff.1 h
    obtain ⟨ds', hds, h⟩ := bind_eq_ok_iff.1 h
    obtain rfl := Except.ok.inj h
    simp only [leavesFrom, List.findSome?_append, findSome?_shift, invalid_mapNodes hd, invalid_mapAll (i + 1) hds]

end

lemma mapAll_eq_error_iff {cs : List (Child M)} {fault : Fault} :
    mapAll f cs = .error fault ↔ First (fault? f) cs fault := by
  rw [← failure_eq_some, failure_mapAll 0 cs, ← findSome?_leaves fun _ => rfl]
  simp only [leaves]

lemma first_invalid_mapAll {cs : List (Child M)} {ds : List (Child N)} (h : mapAll f cs = .ok ds) {found : String} :
    First invalid? ds found ↔ First invalid? cs found := by
  rw [← findSome?_leaves fun _ => rfl, ← findSome?_leaves fun _ => rfl]
  simp only [leaves, invalid_mapAll 0 h]

lemma mapAll_flatten_eq_error_iff {b : Builder N} {cs : List (Child M)} {fault : Fault} :
    (mapAll f cs >>= flatten b) = .error fault ↔ First (fault? f) cs fault ∨
      (∀ fault', ¬ First (fault? f) cs fault') ∧ ∃ found, First invalid? cs found ∧ fault = .invalidChild found := by
  simp only [← mapAll_eq_error_iff]
  cases h : mapAll f cs with
  | error fault' =>
    simp only [Bind.bind, Except.bind, Except.error.injEq]
    constructor
    · exact .inl
    · rintro (rfl | ⟨hn, -⟩)
      · rfl
      · exact absurd rfl (hn fault')
  | ok ds =>
    simp only [Bind.bind, Except.bind, flatten_eq_error_iff, first_invalid_mapAll h]
    simp

end Narrowing

lemma first_map {f : Child N → Option β} {β' : Type} (g : β → β') {cs : List (Child N)} {z : β'} :
    First (fun c => (f c).map g) cs z ↔ ∃ y, First f cs y ∧ z = g y := by
  simp only [First, Option.map_eq_some_iff, Option.isSome_map]
  constructor
  · rintro ⟨path, child, hat, ⟨y, hy, rfl⟩, hleast⟩
    exact ⟨y, ⟨path, child, hat, hy, hleast⟩, rfl⟩
  · rintro ⟨y, ⟨path, child, hat, hy, hleast⟩, rfl⟩
    exact ⟨path, child, hat, ⟨y, hy, rfl⟩, hleast⟩

end Child

namespace AnyNode

open Child

variable {N γ : Type} {r : Representation} {xs : List (Child (AnyNode γ))}

def foreign? (r : Representation) : Child (AnyNode γ) → Option Representation
  | .node n => if n.representation = r then none else some n.representation
  | _ => none

def Narrows (r : Representation) (f : AnyNode γ → Except Fault N) : Prop :=
  ∀ c, fault? f c = (foreign? r c).map (Fault.representationMismatch r)

lemma toStructured_narrows : Narrows .structured (toStructured (γ := γ)) := by
  intro c
  cases c with
  | node n => cases n <;> rfl
  | _ => rfl

lemma toStream_narrows : Narrows .stream (toStream (γ := γ)) := by
  intro c
  cases c with
  | node n => cases n <;> rfl
  | _ => rfl

lemma toRaw_narrows : Narrows .raw (toRaw (γ := γ)) := by
  intro c
  cases c with
  | node n => cases n <;> rfl
  | _ => rfl

lemma Narrows.mapAll_eq_error_iff {f : AnyNode γ → Except Fault N} (h : Narrows r f) {fault : Fault} :
    mapAll f xs = .error fault ↔ ∃ found, First (foreign? r) xs found ∧ fault = .representationMismatch r found := by
  rw [Child.mapAll_eq_error_iff, funext h, first_map]

lemma Narrows.flatten_eq_error_iff {f : AnyNode γ → Except Fault N} (h : Narrows r f) {b : Builder N} {fault : Fault} :
    (mapAll f xs >>= flatten b) = .error fault ↔
      (∃ found, First (foreign? r) xs found ∧ fault = .representationMismatch r found) ∨
      (∀ found, ¬ First (foreign? r) xs found) ∧ ∃ found, First invalid? xs found ∧ fault = .invalidChild found := by
  rw [mapAll_flatten_eq_error_iff, funext h]
  simp only [first_map]
  have hnone : (∀ fault', ¬ ∃ found, First (foreign? r) xs found ∧ fault' = Fault.representationMismatch r found) ↔
      ∀ found, ¬ First (foreign? r) xs found := by
    constructor
    · exact fun hn found hf => hn _ ⟨found, hf, rfl⟩
    · rintro hn _ ⟨found, hf, -⟩
      exact hn found hf
  rw [hnone]

lemma normalize_eq_error_iff (stream : Builder (StreamNode γ)) {fault : Fault} :
    normalize stream r id xs = .error fault ↔
      (∃ found, First (foreign? r) xs found ∧ fault = .representationMismatch r found) ∨
      (∀ found, ¬ First (foreign? r) xs found) ∧ ∃ found, First invalid? xs found ∧ fault = .invalidChild found := by
  have hmap {α β : Type} (x : Except Fault α) (g : α → β) :
      (x >>= fun a => pure (g a)) = .error fault ↔ x = .error fault := by
    cases x <;> simp [Bind.bind, Except.bind, pure, Except.pure]
  cases r with
  | structured =>
    have he : normalize stream .structured id xs = ((mapAll toStructured xs >>= flatten structuredBuilder) >>=
        fun nodes => pure (nodes.map .structured)) := by
      rw [normalize, readAll_eq_mapAll, List.map_id, bind_assoc]
    rw [he, hmap]
    exact toStructured_narrows.flatten_eq_error_iff
  | stream =>
    have he : normalize stream .stream id xs = ((mapAll toStream xs >>= flatten stream) >>=
        fun nodes => pure (nodes.map .stream)) := by
      rw [normalize, readAll_eq_mapAll, List.map_id, bind_assoc]
    rw [he, hmap]
    exact toStream_narrows.flatten_eq_error_iff
  | raw =>
    have he : normalize stream .raw id xs = ((mapAll toRaw xs >>= flatten rawBuilder) >>=
        fun nodes => pure (nodes.map .raw)) := by
      rw [normalize, readAll_eq_mapAll, List.map_id, bind_assoc]
    rw [he, hmap]
    exact toRaw_narrows.flatten_eq_error_iff

lemma addItems_of_first {node : AnyNode γ} {values : AttributeValues} {found : Representation}
    (h : First (foreign? node.representation) xs found) :
    node.addItems values xs = .error (.representationMismatch node.representation found) := by
  cases node with
  | structured node =>
    have he := toStructured_narrows.mapAll_eq_error_iff.2 ⟨found, h, rfl⟩
    rw [addItems, he]
    rfl
  | stream node =>
    have he := toStream_narrows.mapAll_eq_error_iff.2 ⟨found, h, rfl⟩
    rw [addItems, he]
    rfl
  | raw node =>
    have he := toRaw_narrows.mapAll_eq_error_iff.2 ⟨found, h, rfl⟩
    rw [addItems, he]
    rfl

lemma exists_first_foreign {path : List Nat} {n : AnyNode γ} (hat : (list xs).at? path = some (.node n))
    (hn : n.representation ≠ r) : ∃ found, First (foreign? r) xs found := by
  apply (exists_first_iff fun _ => rfl).2
  exact ⟨path, .node n, hat, by simp [foreign?, hn]⟩

lemma not_first_foreign (h : ∀ path n, (list xs).at? path = some (.node n) → n.representation = r)
    (found : Representation) : ¬ First (foreign? r) xs found := by
  rintro ⟨path, child, hat, hf, -⟩
  cases child with
  | node n => simp [foreign?, h path n hat] at hf
  | _ => cases hf

end AnyNode

namespace Child

variable {N : Type} {b : Builder N} {cs : List (Child N)}

lemma invalid?_isSome {c : Child N} : c.invalid?.isSome ↔ ∃ found, c = .invalid found := by
  cases c <;> simp [invalid?]

lemma flatten_fails_iff :
    (∃ fault, flatten b cs = .error fault) ↔ ∃ path found, (list cs).at? path = some (.invalid found) := by
  have hfirst : (∃ fault, flatten b cs = .error fault) ↔ ∃ found, First invalid? cs found := by
    simp only [flatten_eq_error_iff]
    constructor
    · rintro ⟨_, found, hf, -⟩
      exact ⟨found, hf⟩
    · rintro ⟨found, hf⟩
      exact ⟨_, found, hf, rfl⟩
  apply (hfirst.trans (exists_first_iff fun _ => rfl)).trans
  simp only [invalid?_isSome]
  constructor
  · rintro ⟨path, _, hat, found, rfl⟩
    exact ⟨path, found, hat⟩
  · rintro ⟨path, found, hat⟩
    exact ⟨path, _, hat, found, rfl⟩

lemma flatten_eq_ok_iff_enumerates {nodes : List N} :
    flatten b cs = .ok nodes ↔ (∀ path found, (list cs).at? path ≠ some (.invalid found)) ∧
      ∃ entries, Enumerates cs entries ∧ nodes = entries.filterMap fun e => e.2.node? b := by
  rw [flatten_eq_ok_iff]
  apply and_congr
  · constructor
    · exact fun h path found hat => nomatch h path _ hat
    · intro h path child hat
      by_contra hne
      obtain ⟨found, rfl⟩ := invalid?_isSome.1 (Option.isSome_iff_ne_none.2 hne)
      exact h path found hat
  · constructor
    · exact fun h => ⟨_, enumerates_leaves cs, h⟩
    · rintro ⟨entries, he, h⟩
      rwa [(enumerates_leaves cs).unique he]

/-- Flattening reads children depth first from left to right. It fails with the first invalid child, if there is one,
and else makes a node of every child that stands for one. So lists may be opened in place, parts be flattened apart,
and nodes be flattened again. If nodes have to be of one representation, the first node of another is reported before
any invalid child. -/
theorem flatten_depth_first (b : Builder N) (cs : List (Child N)) :
    (∀ fault, flatten b cs = .error fault ↔ ∃ found, First invalid? cs found ∧ fault = .invalidChild found) ∧
    ((∃ fault, flatten b cs = .error fault) ↔ ∃ path found, (list cs).at? path = some (.invalid found)) ∧
    (∀ nodes, flatten b cs = .ok nodes ↔ (∀ path found, (list cs).at? path ≠ some (.invalid found)) ∧
      ∃ entries, Enumerates cs entries ∧ nodes = entries.filterMap fun e => e.2.node? b) ∧
    (∀ ds, Opened cs ds → flatten b ds = flatten b cs) ∧
    (∀ ds, flatten b (cs ++ ds) = do return (← flatten b cs) ++ (← flatten b ds)) ∧
    (∀ nodes, flatten b cs = .ok nodes → flatten b (nodes.map .node) = .ok nodes) ∧
    ∀ (γ : Type) (stream : Builder (StreamNode γ)) (r : Representation) (xs : List (Child (AnyNode γ))),
      (∀ path n, (list xs).at? path = some (.node n) → n.representation ≠ r →
        ∃ found, First (AnyNode.foreign? r) xs found ∧
          AnyNode.normalize stream r id xs = .error (.representationMismatch r found) ∧
          ∀ node values, node.representation = r →
            AnyNode.addItems node values xs = .error (.representationMismatch r found)) ∧
      ((∀ path n, (list xs).at? path = some (.node n) → n.representation = r) →
        ∀ fault, AnyNode.normalize stream r id xs = .error fault ↔
          ∃ found, First invalid? xs found ∧ fault = .invalidChild found) := by
  refine ⟨fun _ => flatten_eq_error_iff, flatten_fails_iff, fun _ => flatten_eq_ok_iff_enumerates,
    fun _ h => h.flatten_eq b, flatten_append b cs, fun nodes _ => flatten_nodes_eq nodes, fun γ stream r xs => ⟨?_, ?_⟩⟩
  · intro path n hat hn
    obtain ⟨found, hf⟩ := AnyNode.exists_first_foreign hat hn
    refine ⟨found, hf, (AnyNode.normalize_eq_error_iff stream).2 (.inl ⟨found, hf, rfl⟩), ?_⟩
    rintro node values rfl
    exact AnyNode.addItems_of_first hf
  · intro hr fault
    have hnone := AnyNode.not_first_foreign hr
    rw [AnyNode.normalize_eq_error_iff]
    constructor
    · rintro (⟨found, hf, -⟩ | ⟨-, h⟩)
      · exact absurd hf (hnone found)
      · exact h
    · exact fun h => .inr ⟨hnone, h⟩

theorem flatten_depth_first_mixed :
    let inner : List (Child Node) := [.number .zero, .list [.safe "<b>"]]
    let cs : List (Child Node) := [.absent, .text "a<", .list inner, .node (.text "z")]
    let nodes : List Node := [.text "a<", .text Number.zero.text, .prerendered "<b>", .text "z"]
    let xs : List (Child (AnyNode Unit)) := [.list [.invalid "boolean"], .list [.node (.raw ⟨"x"⟩)]]
    flatten structuredBuilder cs = .ok nodes ∧ flatten structuredBuilder (nodes.map .node) = .ok nodes ∧
    flatten structuredBuilder (.absent :: .text "a<" :: inner ++ [.node (.text "z")]) = flatten structuredBuilder cs ∧
    (∃ found, First (AnyNode.foreign? .structured) xs found ∧
      AnyNode.normalize streamBuilder .structured id xs = .error (.representationMismatch .structured found) ∧
      AnyNode.addItems (.structured (.text "t")) OrderedMap.empty xs =
        .error (.representationMismatch .structured found)) ∧
    (AnyNode.normalize streamBuilder .structured id (xs.take 1) = .error (.invalidChild "boolean") ↔
      ∃ found, First invalid? (xs.take 1) found ∧ Fault.invalidChild "boolean" = .invalidChild found) := by
  intro inner cs nodes xs
  have hnodes : flatten structuredBuilder cs = .ok nodes := rfl
  obtain ⟨-, -, -, hopen, -, hagain, hnarrow⟩ := flatten_depth_first structuredBuilder cs
  obtain ⟨found, hf, hnormalize, hadd⟩ :=
    (hnarrow Unit streamBuilder .structured xs).1 [1, 0] (.raw ⟨"x"⟩) rfl (by decide)
  refine ⟨hnodes, hagain nodes hnodes, hopen _ (.here [.absent, .text "a<"] inner _), ?_, ?_⟩
  · exact ⟨found, hf, hnormalize, hadd _ _ rfl⟩
  · apply (hnarrow Unit streamBuilder .structured (xs.take 1)).2
    -- No path leads to a node.
    intro path n hat
    have hm := mem_leaves.2 ⟨hat, rfl⟩
    simp [xs, leaves, leavesFrom] at hm

end Child

end TemplateScript
