import TemplateScript.Proofs.Document.Attributes
import TemplateScript.Proofs.Evaluation.Reading

/-!
Computations that end alike when they are started in corresponding stores: with corresponding answers in
corresponding stores and the same text written to paired sinks, or in the same failure. The operations of
the store, the support module and the builders all do.
-/

namespace TemplateScript

variable {α β α' β' : Type}

namespace Pairing

def Appends (p : Pairing) (s s' t t' : Store) : Prop :=
  ∀ i j, p.sinks i j → ∃ text, s'.sinks[i]? = s.sinks[i]?.map (· ++ text) ∧
    t'.sinks[j]? = t.sinks[j]?.map (· ++ text)

def addIdentity (p : Pairing) (i j : Nat) : Pairing :=
  { p with identities := fun i' j' => p.identities i' j' ∨ i' = i ∧ j' = j }

def addFrame (p : Pairing) (i j : Nat) : Pairing :=
  { p with frames := fun i' j' => p.frames i' j' ∨ i' = i ∧ j' = j }

def addGroup (p : Pairing) (a b : Scope) : Pairing :=
  { p with groups := fun a' b' => p.groups a' b' ∨ a' = a ∧ b' = b }

def addSink (p : Pairing) (i j : Nat) : Pairing :=
  { p with sinks := fun i' j' => p.sinks i' j' ∨ i' = i ∧ j' = j }

variable {p : Pairing}

lemma le_addIdentity (p : Pairing) (i j : Nat) : p ≤ p.addIdentity i j :=
  ⟨.inl, id, id, id, id⟩

lemma le_addFrame (p : Pairing) (i j : Nat) : p ≤ p.addFrame i j :=
  ⟨id, .inl, id, id, id⟩

lemma le_addGroup (p : Pairing) (a b : Scope) : p ≤ p.addGroup a b :=
  ⟨id, id, .inl, id, id⟩

lemma le_addSink (p : Pairing) (i j : Nat) : p ≤ p.addSink i j :=
  ⟨id, id, id, .inl, id⟩

lemma OneToOne.add {R : Nat → Nat → Prop} (h : OneToOne R) {i j : Nat} (hn : ∀ i' j', R i' j' → i' ≠ i ∧ j' ≠ j) :
    OneToOne fun i' j' => R i' j' ∨ i' = i ∧ j' = j := by
  rintro a b a' b' (hr | ⟨rfl, rfl⟩) (hr' | ⟨rfl, rfl⟩)
  · exact h a b a' b' hr hr'
  · exact iff_of_false (hn a b hr).1 (hn a b hr).2
  · exact iff_of_false (hn a' b' hr').1.symm (hn a' b' hr').2.symm
  · exact iff_of_true rfl rfl

def Heads (p : Pairing) (i j : Nat) : Prop := p.frames i j ∨ ∃ a b, p.groups (i :: a) (j :: b)

lemma Heads.mono {q : Pairing} (hpq : p ≤ q) {i j : Nat} (h : p.Heads i j) : q.Heads i j := by
  rcases h with hf | ⟨a, b, hg⟩
  · exact .inl (hpq.frames hf)
  · exact .inr ⟨a, b, hpq.groups hg⟩

lemma Appends.refl (p : Pairing) (s t : Store) : p.Appends s s t t := fun _ _ _ => ⟨"", by simp, by simp⟩

lemma Appends.trans {q : Pairing} (hpq : p ≤ q) {s s' s'' t t' t'' : Store} (h : p.Appends s s' t t')
    (h' : q.Appends s' s'' t' t'') : p.Appends s s'' t t'' := by
  intro i j hij
  obtain ⟨x, hs, ht⟩ := h i j hij
  obtain ⟨y, hs', ht'⟩ := h' i j (hpq.sinks hij)
  refine ⟨x ++ y, ?_, ?_⟩
  · simp [hs', hs, Function.comp_def, String.append_assoc]
  · simp [ht', ht, Function.comp_def, String.append_assoc]

end Pairing

namespace Store.Match

variable {p : Pairing} {s t : Store}

lemma newIdentity (h : Store.Match p s t) : Store.Match (p.addIdentity s.identities t.identities)
    { s with identities := s.identities + 1 } { t with identities := t.identities + 1 } where
  identities_lt := by
    rintro i j (hi | ⟨rfl, rfl⟩)
    · exact ⟨Nat.lt_succ_of_lt (h.identities_lt hi).1, Nat.lt_succ_of_lt (h.identities_lt hi).2⟩
    · exact ⟨Nat.lt_succ_self _, Nat.lt_succ_self _⟩
  identities_oneToOne :=
    h.identities_oneToOne.add fun _ _ hi => ⟨(h.identities_lt hi).1.ne, (h.identities_lt hi).2.ne⟩
  frames hf := by
    obtain ⟨es, fs, he, hf, hm⟩ := h.frames hf
    exact ⟨es, fs, he, hf, hm.mono (p.le_addIdentity _ _)⟩
  frames_oneToOne := h.frames_oneToOne
  groups hg := ((h.groups hg).mono (p.le_addIdentity _ _)).congr (fun _ _ => rfl) fun _ _ => rfl
  apart := h.apart
  sinks_lt := h.sinks_lt
  sinks_oneToOne := h.sinks_oneToOne
  hidden := h.hidden
  hidden_not_paired := h.hidden_not_paired

lemma frames_lt (h : Store.Match p s t) {i j : Nat} (hf : p.frames i j) :
    i < s.frames.size ∧ j < t.frames.size := by
  obtain ⟨es, fs, he, hf, -⟩ := h.frames hf
  exact ⟨(Array.getElem?_eq_some_iff.1 he).1, (Array.getElem?_eq_some_iff.1 hf).1⟩

lemma hidden_lt (h : Store.Match p s t) {j : Nat} {name : String} (hj : p.hidden j name) : j < t.frames.size := by
  obtain ⟨fs, hf, -⟩ := h.hidden hj
  exact (Array.getElem?_eq_some_iff.1 hf).1

lemma newFrame (h : Store.Match p s t) {bindings bindings' : List (String × Value)}
    (hb : Fields.Match p bindings bindings') :
    Store.Match (p.addFrame s.frames.size t.frames.size) (s.enter bindings) (t.enter bindings') := by
  have hgrown := h.grow (s.enter_grows bindings) (t.enter_grows bindings')
  refine { hgrown with frames := ?_, frames_oneToOne := ?_, groups := ?_, apart := ?_, hidden_not_paired := ?_ }
  · rintro i j (hf | ⟨rfl, rfl⟩)
    · obtain ⟨es, fs, he, hf, hm⟩ := hgrown.frames hf
      exact ⟨es, fs, he, hf, hm.mono (p.le_addFrame _ _)⟩
    · exact ⟨bindings, bindings', by simp [Store.enter], by simp [Store.enter], hb.mono (p.le_addFrame _ _)⟩
  · exact h.frames_oneToOne.add fun _ _ hf => ⟨(h.frames_lt hf).1.ne, (h.frames_lt hf).2.ne⟩
  · exact fun hg => (hgrown.groups hg).mono (p.le_addFrame _ _)
  · refine { h.apart with frames := ?_ }
    rintro a b i j hg (hf | ⟨rfl, rfl⟩)
    · exact h.apart.frames hg hf
    · exact ⟨fun hi => lt_irrefl _ ((h.groups hg).left_lt hi), fun hj => lt_irrefl _ ((h.groups hg).right _ hj)⟩
  · rintro i j name hj (hf | ⟨rfl, rfl⟩)
    · exact h.hidden_not_paired hj hf
    · exact lt_irrefl _ (h.hidden_lt hj)

lemma addGroup (h : Store.Match p s t) {s' t' : Store} (hs : Store.Grows none s s') (ht : Store.Grows none t t')
    {a b : Scope} (hg : Store.Groups p s' t' a b) (hnodup : a.Nodup ∧ b.Nodup) (ha : ∀ i ∈ a, s.frames.size ≤ i)
    (hb : ∀ j ∈ b, t.frames.size ≤ j) : Store.Match (p.addGroup a b) s' t' := by
  have hgrown := h.grow hs ht
  have hleft {a' b' : Scope} {i : Nat} (hold : p.groups a' b') (hi : i ∈ a') (hnew : i ∈ a) : False :=
    absurd ((h.groups hold).left_lt hi) (not_lt.2 (ha i hnew))
  have hright {a' b' : Scope} {j : Nat} (hold : p.groups a' b') (hj : j ∈ b') (hnew : j ∈ b) : False :=
    absurd ((h.groups hold).right j hj) (not_lt.2 (hb j hnew))
  refine { hgrown with frames := fun hf => ?_, groups := ?_, apart := ⟨?_, ?_, ?_, ?_, ?_⟩ }
  · obtain ⟨es, fs, he, hf, hm⟩ := hgrown.frames hf
    exact ⟨es, fs, he, hf, hm.mono (p.le_addGroup _ _)⟩
  · rintro a' b' (hold | ⟨rfl, rfl⟩)
    · exact (hgrown.groups hold).mono (p.le_addGroup _ _)
    · exact hg.mono (p.le_addGroup _ _)
  · rintro a' b' (hold | ⟨rfl, rfl⟩)
    · exact h.apart.nodup hold
    · exact hnodup
  · rintro a₁ b₁ a₂ b₂ i (h₁ | ⟨rfl, rfl⟩) (h₂ | ⟨rfl, rfl⟩) hi hi'
    · exact h.apart.left h₁ h₂ hi hi'
    · exact (hleft h₁ hi hi').elim
    · exact (hleft h₂ hi' hi).elim
    · exact ⟨rfl, rfl⟩
  · rintro a₁ b₁ a₂ b₂ j (h₁ | ⟨rfl, rfl⟩) (h₂ | ⟨rfl, rfl⟩) hj hj'
    · exact h.apart.right h₁ h₂ hj hj'
    · exact (hright h₁ hj hj').elim
    · exact (hright h₂ hj' hj).elim
    · exact ⟨rfl, rfl⟩
  · rintro a' b' i j (hold | ⟨rfl, rfl⟩) hf
    · exact h.apart.frames hold hf
    · exact ⟨fun hi => absurd (h.frames_lt hf).1 (not_lt.2 (ha i hi)),
        fun hj => absurd (h.frames_lt hf).2 (not_lt.2 (hb j hj))⟩
  · rintro a' b' j name (hold | ⟨rfl, rfl⟩) hj
    · exact h.apart.hidden hold hj
    · exact fun hm => absurd (h.hidden_lt hj) (not_lt.2 (hb j hm))

lemma heads_frames (h : Store.Match p s t) {i j : Nat} (hij : p.Heads i j) {i' j' : Nat} (hf : p.frames i' j') :
    i = i' ↔ j = j' := by
  rcases hij with hij | ⟨a, b, hg⟩
  · exact h.frames_oneToOne i j i' j' hij hf
  · obtain ⟨hi, hj⟩ := h.apart.frames hg hf
    exact iff_of_false (fun e => hi (e ▸ List.mem_cons_self)) fun e => hj (e ▸ List.mem_cons_self)

lemma heads_groups (h : Store.Match p s t) {i j : Nat} (hij : p.Heads i j) {a b : Scope} (hg : p.groups a b) :
    (∃ a' b', a = i :: a' ∧ b = j :: b') ∨ i ∉ a ∧ j ∉ b := by
  rcases hij with hij | ⟨a', b', hg'⟩
  · exact .inr (h.apart.frames hg hij)
  · by_cases hi : i ∈ a
    · obtain ⟨rfl, rfl⟩ := h.apart.left hg hg' hi List.mem_cons_self
      exact .inl ⟨a', b', rfl, rfl⟩
    · by_cases hj : j ∈ b
      · obtain ⟨rfl, rfl⟩ := h.apart.right hg hg' hj List.mem_cons_self
        exact .inl ⟨a', b', rfl, rfl⟩
      · exact .inr ⟨hi, hj⟩

lemma heads_hidden (h : Store.Match p s t) {i j : Nat} (hij : p.Heads i j) {name : String} : ¬ p.hidden j name := by
  intro hj
  rcases hij with hij | ⟨a, b, hg⟩
  · exact h.hidden_not_paired hj hij
  · exact h.apart.hidden hg hj List.mem_cons_self

end Store.Match

namespace Store

variable {p : Pairing} {s t : Store}

lemma frames_bind {frame : Nat} {es : List (String × Value)} (h : s.frames[frame]? = some es) (name : String)
    (value : Value) : (s.bind frame name value).frames[frame]? = some (Entries.set name value es) := by
  simp [Store.bind, Array.getElem?_modify, h]

lemma get?_bind {frame : Nat} (hf : frame < s.frames.size) {outer : Scope} (ho : frame ∉ outer) (key : String)
    (value : Value) (name : String) :
    (s.bind frame key value).get? name (frame :: outer) =
      if key = name then some value else s.get? name (frame :: outer) := by
  have he : s.frames[frame]? = some s.frames[frame] := Array.getElem?_eq_getElem hf
  have houter : (s.bind frame key value).get? name outer = s.get? name outer :=
    Store.get?_congr (fun i hi => s.frames_bind_other (ne_of_mem_of_not_mem hi ho).symm key value) name
  simp only [Store.get?, frames_bind he, he, Option.getD_some, Entries.get?_set, houter]
  by_cases hk : key = name
  · simp [hk]
  · simp [hk]

lemma get?_enter_one (s : Store) (bindings : List (String × Value)) (name : String) :
    (s.enter bindings).get? name [s.frames.size] = Entries.get? name bindings := by
  simp only [Store.get?, s.frames_enter, Option.getD_some]
  cases Entries.get? name bindings <;> rfl

lemma frames_enter_inner (s : Store) (bindings : List (String × Value)) :
    ((s.enter bindings).enter []).frames[s.frames.size + 1]? = some [] := by
  rw [← s.size_enter bindings, Store.frames_enter]

lemma frames_enter_outer (s : Store) (bindings : List (String × Value)) :
    ((s.enter bindings).enter []).frames[s.frames.size]? = some bindings := by
  have hlt : s.frames.size < (s.enter bindings).frames.size := by simp [s.size_enter]
  rw [(Store.enter_grows _ []).frames _ hlt (by simp), s.frames_enter]

lemma get?_enter_two (s : Store) (bindings : List (String × Value)) (name : String) :
    ((s.enter bindings).enter []).get? name [s.frames.size + 1, s.frames.size] = Entries.get? name bindings := by
  simp only [Store.get?, frames_enter_inner, frames_enter_outer, Option.getD_some, Entries.get?]
  cases Entries.get? name bindings <;> rfl

lemma Groups.bind {i j : Nat} {a b : Scope} (h : Groups p s t (i :: a) (j :: b)) (hi : i ∉ a) (hj : j ∉ b)
    (key : String) {v w : Value} (hv : Value.Match p v w) :
    Groups p (s.bind i key v) (t.bind j key w) (i :: a) (j :: b) where
  left i' hm := by
    obtain ⟨es, fs, he, hes⟩ := h.left i' hm
    by_cases hii : i = i'
    · subst hii
      exact ⟨_, _, frames_bind he key v, Entries.set_related hes key hv⟩
    · exact ⟨es, fs, (s.frames_bind_other hii key v).trans he, hes⟩
  right j' hm := (h.right j' hm).trans_eq (t.size_bind j key w).symm
  get? name := by
    rw [get?_bind (h.left_lt List.mem_cons_self) hi, get?_bind (h.right j List.mem_cons_self) hj]
    split
    · exact .some hv
    · exact h.get? name

end Store

namespace Store.Match

variable {p : Pairing} {s t : Store}

lemma bind (h : Store.Match p s t) {i j : Nat} (hij : p.Heads i j) (name : String) {v w : Value}
    (hv : Value.Match p v w) : Store.Match p (s.bind i name v) (t.bind j name w) where
  identities_lt := h.identities_lt
  identities_oneToOne := h.identities_oneToOne
  frames {i' j'} hf := by
    obtain ⟨es, fs, he, hf', hm⟩ := h.frames hf
    have hiff := h.heads_frames hij hf
    by_cases hi : i = i'
    · obtain rfl := hi
      obtain rfl := hiff.1 rfl
      exact ⟨_, _, frames_bind he name v, frames_bind hf' name w, Entries.set_related hm name hv⟩
    · exact ⟨es, fs, (s.frames_bind_other hi name v).trans he, (t.frames_bind_other (mt hiff.2 hi) name w).trans hf', hm⟩
  frames_oneToOne := h.frames_oneToOne
  groups {a b} hg := by
    rcases h.heads_groups hij hg with ⟨a', b', rfl, rfl⟩ | ⟨hi, hj⟩
    · obtain ⟨hna, hnb⟩ := h.apart.nodup hg
      exact (h.groups hg).bind (List.nodup_cons.1 hna).1 (List.nodup_cons.1 hnb).1 name hv
    · exact (h.groups hg).congr (fun i' hm => s.frames_bind_other (ne_of_mem_of_not_mem hm hi).symm name v)
        fun j' hm => t.frames_bind_other (ne_of_mem_of_not_mem hm hj).symm name w
  apart := h.apart
  sinks_lt := h.sinks_lt
  sinks_oneToOne := h.sinks_oneToOne
  hidden {j' name'} hj := by
    obtain ⟨fs, hf, hn⟩ := h.hidden hj
    have hne : j ≠ j' := fun e => h.heads_hidden hij (e ▸ hj)
    exact ⟨fs, (t.frames_bind_other hne name w).trans hf, hn⟩
  hidden_not_paired := h.hidden_not_paired

lemma get?_related (h : Store.Match p s t) {V : String → Prop} {name : String} (hn : V name) {a b : Scope}
    (hs : Scope.Match p V a b) : Option.Rel (Value.Match p) (s.get? name a) (t.get? name b) := by
  induction hs with
  | nil => exact .none
  | cons hf _ ih =>
    obtain ⟨es, fs, he, hf, hm⟩ := h.frames hf
    have hg := Entries.get?_related hm name
    simp only [Store.get?, he, hf, Option.getD_some]
    generalize Entries.get? name es = x at hg ⊢
    generalize Entries.get? name fs = y at hg ⊢
    cases hg with
    | none => exact ih
    | some hv => exact .some hv
  | group hg _ ih =>
    have hv := (h.groups hg).get? name
    rw [Store.get?_append, Store.get?_append]
    generalize s.get? name _ = x at hv ⊢
    generalize t.get? name _ = y at hv ⊢
    cases hv with
    | none => exact ih
    | some hv => exact .some hv
  | hidden hh _ ih =>
    obtain ⟨fs, hf, hnone⟩ := h.hidden (hh name hn)
    simpa only [Store.get?, hf, Option.getD_some, hnone] using ih

end Store.Match

/-- What happens to corresponding stores when computations advance alike: the pairing grows, all new frames
are paired, by themselves or in groups, and paired sinks are written the same text. -/
structure Advance (p q : Pairing) (s t s' t' : Store) : Prop where
  le : p ≤ q
  stores : Store.Match q s' t'
  appends : p.Appends s s' t t'
  paired (i : Nat) : s.frames.size ≤ i → i < s'.frames.size → (∃ j, q.frames i j) ∨ ∃ a b, q.groups a b ∧ i ∈ a

namespace Advance

variable {p q r : Pairing} {s t s' t' s'' t'' : Store}

lemma refl (h : Store.Match p s t) : Advance p p s t s t :=
  ⟨le_rfl, h, .refl p s t, fun _ hi hi' => absurd hi' (not_lt.2 hi)⟩

lemma trans (h : Advance p q s t s' t') (h' : Advance q r s' t' s'' t'') : Advance p r s t s'' t'' where
  le := h.le.trans h'.le
  stores := h'.stores
  appends := h.appends.trans h.le h'.appends
  paired i hi hi' := by
    by_cases hlt : i < s'.frames.size
    · rcases h.paired i hi hlt with ⟨j, hj⟩ | ⟨a, b, hg, ha⟩
      · exact .inl ⟨j, h'.le.frames hj⟩
      · exact .inr ⟨a, b, h'.le.groups hg, ha⟩
    · exact h'.paired i (not_lt.1 hlt) hi'

lemma enter (h : Store.Match p s t) {es fs : List (String × Value)} (he : Fields.Match p es fs) :
    Advance p (p.addFrame s.frames.size t.frames.size) s t (s.enter es) (t.enter fs) where
  le := p.le_addFrame _ _
  stores := h.newFrame he
  appends := .refl p s t
  paired i hi hi' := by
    rw [s.size_enter] at hi'
    exact .inl ⟨t.frames.size, .inr ⟨by omega, rfl⟩⟩

lemma enter_braced (h : Store.Match p s t) {es fs : List (String × Value)} (he : Fields.Match p es fs) :
    Advance p (p.addGroup [s.frames.size] [t.frames.size + 1, t.frames.size]) s t (s.enter es)
      ((t.enter fs).enter []) where
  le := p.le_addGroup _ _
  stores := by
    refine h.addGroup (s.enter_grows es) ((t.enter_grows fs).trans (Store.enter_grows _ [])) ⟨?_, ?_, ?_⟩ (by simp)
      (by simp) (by simp)
    · intro i hi
      obtain rfl := List.mem_singleton.1 hi
      exact ⟨es, fs, s.frames_enter es, he⟩
    · intro j hj
      rw [Store.size_enter, t.size_enter]
      grind
    · intro name
      rw [s.get?_enter_one, t.get?_enter_two]
      exact Entries.get?_related he name
  appends := .refl p s t
  paired i hi hi' := by
    rw [s.size_enter] at hi'
    exact .inr ⟨_, _, .inr ⟨rfl, rfl⟩, by grind⟩

lemma enter_unbraced (h : Store.Match p s t) {es fs : List (String × Value)} (he : Fields.Match p es fs) :
    Advance p (p.addGroup [s.frames.size + 1, s.frames.size] [t.frames.size]) s t ((s.enter es).enter [])
      (t.enter fs) where
  le := p.le_addGroup _ _
  stores := by
    refine h.addGroup ((s.enter_grows es).trans (Store.enter_grows _ [])) (t.enter_grows fs) ⟨?_, ?_, ?_⟩ (by simp)
      (by simp) (by simp)
    · intro i hi
      rcases List.mem_cons.1 hi with rfl | hi
      · exact ⟨[], [], s.frames_enter_inner es, .nil⟩
      · obtain rfl := List.mem_singleton.1 hi
        exact ⟨es, fs, s.frames_enter_outer es, he⟩
    · intro j hj
      rw [t.size_enter]
      grind
    · intro name
      rw [s.get?_enter_two, t.get?_enter_one]
      exact Entries.get?_related he name
  appends := .refl p s t
  paired i hi hi' := by
    rw [Store.size_enter, s.size_enter] at hi'
    exact .inr ⟨_, _, .inr ⟨rfl, rfl⟩, by grind⟩

end Advance

inductive Outcome (p : Pairing) (R : Pairing → α → β → Prop) (s t : Store) :
    EStateM.Result Halt Store α → EStateM.Result Halt Store β → Prop
  | ok {q : Pairing} {a : α} {b : β} {s' t' : Store} :
    Advance p q s t s' t' → R q a b → Outcome p R s t (.ok a s') (.ok b t')
  | error {q : Pairing} {s' t' : Store} (halt : Halt) :
    Advance p q s t s' t' → Outcome p R s t (.error halt s') (.error halt t')

lemma Outcome.after {p q : Pairing} {R : Pairing → α → β → Prop} {s t s' t' : Store}
    {x : EStateM.Result Halt Store α} {y : EStateM.Result Halt Store β} (had : Advance p q s t s' t')
    (h : Outcome q R s' t' x y) : Outcome p R s t x y := by
  cases h with
  | ok had' hr => exact .ok (had.trans had') hr
  | error halt had' => exact .error halt (had.trans had')

lemma Outcome.bind {p : Pairing} {R : Pairing → α → β → Prop} {S : Pairing → α' → β' → Prop} {s t : Store}
    {m : Eval α} {m' : Eval β} {f : α → Eval α'} {f' : β → Eval β'} (h : Outcome p R s t (m s) (m' t))
    (hf : ∀ q a b s' t', m s = .ok a s' → m' t = .ok b t' → Advance p q s t s' t' → R q a b →
      Outcome q S s' t' (f a s') (f' b t')) :
    Outcome p S s t ((m >>= f) s) ((m' >>= f') t) := by
  simp only [Bind.bind, EStateM.bind]
  generalize m s = x at h hf ⊢
  generalize m' t = y at h hf ⊢
  cases h with
  | error halt had => exact .error halt had
  | @ok q a b s' t' had hr => exact (hf q a b s' t' rfl rfl had hr).after had

def Follows (p : Pairing) (R : Pairing → α → β → Prop) (m : Eval α) (m' : Eval β) : Prop :=
  ∀ s t, Store.Match p s t → Outcome p R s t (m s) (m' t)

namespace Follows

variable {p : Pairing} {R : Pairing → α → β → Prop} {S : Pairing → α' → β' → Prop}

lemma pure {a : α} {b : β} (h : R p a b) : Follows p R (Pure.pure a) (Pure.pure b) :=
  fun _ _ hs => .ok (.refl hs) h

lemma throw (halt : Halt) : Follows p R (MonadExcept.throw halt) (MonadExcept.throw halt) :=
  fun _ _ hs => .error halt (.refl hs)

lemma fail (fault : Fault) : Follows p R (Eval.fail fault) (Eval.fail fault) := throw _

lemma failType {fault fault' : TypeFault} (h : fault = fault') :
    Follows p R (Eval.failType fault) (Eval.failType fault') := h ▸ throw _

lemma bind {m : Eval α} {m' : Eval β} {f : α → Eval α'} {f' : β → Eval β'} (h : Follows p R m m')
    (hf : ∀ q, p ≤ q → ∀ a b, R q a b → Follows q S (f a) (f' b)) : Follows p S (m >>= f) (m' >>= f') :=
  fun s t hs => (h s t hs).bind fun q a b s' t' _ _ had hr => hf q had.le a b hr s' t' had.stores

lemma withStores {m : Eval α} {m' : Eval β} (h : ∀ s t, Store.Match p s t → Follows p R m m') :
    Follows p R m m' := fun s t hs => h s t hs s t hs

lemma ofExcept {x : Except Fault α} {y : Except Fault β} (h : Agree (R p) x y) :
    Follows p R (Eval.ofExcept x) (Eval.ofExcept y) := by
  cases h with
  | ok hr => exact pure hr
  | error fault => exact fail fault

lemma newIdentity : Follows p (fun q => q.identities) Eval.newIdentity Eval.newIdentity :=
  fun s t hs => .ok ⟨p.le_addIdentity _ _, hs.newIdentity, .refl p s t, by grind⟩ (.inr ⟨rfl, rfl⟩)

lemma newArray {xs ys : List Value} (h : List.Forall₂ (Value.Match p) xs ys) :
    Follows p Value.Match (Eval.newArray xs) (Eval.newArray ys) :=
  newIdentity.bind fun _ hq _ _ hi => pure (.array hi (Value.Match.mono_all hq h))

lemma newObject {xs ys : List (String × Value)} (h : Fields.Match p xs ys) :
    Follows p Value.Match (Eval.newObject xs) (Eval.newObject ys) :=
  newIdentity.bind fun _ hq _ _ hi => pure (.object hi (Fields.Match.mono hq h))

lemma within {es fs : List (String × Value)} (he : Fields.Match p es fs) {outer outer' : Scope} {m : Scope → Eval α}
    {m' : Scope → Eval β}
    (h : ∀ q, p ≤ q → ∀ i j, q.frames i j → Follows q R (m (i :: outer)) (m' (j :: outer'))) :
    Follows p R (Eval.within es outer m) (Eval.within fs outer' m') := by
  intro s t hs
  have had := Advance.enter hs he
  exact (h _ had.le _ _ (.inr ⟨rfl, rfl⟩) _ _ had.stores).after had

lemma within_braced {es fs : List (String × Value)} (he : Fields.Match p es fs) {outer outer' : Scope}
    {m : Scope → Eval α} {m' : Scope → Eval β}
    (h : ∀ q, p ≤ q → ∀ i j k, q.groups [i] [j, k] → Follows q R (m (i :: outer)) (m' (j :: k :: outer'))) :
    Follows p R (Eval.within es outer m) (Eval.within fs outer' fun scope => Eval.within [] scope m') := by
  intro s t hs
  have had := Advance.enter_braced hs he
  have ho := (h _ had.le _ _ _ (.inr ⟨rfl, rfl⟩) _ _ had.stores).after had
  simpa only [Eval.within, Store.enter, Array.size_push] using ho

lemma within_unbraced {es fs : List (String × Value)} (he : Fields.Match p es fs) {outer outer' : Scope}
    {m : Scope → Eval α} {m' : Scope → Eval β}
    (h : ∀ q, p ≤ q → ∀ i j k, q.groups [i, k] [j] → Follows q R (m (i :: k :: outer)) (m' (j :: outer'))) :
    Follows p R (Eval.within es outer fun scope => Eval.within [] scope m) (Eval.within fs outer' m') := by
  intro s t hs
  have had := Advance.enter_unbraced hs he
  have ho := (h _ had.le _ _ _ (.inr ⟨rfl, rfl⟩) _ _ had.stores).after had
  simpa only [Eval.within, Store.enter, Array.size_push] using ho

lemma define {i j : Nat} (hij : p.Heads i j) (outer outer' : Scope) (name : String) {v w : Value}
    (hv : Value.Match p v w) :
    Follows p (fun _ _ _ => True) (Eval.define (i :: outer) name v) (Eval.define (j :: outer') name w) :=
  fun _ _ hs => .ok ⟨le_rfl, hs.bind hij name hv, .refl p _ _, by simp; omega⟩ trivial

lemma lookup {V : String → Prop} {a b : Scope} (hs : Scope.Match p V a b) {name : String} (hn : V name) :
    Follows p Value.Match (Eval.lookup a name) (Eval.lookup b name) := by
  intro s t h
  have hg := h.get?_related hn hs
  rw [Eval.lookup_run, Eval.lookup_run]
  generalize s.get? name a = x at hg ⊢
  generalize t.get? name b = y at hg ⊢
  cases hg with
  | none => exact .error _ (.refl h)
  | some hv => exact .ok (.refl h) hv

lemma writeSink {i j : Nat} (h : p.sinks i j) (text : String) :
    Follows p (fun _ _ _ => True) (Eval.writeSink i text) (Eval.writeSink j text) := by
  intro s t hs
  refine .ok ⟨le_rfl, ?_, ?_, by grind⟩ trivial
  · exact hs.grow (Eval.Grows.writeSink i text s) (Eval.Grows.writeSink j text t)
  · intro i' j' h'
    have hiff := hs.sinks_oneToOne i j i' j' h h'
    by_cases hi : i = i'
    · exact ⟨text, by simp [Array.getElem?_modify, hi], by simp [Array.getElem?_modify, hiff.1 hi]⟩
    · exact ⟨"", by simp [Array.getElem?_modify, hi], by simp [Array.getElem?_modify, mt hiff.2 hi]⟩

end Follows

section Conversion

variable {p : Pairing}

lemma Attribute.toValue_match (a : Attribute) : Value.Match p a.toValue a.toValue := by
  cases a with
  | bare => exact .bool _
  | text value => exact .string value

lemma AttributeValue.toValue_match (v : AttributeValue) : Value.Match p v.toValue v.toValue := by
  cases v with
  | string value => exact .string value
  | number value => exact .number value
  | bool value => exact .bool value
  | null => exact .null
  | undefined => exact .undefined

lemma fields_match {γ : Type} {f : γ → Value} (hf : ∀ a, Value.Match p (f a) (f a)) (es : List (String × γ)) :
    Fields.Match p (es.map fun e => (e.1, f e.2)) (es.map fun e => (e.1, f e.2)) := by
  induction es with
  | nil => exact .nil
  | cons e _ ih => exact .cons (.mk e.1 (hf e.2)) ih

lemma Attributes.toValue_follows (attributes : Attributes) :
    Follows p Value.Match attributes.toValue attributes.toValue :=
  .newObject (fields_match Attribute.toValue_match attributes.entries)

lemma AttributeValues.toValue_follows (values : AttributeValues) :
    Follows p Value.Match values.toValue values.toValue :=
  .newObject (fields_match AttributeValue.toValue_match values.entries)

abbrev Values.Match (p : Pairing) : List Value → List Value → Prop := List.Forall₂ (Value.Match p)

mutual

lemma Node.toValue_follows {p : Pairing} : (node : Node) → Follows p Value.Match node.toValue node.toValue
  | .text value => by
    simp only [Node.toValue]
    exact .newObject (.cons (.mk _ (.string _)) (.cons (.mk _ (.string _)) .nil))
  | .prerendered html => by
    simp only [Node.toValue]
    exact .newObject (.cons (.mk _ (.string _)) (.cons (.mk _ (.string _)) .nil))
  | .element tag attributes children => by
    simp only [Node.toValue]
    refine (Attributes.toValue_follows attributes).bind fun q _ a a' ha => ?_
    refine (Node.toValues_follows children).bind fun q' hq' xs ys hxs => ?_
    refine (Follows.newArray hxs).bind fun q'' hq'' c c' hc => ?_
    have ha' := ha.mono (hq'.trans hq'')
    exact .newObject (.cons (.mk _ (.string _)) (.cons (.mk _ (.string _)) (.cons (.mk _ ha') (.cons (.mk _ hc) .nil))))

lemma Node.toValues_follows {p : Pairing} : (nodes : List Node) →
    Follows p Values.Match (Node.toValues nodes) (Node.toValues nodes)
  | [] => by
    simp only [Node.toValues]
    exact .pure .nil
  | node :: nodes => by
    simp only [Node.toValues]
    refine (Node.toValue_follows node).bind fun q _ v w hv => ?_
    exact (Node.toValues_follows nodes).bind fun q' hq' xs ys hs => .pure (.cons (hv.mono hq') hs)

end

lemma AnyNode.toValue_follows {x y : AnyNode Value} (h : AnyNode.Rel (Value.Match p) x y) :
    Follows p Value.Match x.toValue y.toValue := by
  cases h with
  | structured node => exact node.toValue_follows
  | stream h => exact .pure (.stream h)
  | raw node => exact .newObject (.cons (.mk _ (.string _)) (.cons (.mk _ (.string _)) .nil))

lemma AnyNode.Rel.mono_match {q : Pairing} (hpq : p ≤ q) {x y : AnyNode Value}
    (h : AnyNode.Rel (Value.Match p) x y) : AnyNode.Rel (Value.Match q) x y := by
  cases h with
  | structured node => exact .structured node
  | stream h => exact .stream (h.mono_match hpq)
  | raw node => exact .raw node

lemma AnyNode.toValues_follows {xs ys : List (AnyNode Value)}
    (h : List.Forall₂ (AnyNode.Rel (Value.Match p)) xs ys) :
    Follows p Values.Match (AnyNode.toValues xs) (AnyNode.toValues ys) := by
  induction xs generalizing p ys with
  | nil =>
    cases h
    exact .pure .nil
  | cons x xs ih =>
    cases h with
    | cons hx hs =>
      refine (AnyNode.toValue_follows hx).bind fun q hq v w hv => ?_
      refine (ih (hs.imp fun _ _ h => h.mono_match hq)).bind fun q' hq' _ _ hvs => ?_
      exact .pure (.cons (hv.mono hq') hvs)

lemma streams_match {xs ys : List (StreamNode Value)} (h : List.Forall₂ (StreamNode.Rel (Value.Match p)) xs ys) :
    Values.Match p (xs.map .stream) (ys.map .stream) := by
  rw [Values.Match, List.forall₂_map_left_iff, List.forall₂_map_right_iff]
  exact h.imp fun _ _ => .stream

lemma Extension.toValue_follows {e e' : Extension (StreamNode Value)}
    (h : e.Rel (StreamNode.Rel (Value.Match p)) e') : Follows p Value.Match e.toValue e'.toValue := by
  obtain ⟨attributes, children⟩ := e
  obtain ⟨attributes', children'⟩ := e'
  obtain rfl : attributes = attributes' := h.attributes
  rw [Extension.toValue_eq, Extension.toValue_eq]
  refine Follows.bind (R := Value.Match) ?_ fun q hq a a' ha => ?_
  · cases attributes with
    | none => exact .pure .undefined
    | some values => exact values.toValue_follows
  refine Follows.bind (R := Value.Match) ?_ fun q' hq' c c' hc => ?_
  · cases h.children with
    | none => exact .pure .undefined
    | some hs => exact .newArray (Value.Match.mono_all hq (streams_match hs))
  · exact .newObject (.cons (.mk _ (ha.mono hq')) (.cons (.mk _ hc) .nil))

end Conversion

section Support

variable {p : Pairing} {xs ys : List Value}

lemma Value.Match.attributeValues_eq {a b : Value} (h : Value.Match p a b) :
    a.attributeValues = b.attributeValues := by
  have ht := h.typeName_eq
  cases h with
  | object _ hs => simp only [attributeValues, Fields.Match.toAttributeValues_eq hs]
  | _ => simp_all only [attributeValues]

namespace Values.Match

lemma getElem? (h : Values.Match p xs ys) (i : Nat) : Option.Rel (Value.Match p) xs[i]? ys[i]? := by
  induction h generalizing i with
  | nil => exact .none
  | cons hv _ ih =>
    cases i with
    | zero => exact .some hv
    | succ i => simpa using ih i

lemma getD {x y : Option Value} (h : Option.Rel (Value.Match p) x y) :
    Value.Match p (x.getD .undefined) (y.getD .undefined) := by
  cases h with
  | none => exact .undefined
  | some h => exact h

lemma first (h : Values.Match p xs ys) : Value.Match p (Support.first xs) (Support.first ys) := by
  cases h with
  | nil => exact .undefined
  | cons hv _ => exact hv

lemma second (h : Values.Match p xs ys) : Value.Match p (Support.second xs) (Support.second ys) :=
  getD (h.getElem? 1)

lemma drop (h : Values.Match p xs ys) (n : Nat) : Values.Match p (xs.drop n) (ys.drop n) :=
  List.forall₂_drop n h

end Values.Match

namespace Support

lemma normalizeChildren_follows (h : Values.Match p xs ys) :
    Follows p Value.Match (normalizeChildren xs) (normalizeChildren ys) := by
  cases h with
  | nil => exact .failType rfl
  | cons hv hs =>
    have ht := hv.typeName_eq
    cases hv with
    | builder r =>
      have hn := AnyNode.normalize_related (S := Value.Match p) r (fun _ _ => Value.Match.toChild_related) hs
      refine (Follows.ofExcept (R := fun q => List.Forall₂ (AnyNode.Rel (Value.Match q))) hn).bind
        fun q _ _ _ hn => ?_
      exact (AnyNode.toValues_follows hn).bind fun _ _ _ _ hv => .newArray hv
    | _ => exact .failType (by rw [ht])

lemma flattenCompact_follows (h : Values.Match p xs ys) :
    Follows p Value.Match (flattenCompact xs) (flattenCompact ys) := by
  have hc := AnyNode.readAll_related (S := Value.Match p) (fun _ _ => AnyNode.toStructured_related)
    (fun _ _ => Value.Match.toChild_related) h
  refine (Follows.ofExcept (R := fun _ => List.Forall₂ (Child.Rel Eq)) hc).bind fun q _ _ _ hc => ?_
  have hn := Child.flatten_related (Builder.related_self structuredBuilder) hc
  refine (Follows.ofExcept (R := fun _ => List.Forall₂ Eq) hn).bind fun q _ ns ms hn => ?_
  obtain rfl : ns = ms := List.forall₂_eq_eq_eq ▸ hn
  exact (Node.toValues_follows _).bind fun _ _ _ _ hv => .newArray hv

lemma normalizeAttribute_match {a b : Value} (h : Value.Match p a b) :
    Value.Match p (normalizeAttribute a) (normalizeAttribute b) := by
  simp only [normalizeAttribute, h.toAttributeValue_eq]
  split
  · exact Attribute.toValue_match _
  · exact .null

lemma addItems_follows (h : Values.Match p xs ys) : Follows p Value.Match (addItems xs) (addItems ys) := by
  have hn := h.first.toNode?_related
  simp only [addItems, h.first.typeName_eq]
  generalize (first xs).toNode? = x at hn ⊢
  generalize (first ys).toNode? = y at hn ⊢
  cases hn with
  | none => exact .failType rfl
  | some hr =>
    dsimp only
    rw [h.second.attributeValues_eq]
    refine (Follows.ofExcept (R := fun _ => Eq) (.refl _ fun _ => rfl)).bind fun q hq values _ e => ?_
    subst e
    have hc := Value.Match.toChildren_related (Value.Match.mono_all hq (h.drop 2))
    have ha := AnyNode.addItems_related (hr.mono_match hq) values hc
    exact (Follows.ofExcept (R := fun q => AnyNode.Rel (Value.Match q)) ha).bind
      fun _ _ _ _ hn => AnyNode.toValue_follows hn

lemma hasChildren_eq {x y : Option Value} (h : Option.Rel (Value.Match p) x y) :
    hasChildren x = hasChildren y := by
  cases h with
  | none => rfl
  | some hv => cases hv with
    | array _ hs => simp only [hasChildren, isEmpty_eq hs]
    | _ => rfl

lemma checkVoid_follows (h : Values.Match p xs ys) : Follows p Value.Match (checkVoid xs) (checkVoid ys) := by
  simp only [checkVoid, h.first.text_eq, hasChildren_eq (h.getElem? 1)]
  exact (Follows.ofExcept (R := fun _ => Eq) (.refl _ fun _ => rfl)).bind fun _ _ _ _ _ => .pure (.bool _)

end Support

lemma Native.run_follows (function : Native) (h : Values.Match p xs ys) :
    Follows p Value.Match (function.run xs) (function.run ys) := by
  have hread {q : Pairing} : Follows q (fun _ => Eq) (Eval.ofExcept (Support.first xs).attributeValues)
      (Eval.ofExcept (Support.first ys).attributeValues) := by
    rw [h.first.attributeValues_eq]
    exact .ofExcept (.refl _ fun _ => rfl)
  cases function with
  | structured | stream | raw => exact .pure (.builder _)
  | normalizeChildren => exact Support.normalizeChildren_follows h
  | flattenCompact => exact Support.flattenCompact_follows h
  | escapeHTML =>
    simp only [run, h.first.text_eq]
    exact .pure (.string _)
  | isVoidElement =>
    simp only [run, h.first.text_eq]
    exact .pure (.bool _)
  | normalizeAttribute => exact .pure (Support.normalizeAttribute_match h.first)
  | normalizeAttributes =>
    exact hread.bind fun _ _ _ _ e => e ▸ Attributes.toValue_follows _
  | renderAttributes => exact hread.bind fun _ _ _ _ e => e ▸ .pure (.string _)
  | addItems => exact Support.addItems_follows h
  | safe =>
    simp only [run, h.first.text_eq]
    exact .pure (.safe _)
  | fragment => exact .newArray (h.drop 1)
  | checkVoid => exact Support.checkVoid_follows h

lemma Representation.build_follows (r : Representation) {make make' : {N : Type} → Builder N → N}
    (h : ∀ {M N : Type} {R : M → N → Prop} {a : Builder M} {b : Builder N}, Builder.Related R a b →
      R (make a) (make' b)) : Follows p Value.Match (r.build make) (r.build make') := by
  have hn : Agree (AnyNode.Rel (Value.Match p)) (AnyNode.build streamBuilder r fun b _ => .ok (make b))
      (AnyNode.build streamBuilder r fun b _ => .ok (make' b)) :=
    AnyNode.build_related r fun hb _ => .ok (h hb)
  exact (Follows.ofExcept (R := fun q => AnyNode.Rel (Value.Match q)) hn).bind
    fun _ _ _ _ hn => AnyNode.toValue_follows hn

lemma Representation.leafKind_eq {x y : Option Value} (h : Option.Rel (Value.Match p) x y) :
    leafKind x = leafKind y := by
  cases h with
  | none => rfl
  | some hv => cases hv <;> rfl

lemma Representation.element_follows (r : Representation) (tag : String) (h : Values.Match p xs ys) :
    Follows p Value.Match (r.method "element" (.string tag :: xs)) (r.method "element" (.string tag :: ys)) := by
  have hs : Values.Match p (.string tag :: xs) (.string tag :: ys) := .cons (.string tag) h
  simp only [method, hs.second.attributeValues_eq]
  refine (Follows.ofExcept (R := fun _ => Eq) (.refl _ fun _ => rfl)).bind fun q hq values _ e => ?_
  subst e
  have he := AnyNode.element_related (S := Value.Match q) r tag values (fun _ _ => Value.Match.toChild_related)
    (Value.Match.mono_all hq (hs.drop 2))
  exact (Follows.ofExcept (R := fun q => AnyNode.Rel (Value.Match q)) he).bind
    fun _ _ _ _ hn => AnyNode.toValue_follows hn

lemma Representation.method_follows (r : Representation) (name : String) (h : Values.Match p xs ys) :
    Follows p Value.Match (r.method name xs) (r.method name ys) := by
  by_cases htext : name = "text"
  · subst htext
    simp only [method, h.first.text_eq]
    exact r.build_follows fun hb => hb.text _
  by_cases hpre : name = "prerendered"
  · subst hpre
    simp only [method, h.first.text_eq]
    exact r.build_follows fun hb => hb.prerendered _
  by_cases helement : name = "element"
  · subst helement
    cases h with
    | nil => exact .failType rfl
    | cons hv hs =>
      have ht := hv.typeName_eq
      cases hv with
      | string tag => exact r.element_follows tag hs
      | _ => exact .failType (by rw [ht])
  simp only [method, htext, hpre, helement, if_false]
  split
  · rw [leafKind_eq (h.getElem? 1)]
    exact .pure (.stream (.generated _ h.first))
  · exact .failType rfl

end Support

end TemplateScript
