/-!
Numbers of the scripting language: binary64 values as exact data. A finite number is an integer
count of the smallest positive magnitude `2 ^ (-1074)`, so sums are sums of integers followed by one
rounding. The two zeros are one value, because nothing in the language tells them apart.
-/

namespace TemplateScript

attribute [local instance (2000)] instPowNat

namespace Number

def one : Nat := 2 ^ (1074 : Nat)

def limit : Nat := 2 ^ (2098 : Nat)

/-- How many low bits of a magnitude have to be zero for it to fit into 53 significant bits. -/
def spacing (n : Nat) : Nat := n.log2 - 52

def IsExact (n : Nat) : Prop := 2 ^ spacing n ∣ n ∧ n < limit

instance (n : Nat) : Decidable (IsExact n) := by unfold IsExact; infer_instance

def nearest (n d : Nat) : Nat :=
  let q := n / d
  let r := n % d
  if 2 * r < d ∨ (2 * r = d ∧ q % 2 = 0) then q else q + 1

def round (n d : Nat) : Nat :=
  let s := spacing (n / d)
  nearest n (d * 2 ^ s) * 2 ^ s

theorem nearest_le (n d : Nat) : nearest n d ≤ n / d + 1 := by
  simp only [nearest]
  split <;> omega

theorem div_lt_two_pow_spacing (q : Nat) : q / 2 ^ spacing q < 2 ^ (53 : Nat) := by
  rw [Nat.div_lt_iff_lt_mul (Nat.two_pow_pos _), ← Nat.pow_add]
  have h : q < 2 ^ (q.log2 + 1) := Nat.lt_log2_self
  exact Nat.lt_of_lt_of_le h (Nat.pow_le_pow_right (by omega) (by simp only [spacing]; omega))

theorem two_pow_spacing_dvd {m s : Nat} (h : m ≤ 2 ^ (53 : Nat)) : 2 ^ spacing (m * 2 ^ s) ∣ m * 2 ^ s := by
  by_cases hm : m = 2 ^ (53 : Nat)
  · subst hm
    rw [← Nat.pow_add]
    exact Nat.pow_dvd_pow 2 (by simp only [spacing, Nat.log2_two_pow]; omega)
  · by_cases h0 : m * 2 ^ s = 0
    · simp [h0]
    · have hlt : m * 2 ^ s < 2 ^ (53 + s) := by
        rw [Nat.pow_add]
        exact Nat.mul_lt_mul_of_pos_right (by omega) (Nat.two_pow_pos s)
      have hlog := (Nat.log2_lt h0).2 hlt
      exact Nat.dvd_trans (Nat.pow_dvd_pow 2 (by simp only [spacing]; omega)) (Nat.dvd_mul_left _ _)

theorem two_pow_spacing_dvd_round (n d : Nat) : 2 ^ spacing (round n d) ∣ round n d := by
  simp only [round]
  apply two_pow_spacing_dvd
  have h := nearest_le n (d * 2 ^ spacing (n / d))
  rw [← Nat.div_div_eq_div_mul] at h
  have := div_lt_two_pow_spacing (n / d)
  omega

end Number

inductive Number where
  | nan
  | infinite (negative : Bool)
  | finite (units : Int) (exact : Number.IsExact units.natAbs)
  deriving DecidableEq

namespace Number

def signed (negative : Bool) (n : Nat) : Int := if negative then -n else n

theorem natAbs_signed (negative : Bool) (n : Nat) : (signed negative n).natAbs = n := by
  cases negative <;> simp [signed]

def ofUnits (negative : Bool) (n d : Nat) : Number :=
  if h : round n d < limit then
    .finite (signed negative (round n d))
      ⟨by rw [natAbs_signed]; exact two_pow_spacing_dvd_round n d, by rw [natAbs_signed]; exact h⟩
  else .infinite negative

theorem two_pow_le_limit {k : Nat} (hk : k ≤ 2098) : 2 ^ k ≤ limit := by
  obtain ⟨d, hd⟩ := Nat.exists_eq_add_of_le hk
  delta limit
  rw [hd, Nat.pow_add]
  exact Nat.le_mul_of_pos_right _ (Nat.two_pow_pos d)

theorem isExact_mul_two_pow {n : Nat} (h : n < 2 ^ (53 : Nat)) (s : Nat) (hs : 53 + s ≤ 2098) :
    IsExact (n * 2 ^ s) := by
  have hn : n * 2 ^ s < 2 ^ (53 : Nat) * 2 ^ s := Nat.mul_lt_mul_of_pos_right h (Nat.two_pow_pos s)
  rw [← Nat.pow_add] at hn
  exact ⟨two_pow_spacing_dvd (Nat.le_of_lt h), Nat.lt_of_lt_of_le hn (two_pow_le_limit hs)⟩

theorem isExact_mul_one {n : Nat} (h : n < 2 ^ (53 : Nat)) : IsExact (n * one) := by
  delta one
  exact isExact_mul_two_pow h 1074 (by omega)

def ofNat (n : Nat) : Number :=
  if h : n < 2 ^ (53 : Nat) then .finite (n * one : Nat) (isExact_mul_one h)
  else ofUnits false (n * one) 1

theorem limit_pos : 0 < limit := by
  delta limit
  exact Nat.two_pow_pos 2098

theorem isExact_zero : IsExact 0 := ⟨Nat.dvd_zero _, limit_pos⟩

def zero : Number := .finite 0 isExact_zero

/-- The number nearest to `digits * 10 ^ exponent`. The two outer ranges give the answer without
forming the power of ten. -/
def ofDecimal (negative : Bool) (digits : Nat) (exponent : Int) : Number :=
  if digits = 0 then zero
  else if 310 < exponent then .infinite negative
  else if exponent < -(digits.log2 + 340 : Nat) then zero
  else ofUnits negative (digits * 10 ^ exponent.toNat * one) (10 ^ (-exponent).toNat)

def equals : Number → Number → Bool
  | .infinite a, .infinite b => a == b
  | .finite a _, .finite b _ => a == b
  | _, _ => false

def add : Number → Number → Number
  | .nan, _ | _, .nan => .nan
  | .infinite a, .infinite b => if a = b then .infinite a else .nan
  | .infinite a, .finite _ _ | .finite _ _, .infinite a => .infinite a
  | .finite a _, .finite b _ => ofUnits (decide (a + b < 0)) (a + b).natAbs 1

def isTruthy : Number → Bool
  | .nan => false
  | .infinite _ => true
  | .finite u _ => u != 0

def toNat? : Number → Option Nat
  | .finite u _ => if 0 ≤ u ∧ u.natAbs % one = 0 then some (u.natAbs / one) else none
  | _ => none

end Number

end TemplateScript
