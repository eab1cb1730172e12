import Mathlib.Tactic.Ring
import Mathlib.Tactic.SplitIfs
import TemplateScript.Number.Decimal

namespace TemplateScript.Number

attribute [local instance (2000)] instPowNat

section Rounding

variable {a b d m n q s : Nat}

lemma nearest_eq (hd : 0 < d) (hlow : 2 * (m * d) ≤ 2 * a + d) (hhigh : 2 * a ≤ 2 * (m * d) + d)
    (htie : m % 2 = 1 → 2 * (m * d) < 2 * a + d ∧ 2 * a < 2 * (m * d) + d) : nearest a d = m := by
  have ha := Nat.div_add_mod' a d
  have hr := Nat.mod_lt a hd
  simp only [nearest]
  generalize a / d = q at *
  generalize a % d = r at *
  obtain rfl | rfl : m = q ∨ m = q + 1 := by
    have h1 : m ≤ q + 1 := by
      by_contra h
      have hmul : (q + 2) * d ≤ m * d := Nat.mul_le_mul_right d (by omega)
      rw [Nat.add_mul] at hmul
      omega
    have h2 : q ≤ m := by
      by_contra h
      have hmul : (m + 1) * d ≤ q * d := Nat.mul_le_mul_right d (by omega)
      rw [Nat.add_mul] at hmul
      omega
    omega
  · rw [if_pos]
    by_cases hodd : m % 2 = 1
    · have := htie hodd
      omega
    · omega
  · rw [Nat.add_mul] at hlow hhigh htie
    rw [if_neg]
    rintro (hlt | ⟨heq, heven⟩)
    · omega
    · have := htie (by omega)
      omega

lemma spacing_eq (hlt : q < 2 ^ (s + 53)) (hle : s = 0 ∨ 2 ^ (s + 52) ≤ q) : spacing q = s := by
  simp only [spacing]
  by_cases h0 : q = 0
  · subst h0
    obtain rfl | hle := hle
    · rfl
    · have := Nat.two_pow_pos (s + 52)
      omega
  · have hlog := (Nat.log2_lt h0).2 hlt
    obtain rfl | hle := hle
    · omega
    · have := (Nat.le_log2 h0).2 hle
      omega

lemma lt_of_spacing (n : Nat) : n < 2 ^ (spacing n + 53) := by
  have h : n < 2 ^ (n.log2 + 1) := Nat.lt_log2_self
  exact h.trans_le (Nat.pow_le_pow_right (by omega) (by simp only [spacing]; omega))

lemma le_of_spacing_pos (h : 0 < spacing n) : 2 ^ (spacing n + 52) ≤ n := by
  have h0 : n ≠ 0 := by
    rintro rfl
    simp [spacing] at h
  refine (Nat.le_log2 h0).1 ?_
  simp only [spacing] at h ⊢
  omega

/-- The quotient lies in the interval of those that round to the magnitude. -/
def Inside (n a b : Nat) : Prop :=
  let (low, high, closed) := roundingInterval n
  if closed then low * b ≤ 4 * a ∧ 4 * a ≤ high * b else low * b < 4 * a ∧ 4 * a < high * b

def reach (n : Nat) : Nat :=
  if n = 2 ^ (spacing n + 52) ∧ 0 < spacing n then 2 ^ spacing n else 2 * 2 ^ spacing n

lemma roundingInterval_eq (n : Nat) :
    roundingInterval n = (4 * n - reach n, 4 * n + 2 * 2 ^ spacing n, n / 2 ^ spacing n % 2 == 0) := rfl

lemma reach_le (n : Nat) : reach n ≤ 2 * 2 ^ spacing n := by
  simp only [reach]
  split <;> omega

lemma reach_lt (hn : 2 ^ spacing n ∣ n) (h0 : 0 < n) : reach n < 4 * n := by
  have := Nat.le_of_dvd h0 hn
  have := reach_le n
  omega

lemma inside_iff (hn : 2 ^ spacing n ∣ n) (h0 : 0 < n) : Inside n a b ↔
    if n / 2 ^ spacing n % 2 = 0 then
      4 * (n * b) ≤ 4 * a + reach n * b ∧ 4 * a ≤ 4 * (n * b) + 2 * (2 ^ spacing n * b)
    else 4 * (n * b) < 4 * a + reach n * b ∧ 4 * a < 4 * (n * b) + 2 * (2 ^ spacing n * b) := by
  have hlow : (4 * n - reach n) * b + reach n * b = 4 * (n * b) := by
    rw [← Nat.add_mul, Nat.sub_add_cancel (reach_lt hn h0).le, Nat.mul_assoc]
  simp only [Inside, roundingInterval_eq, beq_iff_eq, Nat.add_mul, Nat.mul_assoc] at hlow ⊢
  split <;> omega

lemma round_eq_mul (hb : 0 < b) (hlt : a < 2 ^ 53 * (b * 2 ^ s)) (hle : s = 0 ∨ 2 ^ 52 * (b * 2 ^ s) ≤ a)
    (hlow : 2 * (m * (b * 2 ^ s)) ≤ 2 * a + b * 2 ^ s) (hhigh : 2 * a ≤ 2 * (m * (b * 2 ^ s)) + b * 2 ^ s)
    (htie : m % 2 = 1 → 2 * (m * (b * 2 ^ s)) < 2 * a + b * 2 ^ s ∧ 2 * a < 2 * (m * (b * 2 ^ s)) + b * 2 ^ s) :
    round a b = m * 2 ^ s := by
  have hscale (k : Nat) : 2 ^ (s + k) * b = 2 ^ k * (b * 2 ^ s) := by rw [Nat.pow_add]; ring
  have hspacing : spacing (a / b) = s := by
    refine spacing_eq ?_ (hle.imp_right fun h => ?_)
    · rwa [Nat.div_lt_iff_lt_mul hb, hscale]
    · rwa [Nat.le_div_iff_mul_le hb, hscale]
  simp only [round, hspacing]
  rw [nearest_eq (Nat.mul_pos hb (Nat.two_pow_pos s)) hlow hhigh htie]

lemma round_eq_power (hb : 0 < b) (hlow : 4 * (2 ^ (s + 53) * b) ≤ 4 * a + 2 ^ (s + 1) * b)
    (hlt : a < 2 ^ (s + 53) * b) : round a b = 2 ^ (s + 53) := by
  have hpower : 2 ^ (s + 53) * b = 2 ^ 53 * (b * 2 ^ s) := by rw [Nat.pow_add]; ring
  have hgap : 2 ^ (s + 1) * b = 2 * (b * 2 ^ s) := by rw [Nat.pow_succ]; ring
  rw [round_eq_mul (m := 2 ^ 53) (s := s) hb, ← Nat.pow_add, Nat.add_comm]
  all_goals omega

lemma significand_lt (hm : n = 2 ^ spacing n * m) : m < 2 ^ 53 := by
  refine Nat.lt_of_mul_lt_mul_left (a := 2 ^ spacing n) ?_
  rw [← hm, ← Nat.pow_add]
  exact lt_of_spacing n

lemma le_significand (hm : n = 2 ^ spacing n * m) (hs : 0 < spacing n) : 2 ^ 52 ≤ m := by
  refine Nat.le_of_mul_le_mul_left (c := 2 ^ spacing n) ?_ (Nat.two_pow_pos _)
  rw [← hm, ← Nat.pow_add]
  exact le_of_spacing_pos hs

lemma round_eq (hn : 2 ^ spacing n ∣ n) (h0 : 0 < n) (hb : 0 < b) (h : Inside n a b) : round a b = n := by
  rw [inside_iff hn h0] at h
  obtain ⟨m, hm⟩ := hn
  have hdiv : n / 2 ^ spacing n = m := Nat.div_eq_of_eq_mul_right (Nat.two_pow_pos _) hm
  have hlt := significand_lt hm
  have hle := le_significand hm
  have hreach := Nat.mul_le_mul_right b (reach_le n)
  have hpower : n = 2 ^ (spacing n + 52) → 0 < spacing n → reach n = 2 ^ spacing n := fun h1 h2 => if_pos ⟨h1, h2⟩
  rw [hdiv] at h
  generalize reach n = r at *
  generalize spacing n = s at *
  have hlow : 4 * (n * b) ≤ 4 * a + r * b := by split at h <;> omega
  have hhigh : 4 * a ≤ 4 * (n * b) + 2 * (2 ^ s * b) := by split at h <;> omega
  have htie : m % 2 = 1 → 4 * (n * b) < 4 * a + r * b ∧ 4 * a < 4 * (n * b) + 2 * (2 ^ s * b) := by
    intro hodd
    rwa [if_neg (by omega)] at h
  by_cases hbelow : n = 2 ^ (s + 52) ∧ 0 < s ∧ a < n * b
  · obtain ⟨hn, hs, hab⟩ := hbelow
    obtain ⟨t, rfl⟩ : ∃ t, s = t + 1 := ⟨s - 1, by omega⟩
    obtain rfl := hpower hn hs
    rw [show t + 1 + 52 = t + 53 by omega] at hn
    rw [hn] at hlow hab ⊢
    exact round_eq_power hb hlow hab
  · have hnb : n * b = m * (b * 2 ^ s) := by rw [hm]; ring
    have hgap : 2 ^ s * b = b * 2 ^ s := Nat.mul_comm _ _
    have hstep := Nat.mul_pos hb (Nat.two_pow_pos s)
    rw [Nat.mul_assoc, hgap] at hreach
    have hmul {i j : Nat} (h : i < j) : i * (b * 2 ^ s) + b * 2 ^ s ≤ j * (b * 2 ^ s) := by
      rw [← Nat.succ_mul]
      exact Nat.mul_le_mul_right _ h
    rw [round_eq_mul (m := m) (s := s) hb, hm, Nat.mul_comm]
    · have := hmul hlt
      omega
    · -- Below the significand of a power of two there is only the case that was split off.
      refine (Nat.eq_zero_or_pos s).imp_right fun hs => ?_
      obtain heq | hgt := (hle hs).eq_or_lt
      · subst heq
        have hab : ¬ a < n * b := fun hab => hbelow ⟨by rw [hm, Nat.pow_add], hs, hab⟩
        omega
      · have := hmul hgt
        omega
    · omega
    · omega
    · intro hodd
      have := htie hodd
      omega

end Rounding

section Decimals

variable {n count : Nat} {d : Decimal}

lemma one_pos : 0 < one := by
  delta one
  exact Nat.two_pow_pos 1074

lemma limit_le : limit ≤ 10 ^ (309 : Nat) * one := by decide +kernel

lemma one_le_mul {j : Nat} (h : 0 < n) (hj : 324 ≤ j) : one ≤ n * 10 ^ j := by
  obtain ⟨p, hone, hp⟩ : ∃ p, one ≤ 10 ^ p ∧ p = 324 := ⟨324, by decide +kernel, rfl⟩
  exact hone.trans ((Nat.pow_le_pow_right (by omega) (hp ▸ hj)).trans (Nat.le_mul_of_pos_left _ h))

lemma magnitude_bounds (h : 0 < n) (hlt : n < limit) :
    -323 ≤ magnitude n ∧ magnitude n ≤ 309 ∧
      one * 10 ^ (magnitude n - 1).toNat ≤ n * 10 ^ (1 - magnitude n).toNat := by
  simp only [magnitude]
  split
  · next hone =>
    have hpos := Nat.length_toDigits_pos (b := 10) (n := n / one)
    have hle : (Nat.toDigits 10 (n / one)).length ≤ 309 := by
      rw [Nat.length_toDigits_le_iff (by omega) (by omega), Nat.div_lt_iff_lt_mul one_pos]
      exact hlt.trans_le limit_le
    have hge : 10 ^ ((Nat.toDigits 10 (n / one)).length - 1) ≤ n / one := by
      by_cases h1 : (Nat.toDigits 10 (n / one)).length = 1
      · rw [h1]
        exact Nat.div_pos hone one_pos
      · by_contra hlt
        have := (Nat.length_toDigits_le_iff (b := 10) (by omega) (by omega)).2 (Nat.lt_of_not_le hlt)
        omega
    generalize (Nat.toDigits 10 (n / one)).length = k at *
    refine ⟨by omega, by omega, ?_⟩
    rw [show ((k : Int) - 1).toNat = k - 1 by omega, show (1 - (k : Int)).toNat = 0 by omega, Nat.pow_zero, Nat.mul_one]
    exact (Nat.mul_le_mul_left one hge).trans (Nat.mul_div_le n one)
  · split
    · next j hj =>
      have hj' := List.find?_some hj
      have hmem := List.mem_range.1 (List.mem_of_find?_eq_some hj)
      refine ⟨by omega, by omega, ?_⟩
      rw [show (-(j : Int) - 1).toNat = 0 by omega, show (1 - -(j : Int)).toNat = j + 1 by omega, Nat.pow_zero,
        Nat.mul_one]
      simpa using hj'
    · next hnone =>
      have hlast := List.find?_eq_none.1 hnone 323 (by simp)
      rw [decide_eq_true_eq] at hlast
      exact absurd (one_le_mul h (by omega)) hlast

lemma scale_le {p q k : Nat} {x e : Int} (hx : x = e + k) (h : p * 10 ^ x.toNat ≤ q * 10 ^ (-x).toNat) :
    p * 10 ^ e.toNat * 10 ^ k ≤ q * 10 ^ (-e).toNat := by
  subst hx
  obtain ⟨m, rfl | rfl⟩ := e.eq_nat_or_neg
  · rw [show ((m : Int) + k).toNat = m + k by omega, show (-((m : Int) + k)).toNat = 0 by omega, Nat.pow_add,
      ← Nat.mul_assoc] at h
    simpa using h
  · rw [show (-(m : Int)).toNat = 0 by omega, show (- -(m : Int)).toNat = m by omega, Nat.pow_zero, Nat.mul_one]
    obtain ⟨i, rfl⟩ | ⟨i, rfl⟩ : (∃ i, k = m + i) ∨ ∃ i, m = k + i := by
      rcases Nat.le_total m k with hle | hle
      · exact .inl ⟨k - m, by omega⟩
      · exact .inr ⟨m - k, by omega⟩
    · rw [show (-(m : Int) + (m + i : Nat)).toNat = i by omega, show (-(-(m : Int) + (m + i : Nat))).toNat = 0 by omega,
        Nat.pow_zero, Nat.mul_one] at h
      calc p * 10 ^ (m + i) = p * 10 ^ i * 10 ^ m := by rw [Nat.pow_add]; ring
        _ ≤ q * 10 ^ m := Nat.mul_le_mul_right _ h
    · rw [show (-((k + i : Nat) : Int) + k).toNat = 0 by omega, show (-(-((k + i : Nat) : Int) + k)).toNat = i by omega,
        Nat.pow_zero, Nat.mul_one] at h
      calc p * 10 ^ k ≤ q * 10 ^ i * 10 ^ k := Nat.mul_le_mul_right _ h
        _ = q * 10 ^ (k + i) := by rw [Nat.pow_add]; ring

abbrev stepUp (n count : Nat) : Nat := 10 ^ (magnitude n - count).toNat

abbrev stepDown (n count : Nat) : Nat := 10 ^ (-(magnitude n - count)).toNat

lemma step_le (h : 0 < n) (hlt : n < limit) (hcount : 0 < count) :
    one * stepUp n count * 10 ^ (count - 1) ≤ n * stepDown n count := by
  obtain ⟨-, -, hbound⟩ := magnitude_bounds h hlt
  refine scale_le (x := magnitude n - 1) (by omega) ?_
  rwa [show -(magnitude n - 1) = 1 - magnitude n by omega]

lemma inside_step (n count c : Nat) : Inside n (c * stepUp n count * one) (stepDown n count) ↔
    if (n / 2 ^ spacing n % 2 == 0) = true then
      (4 * n - reach n) * stepDown n count ≤ c * stepUp n count * (4 * one) ∧
        c * stepUp n count * (4 * one) ≤ (4 * n + 2 * 2 ^ spacing n) * stepDown n count
    else (4 * n - reach n) * stepDown n count < c * stepUp n count * (4 * one) ∧
        c * stepUp n count * (4 * one) < (4 * n + 2 * 2 ^ spacing n) * stepDown n count := by
  have hposition : c * stepUp n count * (4 * one) = 4 * (c * stepUp n count * one) := by ring
  simp only [Inside, roundingInterval_eq, ← hposition]

section Choice

variable {α : Type} {P Q R : Prop} {_ : Decidable P} {_ : Decidable Q} {_ : Decidable R} {_ : Decidable (P ∧ Q)}
  {x y z : α}

lemma choice_eq_some
    (h : (if P ∧ Q then if R then some x else some y else if P then some x else if Q then some y else none) = some z) :
    P ∧ x = z ∨ Q ∧ y = z := by
  split_ifs at h <;> simp_all

lemma choice_eq_none
    (h : (if P ∧ Q then if R then some x else some y else if P then some x else if Q then some y else none) = none) :
    ¬ P ∧ ¬ Q := by
  split_ifs at h
  simp_all

end Choice

lemma decimalWith?_eq_some (h : decimalWith? n count = some d) :
    ∃ c, n * stepDown n count / (one * stepUp n count) ≤ c ∧ Inside n (c * stepUp n count * one) (stepDown n count) ∧
    d = if c = 10 ^ count then ⟨1, magnitude n⟩ else ⟨c, magnitude n - count⟩ := by
  simp only [decimalWith?, roundingInterval_eq] at h
  obtain ⟨hin, rfl⟩ | ⟨hin, rfl⟩ := choice_eq_some h
  · exact ⟨_, Nat.le_refl _, (inside_step n count _).2 hin, rfl⟩
  · exact ⟨_, Nat.le_succ _, (inside_step n count _).2 hin, rfl⟩

lemma decimalWith?_eq_none (h : decimalWith? n count = none) :
    ¬ Inside n (n * stepDown n count / (one * stepUp n count) * stepUp n count * one) (stepDown n count) ∧
    ¬ Inside n ((n * stepDown n count / (one * stepUp n count) + 1) * stepUp n count * one) (stepDown n count) := by
  simp only [decimalWith?, roundingInterval_eq] at h
  rw [inside_step, inside_step]
  exact choice_eq_none h

lemma decimalWith?_seventeen (h : 0 < n) (hlt : n < limit) (hn : 2 ^ spacing n ∣ n) : decimalWith? n 17 ≠ none := by
  intro hnone
  obtain ⟨hfirst, hsecond⟩ := decimalWith?_eq_none hnone
  have hstep : one * stepUp n 17 * 10 ^ (17 - 1) ≤ n * stepDown n 17 := step_le h hlt (by omega)
  rw [inside_iff hn h] at hfirst hsecond
  have hup : 0 < one * stepUp n 17 := Nat.mul_pos one_pos (Nat.pow_pos (by omega))
  have hdown : 0 < stepDown n 17 := Nat.pow_pos (by omega)
  generalize stepUp n 17 = up at *
  generalize stepDown n 17 = down at *
  have hgap := Nat.mul_pos (Nat.two_pow_pos (spacing n)) hdown
  have hbound : 2 * (one * up) < reach n * down := by
    simp only [reach]
    split
    · next hpower =>
      have hnd : n * down = 2 ^ 52 * (2 ^ spacing n * down) := by
        conv_lhs => rw [hpower.1, Nat.pow_add]
        ring
      omega
    · have hnd : n * down < 2 ^ 53 * (2 ^ spacing n * down) := by
        calc n * down < 2 ^ (spacing n + 53) * down := Nat.mul_lt_mul_of_pos_right (lt_of_spacing n) hdown
          _ = 2 ^ 53 * (2 ^ spacing n * down) := by rw [Nat.pow_add]; ring
      rw [Nat.mul_assoc]
      omega
  have hreach : reach n * down ≤ 2 * (2 ^ spacing n * down) := by
    rw [← Nat.mul_assoc]
    exact Nat.mul_le_mul_right _ (reach_le n)
  have hc := Nat.div_add_mod (n * down) (one * up)
  have hmod := Nat.mod_lt (n * down) hup
  generalize n * down / (one * up) = c at *
  rw [show c * up * one = one * up * c by ring] at hfirst
  rw [show (c + 1) * up * one = one * up * c + one * up by ring] at hsecond
  generalize n * down % (one * up) = r at *
  split at hfirst <;> split at hsecond <;> omega

lemma Inside.of_quotient {a b a' b' : Nat} (h : Inside n a b) (hb : 0 < b) (hb' : 0 < b') (hq : a * b' = a' * b) :
    Inside n a' b' := by
  have hcross (x : Nat) : (x * b ≤ 4 * a ↔ x * b' ≤ 4 * a') ∧ (4 * a ≤ x * b ↔ 4 * a' ≤ x * b') := by
    rw [← Nat.mul_le_mul_right_iff hb' (m := x * b), ← Nat.mul_le_mul_right_iff hb (m := x * b'),
      ← Nat.mul_le_mul_right_iff hb' (m := 4 * a), ← Nat.mul_le_mul_right_iff hb (m := 4 * a'),
      show 4 * a * b' = 4 * a' * b by rw [Nat.mul_assoc, hq, Nat.mul_assoc], show x * b * b' = x * b' * b by ring]
    exact ⟨Iff.rfl, Iff.rfl⟩
  simp only [Inside, roundingInterval_eq, ← Nat.not_le] at h ⊢
  simpa only [hcross] using h

lemma shortest_inside (h : 0 < n) (hlt : n < limit) (hn : 2 ^ spacing n ∣ n) :
    (shortest n).digits ≠ 0 ∧ -340 ≤ (shortest n).exponent ∧ (shortest n).exponent ≤ 309 ∧
      Inside n ((shortest n).digits * 10 ^ (shortest n).exponent.toNat * one)
        (10 ^ (-(shortest n).exponent).toNat) := by
  obtain ⟨k, d, hk, hd, hs⟩ : ∃ k d, k < 17 ∧ decimalWith? n (k + 1) = some d ∧ shortest n = d := by
    cases hfound : (List.range 17).findSome? fun k => decimalWith? n (k + 1) with
    | none => exact absurd (List.findSome?_eq_none_iff.1 hfound 16 (by simp)) (decimalWith?_seventeen h hlt hn)
    | some d =>
      obtain ⟨k, hk, hd⟩ := List.exists_of_findSome?_eq_some hfound
      exact ⟨k, d, List.mem_range.1 hk, hd, by simp only [shortest, hfound, Option.getD_some]⟩
  obtain ⟨c, hc, hin, rfl⟩ := decimalWith?_eq_some hd
  obtain ⟨hlow, hhigh, -⟩ := magnitude_bounds h hlt
  have hpos : 0 < c := by
    refine Nat.lt_of_lt_of_le ?_ hc
    refine Nat.div_pos ?_ (Nat.mul_pos one_pos (Nat.pow_pos (by omega)))
    exact (Nat.le_mul_of_pos_right _ (Nat.pow_pos (by omega))).trans (step_le h hlt (by omega))
  rw [hs]
  split
  · next hten =>
    subst hten
    have hexp : k + 1 + (magnitude n - (k + 1 : Nat)).toNat + (-magnitude n).toNat =
        (magnitude n).toNat + (-(magnitude n - (k + 1 : Nat))).toNat := by omega
    have hquotient : 10 ^ (k + 1) * stepUp n (k + 1) * one * 10 ^ (-magnitude n).toNat =
        1 * 10 ^ (magnitude n).toNat * one * stepDown n (k + 1) := by
      calc 10 ^ (k + 1) * stepUp n (k + 1) * one * 10 ^ (-magnitude n).toNat
          = 10 ^ (k + 1 + (magnitude n - (k + 1 : Nat)).toNat + (-magnitude n).toNat) * one := by
            simp only [Nat.pow_add]
            ring
        _ = 1 * 10 ^ (magnitude n).toNat * one * stepDown n (k + 1) := by
            rw [hexp, Nat.pow_add]
            ring
    have hmove := hin.of_quotient (Nat.pow_pos (by omega)) (Nat.pow_pos (by omega)) hquotient
    refine ⟨by simp, by simp only; omega, by simp only; omega, ?_⟩
    dsimp only
    exact hmove
  · exact ⟨by simpa using hpos.ne', by simp only; omega, by simp only; omega, hin⟩

end Decimals

section Numerals

variable {n k : Nat} {e : Int}

lemma ofUnits_eq (hn : IsExact n) {a b : Nat} (h : round a b = n) : ofUnits false a b = .finite n hn := by
  subst h
  simp only [ofUnits, dif_pos hn.2]
  rfl

lemma ofDecimal_of_inside (hn : IsExact n) (h0 : 0 < n) (hk : k ≠ 0) (hlow : -340 ≤ e) (hhigh : e ≤ 310)
    (h : Inside n (k * 10 ^ e.toNat * one) (10 ^ (-e).toNat)) : ofDecimal false k e = .finite n hn := by
  simp only [ofDecimal]
  rw [if_neg hk, if_neg (by omega), if_neg (by omega)]
  exact ofUnits_eq hn (round_eq hn.1 h0 (Nat.pow_pos (by omega)) h)

inductive Numeral (x : Number) : List Char → Prop
  | whole {ds : List Char} : ds ≠ [] → (∀ c ∈ ds, c.isDigit) → ofDecimal false (ofDigits ds) 0 = x → Numeral x ds
  | fraction {ws fs : List Char} : ws ≠ [] → fs ≠ [] → (∀ c ∈ ws, c.isDigit) → (∀ c ∈ fs, c.isDigit) →
    ofDecimal false (ofDigits (ws ++ fs)) (-fs.length) = x → Numeral x (ws ++ '.' :: fs)

lemma ofDigits_toDigits (n : Nat) : ofDigits (Nat.toDigits 10 n) = n := Nat.ofDigitChars_toDigits (by omega) (by omega)

lemma ofDigits_append (cs ds : List Char) : ofDigits (cs ++ ds) = 10 ^ ds.length * ofDigits cs + ofDigits ds :=
  (Nat.ofDigitChars_append 0).trans Nat.ofDigitChars_eq_ofDigitChars_zero

lemma ofDigits_zeros (n : Nat) : ofDigits (List.replicate n '0') = 0 := Nat.ofDigitChars_replicate_zero

lemma isDigit_of_mem_toDigits {c : Char} (h : c ∈ Nat.toDigits 10 n) : c.isDigit :=
  Nat.isDigit_of_mem_toDigits (by omega) (by omega) h

lemma isDigit_of_mem_zeros {c : Char} (h : c ∈ List.replicate n '0') : c.isDigit := by
  rw [List.eq_of_mem_replicate h]
  rfl

lemma Decimal.numeral_text {x : Number} (d : Decimal)
    (h : ofDecimal false (d.digits * 10 ^ d.exponent.toNat) (-(-d.exponent).toNat : Int) = x) :
    Numeral x d.text.toList := by
  simp only [Decimal.text]
  have hne : Nat.toDigits 10 d.digits ≠ [] := Nat.toDigits_ne_nil
  have hdigits := ofDigits_toDigits d.digits
  have hmem (c : Char) (hc : c ∈ Nat.toDigits 10 d.digits) := isDigit_of_mem_toDigits hc
  generalize Nat.toDigits 10 d.digits = ds at *
  split
  · next hplaces =>
    rw [String.toList_ofList]
    refine .whole (by simp [hne]) ?_ ?_
    · intro c hc
      obtain hc | hc := List.mem_append.1 hc
      · exact hmem c hc
      · exact isDigit_of_mem_zeros hc
    · rw [ofDigits_append, ofDigits_zeros, hdigits, List.length_replicate, Nat.add_zero, Nat.mul_comm]
      simpa [hplaces] using h
  · next hplaces =>
    rw [show d.exponent.toNat = 0 by omega, Nat.pow_zero, Nat.mul_one] at h
    split
    · next hlt =>
      rw [String.toList_ofList]
      refine .fraction ?_ ?_ (fun c hc => hmem c (List.mem_of_mem_take hc))
        (fun c hc => hmem c (List.mem_of_mem_drop hc)) ?_
      · rw [ne_eq, ← List.length_eq_zero_iff, List.length_take]
        omega
      · rw [ne_eq, ← List.length_eq_zero_iff, List.length_drop]
        omega
      · rw [List.take_append_drop, hdigits, List.length_drop, Nat.sub_sub_self hlt.le]
        exact h
    · next hle =>
      rw [String.toList_ofList, List.cons_append, List.cons_append]
      refine .fraction (List.cons_ne_nil '0' []) (by simp [hne]) (by simp) ?_ ?_
      · intro c hc
        obtain hc | hc := List.mem_append.1 hc
        · exact isDigit_of_mem_zeros hc
        · exact hmem c hc
      · rw [← List.append_assoc, ofDigits_append, ofDigits_append, ofDigits_zeros, hdigits, List.length_append,
          List.length_replicate, Nat.sub_add_cancel (Nat.le_of_not_lt hle)]
        simpa [ofDigits, digitValue] using h

lemma shortest_read (hn : IsExact n) (h : 0 < n) :
    ofDecimal false ((shortest n).digits * 10 ^ (shortest n).exponent.toNat) (-(-(shortest n).exponent).toNat : Int) =
      .finite n hn := by
  obtain ⟨hdigits, hlow, hhigh, hin⟩ := shortest_inside h hn.2 hn.1
  refine ofDecimal_of_inside hn h (Nat.mul_ne_zero hdigits (Nat.pow_pos (by omega)).ne') (by omega) (by omega) ?_
  rw [Int.toNat_neg_natCast, Int.neg_neg, Int.toNat_natCast, Nat.pow_zero, Nat.mul_one]
  exact hin

lemma whole_read (hn : IsExact n) (h : n % one = 0) : ofDecimal false (n / one) 0 = .finite n hn := by
  by_cases h0 : n = 0
  · subst h0
    rw [Nat.zero_div]
    rfl
  · have hmul : n / one * 10 ^ (0 : Int).toNat * one = n := by
      rw [Int.toNat_zero, Nat.pow_zero, Nat.mul_one]
      exact Nat.div_mul_cancel (Nat.dvd_of_mod_eq_zero h)
    have hdiv : n / one ≠ 0 := by
      intro hdiv
      rw [hdiv, Nat.zero_mul, Nat.zero_mul] at hmul
      exact h0 hmul.symm
    refine ofDecimal_of_inside hn (by omega) hdiv (by omega) (by omega) ?_
    have hgap := Nat.two_pow_pos (spacing n)
    have hreach : 0 < reach n := by
      simp only [reach]
      split <;> omega
    rw [hmul, inside_iff hn.1 (by omega), Int.neg_zero, Int.toNat_zero, Nat.pow_zero, Nat.mul_one, Nat.mul_one,
      Nat.mul_one]
    split <;> omega

lemma numeral_text {u : Int} (hu : IsExact u.natAbs) (h : 0 ≤ u) :
    Numeral (.finite u hu) (text (.finite u hu)).toList := by
  obtain ⟨n, rfl⟩ := Int.eq_ofNat_of_zero_le h
  simp only [text, magnitudeText]
  rw [if_neg (by omega)]
  simp only [Int.natAbs_natCast] at hu ⊢
  split
  · next hwhole =>
    rw [String.toList_ofList]
    refine .whole Nat.toDigits_ne_nil (fun c => isDigit_of_mem_toDigits) ?_
    rw [ofDigits_toDigits]
    exact whole_read hu hwhole.1
  · next hwhole =>
    refine Decimal.numeral_text _ (shortest_read hu (Nat.pos_of_ne_zero ?_))
    rintro rfl
    exact hwhole ⟨Nat.zero_mod _, Nat.mul_pos (Nat.pow_pos (by omega)) one_pos⟩

end Numerals

end TemplateScript.Number
