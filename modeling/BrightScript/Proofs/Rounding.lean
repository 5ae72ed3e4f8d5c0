import Mathlib.Algebra.Order.Floor.Semifield
import Mathlib.Data.Int.Log
import Mathlib.Data.Rat.Floor
import Mathlib.Tactic.FieldSimp
import Mathlib.Tactic.Linarith
import Mathlib.Tactic.Positivity
import BrightScript.Number.General
set_option autoImplicit false

/-!
Rounding to significant digits. A power of ten and digits come out of one rounding, and digits alone
out of another, at the place that the power leaves; the two never disagree. Main statement:
`significant_rounds`.
-/

namespace BrightScript

-- The nearest whole number, and the even one of two that are equally near.
structure Nearest (x : ℚ) (n : ℤ) : Prop where
  near : |x - n| ≤ 1 / 2
  even : |x - n| = 1 / 2 → Even n

namespace Nearest

variable {x : ℚ} {n m k : ℤ}

theorem of_closer (closer : |x - n| < 1 / 2) : Nearest x n :=
  ⟨closer.le, fun half => absurd half closer.ne⟩

theorem of_half (m : ℕ) : Nearest (m + 1 / 2) (m + m % 2 : ℕ) := by
  have even : Even (m + m % 2) := by
    rw [Nat.even_iff]
    omega
  refine ⟨?_, fun _ => by exact_mod_cast even⟩
  rw [abs_le]
  rcases Nat.mod_two_eq_zero_or_one m with parity | parity <;>
    · rw [parity]
      push_cast
      constructor <;> linarith

theorem not_lt (first : Nearest x n) (second : Nearest x m) : ¬ n < m := by
  intro less
  have low := (abs_le.1 first.near).2
  have high := (abs_le.1 second.near).1
  have next : (n : ℚ) + 1 ≤ m := by exact_mod_cast less
  have most : (m : ℚ) < n + 2 := by linarith
  have same : m = n + 1 := by
    have below : m < n + 2 := by exact_mod_cast most
    omega
  subst same
  push_cast at high next
  have half : x - n = 1 / 2 := by linarith
  have even := first.even (by rw [half]; norm_num)
  have odd : Even (n + 1) := second.even (by
    have other : x - ((n + 1 : ℤ) : ℚ) = -(1 / 2) := by
      push_cast
      linarith
    rw [other]
    norm_num)
  exact Int.even_add_one.1 odd even

theorem unique (first : Nearest x n) (second : Nearest x m) : n = m :=
  Int.le_antisymm (Int.not_lt.1 (second.not_lt first)) (Int.not_lt.1 (first.not_lt second))

theorem closest (nearest : Nearest x n) (k : ℤ) : |x - n| ≤ |x - k| := by
  by_cases same : k = n
  · rw [same]
  · have apart : (1 : ℚ) ≤ |((k - n : ℤ) : ℚ)| := by
      exact_mod_cast Int.one_le_abs (sub_ne_zero.2 same)
    have split : ((k - n : ℤ) : ℚ) = x - n - (x - k) := by
      push_cast
      ring
    have far := abs_sub (x - n) (x - k)
    rw [← split] at far
    have near := nearest.near
    linarith

theorem of_least (nearest : Nearest x n) (least : k ≤ x) : k ≤ n := by
  have near := (abs_le.1 nearest.near).2
  have less : (k : ℚ) < n + 1 := by linarith
  exact Int.lt_add_one_iff.1 (by exact_mod_cast less)

theorem of_most (nearest : Nearest x n) (most : x ≤ k) : n ≤ k := by
  have near := (abs_le.1 nearest.near).1
  have less : (n : ℚ) < k + 1 := by linarith
  exact Int.lt_add_one_iff.1 (by exact_mod_cast less)

theorem neg (nearest : Nearest x n) : Nearest (-x) (-n) := by
  have same : |(-x) - ((-n : ℤ) : ℚ)| = |x - n| := by
    rw [← abs_neg]
    push_cast
    ring_nf
  refine ⟨?_, fun half => ?_⟩
  · rw [same]
    exact nearest.near
  · rw [same] at half
    exact (nearest.even half).neg

theorem tenth (nearest : Nearest x (10 * k)) (below : x ≤ 10 * k) : Nearest (x / 10) k := by
  have near := (abs_le.1 nearest.near).1
  push_cast at near
  apply of_closer
  rw [abs_lt]
  constructor <;> linarith

end Nearest

def lastPlace (precision : ℕ) (x : ℚ) : ℤ :=
  precision - 1 - Int.log 10 |x|

def RoundedTo (precision : ℕ) (x rounded : ℚ) : Prop :=
  ∃ n : ℤ, Nearest (x * 10 ^ lastPlace precision x) n ∧ rounded = n * 10 ^ (-lastPlace precision x)

namespace RoundedTo

variable {precision : ℕ} {x a b : ℚ}

theorem unique (first : RoundedTo precision x a) (second : RoundedTo precision x b) : a = b := by
  obtain ⟨n, nearest, rfl⟩ := first
  obtain ⟨m, again, rfl⟩ := second
  rw [nearest.unique again]

theorem neg (rounded : RoundedTo precision x a) : RoundedTo precision (-x) (-a) := by
  obtain ⟨n, nearest, rfl⟩ := rounded
  have place : lastPlace precision (-x) = lastPlace precision x := by
    rw [lastPlace, abs_neg, lastPlace]
  refine ⟨-n, ?_, ?_⟩
  · rw [place, neg_mul]
    exact nearest.neg
  · rw [place]
    push_cast
    rw [neg_mul]

end RoundedTo

section Quotients

variable {numerator denominator : ℕ}

theorem round_quotient_nearest (numerator : ℕ) (positive : 0 < denominator) :
    Nearest (numerator / denominator) (roundQuotient numerator denominator) := by
  have some : (0 : ℚ) < denominator := by exact_mod_cast positive
  have whole : (numerator : ℚ) =
      denominator * (numerator / denominator : ℕ) + (numerator % denominator : ℕ) := by
    exact_mod_cast (Nat.div_add_mod numerator denominator).symm
  have less : ((numerator % denominator : ℕ) : ℚ) < denominator := by
    exact_mod_cast Nat.mod_lt numerator positive
  unfold roundQuotient
  generalize numerator / denominator = quotient at *
  generalize numerator % denominator = left at *
  have least : 0 ≤ (left : ℚ) / denominator := by positivity
  have most : (left : ℚ) / denominator < 1 := (div_lt_one some).2 less
  have split : (numerator : ℚ) / denominator = quotient + left / denominator := by
    rw [whole]
    field_simp
  rw [split]
  dsimp only
  by_cases below : 2 * left < denominator
  · have half : (left : ℚ) / denominator < 1 / 2 := by
      rw [div_lt_div_iff₀ some two_pos]
      exact_mod_cast (by omega : left * 2 < 1 * denominator)
    rw [if_pos below]
    apply Nearest.of_closer
    rw [abs_lt]
    push_cast
    constructor <;> linarith
  · by_cases tie : 2 * left = denominator
    · have half : (left : ℚ) / denominator = 1 / 2 := by
        rw [div_eq_div_iff some.ne' two_ne_zero]
        exact_mod_cast (by omega : left * 2 = 1 * denominator)
      rw [if_neg below, if_pos tie, half]
      exact .of_half quotient
    · have half : 1 / 2 < (left : ℚ) / denominator := by
        rw [div_lt_div_iff₀ two_pos some]
        exact_mod_cast (by omega : 1 * denominator < left * 2)
      rw [if_neg below, if_neg tie]
      apply Nearest.of_closer
      rw [abs_lt]
      push_cast
      constructor <;> linarith

theorem scaled_quotient (base numerator denominator : ℕ) (places : ℤ) :
    ((numerator * Nat.pow base places.toNat : ℕ) : ℚ) /
      (denominator * Nat.pow base (-places).toNat : ℕ) =
      numerator / denominator * base ^ places := by
  simp only [Nat.pow_eq]
  obtain ⟨count, rfl | rfl⟩ := places.eq_nat_or_neg
  · simp [mul_div_right_comm]
  · simp [div_div, ← div_eq_mul_inv]

theorem round_at_nearest (numerator : ℕ) (positive : 0 < denominator) (places : ℤ) :
    Nearest ((numerator / denominator : ℚ) * 10 ^ places)
      (roundAt numerator denominator places) := by
  have bottom : 0 < denominator * Nat.pow 10 (-places).toNat :=
    Nat.mul_pos positive (Nat.pow_pos (by decide))
  have nearest := round_quotient_nearest (numerator * Nat.pow 10 places.toNat) bottom
  rwa [scaled_quotient] at nearest

theorem digit_count_log {n : ℕ} (positive : 0 < n) : digitCount n = Nat.log 10 n + 1 := by
  unfold digitCount
  apply Nat.le_antisymm
  · rw [Nat.length_toDigits_le_iff (by decide) (Nat.succ_pos _)]
    exact Nat.lt_pow_succ_log_self (by decide) n
  · by_contra fewer
    have low : (Nat.toDigits 10 n).length ≤ Nat.log 10 n := by omega
    have some : 0 < Nat.log 10 n := Nat.lt_of_lt_of_le Nat.length_toDigits_pos low
    rw [Nat.length_toDigits_le_iff (by decide) some] at low
    exact Nat.not_lt.2 (Nat.pow_log_le_self 10 positive.ne') low

theorem digit_count_clog {n : ℕ} (more : 1 < n) : digitCount (n - 1) = Nat.clog 10 n := by
  unfold digitCount
  have power (k : ℕ) : n - 1 < 10 ^ k ↔ n ≤ 10 ^ k := by
    have positive : 0 < 10 ^ k := Nat.pow_pos (by decide)
    omega
  apply Nat.le_antisymm
  · rw [Nat.length_toDigits_le_iff (by decide) (Nat.clog_pos (by decide) more), power]
    exact Nat.le_pow_clog (by decide) n
  · rw [Nat.clog_le_iff_le_pow (by decide), ← power]
    exact (Nat.length_toDigits_le_iff (by decide) Nat.length_toDigits_pos).1 (Nat.le_refl _)

theorem ceil_quotient (numerator : ℕ) (positive : 0 < denominator) :
    ⌈(numerator / denominator : ℚ)⌉₊ = (numerator + denominator - 1) / denominator := by
  have some : (0 : ℚ) < denominator := by exact_mod_cast positive
  refine eq_of_forall_ge_iff fun bound => ?_
  rw [Nat.ceil_le, div_le_iff₀ some, ← Nat.lt_add_one_iff, Nat.div_lt_iff_lt_mul positive,
    Nat.add_mul]
  norm_cast
  omega

theorem leading_power_log (above : 0 < numerator) (positive : 0 < denominator) :
    leadingPower numerator denominator = Int.log 10 (numerator / denominator : ℚ) := by
  have some : (0 : ℚ) < denominator := by exact_mod_cast positive
  unfold leadingPower
  split
  · rename_i large
    have least : 1 ≤ (numerator / denominator : ℚ) := (one_le_div some).2 (by exact_mod_cast large)
    rw [Int.log_of_one_le_right 10 least, Nat.floor_div_eq_div,
      digit_count_log (Nat.div_pos large positive)]
    push_cast
    ring
  · rename_i small
    have less : numerator < denominator := Nat.not_le.1 small
    have most : (numerator / denominator : ℚ) ≤ 1 := (div_le_one some).2 (by exact_mod_cast less.le)
    have more : 1 < (denominator + numerator - 1) / numerator := by
      rw [Nat.lt_div_iff_mul_lt above]
      omega
    rw [Int.log_of_right_le_one 10 most, inv_div, ceil_quotient denominator above,
      digit_count_clog more]
    exact Int.negOfNat_eq

end Quotients

namespace Significant

variable {s : Significant} {precision numerator denominator : ℕ} {x : ℚ}

def value (s : Significant) (precision : ℕ) : ℚ :=
  s.digits * 10 ^ (s.power - (precision - 1))

-- Digits and a power of ten that a number was rounded to. The digits are also nearest at the place
-- that the power leaves to them, though rounding may have moved it.
structure Rounds (s : Significant) (precision : ℕ) (x : ℚ) : Prop where
  least : 10 ^ (precision - 1) ≤ s.digits
  most : s.digits < 10 ^ precision
  rounded : RoundedTo precision x (s.value precision)
  nearest : Nearest (x * 10 ^ (precision - 1 - s.power)) s.digits

theorem Rounds.some (rounds : s.Rounds precision x) : 0 < precision := by
  have less := Nat.lt_of_le_of_lt rounds.least rounds.most
  rw [Nat.pow_lt_pow_iff_right (by decide)] at less
  exact Nat.zero_lt_of_lt less

theorem Rounds.log (rounds : s.Rounds precision x) : Int.log 10 (s.value precision) = s.power := by
  obtain ⟨fewer, rfl⟩ := Nat.exists_eq_add_one.2 rounds.some
  have least : (10 : ℚ) ^ fewer ≤ s.digits := by exact_mod_cast rounds.least
  have most : (s.digits : ℚ) < 10 ^ (fewer + 1) := by exact_mod_cast rounds.most
  have unit : (0 : ℚ) < 10 ^ (s.power - fewer) := zpow_pos (by decide) _
  have value : s.value (fewer + 1) = s.digits * 10 ^ (s.power - fewer) := by
    simp [Significant.value]
  have low : ((10 : ℕ) : ℚ) ^ s.power ≤ s.value (fewer + 1) := by
    calc ((10 : ℕ) : ℚ) ^ s.power = 10 ^ fewer * 10 ^ (s.power - fewer) := by
          rw [← zpow_natCast, ← zpow_add₀ (by decide)]
          push_cast
          ring_nf
      _ ≤ s.digits * 10 ^ (s.power - fewer) := by gcongr
      _ = s.value (fewer + 1) := value.symm
  have high : s.value (fewer + 1) < ((10 : ℕ) : ℚ) ^ (s.power + 1) := by
    calc s.value (fewer + 1) = s.digits * 10 ^ (s.power - fewer) := value
      _ < 10 ^ (fewer + 1) * 10 ^ (s.power - fewer) := by gcongr
      _ = ((10 : ℕ) : ℚ) ^ (s.power + 1) := by
          rw [← zpow_natCast, ← zpow_add₀ (by decide)]
          push_cast
          ring_nf
  have positive : 0 < s.value (fewer + 1) := lt_of_lt_of_le (zpow_pos (by decide) _) low
  have above := (Int.zpow_le_iff_le_log (by decide) positive).1 low
  have below := (Int.lt_zpow_iff_log_lt (by decide) positive).1 high
  omega

end Significant

theorem scaled_bounds {precision : ℕ} {x : ℚ} (some : 0 < precision) (shown : 0 < x) :
    10 ^ (precision - 1) ≤ x * 10 ^ lastPlace precision x ∧
      x * 10 ^ lastPlace precision x < 10 ^ precision := by
  obtain ⟨fewer, rfl⟩ := Nat.exists_eq_add_one.2 some
  have low := Int.zpow_log_le_self (b := 10) (by decide) shown
  have high := Int.lt_zpow_succ_log_self (b := 10) (by decide) x
  have unit : (0 : ℚ) < 10 ^ lastPlace (fewer + 1) x := zpow_pos (by decide) _
  have place : lastPlace (fewer + 1) x + Int.log 10 x = fewer := by
    rw [lastPlace, abs_of_pos shown]
    push_cast
    ring
  rw [Nat.cast_ofNat] at low high
  constructor
  · calc (10 : ℚ) ^ (fewer + 1 - 1) = 10 ^ Int.log 10 x * 10 ^ lastPlace (fewer + 1) x := by
          rw [Nat.add_sub_cancel, ← zpow_natCast, ← place, zpow_add₀ (by decide), mul_comm]
      _ ≤ x * 10 ^ lastPlace (fewer + 1) x := by gcongr
  · calc x * 10 ^ lastPlace (fewer + 1) x <
      10 ^ (Int.log 10 x + 1) * 10 ^ lastPlace (fewer + 1) x := by gcongr
      _ = 10 ^ (fewer + 1) := by
          rw [← zpow_natCast, ← zpow_add₀ (by decide), Nat.cast_succ, ← place]
          ring_nf

/-- Rounding to significant digits finds them and their power of ten, and to round at the place that
the power leaves gives the same digits. -/
theorem significant_rounds {numerator denominator precision : ℕ} (above : 0 < numerator)
    (positive : 0 < denominator) (some : 0 < precision) :
    (Significant.round numerator denominator precision).Rounds precision
      (numerator / denominator) := by
  have shown : (0 : ℚ) < numerator / denominator := by positivity
  obtain ⟨low, high⟩ := scaled_bounds some shown
  have place : lastPlace precision (numerator / denominator) =
      precision - 1 - leadingPower numerator denominator := by
    rw [lastPlace, abs_of_pos shown, leading_power_log above positive]
  have nearest := round_at_nearest numerator positive
      (lastPlace precision (numerator / denominator))
  unfold Significant.round
  dsimp only
  rw [← place]
  generalize roundAt numerator denominator (lastPlace precision (numerator / denominator)) =
    digits at *
  have least : 10 ^ (precision - 1) ≤ digits := by
    exact_mod_cast nearest.of_least (k := 10 ^ (precision - 1)) (by exact_mod_cast low)
  have most : digits ≤ 10 ^ precision := by
    exact_mod_cast nearest.of_most (k := 10 ^ precision) (by exact_mod_cast high.le)
  by_cases carry : digits = Nat.pow 10 precision
  · have tens : digits = 10 * 10 ^ (precision - 1) := by
      rw [carry, Nat.pow_eq, ← Nat.pow_succ', Nat.succ_eq_add_one, Nat.sub_add_cancel some]
    rw [if_pos carry]
    subst tens
    refine ⟨Nat.le_refl _, Nat.pow_lt_pow_right (by decide) (Nat.sub_lt some (by decide)),
      ⟨_, nearest, ?_⟩, ?_⟩
    · have power : leadingPower numerator denominator + 1 - (precision - 1) =
          1 + -lastPlace precision (numerator / denominator) := by
        rw [place]
        ring
      rw [Significant.value, power, zpow_one_add₀ (by decide)]
      push_cast [Nat.pow_eq]
      ring
    · have further : (precision : ℤ) - 1 - (leadingPower numerator denominator + 1) =
          lastPlace precision (numerator / denominator) - 1 := by
        rw [place]
        ring
      rw [further, zpow_sub_one₀ (by decide), ← mul_assoc, ← div_eq_mul_inv]
      rw [← mul_pow_sub_one some.ne'] at high
      push_cast at nearest ⊢
      exact nearest.tenth (by exact_mod_cast high.le)
  · have power : leadingPower numerator denominator - (precision - 1) =
        -lastPlace precision (numerator / denominator) := by
      rw [place]
      ring
    rw [if_neg carry]
    refine ⟨least, lt_of_le_of_ne most carry, ⟨_, nearest, ?_⟩, ?_⟩
    · rw [Significant.value, power]
      rfl
    · dsimp only
      rwa [← place]

end BrightScript
