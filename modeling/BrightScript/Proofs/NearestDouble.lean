import Mathlib
import BrightScript.Proofs.Decimals
import BrightScript.Proofs.Doubles
import BrightScript.Proofs.Rounding
set_option autoImplicit false

namespace BrightScript

open Float.Model Float.Model.UnpackedFloat

section Fractions

variable {em : ExtendedMantissa} {x : ℚ}

-- The two bits behind a whole number tell where before the next one a number lies.
def Measures (em : ExtendedMantissa) (x : ℚ) : Prop :=
  match em.roundBit, em.stickyBit with
  | false, false => x = em.mantissa
  | false, true => em.mantissa < x ∧ x < em.mantissa + 1 / 2
  | true, false => x = em.mantissa + 1 / 2
  | true, true => em.mantissa + 1 / 2 < x ∧ x < em.mantissa + 1

theorem Measures.bounds (measures : Measures em x) : em.mantissa ≤ x ∧ x < em.mantissa + 1 := by
  obtain ⟨m, round, sticky⟩ := em
  cases round <;> cases sticky <;> simp only [Measures] at measures ⊢ <;> constructor <;> linarith

theorem Measures.nearest (measures : Measures em x) : Nearest x em.roundedMantissa := by
  obtain ⟨m, round, sticky⟩ := em
  cases round <;> cases sticky <;> simp only [Measures] at measures
  · rw [measures]
    exact .of_closer (by simp [ExtendedMantissa.roundedMantissa, ExtendedMantissa.accuracy,
      Accuracy.roundToNearestEven])
  · refine .of_closer ?_
    change |x - ((m : ℤ) : ℚ)| < 1 / 2
    rw [abs_lt]
    push_cast
    constructor <;> linarith
  · rw [measures]
    exact .of_half m
  · refine .of_closer ?_
    change |x - (((m + 1 : ℕ) : ℤ) : ℚ)| < 1 / 2
    rw [abs_lt]
    push_cast
    constructor <;> linarith

theorem Measures.halved (measures : Measures em x) : Measures em.shiftRightOne (x / 2) := by
  obtain ⟨m, round, sticky⟩ := em
  have whole : (m : ℚ) = 2 * (m / 2 : ℕ) + (m % 2 : ℕ) := by
    exact_mod_cast (Nat.div_add_mod m 2).symm
  have bits : (0 != 0) = false ∧ (1 != 0) = true := ⟨rfl, rfl⟩
  rcases Nat.mod_two_eq_zero_or_one m with parity | parity <;> cases round <;> cases sticky <;>
    simp only [Measures, ExtendedMantissa.shiftRightOne, parity, whole, bits, Bool.or_false,
      Bool.or_true, Nat.cast_zero, Nat.cast_one] at measures ⊢
  all_goals first | linarith | constructor <;> linarith

theorem Measures.shifted (measures : Measures em x) (places : ℕ) :
    Measures (em >>> places) (x / 2 ^ places) := by
  change Measures (Nat.repeat ExtendedMantissa.shiftRightOne places em) _
  induction places with
  | zero => simpa [Nat.repeat] using measures
  | succ places ih =>
    rw [pow_succ, ← div_div]
    exact ih.halved

theorem measures_exact (m : ℕ) : Measures (.ofMantissaAndAccuracy m .exact) m :=
  rfl

theorem measures_quotient (a : ℕ) {b : ℕ} (positive : 0 < b) :
    Measures (.ofMantissaAndAccuracy (a / b) (accuracyOfFraction (a % b) b)) (a / b : ℚ) := by
  have some : (0 : ℚ) < b := by exact_mod_cast positive
  have whole : (a : ℚ) / b = (a / b : ℕ) + (a % b : ℕ) / b := by
    rw [eq_comm, ← mul_div_cancel_right₀ ((a / b : ℕ) : ℚ) some.ne', ← add_div,
      div_left_inj' some.ne']
    exact_mod_cast Nat.div_add_mod' a b
  have less : ((a % b : ℕ) : ℚ) < b := by exact_mod_cast Nat.mod_lt a positive
  rw [whole]
  generalize a / b = quotient
  generalize a % b = left at less
  unfold accuracyOfFraction
  by_cases none : left = 0
  · rw [if_pos none, none]
    change (quotient : ℚ) + (0 : ℕ) / b = quotient
    simp
  · have more : (0 : ℚ) < left := by exact_mod_cast Nat.pos_of_ne_zero none
    have below := div_lt_one some |>.2 less
    have above := div_pos more some
    rw [if_neg none]
    rcases lt_trichotomy (2 * left) b with half | half | half
    · rw [compare_lt_iff_lt.2 half]
      have small : (left : ℚ) / b < 1 / 2 := by
        rw [div_lt_div_iff₀ some two_pos]
        exact_mod_cast (by omega : left * 2 < 1 * b)
      change (quotient : ℚ) < quotient + left / b ∧ quotient + left / b < (quotient : ℚ) + 1 / 2
      constructor <;> linarith
    · rw [compare_eq_iff_eq.2 half]
      have same : (left : ℚ) / b = 1 / 2 := by
        rw [div_eq_div_iff some.ne' two_ne_zero]
        exact_mod_cast (by omega : left * 2 = 1 * b)
      exact congrArg _ same
    · rw [compare_gt_iff_gt.2 half]
      have large : 1 / 2 < (left : ℚ) / b := by
        rw [div_lt_div_iff₀ two_pos some]
        exact_mod_cast (by omega : 1 * b < left * 2)
      change (quotient : ℚ) + 1 / 2 < quotient + left / b ∧ quotient + left / b < (quotient : ℚ) + 1
      constructor <;> linarith

end Fractions

-- The place of the last bit of the doubles around a number.
def lastBit (v : ℚ) : ℤ :=
  max (Int.log 2 |v| - 52) (-1074)

section Places

variable {v : ℚ} {m : ℕ} {e : ℤ}

theorem scaled_back (v : ℚ) (e : ℤ) : v * 2 ^ (-e) * 2 ^ e = v := by
  rw [mul_assoc, ← zpow_add₀ (by decide), neg_add_cancel, zpow_zero, mul_one]

theorem last_bit_bounds (shown : 0 < v) : v * 2 ^ (-lastBit v) < 2 ^ 53 ∧
    (2 ^ 52 ≤ v * 2 ^ (-lastBit v) ∨ lastBit v = -1074) := by
  have low := Int.zpow_log_le_self (b := 2) (by decide) shown
  have high := Int.lt_zpow_succ_log_self (b := 2) (by decide) v
  have unit : (0 : ℚ) < 2 ^ (-lastBit v) := zpow_pos (by decide) _
  rw [Nat.cast_ofNat] at low high
  have least : Int.log 2 v - 52 ≤ lastBit v := by
    rw [lastBit, abs_of_pos shown]
    exact le_max_left _ _
  constructor
  · calc v * 2 ^ (-lastBit v) < 2 ^ (Int.log 2 v + 1) * 2 ^ (-lastBit v) := by gcongr
      _ = 2 ^ (Int.log 2 v + 1 - lastBit v) := by rw [← zpow_add₀ (by decide)]; rfl
      _ ≤ 2 ^ (53 : ℤ) := zpow_le_zpow_right₀ (by decide) (by omega)
      _ = 2 ^ 53 := by norm_cast
  · by_cases tiny : lastBit v = -1074
    · exact .inr tiny
    · have place : lastBit v = Int.log 2 v - 52 := by
        rw [lastBit, abs_of_pos shown] at tiny ⊢
        omega
      left
      calc (2 : ℚ) ^ 52 = 2 ^ Int.log 2 v * 2 ^ (-lastBit v) := by
            rw [← zpow_add₀ (by decide), place]
            norm_num
        _ ≤ v * 2 ^ (-lastBit v) := by gcongr

theorem target_last_bit (shown : 0 < v) (low : m ≤ v * 2 ^ (-e)) (high : v * 2 ^ (-e) < m + 1)
    (fine : e ≤ lastBit v) : Format.binary64.targetExponent (totalExponent m e) = lastBit v := by
  have unit : (0 : ℚ) < 2 ^ e := zpow_pos (by decide) _
  have scaled := (scaled_back v e).symm
  have target : Format.binary64.targetExponent (totalExponent m e) =
      max (m.log2 + 1 + e - 53) (-1074) := rfl
  rw [target]
  rw [lastBit, abs_of_pos shown] at fine ⊢
  by_cases none : m = 0
  · have below : v < ((2 : ℕ) : ℚ) ^ e := by
      rw [none, Nat.cast_zero, zero_add] at high
      rw [scaled, Nat.cast_ofNat]
      exact mul_lt_of_lt_one_left unit high
    have log := (Int.lt_zpow_iff_log_lt (by decide) shown).1 below
    rw [none, Nat.log2_zero]
    omega
  · have least : ((2 : ℕ) : ℚ) ^ ((m.log2 : ℤ) + e) ≤ v := by
      have bits : (2 : ℚ) ^ m.log2 ≤ m := by exact_mod_cast Nat.log2_self_le none
      rw [Nat.cast_ofNat, zpow_add₀ (by decide), zpow_natCast]
      calc (2 : ℚ) ^ m.log2 * 2 ^ e ≤ m * 2 ^ e := by gcongr
        _ ≤ v * 2 ^ (-e) * 2 ^ e := by gcongr
        _ = v := scaled.symm
    have most : v < ((2 : ℕ) : ℚ) ^ ((m.log2 : ℤ) + 1 + e) := by
      have bits : (m : ℚ) + 1 ≤ 2 ^ (m.log2 + 1) := by exact_mod_cast Nat.lt_log2_self
      rw [Nat.cast_ofNat, zpow_add₀ (by decide), ← Nat.cast_succ, zpow_natCast]
      calc v = v * 2 ^ (-e) * 2 ^ e := scaled
        _ < (m + 1) * 2 ^ e := by gcongr
        _ ≤ 2 ^ (m.log2 + 1) * 2 ^ e := by gcongr
    have above := (Int.zpow_le_iff_le_log (by decide) shown).1 least
    have under := (Int.lt_zpow_iff_log_lt (by decide) shown).1 most
    have log : Int.log 2 v = m.log2 + e := by omega
    rw [log]
    congr 1
    ring

end Places

section Rounding

variable {v : ℚ} {m n : ℕ} {e : ℤ} {accuracy : Accuracy}

theorem measured_mantissa (m : ℕ) (accuracy : Accuracy) :
    (ExtendedMantissa.ofMantissaAndAccuracy m accuracy).mantissa = m := by
  rcases accuracy with _ | order
  · rfl
  · cases order <;> rfl

theorem shift_short (short : n < 2 ^ 53) (least : -1074 ≤ e) :
    shiftToTargetExponent .binary64 n e .exact = (⟨n, false, false⟩, e) := by
  have bits : n.log2 ≤ 52 := by
    by_cases none : n = 0
    · simp [none]
    · exact Nat.le_of_lt_succ ((Nat.log2_lt none).2 short)
  have still : (Format.binary64.targetExponent (totalExponent n e) - e).toNat = 0 := by
    change (max ((n.log2 : ℤ) + 1 + e - 53) (-1074) - e).toNat = 0
    omega
  unfold shiftToTargetExponent shiftToExponent
  dsimp only
  rw [still, Nat.cast_zero, add_zero]
  rfl

theorem shift_carried (least : -1074 ≤ e) :
    shiftToTargetExponent .binary64 (2 ^ 53) e .exact = (⟨2 ^ 52, false, false⟩, e + 1) := by
  have once : (Format.binary64.targetExponent (totalExponent (2 ^ 53) e) - e).toNat = 1 := by
    unfold totalExponent
    rw [Nat.log2_two_pow]
    change (max ((53 : ℤ) + 1 + e - 53) (-1074) - e).toNat = 1
    omega
  unfold shiftToTargetExponent shiftToExponent
  dsimp only
  rw [once]
  rfl

def Rounded (v : ℚ) (x : UnpackedFloat) : Prop :=
  ∃ n : ℕ, Nearest (v * 2 ^ (-lastBit v)) n ∧
    (n = 0 ∧ x = .zero .positive ∨
      ∃ m e positive, x = .finite .positive m e positive ∧ Canonical m e ∧
        (m : ℚ) * 2 ^ e = n * 2 ^ lastBit v)

theorem shift_to_last_bit (shown : 0 < v)
    (measures : Measures (.ofMantissaAndAccuracy m accuracy) (v * 2 ^ (-e)))
    (fine : e ≤ lastBit v) :
    ∃ em, shiftToTargetExponent .binary64 m e accuracy = (em, lastBit v) ∧
      Measures em (v * 2 ^ (-lastBit v)) := by
  obtain ⟨low, high⟩ := measures.bounds
  rw [measured_mantissa] at low high
  have reached : e + (lastBit v - e).toNat = lastBit v := by omega
  have place : v * 2 ^ (-e) / 2 ^ (lastBit v - e).toNat = v * 2 ^ (-lastBit v) := by
    rw [← zpow_natCast, mul_div_assoc, ← zpow_sub₀ (by decide)]
    congr 2
    omega
  refine ⟨_, ?_, place ▸ measures.shifted (lastBit v - e).toNat⟩
  unfold shiftToTargetExponent shiftToExponent
  rw [target_last_bit shown low high fine]
  dsimp only
  rw [reached]

theorem nearest_digits_bounds (shown : 0 < v) (nearest : Nearest (v * 2 ^ (-lastBit v)) n) :
    n ≤ 2 ^ 53 ∧ (2 ^ 52 ≤ n ∨ lastBit v = -1074) := by
  obtain ⟨short, normal⟩ := last_bit_bounds shown
  refine ⟨?_, normal.imp_left fun many => ?_⟩
  · have most : (n : ℤ) ≤ (2 ^ 53 : ℕ) := nearest.of_most (by push_cast; exact short.le)
    exact_mod_cast most
  · have least : (2 ^ 52 : ℕ) ≤ (n : ℤ) := nearest.of_least (by push_cast; exact many)
    exact_mod_cast least

theorem round_rounded (shown : 0 < v)
    (measures : Measures (.ofMantissaAndAccuracy m accuracy) (v * 2 ^ (-e)))
    (fine : e ≤ lastBit v) : Rounded v (roundWithAccuracy .binary64 .positive m e accuracy) := by
  obtain ⟨em, shifted, measured⟩ := shift_to_last_bit shown measures fine
  have nearest := measured.nearest
  obtain ⟨most, bits⟩ := nearest_digits_bounds shown nearest
  have least : -1074 ≤ lastBit v := le_max_right _ _
  unfold roundWithAccuracy
  rw [shifted]
  dsimp only
  generalize em.roundedMantissa = n at nearest most bits
  refine ⟨n, nearest, ?_⟩
  rcases Nat.lt_or_eq_of_le most with less | carried
  · rw [shift_short less least]
    dsimp only
    by_cases none : n = 0
    · rw [dif_pos none]
      exact .inl ⟨none, rfl⟩
    · rw [dif_neg none]
      exact .inr ⟨n, _, _, rfl, ⟨less, least, bits⟩, rfl⟩
  · rw [carried, shift_carried least]
    dsimp only
    rw [dif_neg (by decide)]
    refine .inr ⟨2 ^ 52, _, _, rfl, ⟨by decide, by omega, .inl (by decide)⟩, ?_⟩
    rw [zpow_add_one₀ (by decide)]
    push_cast
    ring

end Rounding

section Operations

variable {m₁ m₂ : ℕ} {e₁ e₂ : ℤ} {some₁ : 0 < m₁} {some₂ : 0 < m₂}

theorem last_bit_of_le {v : ℚ} {power : ℤ} (least : 2 ^ power ≤ v) : power - 52 ≤ lastBit v := by
  have shown : 0 < v := lt_of_lt_of_le (zpow_pos (by decide) _) least
  have log := (Int.zpow_le_iff_le_log (b := 2) (by decide) shown).1 (by exact_mod_cast least)
  rw [lastBit, abs_of_pos shown]
  exact le_max_of_le_left (Int.sub_le_sub_right log 52)

theorem mul_rounded (many : 2 ^ 52 ≤ m₁ * m₂) : Rounded (m₁ * 2 ^ e₁ * (m₂ * 2 ^ e₂))
    (UnpackedFloat.mul .binary64 (.finite .positive m₁ e₁ some₁)
      (.finite .positive m₂ e₂ some₂)) := by
  have whole : (m₁ * 2 ^ e₁ * (m₂ * 2 ^ e₂) : ℚ) = (m₁ * m₂ : ℕ) * 2 ^ (e₁ + e₂) := by
    rw [zpow_add₀ (by decide)]
    push_cast
    ring
  have bits : (2 : ℚ) ^ (52 + (e₁ + e₂)) ≤ (m₁ * m₂ : ℕ) * 2 ^ (e₁ + e₂) := by
    rw [zpow_add₀ (by decide)]
    gcongr
    exact_mod_cast many
  have fine := last_bit_of_le bits
  have shown : (0 : ℚ) < (m₁ * m₂ : ℕ) * 2 ^ (e₁ + e₂) :=
    lt_of_lt_of_le (zpow_pos (by decide) _) bits
  rw [whole]
  refine round_rounded shown ?_ (by omega)
  rw [mul_assoc, ← zpow_add₀ (by decide), add_neg_cancel, zpow_zero, mul_one]
  exact measures_exact _

theorem div_rounded : Rounded (m₁ * 2 ^ e₁ / (m₂ * 2 ^ e₂))
    (UnpackedFloat.div .binary64 (.finite .positive m₁ e₁ some₁)
      (.finite .positive m₂ e₂ some₂)) := by
  let target := min (e₁ - e₂)
      (Format.binary64.targetExponent (totalExponent m₁ e₁ - totalExponent m₂ e₂))
  let places := (e₁ - e₂ - target).toNat
  have low : (2 : ℚ) ^ m₁.log2 ≤ m₁ := by exact_mod_cast Nat.log2_self_le some₁.ne'
  have high : (m₂ : ℚ) ≤ 2 ^ (m₂.log2 + 1) := by exact_mod_cast Nat.lt_log2_self.le
  have positive₁ : (0 : ℚ) < m₁ := by exact_mod_cast some₁
  have positive₂ : (0 : ℚ) < m₂ := by exact_mod_cast some₂
  have bits : (2 : ℚ) ^ ((m₁.log2 + e₁) - (m₂.log2 + 1 + e₂) : ℤ) ≤
      m₁ * 2 ^ e₁ / (m₂ * 2 ^ e₂) := by
    rw [zpow_sub₀ (by decide), zpow_add₀ (by decide), zpow_add₀ (by decide), zpow_natCast]
    have power : (2 : ℚ) ^ ((m₂.log2 : ℤ) + 1) = 2 ^ (m₂.log2 + 1) := by norm_cast
    rw [power]
    gcongr
  have reached : (places : ℤ) = e₁ - e₂ - target := by
    have most : target ≤ e₁ - e₂ := min_le_left _ _
    omega
  have quotient : (m₁ * 2 ^ e₁ / (m₂ * 2 ^ e₂) : ℚ) * 2 ^ (-target) = (m₁ <<< places : ℕ) / m₂ := by
    have scale : (2 : ℚ) ^ places = 2 ^ e₁ / 2 ^ e₂ * 2 ^ (-target) := by
      rw [← zpow_natCast, reached, ← zpow_sub₀ (by decide), ← zpow_add₀ (by decide)]
      rfl
    rw [Nat.shiftLeft_eq]
    push_cast
    rw [scale]
    field_simp
  have fine : target ≤ lastBit (m₁ * 2 ^ e₁ / (m₂ * 2 ^ e₂)) := by
    have least := last_bit_of_le bits
    have bottom : -1074 ≤ lastBit (m₁ * 2 ^ e₁ / (m₂ * 2 ^ e₂)) := le_max_right _ _
    have most : target ≤ max ((m₁.log2 + 1 + e₁ : ℤ) - (m₂.log2 + 1 + e₂) - 53) (-1074) :=
      min_le_right _ _
    omega
  refine round_rounded (by positivity) ?_ fine
  rw [quotient]
  exact measures_quotient _ some₂

end Operations

-- The double next to a number, half to even: a whole number of last bits, and infinite from
-- `2 ^ 1024` on.
def NearestDouble (v : ℚ) (x : Float) : Prop :=
  ∃ n : ℤ, Nearest (v * 2 ^ (-lastBit v)) n ∧
    if |(n : ℚ) * 2 ^ lastBit v| < 2 ^ 1024 then exactValue? x = some ((n : ℚ) * 2 ^ lastBit v)
    else x = if 0 < v then 1.0 / 0.0 else -(1.0 / 0.0)

theorem canonical_in_range {m : ℕ} {e : ℤ} (canonical : Canonical m e) :
    (m : ℚ) * 2 ^ e < 2 ^ 1024 ↔ e ≤ 971 := by
  have unit : (0 : ℚ) < 2 ^ e := zpow_pos (by decide) _
  constructor
  · intro small
    by_contra large
    have normal : (2 : ℚ) ^ 52 ≤ m := by
      exact_mod_cast canonical.normal.resolve_right (by omega)
    have past : (2 : ℚ) ^ (972 : ℤ) ≤ 2 ^ e := zpow_le_zpow_right₀ (by decide) (by omega)
    have most : (2 : ℚ) ^ 1024 ≤ m * 2 ^ e := by
      calc (2 : ℚ) ^ 1024 = 2 ^ 52 * 2 ^ (972 : ℤ) := by rw [zpow_ofNat, ← pow_add]
        _ ≤ (m : ℚ) * 2 ^ e :=
          mul_le_mul normal past (zpow_nonneg (by decide) _) (Nat.cast_nonneg m)
    exact absurd small (not_lt.2 most)
  · intro small
    have short : (m : ℚ) < 2 ^ 53 := by exact_mod_cast canonical.short
    calc (m : ℚ) * 2 ^ e < 2 ^ 53 * 2 ^ e := by gcongr
      _ ≤ 2 ^ 53 * 2 ^ (971 : ℤ) := by
        gcongr
        decide
      _ = 2 ^ 1024 := by rw [zpow_ofNat, ← pow_add]

section Doubles

variable {v : ℚ} {x : Float} {u : UnpackedFloat}

theorem Rounded.nearest_double (shown : 0 < v) (rounded : Rounded v u) :
    NearestDouble v ⟨Float.Model.pack u⟩ := by
  obtain ⟨n, nearest, ⟨rfl, rfl⟩ | ⟨m, e, positive, rfl, canonical, same⟩⟩ := rounded
  · refine ⟨0, nearest, ?_⟩
    rw [if_pos (by simp)]
    change unpackedValue? (Float.Model.pack (.zero .positive)).unpack = _
    rw [unpack_zero, Int.cast_zero, zero_mul]
    rfl
  · refine ⟨n, nearest, ?_⟩
    rw [Int.cast_natCast, ← same, abs_of_nonneg (by positivity)]
    by_cases small : e ≤ 971
    · rw [if_pos ((canonical_in_range canonical).2 small)]
      change unpackedValue? (Float.Model.pack (.finite .positive m e positive)).unpack = _
      rw [unpack_pack positive canonical small]
      rfl
    · rw [if_neg (mt (canonical_in_range canonical).1 small), if_pos shown,
        pack_overflow positive (by omega)]
      rfl

theorem nearest_zero : NearestDouble 0 0.0 := by
  refine ⟨0, .of_closer (by simp), ?_⟩
  rw [if_pos (by simp), Int.cast_zero, zero_mul]
  rfl

theorem NearestDouble.neg (nearest : NearestDouble v x) : NearestDouble (-v) (-x) := by
  obtain ⟨n, whole, found⟩ := nearest
  have place : lastBit (-v) = lastBit v := by rw [lastBit, abs_neg, lastBit]
  refine ⟨-n, ?_, ?_⟩
  · rw [place, neg_mul]
    exact whole.neg
  · rw [place, Int.cast_neg, neg_mul, abs_neg]
    split
    · rename_i small
      rw [if_pos small] at found
      rw [exact_value_neg, found, Option.map_some]
    · rename_i large
      rw [if_neg large] at found
      have some : v ≠ 0 := by
        rintro rfl
        have none : n = 0 := whole.unique (.of_closer (by simp))
        simp [none] at large
      rw [found]
      rcases lt_or_gt_of_ne some with below | above
      · rw [if_neg below.not_gt, if_pos (neg_pos.2 below)]
        rfl
      · rw [if_pos above, if_neg (by simpa using above.le)]

theorem nearest_exists {x : ℚ} (least : 0 ≤ x) : ∃ n : ℕ, Nearest x n := by
  have quotient : (x.num.natAbs : ℚ) / x.den = x := by
    rw [Nat.cast_natAbs, abs_of_nonneg (Rat.num_nonneg.2 least), Rat.num_div_den]
  have nearest := round_quotient_nearest x.num.natAbs x.den_pos
  rw [quotient] at nearest
  exact ⟨_, nearest⟩

theorem nearest_infinity (large : 2 ^ 1024 ≤ v) : NearestDouble v (1.0 / 0.0) := by
  have shown : 0 < v := lt_of_lt_of_le (by positivity) large
  have power : (2 : ℚ) ^ (1024 : ℤ) ≤ v := by exact_mod_cast large
  have place := last_bit_of_le power
  obtain ⟨n, nearest⟩ := nearest_exists (x := v * 2 ^ (-lastBit v)) (by positivity)
  obtain ⟨-, bits⟩ := nearest_digits_bounds shown nearest
  have many : 2 ^ 52 ≤ n := bits.resolve_right (by omega)
  have most : (2 : ℚ) ^ 1024 ≤ n * 2 ^ lastBit v := by
    calc (2 : ℚ) ^ 1024 = 2 ^ 52 * 2 ^ (972 : ℤ) := by rw [zpow_ofNat, ← pow_add]
      _ ≤ (n : ℚ) * 2 ^ lastBit v := by
        gcongr
        · exact_mod_cast many
        · decide
        · omega
  refine ⟨n, nearest, ?_⟩
  rw [Int.cast_natCast, abs_of_nonneg (by positivity), if_neg (not_lt.2 most), if_pos shown]

theorem nearest_underflow (shown : 0 < v) (small : v ≤ 2 ^ (-1075 : ℤ)) : NearestDouble v 0.0 := by
  have place : lastBit v = -1074 := by
    have below : v < ((2 : ℕ) : ℚ) ^ (-1074 : ℤ) := by
      rw [Nat.cast_ofNat]
      exact lt_of_le_of_lt small (zpow_lt_zpow_right₀ (by norm_num) (by decide))
    have log := (Int.lt_zpow_iff_log_lt (by decide) shown).1 below
    rw [lastBit, abs_of_pos shown]
    omega
  have half : v * 2 ^ (-lastBit v) ≤ 1 / 2 := by
    calc v * 2 ^ (-lastBit v) ≤ 2 ^ (-1075 : ℤ) * 2 ^ (-lastBit v) := by gcongr
      _ = 1 / 2 := by
        rw [place, ← zpow_add₀ (by decide)]
        norm_num
  refine ⟨0, ⟨?_, fun _ => by decide⟩, ?_⟩
  · rw [Int.cast_zero, sub_zero, abs_of_nonneg (by positivity)]
    exact half
  · rw [if_pos (by simp), Int.cast_zero, zero_mul]
    rfl

end Doubles

section Closest

variable {v u w : ℚ} {x y : Float}

theorem NearestDouble.closest_whole (nearest : NearestDouble v x)
    (exact : exactValue? x = some u) (k : ℤ) : |v - u| ≤ |v - k * 2 ^ lastBit v| := by
  obtain ⟨n, near, found⟩ := nearest
  have unit : (0 : ℚ) < 2 ^ lastBit v := zpow_pos (by decide) _
  have scaled (j : ℤ) : |v - j * 2 ^ lastBit v| = |v * 2 ^ (-lastBit v) - j| * 2 ^ lastBit v := by
    rw [← abs_of_pos unit, ← abs_mul, abs_of_pos unit, sub_mul, scaled_back]
  split at found
  · cases exact.symm.trans found
    rw [scaled, scaled]
    exact mul_le_mul_of_nonneg_right (near.closest k) unit.le
  · have infinite : exactValue? x = none := by
      rw [found]
      split <;> rfl
    rw [infinite] at exact
    cases exact

theorem NearestDouble.closest_leading (nearest : NearestDouble v x) (exact : exactValue? x = some u)
    (leads : 2 ^ 52 * 2 ^ lastBit v ≤ |v|) : |v - u| ≤ |v| - 2 ^ 52 * 2 ^ lastBit v := by
  rcases abs_cases v with ⟨same, -⟩ | ⟨same, -⟩ <;> rw [same] at leads ⊢
  · have reached := nearest.closest_whole exact (2 ^ 52)
    rw [Int.cast_pow, Int.cast_ofNat] at reached
    rwa [abs_of_nonneg (sub_nonneg.2 leads)] at reached
  · have reached := nearest.closest_whole exact (-2 ^ 52)
    have apart : v - ((-2 ^ 52 : ℤ) : ℚ) * 2 ^ lastBit v = -(-v - 2 ^ 52 * 2 ^ lastBit v) := by
      push_cast
      ring
    rwa [apart, abs_neg, abs_of_nonneg (sub_nonneg.2 leads)] at reached

theorem coarse_multiple {e : ℤ} (coarse : lastBit v ≤ e) (k : ℤ) :
    ∃ j : ℤ, (j : ℚ) * 2 ^ lastBit v = k * 2 ^ e := by
  obtain ⟨places, reached⟩ := Int.eq_ofNat_of_zero_le (sub_nonneg.2 coarse)
  have power : (2 : ℚ) ^ e = 2 ^ places * 2 ^ lastBit v := by
    rw [← zpow_natCast, ← zpow_add₀ (by decide), ← reached, sub_add_cancel]
  refine ⟨k * 2 ^ places, ?_⟩
  rw [power]
  push_cast
  ring

theorem leading_power_le (shown : v ≠ 0) (normal : lastBit v = Int.log 2 |v| - 52) :
    2 ^ 52 * 2 ^ lastBit v ≤ |v| := by
  have low := Int.zpow_log_le_self (b := 2) (by decide) (abs_pos.2 shown)
  rw [Nat.cast_ofNat] at low
  rwa [normal, ← zpow_ofNat, ← zpow_add₀ (by decide), add_sub_cancel]

theorem Canonical.abs_le_leading {m : ℕ} {e place : ℤ} (canonical : Canonical m e) (s : Sign)
    (fine : e < place) : |((s.apply m : ℤ) : ℚ) * 2 ^ e| ≤ 2 ^ 52 * 2 ^ place := by
  have magnitude : |((s.apply m : ℤ) : ℚ)| = m := by
    cases s <;> simp [Sign.apply]
  have short : (m : ℚ) ≤ 2 ^ 53 := by exact_mod_cast canonical.short.le
  rw [abs_mul, magnitude, abs_of_pos (zpow_pos (by decide) e)]
  calc (m : ℚ) * 2 ^ e ≤ 2 ^ 53 * 2 ^ (place - 1) := by
        gcongr
        · decide
        · omega
    _ = 2 ^ 52 * 2 ^ place := by
      rw [zpow_sub_one₀ (by decide)]
      ring

/-- No double is closer to a number than the nearest one. -/
theorem NearestDouble.closest (nearest : NearestDouble v x) (exact : exactValue? x = some u)
    (other : exactValue? y = some w) : |v - u| ≤ |v - w| := by
  have whole := nearest.closest_whole exact
  unfold exactValue? at other
  cases unpacked : y.toModel.unpack with
  | infinity | notANumber =>
    rw [unpacked] at other
    cases other
  | zero =>
    rw [unpacked] at other
    cases other
    simpa using whole 0
  | finite s m e positive =>
    obtain ⟨canonical, -⟩ := unpack_canonical unpacked
    rw [unpacked] at other
    cases other
    by_cases coarse : lastBit v ≤ e
    · obtain ⟨k, same⟩ := coarse_multiple coarse (s.apply m)
      exact same ▸ whole k
    -- The other double has finer bits, so it is below the power of two the number starts with.
    by_cases none : v = 0
    · have nothing := whole 0
      rw [none, Int.cast_zero, zero_mul, sub_zero, abs_zero] at nothing
      rw [none]
      exact nothing.trans (abs_nonneg _)
    · have normal : lastBit v = Int.log 2 |v| - 52 := by
        have least := canonical.least
        rw [lastBit] at coarse ⊢
        omega
      have below := canonical.abs_le_leading s (not_le.1 coarse)
      have reached := nearest.closest_leading exact (leading_power_le none normal)
      have far := abs_sub_abs_le_abs_sub v ((s.apply m : ℤ) * 2 ^ e)
      linarith

end Closest

section Numerals

variable {m : ℕ}

theorem two_power_le_ten : (2 : ℚ) ^ 1200 ≤ 10 ^ (400 : ℤ) := by
  rw [zpow_ofNat, pow_mul 2 3 400]
  exact pow_le_pow_left₀ (by decide) (by norm_num) 400

theorem nearest_many_digits (positive : 0 < m) {e : ℤ} (many : 400 ≤ Nat.log 10 m + e) :
    NearestDouble (m * 10 ^ e) (1.0 / 0.0) := by
  have least : (10 : ℚ) ^ (Nat.log 10 m : ℤ) ≤ m := by
    rw [zpow_natCast]
    exact_mod_cast Nat.pow_log_le_self 10 positive.ne'
  refine nearest_infinity ?_
  calc (2 : ℚ) ^ 1024 ≤ 2 ^ 1200 := pow_le_pow_right₀ (by decide) (by decide)
    _ ≤ 10 ^ (400 : ℤ) := two_power_le_ten
    _ ≤ 10 ^ ((Nat.log 10 m : ℤ) + e) := zpow_le_zpow_right₀ (by decide) many
    _ = 10 ^ (Nat.log 10 m : ℤ) * 10 ^ e := zpow_add₀ (by decide) _ _
    _ ≤ m * 10 ^ e := by gcongr

theorem nearest_few_digits (positive : 0 < m) {e : ℤ} (few : Nat.log 10 m + 1 + e ≤ -400) :
    NearestDouble (m * 10 ^ e) 0.0 := by
  have shown : (0 : ℚ) < m := by exact_mod_cast positive
  have most : (m : ℚ) ≤ 10 ^ ((Nat.log 10 m : ℤ) + 1) := by
    exact_mod_cast (Nat.lt_pow_succ_log_self (by decide) m).le
  refine nearest_underflow (by positivity) ?_
  calc (m * 10 ^ e : ℚ) ≤ 10 ^ ((Nat.log 10 m : ℤ) + 1) * 10 ^ e := by gcongr
    _ = 10 ^ ((Nat.log 10 m : ℤ) + 1 + e) := (zpow_add₀ (by decide) _ _).symm
    _ ≤ 10 ^ (-400 : ℤ) := zpow_le_zpow_right₀ (by decide) few
    _ ≤ 2 ^ (-1200 : ℤ) := by
      rw [zpow_neg, zpow_neg]
      exact inv_anti₀ (by positivity) two_power_le_ten
    _ ≤ 2 ^ (-1075 : ℤ) := zpow_le_zpow_right₀ (by decide) (by decide)

theorem whole_scientific (m : ℕ) {e : ℤ} (whole : 0 ≤ e) : (m * 10 ^ e : ℚ) =
    (m <<< 53 : ℕ) * 2 ^ (-53 : ℤ) * ((10 ^ e.toNat : ℕ) * 2 ^ (0 : ℤ)) := by
  obtain ⟨k, rfl⟩ := Int.eq_ofNat_of_zero_le whole
  have units : (2 : ℚ) ^ 53 * 2 ^ (-53 : ℤ) = 1 := by norm_num
  rw [Nat.shiftLeft_eq, zpow_natCast, Int.toNat_natCast, zpow_zero, mul_one, Nat.cast_mul,
    Nat.cast_pow, Nat.cast_ofNat, mul_assoc (m : ℚ), units, mul_one]
  push_cast
  rfl

theorem fraction_scientific (m : ℕ) {e : ℤ} (fraction : e ≤ 0) :
    (m * 10 ^ e : ℚ) = m * 2 ^ (0 : ℤ) / ((10 ^ (-e).toNat : ℕ) * 2 ^ (0 : ℤ)) := by
  obtain ⟨k, rfl⟩ := Int.exists_eq_neg_ofNat fraction
  rw [zpow_neg, zpow_natCast, neg_neg, Int.toNat_natCast, zpow_zero, mul_one, mul_one,
    div_eq_mul_inv]
  push_cast
  rfl

theorem model_scientific_nearest (positive : 0 < m) (e : ℤ) :
    NearestDouble (m * 10 ^ e) ⟨Float.Model.ofScientific m e⟩ := by
  have shown : (0 : ℚ) < m := by exact_mod_cast positive
  have value : (0 : ℚ) < m * 10 ^ e := by positivity
  have packed : (⟨Float.Model.ofScientific m e⟩ : Float) =
      ⟨Float.Model.pack (UnpackedFloat.ofScientific .binary64 m e)⟩ := rfl
  rw [packed]
  unfold UnpackedFloat.ofScientific
  rw [dif_neg positive.ne']
  split
  · rename_i large
    have past : (2048 : ℤ) < e := large
    exact nearest_many_digits positive (by omega)
  split
  · rename_i small
    have past : e < -(2048 + (m.log2 : ℤ)) := small
    have digits : Nat.log 10 m ≤ m.log2 :=
      Nat.log2_eq_log_two ▸ Nat.log_anti_left (by decide) (by decide)
    exact nearest_few_digits positive (by omega)
  split
  · rename_i whole
    have many : 2 ^ 52 ≤ m <<< 53 := by
      rw [Nat.shiftLeft_eq]
      omega
    rw [whole_scientific m whole] at value ⊢
    refine (mul_rounded (many.trans ?_)).nearest_double value
    exact Nat.le_mul_of_pos_right _ (Nat.pow_pos (by decide))
  · rename_i fraction
    rw [fraction_scientific m (not_le.1 fraction).le] at value ⊢
    exact div_rounded.nearest_double value

theorem NearestDouble.exact {v : ℚ} {x : Float} {k : ℤ} (nearest : NearestDouble v x)
    (whole : v * 2 ^ (-lastBit v) = k) (small : |v| < 2 ^ 1024) : exactValue? x = some v := by
  obtain ⟨n, near, found⟩ := nearest
  have same : n = k := by
    rw [whole] at near
    exact near.unique (.of_closer (by simp))
  have value : (k : ℚ) * 2 ^ lastBit v = v := by
    rw [← whole, scaled_back]
  rw [same, value, if_pos small] at found
  exact found

theorem unpacked_of_value {x : Float} {v : ℚ} (exact : exactValue? x = some v) (shown : 0 < v) :
    ∃ k e some, x.toModel.unpack = .finite .positive k e some ∧ (k : ℚ) * 2 ^ e = v := by
  unfold exactValue? at exact
  cases unpacked : x.toModel.unpack with
  | infinity | notANumber =>
    rw [unpacked] at exact
    cases exact
  | zero =>
    rw [unpacked] at exact
    cases exact
    exact absurd shown (lt_irrefl 0)
  | finite s k e some =>
    rw [unpacked] at exact
    cases s with
    | positive => exact ⟨k, e, some, rfl, Option.some.inj exact⟩
    | negative =>
      have below : v ≤ 0 := by
        rw [← Option.some.inj exact]
        change ((-(k : ℤ) : ℤ) : ℚ) * 2 ^ e ≤ 0
        push_cast
        rw [neg_mul]
        exact neg_nonpos.2 (by positivity)
      exact absurd shown (not_lt.2 below)

section WholeNumbers

variable (positive : 0 < m) (short : m < 2 ^ 53)

include positive short

theorem whole_last_bit : lastBit m = m.log2 - 52 := by
  have shown : (0 : ℚ) < m := by exact_mod_cast positive
  have bits : m.log2 ≤ 52 := Nat.le_of_lt_succ ((Nat.log2_lt positive.ne').2 short)
  have log := Int.log_natCast (R := ℚ) 2 m
  rw [← Nat.log2_eq_log_two] at log
  rw [lastBit, abs_of_pos shown, log]
  omega

theorem normalize_rounded : Rounded m (UnpackedFloat.normalize .binary64 m 0 .positive) := by
  have shown : (0 : ℚ) < m := by exact_mod_cast positive
  have place := whole_last_bit positive short
  have bits : m.log2 ≤ 52 := Nat.le_of_lt_succ ((Nat.log2_lt positive.ne').2 short)
  have places : (0 - Format.binary64.targetExponent (totalExponent m 0)).toNat = 52 - m.log2 := by
    change (0 - max ((m.log2 : ℤ) + 1 + 0 - 53) (-1074)).toNat = 52 - m.log2
    omega
  have above : compare (m : ℤ) 0 = .gt := compare_gt_iff_gt.2 (by exact_mod_cast positive)
  unfold UnpackedFloat.normalize
  rw [above]
  unfold UnpackedFloat.round decreaseExponent
  dsimp only
  rw [Int.toNat_natCast, places]
  refine round_rounded shown ?_ (by omega)
  rw [zero_sub, neg_neg, zpow_natCast, Nat.shiftLeft_eq]
  exact_mod_cast measures_exact _

theorem whole_number_nearest : NearestDouble m (UInt64.toFloat m.toUInt64) := by
  have shown : (0 : ℚ) < m := by exact_mod_cast positive
  have word : (m.toUInt64).toNat = m := UInt64.toNat_ofNat_of_lt' (short.trans (by decide))
  have model : UInt64.toFloat m.toUInt64 =
      ⟨Float.Model.pack (UnpackedFloat.normalize .binary64 (m.toUInt64.toNat : ℤ) 0 .positive)⟩ :=
    rfl
  rw [model, word]
  exact (normalize_rounded positive short).nearest_double shown

theorem whole_number_value : exactValue? (UInt64.toFloat m.toUInt64) = some (m : ℚ) := by
  have shown : (0 : ℚ) < m := by exact_mod_cast positive
  have bits : m.log2 ≤ 52 := Nat.le_of_lt_succ ((Nat.log2_lt positive.ne').2 short)
  have whole : (m : ℚ) * 2 ^ (-lastBit m) = (m * 2 ^ (52 - m.log2) : ℤ) := by
    have places : -((m.log2 : ℤ) - 52) = (52 - m.log2 : ℕ) := by omega
    rw [whole_last_bit positive short, places, zpow_natCast]
    push_cast
    rfl
  refine (whole_number_nearest positive short).exact whole ?_
  rw [abs_of_pos shown]
  calc (m : ℚ) < 2 ^ 53 := by exact_mod_cast short
    _ ≤ 2 ^ 1024 := pow_le_pow_right₀ (by decide) (by decide)

end WholeNumbers

theorem Canonical.normal_of_one_le {k : ℕ} {e : ℤ} (canonical : Canonical k e)
    (one : (1 : ℚ) ≤ k * 2 ^ e) : 2 ^ 52 ≤ k := by
  refine canonical.normal.resolve_right fun tiny => absurd one (not_le.2 ?_)
  have few : (k : ℚ) < 2 ^ 53 := by exact_mod_cast canonical.short
  calc (k : ℚ) * 2 ^ e < 2 ^ 53 * 2 ^ e := by gcongr
    _ ≤ 2 ^ 53 * 2 ^ (-53 : ℤ) := by
      gcongr
      · decide
      · omega
    _ = 1 := by norm_num

theorem whole_number_unpacked (positive : 0 < m) (short : m < 2 ^ 53) :
    ∃ k e some, (UInt64.toFloat m.toUInt64).toModel.unpack = .finite .positive k e some ∧
      (k : ℚ) * 2 ^ e = m ∧ 2 ^ 52 ≤ k := by
  have shown : (0 : ℚ) < m := by exact_mod_cast positive
  obtain ⟨k, e, some, unpacked, value⟩ :=
    unpacked_of_value (whole_number_value positive short) shown
  have one : (1 : ℚ) ≤ k * 2 ^ e := by
    rw [value]
    exact_mod_cast positive
  exact ⟨k, e, some, unpacked, value, (unpack_canonical unpacked).1.normal_of_one_le one⟩

theorem power_of_ten_unpacked {power : ℕ}
    (small : power < Float.exactlyRepresentablePowersOfTen.size) :
    ∃ k e some, Float.exactlyRepresentablePowersOfTen[power].toModel.unpack =
      .finite .positive k e some ∧ (k : ℚ) * 2 ^ e = 10 ^ power := by
  have table : ∀ (power : ℕ) (small : power < Float.exactlyRepresentablePowersOfTen.size),
      Float.exactlyRepresentablePowersOfTen[power].isFinite = true ∧
        Dyadic.ofFloat Float.exactlyRepresentablePowersOfTen[power] =
          ⟨false, 5 ^ power * 2 ^ (52 - (5 ^ power).log2), power + (5 ^ power).log2 - 52⟩ := by
    decide +kernel
  obtain ⟨finite, parts⟩ := table power small
  rw [← exact_value_finite, Option.isSome_iff_exists] at finite
  obtain ⟨v, exact⟩ := finite
  have bits : (5 ^ power).log2 ≤ 52 := by
    have few : power < 23 := small
    have most : 5 ^ power < 2 ^ 53 :=
      lt_of_le_of_lt (Nat.pow_le_pow_right (by decide) (Nat.le_of_lt_succ few)) (by decide)
    exact Nat.le_of_lt_succ ((Nat.log2_lt (Nat.pow_pos (by decide)).ne').2 most)
  have value : v = 10 ^ power := by
    have tens : (10 : ℚ) ^ power = 5 ^ power * 2 ^ power := by rw [← mul_pow]; norm_num
    have twos : (2 : ℚ) ^ (52 - (5 ^ power).log2) * 2 ^ ((power : ℤ) + (5 ^ power).log2 - 52) =
        2 ^ power := by
      rw [← zpow_natCast, ← zpow_add₀ (by decide), ← zpow_natCast]
      congr 1
      omega
    rw [← of_float_value exact, parts, Dyadic.value, tens, ← twos]
    push_cast
    ring
  rw [value] at exact
  exact unpacked_of_value exact (by positivity)

section Quotients

variable {x y : Float} {k l : ℕ} {e f : ℤ} {some : 0 < k} {more : 0 < l}
  (first : x.toModel.unpack = .finite .positive k e some)
  (second : y.toModel.unpack = .finite .positive l f more)

include first second

theorem nearest_quotient : NearestDouble (k * 2 ^ e / (l * 2 ^ f)) (x / y) := by
  have left : (0 : ℚ) < k := by exact_mod_cast some
  have right : (0 : ℚ) < l := by exact_mod_cast more
  change NearestDouble _
    ⟨Float.Model.pack (UnpackedFloat.div .binary64 x.toModel.unpack y.toModel.unpack)⟩
  rw [first, second]
  exact div_rounded.nearest_double (by positivity)

theorem nearest_product (many : 2 ^ 52 ≤ k * l) :
    NearestDouble (k * 2 ^ e * (l * 2 ^ f)) (x * y) := by
  have left : (0 : ℚ) < k := by exact_mod_cast some
  have right : (0 : ℚ) < l := by exact_mod_cast more
  change NearestDouble _
    ⟨Float.Model.pack (UnpackedFloat.mul .binary64 x.toModel.unpack y.toModel.unpack)⟩
  rw [first, second]
  exact (mul_rounded many).nearest_double (by positivity)

end Quotients

theorem scientific_nearest (positive : 0 < m) (below : Bool) (power : ℕ) :
    NearestDouble (m * 10 ^ (if below then -(power : ℤ) else power))
      (Float.ofScientific m below power) := by
  unfold Float.ofScientific
  by_cases exact : m < 2 ^ 53 ∧ power ≤ 22
  · rw [dif_pos exact]
    obtain ⟨k, e, some, whole, value, many⟩ := whole_number_unpacked positive exact.1
    obtain ⟨l, f, more, ten, unit⟩ := power_of_ten_unpacked (Nat.lt_succ_of_le exact.2)
    cases below with
    | true =>
      have same : (m * 10 ^ (-(power : ℤ)) : ℚ) = k * 2 ^ e / (l * 2 ^ f) := by
        rw [value, unit, zpow_neg, zpow_natCast, div_eq_mul_inv]
      change NearestDouble (m * 10 ^ (-(power : ℤ))) _
      rw [same]
      exact nearest_quotient whole ten
    | false =>
      have same : (m * 10 ^ (power : ℤ) : ℚ) = k * 2 ^ e * (l * 2 ^ f) := by
        rw [value, unit, zpow_natCast]
      change NearestDouble (m * 10 ^ (power : ℤ)) _
      rw [same]
      exact nearest_product whole ten (many.trans (Nat.le_mul_of_pos_right k more))
  · rw [dif_neg exact]
    cases below with
    | true => exact model_scientific_nearest positive _
    | false => exact model_scientific_nearest positive _

/-- A decimal numeral is read as the double nearest to it. -/
theorem Decimal.to_float_nearest (d : Decimal) :
    NearestDouble (d.coefficient * 10 ^ d.exponent) d.toFloat := by
  unfold Decimal.toFloat
  by_cases none : d.coefficient = 0
  · rw [if_pos none, none, Nat.cast_zero, zero_mul]
    exact nearest_zero
  have positive : 0 < d.coefficient := Nat.pos_of_ne_zero none
  have digits : (digitCount d.coefficient : ℤ) = Nat.log 10 d.coefficient + 1 := by
    exact_mod_cast digit_count_log positive
  dsimp only
  rw [if_neg none]
  split
  · exact nearest_many_digits positive (by omega)
  split
  · exact nearest_few_digits positive (by omega)
  · have power : (if d.exponent < 0 then -(d.exponent.natAbs : ℤ) else d.exponent.natAbs) =
        d.exponent := by
      split <;> omega
    have nearest := scientific_nearest positive (d.exponent < 0) d.exponent.natAbs
    simp only [decide_eq_true_eq] at nearest
    rwa [power] at nearest

/-- So is a numeral with a sign. -/
theorem DecimalNumeral.to_float_nearest (n : DecimalNumeral) : NearestDouble n.value n.toFloat := by
  have nearest := n.magnitude.to_float_nearest
  unfold DecimalNumeral.value DecimalNumeral.toFloat SignMark.apply
  split
  · exact nearest.neg
  · exact nearest

end Numerals

end BrightScript
