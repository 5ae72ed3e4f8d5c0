import Mathlib
import BrightScript.Number.Dyadic
set_option autoImplicit false

namespace BrightScript

open Float.Model Float.Model.UnpackedFloat

def unpackedValue? : UnpackedFloat → Option ℚ
  | .finite sign mantissa exponent _ => some (sign.apply mantissa * 2 ^ exponent)
  | .zero _ => some 0
  | .infinity _ | .notANumber => none

def exactValue? (x : Float) : Option ℚ :=
  unpackedValue? x.toModel.unpack

theorem exact_value_finite (x : Float) : (exactValue? x).isSome = x.isFinite := by
  change _ = x.toModel.unpack.isFinite
  unfold exactValue?
  cases x.toModel.unpack <;> rfl

theorem exact_value_number {x : Float} {v : ℚ} (exact : exactValue? x = some v) :
    x.isNaN = false ∧ x.isInf = false := by
  change x.toModel.unpack.isNaN = false ∧ x.toModel.unpack.isInf = false
  unfold exactValue? at exact
  cases unpacked : x.toModel.unpack with
  | finite | zero => exact ⟨rfl, rfl⟩
  | infinity | notANumber =>
    rw [unpacked] at exact
    cases exact

section Bits

variable (b : BitVec Format.binary64.numBits)

theorem mantissa_bits : (unpackMantissa b).toNat = b.toNat % 2 ^ 52 := by
  unfold unpackMantissa
  rw [BitVec.toNat_cast, BitVec.extractLsb_toNat]
  rfl

theorem exponent_bits : (unpackExponent b).toNat = b.toNat / 2 ^ 52 % 2 ^ 11 := by
  unfold unpackExponent
  rw [BitVec.toNat_cast, BitVec.extractLsb_toNat, Nat.shiftRight_eq_div_pow]
  rfl

theorem sign_bits : Sign.ofBitVec (unpackSign b) =
    if b.toNat / 2 ^ 63 = 1 then .negative else .positive := by
  have top : b.toNat / 2 ^ 63 < 2 := Nat.div_lt_of_lt_mul b.isLt
  have bit : (unpackSign b).toNat = b.toNat / 2 ^ 63 := by
    unfold unpackSign
    rw [BitVec.toNat_cast, BitVec.extractLsb_toNat, Nat.shiftRight_eq_div_pow]
    exact Nat.mod_eq_of_lt top
  have zero : unpackSign b = 0#1 ↔ b.toNat / 2 ^ 63 = 0 := by
    rw [← BitVec.toNat_inj, bit]
    rfl
  unfold Sign.ofBitVec
  simp only [zero]
  generalize b.toNat / 2 ^ 63 = high at top
  interval_cases high <;> rfl

theorem implicit_bit {width : ℕ} (m : BitVec width) : (1#1 ++ m).toNat = 2 ^ width + m.toNat := by
  rw [BitVec.toNat_append, Nat.shiftLeft_eq, Nat.mul_comm, ← Nat.two_pow_add_eq_or_of_lt m.isLt,
    BitVec.toNat_ofNat, Nat.mul_one]

end Bits

theorem applied_sign (bit : Prop) [Decidable bit] (m : ℕ) :
    (((if bit then Sign.negative else Sign.positive).apply m : ℤ) : ℚ) =
      (if bit then -1 else 1) * m := by
  by_cases set : bit
  · simp [set, Sign.apply]
  · simp [set, Sign.apply]

def Dyadic.value (d : Dyadic) : ℚ :=
  (if d.negative then -1 else 1) * (d.significand * 2 ^ d.exponent)

theorem unpacked_value {b : BitVec Format.binary64.numBits} {v : ℚ}
    (exact : unpackedValue? (unpack .binary64 b) = some v) :
    v = (if b.toNat / 2 ^ 63 = 1 then -1 else 1) *
      (if b.toNat / 2 ^ 52 % 2 ^ 11 = 0 then ((b.toNat % 2 ^ 52 : ℕ) : ℚ) * 2 ^ (-1074 : ℤ)
        else ((2 ^ 52 + b.toNat % 2 ^ 52 : ℕ) : ℚ) * 2 ^
          ((b.toNat / 2 ^ 52 % 2 ^ 11 : ℕ) - 1075 : ℤ)) := by
  have low : unpackExponent b = 0#_ ↔ (unpackExponent b).toNat = 0 := BitVec.toNat_inj.symm
  have bias : (Format.exponentBias .binary64 : ℤ) = 1023 := rfl
  unfold UnpackedFloat.unpack at exact
  dsimp only at exact
  rw [sign_bits, bias] at exact
  rw [← mantissa_bits, ← exponent_bits]
  by_cases top : unpackExponent b = -1#_
  · rw [if_pos top] at exact
    split at exact <;> cases exact
  · rw [if_neg top] at exact
    by_cases zero : unpackExponent b = 0#_
    · rw [if_pos zero] at exact
      rw [if_pos (low.1 zero)]
      split at exact
      · rename_i none
        cases exact
        rw [none]
        simp
      · cases exact
        rw [applied_sign, low.1 zero, mul_assoc]
        rfl
    · rw [if_neg zero] at exact
      rw [if_neg fun none => zero (low.2 none)]
      cases exact
      rw [applied_sign, implicit_bit, mul_assoc]
      rfl

theorem of_float_value {x : Float} {v : ℚ} (exact : exactValue? x = some v) :
    (Dyadic.ofFloat x).value = v := by
  rw [unpacked_value exact, Dyadic.value, Dyadic.ofFloat]
  have bits : x.toModel.toBits.toBitVec.toNat = x.toBits.toNat := rfl
  simp only [Nat.pow_eq, bits]
  split <;> simp only [decide_eq_true_eq]

section Packing

variable {s : Sign} {m : ℕ} {e : ℤ}

-- All bits of the significand are used, unless the exponent is the least one.
structure Canonical (m : ℕ) (e : ℤ) : Prop where
  short : m < 2 ^ 53
  least : -1074 ≤ e
  normal : 2 ^ 52 ≤ m ∨ e = -1074

theorem log_normal (canonical : Canonical m e) (normal : 2 ^ 52 ≤ m) : Nat.log2 m + 1 = 53 := by
  have some : m ≠ 0 := by omega
  have low := (Nat.le_log2 some).2 normal
  have high := (Nat.log2_lt some).2 canonical.short
  omega

theorem log_subnormal (positive : 0 < m) (subnormal : m < 2 ^ 52) : Nat.log2 m + 1 ≠ 53 := by
  have high := (Nat.log2_lt positive.ne').2 subnormal
  omega

theorem pack_overflow (positive : 0 < m) (large : 971 < e) :
    Float.Model.pack (.finite s m e positive) = Float.Model.pack (.infinity s) := by
  have past : 2 ^ Format.binary64.exponentBits ≤
      (e + Format.binary64.exponentBias + 52).toNat + 1 := by
    change 2048 ≤ (e + 1023 + 52).toNat + 1
    omega
  have packed : UnpackedFloat.pack .binary64 (.finite s m e positive) =
      packedInfinity .binary64 s := if_pos past
  simp only [Float.Model.pack, packed]
  rfl

theorem unpack_components (s : Sign) (exponent : BitVec 11) (mantissa : BitVec 52)
    (finite : exponent ≠ -1#11) : unpack .binary64 (packComponents .binary64 s exponent mantissa) =
      if exponent = 0#11 then
        if none : mantissa = 0#52 then .zero s
        else .finite s mantissa.toNat (-1074)
          (by have := BitVec.toNat_ne.1 none; simpa [Nat.pos_iff_ne_zero] using this)
      else .finite s (1#1 ++ mantissa).toNat (exponent.toNat - 1075)
        (by rw [implicit_bit]; positivity) := by
  have bias : ((Format.exponentBias .binary64 : ℕ) : ℤ) + (52 : ℕ) = 1075 := rfl
  unfold UnpackedFloat.unpack
  dsimp only
  simp only [unpackExponent_packComponents, unpackMantissa_packComponents,
    unpackSign_packComponents, Sign.ofBitVec_toBitVec]
  rw [if_neg finite]
  simp only [bias]
  split
  · rename_i zero
    subst zero
    rfl
  · rfl

theorem exponent_in_range (small : e ≤ 971) :
    ¬ 2 ^ Format.binary64.exponentBits ≤ (e + Format.binary64.exponentBias + 52).toNat + 1 := by
  change ¬ 2048 ≤ (e + 1023 + 52).toNat + 1
  omega

theorem pack_normal (positive : 0 < m) (canonical : Canonical m e) (small : e ≤ 971)
    (normal : 2 ^ 52 ≤ m) : UnpackedFloat.pack .binary64 (.finite s m e positive) =
      packComponents .binary64 s (BitVec.ofNat 11 (e + 1023 + 52).toNat) (BitVec.ofNat 52 m) :=
  (if_neg (exponent_in_range small)).trans (if_pos (log_normal canonical normal))

theorem pack_subnormal (positive : 0 < m) (small : e ≤ 971) (subnormal : m < 2 ^ 52) :
    UnpackedFloat.pack .binary64 (.finite s m e positive) =
      packComponents .binary64 s 0#11 (BitVec.ofNat 52 m) :=
  (if_neg (exponent_in_range small)).trans (if_neg (log_subnormal positive subnormal))

theorem unpack_pack (positive : 0 < m) (canonical : Canonical m e) (small : e ≤ 971) :
    (Float.Model.pack (.finite s m e positive)).unpack = .finite s m e positive := by
  have some := canonical.least
  have least : (BitVec.ofNat 52 m).toNat = m % 2 ^ 52 := BitVec.toNat_ofNat ..
  change UnpackedFloat.unpack .binary64 (UnpackedFloat.pack .binary64 (.finite s m e positive)) = _
  by_cases normal : 2 ^ 52 ≤ m
  · have exponent : (BitVec.ofNat 11 (e + 1023 + 52).toNat).toNat = (e + 1075).toNat := by
      rw [BitVec.toNat_ofNat]
      omega
    have number : BitVec.ofNat 11 (e + 1023 + 52).toNat ≠ -1#11 := by
      intro same
      have bits := congrArg BitVec.toNat same
      rw [exponent] at bits
      change (e + 1075).toNat = 2047 at bits
      omega
    have whole : BitVec.ofNat 11 (e + 1023 + 52).toNat ≠ 0#11 := by
      intro same
      have bits := congrArg BitVec.toNat same
      rw [exponent] at bits
      change (e + 1075).toNat = 0 at bits
      omega
    have short := canonical.short
    rw [pack_normal positive canonical small normal, unpack_components _ _ _ number, if_neg whole]
    congr 1
    · rw [implicit_bit, least]
      omega
    · rw [exponent]
      omega
  · have subnormal := Nat.not_le.1 normal
    obtain rfl := canonical.normal.resolve_left normal
    have shown : (BitVec.ofNat 52 m).toNat = m := least.trans (Nat.mod_eq_of_lt subnormal)
    have more : BitVec.ofNat 52 m ≠ 0#52 := by
      intro none
      have bits := congrArg BitVec.toNat none
      rw [shown] at bits
      exact positive.ne' bits
    rw [pack_subnormal positive small subnormal, unpack_components _ _ _ (by decide), if_pos rfl,
      dif_neg more]
    congr 1

theorem unpack_canonical {b : BitVec Format.binary64.numBits} {positive : 0 < m}
    (unpacked : unpack .binary64 b = .finite s m e positive) : Canonical m e ∧ e ≤ 971 := by
  have bias : ((Format.exponentBias .binary64 : ℕ) : ℤ) + (52 : ℕ) = 1075 := rfl
  have short : (unpackMantissa b).toNat < 2 ^ 52 := (unpackMantissa b).isLt
  have exponents : (unpackExponent b).toNat < 2 ^ 11 := (unpackExponent b).isLt
  unfold UnpackedFloat.unpack at unpacked
  dsimp only at unpacked
  simp only [bias] at unpacked
  by_cases top : unpackExponent b = -1#_
  · rw [if_pos top] at unpacked
    split at unpacked <;> cases unpacked
  · have below : (unpackExponent b).toNat ≠ 2047 := fun same => top (BitVec.eq_of_toNat_eq same)
    rw [if_neg top] at unpacked
    by_cases zero : unpackExponent b = 0#_
    · rw [if_pos zero] at unpacked
      split at unpacked
      · cases unpacked
      · cases unpacked
        rw [zero]
        exact ⟨⟨by omega, by decide, .inr rfl⟩, by decide⟩
    · have some : (unpackExponent b).toNat ≠ 0 := fun same => zero (BitVec.eq_of_toNat_eq same)
      rw [if_neg zero] at unpacked
      cases unpacked
      have whole : (1#1 ++ unpackMantissa b).toNat = 2 ^ 52 + (unpackMantissa b).toNat :=
        implicit_bit _
      refine ⟨⟨?_, by omega, .inl ?_⟩, by omega⟩ <;> rw [whole] <;> omega

theorem unpack_infinity (s : Sign) : (Float.Model.pack (.infinity s)).unpack = .infinity s := by
  cases s <;> rfl

theorem unpack_zero (s : Sign) : (Float.Model.pack (.zero s)).unpack = .zero s := by
  cases s <;> rfl

theorem exact_value_neg (x : Float) : exactValue? (-x) = (exactValue? x).map (-·) := by
  change unpackedValue? (Float.Model.pack (UnpackedFloat.neg x.toModel.unpack)).unpack =
    (unpackedValue? x.toModel.unpack).map (-·)
  cases unpacked : x.toModel.unpack with
  | notANumber => rfl
  | infinity s => exact congrArg unpackedValue? (unpack_infinity (-s))
  | zero s =>
    refine (congrArg unpackedValue? (unpack_zero (-s))).trans ?_
    exact congrArg some neg_zero.symm
  | finite s m e positive =>
    obtain ⟨canonical, small⟩ := unpack_canonical unpacked
    refine (congrArg unpackedValue? (unpack_pack (s := -s) positive canonical small)).trans ?_
    have turned : (((-s).apply (m : ℤ) : ℤ) : ℚ) = -(s.apply (m : ℤ) : ℤ) := by
      cases s
      · exact (neg_neg _).symm
      · exact Int.cast_neg _
    simp only [unpackedValue?, Option.map_some, turned, neg_mul]

end Packing

end BrightScript
