import Mathlib.Data.Int.Bitwise
import BrightScript.Arithmetic
set_option autoImplicit false

namespace BrightScript

inductive Width where
  | short
  | long
deriving DecidableEq

def Width.bits : Width → Nat
  | .short => 32
  | .long => 64

def Width.join : Width → Width → Width
  | .short, .short => .short
  | _, _ => .long

inductive Scalar.Holds : Scalar → Width → Int → Prop
  | short (x : Int32) : Scalar.Holds (.integer x) .short x.toInt
  | long (x : Int64) : Scalar.Holds (.longInteger x) .long x.toInt

def Value.Holds (value : Value) (width : Width) (n : Int) : Prop :=
  ∃ s, value.scalar? = some s ∧ s.Holds width n

def Gives (outcome : Except Fault Value) (width : Width) (n : Int) : Prop :=
  ∃ s, outcome = .ok (.scalar s) ∧ s.Holds width n

inductive Operands.Hold : Operands → Width → Int → Int → Prop
  | short (x y : Int32) : Operands.Hold (.integer x y) .short x.toInt y.toInt
  | long (x y : Int64) : Operands.Hold (.longInteger x y) .long x.toInt y.toInt

theorem Scalar.Holds.of_eq {s : Scalar} {w : Width} {m n : Int} (holds : s.Holds w m)
    (same : m = n) : s.Holds w n :=
  same ▸ holds

theorem test_bit_word {w : Nat} (x : BitVec w) (i : Nat) :
    x.toInt.testBit i = if i < w then x.getLsbD i else x.msb := by
  cases sign : x.msb with
  | false =>
    rw [BitVec.toInt_eq_toNat_of_msb sign]
    split
    · rfl
    · rename_i above
      exact x.getLsbD_of_ge i (Nat.le_of_not_lt above)
  | true =>
    have below : x.toNat < 2 ^ w := x.isLt
    have negative : x.toInt = Int.negSucc (2 ^ w - (x.toNat + 1)) := by
      rw [BitVec.toInt_eq_msb_cond, if_pos sign]
      omega
    rw [negative, Int.testBit, Nat.testBit_two_pow_sub_succ below]
    by_cases inside : i < w <;> simp [inside, BitVec.getLsbD]

theorem test_bit_and {w : Nat} (x y : BitVec w) (i : Nat) :
    (x &&& y).toInt.testBit i = (x.toInt.testBit i && y.toInt.testBit i) := by
  simp only [test_bit_word]
  split <;> simp

theorem test_bit_or {w : Nat} (x y : BitVec w) (i : Nat) :
    (x ||| y).toInt.testBit i = (x.toInt.testBit i || y.toInt.testBit i) := by
  simp only [test_bit_word]
  split <;> simp

theorem shift_amount {w : Nat} (y : BitVec w) (some : 0 < w) (fits : (BitVec.ofNat w w).toInt = w) :
    (y.smod (BitVec.ofNat w w)).toNat = (y.toInt % w).toNat := by
  have amount : (y.smod (BitVec.ofNat w w)).toInt = y.toInt % w := by
    rw [BitVec.toInt_smod, fits, Int.fmod_eq_emod_of_nonneg _ (Int.natCast_nonneg w)]
  have nonneg : 0 ≤ y.toInt % w := Int.emod_nonneg _ (by omega)
  have below : (y.smod (BitVec.ofNat w w)).toNat < 2 ^ w := BitVec.isLt _
  rw [← amount] at nonneg ⊢
  rw [BitVec.toInt_eq_toNat_cond] at nonneg ⊢
  split at nonneg
  · rw [if_pos ‹_›]
    rfl
  · omega

theorem shift_left_word {w : Nat} (x y : BitVec w) (some : 0 < w)
    (fits : (BitVec.ofNat w w).toInt = w) :
    (x <<< y.smod (BitVec.ofNat w w)).toInt = (x.toInt * 2 ^ (y.toInt % w).toNat).bmod (2 ^ w) := by
  rw [BitVec.shiftLeft_eq', shift_amount y some fits, BitVec.toInt_shiftLeft,
    BitVec.toInt_eq_toNat_bmod x, Nat.shiftLeft_eq, Int.bmod_mul_bmod]
  rfl

theorem shift_right_word {w : Nat} (x y : BitVec w) (some : 0 < w)
    (fits : (BitVec.ofNat w w).toInt = w) :
    (x.sshiftRight' (y.smod (BitVec.ofNat w w))).toInt = x.toInt / 2 ^ (y.toInt % w).toNat := by
  rw [BitVec.toInt_sshiftRight', shift_amount y some fits, Int.shiftRight_eq_div_pow]
  rfl

theorem remainder_bounds (a : Int) {b : Int} (divides : b ≠ 0) :
    (a.tmod b).natAbs < b.natAbs ∧ (a.tmod b = 0 ∨ (a.tmod b).sign = a.sign) := by
  constructor
  · rw [Int.natAbs_tmod]
    exact Nat.mod_lt _ (Int.natAbs_pos.2 divides)
  · rw [Int.sign_tmod]
    split
    · rename_i exact_
      exact .inl (Int.tmod_eq_zero_of_dvd exact_)
    · exact .inr rfl

section

variable {pair : Operands} {w : Width} {a b : Int}

theorem Operands.Hold.reduced (hold : pair.Hold w a b) : a.bmod (2 ^ w.bits) = a := by
  cases hold with
  | short x y => exact x.toInt_bmod
  | long x y => exact x.toInt_bmod

theorem add_holds (hold : pair.Hold w a b) : pair.add.Holds w ((a + b).bmod (2 ^ w.bits)) := by
  cases hold with
  | short x y => exact (Scalar.Holds.short (x + y)).of_eq (x.toInt_add y)
  | long x y => exact (Scalar.Holds.long (x + y)).of_eq (x.toInt_add y)

theorem subtract_holds (hold : pair.Hold w a b) :
    pair.subtract.Holds w ((a - b).bmod (2 ^ w.bits)) := by
  cases hold with
  | short x y => exact (Scalar.Holds.short (x - y)).of_eq (x.toInt_sub y)
  | long x y => exact (Scalar.Holds.long (x - y)).of_eq (x.toInt_sub y)

theorem multiply_holds (hold : pair.Hold w a b) :
    pair.multiply.Holds w ((a * b).bmod (2 ^ w.bits)) := by
  cases hold with
  | short x y => exact (Scalar.Holds.short (x * y)).of_eq (x.toInt_mul y)
  | long x y => exact (Scalar.Holds.long (x * y)).of_eq (x.toInt_mul y)

theorem left_shift_holds (hold : pair.Hold w a b) :
    ∃ s, pair.leftShift? = some s ∧ s.Holds w ((a * 2 ^ (b % w.bits).toNat).bmod (2 ^ w.bits)) := by
  cases hold with
  | short x y =>
    have shifted := shift_left_word x.toBitVec y.toBitVec (by decide) (by decide)
    exact ⟨_, rfl, (Scalar.Holds.short (x <<< y)).of_eq shifted⟩
  | long x y =>
    have shifted := shift_left_word x.toBitVec y.toBitVec (by decide) (by decide)
    exact ⟨_, rfl, (Scalar.Holds.long (x <<< y)).of_eq shifted⟩

theorem right_shift_holds (hold : pair.Hold w a b) :
    ∃ s, pair.rightShift? = some s ∧ s.Holds w (a / 2 ^ (b % w.bits).toNat) := by
  cases hold with
  | short x y =>
    have shifted := shift_right_word x.toBitVec y.toBitVec (by decide) (by decide)
    exact ⟨_, rfl, (Scalar.Holds.short (x >>> y)).of_eq shifted⟩
  | long x y =>
    have shifted := shift_right_word x.toBitVec y.toBitVec (by decide) (by decide)
    exact ⟨_, rfl, (Scalar.Holds.long (x >>> y)).of_eq shifted⟩

theorem divided_by_zero (hold : pair.Hold w a 0) :
    pair.integerDivide = .error .divideByZero ∧ pair.modulo = .error .divideByZero := by
  generalize zero : (0 : Int) = b at hold
  cases hold with
  | short x y =>
    have none : y = 0 := Int32.toInt_inj.1 zero.symm
    exact ⟨if_pos none, if_pos none⟩
  | long x y =>
    have none : y = 0 := Int64.toInt_inj.1 zero.symm
    exact ⟨if_pos none, if_pos none⟩

theorem divided_holds (hold : pair.Hold w a b) (divides : b ≠ 0) :
    (∃ s, pair.integerDivide = .ok s ∧ s.Holds w ((a.tdiv b).bmod (2 ^ w.bits))) ∧
      ∃ s, pair.modulo = .ok s ∧ s.Holds w (a.tmod b) := by
  cases hold with
  | short x y =>
    have some : y ≠ 0 := fun none => divides (congrArg Int32.toInt none)
    exact ⟨⟨_, if_neg some, (Scalar.Holds.short (x / y)).of_eq (x.toInt_div y)⟩,
      ⟨_, if_neg some, (Scalar.Holds.short (x % y)).of_eq (x.toInt_mod y)⟩⟩
  | long x y =>
    have some : y ≠ 0 := fun none => divides (congrArg Int64.toInt none)
    exact ⟨⟨_, if_neg some, (Scalar.Holds.long (x / y)).of_eq (x.toInt_div y)⟩,
      ⟨_, if_neg some, (Scalar.Holds.long (x % y)).of_eq (x.toInt_mod y)⟩⟩

end

section

variable {s t : Scalar} {u v : Width} {a b : Int}

theorem operands_hold (first : s.Holds u a) (second : t.Holds v b) :
    ∃ pair, operands? s t = some pair ∧ pair.Hold (u.join v) a b := by
  cases first with
  | short x =>
    cases second with
    | short y => exact ⟨_, rfl, .short x y⟩
    | long y => exact ⟨_, rfl, x.toInt_toInt64 ▸ .long x.toInt64 y⟩
  | long x =>
    cases second with
    | short y => exact ⟨_, rfl, y.toInt_toInt64 ▸ .long x y.toInt64⟩
    | long y => exact ⟨_, rfl, .long x y⟩

theorem Value.Holds.unboxed {value : Value} (holds : value.Holds u a) :
    ∃ s, value.scalar? = some s ∧ value.unboxed = .scalar s ∧ s.Holds u a := by
  obtain ⟨s, found, word⟩ := holds
  refine ⟨s, found, ?_, word⟩
  cases value with
  | scalar other =>
    cases found
    rfl
  | object o =>
    cases o with
    | box mark content =>
      cases found
      rfl
    | array | table | component => cases found
  | uninitialized | function | interface => cases found

theorem addition_words {pair : Operands} (first : s.Holds u a) (found : operands? s t = some pair) :
    addition (.scalar s) (.scalar t) = .ok pair.add := by
  have summed : arithmetic .add (.scalar s) (.scalar t) = .ok pair.add := by
    simp only [arithmetic, Value.operands?, found]
  cases first with
  | short x | long x => exact summed

theorem logical_words {pair : Operands} {w : Width} {m n : Int} (first : s.Holds u a)
    (found : operands? s t = some pair) (hold : pair.Hold w m n) {op : BinaryOp}
    {ofBool : Bool → Bool → Bool} {ofInteger : Int32 → Int32 → Int32}
    {ofLong : Int64 → Int64 → Int64} (bit : Bool → Bool → Bool)
    (short : ∀ x y i, (ofInteger x y).toInt.testBit i = bit (x.toInt.testBit i) (y.toInt.testBit i))
    (long : ∀ x y i, (ofLong x y).toInt.testBit i = bit (x.toInt.testBit i) (y.toInt.testBit i)) :
    ∃ r, Gives (Value.scalar <$> logical op ofBool ofInteger ofLong (.scalar s) (.scalar t)) w r ∧
      ∀ i, r.testBit i = bit (m.testBit i) (n.testBit i) := by
  have paired : (Value.scalar s).operands? (.scalar t) = some pair := found
  cases hold with
  | short x y =>
    refine ⟨_, ⟨.integer (ofInteger x y), ?_, .short _⟩, short x y⟩
    cases first <;> simp only [logical, paired] <;> rfl
  | long x y =>
    refine ⟨_, ⟨.longInteger (ofLong x y), ?_, .long _⟩, long x y⟩
    cases first <;> simp only [logical, paired] <;> rfl

theorem negate_word (word : s.Holds u a) :
    ∃ r, negate? s = some r ∧ r.Holds u ((0 - a).bmod (2 ^ u.bits)) := by
  rw [Int.zero_sub]
  cases word with
  | short x => exact ⟨_, rfl, (Scalar.Holds.short (-x)).of_eq x.toInt_neg⟩
  | long x => exact ⟨_, rfl, (Scalar.Holds.long (-x)).of_eq x.toInt_neg⟩

theorem complement_word (word : s.Holds u a) :
    ∃ r, complement? s = some r ∧ r.Holds u (-a - 1) := by
  cases word with
  | short x =>
    refine ⟨_, rfl, (Scalar.Holds.short (~~~x)).of_eq ?_⟩
    rw [Int32.toInt_not, Int.bmod_eq_of_le] <;> have := x.toInt_lt <;> have := x.le_toInt <;> omega
  | long x =>
    refine ⟨_, rfl, (Scalar.Holds.long (~~~x)).of_eq ?_⟩
    rw [Int64.toInt_not, Int.bmod_eq_of_le] <;> have := x.toInt_lt <;> have := x.le_toInt <;> omega

end

section

variable {left right : Value} {s t : Scalar} {pair : Operands} (content : left.unboxed = .scalar s)
  (other : right.unboxed = .scalar t) (found : operands? s t = some pair)
include content other found

theorem apply_words :
    applyBinary .subtract left right = .ok (.scalar pair.subtract) ∧
    applyBinary .multiply left right = .ok (.scalar pair.multiply) ∧
    applyBinary .integerDivide left right = Value.scalar <$> pair.integerDivide ∧
    applyBinary .modulo left right = Value.scalar <$> pair.modulo ∧
    (∀ r, pair.leftShift? = some r → applyBinary .leftShift left right = .ok (.scalar r)) ∧
    ∀ r, pair.rightShift? = some r → applyBinary .rightShift left right = .ok (.scalar r) := by
  refine ⟨?_, ?_, ?_, ?_, fun r shifted => ?_, fun r shifted => ?_⟩
  all_goals simp only [applyBinary, content, other, arithmetic, Value.operands?, found]
  · rfl
  · rfl
  · rw [shifted]
    rfl
  · rw [shifted]
    rfl

theorem divided_words {w : Width} {a b : Int} (hold : pair.Hold w a b) :
    (applyBinary .integerDivide left right = .error .divideByZero ↔ b = 0) ∧
    (applyBinary .modulo left right = .error .divideByZero ↔ b = 0) ∧
    (b ≠ 0 → Gives (applyBinary .integerDivide left right) w ((a.tdiv b).bmod (2 ^ w.bits)) ∧
      Gives (applyBinary .modulo left right) w (a.tmod b)) := by
  obtain ⟨_, _, quotient, remainder, _⟩ := apply_words content other found
  by_cases zero : b = 0
  · subst zero
    obtain ⟨refused, alike⟩ := divided_by_zero hold
    rw [quotient, remainder, refused, alike]
    exact ⟨⟨fun _ => rfl, fun _ => rfl⟩, ⟨fun _ => rfl, fun _ => rfl⟩,
      fun divides => absurd rfl divides⟩
  · obtain ⟨⟨q, divided, holds⟩, r, rest, left_⟩ := divided_holds hold zero
    rw [quotient, remainder, divided, rest]
    refine ⟨⟨fun failed => ?_, fun none => absurd none zero⟩,
      ⟨fun failed => ?_, fun none => absurd none zero⟩, fun _ => ⟨⟨q, rfl, holds⟩, ⟨r, rfl, left_⟩⟩⟩
    · cases failed
    · cases failed

end

/-- Integer arithmetic is exact modulo the width. The operands are words of either width, in boxes
or not, that hold `a` and `b`, and the result is a word of the wider width. Sum, difference and
product are those of the integers, reduced to the range of the words. Division and remainder fail
where the divisor is zero, and only there; else the quotient is rounded toward zero, reduced where
it leaves the range, and gives back the dividend together with a remainder that is shorter than the
divisor and has the sign of the dividend. `and` and `or` work bit by bit, shifts go by their amount
modulo the width, and the unary operators are `0 - a` and `-a - 1`. -/
theorem integer_arithmetic_exact {left right : Value} {u v : Width} {a b : Int}
    (first : left.Holds u a) (second : right.Holds v b) :
    let w := u.join v
    let range := 2 ^ w.bits
    Gives (applyBinary .add left right) w ((a + b).bmod range) ∧
    Gives (applyBinary .subtract left right) w ((a - b).bmod range) ∧
    Gives (applyBinary .multiply left right) w ((a * b).bmod range) ∧
    (applyBinary .integerDivide left right = .error .divideByZero ↔ b = 0) ∧
    (applyBinary .modulo left right = .error .divideByZero ↔ b = 0) ∧
    (b ≠ 0 → ∃ q r, Gives (applyBinary .integerDivide left right) w q ∧
      Gives (applyBinary .modulo left right) w r ∧ q = (a.tdiv b).bmod range ∧
      (q * b + r).bmod range = a ∧
      r.natAbs < b.natAbs ∧ (r = 0 ∨ r.sign = a.sign)) ∧
    (∃ n, Gives (applyBinary .and left right) w n ∧
      ∀ i, n.testBit i = (a.testBit i && b.testBit i)) ∧
    (∃ n, Gives (applyBinary .or left right) w n ∧
      ∀ i, n.testBit i = (a.testBit i || b.testBit i)) ∧
    Gives (applyBinary .leftShift left right) w ((a * 2 ^ (b % w.bits).toNat).bmod range) ∧
    Gives (applyBinary .rightShift left right) w (a / 2 ^ (b % w.bits).toNat) ∧
    Gives (applyUnary .negate left) u ((0 - a).bmod (2 ^ u.bits)) ∧
    Gives (applyUnary .not left) u (-a - 1) := by
  obtain ⟨s, read, content, word⟩ := first.unboxed
  obtain ⟨t, _, other, operand⟩ := second.unboxed
  obtain ⟨pair, found, hold⟩ := operands_hold word operand
  obtain ⟨difference, product, _, _, left_, right_⟩ := apply_words content other found
  obtain ⟨noQuotient, noRemainder, divided⟩ := divided_words content other found hold
  obtain ⟨shifted, leftShift, leftHolds⟩ := left_shift_holds hold
  obtain ⟨moved, rightShift, rightHolds⟩ := right_shift_holds hold
  obtain ⟨opposite, negated, oppositeHolds⟩ := negate_word word
  obtain ⟨complement, inverted, complementHolds⟩ := complement_word word
  have sum : applyBinary .add left right = .ok (.scalar pair.add) := by
    change Value.scalar <$> addition left.unboxed right.unboxed = _
    rw [content, other, addition_words word found]
    rfl
  refine ⟨⟨_, sum, add_holds hold⟩, ⟨_, difference, subtract_holds hold⟩,
    ⟨_, product, multiply_holds hold⟩, noQuotient, noRemainder, fun divides => ?_, ?_, ?_,
    ⟨_, left_ _ leftShift, leftHolds⟩, ⟨_, right_ _ rightShift, rightHolds⟩,
      ⟨opposite, ?_, oppositeHolds⟩, ⟨complement, ?_, complementHolds⟩⟩
  · obtain ⟨quotient, remainder⟩ := divided divides
    obtain ⟨short, sign⟩ := remainder_bounds a divides
    refine ⟨_, _, quotient, remainder, rfl, ?_, short, sign⟩
    rw [← Int.bmod_add_bmod, Int.bmod_mul_bmod, Int.bmod_add_bmod, Int.tdiv_mul_add_tmod,
      hold.reduced]
  · change ∃ n, Gives (Value.scalar <$> logical .and _ _ _ left.unboxed right.unboxed) _ n ∧ _
    rw [content, other]
    exact logical_words word found hold (· && ·) (fun x y => test_bit_and x.toBitVec y.toBitVec)
      fun x y => test_bit_and x.toBitVec y.toBitVec
  · change ∃ n, Gives (Value.scalar <$> logical .or _ _ _ left.unboxed right.unboxed) _ n ∧ _
    rw [content, other]
    exact logical_words word found hold (· || ·) (fun x y => test_bit_or x.toBitVec y.toBitVec)
      fun x y => test_bit_or x.toBitVec y.toBitVec
  · simp only [applyUnary, read, Option.bind_some, negated]
  · simp only [applyUnary, read, Option.bind_some, inverted]

theorem least_integer_divided :
    (Value.object (.box 0 (.integer Int32.minValue))).Holds .short (-2147483648) ∧
      (Value.integer (-1)).Holds .short (-1) ∧
      Gives (applyBinary .integerDivide (.object (.box 0 (.integer Int32.minValue)))
        (.integer (-1))) .short
        (-2147483648) := by
  have least : (Value.object (.box 0 (.integer Int32.minValue))).Holds .short (-2147483648) :=
    ⟨_, rfl, .short Int32.minValue⟩
  have minus : (Value.integer (-1)).Holds .short (-1) := ⟨_, rfl, .short (-1)⟩
  obtain ⟨_, _, _, _, _, divided, _⟩ := integer_arithmetic_exact least minus
  obtain ⟨q, r, quotient, _, rounded, _⟩ := divided (by decide)
  have wrapped : q = -2147483648 := rounded.trans (by decide)
  exact ⟨least, minus, wrapped ▸ quotient⟩

end BrightScript
