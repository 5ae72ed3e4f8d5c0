import Mathlib.Algebra.Order.Field.Rat
import Mathlib.Data.List.TakeWhile
import BrightScript.Builtin
import BrightScript.Proofs.Numerals
set_option autoImplicit false

namespace BrightScript

inductive SignMark where
  | absent
  | plus
  | minus
deriving DecidableEq, Repr

namespace SignMark

def text : SignMark → List Char
  | absent => []
  | plus => ['+']
  | minus => ['-']

def isMinus (s : SignMark) : Bool :=
  s == minus

def apply {α : Type} [Neg α] (s : SignMark) (a : α) : α :=
  if s.isMinus then -a else a

end SignMark

structure PowerOfTen where
  mark : Char
  sign : SignMark
  digits : List Char
  marked : mark = 'e' ∨ mark = 'E'
  decimal : ∀ c ∈ digits, c ∈ decimalDigits
  nonempty : digits ≠ []

namespace PowerOfTen

def text (p : PowerOfTen) : List Char :=
  p.mark :: (p.sign.text ++ p.digits)

def exponent (p : PowerOfTen) : Int :=
  p.sign.apply (positional 10 p.digits : Int)

end PowerOfTen

structure DecimalNumeral where
  sign : SignMark
  whole : List Char
  fraction : Option (List Char)
  power : Option PowerOfTen
  decimal : ∀ c ∈ whole ++ fraction.getD [], c ∈ decimalDigits
  nonempty : whole ++ fraction.getD [] ≠ []

namespace DecimalNumeral

def digits (n : DecimalNumeral) : List Char :=
  n.whole ++ n.fraction.getD []

def exponent (n : DecimalNumeral) : Int :=
  n.power.elim 0 PowerOfTen.exponent - (n.fraction.getD []).length

def behindWhole (n : DecimalNumeral) : List Char :=
  n.fraction.elim [] ('.' :: ·) ++ n.power.elim [] PowerOfTen.text

def text (n : DecimalNumeral) : List Char :=
  n.sign.text ++ (n.whole ++ n.behindWhole)

def magnitude (n : DecimalNumeral) : Decimal :=
  ⟨positional 10 n.digits, n.exponent⟩

def value (n : DecimalNumeral) : ℚ :=
  n.sign.apply (positional 10 n.digits * 10 ^ n.exponent)

def toFloat (n : DecimalNumeral) : Float :=
  n.sign.apply n.magnitude.toFloat

end DecimalNumeral

section Splits

theorem split_sign_text (s : SignMark) {rest : List Char}
    (unsigned : rest.head? ≠ some '+' ∧ rest.head? ≠ some '-') :
    splitSign (s.text ++ rest) = (s.isMinus, rest) := by
  cases s with
  | plus | minus => rfl
  | absent =>
    cases rest with
    | nil => rfl
    | cons c rest =>
      simp only [List.head?_cons, ne_eq, Option.some.injEq] at unsigned
      unfold splitSign SignMark.text
      split
      · rename_i first
        exact absurd (List.cons.inj first).1 unsigned.1
      · rename_i first
        exact absurd (List.cons.inj first).1 unsigned.2
      · rfl

theorem split_sign_cases (text : List Char) :
    ∃ s : SignMark, s.text ++ (splitSign text).2 = text ∧ s.isMinus = (splitSign text).1 := by
  unfold splitSign
  split
  · exact ⟨.plus, rfl, rfl⟩
  · exact ⟨.minus, rfl, rfl⟩
  · exact ⟨.absent, rfl, rfl⟩

theorem split_digits_text {digits rest : List Char} (decimal : ∀ c ∈ digits, c ∈ decimalDigits)
    (ends : rest.head?.all (fun c => !c.isDigit) = true) :
    splitDigits (digits ++ rest) = (digits, rest) := by
  obtain ⟨taken, left⟩ :=
    Lexer.take_while_all (fun c member => (is_digit_iff c).2 (decimal c member)) ends
  rw [splitDigits, taken, left]

theorem split_digits_cases (text : List Char) :
    (splitDigits text).1 ++ (splitDigits text).2 = text ∧
      ∀ c ∈ (splitDigits text).1, c ∈ decimalDigits :=
  ⟨List.takeWhile_append_dropWhile,
    fun c member => (is_digit_iff c).1 (List.mem_takeWhile_imp member)⟩

end Splits

namespace DecimalNumeral

variable (n : DecimalNumeral)

theorem fraction_decimal : ∀ c ∈ n.fraction.getD [], c ∈ decimalDigits :=
  fun c member => n.decimal c (List.mem_append_right _ member)

theorem whole_decimal : ∀ c ∈ n.whole, c ∈ decimalDigits :=
  fun c member => n.decimal c (List.mem_append_left _ member)

theorem power_no_digit (p : Option PowerOfTen) :
    (p.elim [] PowerOfTen.text).head?.all (fun c => !c.isDigit) = true := by
  cases p with
  | none => rfl
  | some p => rcases p.marked with mark | mark <;> simp [PowerOfTen.text, mark]

theorem behind_whole_no_digit : n.behindWhole.head?.all (fun c => !c.isDigit) = true := by
  unfold behindWhole
  cases n.fraction with
  | none => exact power_no_digit n.power
  | some fraction => rfl

theorem unsigned_first : (n.whole ++ n.behindWhole).head? ≠ some '+' ∧
    (n.whole ++ n.behindWhole).head? ≠ some '-' := by
  have apart : ∀ c ∈ '.' :: decimalDigits, c ≠ '+' ∧ c ≠ '-' := all_checked (by decide)
  have first : ∃ c ∈ '.' :: decimalDigits, (n.whole ++ n.behindWhole).head? = some c := by
    cases whole : n.whole with
    | cons c rest => exact ⟨c, List.mem_cons_of_mem _ (n.whole_decimal c (by simp [whole])), rfl⟩
    | nil =>
      unfold behindWhole
      cases fraction : n.fraction with
      | some fraction => exact ⟨'.', List.mem_cons_self, rfl⟩
      | none => exact absurd (by simp [whole, fraction]) n.nonempty
  obtain ⟨c, member, first⟩ := first
  rw [first]
  exact ⟨fun same => (apart c member).1 (Option.some.inj same),
    fun same => (apart c member).2 (Option.some.inj same)⟩

theorem read_power_text (p : Option PowerOfTen) :
    readPower? (p.elim [] PowerOfTen.text) = some (p.elim 0 PowerOfTen.exponent) := by
  cases p with
  | none => rfl
  | some p =>
    obtain ⟨c, rest, digits⟩ := List.exists_cons_of_ne_nil p.nonempty
    have apart : ∀ c ∈ decimalDigits, c ≠ '+' ∧ c ≠ '-' := all_checked (by decide)
    have first := apart c (p.decimal c (by simp [digits]))
    have signed : splitSign (p.sign.text ++ p.digits) = (p.sign.isMinus, p.digits) :=
      split_sign_text p.sign (by simp [digits, first])
    have all : p.digits.all Char.isDigit = true :=
      List.all_eq_true.2 fun c member => (is_digit_iff c).2 (p.decimal c member)
    have some : p.digits.isEmpty = false := List.isEmpty_eq_false_iff.2 p.nonempty
    have marked : (p.mark == 'e' || p.mark == 'E') = true := by simpa using p.marked
    simp only [Option.elim_some, PowerOfTen.text, readPower?, marked, signed, some, all, if_true,
      Bool.not_false, Bool.and_self]
    rw [signedPower, decimal_value_positional p.decimal]
    rfl

theorem split_fraction_text :
    splitFraction n.behindWhole = (n.fraction.getD [], n.power.elim [] PowerOfTen.text) := by
  have decimal := n.fraction_decimal
  unfold behindWhole
  cases fraction : n.fraction with
  | some digits =>
    rw [fraction] at decimal
    exact split_digits_text decimal (power_no_digit n.power)
  | none =>
    cases n.power with
    | none => rfl
    | some p => rcases p.marked with mark | mark <;> simp [splitFraction, PowerOfTen.text, mark]

theorem read_decimal_text : readDecimal? n.text = some (n.sign.isMinus, n.magnitude) := by
  have some : (n.whole.isEmpty && (n.fraction.getD []).isEmpty) = false := by
    rw [Bool.and_eq_false_iff, List.isEmpty_eq_false_iff, List.isEmpty_eq_false_iff]
    by_contra none
    exact n.nonempty (by simp_all)
  unfold readDecimal? text
  rw [split_sign_text n.sign n.unsigned_first]
  dsimp only
  rw [split_digits_text n.whole_decimal n.behind_whole_no_digit]
  dsimp only
  rw [n.split_fraction_text]
  dsimp only
  rw [some, if_neg Bool.false_ne_true, read_power_text, Option.map_some, Decimal.ofDigits,
    decimal_value_positional n.decimal]
  rfl

theorem read_power_some {text : List Char} {power : Int} (read : readPower? text = some power) :
    ∃ p : Option PowerOfTen, p.elim [] PowerOfTen.text = text ∧
      p.elim 0 PowerOfTen.exponent = power := by
  unfold readPower? at read
  split at read
  · exact ⟨none, rfl, Option.some.inj read⟩
  · rename_i mark tail
    split at read
    · rename_i marked
      obtain ⟨s, signed, minus⟩ := split_sign_cases tail
      dsimp only at read
      split at read
      · rename_i digits
        rw [Bool.and_eq_true, Bool.not_eq_true', List.isEmpty_eq_false_iff,
          List.all_eq_true] at digits
        have decimal : ∀ c ∈ (splitSign tail).2, c ∈ decimalDigits := fun c member =>
          (is_digit_iff c).1 (digits.2 c member)
        refine ⟨some ⟨mark, s, (splitSign tail).2, by simpa using marked, decimal, digits.1⟩, ?_,
          ?_⟩
        · simp [PowerOfTen.text, signed]
        · rw [← Option.some.inj read, signedPower, decimal_value_positional decimal, ← minus]
          rfl
      · cases read
    · cases read

theorem split_fraction_cases (text : List Char) :
    ∃ fraction : Option (List Char), fraction.getD [] = (splitFraction text).1 ∧
      (∀ c ∈ fraction.getD [], c ∈ decimalDigits) ∧
        fraction.elim [] ('.' :: ·) ++ (splitFraction text).2 = text := by
  unfold splitFraction
  split
  · rename_i tail
    obtain ⟨whole, decimal⟩ := split_digits_cases tail
    exact ⟨some (splitDigits tail).1, rfl, decimal, by simp [whole]⟩
  · exact ⟨none, rfl, nofun, rfl⟩

theorem read_decimal_some {text : List Char} {negative : Bool} {magnitude : Decimal}
    (read : readDecimal? text = some (negative, magnitude)) :
    ∃ n : DecimalNumeral, n.text = text ∧ n.sign.isMinus = negative ∧ n.magnitude = magnitude := by
  obtain ⟨sign, signed, minus⟩ := split_sign_cases text
  obtain ⟨wholly, wholeDecimal⟩ := split_digits_cases (splitSign text).2
  obtain ⟨fraction, digits, fractionDecimal, pointed⟩ :=
    split_fraction_cases (splitDigits (splitSign text).2).2
  unfold readDecimal? at read
  dsimp only at read
  rw [← digits] at read
  split at read
  · cases read
  · rename_i some
    obtain ⟨power, powered, made⟩ := Option.map_eq_some_iff.1 read
    cases made
    obtain ⟨p, written, exponent⟩ := read_power_some powered
    have decimal : ∀ c ∈ (splitDigits (splitSign text).2).1 ++ fraction.getD [],
        c ∈ decimalDigits :=
      fun c member => (List.mem_append.1 member).elim (wholeDecimal c) (fractionDecimal c)
    refine ⟨⟨sign, (splitDigits (splitSign text).2).1, fraction, p, decimal, by simpa using some⟩,
      ?_, minus, ?_⟩
    · simp only [DecimalNumeral.text, behindWhole]
      rw [written, pointed, wholly, signed]
    · rw [Decimal.ofDigits, decimal_value_positional decimal, ← exponent]
      rfl

end DecimalNumeral

theorem read_decimal_iff {text : List Char} {negative : Bool} {magnitude : Decimal} :
    readDecimal? text = some (negative, magnitude) ↔
      ∃ n : DecimalNumeral, n.text = text ∧ n.sign.isMinus = negative ∧
        n.magnitude = magnitude := by
  constructor
  · exact DecimalNumeral.read_decimal_some
  · rintro ⟨n, rfl, rfl, rfl⟩
    exact n.read_decimal_text

end BrightScript
