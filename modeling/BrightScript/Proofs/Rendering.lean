import Mathlib
import BrightScript.Proofs.Bases
import BrightScript.Proofs.Doubles
import BrightScript.Proofs.Rounding
set_option autoImplicit false

namespace BrightScript

section Zeros

variable (digits : List Char) (count : ℕ)

theorem positional_zeros_behind :
    positional 10 (digits ++ List.replicate count '0') = positional 10 digits * 10 ^ count := by
  induction count with
  | zero => simp
  | succ count ih =>
    have zero : digitValue '0' = 0 := by decide
    rw [List.replicate_succ', ← List.append_assoc, positional_snoc, ih, zero, Nat.add_zero,
      Nat.pow_succ, Nat.mul_assoc]

theorem positional_zeros_before :
    positional 10 (List.replicate count '0' ++ digits) = positional 10 digits := by
  induction digits using List.reverseRecOn with
  | nil =>
    have none : positional 10 [] = 0 := rfl
    have zeros := positional_zeros_behind [] count
    rwa [none, Nat.zero_mul, List.nil_append, ← List.append_nil (List.replicate count '0')] at zeros
  | append_singleton digits c ih => rw [← List.append_assoc, positional_snoc, ih, positional_snoc]

theorem trim_zeros_taken : ∃ count, trimZeros digits ++ List.replicate count '0' = digits := by
  refine ⟨(digits.rtakeWhile (· == '0')).length, ?_⟩
  have zeros : digits.rtakeWhile (· == '0') =
      List.replicate (digits.rtakeWhile (· == '0')).length '0' :=
    List.eq_replicate_of_mem fun c member => by simpa using List.mem_rtakeWhile_imp member
  rw [← zeros]
  exact List.rdropWhile_append_rtakeWhile

theorem trim_zeros_last : (trimZeros digits).getLast? ≠ some '0' := by
  intro last
  have some : trimZeros digits ≠ [] := fun none => by simp [none] at last
  apply List.rdropWhile_last_not (· == '0') digits some
  rw [List.getLast?_eq_some_getLast some] at last
  exact beq_iff_eq.2 (Option.some.inj last)

end Zeros

def keptFraction (fraction : List Char) : Option (List Char) :=
  if trimZeros fraction = [] then none else some (trimZeros fraction)

section Layout

variable {whole fraction : List Char}

theorem pointed_text (whole fraction : List Char) :
    pointed whole fraction = whole ++ (keptFraction fraction).elim [] ('.' :: ·) := by
  unfold pointed keptFraction
  split
  · rename_i none
    rw [if_pos none]
    exact (List.append_nil whole).symm
  · rename_i some
    rw [if_neg some]
    rfl

theorem kept_fraction_value (fraction : List Char) :
    (keptFraction fraction).getD [] = trimZeros fraction := by
  unfold keptFraction
  split
  · rename_i none
    exact none.symm
  · rfl

def laidOut (whole fraction : List Char) (power : Option PowerOfTen)
    (decimal : ∀ c ∈ whole ++ fraction, c ∈ decimalDigits) (nonempty : whole ≠ []) :
    DecimalNumeral where
  sign := .absent
  whole := whole
  fraction := keptFraction fraction
  power := power
  decimal c member := by
    obtain ⟨count, taken⟩ := trim_zeros_taken fraction
    rw [kept_fraction_value] at member
    apply decimal c
    rw [← taken]
    rcases List.mem_append.1 member with front | behind
    · exact List.mem_append_left _ front
    · exact List.mem_append_right _ (List.mem_append_left _ behind)
  nonempty := by simp [nonempty]

variable {power : Option PowerOfTen} {decimal : ∀ c ∈ whole ++ fraction, c ∈ decimalDigits}
  {nonempty : whole ≠ []}

theorem laid_out_text :
    (laidOut whole fraction power decimal nonempty).text = pointed whole fraction ++
      power.elim [] PowerOfTen.text := by
  rw [pointed_text, List.append_assoc]
  rfl

theorem laid_out_value : (laidOut whole fraction power decimal nonempty).value =
    positional 10 (whole ++ fraction) * 10 ^
      (power.elim 0 PowerOfTen.exponent - fraction.length) := by
  obtain ⟨count, taken⟩ := trim_zeros_taken fraction
  have kept := kept_fraction_value fraction
  have value : (laidOut whole fraction power decimal nonempty).value =
      positional 10 (whole ++ (keptFraction fraction).getD []) *
        10 ^ (power.elim 0 PowerOfTen.exponent - ((keptFraction fraction).getD []).length) := rfl
  have digits : positional 10 (whole ++ fraction) =
      positional 10 (whole ++ trimZeros fraction) * 10 ^ count := by
    rw [← positional_zeros_behind, List.append_assoc, taken]
  have length : fraction.length = (trimZeros fraction).length + count := by
    rw [← List.length_replicate (n := count) (a := '0'), ← List.length_append, taken]
  generalize power.elim 0 PowerOfTen.exponent = exponent at *
  rw [value, kept, digits, length]
  push_cast
  rw [mul_assoc, ← zpow_natCast, ← zpow_add₀ (by decide)]
  ring_nf

theorem laid_out_fraction : ∀ digits ∈ (laidOut whole fraction power decimal nonempty).fraction,
    digits ≠ [] ∧ digits.getLast? ≠ some '0' := by
  intro digits kept
  change keptFraction fraction = some digits at kept
  unfold keptFraction at kept
  split at kept
  · cases kept
  · rename_i more
    cases kept
    exact ⟨more, trim_zeros_last fraction⟩

end Layout

section Powers

structure PowerOfTen.Stands (p : PowerOfTen) (power : ℤ) : Prop where
  mark : p.mark = 'e'
  sign : p.sign = if power < 0 then .minus else .plus
  two : 2 ≤ p.digits.length
  short : 2 < p.digits.length → p.digits.head? ≠ some '0'
  exponent : p.exponent = power

theorem rendered_written (n : ℕ) : WrittenIn 10 n (Nat.toDigits 10 n) := by
  rw [decimal_digits_radix]
  exact radix_digits_written (by decide) (by decide) n

theorem power_digits (n : ℕ) :
    ∃ digits, (∀ c ∈ digits, c ∈ decimalDigits) ∧ positional 10 digits = n ∧
    2 ≤ digits.length ∧ (2 < digits.length → digits.head? ≠ some '0') ∧
      digits = if (Nat.toDigits 10 n).length < 2 then '0' ::
        Nat.toDigits 10 n else Nat.toDigits 10 n := by
  have decimal := rendered_decimal n
  have value := positional_rendered n
  have leading := (rendered_written n).leading
  have positive := Nat.length_toDigits_pos (b := 10) (n := n)
  generalize Nat.toDigits 10 n = digits at *
  by_cases short : digits.length < 2
  · have zero : ∀ c ∈ '0' :: digits, c ∈ decimalDigits := by
      intro c member
      rcases List.mem_cons.1 member with rfl | behind
      · decide
      · exact decimal c behind
    refine ⟨'0' :: digits, zero, ?_, ?_, ?_, (if_pos short).symm⟩
    · rw [← value]
      exact positional_zeros_before digits 1
    · exact Nat.succ_le_succ positive
    · intro long
      rw [List.length_cons] at long
      omega
  · refine ⟨digits, decimal, value, Nat.not_lt.1 short, fun long zero => ?_, (if_neg short).symm⟩
    rw [leading zero] at long
    contradiction

theorem power_text_stands (power : ℤ) : ∃ p :
    PowerOfTen, p.text = 'e' :: powerText power ∧ p.Stands power := by
  obtain ⟨digits, decimal, value, two, short, padded⟩ := power_digits power.natAbs
  have some : digits ≠ [] := List.length_pos_iff.1 (Nat.lt_of_lt_of_le two_pos two)
  refine ⟨⟨'e', if power < 0 then .minus else .plus, digits, .inl rfl, decimal, some⟩, ?_, rfl, rfl,
    two, short, ?_⟩
  · unfold PowerOfTen.text powerText
    dsimp only
    rw [← padded]
    split <;> rfl
  · unfold PowerOfTen.exponent
    dsimp only
    rw [value]
    by_cases negative : power < 0
    · rw [if_pos negative]
      change -(power.natAbs : ℤ) = power
      omega
    · rw [if_neg negative]
      change (power.natAbs : ℤ) = power
      omega

end Powers

-- A numeral of the general form for a number of significant digits: with a power of ten only for
-- numbers that are too small or too large, and without superfluous zeros.
structure DecimalNumeral.General (n : DecimalNumeral) (precision : ℕ) : Prop where
  sign : n.sign = if n.value < 0 then .minus else .absent
  whole : n.whole.head? = some '0' → n.whole = ['0']
  fraction : ∀ digits ∈ n.fraction, digits ≠ [] ∧ digits.getLast? ≠ some '0'
  form : n.power.isSome ↔ Int.log 10 |n.value| < -4 ∨ precision ≤ Int.log 10 |n.value|
  power : ∀ p ∈ n.power, p.Stands (Int.log 10 |n.value|)
  single : n.power.isSome → n.whole.length = 1

section Forms

variable {s : Significant} {precision : ℕ} {x : ℚ}

theorem Significant.Rounds.digits_length (rounds : s.Rounds precision x) :
    (Nat.toDigits 10 s.digits).length = precision := by
  have some := rounds.some
  apply Nat.le_antisymm
  · exact (Nat.length_toDigits_le_iff (by decide) some).2 rounds.most
  · by_contra fewer
    have positive := Nat.length_toDigits_pos (b := 10) (n := s.digits)
    have short : (Nat.toDigits 10 s.digits).length ≤ precision - 1 := by omega
    rw [Nat.length_toDigits_le_iff (by decide) (by omega)] at short
    exact Nat.not_lt.2 rounds.least short

theorem Significant.Rounds.positive (rounds : s.Rounds precision x) : 0 < s.value precision := by
  have digits : 0 < s.digits := Nat.lt_of_lt_of_le (Nat.pow_pos (by decide)) rounds.least
  exact mul_pos (by exact_mod_cast digits) (zpow_pos (by decide) _)

structure DecimalNumeral.Renders (n : DecimalNumeral) (s : Significant) (precision : ℕ) : Prop where
  sign : n.sign = .absent
  value : n.value = s.value precision
  general : n.General precision

theorem laid_out_renders (rounds : s.Rounds precision x) {digits : List Char} {count : ℕ}
    (power : Option PowerOfTen) (decimal : ∀ c ∈ digits, c ∈ decimalDigits)
    (number : positional 10 digits = s.digits) (more : 0 < count) (within : count ≤ digits.length)
    (leading : (digits.take count).head? = some '0' → digits.take count = ['0'])
    (place : power.elim 0 PowerOfTen.exponent - (digits.length - count : ℕ) =
      s.power - (precision - 1))
    (form : power.isSome ↔ s.power < -4 ∨ precision ≤ s.power)
    (stands : ∀ p ∈ power, p.Stands s.power) (single : power.isSome → count = 1) :
    ∃ n : DecimalNumeral,
      n.text = pointed (digits.take count) (digits.drop count) ++ power.elim [] PowerOfTen.text ∧
        n.Renders s precision := by
  have length : (digits.take count).length = count := List.length_take_of_le within
  have nonempty : digits.take count ≠ [] := List.length_pos_iff.1 (length.symm ▸ more)
  have parts : ∀ c ∈ digits.take count ++ digits.drop count, c ∈ decimalDigits := by
    rwa [List.take_append_drop]
  let n := laidOut (digits.take count) (digits.drop count) power parts nonempty
  have value : n.value = s.value precision := by
    rw [laid_out_value, List.take_append_drop, number, List.length_drop, place]
    rfl
  have size : Int.log 10 |n.value| = s.power := by
    rw [value, abs_of_pos rounds.positive, rounds.log]
  refine ⟨n, laid_out_text, rfl, value,
    ⟨?_, leading, laid_out_fraction, ?_, ?_, fun given => length.trans (single given)⟩⟩
  · rw [value, if_neg rounds.positive.not_gt]
    rfl
  · rw [size]
    exact form
  · rw [size]
    exact stands

theorem leading_taken {digits : List Char} {count : ℕ} (more : 0 < count)
    (leading : digits.head? = some '0' → digits = ['0'])
    (zero : (digits.take count).head? = some '0') : digits.take count = ['0'] := by
  rw [List.head?_take, if_neg more.ne'] at zero
  rw [leading zero]
  exact List.take_of_length_le more

theorem scientific_renders (rounds : s.Rounds precision x)
    (extreme : s.power < -4 ∨ s.power ≥ precision) :
    ∃ n : DecimalNumeral, n.text = s.scientific ∧ n.Renders s precision := by
  obtain ⟨p, text, stands⟩ := power_text_stands s.power
  have length := rounds.digits_length
  have some := rounds.some
  have place : p.exponent - ((Nat.toDigits 10 s.digits).length - 1 : ℕ) =
      s.power - (precision - 1) := by
    rw [stands.exponent, length, Nat.cast_sub some, Nat.cast_one]
  have renders := laid_out_renders rounds (Option.some p) (rendered_decimal s.digits)
      (positional_rendered s.digits)
    Nat.one_pos (length ▸ some) (leading_taken Nat.one_pos (rendered_written s.digits).leading)
      place
    (iff_of_true rfl extreme) (fun q given => Option.some.inj given ▸ stands) fun _ => rfl
  rwa [Option.elim_some, text] at renders

theorem padded_digits (n decimals : ℕ) :
    ∃ padded, (∀ c ∈ padded, c ∈ decimalDigits) ∧ positional 10 padded = n ∧
    decimals < padded.length ∧
      ((padded.take (padded.length - decimals)).head? = some '0' →
        padded.take (padded.length - decimals) = ['0']) ∧
        padded = List.replicate (decimals + 1 - (Nat.toDigits 10 n).length) '0' ++
          Nat.toDigits 10 n := by
  have decimal := rendered_decimal n
  have value := positional_rendered n
  have leading := (rendered_written n).leading
  have positive := Nat.length_toDigits_pos (b := 10) (n := n)
  generalize Nat.toDigits 10 n = digits at *
  refine ⟨_, ?_, positional_zeros_before digits _ |>.trans value, ?_, ?_, rfl⟩
  · intro c member
    rcases List.mem_append.1 member with zero | behind
    · rw [List.eq_of_mem_replicate zero]
      decide
    · exact decimal c behind
  · rw [List.length_append, List.length_replicate]
    omega
  · by_cases short : digits.length < decimals + 1
    · obtain ⟨missing, more⟩ := Nat.exists_eq_add_one.2 (Nat.sub_pos_of_lt short)
      have whole :
          (List.replicate (decimals + 1 - digits.length) '0' ++ digits).length - decimals = 1 := by
        rw [List.length_append, List.length_replicate]
        omega
      rw [whole, more]
      exact fun _ => rfl
    · have none : decimals + 1 - digits.length = 0 := by omega
      rw [none, List.replicate_zero, List.nil_append]
      exact leading_taken (by omega) leading

theorem decimal_renders {numerator denominator : ℕ} (positive : 0 < denominator)
    (rounds : s.Rounds precision (numerator / denominator))
    (moderate : ¬ (s.power < -4 ∨ s.power ≥ precision)) :
    ∃ n : DecimalNumeral, n.text =
      decimalText numerator denominator ((precision : ℤ) - 1 - s.power).toNat ∧
      n.Renders s precision := by
  have places : (((precision : ℤ) - 1 - s.power).toNat : ℤ) = precision - 1 - s.power := by omega
  have again : roundAt numerator denominator ((precision : ℤ) - 1 - s.power).toNat = s.digits := by
    have nearest := round_at_nearest numerator positive ((precision : ℤ) - 1 - s.power).toNat
    rw [places] at nearest ⊢
    exact_mod_cast nearest.unique rounds.nearest
  unfold decimalText
  rw [again]
  generalize ((precision : ℤ) - 1 - s.power).toNat = decimals at *
  obtain ⟨padded, decimal, number, long, leading, text⟩ := padded_digits s.digits decimals
  dsimp only
  rw [← text]
  have place : (0 : ℤ) - (padded.length - (padded.length - decimals) : ℕ) =
      s.power - (precision - 1) := by omega
  have renders := laid_out_renders rounds none decimal number (by omega)
      (Nat.sub_le _ _) leading place
    (iff_of_false nofun moderate) nofun nofun
  rwa [Option.elim_none, List.append_nil] at renders

theorem general_text_renders {numerator denominator : ℕ} (above : 0 < numerator)
    (positive : 0 < denominator) (some : 0 < precision) :
    ∃ n : DecimalNumeral, n.text = generalText numerator denominator precision ∧ n.sign = .absent ∧
      0 < n.value ∧
      RoundedTo precision (numerator / denominator) n.value ∧ n.General precision := by
  have rounds := significant_rounds above positive some
  have renders : ∃ n : DecimalNumeral, n.text = generalText numerator denominator precision ∧
      n.Renders (Significant.round numerator denominator precision) precision := by
    unfold generalText
    dsimp only
    split
    · rename_i extreme
      exact scientific_renders rounds extreme
    · rename_i moderate
      exact decimal_renders positive rounds moderate
  obtain ⟨n, text, unsigned, value, general⟩ := renders
  exact ⟨n, text, unsigned, value ▸ rounds.positive, value ▸ rounds.rounded, general⟩

end Forms

section Signs

variable {n : DecimalNumeral} {precision : ℕ}

def DecimalNumeral.negated (n : DecimalNumeral) : DecimalNumeral :=
  { n with sign := .minus }

theorem negated_text (unsigned : n.sign = .absent) : n.negated.text = '-' :: n.text := by
  unfold DecimalNumeral.text
  rw [unsigned]
  rfl

theorem negated_value (unsigned : n.sign = .absent) : n.negated.value = -n.value := by
  unfold DecimalNumeral.value
  rw [unsigned]
  rfl

theorem negated_general (unsigned : n.sign = .absent) (general : n.General precision)
    (positive : 0 < n.value) : n.negated.General precision := by
  have size : |n.negated.value| = |n.value| := by rw [negated_value unsigned, abs_neg]
  have negative : n.negated.value < 0 := by
    rw [negated_value unsigned]
    exact neg_neg_of_pos positive
  refine ⟨(if_pos negative).symm, general.whole, general.fraction, ?_, ?_, general.single⟩
  · rw [size]
    exact general.form
  · rw [size]
    exact general.power

end Signs

section Fractions

variable (d : Dyadic)

theorem ratio_value : (d.ratio.1 : ℚ) / d.ratio.2 = d.significand * 2 ^ d.exponent := by
  have scaled := scaled_quotient 2 d.significand 1 d.exponent
  rwa [Nat.one_mul, Nat.cast_one, div_one, Nat.cast_ofNat] at scaled

theorem ratio_positive (some : d.significand ≠ 0) : 0 < d.ratio.1 ∧ 0 < d.ratio.2 :=
  ⟨Nat.mul_pos (Nat.pos_of_ne_zero some) (Nat.pow_pos two_pos), Nat.pow_pos two_pos⟩

end Fractions

/-- A finite double has an exact value, and unless that is zero the double is rendered as the
numeral of the value rounded, half to even, to the number of significant digits. The numeral has a
power of ten exactly when the power of the rounded number is below minus four or not below the
number of digits, it has a sign and two digits at least there, and no zero ends the fraction. -/
theorem rendered_to_significant_digits (x : Float) (precision : ℕ) (finite : x.isFinite = true)
    (some : 1 ≤ precision) : ∃ v, exactValue? x = Option.some v ∧ (v ≠ 0 →
      ∃ n : DecimalNumeral, formatFloat x precision = String.ofList n.text ∧
        RoundedTo precision v n.value ∧
        n.General precision) := by
  rw [← exact_value_finite] at finite
  obtain ⟨v, exact⟩ := Option.isSome_iff_exists.1 finite
  refine ⟨v, exact, fun nonzero => ?_⟩
  obtain ⟨number, bounded⟩ := exact_value_number exact
  have value := of_float_value exact
  have significand : (Dyadic.ofFloat x).significand ≠ 0 := by
    intro none
    rw [Dyadic.value, none, Nat.cast_zero, zero_mul, mul_zero] at value
    exact nonzero value.symm
  obtain ⟨above, below⟩ := ratio_positive _ significand
  obtain ⟨n, text, unsigned, positive, rounded, general⟩ := general_text_renders above below some
  unfold formatFloat
  rw [number, bounded]
  dsimp only
  rw [if_neg Bool.false_ne_true, if_neg Bool.false_ne_true, if_neg significand,
    Nat.max_eq_left some, ← text]
  rw [ratio_value] at rounded
  unfold Dyadic.value at value
  by_cases negative : (Dyadic.ofFloat x).negative = true
  · rw [if_pos negative] at value ⊢
    rw [neg_one_mul] at value
    refine ⟨n.negated, congrArg String.ofList (negated_text unsigned).symm, ?_,
      negated_general unsigned general positive⟩
    rw [negated_value unsigned, ← value]
    exact rounded.neg
  · rw [if_neg negative] at value ⊢
    rw [one_mul] at value
    exact ⟨n, rfl, value ▸ rounded, general⟩

theorem nearly_ten_million :
    let x := Float.ofBits 0xC16312CFFCCCCCCD
    let v : ℚ := -5368709066312909 / 2 ^ 29
    x.isFinite = true ∧ exactValue? x = some v ∧ v ≠ 0 ∧ formatFloat x 7 = "-1e+07" ∧
      ∃ n : DecimalNumeral, formatFloat x 7 = String.ofList n.text ∧ RoundedTo 7 v n.value ∧
        n.General 7 := by
  have unpacked : (Float.ofBits 0xC16312CFFCCCCCCD).toModel.unpack =
      .finite .negative 5368709066312909 (-29) (by decide) := by rfl
  have finite : (Float.ofBits 0xC16312CFFCCCCCCD).isFinite = true := by decide +kernel
  intro x v
  have exact : exactValue? x = some v := by
    rw [exactValue?, unpacked, unpackedValue?]
    norm_num [Float.Model.UnpackedFloat.Sign.apply, v]
  have nonzero : v ≠ 0 := by norm_num [v]
  obtain ⟨w, same, rendered⟩ := rendered_to_significant_digits x 7 finite (by decide)
  cases Option.some.inj (same.symm.trans exact)
  exact ⟨finite, exact, nonzero, by decide +kernel, rendered nonzero⟩

end BrightScript
