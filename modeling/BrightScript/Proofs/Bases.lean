import Mathlib.Data.Nat.Digits.Lemmas
import BrightScript.Proofs.Prefixes
import BrightScript.Proofs.Trimming
set_option autoImplicit false

namespace BrightScript

def baseDigits : List Char :=
  "0123456789abcdefghijklmnopqrstuvwxyz".toList

def baseValue (c : Char) : ℕ :=
  baseDigits.idxOf c

def numberIn (base : ℕ) (numeral : List Char) : ℕ :=
  Nat.ofDigits base (numeral.reverse.map baseValue)

theorem number_in_snoc (base : ℕ) (numeral : List Char) (c : Char) :
    numberIn base (numeral ++ [c]) = numberIn base numeral * base + baseValue c := by
  simp only [numberIn, List.reverse_append, List.reverse_singleton, List.singleton_append,
    List.map_cons, Nat.ofDigits_cons]
  rw [Nat.mul_comm, Nat.add_comm]

-- The canonical numeral of a number: digits of the base, and no zero in front unless it is all
-- there is.
structure WrittenIn (base n : ℕ) (numeral : List Char) : Prop where
  digits : ∀ c ∈ numeral, c ∈ baseDigits ∧ baseValue c < base
  value : numberIn base numeral = n
  nonempty : numeral ≠ []
  leading : numeral.head? = some '0' → numeral = ['0']

section Canonical

variable {base n : ℕ} {numeral other : List Char}

theorem digit_of_value : ∀ c ∈ baseDigits, radixDigit (baseValue c) = c :=
  all_checked (by decide)

theorem WrittenIn.digits_of_values (written : WrittenIn base n numeral) :
    (numeral.reverse.map baseValue).map radixDigit = numeral.reverse := by
  rw [List.map_map]
  refine (List.map_congr_left fun c member => ?_).trans (List.map_id _)
  exact digit_of_value c (written.digits c (List.mem_reverse.1 member)).1

theorem WrittenIn.values (written : WrittenIn base n numeral) (two : 1 < base)
    (more : numeral ≠ ['0']) : numeral.reverse.map baseValue = Nat.digits base n := by
  rw [← written.value]
  refine (Nat.digits_ofDigits base two _ ?_ ?_).symm
  · intro value member
    obtain ⟨c, among, rfl⟩ := List.mem_map.1 member
    exact (written.digits c (List.mem_reverse.1 among)).2
  · intro some zero
    obtain ⟨c, rest, rfl⟩ := List.exists_cons_of_ne_nil written.nonempty
    have none : baseValue c = 0 := by simpa using zero
    have digit := digit_of_value c (written.digits c List.mem_cons_self).1
    rw [none] at digit
    exact more (written.leading (congrArg _ digit.symm))

theorem WrittenIn.zero (written : WrittenIn base 0 numeral) (two : 1 < base) : numeral = ['0'] := by
  by_contra more
  have values := written.values two more
  rw [Nat.digits_zero, List.map_eq_nil_iff, List.reverse_eq_nil_iff] at values
  exact written.nonempty values

theorem WrittenIn.unique (written : WrittenIn base n numeral) (again : WrittenIn base n other)
    (two : 1 < base) : numeral = other := by
  by_cases zero : n = 0
  · subst zero
    rw [written.zero two, again.zero two]
  · have more {text : List Char} (written : WrittenIn base n text) : text ≠ ['0'] := by
      rintro rfl
      exact zero (written.value.symm.trans rfl)
    have same := (written.values two (more written)).trans (again.values two (more again)).symm
    have digits := congrArg (List.map radixDigit) same
    rwa [written.digits_of_values, again.digits_of_values, List.reverse_inj] at digits

theorem digit_written : ∀ d < 36, radixDigit d ∈ baseDigits ∧ baseValue (radixDigit d) = d := by
  decide

theorem written_single {d : ℕ} (small : base ≤ 36) (digit : d < base) :
    WrittenIn base d [radixDigit d] := by
  obtain ⟨member, value⟩ := digit_written d (Nat.lt_of_lt_of_le digit small)
  refine ⟨fun c single => ?_, by simp [numberIn, value], by simp,
    fun zero => congrArg (fun c => [c]) (Option.some.inj zero)⟩
  rw [List.mem_singleton.1 single, value]
  exact ⟨member, digit⟩

theorem WrittenIn.snoc (written : WrittenIn base n numeral) (small : base ≤ 36)
    (positive : n ≠ 0) {d : ℕ} (digit : d < base) :
    WrittenIn base (n * base + d) (numeral ++ [radixDigit d]) := by
  have last := written_single small digit
  refine ⟨fun c member => ?_, ?_, by simp, fun zero => ?_⟩
  · rcases List.mem_append.1 member with before | single
    · exact written.digits c before
    · exact last.digits c single
  · rw [number_in_snoc, written.value, (digit_written d (Nat.lt_of_lt_of_le digit small)).2]
  · rw [List.head?_append_of_ne_nil _ written.nonempty] at zero
    have none := written.value
    rw [written.leading zero] at none
    exact absurd none.symm positive

end Canonical

section Writing

variable {base : ℕ}

theorem radix_digits_step (two : 1 < base) (n : ℕ) :
    radixDigits base n = if n < base then [radixDigit n] else radixDigit (n % base) ::
      radixDigits base (n / base) := by
  rw [radixDigits]
  by_cases small : n < base
  · rw [if_pos small, if_neg (by simp [Nat.div_eq_of_lt small]), Nat.mod_eq_of_lt small]
  · have large := Nat.not_lt.1 small
    have fewer : n / base < n := Nat.div_lt_self (by omega) two
    have some : n / base ≠ 0 := Nat.pos_iff_ne_zero.1 (Nat.div_pos large (by omega))
    rw [if_neg small, if_pos ⟨fewer, some⟩]

theorem radix_digits_written (two : 1 < base) (small : base ≤ 36) (n : ℕ) :
    WrittenIn base n (radixDigits base n).reverse := by
  induction n using Nat.strong_induction_on with
  | h n ih =>
    rw [radix_digits_step two]
    split
    · rename_i digit
      exact written_single small digit
    · rename_i large
      have some : n / base ≠ 0 :=
        Nat.pos_iff_ne_zero.1 (Nat.div_pos (Nat.not_lt.1 large) (by omega))
      have written := (ih (n / base) (Nat.div_lt_self (by omega) two)).snoc small some
          (Nat.mod_lt n (by omega))
      rwa [Nat.div_add_mod', ← List.reverse_cons] at written

theorem decimal_digits_radix (n : ℕ) : Nat.toDigits 10 n = (radixDigits 10 n).reverse := by
  have digits : ∀ d < 10, Nat.digitChar d = radixDigit d := by decide
  induction n using Nat.strong_induction_on with
  | h n ih =>
    rw [radix_digits_step (by decide), Nat.toDigits_eq_if (by decide)]
    split
    · rename_i digit
      rw [digits n digit]
      rfl
    · rename_i large
      rw [ih (n / 10) (Nat.div_lt_self (by omega) (by decide)), digits _ (Nat.mod_lt n (by decide)),
        List.reverse_cons]

theorem to_radix_eq (value : ℤ) (base : ℕ) :
    toRadix value base =
      if value < 0 then '-' :: (radixDigits base value.natAbs).reverse
        else (radixDigits base value.natAbs).reverse := by
  unfold toRadix
  by_cases ten : base = 10
  · subst ten
    rw [if_pos rfl]
    split
    · rename_i negative
      have magnitude : (-value).toNat = value.natAbs := by omega
      rw [rendered_negative negative, decimal_digits_radix, magnitude]
    · rename_i nonnegative
      have magnitude : value.toNat = value.natAbs := by omega
      rw [rendered_nonnegative (Int.not_lt.1 nonnegative), decimal_digits_radix, magnitude]
  · rw [if_neg ten]

end Writing

section Reading

variable {base n : ℕ} {numeral : List Char}

theorem radix_digit_value (c : Char) (digit : c ∈ baseDigits) (below : baseValue c < base) :
    radixDigitValue? base c = some (baseValue c) := by
  have values : ∀ c ∈ baseDigits, (if c.isDigit then some (c.toNat - '0'.toNat)
      else if c.isAlpha then some (c.toLower.toNat - 'a'.toNat + 10) else none) =
        some (baseValue c) :=
    all_checked (by decide)
  rw [radixDigitValue?, values c digit, Option.filter_some, if_pos (decide_eq_true below)]

theorem radix_value_digits (digits : ∀ c ∈ numeral, c ∈ baseDigits ∧ baseValue c < base) :
    radixValue? base numeral = some (numberIn base numeral) := by
  induction numeral using List.reverseRecOn with
  | nil => rfl
  | append_singleton front c ih =>
    obtain ⟨digit, below⟩ := digits c (by simp)
    have before := ih fun d member => digits d (List.mem_append_left _ member)
    unfold radixValue? at before ⊢
    rw [List.foldlM_append, before, number_in_snoc]
    simp only [List.foldlM_cons, List.foldlM_nil, Option.bind_eq_bind, Option.bind_some,
      radix_digit_value c digit below, Option.map_some, Option.pure_def]

theorem of_radix_written (written : WrittenIn base n numeral) (s : SignMark)
    (room : Int64.minValue.toInt ≤ s.apply (n : ℤ) ∧ s.apply (n : ℤ) ≤ Int64.maxValue.toInt) :
    ofRadix? base (s.text ++ numeral) = some (s.apply (n : ℤ)) := by
  have unsigned : numeral.head? ≠ some '+' ∧ numeral.head? ≠ some '-' := by
    have apart : ∀ c ∈ baseDigits, c ≠ '+' ∧ c ≠ '-' := all_checked (by decide)
    obtain ⟨c, rest, rfl⟩ := List.exists_cons_of_ne_nil written.nonempty
    simpa using apart c (written.digits c List.mem_cons_self).1
  have value : (if s.isMinus then -(n : ℤ) else n) = s.apply (n : ℤ) := rfl
  unfold ofRadix?
  rw [split_sign_text s unsigned]
  dsimp only
  rw [List.isEmpty_eq_false_iff.2 written.nonempty, if_neg Bool.false_ne_true,
    radix_value_digits written.digits, written.value]
  simp only [Option.bind_eq_bind, Option.bind_some, value, if_pos room]

end Reading

section Calls

def builtinCallable (name : String) : Callable :=
  (Builtin.callables.find? fun callable => sameName callable.displayName name).getD default

-- Whatever else there is, a call with these arguments goes to a native overload that gives the
-- value for them and changes nothing.
def Callable.Gives (callable : Callable) (arguments : List Value) (value : Value) : Prop :=
  ∀ around heap, ∃ choice native, callable.resolve heap.boxes arguments = .ok choice ∧
    choice.code = .native native ∧
    native.run around choice.arguments heap = .ok value heap

theorem str_i_gives (n : Int32) {base : Int32} (least : 2 ≤ base) (most : base ≤ 36) :
    (builtinCallable "StrI").Gives [.integer n, .integer base]
      (.string (String.ofList (toRadix n.toInt base.toInt.toNat))) := by
  intro around heap
  refine ⟨⟨0, .native (.builtin .strI), [.integer n, .integer base]⟩, .builtin .strI, rfl, rfl, ?_⟩
  have text : Builtin.strIOf heap (.integer n) (some (.integer base)) =
      String.ofList (toRadix n.toInt base.toInt.toNat) := if_pos ⟨least, most⟩
  rw [← text]
  rfl

theorem val_gives (text : String) (base : Int32) :
    (builtinCallable "Val").Gives [.string text, .integer base]
      (.integer (Builtin.valRadixOf text base)) :=
  fun _ _ => ⟨⟨1, .native (.builtin .valRadix), [.string text, .integer base]⟩, .builtin .valRadix,
    rfl, rfl, rfl⟩

theorem base_bounds {base : Int32} (least : 2 ≤ base) (most : base ≤ 36) :
    1 < base.toInt.toNat ∧ base.toInt.toNat ≤ 36 ∧ ¬ base < 0 := by
  have low : 2 ≤ base.toInt := Int32.le_iff_toInt_le.1 least
  have high : base.toInt ≤ 36 := Int32.le_iff_toInt_le.1 most
  have nonnegative : ¬ base.toInt < 0 := by omega
  exact ⟨by omega, by omega, fun negative => nonnegative (Int32.lt_iff_toInt_lt.1 negative)⟩

theorem val_radix_written {n base : Int32} (least : 2 ≤ base) (most : base ≤ 36)
    {numeral : List Char} (written : WrittenIn base.toInt.toNat n.toInt.natAbs numeral) :
    Builtin.valRadixOf (String.ofList (if n.toInt < 0 then '-' :: numeral else numeral)) base
      = n := by
  obtain ⟨two, small, nonnegative⟩ := base_bounds least most
  obtain ⟨s, text, value⟩ : ∃ s : SignMark,
      (if n.toInt < 0 then '-' :: numeral else numeral) = s.text ++ numeral ∧
      s.apply (n.toInt.natAbs : ℤ) = n.toInt := by
    by_cases negative : n.toInt < 0
    · refine ⟨.minus, if_pos negative, ?_⟩
      change -(n.toInt.natAbs : ℤ) = n.toInt
      omega
    · refine ⟨.absent, if_neg negative, ?_⟩
      change (n.toInt.natAbs : ℤ) = n.toInt
      omega
  have shown : ∀ c ∈ s.text ++ numeral, isBlank c = false := by
    have signs : ∀ c ∈ "+-".toList, isBlank c = false := all_checked (by decide)
    have digits : ∀ c ∈ baseDigits, isBlank c = false := all_checked (by decide)
    intro c member
    rcases List.mem_append.1 member with sign | digit
    · exact signs c (sign_chars s c sign)
    · exact digits c (written.digits c digit).1
  have room : Int64.minValue.toInt ≤ n.toInt ∧ n.toInt ≤ Int64.maxValue.toInt := by
    have low := n.le_toInt
    have high := n.toInt_lt
    have ends : Int64.minValue.toInt = -2 ^ 63 ∧ Int64.maxValue.toInt = 2 ^ 63 - 1 := by decide
    omega
  have trimmed : trimChars (s.text ++ numeral) = s.text ++ numeral :=
    trim_shown (fun c first => shown c (List.mem_of_mem_head? first))
      fun c last => shown c (List.mem_of_mem_getLast? last)
  have read := of_radix_written written s (value.symm ▸ room)
  unfold Builtin.valRadixOf
  rw [text, if_neg nonnegative, String.toList_ofList, trimmed, if_pos ⟨two, small⟩, read,
    Option.getD_some, value, Int32.ofInt_toInt]

end Calls

/-- In every base from two to thirty-six, `StrI` gives the canonical numeral of an integer, in small
letters and with a minus in front exactly when the integer is negative, and `Val` gives the integer
back for it. -/
theorem base_numerals_read_back (n base : Int32) (least : 2 ≤ base) (most : base ≤ 36) :
    ∃ numeral, WrittenIn base.toInt.toNat n.toInt.natAbs numeral ∧
      let text := String.ofList (if n.toInt < 0 then '-' :: numeral else numeral)
      (builtinCallable "StrI").Gives [.integer n, .integer base] (.string text) ∧
        (builtinCallable "Val").Gives [.string text, .integer base] (.integer n) := by
  obtain ⟨two, small, -⟩ := base_bounds least most
  have written := radix_digits_written two small n.toInt.natAbs
  refine ⟨_, written, ?_⟩
  intro text
  have back : Builtin.valRadixOf text base = n := val_radix_written least most written
  constructor
  · have given := str_i_gives n least most
    rwa [to_radix_eq] at given
  · have given := val_gives text base
    rwa [back] at given

theorem least_integer_and_zero_read_back :
    2 ≤ (36 : Int32) ∧ (2 : Int32) ≤ 36 ∧
      (builtinCallable "StrI").Gives [.integer Int32.minValue, .integer 36] (.string "-zik0zk") ∧
      (builtinCallable "Val").Gives [.string "-zik0zk", .integer 36] (.integer Int32.minValue) ∧
      (builtinCallable "StrI").Gives [.integer 0, .integer 2] (.string "0") ∧
      (builtinCallable "Val").Gives [.string "0", .integer 2] (.integer 0) := by
  obtain ⟨letters, written, given, back⟩ :=
    base_numerals_read_back Int32.minValue 36 (by decide) (by decide)
  obtain ⟨none, zero, given', back'⟩ := base_numerals_read_back 0 2 (by decide) (by decide)
  have same : WrittenIn 36 2147483648 "zik0zk".toList :=
    ⟨all_checked (by decide), by decide, by decide, by decide⟩
  cases written.unique same (by decide)
  cases zero.zero (by decide)
  exact ⟨by decide, by decide, given, back, given', back'⟩

end BrightScript
