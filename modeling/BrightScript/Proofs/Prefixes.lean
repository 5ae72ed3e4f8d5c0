import Mathlib
import BrightScript.Proofs.Decimals
import BrightScript.Proofs.NearestDouble
set_option autoImplicit false

namespace BrightScript

open Builtin

section Prefixes

variable {α : Type}

theorem prefix_append_cases {p a b : List α} (front : p <+: a ++ b) :
    p <+: a ∨ ∃ q ≠ [], p = a ++ q ∧ q <+: b := by
  rcases List.prefix_or_prefix_of_prefix front (List.prefix_append a b) with within | ⟨q, rfl⟩
  · exact .inl within
  · by_cases none : q = []
    · exact .inl (by simp [none])
    · exact .inr ⟨q, none, rfl, (List.prefix_append_right_inj a).1 front⟩

theorem last_append {a q : List α} (some : q ≠ []) : (a ++ q).getLast? = q.getLast? := by
  rw [List.getLast?_append, List.getLast?_eq_some_getLast some]
  rfl

end Prefixes

def numeralChars : List Char :=
  "+-.eE".toList ++ decimalDigits

theorem sign_chars (s : SignMark) : ∀ c ∈ s.text, c ∈ "+-".toList := by
  cases s <;> simp [SignMark.text]

def EndsWithDigit (text : List Char) : Prop :=
  ∃ c ∈ text.getLast?, c ∈ decimalDigits

theorem EndsWithDigit.split {p a b : List Char} (ends : EndsWithDigit p) (front : p <+: a ++ b) :
    p <+: a ∨ ∃ q, p = a ++ q ∧ q ≠ [] ∧ q <+: b ∧ EndsWithDigit q := by
  rcases prefix_append_cases front with within | ⟨q, some, rfl, behind⟩
  · exact .inl within
  · refine .inr ⟨q, rfl, some, behind, ?_⟩
    rwa [EndsWithDigit, last_append some] at ends

theorem EndsWithDigit.digit_in {p text : List Char} (ends : EndsWithDigit p) (front : p <+: text) :
    ∃ c ∈ text, c ∈ decimalDigits := by
  obtain ⟨c, last, digit⟩ := ends
  exact ⟨c, front.subset (List.mem_of_getLast? last), digit⟩

theorem EndsWithDigit.not_sign {p : List Char} {s : SignMark} (ends : EndsWithDigit p) :
    ¬ p <+: s.text := by
  intro front
  obtain ⟨c, member, digit⟩ := ends.digit_in front
  have apart : ∀ c ∈ decimalDigits, c ∉ "+-".toList := all_checked (by decide)
  exact apart c digit (sign_chars s c member)

namespace DecimalNumeral

variable (n : DecimalNumeral)

theorem text_chars : ∀ c ∈ n.text, c ∈ numeralChars := by
  have digits : ∀ c ∈ decimalDigits, c ∈ numeralChars := all_checked (by decide)
  have signs : ∀ c ∈ "+-".toList, c ∈ numeralChars := all_checked (by decide)
  intro c member
  simp only [text, behindWhole, List.mem_append] at member
  rcases member with sign | whole | fraction | power
  · exact signs c (sign_chars n.sign c sign)
  · exact digits c (n.whole_decimal c whole)
  · cases written : n.fraction with
    | none => simp [written] at fraction
    | some f =>
      rw [written] at fraction
      rcases List.mem_cons.1 fraction with rfl | member
      · decide
      · exact digits c (n.fraction_decimal c (by simpa [written] using member))
  · cases written : n.power with
    | none => simp [written] at power
    | some p =>
      rw [written] at power
      rcases List.mem_cons.1 power with rfl | member
      · rcases p.marked with mark | mark <;> rw [mark] <;> decide
      · rcases List.mem_append.1 member with sign | digit
        · exact signs c (sign_chars p.sign c sign)
        · exact digits c (p.decimal c digit)

theorem text_nonempty : n.text ≠ [] := by
  intro none
  simp only [text, behindWhole, List.append_eq_nil_iff] at none
  cases fraction : n.fraction with
  | none => exact n.nonempty (by simp [none.2.1, fraction])
  | some f => simp [fraction] at none

theorem cut_behind_digit {p : List Char} (front : p <+: n.text) (ends : EndsWithDigit p) :
    ∃ m : DecimalNumeral, m.text = p := by
  rcases ends.split front with sign | ⟨q, whole, some, unsigned, ends⟩
  · exact absurd sign ends.not_sign
  rw [whole]
  rcases ends.split unsigned with within | ⟨r, whole, some, behind, ends⟩
  · refine ⟨⟨n.sign, q, none, none, ?_, by simpa using some⟩, by simp [text, behindWhole]⟩
    exact fun c member => n.whole_decimal c (within.subset (by simpa using member))
  rw [whole]
  rcases ends.split behind with within | ⟨t, whole, some, powered, ends⟩
  · cases fraction : n.fraction with
    | none => exact absurd (by simpa [fraction] using within) some
    | some f =>
      rw [fraction] at within
      rcases ends.split (a := ['.']) within with point | ⟨digits, whole, some, inside, -⟩
      · obtain ⟨c, member, digit⟩ := ends.digit_in point
        cases List.mem_singleton.1 member
        exact absurd digit (by decide)
      · refine ⟨⟨n.sign, n.whole, Option.some digits, none, ?_, by simp [some]⟩, by simp [text,
          behindWhole, whole]⟩
        intro c member
        rcases List.mem_append.1 member with before | digit
        · exact n.whole_decimal c before
        · exact n.fraction_decimal c (by simpa [fraction] using inside.subset digit)
  rw [whole]
  cases power : n.power with
  | none => exact absurd (by simpa [power] using powered) some
  | some p =>
    rw [power] at powered
    rcases ends.split (a := [p.mark]) powered with mark | ⟨u, whole, some, signed, ends⟩
    · obtain ⟨c, member, digit⟩ := ends.digit_in mark
      cases List.mem_singleton.1 member
      rcases p.marked with mark | mark <;> rw [mark] at digit <;> exact absurd digit (by decide)
    rw [whole]
    rcases ends.split signed with sign | ⟨digits, whole, some, inside, -⟩
    · exact absurd sign ends.not_sign
    · have decimal : ∀ c ∈ digits, c ∈ decimalDigits :=
        fun c member => p.decimal c (inside.subset member)
      refine ⟨⟨n.sign, n.whole, n.fraction,
        Option.some ⟨p.mark, p.sign, digits, p.marked, decimal, some⟩, n.decimal, n.nonempty⟩, ?_⟩
      simp [text, behindWhole, PowerOfTen.text, whole]

theorem read_float_text : readFloat? n.text = some n.toFloat := by
  unfold readFloat?
  rw [n.read_decimal_text]
  rfl

theorem toFloat_of_text {n m : DecimalNumeral} (same : n.text = m.text) :
    n.toFloat = m.toFloat := by
  have read := n.read_decimal_text
  rw [same, m.read_decimal_text] at read
  obtain ⟨minus, magnitude⟩ := Prod.mk.inj (Option.some.inj read)
  rw [toFloat, toFloat, SignMark.apply, SignMark.apply, minus, magnitude]

structure LongestIn (n : DecimalNumeral) (text : List Char) : Prop where
  stands : n.text <+: text
  longest : ∀ m : DecimalNumeral, m.text <+: text → m.text.length ≤ n.text.length

theorem longest_or_none (text : List Char) :
    (∃ n : DecimalNumeral, n.LongestIn text) ∨ ∀ n : DecimalNumeral, ¬ n.text <+: text := by
  classical
  by_cases some : ∃ n : DecimalNumeral, n.text <+: text
  · left
    let Stands (length : Nat) := ∃ n : DecimalNumeral, n.text <+: text ∧ n.text.length = length
    obtain ⟨n, stands⟩ := some
    obtain ⟨m, front, length⟩ : Stands (Nat.findGreatest Stands text.length) :=
      Nat.findGreatest_spec stands.length_le ⟨n, stands, rfl⟩
    refine ⟨m, front, fun other stands => ?_⟩
    rw [length]
    exact Nat.le_findGreatest stands.length_le ⟨other, stands, rfl⟩
  · exact .inr fun n stands => some ⟨n, stands⟩

theorem shorter_of_unread {text : List Char} {least : Nat}
    (unread : ∀ length < text.length + 1, least ≤ length → readDecimal? (text.take length) = none)
    {n : DecimalNumeral} (stands : n.text <+: text) : n.text.length < least := by
  by_contra long
  have none := unread n.text.length (Nat.lt_succ_of_le stands.length_le) (Nat.not_lt.1 long)
  rw [← List.prefix_iff_eq_take.1 stands, n.read_decimal_text] at none
  cases none

end DecimalNumeral

-- The value is that of the longest numeral in front of the text, and zero when there is none.
structure Leads (text : List Char) (value : Float) : Prop where
  longest : ∀ n : DecimalNumeral, n.LongestIn text → value = n.toFloat
  none : (∀ n : DecimalNumeral, ¬ n.text <+: text) → value = 0.0

section Search

variable {text more taken : List Char} {value best : Float}

theorem leads_numeral (n : DecimalNumeral) : Leads n.text n.toFloat := by
  refine ⟨fun m longest => ?_, fun none => absurd (List.prefix_refl _) (none n)⟩
  have whole := longest.longest n (List.prefix_refl _)
  exact DecimalNumeral.toFloat_of_text (longest.stands.eq_of_length_le whole).symm

theorem Leads.extended (leads : Leads text value) (longer : text <+: more)
    (old : ∀ n : DecimalNumeral, n.text <+: more → n.text <+: text) : Leads more value := by
  refine ⟨fun n found => leads.longest n ⟨old n found.stands, fun m stands => ?_⟩,
    fun none => leads.none fun n stands => ?_⟩
  · exact found.longest m (stands.trans longer)
  · exact none n (stands.trans longer)

-- The words for infinities and for no number are never reached: a letter of theirs that no numeral
-- has stands before their end.
theorem no_word_reached (plain : ∀ c ∈ taken, c ∈ numeralChars) (c : Char) :
    readWord? (taken ++ [c]) = none := by
  obtain ⟨s, signed, -⟩ := split_sign_cases (taken ++ [c])
  have other (word : List Char) (known : 'n' ∈ word.dropLast) :
      fold (String.ofList (splitSign (taken ++ [c])).2) ≠ String.ofList word := by
    intro same
    have letters : (splitSign (taken ++ [c])).2.map Char.toLower = word := by
      simpa using congrArg String.toList same
    have some : (splitSign (taken ++ [c])).2 ≠ [] := by
      intro none
      rw [none] at letters
      simp [← letters] at known
    rw [← letters, ← List.map_dropLast] at known
    obtain ⟨d, member, lower⟩ := List.mem_map.1 known
    have before : d ∈ taken := by
      have cut : s.text ++ (splitSign (taken ++ [c])).2.dropLast = taken := by
        rw [← List.dropLast_append_of_ne_nil some, signed, List.dropLast_concat]
      exact cut ▸ List.mem_append_right _ member
    have apart : ∀ d ∈ numeralChars, d.toLower ≠ 'n' := all_checked (by decide)
    exact apart d (plain d before) lower
  unfold readWord?
  dsimp only
  split
  · rename_i word
    exact absurd word (other "inf".toList (by decide))
  · rename_i word
    exact absurd word (other "infinity".toList (by decide))
  · rename_i word
    exact absurd word (other "nan".toList (by decide))
  · rfl

theorem read_float_numeral (plain : ∀ c ∈ taken, c ∈ numeralChars) (c : Char) :
    (∃ n : DecimalNumeral, n.text = taken ++ [c] ∧ readFloat? (taken ++ [c]) = some n.toFloat) ∨
      (∀ n : DecimalNumeral, n.text ≠ taken ++ [c]) ∧ readFloat? (taken ++ [c]) = none := by
  unfold readFloat?
  cases read : readDecimal? (taken ++ [c]) with
  | some result =>
    obtain ⟨negative, magnitude⟩ := result
    obtain ⟨n, written, rfl, rfl⟩ := read_decimal_iff.1 read
    exact .inl ⟨n, written, rfl⟩
  | none =>
    refine .inr ⟨fun n written => ?_, no_word_reached plain c⟩
    rw [← written, n.read_decimal_text] at read
    cases read

theorem search_leads (rest : List Char) (plain : ∀ c ∈ taken, c ∈ numeralChars)
    (leads : Leads taken best) : Leads (taken ++ rest) (leadingNumberFrom best taken rest) := by
  induction rest generalizing taken best with
  | nil => simpa [leadingNumberFrom] using leads
  | cons c rest ih =>
    have longer : taken ++ c :: rest = (taken ++ [c]) ++ rest := by simp
    rw [longer, leadingNumberFrom]
    rcases read_float_numeral plain c with ⟨n, written, read⟩ | ⟨other, unread⟩
    · rw [read]
      dsimp only
      refine ih (fun d member => n.text_chars d (written ▸ member)) ?_
      exact written ▸ leads_numeral n
    · rw [unread]
      dsimp only
      split
      · rename_i mark
        refine ih (fun d member => ?_) (leads.extended (List.prefix_append _ _) fun n stands => ?_)
        · rcases List.mem_append.1 member with before | last
          · exact plain d before
          · rw [List.mem_singleton.1 last]
            simp only [isNumeralMark, Bool.or_eq_true, beq_iff_eq] at mark
            rcases mark with (((rfl | rfl) | rfl) | rfl) | rfl <;> decide
        · exact (List.prefix_concat_iff.1 stands).resolve_left (other n)
      · rename_i unmarked
        refine leads.extended (by simp) fun n stands => ?_
        -- A numeral that goes on here has a digit here, behind which it could be cut off.
        rcases prefix_append_cases (longer ▸ stands) with within | ⟨q, some, behind, front⟩
        · exact within
        · obtain ⟨d, q, rfl⟩ := List.exists_cons_of_ne_nil some
          obtain ⟨rfl, -⟩ := List.cons_prefix_cons.1 front
          have cut : taken ++ [d] <+: n.text := by
            rw [behind]
            simp
          have marks : ∀ d ∈ "+-.eE".toList, isNumeralMark d = true := all_checked (by decide)
          have digit : d ∈ decimalDigits := by
            rcases List.mem_append.1 (n.text_chars d (by simp [behind])) with mark | digit
            · exact absurd (marks d mark) unmarked
            · exact digit
          obtain ⟨m, written⟩ := n.cut_behind_digit cut ⟨d, by simp, digit⟩
          exact absurd written (other m)

end Search

/-- The number in front of a text, blanks skipped, is that of the longest prefix that is a numeral:
with or without a sign, digits before a point or behind it or both, or no point, and with or without
a power of ten. The prefix is read as the double nearest to the number it denotes. Without such a
prefix the number is zero. -/
theorem leading_number_longest (text : String) :
    let front := trimStartChars text.toList
    (∀ n : DecimalNumeral, n.LongestIn front →
        leadingNumber text = n.toFloat ∧ readFloat? n.text = some (leadingNumber text) ∧
          NearestDouble n.value (leadingNumber text)) ∧
      ((∀ n : DecimalNumeral, ¬ n.text <+: front) → leadingNumber text = 0.0) ∧
      ((∃ n : DecimalNumeral, n.LongestIn front) ∨ ∀ n : DecimalNumeral, ¬ n.text <+: front) := by
  intro front
  have nothing : Leads [] 0.0 := by
    refine ⟨fun n longest => ?_, fun _ => rfl⟩
    exact absurd (List.prefix_nil.1 longest.stands) n.text_nonempty
  have leads : Leads front (leadingNumber text) := search_leads front (by simp) nothing
  refine ⟨fun n longest => ?_, leads.none, DecimalNumeral.longest_or_none front⟩
  rw [leads.longest n longest]
  exact ⟨rfl, n.read_float_text, n.to_float_nearest⟩

theorem leading_number_before_loose_marks :
    let n : DecimalNumeral :=
      ⟨.minus, ['1', '2'], some ['5'], none, all_checked (by decide), by decide⟩
    n.LongestIn (trimStartChars "  -12.5e+-3".toList) ∧ leadingNumber "  -12.5e+-3" = n.toFloat ∧
      NearestDouble n.value (leadingNumber "  -12.5e+-3") ∧ n.value = -25 / 2 ∧
      (∀ n : DecimalNumeral, ¬ n.text <+: trimStartChars "+.e1".toList) ∧
        leadingNumber "+.e1" = 0.0 := by
  intro n
  have longest : n.LongestIn (trimStartChars "  -12.5e+-3".toList) := by
    refine ⟨by decide, fun m stands => Nat.le_of_lt_succ ?_⟩
    exact DecimalNumeral.shorter_of_unread (by decide) stands
  have none (m : DecimalNumeral) : ¬ m.text <+: trimStartChars "+.e1".toList := by
    intro stands
    have shorter : m.text.length < 0 := DecimalNumeral.shorter_of_unread (by decide) stands
    exact Nat.not_lt_zero _ shorter
  obtain ⟨number, -, nearest⟩ := (leading_number_longest "  -12.5e+-3").1 n longest
  have value : n.value = -25 / 2 := by
    change (-((125 : ℕ) * 10 ^ (-1 : ℤ)) : ℚ) = -25 / 2
    norm_num
  exact ⟨longest, number, nearest, value, none, (leading_number_longest "+.e1").2.1 none⟩

end BrightScript
