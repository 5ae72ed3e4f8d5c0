import Mathlib.Data.List.TakeWhile
import BrightScript.Text.Blank
import BrightScript.Text.Split
set_option autoImplicit false

namespace BrightScript

section Blanks

variable {text front behind : List Char}

theorem trim_start_blank (blank : ∀ c ∈ front, isBlank c = true) (text : List Char) :
    trimStartChars (front ++ text) = trimStartChars text :=
  List.dropWhile_append_of_pos blank

theorem trim_end_blank (blank : ∀ c ∈ behind, isBlank c = true) (text : List Char) :
    trimEndChars (text ++ behind) = trimEndChars text := by
  unfold trimEndChars
  rw [List.reverse_append, List.dropWhile_append_of_pos fun c member =>
    blank c (List.mem_reverse.1 member)]

theorem trim_start_all (blank : ∀ c ∈ text, isBlank c = true) : trimStartChars text = [] :=
  List.dropWhile_eq_nil_iff.2 blank

theorem trim_start_shown {c : Char} (shown : isBlank c = false) (rest : List Char) :
    trimStartChars (c :: rest) = c :: rest :=
  List.dropWhile_cons_of_neg (by simp [shown])

theorem trim_start_taken (text : List Char) :
    ∃ blanks, (∀ c ∈ blanks, isBlank c = true) ∧ blanks ++ trimStartChars text = text :=
  ⟨text.takeWhile isBlank, fun _ member => List.all_eq_true.1 List.all_takeWhile _ member,
    List.takeWhile_append_dropWhile⟩

theorem trim_end_taken (text : List Char) :
    ∃ blanks, (∀ c ∈ blanks, isBlank c = true) ∧ trimEndChars text ++ blanks = text := by
  obtain ⟨blanks, blank, whole⟩ := trim_start_taken text.reverse
  refine ⟨blanks.reverse, fun c member => blank c (List.mem_reverse.1 member), ?_⟩
  rw [trimEndChars, ← List.reverse_append]
  exact (congrArg List.reverse whole).trans text.reverse_reverse

theorem trim_start_around {c : Char} (shown : isBlank c = false) (front behind : List Char) :
    trimStartChars (front ++ c :: behind) = trimStartChars front ++ c :: behind := by
  unfold trimStartChars
  rw [List.dropWhile_append]
  split
  · rename_i none
    rw [List.isEmpty_iff.1 none]
    exact trim_start_shown shown behind
  · rfl

theorem trim_end_around {c : Char} (shown : isBlank c = false) (front behind : List Char) :
    trimEndChars (front ++ c :: behind) = front ++ c :: trimEndChars behind := by
  have turned : (front ++ c :: behind).reverse = behind.reverse ++ c :: front.reverse := by simp
  have trimmed := trim_start_around shown behind.reverse front.reverse
  unfold trimStartChars at trimmed
  rw [trimEndChars, turned, trimmed]
  simp [trimEndChars]

theorem trim_around {c : Char} (shown : isBlank c = false) (front behind : List Char) :
    trimChars (front ++ c :: behind) = trimStartChars front ++ c :: trimEndChars behind := by
  rw [trimChars, trim_start_around shown, trim_end_around shown]

theorem trim_all (blank : ∀ c ∈ text, isBlank c = true) : trimChars text = [] := by
  rw [trimChars, trim_start_all blank]
  rfl

theorem trim_blanks (before : ∀ c ∈ front, isBlank c = true)
    (after : ∀ c ∈ behind, isBlank c = true) (text : List Char) :
    trimChars (front ++ text ++ behind) = trimChars text := by
  rw [List.append_assoc, trimChars, trim_start_blank before]
  by_cases shown : ∃ c ∈ text, isBlank c = false
  · obtain ⟨c, member, shown⟩ := shown
    obtain ⟨first, last, rfl⟩ := List.append_of_mem member
    rw [List.append_assoc, List.cons_append, ← trimChars, trim_around shown, trim_around shown,
      trim_end_blank after]
  · have blank : ∀ c ∈ text, isBlank c = true := by simpa using shown
    rw [trim_start_blank blank, trim_start_all after, trim_all blank]
    rfl

theorem trim_after (after : ∀ c ∈ behind, isBlank c = true) (text : List Char) :
    trimChars (text ++ behind) = trimChars text := by
  have nothing : ∀ c ∈ [], isBlank c = true := nofun
  exact trim_blanks nothing after text

theorem trim_trim_start (text : List Char) : trimChars (trimStartChars text) = trimChars text := by
  obtain ⟨blanks, blank, whole⟩ := trim_start_taken text
  have trimmed : trimStartChars (trimStartChars text) = trimStartChars text := by
    have dropped := trim_start_blank blank (trimStartChars text)
    rw [whole] at dropped
    exact dropped.symm
  rw [trimChars, trimmed]
  rfl

theorem trim_trim_end (text : List Char) : trimChars (trimEndChars text) = trimChars text := by
  obtain ⟨blanks, blank, whole⟩ := trim_end_taken text
  have trimmed := trim_after blank (trimEndChars text)
  rw [whole] at trimmed
  exact trimmed.symm

theorem trim_shown (first : ∀ c ∈ text.head?, isBlank c = false)
    (last : ∀ c ∈ text.getLast?, isBlank c = false) : trimChars text = text := by
  have start : trimStartChars text = text := by
    cases text with
    | nil => rfl
    | cons c rest => exact trim_start_shown (first c rfl) rest
  rw [trimChars, start]
  rcases List.eq_nil_or_concat text with rfl | ⟨front, c, rfl⟩
  · rfl
  · rw [List.concat_eq_append] at last ⊢
    exact trim_end_around (last c (by simp)) front []

theorem trim_start_self (trimmed : trimChars text = text) : trimStartChars text = text := by
  obtain ⟨before, -, whole⟩ := trim_start_taken text
  obtain ⟨after, -, rest⟩ := trim_end_taken (trimStartChars text)
  have left : trimEndChars (trimStartChars text) = text := trimmed
  rw [left] at rest
  have lengths := congrArg List.length whole
  rw [← rest] at lengths ⊢
  simp only [List.length_append] at lengths
  rw [List.length_eq_zero_iff.1 (show after.length = 0 by omega), List.append_nil]

theorem first_shown {c : Char} (trimmed : trimChars text = text) (first : text.head? = some c) :
    isBlank c = false := by
  obtain ⟨rest, rfl⟩ := List.head?_eq_some_iff.1 first
  by_contra blank
  have dropped : (c :: rest).dropWhile isBlank = rest.dropWhile isBlank :=
    List.dropWhile_cons_of_pos (by simpa using blank)
  have same : (c :: rest).dropWhile isBlank = c :: rest := trim_start_self trimmed
  have shorter := (List.dropWhile_suffix isBlank (l := rest)).length_le
  rw [← dropped, same, List.length_cons] at shorter
  omega

end Blanks

section Separators

theorem split_first_append {separator : Char} {front : List Char} (absent : separator ∉ front)
    (behind : List Char) :
    splitFirst? separator (front ++ separator :: behind) = some (front, behind) := by
  induction front with
  | nil => simp [splitFirst?]
  | cons c front ih =>
    obtain ⟨other, later⟩ := List.ne_and_not_mem_of_not_mem_cons absent
    simp [splitFirst?, Ne.symm other, ih later]

theorem split_first_none {separator : Char} {text : List Char} :
    splitFirst? separator text = none ↔ separator ∉ text := by
  induction text with
  | nil => simp [splitFirst?]
  | cons c text ih =>
    by_cases same : c = separator
    · simp [splitFirst?, same]
    · simp [splitFirst?, same, Ne.symm same, ih]

theorem split_all_eq (separator : Char) (text : List Char) :
    splitAll separator text = text.splitOn separator := by
  induction text with
  | nil => rfl
  | cons c text ih =>
    have some : splitAll separator text ≠ [] := ih ▸ List.splitOn_ne_nil separator text
    rw [List.splitOn_cons_eq_if_modifyHead, ← ih, splitAll]
    by_cases same : c = separator
    · rw [if_pos same, if_pos (beq_iff_eq.2 same)]
    · rw [if_neg same, if_neg fun equal => same (beq_iff_eq.1 equal)]
      cases parts : splitAll separator text with
      | nil => exact absurd parts some
      | cons part parts => rfl

end Separators

end BrightScript
