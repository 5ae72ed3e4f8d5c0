import Mathlib.Data.Nat.Digits.Lemmas
import BrightScript.Proofs.Casing
set_option autoImplicit false

namespace BrightScript

def digitValue (c : Char) : Nat :=
  "0123456789abcdef".toList.idxOf c.toLower

def positional (base : Nat) (digits : List Char) : Nat :=
  Nat.ofDigits base (digits.reverse.map digitValue)

theorem positional_snoc (base : Nat) (digits : List Char) (c : Char) :
    positional base (digits ++ [c]) = positional base digits * base + digitValue c := by
  simp only [positional, List.reverse_append, List.reverse_singleton, List.singleton_append,
    List.map_cons, Nat.ofDigits_cons]
  rw [Nat.mul_comm, Nat.add_comm]

theorem fold_positional {base : Nat} {value : Char → Nat} {digits : List Char}
    (agrees : ∀ c ∈ digits, value c = digitValue c) :
    digits.foldl (fun number c => number * base + value c) 0 = positional base digits := by
  induction digits using List.reverseRecOn with
  | nil => rfl
  | append_singleton digits c ih =>
    rw [List.foldl_append, ih fun d member => agrees d (List.mem_append_left _ member),
      positional_snoc]
    simp [agrees c]

def decimalDigits : List Char :=
  "0123456789".toList

def hexDigits : List Char :=
  "0123456789abcdefABCDEF".toList

theorem all_checked {P : Char → Prop} [DecidablePred P] {list : List Char}
    (checked : list.all (fun c => decide (P c)) = true) : ∀ c ∈ list, P c :=
  fun c member => of_decide_eq_true (List.all_eq_true.1 checked c member)

theorem ascii_all {P : Char → Prop} (each : ∀ n < 128, P (Char.ofNat n)) {c : Char}
    (ascii : c ≤ '\x7f') : P c := by
  have own := each c.toNat (Nat.lt_succ_of_le ascii)
  rwa [Char.ofNat_toNat] at own

theorem is_digit_iff (c : Char) : c.isDigit = true ↔ c ∈ decimalDigits := by
  constructor
  · intro digit
    have ascii : c ≤ '\x7f' := by
      simp only [Char.isDigit, Bool.and_eq_true, decide_eq_true_eq] at digit
      exact Nat.le_trans digit.2 (by decide)
    exact ascii_all (P := fun c => c.isDigit = true → c ∈ decimalDigits) (by decide) ascii digit
  · exact all_checked (P := fun c => c.isDigit = true) (by decide) c

theorem is_hex_digit_iff (c : Char) : Lexer.isHexDigit c = true ↔ c ∈ hexDigits := by
  constructor
  · intro digit
    have ascii : c ≤ '\x7f' := by
      simp only [Lexer.isHexDigit, Char.isDigit, Bool.or_eq_true, Bool.and_eq_true,
        decide_eq_true_eq] at digit
      rcases digit with (⟨_, below⟩ | ⟨_, below⟩) | ⟨_, below⟩ <;>
        exact Nat.le_trans below (by decide)
    exact ascii_all (P := fun c => Lexer.isHexDigit c = true → c ∈ hexDigits)
      (by decide) ascii digit
  · exact all_checked (P := fun c => Lexer.isHexDigit c = true) (by decide) c

theorem decimal_value_positional {digits : List Char} (decimal : ∀ c ∈ digits, c ∈ decimalDigits) :
    decimalValue digits = positional 10 digits := by
  have values : ∀ c ∈ decimalDigits, c.toNat - '0'.toNat = digitValue c := all_checked (by decide)
  exact fold_positional fun c member => values c (decimal c member)

theorem hex_value_positional {digits : List Char} (hex : ∀ c ∈ digits, c ∈ hexDigits) :
    Lexer.hexValue digits = positional 16 digits := by
  have values : ∀ c ∈ hexDigits, Lexer.hexDigitValue c = digitValue c := all_checked (by decide)
  exact fold_positional fun c member => values c (hex c member)

theorem positional_lt {digits : List Char} (decimal : ∀ c ∈ digits, c ∈ decimalDigits) :
    positional 10 digits < 10 ^ digits.length := by
  have small : ∀ c ∈ decimalDigits, digitValue c < 10 := all_checked (by decide)
  have bound := Nat.ofDigits_lt_base_pow_length (b := 10)
      (l := digits.reverse.map digitValue) (by decide) ?_
  · simpa [positional] using bound
  · intro value member
    obtain ⟨c, among, rfl⟩ := List.mem_map.1 member
    exact small c (decimal c (List.mem_reverse.1 among))

theorem rendered_decimal (n : Nat) : ∀ c ∈ Nat.toDigits 10 n, c ∈ decimalDigits :=
  fun c member => (is_digit_iff c).1 (Nat.isDigit_of_mem_toDigits (by decide) (by decide) member)

theorem positional_rendered (n : Nat) : positional 10 (Nat.toDigits 10 n) = n := by
  rw [← decimal_value_positional (rendered_decimal n)]
  have read := Nat.ofDigitChars_ten_toDigits (n := n)
  rw [Nat.ofDigitChars_eq_foldl] at read
  simpa only [decimalValue, Nat.mul_comm] using read

namespace Lexer

-- What stands here belongs to no numeral: the text ends, or a blank, a line end or a sign comes.
def cutOff (text : List Char) : Bool :=
  text.head?.all fun c => !"0123456789abcdefABCDEF.#!%&".toList.contains c

def endsWhole (text : List Char) : Bool :=
  text.head?.all fun c => !(c.isDigit || c == '.' || c.toLower == 'e' || c.toLower == 'd')

theorem cut_off_cons {c : Char} {text : List Char} (cut : cutOff (c :: text) = true) :
    isHexDigit c = false ∧ c ≠ '.' ∧ c ≠ '#' ∧ c ≠ '!' ∧ c ≠ '%' ∧ c ≠ '&' := by
  have apart : c ∉ "0123456789abcdefABCDEF.#!%&".toList := by simpa [cutOff] using cut
  have letters : ∀ d ∈ hexDigits, d ∈ "0123456789abcdefABCDEF.#!%&".toList :=
    all_checked (by decide)
  refine ⟨eq_false_of_ne_true fun digit => apart (letters c ((is_hex_digit_iff c).1 digit)), ?_⟩
  refine ⟨?_, ?_, ?_, ?_, ?_⟩ <;>
  · rintro rfl
    exact apart (by decide)

theorem ends_whole_of_cut_off {behind : List Char} (cut : cutOff behind = true) :
    endsWhole behind = true := by
  cases behind with
  | nil => rfl
  | cons c behind =>
    obtain ⟨other, point, -⟩ := cut_off_cons cut
    -- The letters that open an exponent are hexadecimal digits, in either case.
    have lower := (hex_digit_lowered c).trans other
    have letter {d : Char} (digit : isHexDigit d = true) : c.toLower ≠ d := by
      rintro rfl
      rw [digit] at lower
      cases lower
    have digit : c.isDigit = false := by
      simp only [isHexDigit, Bool.or_eq_false_iff] at other
      exact other.1.1
    simp [endsWhole, digit, point, letter (d := 'e') rfl, letter (d := 'd') rfl]

theorem take_while_all {p : Char → Bool} {front : List Char} (all : ∀ c ∈ front, p c = true)
    {tail : List Char} (stops : tail.head?.all (fun c => !p c) = true) :
    (front ++ tail).takeWhile p = front ∧ (front ++ tail).dropWhile p = tail := by
  rw [List.takeWhile_append_of_pos all, List.dropWhile_append_of_pos all]
  cases tail with
  | nil => simp
  | cons c tail =>
    have other : p c = false := by simpa using stops
    simp [other]

theorem read_whole {digits tail : List Char} (decimal : ∀ c ∈ digits, c ∈ decimalDigits)
    (ends : endsWhole tail = true) : Numeral.read (digits ++ tail) = ⟨digits, false, [], none⟩ := by
  have stops : tail.head?.all (fun c => !c.isDigit) = true := by
    cases tail with
    | nil => rfl
    | cons c tail =>
      simp only [endsWhole, List.head?_cons, Option.all_some, Bool.not_or, Bool.and_eq_true] at ends
      exact ends.1.1.1
  obtain ⟨whole, rest⟩ := take_while_all (p := Char.isDigit)
    (fun c member => (is_digit_iff c).2 (decimal c member)) stops
  unfold Numeral.read splitDigits
  rw [whole, rest]
  cases tail with
  | nil => rfl
  | cons c tail =>
    simp only [endsWhole, List.head?_cons, Option.all_some, Bool.not_or, Bool.and_eq_true,
      Bool.not_eq_true', beq_eq_false_iff_ne] at ends
    obtain ⟨⟨⟨_, point⟩, e⟩, d⟩ := ends
    simp [exponent?, point, e, d]

theorem pieces_numeric {c : Char} {text shown : List Char} {kind : Lexeme} {literal : Option Scalar}
    {length : Nat} (read : readNext false c text = (numeric kind literal shown, length))
    (number : kind ≠ .directive .error ∧ kind ≠ .symbol .dot) :
    pieces false (c :: text) =
      ⟨numeric kind literal shown, c :: text.take length⟩ :: pieces false (text.drop length) := by
  rw [pieces, read]
  cases literal with
  | none => rfl
  | some value =>
    have dot : (kind == .symbol .dot) = false := beq_false_of_ne number.2
    simp [numeric, Piece.isDotAfter, number.1, dot]

theorem read_next_digit {c : Char} (digit : c ∈ decimalDigits) (text : List Char) :
    readNext false c text = readNumber c text := by
  have apart : ∀ d ∈ decimalDigits, d ∉ [' ', '\t', '\r', '\n', '\'', '"', '#', '?'] :=
    all_checked (by decide)
  have first := apart c digit
  simp only [List.mem_cons, not_or] at first
  simp [readNext, first, (is_digit_iff c).2 digit]

theorem pieces_whole {digits : List Char} {kind : Lexeme} {literal : Option Scalar}
    (nonempty : digits ≠ []) (decimal : ∀ c ∈ digits, c ∈ decimalDigits) (suffix behind : List Char)
    (ends : endsWhole (suffix ++ behind) = true)
    (classed : Numeral.classify ⟨digits, false, [], none⟩ (suffix ++ behind).head? =
      (kind, literal, suffix.length))
    (number : kind ≠ .directive .error ∧ kind ≠ .symbol .dot) :
    pieces false (digits ++ suffix ++ behind) =
      ⟨numeric kind literal (digits ++ suffix), digits ++ suffix⟩ :: pieces false behind := by
  obtain ⟨d, ds, rfl⟩ := List.exists_cons_of_ne_nil nonempty
  have whole : d :: (ds ++ suffix ++ behind) = (d :: ds) ++ (suffix ++ behind) := by simp
  have read : readNext false d (ds ++ suffix ++ behind) =
      (numeric kind literal (d :: ds ++ suffix), (ds ++ suffix).length) := by
    have length : (⟨d :: ds, false, [], none⟩ : Numeral).length = (d :: ds).length := rfl
    rw [read_next_digit (decimal d List.mem_cons_self)]
    simp only [readNumber, whole, read_whole decimal ends, length, List.drop_left, classed]
    rw [← List.append_assoc, ← List.length_append, List.take_left, List.length_append,
      List.length_append, List.length_cons, Nat.add_right_comm, Nat.add_sub_cancel]
  have taken := pieces_numeric read number
  rwa [List.take_left, List.drop_left] at taken

theorem classify_bare (digits : List Char) {behind : List Char} (cut : cutOff behind = true) :
    Numeral.classify ⟨digits, false, [], none⟩ behind.head? =
      if 10 ≤ digits.length then (.double,
        some (.double (Decimal.toFloat ⟨decimalValue digits, 0⟩)), 0)
      else (.integer, some (.integer (Int32.ofInt (decimalValue digits))), 0) := by
  have literal : Numeral.classify ⟨digits, false, [], none⟩ none =
      if 10 ≤ digits.length then (.double,
        some (.double (Decimal.toFloat ⟨decimalValue digits, 0⟩)), 0)
      else (.integer, some (.integer (Int32.ofInt (decimalValue digits))), 0) := by
    simp [Numeral.classify, Numeral.isDouble, Numeral.digits, Numeral.isFractional, Numeral.toFloat,
      Decimal.ofDigits]
  rw [← literal]
  cases behind with
  | nil => rfl
  | cons c behind =>
    obtain ⟨-, -, double, single, short, long⟩ := cut_off_cons cut
    simp [Numeral.classify, double, single, short, long]

theorem classify_suffixed (digits : List Char) :
    let n : Numeral := ⟨digits, false, [], none⟩
    let value : Option Int :=
      if decimalValue digits < 2 ^ 127 then some (decimalValue digits) else none
    n.classify (some '%') = (.integer, (value.map Int32.ofInt).map .integer, 1) ∧
      n.classify (some '&') = (.longInteger, (value.map Int64.ofInt).map .longInteger, 1) :=
  ⟨rfl, rfl⟩

theorem pieces_few {digits behind : List Char} (nonempty : digits ≠ [])
    (decimal : ∀ c ∈ digits, c ∈ decimalDigits) (cut : cutOff behind = true)
    (few : digits.length < 10) : pieces false (digits ++ behind) =
      ⟨numeric .integer (some (.integer (Int32.ofInt (decimalValue digits)))) digits, digits⟩ ::
        pieces false behind := by
  have classed := classify_bare digits cut
  rw [if_neg (Nat.not_le.2 few)] at classed
  simpa using pieces_whole nonempty decimal [] behind (ends_whole_of_cut_off cut) classed
    ⟨nofun, nofun⟩

theorem pieces_many {digits behind : List Char} (decimal : ∀ c ∈ digits, c ∈ decimalDigits)
    (cut : cutOff behind = true) (many : 10 ≤ digits.length) :
    pieces false (digits ++ behind) =
      ⟨numeric .double (some (.double (Decimal.toFloat ⟨decimalValue digits, 0⟩))) digits,
        digits⟩ ::
        pieces false behind := by
  have nonempty : digits ≠ [] := List.ne_nil_of_length_pos (Nat.lt_of_lt_of_le (by decide) many)
  have classed := classify_bare digits cut
  rw [if_pos many] at classed
  simpa using pieces_whole nonempty decimal [] behind (ends_whole_of_cut_off cut) classed
    ⟨nofun, nofun⟩

theorem pieces_minus {digits behind : List Char} (nonempty : digits ≠ [])
    (decimal : ∀ c ∈ digits, c ∈ decimalDigits) :
    pieces false ('-' :: digits ++ behind) =
      ⟨.token (.symbol .minus) none, ['-']⟩ :: pieces false (digits ++ behind) := by
  obtain ⟨d, ds, rfl⟩ := List.exists_cons_of_ne_nil nonempty
  have other : d ≠ '=' ∧ d ≠ '-' :=
    all_checked (P := fun c => c ≠ '=' ∧ c ≠ '-') (by decide) d (decimal d List.mem_cons_self)
  have read : readNext false '-' (d :: ds ++ behind) = (.token (.symbol .minus) none, 0) := by
    change readSymbol '-' (d :: (ds ++ behind)) = _
    simp [readSymbol, symbol?, other]
  rw [List.cons_append, pieces, read]
  rfl

theorem pieces_hex {mark : Char} (opens : mark = 'h' ∨ mark = 'H')
    (digits suffix behind : List Char) {kind : Lexeme} {literal : Option Scalar}
    (read : readHex '&' mark (digits ++ suffix ++ behind) =
      (numeric kind literal ('&' :: mark :: digits ++ suffix), (mark :: digits ++ suffix).length))
    (number : kind ≠ .directive .error ∧ kind ≠ .symbol .dot) :
    pieces false ('&' :: mark :: digits ++ suffix ++ behind) =
      ⟨numeric kind literal ('&' :: mark :: digits ++ suffix), '&' :: mark :: digits ++ suffix⟩ ::
        pieces false behind := by
  have first : readNext false '&' (mark :: digits ++ suffix ++ behind) =
      readHex '&' mark (digits ++ suffix ++ behind) := by
    rcases opens with rfl | rfl <;> rfl
  have taken := pieces_numeric (first.trans read) number
  rwa [List.take_left, List.drop_left] at taken

theorem read_hex_bare {digits behind : List Char} (hex : ∀ c ∈ digits, c ∈ hexDigits)
    (cut : cutOff behind = true) (mark : Char) :
    readHex '&' mark (digits ++ behind) =
      (numeric .integer ((hexNumber? digits).map fun v => .integer (Int32.ofNat v))
        ('&' :: mark :: digits), (mark :: digits).length) := by
  have stops : behind.head?.all (fun c => !isHexDigit c) = true := by
    cases behind with
    | nil => rfl
    | cons c behind => simp [(cut_off_cons cut).1]
  obtain ⟨whole, -⟩ := take_while_all (fun c member => (is_hex_digit_iff c).2 (hex c member)) stops
  unfold readHex
  simp only [whole, List.drop_left]
  split
  · exact absurd rfl (cut_off_cons cut).2.2.2.2.2
  · rfl

theorem read_hex_long {digits : List Char} (hex : ∀ c ∈ digits, c ∈ hexDigits) (mark : Char)
    (behind : List Char) :
    readHex '&' mark (digits ++ ['&'] ++ behind) =
      (numeric .longInteger ((hexNumber? digits).map fun v => .longInteger (Int64.ofNat v))
        ('&' :: mark :: digits ++ ['&']), (mark :: digits ++ ['&']).length) := by
  have stops : ('&' :: behind).head?.all (fun c => !isHexDigit c) = true := rfl
  obtain ⟨whole, -⟩ := take_while_all (fun c member => (is_hex_digit_iff c).2 (hex c member)) stops
  rw [List.append_assoc]
  unfold readHex
  simp only [List.singleton_append, whole, List.drop_left]
  simp

theorem pieces_hex_bare {mark : Char} {digits behind : List Char} (opens : mark = 'h' ∨ mark = 'H')
    (hex : ∀ c ∈ digits, c ∈ hexDigits) (cut : cutOff behind = true) :
    let text := '&' :: mark :: digits
    pieces false (text ++ behind) =
      ⟨numeric .integer ((hexNumber? digits).map fun v => .integer (Int32.ofNat v)) text, text⟩ ::
        pieces false behind := by
  have read : readHex '&' mark (digits ++ [] ++ behind) =
      (numeric .integer ((hexNumber? digits).map fun v => .integer (Int32.ofNat v))
        ('&' :: mark :: digits ++ []), (mark :: digits ++ []).length) := by
    simpa using read_hex_bare hex cut mark
  simpa using pieces_hex opens digits [] behind read ⟨nofun, nofun⟩

end Lexer

section Scans

variable (file : String) (text behind : List Char)

def ScansTo (tokens : List Token) (errors : List (Located LexFault)) : Prop :=
  let later := Lexer.locate file ((⟨1, 1⟩ : Position).after text) (Lexer.pieces false behind)
  scan (String.ofList (text ++ behind)) file = ⟨tokens ++ later.tokens, errors ++ later.errors⟩

def opening : Location :=
  ⟨file, ⟨1, 1⟩, (⟨1, 1⟩ : Position).after text⟩

def ScansToNumber (kind : Lexeme) (value : Scalar) : Prop :=
  ScansTo file text behind [⟨kind, String.ofList text, some value, opening file text⟩] []

def IsRefused : Prop :=
  ScansTo file text behind [] [⟨.malformedNumber (String.ofList text), opening file text⟩]

variable {file text behind}

theorem scan_pieces (unmarked : text.head? ≠ some '\ufeff') :
    scan (String.ofList text) file = Lexer.locate file ⟨1, 1⟩ (Lexer.pieces false text) := by
  rw [scan, String.toList_ofList, Lexer.without_mark_unmarked text unmarked]

theorem scans_to_number {kind : Lexeme} {value : Scalar}
    (unmarked : (text ++ behind).head? ≠ some '\ufeff')
    (cut : Lexer.pieces false (text ++ behind) =
      ⟨Lexer.numeric kind (some value) text, text⟩ :: Lexer.pieces false behind) :
    ScansToNumber file text behind kind value := by
  unfold ScansToNumber ScansTo
  rw [scan_pieces unmarked, cut]
  rfl

theorem is_refused {kind : Lexeme} (unmarked : (text ++ behind).head? ≠ some '\ufeff')
    (cut : Lexer.pieces false (text ++ behind) =
      ⟨Lexer.numeric kind none text, text⟩ :: Lexer.pieces false behind) :
    IsRefused file text behind := by
  unfold IsRefused ScansTo
  rw [scan_pieces unmarked, cut]
  rfl

theorem scans_to_negated {digits : List Char} {kind : Lexeme} {value : Scalar}
    (nonempty : digits ≠ []) (decimal : ∀ c ∈ digits, c ∈ decimalDigits)
    (cut : Lexer.pieces false (digits ++ behind) =
      ⟨Lexer.numeric kind (some value) digits, digits⟩ :: Lexer.pieces false behind) :
    ScansTo file ('-' :: digits) behind
      [⟨.symbol .minus, "-", none, ⟨file, ⟨1, 1⟩, ⟨1, 2⟩⟩⟩,
        ⟨kind, String.ofList digits, some value,
          ⟨file, ⟨1, 2⟩, (⟨1, 1⟩ : Position).after ('-' :: digits)⟩⟩] [] := by
  unfold ScansTo
  rw [scan_pieces (by simp), Lexer.pieces_minus nonempty decimal, cut]
  rfl

end Scans

theorem rendered_nonnegative {n : Int} (nonnegative : 0 ≤ n) :
    (toString n).toList = Nat.toDigits 10 n.toNat := by
  rw [Int.toString_eq_repr, Int.repr_eq_if, if_pos nonnegative, Nat.toList_repr]

theorem rendered_negative {n : Int} (negative : n < 0) :
    (toString n).toList = '-' :: Nat.toDigits 10 (-n).toNat := by
  rw [Int.toString_eq_repr, Int.repr_eq_if, if_neg (Int.not_le.2 negative), String.toList_append,
    Nat.toList_repr]
  rfl

structure DecimalRead (file : String) (digits behind : List Char) : Prop where
  few : Lexer.cutOff behind = true → digits.length < 10 →
    ∃ v : Int32, v.toInt = positional 10 digits ∧
      ScansToNumber file digits behind .integer (.integer v)
  many : Lexer.cutOff behind = true → 10 ≤ digits.length →
    ScansToNumber file digits behind .double (.double (Decimal.toFloat ⟨positional 10 digits, 0⟩))
  short : positional 10 digits < 2 ^ 127 →
    ∃ v : Int32, v.toInt = (positional 10 digits : Int).bmod (2 ^ 32) ∧
      ScansToNumber file (digits ++ ['%']) behind .integer (.integer v)
  long : positional 10 digits < 2 ^ 127 →
    ∃ v : Int64, v.toInt = (positional 10 digits : Int).bmod (2 ^ 64) ∧
      ScansToNumber file (digits ++ ['&']) behind .longInteger (.longInteger v)
  oversized : 2 ^ 127 ≤ positional 10 digits →
    IsRefused file (digits ++ ['%']) behind ∧ IsRefused file (digits ++ ['&']) behind

theorem decimal_read {digits : List Char} (nonempty : digits ≠ [])
    (decimal : ∀ c ∈ digits, c ∈ decimalDigits) (file : String) (behind : List Char) :
    DecimalRead file digits behind := by
  have value := decimal_value_positional decimal
  have unmarked (rest : List Char) : (digits ++ rest).head? ≠ some '\ufeff' := by
    obtain ⟨d, ds, rfl⟩ := List.exists_cons_of_ne_nil nonempty
    intro mark
    cases mark
    exact absurd (decimal _ List.mem_cons_self) (by decide)
  have suffixed (suffix : Char) {kind : Lexeme} {literal : Option Scalar} :=
    @Lexer.pieces_whole digits kind literal nonempty decimal [suffix] behind
  have unmarkedSuffix (suffix : Char) : (digits ++ [suffix] ++ behind).head? ≠ some '\ufeff' := by
    rw [List.append_assoc]
    exact unmarked _
  obtain ⟨short, long⟩ := Lexer.classify_suffixed digits
  refine ⟨?_, ?_, ?_, ?_, ?_⟩
  · intro cut few
    refine ⟨_, ?_, scans_to_number (unmarked behind) (Lexer.pieces_few nonempty decimal cut few)⟩
    have small := positional_lt decimal
    have room : 10 ^ digits.length ≤ 10 ^ 9 :=
      Nat.pow_le_pow_right (by decide) (Nat.le_of_lt_succ few)
    rw [value, Int32.toInt_ofInt_of_le] <;> omega
  · intro cut many
    rw [← value]
    exact scans_to_number (unmarked behind) (Lexer.pieces_many decimal cut many)
  · intro small
    rw [value, if_pos small] at short
    exact ⟨_, Int32.toInt_ofInt, scans_to_number (unmarkedSuffix '%')
      (suffixed '%' rfl short ⟨nofun, nofun⟩)⟩
  · intro small
    rw [value, if_pos small] at long
    exact ⟨_, Int64.toInt_ofInt, scans_to_number (unmarkedSuffix '&')
      (suffixed '&' rfl long ⟨nofun, nofun⟩)⟩
  · intro large
    rw [value, if_neg (Nat.not_lt.2 large)] at short long
    exact ⟨is_refused (unmarkedSuffix '%') (suffixed '%' rfl short ⟨nofun, nofun⟩),
      is_refused (unmarkedSuffix '&') (suffixed '&' rfl long ⟨nofun, nofun⟩)⟩

structure HexRead (file : String) (mark : Char) (digits behind : List Char) : Prop where
  short : digits ≠ [] → positional 16 digits < 2 ^ 64 → Lexer.cutOff behind = true →
    ∃ v : Int32, v.toInt = (positional 16 digits : Int).bmod (2 ^ 32) ∧
      ScansToNumber file ('&' :: mark :: digits) behind .integer (.integer v)
  long : digits ≠ [] → positional 16 digits < 2 ^ 64 →
    ∃ v : Int64, v.toInt = (positional 16 digits : Int).bmod (2 ^ 64) ∧
      ScansToNumber file ('&' :: mark :: digits ++ ['&']) behind .longInteger (.longInteger v)
  refused : digits = [] ∨ 2 ^ 64 ≤ positional 16 digits →
    (Lexer.cutOff behind = true → IsRefused file ('&' :: mark :: digits) behind) ∧
      IsRefused file ('&' :: mark :: digits ++ ['&']) behind

theorem hex_read {mark : Char} {digits : List Char} (opens : mark = 'h' ∨ mark = 'H')
    (hex : ∀ c ∈ digits, c ∈ hexDigits) (file : String) (behind : List Char) :
    HexRead file mark digits behind := by
  have value := hex_value_positional hex
  have unmarked (rest : List Char) : ('&' :: rest).head? ≠ some '\ufeff' := by simp
  have bare (cut : Lexer.cutOff behind = true) := Lexer.pieces_hex_bare opens hex cut
  have suffixed := Lexer.pieces_hex opens digits ['&'] behind (Lexer.read_hex_long hex mark behind)
      ⟨nofun, nofun⟩
  have found (nonempty : digits ≠ []) (small : positional 16 digits < 2 ^ 64) :
      Lexer.hexNumber? digits = some (positional 16 digits) := by
    rw [← value] at small ⊢
    exact if_pos (by simpa [nonempty] using small)
  have missing (refused : digits = [] ∨ 2 ^ 64 ≤ positional 16 digits) :
      Lexer.hexNumber? digits = none := by
    rw [← value] at refused
    refine if_neg fun accepted => ?_
    simp only [Bool.and_eq_true, Bool.not_eq_true', List.isEmpty_eq_false_iff,
      decide_eq_true_eq] at accepted
    exact refused.elim accepted.1 (Nat.not_le.2 accepted.2)
  refine ⟨?_, ?_, ?_⟩
  · intro nonempty small cut
    rw [found nonempty small] at bare
    exact ⟨_, Int32.toInt_ofNat', scans_to_number (unmarked _) (bare cut)⟩
  · intro nonempty small
    rw [found nonempty small] at suffixed
    exact ⟨_, Int64.toInt_ofNat', scans_to_number (unmarked _) suffixed⟩
  · intro refused
    rw [missing refused] at bare suffixed
    exact ⟨fun cut => is_refused (unmarked _) (bare cut), is_refused (unmarked _) suffixed⟩

theorem rendered_few {m : Nat} (small : m < 10 ^ 9) : (Nat.toDigits 10 m).length < 10 :=
  Nat.lt_succ_of_le ((Nat.length_toDigits_le_iff (by decide) (by decide)).2 small)

theorem rendered_integer (file : String) {behind : List Char}
    (cut : Lexer.cutOff behind = true) {n : Int32} (nonnegative : 0 ≤ n.toInt)
    (small : n.toInt < 10 ^ 9) :
    ScansToNumber file (toString n.toInt).toList behind .integer (.integer n) := by
  have read := decimal_read Nat.toDigits_ne_nil (rendered_decimal n.toInt.toNat) file behind
  obtain ⟨v, value, scanned⟩ := read.few cut (rendered_few (by omega))
  rw [positional_rendered, Int.toNat_of_nonneg nonnegative] at value
  cases Int32.toInt_inj.1 value
  rwa [rendered_nonnegative nonnegative]

theorem rendered_long_integer (file : String) (behind : List Char) {n : Int64}
    (nonnegative : 0 ≤ n.toInt) :
    ScansToNumber file ((toString n.toInt).toList ++ ['&']) behind .longInteger
      (.longInteger n) := by
  have read := decimal_read Nat.toDigits_ne_nil (rendered_decimal n.toInt.toNat) file behind
  have bound := n.toInt_lt
  obtain ⟨v, value, scanned⟩ := read.long (by rw [positional_rendered]; omega)
  rw [positional_rendered, Int.toNat_of_nonneg nonnegative] at value
  cases Int64.toInt_inj.1 (value.trans n.toInt_bmod)
  rwa [rendered_nonnegative nonnegative]

theorem rendered_negative_integer (file : String) {behind : List Char}
    (cut : Lexer.cutOff behind = true) {n : Int32} (above : -10 ^ 9 < n.toInt)
    (negative : n.toInt < 0) : let digits := Nat.toDigits 10 (-n.toInt).toNat
    ScansTo file ('-' :: digits) behind
      [⟨.symbol .minus, "-", none, ⟨file, ⟨1, 1⟩, ⟨1, 2⟩⟩⟩,
        ⟨.integer, String.ofList digits, some (.integer (-n)),
          ⟨file, ⟨1, 2⟩, (⟨1, 1⟩ : Position).after ('-' :: digits)⟩⟩] [] := by
  have decimal := rendered_decimal (-n.toInt).toNat
  have read := Lexer.pieces_few Nat.toDigits_ne_nil decimal cut (rendered_few (by omega))
  have magnitude : Int32.ofInt ((-n.toInt).toNat : Int) = -n := by
    rw [Int.toNat_of_nonneg (by omega), Int32.ofInt_neg, Int32.ofInt_toInt]
  rw [decimal_value_positional decimal, positional_rendered, magnitude] at read
  exact scans_to_negated Nat.toDigits_ne_nil decimal read

/-- Decimal digits denote an integer when there are fewer than ten and a double from ten on; a
suffix reduces them to 32 or 64 bits, and only `2 ^ 127` and more is refused. Hexadecimal digits are
reduced likewise, and refused from `2 ^ 64` on or when there are none. So the rendering of an
integer of up to nine digits, and of a long integer with its suffix, scans back to it, but for a
minus sign, which is a token of its own. -/
theorem whole_numbers_read_exactly (file : String) (behind : List Char) :
    (∀ digits ≠ [], (∀ c ∈ digits, c ∈ decimalDigits) → DecimalRead file digits behind) ∧
      (∀ mark digits, mark = 'h' ∨ mark = 'H' → (∀ c ∈ digits, c ∈ hexDigits) →
        HexRead file mark digits behind) ∧
      (∀ n : Int32, 0 ≤ n.toInt → n.toInt < 10 ^ 9 → Lexer.cutOff behind = true →
        ScansToNumber file (toString n.toInt).toList behind .integer (.integer n)) ∧
      (∀ n : Int32, -10 ^ 9 < n.toInt → n.toInt < 0 → Lexer.cutOff behind = true →
        let digits := Nat.toDigits 10 (-n.toInt).toNat
        (toString n.toInt).toList = '-' :: digits ∧
          ScansTo file ('-' :: digits) behind
            [⟨.symbol .minus, "-", none, ⟨file, ⟨1, 1⟩, ⟨1, 2⟩⟩⟩,
              ⟨.integer, String.ofList digits, some (.integer (-n)),
                ⟨file, ⟨1, 2⟩, (⟨1, 1⟩ : Position).after ('-' :: digits)⟩⟩] []) ∧
      (∀ n : Int64, 0 ≤ n.toInt →
        ScansToNumber file ((toString n.toInt).toList ++ ['&']) behind .longInteger
          (.longInteger n)) :=
  ⟨fun _ nonempty decimal => decimal_read nonempty decimal file behind,
    fun _ _ opens hex => hex_read opens hex file behind,
    fun _ nonnegative small cut => rendered_integer file cut nonnegative small,
    fun _ above negative cut => ⟨rendered_negative negative,
      rendered_negative_integer file cut above negative⟩,
    fun _ nonnegative => rendered_long_integer file behind nonnegative⟩

theorem whole_numbers_at_limits :
    ScansToNumber "main.brs" "000000009".toList [' '] .integer (.integer 9) ∧
      ScansToNumber "main.brs" "0000000009".toList [' '] .double
      (.double (Decimal.toFloat ⟨9, 0⟩)) ∧
      ScansToNumber "main.brs" "4294967295%".toList [' '] .integer (.integer (-1)) ∧
      IsRefused "main.brs" "170141183460469231731687303715884105728&".toList [' '] ∧
      ScansToNumber "main.brs" "&hFFFFFFFF".toList [' '] .integer (.integer (-1)) ∧
      IsRefused "main.brs" "&H&".toList [' '] ∧
      ScansToNumber "main.brs" (toString (42 : Int32).toInt).toList [' '] .integer (.integer 42) ∧
      (toString (-42 : Int32).toInt).toList = '-' :: Nat.toDigits 10 (-(-42 : Int32).toInt).toNat ∧
      ScansToNumber "main.brs" ((toString (42 : Int64).toInt).toList ++ ['&']) [' '] .longInteger
        (.longInteger 42) := by
  obtain ⟨decimals, hexadecimals, rendered, negated, long⟩ :=
    whole_numbers_read_exactly "main.brs" [' ']
  have nine := decimals "000000009".toList (by decide) (all_checked (by decide))
  have tens := decimals "0000000009".toList (by decide) (all_checked (by decide))
  have bits := decimals "4294967295".toList (by decide) (all_checked (by decide))
  have large := decimals "170141183460469231731687303715884105728".toList (by decide)
      (all_checked (by decide))
  have bytes := hexadecimals 'h' "FFFFFFFF".toList (.inl rfl) (all_checked (by decide))
  have empty := hexadecimals 'H' [] (.inr rfl) nofun
  obtain ⟨v, value, first⟩ := nine.few rfl (by decide)
  obtain ⟨w, wrapped, third⟩ := bits.short (by decide)
  obtain ⟨h, low, fifth⟩ := bytes.short (by decide) (by decide) rfl
  cases Int32.toInt_inj.1 (value.trans (by decide : _ = (9 : Int32).toInt))
  cases Int32.toInt_inj.1 (wrapped.trans (by decide : _ = (-1 : Int32).toInt))
  cases Int32.toInt_inj.1 (low.trans (by decide : _ = (-1 : Int32).toInt))
  exact ⟨first, tens.many rfl (by decide), third, (large.oversized (by decide)).2, fifth,
    (empty.refused (.inl rfl)).2, rendered 42 (by decide) (by decide) rfl,
    (negated (-42) (by decide) (by decide) rfl).1, long 42 (by decide)⟩

theorem least_integer_not_read_back :
    let source := toString Int32.minValue.toInt
    Int32.minValue.toInt < 10 ^ 9 ∧
      scan source "main.brs" =
        ⟨[⟨.symbol .minus, "-", none, ⟨"main.brs", ⟨1, 1⟩, ⟨1, 2⟩⟩⟩,
          ⟨.double, "2147483648", some (.double (Decimal.toFloat ⟨2147483648, 0⟩)),
            ⟨"main.brs", ⟨1, 2⟩, ⟨1, 12⟩⟩⟩,
          Token.eofAt ⟨"main.brs", ⟨1, 12⟩, ⟨1, 12⟩⟩], []⟩ ∧
      ∀ t ∈ (scan source "main.brs").tokens, t.literal ≠ some (.integer Int32.minValue) := by
  intro source
  have decimal : ∀ c ∈ "2147483648".toList, c ∈ decimalDigits := all_checked (by decide)
  have nothing : Lexer.cutOff [] = true := rfl
  have read := Lexer.pieces_many decimal nothing (by decide)
  have scanned : ScansTo "main.brs" _ _ _ _ := scans_to_negated (by decide) decimal read
  unfold ScansTo at scanned
  rw [Lexer.pieces] at scanned
  have tokens : scan source "main.brs" = ⟨_, _⟩ := scanned
  refine ⟨by decide, scanned, fun t member same => ?_⟩
  rw [tokens] at member
  rcases member with _ | ⟨_, _ | ⟨_, _ | ⟨_, none⟩⟩⟩
  iterate 3 cases same
  cases none

end BrightScript
