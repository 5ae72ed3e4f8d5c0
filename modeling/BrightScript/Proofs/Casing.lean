import BrightScript.Proofs.Lines
import Mathlib.Data.List.Forall2
set_option autoImplicit false

namespace BrightScript

def Scalar.folded : Scalar → Scalar
  | .string s => .string (fold s)
  | other => other

def LexFault.folded : LexFault → LexFault
  | .malformedNumber text => .malformedNumber (fold text)
  | other => other

def Token.folded (t : Token) : Token :=
  { t with text := fold t.text, literal := t.literal.map Scalar.folded }

def Scan.folded (s : Scan) : Scan :=
  ⟨s.tokens.map Token.folded, s.errors.map fun e => ⟨e.cause.folded, e.location⟩⟩

abbrev lowered (text : List Char) : List Char :=
  text.map Char.toLower

theorem lowered_cons (c : Char) (text : List Char) :
    lowered (c :: text) = c.toLower :: lowered text := rfl

theorem string_of_lowered (text : List Char) :
    String.ofList (lowered text) = fold (String.ofList text) := by
  simp [fold]

namespace Lexer

theorem take_while_lowered {p : Char → Bool} (same : ∀ c : Char, p c.toLower = p c)
    (text : List Char) : (lowered text).takeWhile p = lowered (text.takeWhile p) := by
  rw [List.takeWhile_map]
  exact congrArg (fun q => lowered (text.takeWhile q)) (funext same)

theorem drop_while_lowered {p : Char → Bool} (same : ∀ c : Char, p c.toLower = p c)
    (text : List Char) : (lowered text).dropWhile p = lowered (text.dropWhile p) := by
  rw [List.dropWhile_map]
  exact congrArg (fun q => lowered (text.dropWhile q)) (funext same)

theorem digit_lowered (c : Char) : c.toLower.isDigit = c.isDigit :=
  kept_lowered Char.isDigit (by decide) c

theorem word_char_lowered (c : Char) : isWordChar c.toLower = isWordChar c :=
  kept_lowered isWordChar (by decide) c

theorem gap_lowered (c : Char) : isGap c.toLower = isGap c :=
  kept_lowered isGap (by decide) c

theorem hex_digit_lowered (c : Char) : isHexDigit c.toLower = isHexDigit c :=
  kept_lowered isHexDigit (by decide) c

theorem on_line_lowered (c : Char) : (c.toLower != '\n') = (c != '\n') :=
  kept_lowered (· != '\n') (by decide) c

theorem digits_lowered (text : List Char) :
    lowered (text.takeWhile Char.isDigit) = text.takeWhile Char.isDigit := by
  refine (List.map_congr_left fun c member => ?_).trans (List.map_id _)
  have digit := List.all_eq_true.1 List.all_takeWhile c member
  exact fixed_lowered (by decide) digit

def Reading.folded : Reading → Reading
  | .token kind literal => .token kind (literal.map Scalar.folded)
  | .fault cause => .fault cause.folded
  | other => other

def Piece.folded (p : Piece) : Piece :=
  ⟨p.reading.folded, lowered p.text⟩

theorem line_length_lowered (text : List Char) : lineLength (lowered text) = lineLength text := by
  unfold lineLength
  rw [take_while_lowered on_line_lowered, List.length_map]

theorem symbol_lowered (c : Char) (text : List Char) :
    symbol? c (lowered text) = symbol? c text := by
  have equal := sign_lowered (d := '=') rfl
  have minus := sign_lowered (d := '-') rfl
  have plus := sign_lowered (d := '+') rfl
  have less := sign_lowered (d := '<') rfl
  have more := sign_lowered (d := '>') rfl
  fun_cases symbol? c text
  case case15 | case18 | case20 | case22 | case24 | case29 | case33 =>
    cases text <;> simp_all [symbol?]
  case case28 tail single | case32 tail single => cases tail <;> simp_all [symbol?]
  case case34 => simp_all [symbol?]
  all_goals rfl

theorem string_body_lowered (text : List Char) :
    stringBody? (lowered text) = (stringBody? text).map fun (value, length) =>
      (lowered value, length) := by
  have isQuote := sign_lowered (d := '"') rfl
  have isLineEnd := sign_lowered (d := '\n') rfl
  fun_induction stringBody? text with
  | case1 => rfl
  | case2 tail ih =>
    change (stringBody? (lowered tail)).map _ = _
    rw [ih, Option.map_map, Option.map_map]
    rfl
  | case3 tail single =>
    cases tail with
    | nil => rfl
    | cons c tail =>
      have other : c ≠ '"' := fun quote => single tail (by rw [quote])
      simp [stringBody?, isQuote, other]
  | case4 tail => rfl
  | case5 c tail double quote line ih =>
    rw [lowered_cons, stringBody?, ih, Option.map_map, Option.map_map]
    · rfl
    · exact fun _ again _ => quote ((isQuote c).1 again)
    · exact fun again => quote ((isQuote c).1 again)
    · exact fun again => line ((isLineEnd c).1 again)

theorem read_string_lowered (text : List Char) :
    readString (lowered text) = ((readString text).1.folded, (readString text).2) := by
  unfold readString
  rw [string_body_lowered, line_length_lowered]
  cases stringBody? text with
  | none => rfl
  | some body => simp [Reading.folded, Scalar.folded, string_of_lowered]

theorem split_sign_lowered (text : List Char) :
    splitSign (lowered text) = ((splitSign text).1, lowered (splitSign text).2) := by
  have plus := sign_lowered (d := '+') rfl
  have minus := sign_lowered (d := '-') rfl
  cases text with
  | nil => rfl
  | cons c text =>
    unfold splitSign
    split <;> simp_all

theorem split_digits_lowered (text : List Char) :
    splitDigits (lowered text) = ((splitDigits text).1, lowered (splitDigits text).2) := by
  unfold splitDigits
  rw [take_while_lowered digit_lowered, drop_while_lowered digit_lowered, digits_lowered]

theorem exponent_lowered (text : List Char) : exponent? (lowered text) = exponent? text := by
  cases text with
  | nil => rfl
  | cons mark text =>
    simp only [List.map_cons, exponent?, toLower_toLower, split_sign_lowered,
      take_while_lowered digit_lowered, digits_lowered, List.length_map]

theorem numeral_lowered (text : List Char) : Numeral.read (lowered text) = Numeral.read text := by
  have point := sign_lowered (d := '.') rfl
  simp only [Numeral.read, split_digits_lowered]
  cases (splitDigits text).2 with
  | nil => rfl
  | cons c tail =>
    by_cases dot : c = '.'
    · subst dot
      change Numeral.mk _ true _ _ = _
      simp only [split_digits_lowered, exponent_lowered]
    · have exponent := exponent_lowered (c :: tail)
      simp_all

theorem classify_lowered (n : Numeral) (next : Option Char) :
    n.classify (next.map Char.toLower) = n.classify next := by
  cases next with
  | none => rfl
  | some c =>
    have double := sign_lowered (d := '#') rfl c
    have float := sign_lowered (d := '!') rfl c
    have long := sign_lowered (d := '&') rfl c
    have whole := sign_lowered (d := '%') rfl c
    by_cases isDouble : c = '#'
    · rw [isDouble]
      rfl
    by_cases isFloat : c = '!'
    · rw [isFloat]
      rfl
    by_cases isLong : c = '&'
    · rw [isLong]
      rfl
    by_cases isWhole : c = '%'
    · rw [isWhole]
      rfl
    simp [Numeral.classify, double, float, long, whole, isDouble, isFloat, isLong, isWhole]

theorem classify_folded (n : Numeral) (next : Option Char) :
    (n.classify next).2.1.map Scalar.folded = (n.classify next).2.1 := by
  unfold Numeral.classify
  split
  · rfl
  · rfl
  · cases n.longInteger? <;> rfl
  · cases n.integer? <;> rfl
  · split
    · rfl
    · split <;> rfl

theorem numeric_folded (kind : Lexeme) {literal : Option Scalar}
    (same : literal.map Scalar.folded = literal) (text : List Char) :
    numeric kind literal (lowered text) = (numeric kind literal text).folded := by
  cases literal with
  | none => simp [numeric, Reading.folded, LexFault.folded, string_of_lowered]
  | some value => exact congrArg (Reading.token kind) same.symm

theorem read_number_lowered (c : Char) (text : List Char) :
    readNumber c.toLower (lowered text) =
      ((readNumber c text).1.folded, (readNumber c text).2) := by
  have numeral := numeral_lowered (c :: text)
  have next (count : Nat) : ((lowered (c :: text)).drop count).head? =
      ((c :: text).drop count).head?.map Char.toLower := by
    rw [← List.map_drop, List.head?_map]
  rw [lowered_cons] at numeral next
  simp only [readNumber, numeral, next, classify_lowered, Prod.mk.injEq, and_true]
  rw [← lowered_cons, ← List.map_take]
  exact numeric_folded _ (classify_folded _ _) _

theorem hex_number_lowered (digits : List Char) :
    hexNumber? (lowered digits) = hexNumber? digits := by
  have value : hexValue (lowered digits) = hexValue digits := by
    unfold hexValue
    rw [List.foldl_map]
    congr 1
    funext value c
    rw [kept_lowered hexDigitValue (by decide) c]
  simp [hexNumber?, value]

theorem read_hex_lowered (c mark : Char) (text : List Char) :
    readHex c.toLower mark.toLower (lowered text) =
      ((readHex c mark text).1.folded, (readHex c mark text).2) := by
  have long := sign_lowered (d := '&') rfl
  simp only [readHex, take_while_lowered hex_digit_lowered, hex_number_lowered, List.length_map,
    ← List.map_drop]
  generalize text.takeWhile isHexDigit = digits
  have short : numeric .integer ((hexNumber? digits).map fun v => .integer (Int32.ofNat v))
      (lowered (c :: mark :: digits)) = _ :=
    numeric_folded .integer (by cases hexNumber? digits <;> rfl) (c :: mark :: digits)
  have suffixed : c.toLower :: mark.toLower :: lowered digits ++ ['&'] = lowered
      (c :: mark :: digits ++ ['&']) := by
    simp [lowered]
  have wide : numeric .longInteger ((hexNumber? digits).map fun v => .longInteger (Int64.ofNat v))
      (c.toLower :: mark.toLower :: lowered digits ++ ['&']) =
      (numeric .longInteger ((hexNumber? digits).map fun v => .longInteger (Int64.ofNat v))
        (c :: mark :: digits ++ ['&'])).folded := by
    rw [suffixed]
    exact numeric_folded .longInteger (by cases hexNumber? digits <;> rfl)
      (c :: mark :: digits ++ ['&'])
  cases text.drop digits.length with
  | nil => exact congrArg (·, digits.length + 1) short
  | cons d tail =>
    by_cases isLong : d = '&'
    · rw [isLong]
      exact congrArg (·, digits.length + 2) wide
    · have other : d.toLower ≠ '&' := fun again => isLong ((long d).1 again)
      simp only [List.map_cons]
      split
      · rename_i same
        injection same with head _
        exact absurd head other
      · split
        · rename_i same
          injection same with head _
          exact absurd head isLong
        · exact congrArg (·, digits.length + 1) short

theorem following_word_lowered (text : List Char) :
    followingWord (lowered text) = followingWord text := by
  simp only [followingWord, take_while_lowered gap_lowered, List.length_map, ← List.map_drop,
    take_while_lowered word_char_lowered, string_of_lowered, fold_fold]

theorem keyword_folded (keyword : Keyword) :
    keyword.literal?.map Scalar.folded = keyword.literal? := by
  cases keyword <;> rfl

theorem read_word_lowered (afterDot : Bool) (c : Char) (text : List Char) :
    readWord afterDot c.toLower (lowered text) =
      ((readWord afterDot c text).1.folded, (readWord afterDot c text).2) := by
  have word : String.ofList (c.toLower :: lowered (text.takeWhile isWordChar)) =
      fold (String.ofList (c :: text.takeWhile isWordChar)) :=
    string_of_lowered (c :: text.takeWhile isWordChar)
  have keyword (name : String) : Keyword.ofWord? (fold name) = Keyword.ofWord? name := by
    simp only [Keyword.ofWord?, fold_fold]
  have mark (rest : List Char) :
      (lowered rest).head?.bind Kind.ofMark? = rest.head?.bind Kind.ofMark? := by
    cases rest with
    | nil => rfl
    | cons d rest => exact kept_lowered Kind.ofMark? (by decide) d
  simp only [readWord, take_while_lowered word_char_lowered, List.length_map, ← List.map_drop, word,
    keyword, mark, fold_fold, line_length_lowered, following_word_lowered]
  split
  · rfl
  · split
    · split
      · rw [Reading.folded, keyword_folded]
      · rw [Reading.folded, keyword_folded]
    · split <;> rfl

theorem read_directive_lowered (text : List Char) :
    readDirective (lowered text) = ((readDirective text).1.folded, (readDirective text).2) := by
  simp only [readDirective, take_while_lowered word_char_lowered, List.length_map, ← List.map_drop,
    string_of_lowered, fold_fold, following_word_lowered]
  split
  iterate 5 rfl
  · split <;> rfl
  · split <;> rfl
  · rfl

theorem read_symbol_lowered {c : Char} (text : List Char) :
    readSymbol c (lowered text) = ((readSymbol c text).1.folded, (readSymbol c text).2) := by
  unfold readSymbol
  rw [symbol_lowered]
  cases symbol? c text <;> rfl

theorem lowered_h {c : Char} (mark : c.toLower = 'h') : c = 'h' ∨ c = 'H' := by
  have letter : ∀ n : Fin 26, Char.ofNat (97 + n) = 'h' → Char.ofNat (65 + n) = 'H' := by decide
  rcases capital_or_low c with ⟨n, upper, lower⟩ | same
  · rw [lower] at mark
    exact .inr (upper.trans (letter n mark))
  · exact .inl (same.symm.trans mark)

theorem read_sign_lowered {c : Char} (sign : c.isAlpha = false) (text : List Char) :
    readSign c (lowered text) = ((readSign c text).1.folded, (readSign c text).2) := by
  fun_cases readSign c text
  case case1 tail => exact read_hex_lowered '&' 'h' tail
  case case2 tail => exact read_hex_lowered '&' 'H' tail
  case case3 d tail digit =>
    have number := read_number_lowered '.' (d :: tail)
    rw [← digit_lowered] at digit
    simpa [readSign, digit] using number
  case case4 d tail other =>
    have noDigit : ¬ d.toLower.isDigit = true := by rw [digit_lowered]; exact other
    simp [readSign, noDigit, Reading.folded]
  case case5 lower upper point =>
    rw [← read_symbol_lowered, readSign]
    · intro rest ampersand marked
      obtain ⟨d, tail, rfl, mark, _⟩ := List.map_eq_cons_iff.1 marked
      rcases lowered_h mark with small | capital
      · exact lower tail ampersand (by rw [small])
      · exact upper tail ampersand (by rw [capital])
    · intro rest _ marked
      obtain ⟨d, tail, rfl, mark, _⟩ := List.map_eq_cons_iff.1 marked
      have again := toLower_toLower d
      rw [mark] at again
      exact absurd again (by decide)
    · intro d rest dot marked
      obtain ⟨e, tail, rfl, _, _⟩ := List.map_eq_cons_iff.1 marked
      exact point e tail dot rfl

theorem read_next_lowered (afterDot : Bool) (c : Char) (text : List Char) :
    readNext afterDot c.toLower (lowered text) =
      ((readNext afterDot c text).1.folded, (readNext afterDot c text).2) := by
  have blank : (c.toLower == ' ' || c.toLower == '\t' || c.toLower == '\r') =
      (c == ' ' || c == '\t' || c == '\r') :=
    kept_lowered (fun c => c == ' ' || c == '\t' || c == '\r') (by decide) c
  have lineEnd : (c.toLower == '\n') = (c == '\n') := kept_lowered (· == '\n') (by decide) c
  have apostrophe : (c.toLower == '\'') = (c == '\'') := kept_lowered (· == '\'') (by decide) c
  have quote : (c.toLower == '"') = (c == '"') := kept_lowered (· == '"') (by decide) c
  have hash : (c.toLower == '#') = (c == '#') := kept_lowered (· == '#') (by decide) c
  have question : (c.toLower == '?') = (c == '?') := kept_lowered (· == '?') (by decide) c
  have word : isWordStart c.toLower = isWordStart c := kept_lowered isWordStart (by decide) c
  simp only [readNext, blank, lineEnd, apostrophe, quote, hash, question, word, digit_lowered]
  split
  · rfl
  split
  · rfl
  split
  · rw [line_length_lowered]
    rfl
  split
  · exact read_string_lowered text
  split
  · exact read_directive_lowered text
  split
  · rfl
  split
  · exact read_number_lowered c text
  split
  · exact read_word_lowered afterDot c text
  · rename_i other
    have sign : c.isAlpha = false := by
      simp only [isWordStart, Bool.or_eq_true, not_or, Bool.not_eq_true] at other
      exact other.1
    rw [(sign_lowered sign c).2 rfl]
    exact read_sign_lowered sign text

theorem trim_end_lowered (text : List Char) :
    trimEndChars (lowered text) = lowered (trimEndChars text) := by
  unfold trimEndChars
  rw [← List.map_reverse, drop_while_lowered (kept_lowered isBlank (by decide))]
  exact List.map_reverse.symm

theorem error_directive_folded (r : Reading) :
    r.folded = .token (.directive .error) none ↔ r = .token (.directive .error) none := by
  cases r with
  | token kind literal => cases literal <;> simp [Reading.folded]
  | blank => rfl
  | comment => rfl
  | fault cause => simp [Reading.folded]

theorem dot_after_folded (afterDot : Bool) (p : Piece) :
    p.folded.isDotAfter afterDot = p.isDotAfter afterDot := by
  obtain ⟨reading, text⟩ := p
  cases reading <;> rfl

theorem pieces_lowered (afterDot : Bool) (text : List Char) :
    pieces afterDot (lowered text) = (pieces afterDot text).map Piece.folded := by
  fun_induction pieces afterDot text with
  | case1 => simp [pieces]
  | case2 afterDot c text length behind gap tail message value read piece ih =>
    have same := read_next_lowered afterDot c text
    rw [read] at same
    have whole : (lowered text).drop length = lowered behind := List.map_drop.symm
    have blanks : (lowered behind).takeWhile isGap = lowered gap :=
      take_while_lowered gap_lowered behind
    have afterGap : (lowered behind).drop gap.length = lowered tail := List.map_drop.symm
    have words : (lowered tail).takeWhile (· != '\n') = lowered message :=
      take_while_lowered on_line_lowered tail
    have afterMessage : (lowered tail).drop message.length = lowered (tail.drop message.length) :=
      List.map_drop.symm
    rw [lowered_cons, pieces, same]
    simp only [Reading.folded, Option.map_none, if_true, whole, blanks, List.length_map, afterGap,
      words, afterMessage, ih, ← List.map_take, trim_end_lowered, string_of_lowered]
    rfl
  | case3 afterDot c text reading length read piece behind other ih =>
    have same := read_next_lowered afterDot c text
    rw [read] at same
    rw [lowered_cons, pieces, same]
    simp only [← List.map_take, ← List.map_drop]
    rw [if_neg (mt (error_directive_folded reading).1 other)]
    have again :
        (Piece.mk reading.folded (c.toLower :: lowered (text.take length))).isDotAfter afterDot =
          piece.isDotAfter afterDot := dot_after_folded afterDot piece
    rw [again, ih]
    rfl

theorem after_lowered (p : Position) (text : List Char) :
    p.after (lowered text) = p.after text := by
  unfold Position.after
  rw [List.foldl_map]
  congr 1
  funext p c
  exact kept_lowered p.step (by
    intro n
    have letters : ∀ n : Fin 26, Char.ofNat (97 + n) ≠ '\n' ∧
        Char.ofNat (65 + n) ≠ '\n' := by decide
    rw [Position.step, Position.step, if_neg (letters n).1, if_neg (letters n).2]) c

theorem locate_folded (file : String) (p : Position) (list : List Piece) :
    locate file p (list.map Piece.folded) = (locate file p list).folded := by
  induction list generalizing p with
  | nil => rfl
  | cons piece rest ih =>
    obtain ⟨reading, text⟩ := piece
    rw [List.map_cons, locate, locate]
    simp only [Piece.folded, after_lowered, ih]
    cases reading with
    | token kind literal => simp [Reading.folded, Scan.folded, Token.folded, string_of_lowered]
    | fault cause => rfl
    | blank => rfl
    | comment => rfl

theorem without_mark_lowered (text : List Char) :
    withoutMark (lowered text) = lowered (withoutMark text) := by
  have isMark := sign_lowered (d := '\ufeff') rfl
  cases text with
  | nil => rfl
  | cons c text =>
    by_cases marked : c = '\ufeff'
    · rw [marked]
      rfl
    · have other : c.toLower ≠ '\ufeff' := fun again => marked ((isMark c).1 again)
      simp [withoutMark, marked, other]

end Lexer

theorem forall_of_map_eq {α β : Type} {f : α → β} {as bs : List α} (same : as.map f = bs.map f) :
    List.Forall₂ (fun a b => f a = f b) as bs := by
  rw [← List.forall₂_map_left_iff (R := fun x b => x = f b),
    ← List.forall₂_map_right_iff (R := Eq), same]
  exact List.forall₂_refl _

theorem scan_folded (source file : String) :
    scan (fold source) file = (scan source file).folded := by
  unfold scan
  rw [toList_fold, Lexer.without_mark_lowered, Lexer.pieces_lowered, Lexer.locate_folded]

structure Token.Recased (a b : Token) : Prop where
  kind : a.kind = b.kind
  location : a.location = b.location
  text : fold a.text = fold b.text
  literal : a.literal.map Scalar.folded = b.literal.map Scalar.folded

def LexFault.Recased (e f : Located LexFault) : Prop :=
  e.cause.folded = f.cause.folded ∧ e.location = f.location

/-- Texts that differ only in the case of their letters scan alike: token by token the kinds and the
places are the same, the spellings and the literals are the same up to case, and so are the faults.
-/
theorem scan_ignores_case (a b file : String) (same : fold a = fold b) :
    List.Forall₂ Token.Recased (scan a file).tokens (scan b file).tokens ∧
      List.Forall₂ LexFault.Recased (scan a file).errors (scan b file).errors := by
  have scans : (scan a file).folded = (scan b file).folded := by
    rw [← scan_folded, ← scan_folded, same]
  constructor
  · refine (forall_of_map_eq (congrArg Scan.tokens scans)).imp ?_
    intro t u alike
    injection alike with kind text literal location
    exact ⟨kind, location, text, literal⟩
  · refine (forall_of_map_eq (congrArg Scan.errors scans)).imp ?_
    intro e f alike
    injection alike with cause location
    exact ⟨cause, location⟩

theorem scan_ignores_case_mixed :
    fold "Print &HfF +1D3 REM \"" = fold "PRINT &hFF +1d3 rem \"" ∧
      List.Forall₂ Token.Recased (scan "Print &HfF +1D3 REM \"" "a.brs").tokens
        (scan "PRINT &hFF +1d3 rem \"" "a.brs").tokens ∧
      List.Forall₂ LexFault.Recased (scan "Print &HfF +1D3 REM \"" "a.brs").errors
        (scan "PRINT &hFF +1d3 rem \"" "a.brs").errors :=
  ⟨by decide, scan_ignores_case _ _ _ (by decide)⟩

end BrightScript
