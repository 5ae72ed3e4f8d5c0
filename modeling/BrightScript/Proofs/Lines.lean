import BrightScript.Token.Lexer
set_option autoImplicit false

namespace BrightScript

namespace Lexer

theorem take_while_line {p : Char → Bool} (stops : p '\n' = false) (text rest : List Char) :
    (text ++ '\n' :: rest).takeWhile p = text.takeWhile p := by
  induction text with
  | nil => simp [stops]
  | cons c text ih => simp only [List.cons_append, List.takeWhile_cons, ih]

theorem drop_while_line {p : Char → Bool} (stops : p '\n' = false) (text rest : List Char) :
    (text ++ '\n' :: rest).dropWhile p = text.dropWhile p ++ '\n' :: rest := by
  induction text with
  | nil => simp [stops]
  | cons c text ih =>
    simp only [List.cons_append, List.dropWhile_cons, ih]
    split <;> rfl

theorem take_while_within (p : Char → Bool) (text : List Char) :
    (text.takeWhile p).length ≤ text.length :=
  (List.takeWhile_sublist p).length_le

theorem drop_line {count : Nat} {text : List Char} (within : count ≤ text.length)
    (rest : List Char) : (text ++ '\n' :: rest).drop count = text.drop count ++ '\n' :: rest :=
  List.drop_append_of_le_length within

theorem take_line {count : Nat} {text : List Char} (within : count ≤ text.length)
    (rest : List Char) : (text ++ '\n' :: rest).take count = text.take count :=
  List.take_append_of_le_length within

theorem line_length_line (text rest : List Char) :
    lineLength (text ++ '\n' :: rest) = lineLength text := by
  unfold lineLength
  rw [take_while_line (by decide)]

-- A reader that reads the same whatever follows the line, and no more than there is.
structure LineLocal (reader : List Char → Reading × Nat) : Prop where
  same : ∀ text rest, reader (text ++ '\n' :: rest) = reader text
  within : ∀ text, (reader text).2 ≤ text.length

theorem constant_local (reading : Reading) : LineLocal fun _ => (reading, 0) :=
  ⟨fun _ _ => rfl, fun _ => Nat.zero_le _⟩

theorem comment_local : LineLocal fun text => (.comment, lineLength text) :=
  ⟨fun text rest => by rw [line_length_line], take_while_within _⟩

theorem string_body_line (text rest : List Char) :
    stringBody? (text ++ '\n' :: rest) = stringBody? text := by
  fun_induction stringBody? text with
  | case1 => simp [stringBody?]
  | case2 tail ih => simp [stringBody?, ih]
  | case3 tail single =>
    -- A quote at the end of the line closes the string: the next line cannot double it.
    cases tail with
    | nil => simp [stringBody?]
    | cons c tail =>
      have other : c ≠ '"' := fun quote => single tail (by rw [quote])
      simp [stringBody?, other]
  | case4 tail => simp [stringBody?]
  | case5 c tail double quote line ih =>
    have other : ∀ behind, c = '"' → tail ++ '\n' :: rest = '"' :: behind → False :=
      fun _ same _ => quote same
    rw [List.cons_append, stringBody?, ih]
    · exact other
    · exact quote
    · exact line

theorem string_body_within (text : List Char) :
    ∀ body, stringBody? text = some body → body.2 ≤ text.length := by
  fun_induction stringBody? text with
  | case1 | case4 => exact fun _ found => nomatch found
  | case2 tail ih =>
    intro body found
    obtain ⟨inner, read, rfl⟩ := Option.map_eq_some_iff.1 found
    exact Nat.add_le_add_right (ih inner read) 2
  | case3 tail =>
    intro body found
    cases found
    exact Nat.succ_le_succ (Nat.zero_le _)
  | case5 c tail _ _ _ ih =>
    intro body found
    obtain ⟨inner, read, rfl⟩ := Option.map_eq_some_iff.1 found
    exact Nat.succ_le_succ (ih inner read)

theorem read_string_local : LineLocal readString where
  same text rest := by
    unfold readString
    rw [string_body_line, line_length_line]
  within text := by
    unfold readString
    split
    · rename_i value length found
      exact string_body_within text _ found
    · exact take_while_within _ text

theorem split_sign_line (text rest : List Char) :
    splitSign (text ++ '\n' :: rest) =
      ((splitSign text).1, (splitSign text).2 ++ '\n' :: rest) := by
  cases text with
  | nil => rfl
  | cons c text =>
    unfold splitSign
    split <;> simp_all

theorem split_sign_within (text : List Char) : (splitSign text).2.length ≤ text.length := by
  unfold splitSign
  split
  · exact Nat.le_succ _
  · exact Nat.le_succ _
  · exact Nat.le_refl _

theorem exponent_line (text rest : List Char) :
    exponent? (text ++ '\n' :: rest) = exponent? text := by
  cases text with
  | nil => rfl
  | cons mark text =>
    have read := split_sign_line text rest
    have lengths := split_sign_within text
    simp only [List.cons_append, exponent?, read, take_while_line (p := Char.isDigit) rfl,
      List.length_append]
    have same : text.length + ('\n' :: rest).length -
        ((splitSign text).2.length + ('\n' :: rest).length) =
        text.length - (splitSign text).2.length := by omega
    rw [same]

theorem exponent_within (text : List Char) :
    (exponent? text).elim 0 Exponent.length ≤ text.length := by
  cases text with
  | nil => exact Nat.le_refl 0
  | cons mark text =>
    have lengths := split_sign_within text
    have digits := take_while_within Char.isDigit (splitSign text).2
    simp only [exponent?]
    split
    · split
      · exact Nat.zero_le _
      · simp only [Option.elim_some, List.length_cons]
        omega
    · exact Nat.zero_le _

theorem split_digits_line (text rest : List Char) :
    splitDigits (text ++ '\n' :: rest) =
      ((splitDigits text).1, (splitDigits text).2 ++ '\n' :: rest) :=
  Prod.ext (take_while_line rfl text rest) (drop_while_line rfl text rest)

theorem split_digits_length (text : List Char) :
    (splitDigits text).1.length + (splitDigits text).2.length = text.length := by
  rw [← List.length_append]
  exact congrArg List.length List.takeWhile_append_dropWhile

namespace Numeral

theorem read_line (text rest : List Char) : read (text ++ '\n' :: rest) = read text := by
  simp only [read, split_digits_line]
  cases (splitDigits text).2 with
  | nil => rfl
  | cons c tail =>
    by_cases point : c = '.'
    · subst point
      simp only [List.cons_append, split_digits_line, exponent_line]
    · have exponent := exponent_line (c :: tail) rest
      simp_all

theorem read_within (text : List Char) : (read text).length ≤ text.length := by
  have whole := split_digits_length text
  unfold read
  dsimp only
  split
  · rename_i tail behind
    have fraction := split_digits_length tail
    have exponent := exponent_within (splitDigits tail).2
    rw [behind, List.length_cons] at whole
    simp only [length, if_true]
    omega
  · have exponent := exponent_within (splitDigits text).2
    simp only [length, List.length_nil, Bool.false_eq_true, if_false]
    omega

theorem classify_line (n : Numeral) (text rest : List Char) :
    n.classify (text ++ '\n' :: rest).head? = n.classify text.head? := by
  cases text with
  | nil => rfl
  | cons c text => rfl

theorem classify_suffix (n : Numeral) (next : Option Char) :
    (n.classify next).2.2 ≤ next.toList.length := by
  unfold classify
  split
  iterate 4 exact Nat.le_refl 1
  split
  · exact Nat.zero_le _
  · split <;> exact Nat.zero_le _

theorem classify_within (text : List Char) :
    (read text).length + ((read text).classify (text.drop (read text).length).head?).2.2 ≤
      text.length := by
  have short := read_within text
  have suffix := classify_suffix (read text) (text.drop (read text).length).head?
  have next : ∀ behind : List Char, behind.head?.toList.length ≤ behind.length := by
    intro behind
    cases behind <;> simp
  have enough := Nat.le_trans suffix (next _)
  rw [List.length_drop] at enough
  omega

end Numeral

theorem read_number_local (c : Char) : LineLocal (readNumber c) where
  same text rest := by
    have numeral := Numeral.read_line (c :: text) rest
    have behind := drop_line (Numeral.read_within (c :: text)) rest
    have whole := take_line (Numeral.classify_within (c :: text)) rest
    rw [List.cons_append] at numeral behind whole
    simp only [readNumber, numeral, behind, Numeral.classify_line]
    exact congrArg (fun read => (numeric _ _ read, _)) whole
  within text := by
    have short := Numeral.classify_within (c :: text)
    rw [List.length_cons] at short
    exact Nat.sub_le_of_le_add short

theorem read_hex_line (c mark : Char) (text rest : List Char) :
    readHex c mark (text ++ '\n' :: rest) = readHex c mark text := by
  have behind := drop_line (take_while_within isHexDigit text) rest
  simp only [readHex, take_while_line (p := isHexDigit) (by decide), behind]
  cases text.drop (text.takeWhile isHexDigit).length with
  | nil => rfl
  | cons d tail =>
    by_cases long : d = '&' <;> simp [long]

theorem read_hex_within (c mark : Char) (text : List Char) :
    (readHex c mark text).2 ≤ text.length + 1 := by
  have digits := take_while_within isHexDigit text
  simp only [readHex]
  split
  · rename_i tail behind
    have left := congrArg List.length behind
    rw [List.length_drop, List.length_cons] at left
    dsimp only
    omega
  · exact Nat.succ_le_succ digits

theorem following_word_line (text rest : List Char) :
    followingWord (text ++ '\n' :: rest) = followingWord text := by
  have behind := drop_line (take_while_within isGap text) rest
  simp only [followingWord, take_while_line (p := isGap) (by decide), behind,
    take_while_line (p := isWordChar) (by decide)]

theorem following_word_within (text : List Char) : (followingWord text).2 ≤ text.length := by
  have gap := take_while_within isGap text
  have word := take_while_within isWordChar (text.drop (text.takeWhile isGap).length)
  rw [List.length_drop] at word
  simp only [followingWord]
  omega

theorem read_word_local (afterDot : Bool) (c : Char) : LineLocal (readWord afterDot c) where
  same text rest := by
    have behind := drop_line (take_while_within isWordChar text) rest
    have mark : ∀ tail : List Char,
        (tail ++ '\n' :: rest).head?.bind Kind.ofMark? = tail.head?.bind Kind.ofMark? := by
      intro tail
      cases tail <;> rfl
    simp only [readWord, take_while_line (p := isWordChar) (by decide), behind, line_length_line,
      following_word_line, mark]
  within text := by
    have word := take_while_within isWordChar text
    have next := following_word_within (text.drop (text.takeWhile isWordChar).length)
    rw [List.length_drop] at next
    simp only [readWord]
    split
    · exact take_while_within _ text
    · split
      · split
        · dsimp only
          omega
        · exact word
      · split
        · rename_i kind marked
          refine Nat.lt_of_not_le fun full => ?_
          rw [List.drop_eq_nil_of_le full] at marked
          cases marked
        · exact word

theorem read_directive_local : LineLocal readDirective where
  same text rest := by
    have behind := drop_line (take_while_within isWordChar text) rest
    simp only [readDirective, take_while_line (p := isWordChar) (by decide), behind,
      following_word_line]
  within text := by
    have word := take_while_within isWordChar text
    have next := following_word_within (text.drop (text.takeWhile isWordChar).length)
    rw [List.length_drop] at next
    simp only [readDirective]
    have both : (text.takeWhile isWordChar).length +
        (followingWord (text.drop (text.takeWhile isWordChar).length)).2 ≤ text.length := by omega
    split
    iterate 5 exact word
    · split
      · exact both
      · exact word
    · split
      · exact both
      · exact word
    · exact word

theorem symbol_line (c : Char) (text rest : List Char) :
    symbol? c (text ++ '\n' :: rest) = symbol? c text := by
  fun_cases symbol? c text
  case case15 | case18 | case20 | case22 | case24 | case29 | case33 =>
    cases text <;> simp_all [symbol?]
  case case28 tail single | case32 tail single => cases tail <;> simp_all [symbol?]
  case case34 => simp_all [symbol?]
  all_goals rfl

theorem symbol_within (c : Char) (text : List Char) :
    ∀ found, symbol? c text = some found → found.2 ≤ text.length := by
  intro found
  fun_cases symbol? c text
  case case34 => exact fun same => nomatch same
  all_goals
    intro same
    cases same
    simp

theorem read_symbol_local (c : Char) : LineLocal (readSymbol c) where
  same text rest := by
    unfold readSymbol
    rw [symbol_line]
  within text := by
    unfold readSymbol
    split
    · rename_i symbol length found
      exact symbol_within c text _ found
    · exact Nat.zero_le _

theorem read_sign_local (c : Char) : LineLocal (readSign c) where
  same text rest := by
    fun_cases readSign c text
    case case1 tail => exact read_hex_line '&' 'h' tail rest
    case case2 tail => exact read_hex_line '&' 'H' tail rest
    case case3 d tail digit =>
      have number := (read_number_local '.').same (d :: tail) rest
      simpa [readSign, digit] using number
    case case4 d tail other => simp [readSign, other]
    case case5 lower upper point =>
      -- A dot at the end of a line meets a character that is no digit, instead of none.
      have symbol := (read_symbol_local c).same text rest
      cases text with
      | nil =>
        by_cases dot : c = '.'
        · subst dot
          rfl
        · simpa [readSign, dot] using symbol
      | cons d tail =>
        have other : c ≠ '.' := fun dot => point d tail dot rfl
        rw [← symbol, List.cons_append, readSign]
        · simpa using lower
        · simpa using upper
        · exact fun _ _ dot => absurd dot other
  within text := by
    fun_cases readSign c text
    case case1 tail => exact read_hex_within '&' 'h' tail
    case case2 tail => exact read_hex_within '&' 'H' tail
    case case3 d tail _ => exact (read_number_local '.').within (d :: tail)
    case case4 => exact Nat.zero_le _
    case case5 => exact (read_symbol_local c).within text

theorem choose_local {choice : Prop} [Decidable choice] {reader other : List Char → Reading × Nat}
    (first : LineLocal reader) (second : LineLocal other) :
    LineLocal fun text => if choice then reader text else other text := by
  by_cases chosen : choice
  · simpa only [if_pos chosen] using first
  · simpa only [if_neg chosen] using second

theorem read_next_local (afterDot : Bool) (c : Char) : LineLocal (readNext afterDot c) := by
  refine choose_local (constant_local .blank) ?_
  refine choose_local (constant_local (.token .newline none)) ?_
  refine choose_local comment_local ?_
  refine choose_local read_string_local ?_
  refine choose_local read_directive_local ?_
  refine choose_local (constant_local (.token (.word .print) none)) ?_
  refine choose_local (read_number_local c) ?_
  exact choose_local (read_word_local afterDot c) (read_sign_local c)

def lineEnd : Piece :=
  ⟨.token .newline none, ['\n']⟩

theorem pieces_line_end (afterDot : Bool) (rest : List Char) :
    pieces afterDot ('\n' :: rest) = lineEnd :: pieces false rest := by
  rw [pieces]
  rfl

theorem read_next_line {afterDot : Bool} {c : Char} {text : List Char} {reading : Reading}
    {length : Nat} (read : readNext afterDot c text = (reading, length)) (rest : List Char) :
    readNext afterDot c (text ++ '\n' :: rest) = (reading, length) ∧ length ≤ text.length := by
  refine ⟨((read_next_local afterDot c).same text rest).trans read, ?_⟩
  have within := (read_next_local afterDot c).within text
  rwa [read] at within

theorem pieces_line (afterDot : Bool) (text rest : List Char) :
    pieces afterDot (text ++ '\n' :: rest) =
      pieces afterDot text ++ lineEnd :: pieces false rest := by
  fun_induction pieces afterDot text with
  | case1 afterDot => exact pieces_line_end afterDot rest
  | case2 afterDot c text length behind gap tail message value read piece ih =>
    -- Blanks and message behind `#error` end with the line, too.
    obtain ⟨same, within⟩ := read_next_line read rest
    have whole : (text ++ '\n' :: rest).drop length = behind ++ '\n' :: rest :=
      drop_line within rest
    have blanks : (behind ++ '\n' :: rest).takeWhile isGap = gap :=
      take_while_line (by decide) behind rest
    have afterGap : (behind ++ '\n' :: rest).drop gap.length = tail ++ '\n' :: rest :=
      drop_line (take_while_within isGap behind) rest
    have words : (tail ++ '\n' :: rest).takeWhile (· != '\n') = message :=
      take_while_line (by decide) tail rest
    have afterMessage : (tail ++ '\n' :: rest).drop message.length =
        tail.drop message.length ++ '\n' :: rest :=
      drop_line (take_while_within (· != '\n') tail) rest
    rw [List.cons_append, pieces, same]
    simp only [take_line within, if_true, whole, blanks, afterGap, words, afterMessage, ih]
    rfl
  | case3 afterDot c text reading length read piece behind other ih =>
    obtain ⟨same, within⟩ := read_next_line read rest
    rw [List.cons_append, pieces, same]
    simp only [take_line within, drop_line within, if_neg other, List.cons_append]
    exact congrArg (piece :: ·) ih

theorem take_while_append_drop (p : Char → Bool) (text : List Char) :
    text.takeWhile p ++ text.drop (text.takeWhile p).length = text := by
  induction text with
  | nil => rfl
  | cons c text ih =>
    rw [List.takeWhile_cons]
    split
    · exact congrArg (c :: ·) ih
    · rfl

theorem pieces_text (afterDot : Bool) (text : List Char) :
    (pieces afterDot text).flatMap Piece.text = text := by
  fun_induction pieces afterDot text with
  | case1 => rfl
  | case2 afterDot c text length behind gap tail message value read piece ih =>
    have messages : message ++ tail.drop message.length = tail := take_while_append_drop _ tail
    have blanks : gap ++ tail = behind := take_while_append_drop isGap behind
    simp only [List.flatMap_cons, ih, messages, blanks]
    exact congrArg (c :: ·) (List.take_append_drop length text)
  | case3 afterDot c text reading length read piece behind other ih =>
    rw [List.flatMap_cons, ih]
    exact congrArg (c :: ·) (List.take_append_drop length text)

end Lexer

def Position.lowered (lines : Nat) (p : Position) : Position :=
  ⟨p.line + lines, p.column⟩

def Location.lowered (lines : Nat) (l : Location) : Location :=
  ⟨l.file, l.start.lowered lines, l.stop.lowered lines⟩

def Token.lowered (lines : Nat) (t : Token) : Token :=
  { t with location := t.location.lowered lines }

def Located.lowered {α : Type} (lines : Nat) (e : Located α) : Located α :=
  ⟨e.cause, e.location.lowered lines⟩

theorem Position.lowered_after (lines : Nat) (p : Position) (text : List Char) :
    (p.lowered lines).after text = (p.after text).lowered lines := by
  induction text generalizing p with
  | nil => rfl
  | cons c text ih =>
    have step : (p.lowered lines).step c = (p.step c).lowered lines := by
      unfold Position.step
      split
      · simp only [lowered, Position.mk.injEq, and_true]
        omega
      · rfl
    change ((p.lowered lines).step c).after text = _
    rw [step, ih]
    rfl

theorem Position.line_after (p : Position) (text : List Char) :
    (p.after text).line = p.line + text.count '\n' := by
  induction text generalizing p with
  | nil => rfl
  | cons c text ih =>
    change ((p.step c).after text).line = _
    rw [ih, List.count_cons]
    unfold Position.step
    split
    · rename_i same
      subst same
      simp only [beq_self_eq_true, if_true]
      omega
    · rename_i other
      simp [other]

namespace Lexer

theorem locate_lowered (file : String) (lines : Nat) (p : Position) (text : List Piece) :
    locate file (p.lowered lines) text =
      ⟨(locate file p text).tokens.map (Token.lowered lines),
        (locate file p text).errors.map (Located.lowered lines)⟩ := by
  induction text generalizing p with
  | nil => rfl
  | cons piece rest ih =>
    obtain ⟨reading, text⟩ := piece
    have later := ih (p.after text)
    simp only [locate, Position.lowered_after, later]
    cases reading <;> rfl

theorem locate_append (file : String) (p stop : Position) (first : List Piece)
    (ends : p.after (first.flatMap Piece.text) = stop) :
    ∃ tokens, (locate file p first).tokens = tokens ++ [Token.eofAt ⟨file, stop, stop⟩] ∧
      ∀ last, locate file p (first ++ last) =
        ⟨tokens ++ (locate file stop last).tokens,
          (locate file p first).errors ++ (locate file stop last).errors⟩ := by
  induction first generalizing p with
  | nil =>
    cases ends
    exact ⟨[], rfl, fun _ => rfl⟩
  | cons piece rest ih =>
    obtain ⟨reading, text⟩ := piece
    rw [List.flatMap_cons, Position.after_append] at ends
    obtain ⟨tokens, closed, followed⟩ := ih (p.after text) ends
    cases reading with
    | token kind literal =>
      refine ⟨⟨kind, String.ofList text, literal, ⟨file, p, p.after text⟩⟩ :: tokens, ?_, ?_⟩
      · simp only [locate, closed, List.cons_append]
      · intro last
        simp only [List.cons_append, locate, followed last]
    | fault cause =>
      refine ⟨tokens, closed, ?_⟩
      intro last
      simp only [List.cons_append, locate, followed last]
    | blank | comment => exact ⟨tokens, closed, followed⟩

theorem locate_line_end (file : String) (p : Position) (rest : List Piece) :
    locate file p (lineEnd :: rest) =
      ⟨⟨.newline, "\n", none, ⟨file, p, ⟨p.line + 1, 1⟩⟩⟩ ::
          (locate file ⟨p.line + 1, 1⟩ rest).tokens,
        (locate file ⟨p.line + 1, 1⟩ rest).errors⟩ :=
  rfl

theorem without_mark_line (text rest : List Char) :
    withoutMark (text ++ '\n' :: rest) = withoutMark text ++ '\n' :: rest := by
  cases text with
  | nil => rfl
  | cons c text =>
    by_cases mark : c = '\ufeff'
    · subst mark
      rfl
    · simp [withoutMark, mark]

theorem without_mark_unmarked (text : List Char) (unmarked : text.head? ≠ some '\ufeff') :
    withoutMark text = text := by
  unfold withoutMark
  split
  · exact absurd rfl unmarked
  · rfl

theorem count_without_mark (text : List Char) :
    (withoutMark text).count '\n' = text.count '\n' := by
  unfold withoutMark
  split
  · simp
  · rfl

end Lexer

def endOf (source : String) : Position :=
  (⟨1, 1⟩ : Position).after (Lexer.withoutMark source.toList)

theorem line_end_of (source : String) : (endOf source).line = source.toList.count '\n' + 1 := by
  unfold endOf
  rw [Position.line_after, Lexer.count_without_mark, Nat.add_comm]

/-- Lines are scanned one by one. Of two texts with a line end between them the scan gives the
tokens of the first, the line end in place of the first one's end, and the tokens of the second as
many lines further down as the first one has; and so with the faults. -/
theorem scan_line_by_line (first second file : String)
    (unmarked : second.toList.head? ≠ some '\ufeff') :
    let lines := first.toList.count '\n' + 1
    let stop := endOf first
    (scan first file).tokens.getLast? = some (Token.eofAt ⟨file, stop, stop⟩) ∧
      stop.line = lines ∧
      scan (first ++ "\n" ++ second) file =
        ⟨(scan first file).tokens.dropLast ++
            ⟨.newline, "\n", none, ⟨file, stop, ⟨stop.line + 1, 1⟩⟩⟩ ::
              (scan second file).tokens.map (Token.lowered lines),
          (scan first file).errors ++ (scan second file).errors.map (Located.lowered lines)⟩ := by
  intro lines stop
  have height : stop.line = lines := line_end_of first
  obtain ⟨tokens, closed, followed⟩ := Lexer.locate_append file ⟨1, 1⟩ stop
    (Lexer.pieces false (Lexer.withoutMark first.toList)) (by rw [Lexer.pieces_text]; rfl)
  have whole : (first ++ "\n" ++ second).toList = first.toList ++ '\n' :: second.toList := by simp
  -- Behind the line end the count of lines goes on where the first text stopped.
  have next : (⟨stop.line + 1, 1⟩ : Position) = (⟨1, 1⟩ : Position).lowered lines := by
    rw [height, Nat.add_comm]
    rfl
  have ended : (scan first file).tokens = tokens ++ [Token.eofAt ⟨file, stop, stop⟩] := closed
  refine ⟨by rw [ended]; simp, height, ?_⟩
  rw [ended, List.dropLast_concat]
  unfold scan
  rw [whole, Lexer.without_mark_line, Lexer.pieces_line, followed, Lexer.locate_line_end, next,
    Lexer.locate_lowered, Lexer.without_mark_unmarked second.toList unmarked]

theorem scan_open_string_and_half_keyword :
    scan ("\"open\nend" ++ "\n" ++ "if\nx") "main.brs" =
      ⟨(scan "\"open\nend" "main.brs").tokens.dropLast ++
          ⟨.newline, "\n", none, ⟨"main.brs", ⟨2, 4⟩, ⟨3, 1⟩⟩⟩ ::
            (scan "if\nx" "main.brs").tokens.map (Token.lowered 2),
        (scan "\"open\nend" "main.brs").errors ++
          (scan "if\nx" "main.brs").errors.map (Located.lowered 2)⟩ :=
  (scan_line_by_line "\"open\nend" "if\nx" "main.brs" (by decide)).2.2

end BrightScript
