import BrightScript.Proofs.Lines
set_option autoImplicit false

namespace BrightScript

def placeBehind (text : List Char) : Position :=
  ⟨text.count '\n' + 1, (text.reverse.takeWhile (· != '\n')).length + 1⟩

theorem place_behind_snoc (text : List Char) (c : Char) :
    placeBehind (text ++ [c]) = (placeBehind text).step c := by
  unfold placeBehind Position.step
  by_cases lineEnd : c = '\n'
  · simp [lineEnd]
  · simp [lineEnd]

theorem place_behind_append (text more : List Char) :
    placeBehind (text ++ more) = (placeBehind text).after more := by
  induction more generalizing text with
  | nil => simp [Position.after]
  | cons c more ih =>
    have split : text ++ c :: more = (text ++ [c]) ++ more := by simp
    rw [split, ih, place_behind_snoc]
    rfl

namespace Lexer

def opensComment : List Char → Bool
  | '\'' :: _ => true
  | a :: b :: c :: rest => fold (String.ofList [a, b, c]) == "rem" && !rest.head?.any isWordChar
  | _ => false

def atLineEnd (text : List Char) : Bool :=
  text.head?.all (· == '\n')

def Reading.isPlain : Reading → Bool
  | .token kind _ => kind != .newline && kind != .eof
  | .fault _ => true
  | .blank | .comment => false

structure Piece.Sound (p : Piece) (behind : List Char) : Prop where
  lineEnd : '\n' ∈ p.text → p = Lexer.lineEnd
  newline : ∀ literal, p.reading = .token .newline literal → p = Lexer.lineEnd
  inside : ∀ literal, p.reading ≠ .token .eof literal
  blank : p.reading = .blank → ∀ c ∈ p.text, c = ' ' ∨ c = '\t' ∨ c = '\r'
  comment : p.reading = .comment → opensComment p.text = true ∧ atLineEnd behind = true

theorem sound_plain {reading : Reading} {text : List Char} (plain : reading.isPlain = true)
    (within : '\n' ∉ text) (behind : List Char) : Piece.Sound ⟨reading, text⟩ behind where
  lineEnd member := absurd member within
  newline literal same := by
    subst same
    cases plain
  inside literal same := by
    subst same
    cases plain
  blank same := by
    subst same
    cases plain
  comment same := by
    subst same
    cases plain

theorem sound_blank {text : List Char} (blanks : ∀ c ∈ text, c = ' ' ∨ c = '\t' ∨ c = '\r')
    (behind : List Char) : Piece.Sound ⟨.blank, text⟩ behind where
  lineEnd member := by
    rcases blanks _ member with other | other | other <;> exact absurd other (by decide)
  newline _ same := nomatch same
  inside _ same := nomatch same
  blank _ := blanks
  comment same := nomatch same

theorem sound_comment {text behind : List Char} (within : '\n' ∉ text)
    (opens : opensComment text = true) (ends : atLineEnd behind = true) :
    Piece.Sound ⟨.comment, text⟩ behind where
  lineEnd member := absurd member within
  newline _ same := nomatch same
  inside _ same := nomatch same
  blank same := nomatch same
  comment _ := ⟨opens, ends⟩

theorem no_line_end_taken {reader : List Char → Reading × Nat} (readsLine : LineLocal reader)
    (text : List Char) : '\n' ∉ text.take (reader text).2 := by
  by_cases several : '\n' ∈ text
  · obtain ⟨line, rest, rfl, first⟩ := List.eq_append_cons_of_mem several
    rw [readsLine.same, take_line (readsLine.within line)]
    exact fun member => first (List.mem_of_mem_take member)
  · exact fun member => several (List.mem_of_mem_take member)

theorem take_line_length (text : List Char) :
    text.take (lineLength text) = text.takeWhile (· != '\n') :=
  (List.prefix_iff_eq_take.1 (List.takeWhile_prefix _)).symm

theorem at_line_end_behind (text : List Char) : atLineEnd (text.drop (lineLength text)) = true := by
  induction text with
  | nil => rfl
  | cons c text ih =>
    unfold lineLength at ih ⊢
    by_cases ends : c = '\n'
    · simp [ends, atLineEnd]
    · simpa [ends] using ih

theorem comment_sound {c : Char} {text : List Char} (ordinary : c ≠ '\n')
    (opens : opensComment (c :: text.takeWhile (· != '\n')) = true) :
    Piece.Sound ⟨.comment, c :: text.take (lineLength text)⟩ (text.drop (lineLength text)) := by
  refine sound_comment ?_ (by rwa [take_line_length]) (at_line_end_behind text)
  have rest : '\n' ∉ text.take (lineLength text) := no_line_end_taken comment_local text
  exact fun member => (List.mem_cons.1 member).elim (fun same => ordinary same.symm) rest

theorem plain_numeric {kind : Lexeme} (number : kind ≠ .newline ∧ kind ≠ .eof)
    (literal : Option Scalar) (text : List Char) : (numeric kind literal text).isPlain = true := by
  cases literal with
  | none => rfl
  | some value => simp [numeric, Reading.isPlain, number]

theorem classify_kind (n : Numeral) (next : Option Char) :
    (n.classify next).1 ≠ .newline ∧ (n.classify next).1 ≠ .eof := by
  unfold Numeral.classify
  split
  iterate 4 exact ⟨nofun, nofun⟩
  split
  · exact ⟨nofun, nofun⟩
  · split <;> exact ⟨nofun, nofun⟩

theorem plain_number (c : Char) (text : List Char) : (readNumber c text).1.isPlain = true :=
  plain_numeric (classify_kind _ _) _ _

theorem plain_hex (c mark : Char) (text : List Char) : (readHex c mark text).1.isPlain = true := by
  unfold readHex
  dsimp only
  split
  · exact plain_numeric ⟨by decide, by decide⟩ _ _
  · exact plain_numeric ⟨by decide, by decide⟩ _ _

theorem plain_string (text : List Char) : (readString text).1.isPlain = true := by
  unfold readString
  split <;> rfl

theorem plain_directive (text : List Char) : (readDirective text).1.isPlain = true := by
  unfold readDirective
  dsimp only
  split
  iterate 5 rfl
  · split <;> rfl
  · split <;> rfl
  · rfl

theorem plain_symbol (c : Char) (text : List Char) : (readSymbol c text).1.isPlain = true := by
  unfold readSymbol
  split <;> rfl

theorem plain_sign (c : Char) (text : List Char) : (readSign c text).1.isPlain = true := by
  fun_cases readSign c text
  case case1 rest => exact plain_hex _ _ rest
  case case2 rest => exact plain_hex _ _ rest
  case case3 d rest _ => exact plain_number '.' (d :: rest)
  case case4 => rfl
  case case5 => exact plain_symbol c text

theorem word_reading (afterDot : Bool) (c : Char) (text : List Char) :
    (readWord afterDot c text).1.isPlain = true ∨
      readWord afterDot c text = (.comment, lineLength text) ∧
        fold (String.ofList (c :: text.takeWhile isWordChar)) = "rem" := by
  unfold readWord
  dsimp only
  split
  · rename_i remark
    have word := (Bool.and_eq_true_iff.1 remark).1
    exact .inr ⟨rfl, beq_iff_eq.1 word⟩
  · left
    split
    · split <;> rfl
    · split <;> rfl

theorem word_char_on_line {c : Char} (letter : isWordChar c = true) : (c != '\n') = true := by
  refine bne_iff_ne.2 fun same => ?_
  rw [same] at letter
  exact absurd letter (by decide)

theorem no_letter_ahead {text : List Char} (none : text.takeWhile isWordChar = []) :
    (text.takeWhile (· != '\n')).head?.any isWordChar = false := by
  cases text with
  | nil => rfl
  | cons c text =>
    have other : isWordChar c = false := by
      rw [List.takeWhile_cons] at none
      split at none
      · cases none
      · exact eq_false_of_ne_true ‹_›
    by_cases ends : c = '\n' <;> simp [ends, other]

theorem remark_opens {c : Char} {text : List Char}
    (word : fold (String.ofList (c :: text.takeWhile isWordChar)) = "rem") :
    opensComment (c :: text.takeWhile (· != '\n')) = true := by
  have letters : (c :: text.takeWhile isWordChar).map Char.toLower = ['r', 'e', 'm'] := by
    simpa using congrArg String.toList word
  cases text with
  | nil => simp at letters
  | cons d text =>
    by_cases second : isWordChar d = true
    · cases text with
      | nil => simp [second] at letters
      | cons e text =>
        by_cases third : isWordChar e = true
        · simp only [List.takeWhile_cons, second, third, if_true, List.map_cons, List.cons.injEq,
            List.map_eq_nil_iff] at letters
          obtain ⟨r, e', m, none⟩ := letters
          have spelled : fold (String.ofList [c, d, e]) = "rem" := by simp [fold, r, e', m]
          have ahead := no_letter_ahead none
          simp only [List.takeWhile_cons, word_char_on_line second,
            word_char_on_line third, if_true]
          unfold opensComment
          split
          · rfl
          · rename_i same
            cases same
            rw [spelled, ahead]
            rfl
          · rename_i short
            exact absurd rfl (short _ _ _ _)
        · simp [second, third] at letters
    · simp [second] at letters

theorem line_end_sound (behind : List Char) : lineEnd.Sound behind where
  lineEnd _ := rfl
  newline _ _ := rfl
  inside _ same := nomatch same
  blank same := nomatch same
  comment same := nomatch same

theorem read_next_sound {afterDot : Bool} {c : Char} {text : List Char} {reading : Reading}
    {length : Nat} (read : readNext afterDot c text = (reading, length)) :
    Piece.Sound ⟨reading, c :: text.take length⟩ (text.drop length) := by
  have plain (ordinary : c ≠ '\n') (expected : reading.isPlain = true) :
      Piece.Sound ⟨reading, c :: text.take length⟩ (text.drop length) := by
    have within := no_line_end_taken (read_next_local afterDot c) text
    rw [read] at within
    refine sound_plain expected ?_ _
    exact fun member => (List.mem_cons.1 member).elim (fun same => ordinary same.symm) within
  unfold readNext at read
  split at read
  · rename_i blank
    cases read
    exact sound_blank (by simpa [or_assoc] using blank) _
  split at read
  · rename_i ends
    cases read
    rw [beq_iff_eq.1 ends]
    exact line_end_sound text
  rename_i ordinary
  replace ordinary : c ≠ '\n' := fun same => ordinary (beq_iff_eq.2 same)
  split at read
  · rename_i quote
    cases read
    exact comment_sound ordinary (by rw [beq_iff_eq.1 quote]; rfl)
  split at read
  · have expected := plain_string text
    rw [read] at expected
    exact plain ordinary expected
  split at read
  · have expected := plain_directive text
    rw [read] at expected
    exact plain ordinary expected
  split at read
  · cases read
    exact plain ordinary rfl
  split at read
  · have expected := plain_number c text
    rw [read] at expected
    exact plain ordinary expected
  split at read
  · rcases word_reading afterDot c text with expected | ⟨remark, word⟩
    · rw [read] at expected
      exact plain ordinary expected
    · rw [remark] at read
      cases read
      exact comment_sound ordinary (remark_opens word)
  · have expected := plain_sign c text
    rw [read] at expected
    exact plain ordinary expected

def AllSound : List Piece → Prop
  | [] => True
  | p :: rest => p.Sound (rest.flatMap Piece.text) ∧ AllSound rest

theorem pieces_sound (afterDot : Bool) (text : List Char) : AllSound (pieces afterDot text) := by
  fun_induction pieces afterDot text with
  | case1 => trivial
  | case2 afterDot c text length behind gap tail message value read piece ih =>
    have blanks : gap ++ tail = behind := take_while_append_drop isGap behind
    have messages : message ++ tail.drop message.length = tail := take_while_append_drop _ tail
    refine ⟨?_, ?_, ?_, ih⟩
    · have first := read_next_sound read
      simpa only [List.flatMap_cons, pieces_text, messages, blanks] using first
    · refine sound_blank (fun c member => ?_) _
      have space := List.all_eq_true.1 List.all_takeWhile c member
      have either : c = ' ' ∨ c = '\t' := by simpa [isGap] using space
      exact either.imp_right .inl
    · refine sound_plain rfl (fun member => ?_) _
      have other := List.all_eq_true.1 List.all_takeWhile _ member
      exact absurd other (by decide)
  | case3 afterDot c text reading length read piece behind other ih =>
    refine ⟨?_, ih⟩
    rw [pieces_text]
    exact read_next_sound read

end Lexer

inductive Stretch where
  | token (token : Token)
  | fault (error : Located LexFault) (text : List Char)
  | blank (text : List Char)
  | comment (text : List Char)

namespace Stretch

def text : Stretch → List Char
  | .token t => t.text.toList
  | .fault _ text | .blank text | .comment text => text

def token? : Stretch → Option Token
  | .token t => some t
  | _ => none

def error? : Stretch → Option (Located LexFault)
  | .fault error _ => some error
  | _ => none

def location? : Stretch → Option Location
  | .token t => some t.location
  | .fault error _ => some error.location
  | .blank _ | .comment _ => none

def isLineEnd : Stretch → Bool
  | .token t => t.kind == .newline
  | _ => false

structure Fits (file : String) (before : List Char) (stretch : Stretch) (behind : List Char) :
    Prop where
  location : ∀ location, stretch.location? = some location →
    location = ⟨file, placeBehind before, placeBehind (before ++ stretch.text)⟩
  lineEnd : stretch.isLineEnd = true ↔ stretch.text = ['\n']
  line : stretch.isLineEnd = false → '\n' ∉ stretch.text
  inside : ∀ t, stretch = .token t → t.kind ≠ .eof
  blank : ∀ text, stretch = .blank text → ∀ c ∈ text, c = ' ' ∨ c = '\t' ∨ c = '\r'
  comment : ∀ text, stretch = .comment text →
    Lexer.opensComment text = true ∧ Lexer.atLineEnd behind = true

end Stretch

namespace Lexer

def Piece.stretch (file : String) (before : List Char) (p : Piece) : Stretch :=
  let location : Location := ⟨file, placeBehind before, placeBehind (before ++ p.text)⟩
  match p.reading with
  | .token kind literal => .token ⟨kind, String.ofList p.text, literal, location⟩
  | .fault cause => .fault ⟨cause, location⟩ p.text
  | .blank => .blank p.text
  | .comment => .comment p.text

def stretches (file : String) : List Char → List Piece → List Stretch
  | _, [] => []
  | before, p :: rest => p.stretch file before :: stretches file (before ++ p.text) rest

theorem stretch_text (file : String) (before : List Char) (p : Piece) :
    (p.stretch file before).text = p.text := by
  obtain ⟨reading, text⟩ := p
  cases reading with
  | token kind literal => exact String.toList_ofList
  | fault _ | blank | comment => rfl

theorem stretches_text (file : String) (before : List Char) (ps : List Piece) :
    (stretches file before ps).flatMap Stretch.text = ps.flatMap Piece.text := by
  induction ps generalizing before with
  | nil => rfl
  | cons p rest ih => simp only [stretches, List.flatMap_cons, stretch_text, ih]

theorem locate_stretches (file : String) (before : List Char) (ps : List Piece) :
    let stop := placeBehind (before ++ ps.flatMap Piece.text)
    locate file (placeBehind before) ps =
      ⟨(stretches file before ps).filterMap Stretch.token? ++ [Token.eofAt ⟨file, stop, stop⟩],
        (stretches file before ps).filterMap Stretch.error?⟩ := by
  induction ps generalizing before with
  | nil => simp [locate, stretches]
  | cons p rest ih =>
    obtain ⟨reading, text⟩ := p
    have later := ih (before ++ text)
    rw [List.append_assoc] at later
    simp only [locate, stretches, ← place_behind_append, List.flatMap_cons]
    cases reading <;>
      simp [later, Piece.stretch, List.filterMap_cons, Stretch.token?, Stretch.error?]

theorem stretch_fits {p : Piece} {behind : List Char} (sound : p.Sound behind) (file : String)
    (before : List Char) : (p.stretch file before).Fits file before behind := by
  have text := stretch_text file before p
  obtain ⟨reading, own⟩ := p
  -- A line feed in the text makes the piece a line end, and a line end is nothing but a line feed.
  have ends : (Piece.stretch file before ⟨reading, own⟩).isLineEnd = true ↔
      (⟨reading, own⟩ : Piece) = lineEnd := by
    constructor
    · intro newline
      cases reading with
      | token kind literal =>
        cases beq_iff_eq.1 newline
        exact sound.newline literal rfl
      | fault _ | blank | comment => cases newline
    · intro same
      cases same
      rfl
  refine ⟨?_, ?_, ?_, ?_, ?_, ?_⟩
  · intro location own
    rw [text]
    cases reading with
    | token _ _ | fault _ =>
      cases own
      rfl
    | blank | comment => cases own
  · rw [ends, text]
    constructor
    · intro same
      cases same
      rfl
    · intro feed
      exact sound.lineEnd (feed ▸ List.mem_singleton_self _)
  · intro other member
    rw [text] at member
    rw [ends.2 (sound.lineEnd member)] at other
    cases other
  · intro t same kind
    cases reading with
    | token _ literal =>
      cases same
      cases kind
      exact sound.inside literal rfl
    | fault _ | blank | comment => cases same
  · intro text same
    cases reading with
    | blank =>
      cases same
      exact sound.blank rfl
    | token _ _ | fault _ | comment => cases same
  · intro text same
    cases reading with
    | comment =>
      cases same
      exact sound.comment rfl
    | token _ _ | fault _ | blank => cases same

theorem stretches_fit {ps : List Piece} (sound : AllSound ps) (file : String)
    (before : List Char) (firsts lasts : List Stretch) (stretch : Stretch)
    (split : stretches file before ps = firsts ++ stretch :: lasts) :
    stretch.Fits file (before ++ firsts.flatMap Stretch.text) (lasts.flatMap Stretch.text) := by
  induction ps generalizing before firsts with
  | nil => cases firsts <;> cases split
  | cons p rest ih =>
    cases firsts with
    | nil =>
      cases split
      rw [stretches_text]
      simpa using stretch_fits sound.1 file before
    | cons first firsts =>
      obtain ⟨rfl, later⟩ := List.cons.inj split
      have fits := ih sound.2 (before ++ p.text) firsts later
      simpa only [List.flatMap_cons, stretch_text, List.append_assoc] using fits

end Lexer

namespace Stretch

theorem count_line_ends (stretches : List Stretch)
    (alone : ∀ stretch ∈ stretches, (stretch.isLineEnd = true ↔ stretch.text = ['\n']) ∧
      (stretch.isLineEnd = false → '\n' ∉ stretch.text)) :
    ((stretches.filterMap token?).filter (·.kind == .newline)).length =
      (stretches.flatMap Stretch.text).count '\n' := by
  induction stretches with
  | nil => rfl
  | cons stretch rest ih =>
    have later := ih fun other member => alone other (List.mem_cons_of_mem _ member)
    obtain ⟨lineEnd, line⟩ := alone stretch List.mem_cons_self
    rw [List.flatMap_cons, List.count_append, ← later]
    cases ends : stretch.isLineEnd with
    | true =>
      cases stretch with
      | token t =>
        have newline : (t.kind == .newline) = true := ends
        simp [token?, newline, lineEnd.1 ends, Nat.add_comm]
      | fault _ _ | blank _ | comment _ => cases ends
    | false =>
      rw [List.count_eq_zero_of_not_mem (line ends), Nat.zero_add]
      cases stretch with
      | token t =>
        have other : (t.kind == .newline) = false := ends
        simp [token?, other]
      | fault _ _ | blank _ | comment _ => simp [List.filterMap_cons, token?]

end Stretch

/-- A scan divides its source into tokens, faults, blanks and comments, with nothing lost and
nothing read twice. Every line feed is a token of its own, the end of the text is the last token and
the only one of its kind, and tokens and faults stand exactly where they say. -/
theorem scan_partitions_source (source file : String) :
    let text := Lexer.withoutMark source.toList
    let finish := Token.eofAt ⟨file, placeBehind text, placeBehind text⟩
    ∃ stretches : List Stretch,
      stretches.flatMap Stretch.text = text ∧
      (scan source file).tokens = stretches.filterMap Stretch.token? ++ [finish] ∧
      (scan source file).errors = stretches.filterMap Stretch.error? ∧
      (∀ before stretch behind, stretches = before ++ stretch :: behind →
        stretch.Fits file (before.flatMap Stretch.text) (behind.flatMap Stretch.text)) ∧
      ((scan source file).tokens.filter (·.kind == .newline)).length = source.toList.count '\n' ∧
      (scan source file).tokens.filter (·.kind == .eof) = [finish] := by
  intro text finish
  have sound := Lexer.pieces_sound false text
  have whole : ((Lexer.pieces false text).flatMap Lexer.Piece.text) = text :=
    Lexer.pieces_text false text
  have located := Lexer.locate_stretches file [] (Lexer.pieces false text)
  have divided := Lexer.stretches_text file [] (Lexer.pieces false text)
  have fits := Lexer.stretches_fit sound file []
  generalize Lexer.stretches file [] (Lexer.pieces false text) = stretches at *
  rw [whole] at divided located
  have scanned : scan source file =
      ⟨stretches.filterMap Stretch.token? ++ [finish], stretches.filterMap Stretch.error?⟩ :=
    located
  have each : ∀ stretch ∈ stretches, ∃ before behind, stretch.Fits file before behind := by
    intro stretch member
    obtain ⟨before, behind, split⟩ := List.append_of_mem member
    exact ⟨_, _, fits before behind stretch split⟩
  refine ⟨stretches, divided, by rw [scanned], by rw [scanned], ?_, ?_, ?_⟩
  · intro before stretch behind split
    exact fits before behind stretch split
  · have counted := Stretch.count_line_ends stretches fun stretch member =>
      have ⟨_, _, own⟩ := each stretch member
      ⟨own.lineEnd, own.line⟩
    have feeds : text.count '\n' = source.toList.count '\n' :=
      Lexer.count_without_mark source.toList
    rw [scanned, ← feeds, ← divided, ← counted, List.filter_append]
    simp [finish, Token.eofAt]
  · rw [scanned, List.filter_append, List.filter_eq_nil_iff.2]
    · rfl
    · intro t member eof
      obtain ⟨stretch, among, same⟩ := List.mem_filterMap.1 member
      obtain ⟨_, _, own⟩ := each stretch among
      cases stretch with
      | token _ =>
        cases same
        exact own.inside t rfl (beq_iff_eq.1 eof)
      | fault _ _ | blank _ | comment _ => cases same

end BrightScript
