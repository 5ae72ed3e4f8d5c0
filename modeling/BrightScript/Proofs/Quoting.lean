import BrightScript.Proofs.Partition
set_option autoImplicit false

namespace BrightScript

def doubled (value : List Char) : List Char :=
  value.flatMap fun c => if c = '"' then ['"', '"'] else [c]

def enquoted (value : String) : String :=
  String.ofList ('"' :: doubled value.toList ++ ['"'])

@[simp]
theorem doubled_nil : doubled [] = [] :=
  rfl

theorem doubled_quote (value : List Char) : doubled ('"' :: value) = '"' :: '"' :: doubled value :=
  rfl

theorem doubled_other {c : Char} (other : c ≠ '"') (value : List Char) :
    doubled (c :: value) = c :: doubled value := by
  simp [doubled, other]

namespace Lexer

theorem string_body_other {c : Char} (other : c ≠ '"') (line : c ≠ '\n') (text : List Char) :
    stringBody? (c :: text) =
      (stringBody? text).map fun (value, length) => (c :: value, length + 1) := by
  rw [stringBody?]
  · exact fun _ quote => absurd quote other
  · exact other
  · exact line

theorem string_body_closed {behind : List Char} (single : behind.head? ≠ some '"') :
    stringBody? ('"' :: behind) = some ([], 1) := by
  cases behind with
  | nil => rfl
  | cons c behind =>
    rw [stringBody?]
    intro rest same
    cases same
    exact single rfl

-- A doubled string is read up to the quote that closes it: each pair of quotes before it is one
-- quote.
theorem string_body_doubled {value behind : List Char} (line : '\n' ∉ value)
    (single : behind.head? ≠ some '"') :
    stringBody? (doubled value ++ '"' :: behind) = some (value, (doubled value).length + 1) := by
  induction value with
  | nil => exact string_body_closed single
  | cons c value ih =>
    have here := List.ne_of_not_mem_cons line
    have later := List.not_mem_of_not_mem_cons line
    by_cases quote : c = '"'
    · subst quote
      simp only [doubled_quote, List.cons_append, stringBody?, ih later, Option.map_some,
        List.length_cons]
    · rw [doubled_other quote, List.cons_append, string_body_other quote here.symm, ih later]
      rfl

theorem string_body_spelled {text value : List Char} {length : Nat}
    (read : stringBody? text = some (value, length)) :
    text.take length = doubled value ++ ['"'] ∧ '\n' ∉ value := by
  fun_induction stringBody? text generalizing value length with
  | case1 | case4 => cases read
  | case2 rest ih =>
    obtain ⟨⟨inner, taken⟩, body, same⟩ := Option.map_eq_some_iff.1 read
    cases same
    obtain ⟨spelled, line⟩ := ih body
    refine ⟨?_, List.not_mem_cons_of_ne_of_not_mem (by decide) line⟩
    rw [List.take_succ_cons, List.take_succ_cons, spelled]
    rfl
  | case3 rest single =>
    cases read
    exact ⟨rfl, List.not_mem_nil⟩
  | case5 c rest double quote feed ih =>
    obtain ⟨⟨inner, taken⟩, body, same⟩ := Option.map_eq_some_iff.1 read
    cases same
    obtain ⟨spelled, line⟩ := ih body
    refine ⟨?_, List.not_mem_cons_of_ne_of_not_mem (fun same => feed same.symm) line⟩
    rw [List.take_succ_cons, spelled, doubled_other quote]
    rfl

end Lexer

theorem doubled_injective {value other : List Char} (line : '\n' ∉ value) (otherLine : '\n' ∉ other)
    (same : doubled value = doubled other) : value = other := by
  have alone : ([] : List Char).head? ≠ some '"' := nofun
  have read := Lexer.string_body_doubled line alone
  rw [same, Lexer.string_body_doubled otherLine alone] at read
  cases read
  rfl

theorem enquoted_inj {value other : String} (line : '\n' ∉ value.toList)
    (otherLine : '\n' ∉ other.toList) : enquoted value = enquoted other ↔ value = other := by
  refine ⟨fun same => ?_, congrArg enquoted⟩
  have texts := List.append_cancel_right (List.cons.inj (String.ofList_injective same)).2
  exact String.toList_injective (doubled_injective line otherLine texts)

namespace Lexer

def Reading.isString : Reading → Bool
  | .token kind _ => kind == .string
  | _ => false

def Piece.Spelled (p : Piece) : Prop :=
  ∀ literal, p.reading = .token .string literal →
    ∃ value, literal = some (.string value) ∧ p.text = '"' :: doubled value.toList ++ ['"'] ∧
      '\n' ∉ value.toList

theorem spelled_other {reading : Reading} (other : reading.isString = false) (text : List Char) :
    Piece.Spelled ⟨reading, text⟩ := by
  intro literal same
  rw [show reading = .token .string literal from same] at other
  cases other

theorem spelled_string (text : List Char) :
    Piece.Spelled ⟨(readString text).1, '"' :: text.take (readString text).2⟩ := by
  unfold readString
  split
  · rename_i value length body
    obtain ⟨spelled, line⟩ := string_body_spelled body
    intro literal same
    cases same
    refine ⟨String.ofList value, rfl, ?_, by rwa [String.toList_ofList]⟩
    rw [String.toList_ofList]
    exact congrArg ('"' :: ·) spelled
  · exact spelled_other rfl _

theorem numeric_no_string {kind : Lexeme} (number : kind ≠ .string) (literal : Option Scalar)
    (text : List Char) : (numeric kind literal text).isString = false := by
  cases literal with
  | none => rfl
  | some value => exact beq_eq_false_iff_ne.2 number

theorem classify_no_string (n : Numeral) (next : Option Char) : (n.classify next).1 ≠ .string := by
  unfold Numeral.classify
  split
  iterate 4 exact nofun
  split
  · exact nofun
  · split <;> exact nofun

theorem number_no_string (c : Char) (text : List Char) : (readNumber c text).1.isString = false :=
  numeric_no_string (classify_no_string _ _) _ _

theorem hex_no_string (c mark : Char) (text : List Char) :
    (readHex c mark text).1.isString = false := by
  unfold readHex
  dsimp only
  split
  · exact numeric_no_string (by decide) _ _
  · exact numeric_no_string (by decide) _ _

theorem word_no_string (afterDot : Bool) (c : Char) (text : List Char) :
    (readWord afterDot c text).1.isString = false := by
  unfold readWord
  dsimp only
  split
  · rfl
  · split
    · split <;> rfl
    · split <;> rfl

theorem directive_no_string (text : List Char) : (readDirective text).1.isString = false := by
  unfold readDirective
  dsimp only
  split
  iterate 5 rfl
  · split <;> rfl
  · split <;> rfl
  · rfl

theorem symbol_no_string (c : Char) (text : List Char) :
    (readSymbol c text).1.isString = false := by
  unfold readSymbol
  split <;> rfl

theorem sign_no_string (c : Char) (text : List Char) : (readSign c text).1.isString = false := by
  fun_cases readSign c text
  case case1 rest => exact hex_no_string _ _ rest
  case case2 rest => exact hex_no_string _ _ rest
  case case3 d rest _ => exact number_no_string '.' (d :: rest)
  case case4 => rfl
  case case5 => exact symbol_no_string c text

theorem read_next_spelled {afterDot : Bool} {c : Char} {text : List Char} {reading : Reading}
    {length : Nat} (read : readNext afterDot c text = (reading, length)) :
    Piece.Spelled ⟨reading, c :: text.take length⟩ := by
  have other {reader : Reading × Nat} (same : reader = (reading, length))
      (none : reader.1.isString = false) : Piece.Spelled ⟨reading, c :: text.take length⟩ := by
    rw [same] at none
    exact spelled_other none _
  unfold readNext at read
  split at read
  · exact other read rfl
  split at read
  · exact other read rfl
  split at read
  · exact other read rfl
  split at read
  · rename_i quote
    have string := spelled_string text
    rw [read] at string
    rwa [beq_iff_eq.1 quote]
  split at read
  · exact other read (directive_no_string text)
  split at read
  · exact other read rfl
  split at read
  · exact other read (number_no_string c text)
  split at read
  · exact other read (word_no_string afterDot c text)
  · exact other read (sign_no_string c text)

theorem pieces_spelled (afterDot : Bool) (text : List Char) :
    ∀ p ∈ pieces afterDot text, p.Spelled := by
  fun_induction pieces afterDot text with
  | case1 => exact fun _ member => absurd member List.not_mem_nil
  | case2 afterDot c text length behind gap tail message value read piece ih =>
    -- The blanks and the message behind `#error` are no string literals.
    simp only [List.forall_mem_cons]
    exact ⟨read_next_spelled read, spelled_other rfl _, spelled_other rfl _, ih⟩
  | case3 afterDot c text reading length read piece behind other ih =>
    rw [List.forall_mem_cons]
    exact ⟨read_next_spelled read, ih⟩

theorem token_of_piece {file : String} {p : Position} {ps : List Piece} {t : Token}
    (member : t ∈ (locate file p ps).tokens) :
    t.kind = .eof ∨ ∃ piece ∈ ps,
      piece.reading = .token t.kind t.literal ∧ t.text = String.ofList piece.text := by
  induction ps generalizing p with
  | nil =>
    rw [List.mem_singleton.1 member]
    exact .inl rfl
  | cons piece rest ih =>
    have later {q : Position} (among : t ∈ (locate file q rest).tokens) : t.kind = .eof ∨
        ∃ other ∈ piece :: rest,
          other.reading = .token t.kind t.literal ∧ t.text = String.ofList other.text :=
      (ih among).imp_right fun ⟨other, inRest, same⟩ =>
        ⟨other, List.mem_cons_of_mem piece inRest, same⟩
    obtain ⟨reading, text⟩ := piece
    cases reading with
    | token kind literal =>
      rcases List.mem_cons.1 member with rfl | among
      · exact .inr ⟨_, List.mem_cons_self, rfl, rfl⟩
      · exact later among
    | fault _ | blank | comment => exact later member

theorem pieces_string {value : List Char} (line : '\n' ∉ value) (afterDot : Bool) :
    pieces afterDot ('"' :: doubled value ++ ['"']) =
      [⟨.token .string (some (.string (String.ofList value))), '"' :: doubled value ++ ['"']⟩] := by
  have read : readNext afterDot '"' (doubled value ++ ['"']) =
      (.token .string (some (.string (String.ofList value))), (doubled value ++ ['"']).length) := by
    have alone : ([] : List Char).head? ≠ some '"' := nofun
    have body := string_body_doubled line alone
    rw [List.length_append]
    change readString _ = _
    rw [readString, body]
    rfl
  rw [List.cons_append, pieces, read]
  simp only [List.take_length, List.drop_length, pieces]
  rfl

end Lexer

theorem string_token_spelled {source file : String} {t : Token}
    (member : t ∈ (scan source file).tokens) (string : t.kind = .string) :
    ∃ value, t.literal = some (.string value) ∧ t.text = enquoted value ∧ '\n' ∉ value.toList := by
  rcases Lexer.token_of_piece member with eof | ⟨piece, among, reading, text⟩
  · rw [string] at eof
    cases eof
  · rw [string] at reading
    obtain ⟨value, literal, spelled, line⟩ := Lexer.pieces_spelled _ _ piece among _ reading
    exact ⟨value, literal, by rw [text, spelled]; rfl, line⟩

theorem scan_enquoted {value : String} (line : '\n' ∉ value.toList) (file : String) :
    let stop := (⟨1, 1⟩ : Position).after (enquoted value).toList
    scan (enquoted value) file =
      ⟨[⟨.string, enquoted value, some (.string value), ⟨file, ⟨1, 1⟩, stop⟩⟩,
        Token.eofAt ⟨file, stop, stop⟩], []⟩ := by
  intro stop
  have text : (enquoted value).toList = '"' :: doubled value.toList ++ ['"'] := String.toList_ofList
  have unmarked : Lexer.withoutMark (enquoted value).toList = (enquoted value).toList := by
    rw [text]
    rfl
  unfold scan
  rw [unmarked, text, Lexer.pieces_string line, String.ofList_toList]
  simp only [Lexer.locate, ← text, String.ofList_toList]
  rfl

/-- A string without a line feed, written between quotes with its own quotes doubled, scans to one
string token with that string as its literal. Conversely every string token of every scan is written
so: of any two, the texts are equal exactly when the literals are. -/
theorem string_literals_round_trip :
    (∀ value file : String, '\n' ∉ value.toList →
      let stop := (⟨1, 1⟩ : Position).after (enquoted value).toList
      scan (enquoted value) file =
        ⟨[⟨.string, enquoted value, some (.string value), ⟨file, ⟨1, 1⟩, stop⟩⟩,
          Token.eofAt ⟨file, stop, stop⟩], []⟩) ∧
      (∀ source file : String, ∀ t ∈ (scan source file).tokens, t.kind = .string →
        ∃ value, t.literal = some (.string value) ∧ t.text = enquoted value ∧
          '\n' ∉ value.toList) ∧
      (∀ source file source' file' : String,
        ∀ t ∈ (scan source file).tokens, ∀ t' ∈ (scan source' file').tokens,
          t.kind = .string → t'.kind = .string → (t.text = t'.text ↔ t.literal = t'.literal)) := by
  refine ⟨fun value file line => scan_enquoted line file,
    fun source file t member string => string_token_spelled member string, ?_⟩
  intro source file source' file' t member t' member' string string'
  obtain ⟨value, literal, text, line⟩ := string_token_spelled member string
  obtain ⟨value', literal', text', line'⟩ := string_token_spelled member' string'
  rw [text, text', literal, literal', enquoted_inj line line', Option.some_inj, Scalar.string.injEq]

theorem quotes_round_trip :
    let stop (column : Nat) : Location := ⟨"main.brs", ⟨1, column⟩, ⟨1, column⟩⟩
    let bare : Token := ⟨.string, "\"a\"", some (.string "a"), ⟨"main.brs", ⟨1, 1⟩, ⟨1, 4⟩⟩⟩
    let quotes : Token :=
      ⟨.string, "\"\"\"a\"\"\"", some (.string "\"a\""), ⟨"main.brs", ⟨1, 1⟩, ⟨1, 8⟩⟩⟩
    scan "\"a\"" "main.brs" = ⟨[bare, Token.eofAt (stop 4)], []⟩ ∧
      scan "\"\"\"a\"\"\"" "main.brs" = ⟨[quotes, Token.eofAt (stop 8)], []⟩ ∧
      (∃ value, quotes.literal = some (.string value) ∧ quotes.text = enquoted value ∧
        '\n' ∉ value.toList) ∧
      (bare.text = quotes.text ↔ bare.literal = quotes.literal) := by
  intro stop bare quotes
  have first : scan (enquoted "a") "main.brs" = ⟨[bare, Token.eofAt (stop 4)], []⟩ :=
    string_literals_round_trip.1 "a" "main.brs" (by decide)
  have second : scan (enquoted "\"a\"") "main.brs" = ⟨[quotes, Token.eofAt (stop 8)], []⟩ :=
    string_literals_round_trip.1 "\"a\"" "main.brs" (by decide)
  have inFirst : bare ∈ (scan (enquoted "a") "main.brs").tokens := by
    rw [first]
    exact List.mem_cons_self
  have inSecond : quotes ∈ (scan (enquoted "\"a\"") "main.brs").tokens := by
    rw [second]
    exact List.mem_cons_self
  exact ⟨first, second, string_literals_round_trip.2.1 _ _ quotes inSecond rfl,
    string_literals_round_trip.2.2 _ _ _ _ bare inFirst quotes inSecond rfl rfl⟩

end BrightScript
