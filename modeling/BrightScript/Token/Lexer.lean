import BrightScript.Token
import BrightScript.Text.Blank
import BrightScript.Number.Decimal
import BrightScript.Number.Dyadic
set_option autoImplicit false

/-!
From source text to tokens. The text is first cut into pieces, each a token, a fault, a comment or
a run of blanks; the pieces laid end to end are the text again. Places are then read off the pieces.
A fault never stops the scan: the pieces after it are read as usual.
-/

namespace BrightScript

inductive LexFault where
  | unexpectedCharacter (c : Char)
  | unterminatedString
  | unknownDirective (name : String)
  | malformedNumber (text : String)
deriving DecidableEq, Repr

def LexFault.message : LexFault → String
  | .unexpectedCharacter c => s!"unexpected character '{c}'"
  | .unterminatedString => "unterminated string"
  | .unknownDirective name => s!"unknown preprocessor directive '#{name}'"
  | .malformedNumber text => s!"malformed numeric literal '{text}'"

namespace Lexer

inductive Reading where
  | blank
  | comment
  | token (kind : Lexeme) (literal : Option Scalar)
  | fault (cause : LexFault)
deriving DecidableEq

def isGap (c : Char) : Bool :=
  c == ' ' || c == '\t'

def isWordStart (c : Char) : Bool :=
  c.isAlpha || c == '_'

def isWordChar (c : Char) : Bool :=
  c.isAlphanum || c == '_'

def isHexDigit (c : Char) : Bool :=
  c.isDigit || ('a' ≤ c && c ≤ 'f') || ('A' ≤ c && c ≤ 'F')

def lineLength (text : List Char) : Nat :=
  (text.takeWhile (· != '\n')).length

def symbol? (c : Char) (text : List Char) : Option (Symbol × Nat) :=
  match c with
  | '(' => some (.leftParen, 0)
  | ')' => some (.rightParen, 0)
  | '[' => some (.leftSquare, 0)
  | ']' => some (.rightSquare, 0)
  | '\x7b' => some (.leftBrace, 0)
  | '\x7d' => some (.rightBrace, 0)
  | '.' => some (.dot, 0)
  | ',' => some (.comma, 0)
  | ':' => some (.colon, 0)
  | ';' => some (.semicolon, 0)
  | '^' => some (.caret, 0)
  | '=' => some (.equal, 0)
  | '-' => match text with
    | '=' :: _ => some (.minusEqual, 1)
    | '-' :: _ => some (.minusMinus, 1)
    | _ => some (.minus, 0)
  | '+' => match text with
    | '=' :: _ => some (.plusEqual, 1)
    | '+' :: _ => some (.plusPlus, 1)
    | _ => some (.plus, 0)
  | '*' => match text with
    | '=' :: _ => some (.starEqual, 1)
    | _ => some (.star, 0)
  | '/' => match text with
    | '=' :: _ => some (.slashEqual, 1)
    | _ => some (.slash, 0)
  | '\\' => match text with
    | '=' :: _ => some (.backslashEqual, 1)
    | _ => some (.backslash, 0)
  | '<' => match text with
    | '=' :: _ => some (.lessEqual, 1)
    | '>' :: _ => some (.lessGreater, 1)
    | '<' :: '=' :: _ => some (.leftShiftEqual, 2)
    | '<' :: _ => some (.leftShift, 1)
    | _ => some (.less, 0)
  | '>' => match text with
    | '=' :: _ => some (.greaterEqual, 1)
    | '>' :: '=' :: _ => some (.rightShiftEqual, 2)
    | '>' :: _ => some (.rightShift, 1)
    | _ => some (.greater, 0)
  | _ => none

def stringBody? : List Char → Option (List Char × Nat)
  | [] => none
  | '"' :: '"' :: rest => (stringBody? rest).map fun (value, length) => ('"' :: value, length + 2)
  | '"' :: _ => some ([], 1)
  | '\n' :: _ => none
  | c :: rest => (stringBody? rest).map fun (value, length) => (c :: value, length + 1)

def readString (text : List Char) : Reading × Nat :=
  match stringBody? text with
  | some (value, length) => (.token .string (some (.string (String.ofList value))), length)
  | none => (.fault .unterminatedString, lineLength text)

structure Exponent where
  double : Bool
  negative : Bool
  digits : List Char
  length : Nat

def exponent? : List Char → Option Exponent
  | mark :: rest =>
    if mark.toLower == 'e' || mark.toLower == 'd' then
      let (negative, tail) := splitSign rest
      let digits := tail.takeWhile Char.isDigit
      if digits.isEmpty then none
      else some ⟨mark.toLower == 'd', negative, digits,
        1 + (rest.length - tail.length) + digits.length⟩
    else none
  | [] => none

structure Numeral where
  whole : List Char
  point : Bool
  fraction : List Char
  exponent : Option Exponent

namespace Numeral

def read (text : List Char) : Numeral :=
  let (whole, rest) := splitDigits text
  match rest with
  | '.' :: tail =>
    let (fraction, rest) := splitDigits tail
    ⟨whole, true, fraction, exponent? rest⟩
  | _ => ⟨whole, false, [], exponent? rest⟩

def length (n : Numeral) : Nat :=
  n.whole.length + (if n.point then 1 else 0) + n.fraction.length
    + n.exponent.elim 0 Exponent.length

def digits (n : Numeral) : Nat :=
  n.whole.length + n.fraction.length

def isFractional (n : Numeral) : Bool :=
  n.point || n.exponent.isSome

def isDouble (n : Numeral) : Bool :=
  n.exponent.elim false Exponent.double || n.digits ≥ 10

def toFloat (n : Numeral) : Float :=
  let power := n.exponent.elim 0 fun e => signedPower e.negative e.digits
  (Decimal.ofDigits n.whole n.fraction power).toFloat

-- The whole number of an integer suffix; without a point or a power it is refused from `2 ^ 127`
-- on, and the caller keeps its low bits.
def wholeNumber? (n : Numeral) : Option Int :=
  let value := decimalValue n.whole
  if value < Nat.pow 2 127 then some value else none

def longInteger? (n : Numeral) : Option Int64 :=
  if n.isFractional then some (floatToInt64 n.toFloat) else n.wholeNumber?.map Int64.ofInt

def integer? (n : Numeral) : Option Int32 :=
  if n.isFractional then some (floatToInt32 n.toFloat) else n.wholeNumber?.map Int32.ofInt

-- Kind, value and suffix length of a numeral, by the character behind it, the digits it has and its
-- form. A single is the rounding of the numeral's double.
def classify (n : Numeral) (next : Option Char) : Lexeme × Option Scalar × Nat :=
  match next with
  | some '#' => (.double, some (.double n.toFloat), 1)
  | some '!' => (.float, some (.float n.toFloat.toFloat32), 1)
  | some '&' => (.longInteger, n.longInteger?.map .longInteger, 1)
  | some '%' => (.integer, n.integer?.map .integer, 1)
  | _ =>
    if n.isDouble then (.double, some (.double n.toFloat), 0)
    else if n.isFractional then (.float, some (.float n.toFloat.toFloat32), 0)
    else (.integer, some (.integer (Int32.ofInt (decimalValue n.whole))), 0)

end Numeral

def numeric (kind : Lexeme) (literal : Option Scalar) (text : List Char) : Reading :=
  match literal with
  | some value => .token kind (some value)
  | none => .fault (.malformedNumber (String.ofList text))

def readNumber (c : Char) (text : List Char) : Reading × Nat :=
  let whole := c :: text
  let numeral := Numeral.read whole
  let (kind, literal, suffix) := numeral.classify (whole.drop numeral.length).head?
  let length := numeral.length + suffix
  (numeric kind literal (whole.take length), length - 1)

def hexDigitValue (c : Char) : Nat :=
  if c.isDigit then c.toNat - '0'.toNat else c.toLower.toNat - 'a'.toNat + 10

def hexValue (digits : List Char) : Nat :=
  digits.foldl (fun value c => value * 16 + hexDigitValue c) 0

def hexNumber? (digits : List Char) : Option Nat :=
  if !digits.isEmpty && hexValue digits < Nat.pow 2 64 then some (hexValue digits) else none

def readHex (c mark : Char) (text : List Char) : Reading × Nat :=
  let digits := text.takeWhile isHexDigit
  let value := hexNumber? digits
  match text.drop digits.length with
  | '&' :: _ =>
    (numeric .longInteger (value.map fun v => .longInteger (Int64.ofNat v))
      (c :: mark :: digits ++ ['&']), digits.length + 2)
  | _ =>
    (numeric .integer (value.map fun v => .integer (Int32.ofNat v)) (c :: mark :: digits),
      digits.length + 1)

def followingWord (text : List Char) : String × Nat :=
  let gap := text.takeWhile isGap
  let word := (text.drop gap.length).takeWhile isWordChar
  (fold (String.ofList word), gap.length + word.length)

def readWord (afterDot : Bool) (c : Char) (text : List Char) : Reading × Nat :=
  let tail := text.takeWhile isWordChar
  let word := String.ofList (c :: tail)
  let rest := text.drop tail.length
  if fold word == "rem" && !afterDot then (.comment, lineLength text)
  else match Keyword.ofWord? word with
    | some first =>
      let (second, length) := followingWord rest
      match first.joined? second with
      | some joined => (.token (.word joined) joined.literal?, tail.length + length)
      | none => (.token (.word first) first.literal?, tail.length)
    | none =>
      match rest.head?.bind Kind.ofMark? with
      | some _ => (.token .identifier none, tail.length + 1)
      | none => (.token .identifier none, tail.length)

def readDirective (text : List Char) : Reading × Nat :=
  let tail := text.takeWhile isWordChar
  let name := fold (String.ofList tail)
  let (second, length) := followingWord (text.drop tail.length)
  let made (directive : Directive) (length : Nat) : Reading × Nat :=
    (.token (.directive directive) none, length)
  match name with
  | "const" => made .const tail.length
  | "if" => made .if_ tail.length
  | "elseif" => made .elseIf tail.length
  | "endif" => made .endIf tail.length
  | "error" => made .error tail.length
  | "else" =>
    if second == "if" then made .elseIf (tail.length + length) else made .else_ tail.length
  | "end" =>
    if second == "if" then made .endIf (tail.length + length)
    else (.fault (.unknownDirective name), tail.length)
  | _ => (.fault (.unknownDirective name), tail.length)

def readSymbol (c : Char) (text : List Char) : Reading × Nat :=
  match symbol? c text with
  | some (symbol, length) => (.token (.symbol symbol) none, length)
  | none => (.fault (.unexpectedCharacter c), 0)

def readSign (c : Char) (text : List Char) : Reading × Nat :=
  match c, text with
  | '&', 'h' :: rest => readHex c 'h' rest
  | '&', 'H' :: rest => readHex c 'H' rest
  | '.', d :: _ =>
    if d.isDigit then readNumber c text else (.token (.symbol .dot) none, 0)
  | _, _ => readSymbol c text

def readNext (afterDot : Bool) (c : Char) (text : List Char) : Reading × Nat :=
  if c == ' ' || c == '\t' || c == '\r' then (.blank, 0)
  else if c == '\n' then (.token .newline none, 0)
  else if c == '\'' then (.comment, lineLength text)
  else if c == '"' then readString text
  else if c == '#' then readDirective text
  else if c == '?' then (.token (.word .print) none, 0)
  else if c.isDigit then readNumber c text
  else if isWordStart c then readWord afterDot c text
  else readSign c text

structure Piece where
  reading : Reading
  text : List Char
deriving DecidableEq

def Piece.isDotAfter (afterDot : Bool) (p : Piece) : Bool :=
  match p.reading with
  | .token kind _ => kind == .symbol .dot
  | _ => afterDot

def pieces (afterDot : Bool) : List Char → List Piece
  | [] => []
  | c :: text =>
    let (reading, length) := readNext afterDot c text
    let piece : Piece := ⟨reading, c :: text.take length⟩
    let rest := text.drop length
    if reading = .token (.directive .error) none then
      let gap := rest.takeWhile isGap
      let tail := rest.drop gap.length
      let message := tail.takeWhile (· != '\n')
      let value := Scalar.string (String.ofList (trimEndChars message))
      piece :: ⟨.blank, gap⟩ :: ⟨.token .message (some value), message⟩
        :: pieces false (tail.drop message.length)
    else piece :: pieces (piece.isDotAfter afterDot) rest
termination_by text => text.length
decreasing_by all_goals simp only [List.length_drop, List.length_cons]; omega

end Lexer

structure Scan where
  tokens : List Token
  errors : List (Located LexFault)

namespace Lexer

def locate (file : String) : Position → List Piece → Scan
  | p, [] => ⟨[Token.eofAt ⟨file, p, p⟩], []⟩
  | p, piece :: rest =>
    let stop := p.after piece.text
    let location : Location := ⟨file, p, stop⟩
    let later := locate file stop rest
    match piece.reading with
    | .token kind literal =>
      ⟨⟨kind, String.ofList piece.text, literal, location⟩ :: later.tokens, later.errors⟩
    | .fault cause => ⟨later.tokens, ⟨cause, location⟩ :: later.errors⟩
    | .blank | .comment => later

def withoutMark : List Char → List Char
  | '\ufeff' :: rest => rest
  | text => text

end Lexer

def scan (source file : String) : Scan :=
  Lexer.locate file ⟨1, 1⟩ (Lexer.pieces false (Lexer.withoutMark source.toList))

end BrightScript
