import BrightScript.Text.Fold
set_option autoImplicit false

/-!
Reading decimal numerals. A numeral denotes a whole number times a power of ten, and its double is
the nearest one, ties to even. Words stand for what is no finite number.
-/

namespace BrightScript

def decimalValue (digits : List Char) : Nat :=
  digits.foldl (fun value c => value * 10 + (c.toNat - '0'.toNat)) 0

structure Decimal where
  coefficient : Nat
  exponent : Int
deriving DecidableEq, Repr, Inhabited

def digitCount (n : Nat) : Nat :=
  (Nat.toDigits 10 n).length

-- The nearest double. A number of at least `10 ^ 400` is past every double, and one below
-- `10 ^ (-400)` is nearest to zero; in between the power of ten is small enough to compute with.
def Decimal.toFloat (d : Decimal) : Float :=
  let top := (digitCount d.coefficient : Int) + d.exponent
  if d.coefficient = 0 then 0.0
  else if top > 400 then 1.0 / 0.0
  else if top < -400 then 0.0
  else Float.ofScientific d.coefficient (d.exponent < 0) d.exponent.natAbs

def Decimal.ofDigits (whole fraction : List Char) (power : Int) : Decimal :=
  ⟨decimalValue (whole ++ fraction), power - fraction.length⟩

def signedPower (negative : Bool) (digits : List Char) : Int :=
  if negative then -(decimalValue digits : Int) else decimalValue digits

def isSign (c : Char) : Bool :=
  c == '+' || c == '-'

def splitSign : List Char → Bool × List Char
  | '+' :: rest => (false, rest)
  | '-' :: rest => (true, rest)
  | rest => (false, rest)

def splitDigits (text : List Char) : List Char × List Char :=
  (text.takeWhile Char.isDigit, text.dropWhile Char.isDigit)

def splitFraction : List Char → List Char × List Char
  | '.' :: tail => splitDigits tail
  | rest => ([], rest)

def readPower? : List Char → Option Int
  | [] => some 0
  | mark :: tail =>
    if mark == 'e' || mark == 'E' then
      let (below, power) := splitSign tail
      if !power.isEmpty && power.all Char.isDigit then some (signedPower below power) else none
    else none

-- Reads a whole text of the form `[sign] (digits [. [digits]] | . digits) [e [sign] digits]`.
def readDecimal? (text : List Char) : Option (Bool × Decimal) :=
  let (negative, unsigned) := splitSign text
  let (whole, rest) := splitDigits unsigned
  let (fraction, rest) := splitFraction rest
  if whole.isEmpty && fraction.isEmpty then none
  else (readPower? rest).map fun power => (negative, .ofDigits whole fraction power)

def readWord? (text : List Char) : Option Float :=
  let (negative, word) := splitSign text
  match fold (String.ofList word) with
  | "inf" | "infinity" => some (if negative then -(1.0 / 0.0) else 1.0 / 0.0)
  | "nan" => some (0.0 / 0.0)
  | _ => none

def readFloat? (text : List Char) : Option Float :=
  match readDecimal? text with
  | some (negative, decimal) => some (if negative then -decimal.toFloat else decimal.toFloat)
  | none => readWord? text

end BrightScript
