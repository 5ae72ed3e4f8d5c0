import BrightScript.Number.Decimal
import BrightScript.Number.Dyadic
set_option autoImplicit false

/-!
Rendering of doubles with a given number of significant digits, rounded half to even from the exact
value: positional for moderate exponents and with a power of ten otherwise, without superfluous
zeros. The power of ten comes from a rounding to significant digits, and a positional text from
another one, to decimals.
-/

namespace BrightScript

def roundQuotient (numerator denominator : Nat) : Nat :=
  let quotient := numerator / denominator
  let twice := 2 * (numerator % denominator)
  if twice < denominator then quotient
  else if twice = denominator then quotient + quotient % 2
  else quotient + 1

def leadingPower (numerator denominator : Nat) : Int :=
  if denominator ≤ numerator then (digitCount (numerator / denominator) : Int) - 1
  else Int.negOfNat (digitCount ((denominator + numerator - 1) / numerator - 1))

def roundAt (numerator denominator : Nat) (places : Int) : Nat :=
  roundQuotient (numerator * Nat.pow 10 places.toNat) (denominator * Nat.pow 10 (-places).toNat)

structure Significant where
  digits : Nat
  power : Int
deriving DecidableEq, Repr

-- Rounding can carry into a new digit.
def Significant.round (numerator denominator precision : Nat) : Significant :=
  let power := leadingPower numerator denominator
  let digits := roundAt numerator denominator (precision - 1 - power)
  if digits = Nat.pow 10 precision then ⟨Nat.pow 10 (precision - 1), power + 1⟩ else ⟨digits, power⟩

def trimZeros (fraction : List Char) : List Char :=
  (fraction.reverse.dropWhile (· == '0')).reverse

def pointed (whole fraction : List Char) : List Char :=
  match trimZeros fraction with
  | [] => whole
  | kept => whole ++ '.' :: kept

def powerText (power : Int) : List Char :=
  let sign := if power < 0 then '-' else '+'
  let digits := Nat.toDigits 10 power.natAbs
  sign :: (if digits.length < 2 then '0' :: digits else digits)

def Significant.scientific (s : Significant) : List Char :=
  let digits := Nat.toDigits 10 s.digits
  pointed (digits.take 1) (digits.drop 1) ++ 'e' :: powerText s.power

def decimalText (numerator denominator decimals : Nat) : List Char :=
  let digits := Nat.toDigits 10 (roundAt numerator denominator decimals)
  let padded := List.replicate (decimals + 1 - digits.length) '0' ++ digits
  let whole := padded.length - decimals
  pointed (padded.take whole) (padded.drop whole)

def generalText (numerator denominator precision : Nat) : List Char :=
  let significant := Significant.round numerator denominator precision
  if significant.power < -4 ∨ significant.power ≥ precision then significant.scientific
  else decimalText numerator denominator ((precision : Int) - 1 - significant.power).toNat

def formatFloat (x : Float) (precision : Nat) : String :=
  if x.isNaN then "nan"
  else if x.isInf then (if x > 0.0 then "inf" else "-inf")
  else
    let value := Dyadic.ofFloat x
    let precision := max precision 1
    let magnitude :=
      if value.significand = 0 then ['0']
      else
        let (numerator, denominator) := value.ratio
        generalText numerator denominator precision
    String.ofList (if value.negative then '-' :: magnitude else magnitude)

end BrightScript
