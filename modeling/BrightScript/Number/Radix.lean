import BrightScript.Number.Decimal
set_option autoImplicit false

namespace BrightScript

def radixDigit (digit : Nat) : Char :=
  if digit < 10 then Char.ofNat ('0'.toNat + digit) else Char.ofNat ('a'.toNat + digit - 10)

def radixDigits (radix : Nat) (n : Nat) : List Char :=
  if n / radix < n ∧ n / radix ≠ 0 then radixDigit (n % radix) :: radixDigits radix (n / radix)
  else [radixDigit (n % radix)]
termination_by n
decreasing_by rename_i smaller; exact smaller.1

def toRadix (value : Int) (radix : Nat) : List Char :=
  if radix = 10 then (toString value).toList
  else
    let digits := (radixDigits radix value.natAbs).reverse
    if value < 0 then '-' :: digits else digits

def radixDigitValue? (radix : Nat) (c : Char) : Option Nat :=
  let value :=
    if c.isDigit then some (c.toNat - '0'.toNat)
    else if c.isAlpha then some (c.toLower.toNat - 'a'.toNat + 10)
    else none
  value.filter (· < radix)

def radixValue? (radix : Nat) (digits : List Char) : Option Nat :=
  digits.foldlM (fun value c => (radixDigitValue? radix c).map (value * radix + ·)) 0

def ofRadix? (radix : Nat) (text : List Char) : Option Int :=
  let (negative, digits) := splitSign text
  if digits.isEmpty then none
  else do
    let magnitude ← radixValue? radix digits
    let value := if negative then -(magnitude : Int) else magnitude
    if Int64.minValue.toInt ≤ value ∧ value ≤ Int64.maxValue.toInt then some value else none

end BrightScript
