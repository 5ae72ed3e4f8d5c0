set_option autoImplicit false

namespace BrightScript

structure Dyadic where
  negative : Bool
  significand : Nat
  exponent : Int
deriving DecidableEq, Repr, Inhabited

namespace Dyadic

def ofFloat (x : Float) : Dyadic :=
  let bits := x.toBits.toNat
  let negative : Bool := bits / Nat.pow 2 63 = 1
  let biased : Nat := bits / Nat.pow 2 52 % Nat.pow 2 11
  let fraction : Nat := bits % Nat.pow 2 52
  if biased = 0 then ⟨negative, fraction, -1074⟩
  else ⟨negative, Nat.pow 2 52 + fraction, (biased : Int) - 1075⟩

def powerOfTwo (exponent : Int) : Float :=
  if exponent < -1022 then Float.ofBits (UInt64.ofNat (Nat.pow 2 (exponent + 1074).toNat))
  else Float.ofBits (UInt64.ofNat ((exponent + 1023).toNat * Nat.pow 2 52))

def toFloat (d : Dyadic) : Float :=
  let magnitude := Float.ofNat d.significand * powerOfTwo d.exponent
  if d.negative then -magnitude else magnitude

def ratio (d : Dyadic) : Nat × Nat :=
  (d.significand * Nat.pow 2 d.exponent.toNat, Nat.pow 2 (-d.exponent).toNat)

def remainder (a b : Dyadic) : Dyadic :=
  let exponent := min a.exponent b.exponent
  let dividend := a.significand * Nat.pow 2 (a.exponent - exponent).toNat
  let divisor := b.significand * Nat.pow 2 (b.exponent - exponent).toNat
  ⟨a.negative, dividend % divisor, exponent⟩

def truncate (d : Dyadic) : Int :=
  let (numerator, denominator) := d.ratio
  if d.negative then -((numerator / denominator : Nat) : Int) else (numerator / denominator : Nat)

def floor (d : Dyadic) : Int :=
  let (numerator, denominator) := d.ratio
  if d.negative then -(((numerator + denominator - 1) / denominator : Nat) : Int)
  else (numerator / denominator : Nat)

end Dyadic

def clamp (low high value : Int) : Int :=
  max low (min high value)

def floatToRange (whole : Dyadic → Int) (low high : Int) (x : Float) : Int :=
  if x.isNaN then 0
  else if x.isInf then (if x > 0.0 then high else low)
  else clamp low high (whole (Dyadic.ofFloat x))

def floatToInt32 (x : Float) : Int32 :=
  Int32.ofInt (floatToRange Dyadic.truncate Int32.minValue.toInt Int32.maxValue.toInt x)

def floatToInt64 (x : Float) : Int64 :=
  Int64.ofInt (floatToRange Dyadic.truncate Int64.minValue.toInt Int64.maxValue.toInt x)

def floatFloorInt32 (x : Float) : Int32 :=
  Int32.ofInt (floatToRange Dyadic.floor Int32.minValue.toInt Int32.maxValue.toInt x)

-- The remainder of the division of doubles toward zero, with the sign of the dividend. There is
-- none for an infinite dividend or a zero divisor, and an infinite divisor leaves the dividend.
def floatRemainder (a b : Float) : Float :=
  if a.isNaN || b.isNaN || a.isInf || b == 0.0 then 0.0 / 0.0
  else if b.isInf then a
  else ((Dyadic.ofFloat a).remainder (Dyadic.ofFloat b)).toFloat

end BrightScript
