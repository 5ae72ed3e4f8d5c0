import BrightScript.Arithmetic
set_option autoImplicit false

namespace BrightScript

def Scalar.convert? (s : Scalar) (kind : Kind) : Option Scalar :=
  if s.kind = kind then some s
  else match s, kind with
    | .integer v, .longInteger => some (.longInteger v.toInt64)
    | .integer v, .float => some (.float (Float32.ofInt v.toInt))
    | .integer v, .double => some (.double (Float.ofInt v.toInt))
    | .longInteger v, .integer => some (.integer v.toInt32)
    | .longInteger v, .float => some (.float (Float32.ofInt v.toInt))
    | .longInteger v, .double => some (.double (Float.ofInt v.toInt))
    | .float v, .integer => some (.integer (floatToInt32 v.toFloat))
    | .float v, .longInteger => some (.longInteger (floatToInt64 v.toFloat))
    | .float v, .double => some (.double v.toFloat)
    | .double v, .integer => some (.integer (floatToInt32 v))
    | .double v, .longInteger => some (.longInteger (floatToInt64 v))
    | .double v, .float => some (.float v.toFloat32)
    | _, _ => none

-- A value as one of the given kind, where there is a way. A box that is made gets the mark `fresh`.
def coerce? (fresh : Nat) (value : Value) (kind : Kind) : Option Value :=
  if kind = .dynamic ∨ value.kind = kind then some value
  else match value with
    | .scalar s =>
      if kind = .object then
        if s = .invalid then some value else some (.object (.box fresh s))
      else (s.convert? kind).map .scalar
    | .object (.box _ content) => (content.convert? kind).map .scalar
    | _ => none

end BrightScript
