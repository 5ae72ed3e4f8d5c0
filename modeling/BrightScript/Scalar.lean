import BrightScript.Kind
set_option autoImplicit false

namespace BrightScript

inductive Scalar where
  | invalid
  | boolean (value : Bool)
  | string (value : String)
  | integer (value : Int32)
  | longInteger (value : Int64)
  | float (value : Float32)
  | double (value : Float)
deriving DecidableEq, Inhabited

def Scalar.kind : Scalar → Kind
  | .invalid => .invalid
  | .boolean _ => .boolean
  | .string _ => .string
  | .integer _ => .integer
  | .longInteger _ => .longInteger
  | .float _ => .float
  | .double _ => .double

end BrightScript
