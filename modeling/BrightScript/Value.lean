import BrightScript.Scalar
set_option autoImplicit false

/-!
Run-time values. Scalars are compared by what they are; arrays, associative arrays, components and
functions are shared and live in a heap, and a box is told from another box of the same content by
its mark.
-/

namespace BrightScript

inductive Object where
  | array (ref : Nat)
  | table (ref : Nat)
  | box (mark : Nat) (content : Scalar)
  | component (ref : Nat)
deriving DecidableEq, Inhabited

inductive Value where
  | scalar (scalar : Scalar)
  | uninitialized
  | function (ref : Nat)
  | interface (name : String) (object : Object)
  | object (object : Object)
deriving DecidableEq

namespace Value

def invalid : Value := .scalar .invalid

instance : Inhabited Value := ⟨invalid⟩

def boolean (b : Bool) : Value := .scalar (.boolean b)

def string (s : String) : Value := .scalar (.string s)

def integer (i : Int32) : Value := .scalar (.integer i)

def array (ref : Nat) : Value := .object (.array ref)

def table (ref : Nat) : Value := .object (.table ref)

def kind : Value → Kind
  | .scalar s => s.kind
  | .uninitialized => .uninitialized
  | .function _ => .function
  | .interface _ _ => .interface
  | .object _ => .object

def unboxed : Value → Value
  | .object (.box _ content) => .scalar content
  | value => value

def scalar? : Value → Option Scalar
  | .scalar s => some s
  | .object (.box _ content) => some content
  | _ => none

end Value

def Object.same : Object → Object → Bool
  | .array a, .array b => a == b
  | .table a, .table b => a == b
  | .box a _, .box b _ => a == b
  | .component a, .component b => a == b
  | _, _ => false

-- Equal content, where floating-point numbers are equal by their bits.
def Scalar.same : Scalar → Scalar → Bool
  | .float a, .float b => a.toBits == b.toBits
  | .double a, .double b => a.toBits == b.toBits
  | a, b => a == b

def Value.same : Value → Value → Bool
  | .scalar a, .scalar b => a.same b
  | .uninitialized, .uninitialized => true
  | .function a, .function b => a == b
  | .interface a x, .interface b y => sameName a b && x.same y
  | .object a, .object b => a.same b
  | _, _ => false

end BrightScript
