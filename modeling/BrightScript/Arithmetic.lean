import BrightScript.Fault
import BrightScript.Number.Dyadic
import BrightScript.Operator
import BrightScript.Value
set_option autoImplicit false

/-!
Operators on values. Two numbers are widened to a common kind along integer, long integer, float,
double. Floats are computed as doubles and rounded once. Comparison is defined for all values.
-/

namespace BrightScript

namespace Scalar

def toFloat? : Scalar → Option Float
  | .integer v => some (Float.ofInt v.toInt)
  | .longInteger v => some (Float.ofInt v.toInt)
  | .float v => some v.toFloat
  | .double v => some v
  | _ => none

def toInt64? : Scalar → Option Int64
  | .integer v => some v.toInt64
  | .longInteger v => some v
  | .float v => some (floatToInt64 v.toFloat)
  | .double v => some (floatToInt64 v)
  | _ => none

end Scalar

def Value.toFloat? (v : Value) : Option Float :=
  v.scalar?.bind Scalar.toFloat?

def Value.toInt64? (v : Value) : Option Int64 :=
  v.scalar?.bind Scalar.toInt64?

inductive Operands where
  | integer (a b : Int32)
  | longInteger (a b : Int64)
  | float (a b : Float)
  | double (a b : Float)

def operands? (left right : Scalar) : Option Operands :=
  match left, right with
  | .integer a, .integer b => some (.integer a b)
  | .integer a, .longInteger b => some (.longInteger a.toInt64 b)
  | .longInteger a, .integer b => some (.longInteger a b.toInt64)
  | .longInteger a, .longInteger b => some (.longInteger a b)
  | .double a, other => other.toFloat?.map (.double a)
  | other, .double b => other.toFloat?.map (.double · b)
  | .float a, other => other.toFloat?.map (.float a.toFloat)
  | other, .float b => other.toFloat?.map (.float · b.toFloat)
  | _, _ => none

namespace Operands

def add : Operands → Scalar
  | .integer a b => .integer (a + b)
  | .longInteger a b => .longInteger (a + b)
  | .float a b => .float (a + b).toFloat32
  | .double a b => .double (a + b)

def subtract : Operands → Scalar
  | .integer a b => .integer (a - b)
  | .longInteger a b => .longInteger (a - b)
  | .float a b => .float (a - b).toFloat32
  | .double a b => .double (a - b)

def multiply : Operands → Scalar
  | .integer a b => .integer (a * b)
  | .longInteger a b => .longInteger (a * b)
  | .float a b => .float (a * b).toFloat32
  | .double a b => .double (a * b)

def real : Operands → Bool × Float × Float
  | .integer a b => (false, Float.ofInt a.toInt, Float.ofInt b.toInt)
  | .longInteger a b => (true, Float.ofInt a.toInt, Float.ofInt b.toInt)
  | .float a b => (false, a, b)
  | .double a b => (true, a, b)

def applyReal (f : Float → Float → Float) (pair : Operands) : Scalar :=
  match pair.real with
  | (true, a, b) => .double (f a b)
  | (false, a, b) => .float (f a b).toFloat32

def divide : Operands → Scalar :=
  applyReal (· / ·)

def power : Operands → Scalar :=
  applyReal Float.pow

def integerDivide : Operands → Except Fault Scalar
  | .integer a b => if b = 0 then .error .divideByZero else .ok (.integer (a / b))
  | .longInteger a b => if b = 0 then .error .divideByZero else .ok (.longInteger (a / b))
  | .float a b | .double a b =>
    if b == 0.0 then .error .divideByZero else .ok (.integer (floatToInt32 (a / b)))

def modulo : Operands → Except Fault Scalar
  | .integer a b => if b = 0 then .error .divideByZero else .ok (.integer (a % b))
  | .longInteger a b => if b = 0 then .error .divideByZero else .ok (.longInteger (a % b))
  | .float a b => .ok (.float (floatRemainder a b).toFloat32)
  | .double a b => .ok (.double (floatRemainder a b))

def leftShift? : Operands → Option Scalar
  | .integer a b => some (.integer (a <<< b))
  | .longInteger a b => some (.longInteger (a <<< b))
  | _ => none

def rightShift? : Operands → Option Scalar
  | .integer a b => some (.integer (a >>> b))
  | .longInteger a b => some (.longInteger (a >>> b))
  | _ => none

end Operands

def mismatch (symbol : String) (left right : Value) : Fault :=
  .typeMismatch symbol left.kind (some right.kind)

def orMismatch (op : BinaryOp) (left right : Value) (result : Option Scalar) :
    Except Fault Scalar :=
  match result with
  | some scalar => .ok scalar
  | none => .error (mismatch op.symbol left right)

def Value.operands? (left right : Value) : Option Operands :=
  match left, right with
  | .scalar a, .scalar b => BrightScript.operands? a b
  | _, _ => none

def arithmetic (op : BinaryOp) (left right : Value) : Except Fault Scalar :=
  match left.operands? right with
  | none => .error (mismatch op.symbol left right)
  | some pair =>
    match op with
    | .add => .ok pair.add
    | .subtract => .ok pair.subtract
    | .multiply => .ok pair.multiply
    | .divide => .ok pair.divide
    | .integerDivide => pair.integerDivide
    | .modulo => pair.modulo
    | .power => .ok pair.power
    | .leftShift => orMismatch op left right pair.leftShift?
    | .rightShift => orMismatch op left right pair.rightShift?
    | _ => .error (mismatch op.symbol left right)

def addition (left right : Value) : Except Fault Scalar :=
  match left, right with
  | .scalar (.string a), .scalar (.string b) => .ok (.string (a ++ b))
  | _, _ => arithmetic .add left right

def logical (op : BinaryOp) (ofBool : Bool → Bool → Bool) (ofInteger : Int32 → Int32 → Int32)
    (ofLong : Int64 → Int64 → Int64) (left right : Value) : Except Fault Scalar :=
  match left, right with
  | .scalar (.boolean a), .scalar (.boolean b) => .ok (.boolean (ofBool a b))
  | _, _ =>
    match left.operands? right with
    | some (.integer a b) => .ok (.integer (ofInteger a b))
    | some (.longInteger a b) => .ok (.longInteger (ofLong a b))
    | _ => .error (mismatch op.symbol left right)

def floatOrder (a b : Float) : Option Ordering :=
  if a < b then some .lt
  else if b < a then some .gt
  else if a == b then some .eq
  else none

inductive Comparison where
  | ordered (order : Option Ordering)
  | equality (equal : Bool)

def orderOf {α : Type} [LT α] [DecidableEq α] [DecidableLT α] (a b : α) : Ordering :=
  if a < b then .lt else if a = b then .eq else .gt

def identical (left right : Value) : Bool :=
  match left, right with
  | .scalar .invalid, .scalar .invalid => true
  | .object _, _ | .function _, _ | .interface _ _, _ => left.same right
  | _, _ => false

def comparison (left right : Value) : Comparison :=
  match left, right with
  | .scalar (.string a), .scalar (.string b) => .ordered (some (orderOf a b))
  | .scalar (.boolean a), .scalar (.boolean b) => .equality (a == b)
  | _, _ =>
    match left.operands? right with
    | some (.integer a b) => .ordered (some (orderOf a b))
    | some (.longInteger a b) => .ordered (some (orderOf a b))
    | some (.float a b) | some (.double a b) => .ordered (floatOrder a b)
    | none => .equality (identical left right)

def Comparison.holds (op : BinaryOp) : Comparison → Bool
  | .ordered (some order) =>
    match op with
    | .equal => order == .eq
    | .notEqual => order != .eq
    | .less => order == .lt
    | .lessEqual => order != .gt
    | .greater => order == .gt
    | .greaterEqual => order != .lt
    | _ => false
  | .ordered none => op == .notEqual
  | .equality equal =>
    match op with
    | .equal => equal
    | .notEqual => !equal
    | _ => false

-- Whether a comparison holds. Values of kinds that do not go together are unequal and unordered.
def compareValues (op : BinaryOp) (left right : Value) : Bool :=
  (comparison left.unboxed right.unboxed).holds op

def applyBinary (op : BinaryOp) (left right : Value) : Except Fault Value :=
  let left := left.unboxed
  let right := right.unboxed
  Value.scalar <$> match op with
    | .equal | .notEqual | .less | .lessEqual | .greater | .greaterEqual =>
      .ok (.boolean (compareValues op left right))
    | .and => logical op (· && ·) (· &&& ·) (· &&& ·) left right
    | .or => logical op (· || ·) (· ||| ·) (· ||| ·) left right
    | .add => addition left right
    | _ => arithmetic op left right

def negate? : Scalar → Option Scalar
  | .integer v => some (.integer (-v))
  | .longInteger v => some (.longInteger (-v))
  | .float v => some (.float (-v))
  | .double v => some (.double (-v))
  | _ => none

def complement? : Scalar → Option Scalar
  | .boolean v => some (.boolean (!v))
  | .integer v => some (.integer (~~~v))
  | .longInteger v => some (.longInteger (~~~v))
  | _ => none

def applyUnary (op : UnaryOp) (operand : Value) : Except Fault Value :=
  let result := match op with
    | .negate => operand.scalar?.bind negate?
    | .not => operand.scalar?.bind complement?
  match result with
  | some scalar => .ok (.scalar scalar)
  | none => .error (.typeMismatch op.symbol operand.unboxed.kind none)

def Scalar.truth? : Scalar → Option Bool
  | .boolean v => some v
  | .integer v => some (v != 0)
  | .longInteger v => some (v != 0)
  | .float v => some (v != 0.0)
  | .double v => some (v != 0.0)
  | _ => none

def Value.truth? (v : Value) : Option Bool :=
  v.scalar?.bind Scalar.truth?

end BrightScript
