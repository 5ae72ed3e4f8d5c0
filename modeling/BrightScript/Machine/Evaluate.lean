import BrightScript.Machine.State
set_option autoImplicit false

/-!
Evaluation of expressions, from left to right, each part once. What a call does is a parameter, so
that evaluation is a recursion on the expression.
-/

namespace BrightScript

def Value.receiver? : Value → Option Nat
  | .object (.table ref) => some ref
  | _ => none

def Expr.calledName : Expr → String
  | .variable name _ | .member _ name _ => name
  | _ => "<expression>"

def invoke (call : Call) (function : Value) (name : String) (arguments : List Value)
    (receiver : Option Nat) (location : Location) : Exec Value :=
  match function with
  | .function ref => call ref arguments receiver location
  | .uninitialized => Exec.fail (.undefinedFunction name) location
  | other => Exec.fail (.notCallable other.kind) location

def decided? (op : BinaryOp) (left : Value) : Option Value :=
  match op, left.scalar? with
  | .and, some (.boolean false) => some (.boolean false)
  | .or, some (.boolean true) => some (.boolean true)
  | _, _ => none

mutual

def evaluate (call : Call) : Expr → Exec Value
  | .literal value _ => pure (.scalar value)
  | .binary left op right location => do
    let leftValue ← evaluate call left
    match decided? op leftValue with
    | some result => pure result
    | none =>
      let rightValue ← evaluate call right
      Exec.ofExcept location (applyBinary op leftValue rightValue)
  | .unary op operand location => do
    let value ← evaluate call operand
    Exec.ofExcept location (applyUnary op value)
  | .grouping inner _ => evaluate call inner
  | .variable name _ => Exec.lookup name
  | .call (.member object name memberLocation) arguments location => do
    let target ← evaluate call object
    let function ← Exec.onHeap memberLocation (target.getMember name)
    let values ← evaluateAll call arguments
    invoke call function name values target.receiver? location
  | .call callee arguments location => do
    let function ← evaluate call callee
    let values ← evaluateAll call arguments
    invoke call function callee.calledName values none location
  | .member object name location => do
    let target ← evaluate call object
    Exec.onHeap location (target.getMember name)
  | .index object index location => do
    let target ← evaluate call object
    let indexValue ← evaluate call index
    Exec.onHeap location (target.getIndex indexValue)
  | .array elements _ => do
    let values ← evaluateAll call elements
    Exec.allocate (·.newArray values.toArray)
  | .table members _ => do
    let pairs ← evaluateMembers call members
    Exec.allocate (·.newTable (.ofList pairs))
  | .function function => Exec.allocate (·.newFunction (.user function))

def evaluateAll (call : Call) : List Expr → Exec (List Value)
  | [] => pure []
  | first :: rest => do
    let value ← evaluate call first
    let values ← evaluateAll call rest
    pure (value :: values)

def evaluateMembers (call : Call) : List Member → Exec (List (String × Value))
  | [] => pure []
  | ⟨name, value, _⟩ :: rest => do
    let value ← evaluate call value
    let pairs ← evaluateMembers call rest
    pure ((name, value) :: pairs)

end

def evaluateCondition (call : Call) (condition : Expr) : Exec Bool := do
  let value ← evaluate call condition
  Exec.orFail value.truth? (.invalidCondition value.kind) condition.location

end BrightScript
