import BrightScript.Object.Method
set_option autoImplicit false

namespace BrightScript

def maxArrayLength : Nat := Nat.pow 2 20

def arrayGet (elements : Array Value) (index : Int64) : Value :=
  if index.toInt < 0 then .invalid else elements[index.toInt.toNat]?.getD .invalid

def arraySet (elements : Array Value) (index : Nat) (value : Value) : Array Value :=
  if index < elements.size then elements.setIfInBounds index value
  else (elements ++ Array.replicate (index - elements.size) Value.invalid).push value

def arrayPlace? (index : Int64) : Option Nat :=
  if 0 ≤ index.toInt ∧ index.toInt < maxArrayLength then some index.toInt.toNat else none

def newFunction (callable : Callable) : Access Value :=
  modifyGet fun h => h.newFunction callable

namespace Object

def indexMismatch {α : Type} (object : Object) (index : Value) : Access α := do
  throw (.typeMismatch ((← get).componentName object ++ "[]") .object (some index.kind))

def memberMissing {α : Type} (object : Object) (name : String) : Access α := do
  throw (.memberNotFound ((← get).componentName object) name)

def methodValue (object : Object) (name : String) : Access Value := do
  match (← get).method? object name with
  | some callable => newFunction callable
  | none => memberMissing object name

-- Reads a member. Entries of an associative array hide its member functions, and one that is
-- neither reads as `invalid`.
def getMember (object : Object) (name : String) : Access Value := do
  match object with
  | .table ref =>
    match ((← get).table ref).get? name with
    | some value => pure value
    | none =>
      match (← get).method? object name with
      | some callable => newFunction callable
      | none => pure .invalid
  | .component ref =>
    match ((← get).component ref).fields.get? name with
    | some value => pure value
    | none => methodValue object name
  | .array _ | .box _ _ => methodValue object name

def setField (ref : Nat) (name : String) (value : Value) : Access Unit := do
  let class_ := ((← get).component ref).class_
  if class_.fields.isNone || class_.locked.any (sameName name) then
    throw (.memberNotFound class_.name name)
  else
    modify fun h => h.modifyComponent ref fun component =>
      { component with fields := component.fields.insert name value }

def setMember (object : Object) (name : String) (value : Value) : Access Unit := do
  match object with
  | .table ref => modify fun h => h.modifyTable ref (·.insert name value)
  | .component ref => setField ref name value
  | .array _ | .box _ _ => memberMissing object name

def getIndex (object : Object) (index : Value) : Access Value := do
  match object with
  | .array ref =>
    match index.toInt64? with
    | some i => pure (arrayGet ((← get).array ref) i)
    | none => indexMismatch object index
  | .table ref =>
    match index.scalar? with
    | some (.string key) => pure ((((← get).table ref).get? key).getD .invalid)
    | _ => indexMismatch object index
  | .component ref =>
    match index with
    | .scalar (.string key) =>
      match ((← get).component ref).fields.get? key with
      | some value => pure value
      | none => throw (.invalidIndexedAccess .object)
    | _ => throw (.invalidIndexedAccess .object)
  | .box _ content => throw (.invalidIndexedAccess content.kind)

def setIndex (object : Object) (index value : Value) : Access Unit := do
  match object with
  | .array ref =>
    match index.toInt64? with
    | some i =>
      match arrayPlace? i with
      | some place => modify fun h => h.modifyArray ref (arraySet · place value)
      | none => throw (.indexOutOfRange i)
    | none => indexMismatch object index
  | .table ref =>
    match index.scalar? with
    | some (.string key) => modify fun h => h.modifyTable ref (·.insert key value)
    | _ => indexMismatch object index
  | .component ref =>
    if ((← get).component ref).class_.fields.isNone then throw (.invalidIndexedAccess .object)
    else match index with
      | .scalar (.string key) => setField ref key value
      | _ => throw (.invalidIndexedAccess index.kind)
  | .box _ content => throw (.invalidIndexedAccess content.kind)

end Object

def Heap.elements? (h : Heap) : Object → Option (List Value)
  | .array ref => some (h.array ref).toList
  | .table ref => some ((h.table ref).keys.map Value.string)
  | .component ref =>
    let component := h.component ref
    if component.class_.fields.isSome then some component.fields.values else none
  | .box _ _ => none

namespace Value

def getMember (target : Value) (name : String) : Access Value := do
  match target with
  | .object o => o.getMember name
  | .interface shown o =>
    match (← get).method? o name with
    | some callable => newFunction callable
    | none => throw (.memberNotFound shown name)
  | .scalar .invalid | .uninitialized | .function _ => throw (.invalidDottedAccess target.kind)
  | .scalar content => (Object.box 0 content).getMember name

def setMember (target : Value) (name : String) (value : Value) : Access Unit :=
  match target with
  | .object o => o.setMember name value
  | other => throw (.invalidDottedAccess other.kind)

def getIndex (target index : Value) : Access Value :=
  match target with
  | .object o | .interface _ o => o.getIndex index
  | other => throw (.invalidIndexedAccess other.kind)

def setIndex (target index value : Value) : Access Unit :=
  match target with
  | .object o | .interface _ o => o.setIndex index value
  | other => throw (.invalidIndexedAccess other.kind)

end Value

end BrightScript
