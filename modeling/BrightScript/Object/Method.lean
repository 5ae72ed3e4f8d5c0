import BrightScript.Heap
set_option autoImplicit false

namespace BrightScript

-- A step on the heap that may fail; a failure leaves what was done before it.
abbrev Access := EStateM Fault Heap

namespace ArrayMethod

def all : List ArrayMethod :=
  [.count, .push, .pop, .peek, .shift, .unshift, .clear, .isEmpty, .append]

def name : ArrayMethod → String
  | .count => "count"
  | .push => "push"
  | .pop => "pop"
  | .peek => "peek"
  | .shift => "shift"
  | .unshift => "unshift"
  | .clear => "clear"
  | .isEmpty => "isEmpty"
  | .append => "append"

def arguments : ArrayMethod → List Argument
  | .push | .unshift => [⟨"value", .dynamic, false⟩]
  | .append => [⟨"array", .object, false⟩]
  | _ => []

def returns : ArrayMethod → Kind
  | .count => .integer
  | .pop | .peek | .shift => .dynamic
  | .isEmpty => .boolean
  | .push | .unshift | .clear | .append => .void

end ArrayMethod

namespace TableMethod

def all : List TableMethod :=
  [.count, .clear, .isEmpty, .doesExist, .delete, .lookup, .addReplace, .keys, .items, .append]

def name : TableMethod → String
  | .count => "count"
  | .clear => "clear"
  | .isEmpty => "isEmpty"
  | .doesExist => "doesExist"
  | .delete => "delete"
  | .lookup => "lookup"
  | .addReplace => "addReplace"
  | .keys => "keys"
  | .items => "items"
  | .append => "append"

def arguments : TableMethod → List Argument
  | .doesExist | .delete | .lookup => [⟨"key", .string, false⟩]
  | .addReplace => [⟨"key", .string, false⟩, ⟨"value", .dynamic, false⟩]
  | .append => [⟨"aa", .object, false⟩]
  | _ => []

def returns : TableMethod → Kind
  | .count => .integer
  | .isEmpty | .doesExist | .delete => .boolean
  | .lookup => .dynamic
  | .keys | .items => .object
  | .clear | .addReplace | .append => .void

end TableMethod

def lengthValue (length : Nat) : Value :=
  .integer (Int32.ofNat (min length (Nat.pow 2 31 - 1)))

def Heap.keyText (h : Heap) : Value → String
  | .scalar (.string key) => key
  | value => h.text value

def appendMismatch (expected found : String) : Fault :=
  .argumentMismatch "append" s!"expected {expected}, got {found}"

def ArrayMethod.run (ref : Nat) (method : ArrayMethod) (arguments : List Value) : Access Value := do
  let first := arguments.headD .invalid
  match method with
  | .count => pure (lengthValue ((← get).array ref).size)
  | .push =>
    modify fun h => h.modifyArray ref (·.push first)
    pure .invalid
  | .pop =>
    let last := ((← get).array ref).back?.getD .invalid
    modify fun h => h.modifyArray ref (·.pop)
    pure last
  | .peek => pure (((← get).array ref).back?.getD .invalid)
  | .shift =>
    let head := ((← get).array ref)[0]?.getD .invalid
    modify fun h => h.modifyArray ref fun elements => elements.extract 1 elements.size
    pure head
  | .unshift =>
    modify fun h => h.modifyArray ref fun elements => #[first] ++ elements
    pure .invalid
  | .clear =>
    modify fun h => h.modifyArray ref fun _ => #[]
    pure .invalid
  | .isEmpty => pure (.boolean ((← get).array ref).isEmpty)
  | .append =>
    match first with
    | .object (.array other) =>
      let items := (← get).array other
      modify fun h => h.modifyArray ref (· ++ items)
      pure .invalid
    | other => throw (appendMismatch "roArray" ((← get).typeName other))

def itemTable (key : String) (value : Value) : Table Value :=
  (Table.empty.insert "key" (.string key)).insert "value" value

def Heap.newItems (h : Heap) : List (String × Value) → List Value × Heap
  | [] => ([], h)
  | (key, value) :: rest =>
    let (item, h) := h.newTable (itemTable key value)
    let (items, h) := h.newItems rest
    (item :: items, h)

def TableMethod.run (ref : Nat) (method : TableMethod) (arguments : List Value) : Access Value := do
  let first := arguments.headD .invalid
  let second := (arguments.drop 1).headD .invalid
  match method with
  | .count => pure (lengthValue ((← get).table ref).size)
  | .clear =>
    modify fun h => h.modifyTable ref fun _ => .empty
    pure .invalid
  | .isEmpty => pure (.boolean ((← get).table ref).isEmpty)
  | .doesExist =>
    let h ← get
    pure (.boolean ((h.table ref).contains (h.keyText first)))
  | .delete =>
    let h ← get
    let key := h.keyText first
    let present := (h.table ref).contains key
    modify fun h => h.modifyTable ref (·.erase key)
    pure (.boolean present)
  | .lookup =>
    let h ← get
    pure (((h.table ref).get? (h.keyText first)).getD .invalid)
  | .addReplace =>
    let key := (← get).keyText first
    modify fun h => h.modifyTable ref (·.insert key second)
    pure .invalid
  | .keys =>
    modifyGet fun h => h.newArray ((h.table ref).keys.map Value.string).toArray
  | .items =>
    modifyGet fun h =>
      let (made, h) := h.newItems (h.table ref).entries
      h.newArray made.toArray
  | .append =>
    match first with
    | .object (.table other) =>
      let pairs := ((← get).table other).entries
      modify fun h => h.modifyTable ref (·.insertAll pairs)
      pure .invalid
    | other => throw (appendMismatch "roAssociativeArray" ((← get).typeName other))

namespace Scalar

def getter (name : String) (returns : Kind) (value : Scalar) : Option Callable :=
  some (.native name [] returns (.constant (.scalar value)))

def boxMethod? (content : Scalar) (name : String) : Option Callable :=
  match name, content with
  | "tostr", _ => getter "toStr" .string (.string content.text)
  | "getstring", .string _ => getter "getString" .string content
  | "len", .string s =>
    getter "len" .integer (.integer (Int32.ofNat (min s.length (Nat.pow 2 31 - 1))))
  | "getint", .integer _ => getter "getInt" .integer content
  | "getlonginteger", .longInteger _ => getter "getLongInteger" .longInteger content
  | "getfloat", .float _ => getter "getFloat" .float content
  | "getdouble", .double _ => getter "getDouble" .double content
  | "getboolean", .boolean _ => getter "getBoolean" .boolean content
  | _, _ => none

end Scalar

def ComponentMember.callable (ref : Nat) (member : ComponentMember) : Callable :=
  .native member.name [] member.returns <| match member.method with
    | .size => .fieldCount ref
    | .fail cause => .fail cause

namespace Heap

def method? (h : Heap) (object : Object) (name : String) : Option Callable :=
  match object with
  | .array ref =>
    (ArrayMethod.all.find? fun method => sameName method.name name).map fun method =>
      .native method.name method.arguments method.returns (.arrayMethod ref method)
  | .table ref =>
    (TableMethod.all.find? fun method => sameName method.name name).map fun method =>
      .native method.name method.arguments method.returns (.tableMethod ref method)
  | .box _ content => content.boxMethod? (fold name)
  | .component ref =>
    ((h.component ref).class_.members.find? fun member => member.name == fold name).map
      (·.callable ref)

def interfaces (h : Heap) : Object → List String
  | .array _ => ["ifArray", "ifArrayGet", "ifArraySet", "ifEnum"]
  | .table _ => ["ifAssociativeArray", "ifEnum"]
  | .box _ content =>
    match content with
    | .string _ => ["ifToStr", "ifString"]
    | .integer _ => ["ifToStr", "ifInt"]
    | .longInteger _ => ["ifToStr", "ifLongInt"]
    | .float _ => ["ifToStr", "ifFloat"]
    | .double _ => ["ifToStr", "ifDouble"]
    | .boolean _ => ["ifToStr", "ifBoolean"]
    | .invalid => ["ifToStr"]
  | .component ref => (h.component ref).class_.interfaces

end Heap

end BrightScript
