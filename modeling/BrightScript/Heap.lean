import BrightScript.Callable
import BrightScript.Number.General
import BrightScript.Table
set_option autoImplicit false

/-!
The shared things of a running program: arrays, associative arrays, components and functions, each
kind in a store of its own. Places are given out once and never taken back.
-/

namespace BrightScript

inductive ComponentMethod where
  | size
  | fail (cause : Fault)
deriving DecidableEq

structure ComponentMember where
  name : String
  returns : Kind
  method : ComponentMethod
deriving DecidableEq

-- A kind of component that the host supplies. One without fields offers nothing but its name,
-- interfaces and member functions; one with fields has them read and written by name.
structure ComponentClass where
  name : String
  interfaces : List String
  fields : Option (Table Value)
  locked : List String
  members : List ComponentMember

structure Component where
  class_ : ComponentClass
  fields : Table Value

instance : Inhabited Component := ⟨⟨⟨"", [], none, [], []⟩, .empty⟩⟩

def ComponentClass.create (c : ComponentClass) : Component :=
  ⟨c, c.fields.getD .empty⟩

structure Heap where
  arrays : Array (Array Value)
  tables : Array (Table Value)
  components : Array Component
  functions : Array Callable
  boxes : Nat

namespace Heap

def empty : Heap := ⟨#[], #[], #[], #[], 0⟩

instance : Inhabited Heap := ⟨empty⟩

def array (h : Heap) (ref : Nat) : Array Value :=
  h.arrays.getD ref #[]

def table (h : Heap) (ref : Nat) : Table Value :=
  h.tables.getD ref .empty

def component (h : Heap) (ref : Nat) : Component :=
  h.components.getD ref default

def function (h : Heap) (ref : Nat) : Callable :=
  h.functions.getD ref default

def newArray (h : Heap) (elements : Array Value) : Value × Heap :=
  (.array h.arrays.size, { h with arrays := h.arrays.push elements })

def newTable (h : Heap) (entries : Table Value) : Value × Heap :=
  (.table h.tables.size, { h with tables := h.tables.push entries })

def newComponent (h : Heap) (component : Component) : Value × Heap :=
  (.object (.component h.components.size), { h with components := h.components.push component })

def newFunction (h : Heap) (callable : Callable) : Value × Heap :=
  (.function h.functions.size, { h with functions := h.functions.push callable })

def newBox (h : Heap) (content : Scalar) : Value × Heap :=
  (.object (.box h.boxes content), { h with boxes := h.boxes + 1 })

def modifyArray (h : Heap) (ref : Nat) (f : Array Value → Array Value) : Heap :=
  { h with arrays := h.arrays.modify ref f }

def modifyTable (h : Heap) (ref : Nat) (f : Table Value → Table Value) : Heap :=
  { h with tables := h.tables.modify ref f }

def modifyComponent (h : Heap) (ref : Nat) (f : Component → Component) : Heap :=
  { h with components := h.components.modify ref f }

end Heap

def Scalar.boxName : Scalar → String
  | .string _ => "roString"
  | .integer _ => "roInt"
  | .longInteger _ => "roLongInteger"
  | .float _ => "roFloat"
  | .double _ => "roDouble"
  | .boolean _ => "roBoolean"
  | .invalid => "roInvalid"

def Scalar.text : Scalar → String
  | .invalid => "invalid"
  | .boolean true => "true"
  | .boolean false => "false"
  | .string s => s
  | .integer v => toString v.toInt
  | .longInteger v => toString v.toInt
  | .float v => formatFloat v.toFloat 7
  | .double v => formatFloat v 15

def Scalar.listed : Scalar → String
  | .string s => s!"\"{s}\""
  | scalar => scalar.text

namespace Heap

def componentName (h : Heap) : Object → String
  | .array _ => "roArray"
  | .table _ => "roAssociativeArray"
  | .box _ content => content.boxName
  | .component ref => (h.component ref).class_.name

def typeName (h : Heap) : Value → String
  | .object object => h.componentName object
  | value => value.kind.name

def listed (h : Heap) : Value → String
  | .scalar s => s.listed
  | .uninitialized => "<UNINITIALIZED>"
  | .function ref => s!"<Function: {(h.function ref).displayName}>"
  | .interface name _ => s!"<Interface: {name}>"
  | .object (.box _ content) => content.listed
  | .object object => s!"<Component: {h.componentName object}>"

def listing (name opening closing : String) (lines : List String) : String :=
  let content := String.join (lines.map fun line => s!"    {line}\n")
  s!"<Component: {name}> =\n{opening}\n{content}{closing}"

def objectText (h : Heap) : Object → String
  | .array ref => listing "roArray" "[" "]" ((h.array ref).toList.map h.listed)
  | .table ref =>
    listing "roAssociativeArray" "\x7b" "\x7d"
      ((h.table ref).entries.map fun (key, value) => s!"{key}: {h.listed value}")
  | .box _ content => content.text
  | .component ref => s!"<Component: {(h.component ref).class_.name}>"

def text (h : Heap) : Value → String
  | .scalar s => s.text
  | .object object => h.objectText object
  | value => h.listed value

end Heap

end BrightScript
