import BrightScript.Text.Fold
set_option autoImplicit false

namespace BrightScript

inductive Kind where
  | invalid
  | boolean
  | string
  | integer
  | longInteger
  | float
  | double
  | function
  | interface
  | object
  | dynamic
  | void
  | uninitialized
deriving DecidableEq, Repr, Inhabited

def Kind.name : Kind → String
  | .invalid => "Invalid"
  | .boolean => "Boolean"
  | .string => "String"
  | .integer => "Integer"
  | .longInteger => "LongInteger"
  | .float => "Float"
  | .double => "Double"
  | .function => "Function"
  | .interface => "Interface"
  | .object => "Object"
  | .dynamic => "Dynamic"
  | .void => "Void"
  | .uninitialized => "<uninitialized>"

def Kind.declarable : List Kind :=
  [.invalid, .boolean, .string, .integer, .longInteger, .float, .double, .function, .interface,
    .object, .dynamic, .void]

def Kind.ofTypeName? (name : String) : Option Kind :=
  Kind.declarable.find? fun kind => sameName kind.name name

def Kind.ofMark? : Char → Option Kind
  | '$' => some .string
  | '%' => some .integer
  | '!' => some .float
  | '#' => some .double
  | '&' => some .longInteger
  | _ => none

def Kind.ofDesignator? (name : String) : Option Kind :=
  name.toList.getLast?.bind Kind.ofMark?

theorem designator_folded (name : String) :
    Kind.ofDesignator? (fold name) = Kind.ofDesignator? name := by
  unfold Kind.ofDesignator?
  rw [toList_fold, List.getLast?_map]
  cases name.toList.getLast? with
  | none => rfl
  | some mark => exact kept_lowered Kind.ofMark? (by decide) mark

def Kind.isNumeric : Kind → Bool
  | .integer | .longInteger | .float | .double => true
  | _ => false

end BrightScript
