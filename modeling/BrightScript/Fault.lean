import BrightScript.Kind
import BrightScript.Location
set_option autoImplicit false

namespace BrightScript

inductive Fault where
  | typeMismatch (operator : String) (left : Kind) (right : Option Kind)
  | divideByZero
  | notCallable (kind : Kind)
  | undefinedFunction (name : String)
  | memberNotFound (component name : String)
  | invalidDottedAccess (kind : Kind)
  | invalidIndexedAccess (kind : Kind)
  | indexOutOfRange (index : Int64)
  | argumentMismatch (function detail : String)
  | returnTypeMismatch (function : String) (expected found : Kind)
  | assignmentMismatch (name : String) (found : Kind)
  | invalidCondition (kind : Kind)
  | notIterable (kind : Kind)
  | stackOverflow (depth : Nat)
  | labelNotFound (label : String)
  | exitOutsideLoop (statement : String)
  | thrown (message : String) (number : Int32)
  | output (message : String)
deriving DecidableEq, Repr

namespace Fault

def userNumber : Int32 := 0xFF

def code : Fault → Int32
  | .typeMismatch _ _ _ | .returnTypeMismatch _ _ _ | .assignmentMismatch _ _
  | .invalidCondition _ => 0x18
  | .divideByZero => 0x14
  | .notCallable _ | .undefinedFunction _ => 0xE0
  | .memberNotFound _ _ => 0xF4
  | .invalidDottedAccess _ => 0xEC
  | .invalidIndexedAccess _ | .notIterable _ => 0xDC
  | .indexOutOfRange _ => 0x09
  | .argumentMismatch _ _ => 0xF1
  | .stackOverflow _ => 0xDF
  | .labelNotFound _ => 0x0E
  | .exitOutsideLoop _ => 0x02
  | .thrown _ number => number
  | .output _ => 0xFE

def message : Fault → String
  | .typeMismatch operator left (some right) =>
    s!"Type Mismatch. Operator \"{operator}\" can't be applied to \"{left.name}\" and \"{right.name}\""
  | .typeMismatch operator left none =>
    s!"Type Mismatch. Operator \"{operator}\" can't be applied to \"{left.name}\""
  | .divideByZero => "Divide by Zero"
  | .notCallable kind =>
    s!"Function Call Operator ( ) attempted on non-function of type \"{kind.name}\""
  | .undefinedFunction name =>
    s!"Function Call Operator ( ) attempted on undefined function \"{name}\""
  | .memberNotFound component name =>
    s!"Member function \"{name}\" not found in BrightScript Component \"{component}\""
  | .invalidDottedAccess kind =>
    s!"'Dot' Operator attempted with invalid BrightScript Component or interface reference of type \"{kind.name}\""
  | .invalidIndexedAccess kind => s!"Indexed access attempted on a value of type \"{kind.name}\""
  | .indexOutOfRange index => s!"Subscript {index.toInt} out of range"
  | .argumentMismatch function detail => s!"Argument mismatch calling \"{function}\": {detail}"
  | .returnTypeMismatch function expected found =>
    s!"Return type mismatch in \"{function}\": declared \"{expected.name}\", returned \"{found.name}\""
  | .assignmentMismatch name found =>
    s!"Type Mismatch. Cannot assign a value of type \"{found.name}\" to \"{name}\""
  | .invalidCondition kind => s!"Type Mismatch. Condition must be Boolean, got \"{kind.name}\""
  | .notIterable kind => s!"For Each attempted on non-iterable \"{kind.name}\""
  | .stackOverflow depth => s!"Stack overflow: call depth exceeded {depth}"
  | .labelNotFound label => s!"Label \"{label}\" not found"
  | .exitOutsideLoop statement => s!"\"{statement}\" used outside of a matching loop"
  | .thrown message _ => message
  | .output message => s!"Output error: {message}"

end Fault

abbrev RuntimeError := Located Fault

end BrightScript
