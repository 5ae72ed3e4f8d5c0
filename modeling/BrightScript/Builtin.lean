import BrightScript.Number.Radix
import BrightScript.Object.Access
import BrightScript.Text.Blank
import BrightScript.Text.Case
set_option autoImplicit false

namespace BrightScript

namespace Builtin

def name : Builtin → String
  | .type => "Type"
  | .str => "Str"
  | .strI => "StrI"
  | .val | .valRadix => "Val"
  | .len => "Len"
  | .uCase => "UCase"
  | .lCase => "LCase"
  | .abs => "Abs"
  | .int => "Int"
  | .fix => "Fix"
  | .sqr => "Sqr"
  | .createObject => "CreateObject"
  | .box => "Box"
  | .getGlobalAA => "GetGlobalAA"
  | .getInterface => "GetInterface"

def signature : Builtin → Signature
  | .type => ⟨[⟨"value", .dynamic, false⟩, ⟨"version", .dynamic, true⟩], .string⟩
  | .str => ⟨[⟨"value", .dynamic, false⟩], .string⟩
  | .strI => ⟨[⟨"value", .integer, false⟩, ⟨"radix", .integer, true⟩], .string⟩
  | .val => ⟨[⟨"s", .string, false⟩], .float⟩
  | .valRadix => ⟨[⟨"s", .string, false⟩, ⟨"radix", .integer, false⟩], .integer⟩
  | .len => ⟨[⟨"s", .string, false⟩], .integer⟩
  | .uCase => ⟨[⟨"s", .string, false⟩], .string⟩
  | .lCase => ⟨[⟨"s", .string, false⟩], .string⟩
  | .abs => ⟨[⟨"x", .dynamic, false⟩], .dynamic⟩
  | .int => ⟨[⟨"x", .dynamic, false⟩], .integer⟩
  | .fix => ⟨[⟨"x", .dynamic, false⟩], .integer⟩
  | .sqr => ⟨[⟨"x", .dynamic, false⟩], .float⟩
  | .createObject => ⟨[⟨"name", .string, false⟩], .dynamic⟩
  | .box => ⟨[⟨"value", .dynamic, false⟩], .object⟩
  | .getGlobalAA => ⟨[], .object⟩
  | .getInterface => ⟨[⟨"object", .object, false⟩, ⟨"name", .string, false⟩], .interface⟩

def overload (function : Builtin) : Overload :=
  ⟨function.signature, .native (.builtin function)⟩

def callables : List Callable :=
  ([[.type], [.str], [.strI], [.val, .valRadix], [.len], [.uCase], [.lCase], [.abs], [.int], [.fix],
    [.sqr], [.createObject], [.box], [.getGlobalAA], [.getInterface]] : List (List Builtin)).map
    fun overloads => ⟨(overloads.head?).map name, overloads.map overload⟩

end Builtin

structure Surroundings where
  components : Table ComponentClass
  root : Nat

namespace Builtin

def notNumber (function : String) (value : Value) : Fault :=
  .argumentMismatch function s!"expected a number, got {value.kind.name}"

def number (function : Builtin) (value : Value) : Access Float :=
  match value.toFloat? with
  | some x => pure x
  | none => throw (notNumber function.name value)

def signed (nonNegative : Bool) (text : String) : Value :=
  .string (if nonNegative then " " ++ text else text)

def strOf (value : Value) : Access Value :=
  match value.unboxed with
  | .scalar (.integer v) => pure (signed (0 ≤ v) (Scalar.integer v).text)
  | .scalar (.longInteger v) => pure (signed (0 ≤ v) (Scalar.longInteger v).text)
  | .scalar (.float v) => pure (signed (0.0 ≤ v) (Scalar.float v).text)
  | .scalar (.double v) => pure (signed (0.0 ≤ v) (Scalar.double v).text)
  | other => throw (notNumber "Str" other)

def strIOf (h : Heap) (value : Value) (radix : Option Value) : String :=
  match value with
  | .scalar (.integer v) =>
    match radix with
    | some (.scalar (.integer r)) =>
      if 2 ≤ r ∧ r ≤ 36 then String.ofList (toRadix v.toInt r.toInt.toNat) else ""
    | _ => String.ofList (toRadix v.toInt 10)
  | other => h.text other

def isNumeralMark (c : Char) : Bool :=
  c == '+' || c == '-' || c == '.' || c == 'e' || c == 'E'

-- Extends a prefix of a text character by character. The value is that of the longest prefix seen
-- that is a numeral; the search ends at the first other prefix that does not end with a mark.
def leadingNumberFrom (best : Float) : List Char → List Char → Float
  | _, [] => best
  | taken, c :: rest =>
    let text := taken ++ [c]
    match readFloat? text with
    | some value => leadingNumberFrom value text rest
    | none =>
      if isNumeralMark c then leadingNumberFrom best text rest else best

def leadingNumber (text : String) : Float :=
  leadingNumberFrom 0.0 [] (trimStartChars text.toList)

def valRadixOf (text : String) (radix : Int32) : Int32 :=
  let base := if radix < 0 then 10 else radix.toInt.toNat
  if 2 ≤ base ∧ base ≤ 36 then
    Int32.ofInt ((ofRadix? base (trimChars text.toList)).getD 0)
  else 0

def absOf (value : Value) : Access Value :=
  match value.unboxed with
  | .scalar (.integer v) => pure (.scalar (.integer (if v < 0 then -v else v)))
  | .scalar (.longInteger v) => pure (.scalar (.longInteger (if v < 0 then -v else v)))
  | .scalar (.float v) => pure (.scalar (.float v.abs))
  | .scalar (.double v) => pure (.scalar (.double v.abs))
  | other => throw (notNumber "Abs" other)

def boxContent? : String → Option Scalar
  | "rostring" => some (.string "")
  | "roint" => some (.integer 0)
  | "rolonginteger" => some (.longInteger 0)
  | "rofloat" => some (.float 0.0)
  | "rodouble" => some (.double 0.0)
  | "roboolean" => some (.boolean false)
  | "roinvalid" => some .invalid
  | _ => none

def create (components : Table ComponentClass) (name : String) : Access Value :=
  match fold name with
  | "roarray" => modifyGet fun h => h.newArray #[]
  | "roassociativearray" => modifyGet fun h => h.newTable .empty
  | folded =>
    match boxContent? folded with
    | some content => modifyGet fun h => h.newBox content
    | none =>
      match components.get? name with
      | some class_ => modifyGet fun h => h.newComponent class_.create
      | none => pure .invalid

def boxOf (value : Value) : Access Value :=
  modifyGet fun h => ((coerce? h.boxes value .object).getD value, { h with boxes := h.boxes + 1 })

def interfaceOf (h : Heap) (value : Value) (name : String) : Value :=
  match value with
  | .object object =>
    match (h.interfaces object).find? (sameName name) with
    | some interface => .interface interface object
    | none => .invalid
  | _ => .invalid

def run (around : Surroundings) (function : Builtin) (arguments : List Value) : Access Value := do
  let first := arguments.headD .invalid
  let second := arguments[1]?
  match function with
  | .type => pure (.string ((← get).typeName first))
  | .str => strOf first
  | .strI => pure (.string (strIOf (← get) first second))
  | .val => pure (.scalar (.float (leadingNumber ((← get).keyText first)).toFloat32))
  | .valRadix =>
    let radix := match second with
      | some (.scalar (.integer r)) => r
      | _ => 10
    pure (.integer (valRadixOf ((← get).keyText first) radix))
  | .len => pure (lengthValue ((← get).keyText first).length)
  | .uCase => pure (.string (upperText ((← get).keyText first)))
  | .lCase => pure (.string (lowerText ((← get).keyText first)))
  | .abs => absOf first
  | .int => pure (.integer (floatFloorInt32 (← number function first)))
  | .fix => pure (.integer (floatToInt32 (← number function first)))
  | .sqr => pure (.scalar (.float (← number function first).sqrt.toFloat32))
  | .createObject => create around.components ((← get).keyText first)
  | .box => boxOf first
  | .getGlobalAA => pure (.table around.root)
  | .getInterface =>
    let h ← get
    pure (interfaceOf h first (h.keyText (second.getD .invalid)))

end Builtin

def Native.run (around : Surroundings) (native : Native) (arguments : List Value) : Access Value :=
  match native with
  | .builtin function => function.run around arguments
  | .arrayMethod ref method => method.run ref arguments
  | .tableMethod ref method => method.run ref arguments
  | .fieldCount ref => do pure (lengthValue ((← get).component ref).fields.size)
  | .constant value => pure value
  | .collect => modifyGet fun h => h.newArray arguments.toArray
  | .fail cause => throw cause

end BrightScript
