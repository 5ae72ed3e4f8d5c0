import BrightScript.Token
import BrightScript.Text.Escape
set_option autoImplicit false

namespace BrightScript

mutual

inductive Chunk where
  | text (tokens : List Token)
  | declaration (name value : Token)
  | conditional (condition : Token) (body : List Chunk) (elseIfs : List Branch)
      (otherwise : Option (List Chunk)) (location : Location)
  | failure (message : String) (location : Location)

inductive Branch where
  | mk (condition : Token) (body : List Chunk)

end

inductive DirectivePart where
  | constName
  | equalSign
  | condition
  | lineEnd
  | endIf
deriving DecidableEq, Repr

def DirectivePart.text : DirectivePart → String
  | .constName => "a #const name"
  | .equalSign => "'='"
  | .condition => "'true', 'false', or a #const name"
  | .lineEnd => "end of line after directive"
  | .endIf => "'#end if'"

inductive DirectiveFault where
  | undefinedConst (name : String)
  | constRedeclared (name : String)
  | expected (part : DirectivePart) (found : Option String)
  | stray (text : String)
  | unterminatedIf
  | userError (message : String)
deriving DecidableEq, Repr

def DirectiveFault.message : DirectiveFault → String
  | .undefinedConst name => s!"attempting to reference undefined #const '{name}'"
  | .constRedeclared name => s!"attempting to re-declare #const '{name}'"
  | .expected part none => s!"malformed directive: expected {part.text}"
  | .expected part (some found) =>
    s!"malformed directive: expected {part.text}, found '{escapeAscii found}'"
  | .stray text => s!"malformed directive: '{text}' without a matching '#if'"
  | .unterminatedIf => "'#if' without a matching '#end if'"
  | .userError message => s!"#error {message}"

abbrev DirectiveError := Located DirectiveFault

end BrightScript
