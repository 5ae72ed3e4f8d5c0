import BrightScript.Location
import BrightScript.Scalar
set_option autoImplicit false

namespace BrightScript

inductive Symbol where
  | leftParen
  | rightParen
  | leftSquare
  | rightSquare
  | leftBrace
  | rightBrace
  | dot
  | comma
  | colon
  | semicolon
  | caret
  | minus
  | minusEqual
  | minusMinus
  | plus
  | plusEqual
  | plusPlus
  | star
  | starEqual
  | slash
  | slashEqual
  | backslash
  | backslashEqual
  | leftShift
  | leftShiftEqual
  | rightShift
  | rightShiftEqual
  | less
  | lessEqual
  | greater
  | greaterEqual
  | equal
  | lessGreater
deriving DecidableEq, Repr

inductive Directive where
  | const
  | if_
  | elseIf
  | else_
  | endIf
  | error
deriving DecidableEq, Repr

inductive Keyword where
  | and
  | catch_
  | dim
  | each
  | else_
  | elseIf
  | end_
  | endFor
  | endFunction
  | endIf
  | endSub
  | endTry
  | endWhile
  | exit
  | exitFor
  | exitWhile
  | false
  | for_
  | forEach
  | function
  | goto
  | if_
  | in_
  | invalid
  | library
  | mod
  | next
  | not
  | or
  | print
  | return_
  | step
  | stop
  | sub
  | then_
  | throw
  | to
  | true
  | try_
  | while_
deriving DecidableEq, Repr

namespace Keyword

def all : List Keyword :=
  [.and, .catch_, .dim, .each, .else_, .elseIf, .end_, .endFor, .endFunction, .endIf, .endSub,
    .endTry, .endWhile, .exit, .exitFor, .exitWhile, .false, .for_, .forEach, .function, .goto,
    .if_, .in_, .invalid, .library, .mod, .next, .not, .or, .print, .return_, .step, .stop, .sub,
    .then_, .throw, .to, .true, .try_, .while_]

def spelling : Keyword → String
  | .and => "and"
  | .catch_ => "catch"
  | .dim => "dim"
  | .each => "each"
  | .else_ => "else"
  | .elseIf => "elseif"
  | .end_ => "end"
  | .endFor => "endfor"
  | .endFunction => "endfunction"
  | .endIf => "endif"
  | .endSub => "endsub"
  | .endTry => "endtry"
  | .endWhile => "endwhile"
  | .exit => "exit"
  | .exitFor => "exitfor"
  | .exitWhile => "exitwhile"
  | .false => "false"
  | .for_ => "for"
  | .forEach => "foreach"
  | .function => "function"
  | .goto => "goto"
  | .if_ => "if"
  | .in_ => "in"
  | .invalid => "invalid"
  | .library => "library"
  | .mod => "mod"
  | .next => "next"
  | .not => "not"
  | .or => "or"
  | .print => "print"
  | .return_ => "return"
  | .step => "step"
  | .stop => "stop"
  | .sub => "sub"
  | .then_ => "then"
  | .throw => "throw"
  | .to => "to"
  | .true => "true"
  | .try_ => "try"
  | .while_ => "while"

def ofWord? (word : String) : Option Keyword :=
  all.find? fun keyword => keyword.spelling == fold word

def joined? (first : Keyword) (second : String) : Option Keyword :=
  match first, second with
  | .end_, "if" => some .endIf
  | .end_, "function" => some .endFunction
  | .end_, "sub" => some .endSub
  | .end_, "for" => some .endFor
  | .end_, "while" => some .endWhile
  | .end_, "try" => some .endTry
  | .exit, "for" => some .exitFor
  | .exit, "while" => some .exitWhile
  | .else_, "if" => some .elseIf
  | .for_, "each" => some .forEach
  | _, _ => none

def literal? : Keyword → Option Scalar
  | .true => some (.boolean Bool.true)
  | .false => some (.boolean Bool.false)
  | .invalid => some .invalid
  | _ => none

end Keyword

inductive Lexeme where
  | symbol (symbol : Symbol)
  | identifier
  | string
  | integer
  | longInteger
  | float
  | double
  | directive (directive : Directive)
  | message
  | word (keyword : Keyword)
  | newline
  | eof
deriving DecidableEq, Repr

-- Reserved words may still name a member after a dot or a key of an associative array.
def Lexeme.isKeyword : Lexeme → Bool
  | .word _ => true
  | _ => false

def Lexeme.isDirective : Lexeme → Bool
  | .directive _ => true
  | _ => false

structure Token where
  kind : Lexeme
  text : String
  literal : Option Scalar
  location : Location
deriving DecidableEq

def Token.eofAt (location : Location) : Token :=
  ⟨.eof, "", none, location⟩

instance : Inhabited Token := ⟨Token.eofAt .internal⟩

end BrightScript
