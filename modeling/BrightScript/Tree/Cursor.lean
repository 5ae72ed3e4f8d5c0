import BrightScript.Token
import BrightScript.Tree
set_option autoImplicit false

/-!
The parser's view of a token stream: the tokens still to be read, the one read last, and the faults
noted so far. A step that fails keeps what it has read and noted, so that reading can go on behind a
fault.
-/

namespace BrightScript

inductive ParseFault where
  | expected (what found : String)
  | unexpected (found : String)
  | nestedFunction (keyword : String)
  | consecutiveIncrement
  | incrementOnCall
  | incrementOnNonAssignable
  | libraryNotAtTop
  | expressionNotStatement
  | missingCatchVariable
  | invalidAssignmentTarget
deriving DecidableEq, Repr

def ParseFault.message : ParseFault → String
  | .expected what found => s!"expected {what}, found {found}"
  | .unexpected found => s!"unexpected {found}"
  | .nestedFunction keyword =>
    s!"unexpected '{keyword}'; named functions may only be declared at the top level"
  | .consecutiveIncrement => "consecutive increment/decrement operators are not allowed"
  | .incrementOnCall =>
    "increment/decrement operators are not allowed on the result of a function call"
  | .incrementOnNonAssignable =>
    "increment/decrement operators require a variable, property, or index target"
  | .libraryNotAtTop => "library statements must appear at the top of a file"
  | .expressionNotStatement => "expected statement or function call, found an expression"
  | .missingCatchVariable => "expected a variable name after 'catch'"
  | .invalidAssignmentTarget => "invalid assignment target"

abbrev ParseError := Located ParseFault

namespace Parser

structure Cursor where
  rest : List Token
  previous : Token
  finish : Token
  errors : List ParseError

-- At the head of a stream. What stands behind its first end token is never seen.
def Cursor.start (tokens : List Token) : Cursor :=
  let ahead := tokens.takeWhile (·.kind != .eof)
  let missing := Token.eofAt (tokens.getLast?.elim Location.internal Token.location)
  let finish := (tokens.find? (·.kind == .eof)).getD missing
  ⟨ahead, finish, finish, []⟩

end Parser

abbrev Parse := EStateM ParseError Parser.Cursor

namespace Parser

def peek : Parse Token := do
  let cursor ← get
  pure (cursor.rest.headD cursor.finish)

def peekKind : Parse Lexeme := do
  pure (← peek).kind

def secondKind : Parse Lexeme := do
  let cursor ← get
  pure ((cursor.rest.drop 1).headD cursor.finish).kind

def previous : Parse Token := do
  pure (← get).previous

def atEnd : Parse Bool := do
  pure ((← peekKind) == .eof)

def advance : Parse Token := do
  let cursor ← get
  match cursor.rest with
  | [] => pure cursor.previous
  | token :: rest =>
    set { cursor with rest := rest, previous := token }
    pure token

def check (kind : Lexeme) : Parse Bool := do
  pure ((← peekKind) == kind)

def accept (kind : Lexeme) : Parse Bool := do
  if ← check kind then
    let _ ← advance
    pure true
  else pure false

def describe (token : Token) : String :=
  match token.kind with
  | .eof => "end of file"
  | .newline => "end of line"
  | _ => s!"'{token.text}'"

def failAt {α : Type} (cause : ParseFault) (location : Location) : Parse α :=
  throw ⟨cause, location⟩

def fail {α : Type} (cause : ParseFault) : Parse α := do
  failAt cause (← peek).location

def failExpected {α : Type} (what : String) : Parse α := do
  fail (.expected what (describe (← peek)))

def consume (kind : Lexeme) (what : String) : Parse Token := do
  if ← check kind then advance else failExpected what

def spanFrom (start : Location) : Parse Location := do
  pure (start.through (← previous).location)

def skipWhile (accepted : Lexeme → Bool) : Parse Unit :=
  modify fun cursor =>
    let skipped := cursor.rest.takeWhile fun token => accepted token.kind
    { cursor with
      rest := cursor.rest.drop skipped.length
      previous := skipped.getLastD cursor.previous }

def isSeparator : Lexeme → Bool
  | .newline | .symbol .colon => true
  | _ => false

def skipSeparators : Parse Unit :=
  skipWhile isSeparator

def skipNewlines : Parse Unit :=
  skipWhile (· == .newline)

def statementSeparator : Parse Unit := do
  let kind ← peekKind
  if isSeparator kind then
    let _ ← advance
  else if kind != .eof then failExpected "newline or ':' after statement"

def consumeNewline : Parse Unit := do
  let kind ← peekKind
  if kind == .newline then
    let _ ← advance
  else if kind != .eof then failExpected "newline"

def synchronize : Parse Unit := do
  skipWhile fun kind => !isSeparator kind
  let _ ← advance

def recover {α : Type} (step : Parse α) : Parse (Option α) := fun cursor =>
  match step cursor with
  | .ok value cursor => .ok (some value) cursor
  | .error e cursor =>
    match synchronize { cursor with errors := cursor.errors ++ [e] } with
    | .ok _ cursor => .ok none cursor
    | .error e cursor => .error e cursor

-- One or more items with commas between them. The bound is never reached: every item is at least
-- one token.
def commaList {α : Type} (item : Parse α) : Nat → Parse (List α)
  | 0 => pure []
  | bound + 1 => do
    let value ← item
    if ← accept (.symbol .comma) then
      let later ← commaList item bound
      pure (value :: later)
    else pure [value]

def itemsUntil {α : Type} (close : Symbol) (item : Parse α) : Nat → Parse (List α)
  | 0 => pure []
  | bound + 1 => do
    if ← check (.symbol close) then pure []
    else
      let value ← item
      let separated ← accept (.symbol .comma)
      skipNewlines
      if separated || (← previous).kind == .newline then
        let later ← itemsUntil close item bound
        pure (value :: later)
      else pure [value]

-- What the rules of one nesting level use of the level below. The bound limits repetition and
-- exceeds the number of tokens.
structure Grammar where
  bound : Nat
  expression : Parse Expr
  statement : Parse Stmt

def closesFunction : Lexeme → Bool
  | .word .endFunction | .word .endSub => true
  | _ => false

def terminatorName : Keyword → String
  | .endIf => "'end if'"
  | .endFor => "'end for'"
  | .next => "'next'"
  | .endWhile => "'end while'"
  | .endFunction => "'end function'"
  | .endSub => "'end sub'"
  | .endTry => "'end try'"
  | .catch_ => "'catch'"
  | .else_ => "'else'"
  | .elseIf => "'else if'"
  | _ => "block terminator"

def isTerminator (terminators : List Keyword) : Lexeme → Bool
  | .word keyword => terminators.contains keyword
  | _ => false

def blockStatement (g : Grammar) (terminators : List Keyword) : Parse Stmt := do
  let statement ← g.statement
  if !isTerminator terminators (← peekKind) then statementSeparator
  pure statement

def blockStatements (g : Grammar) (terminators : List Keyword) : Nat → Parse (List Stmt)
  | 0 => pure []
  | bound + 1 => do
    skipSeparators
    let kind ← peekKind
    if isTerminator terminators kind || closesFunction kind then pure []
    else if kind == .eof then
      failExpected (" or ".intercalate (terminators.map terminatorName))
    else
      match ← recover (blockStatement g terminators) with
      | some statement =>
        let later ← blockStatements g terminators bound
        pure (statement :: later)
      | none => blockStatements g terminators bound

def block (g : Grammar) (terminators : List Keyword) : Parse Block := do
  let start := (← previous).location.stop
  let statements ← blockStatements g terminators g.bound
  let next ← peek
  pure ⟨statements, ⟨next.location.file, start, next.location.start⟩⟩

end Parser

end BrightScript
