import BrightScript.Tree.Expression
set_option autoImplicit false

namespace BrightScript

namespace Parser

def endsValues : Lexeme → Bool
  | .newline | .symbol .colon | .eof | .word .else_ | .word .elseIf => true
  | _ => false

def endsInline : Lexeme → Bool
  | .newline | .eof | .word .else_ | .word .elseIf => true
  | _ => false

def inlineStatements (g : Grammar) : Nat → Parse (List Stmt)
  | 0 => pure []
  | bound + 1 => do
    if endsInline (← peekKind) then pure []
    else
      let statement ← g.statement
      if ← accept (.symbol .colon) then
        let later ← inlineStatements g bound
        pure (statement :: later)
      else pure [statement]

def inlineBlock (g : Grammar) : Parse Block := do
  let start := (← peek).location
  let statements ← inlineStatements g g.bound
  if statements.isEmpty then failExpected "statement after 'then'"
  let location ← spanFrom start
  pure ⟨statements, location⟩

def branchEnds : List Keyword :=
  [.elseIf, .else_, .endIf]

def blockElseIfs (g : Grammar) : Nat → Parse (List ElseIf)
  | 0 => pure []
  | bound + 1 => do
    if ← accept (.word .elseIf) then
      let condition ← expression g
      let _ ← accept (.word .then_)
      consumeNewline
      let body ← block g branchEnds
      let later ← blockElseIfs g bound
      pure (⟨condition, body⟩ :: later)
    else pure []

def blockIf (g : Grammar) (start : Location) (condition : Expr) : Parse Stmt := do
  consumeNewline
  let body ← block g branchEnds
  let elseIfs ← blockElseIfs g g.bound
  let otherwise ← if ← accept (.word .else_) then
      consumeNewline
      some <$> block g [.endIf]
    else pure none
  let _ ← consume (.word .endIf) "'end if'"
  let location ← spanFrom start
  pure (.ifThen condition body elseIfs otherwise location)

def inlineElseIfs (g : Grammar) : Nat → Parse (List ElseIf)
  | 0 => pure []
  | bound + 1 => do
    if ← accept (.word .elseIf) then
      let condition ← expression g
      let _ ← accept (.word .then_)
      let body ← inlineBlock g
      let later ← inlineElseIfs g bound
      pure (⟨condition, body⟩ :: later)
    else pure []

-- An `if` on one line. The line's end is left for the block around it.
def inlineIf (g : Grammar) (start : Location) (condition : Expr) : Parse Stmt := do
  let body ← inlineBlock g
  let elseIfs ← inlineElseIfs g g.bound
  let otherwise ← if ← accept (.word .else_) then some <$> inlineBlock g else pure none
  let location ← spanFrom start
  pure (.ifThen condition body elseIfs otherwise location)

def ifStatement (g : Grammar) : Parse Stmt := do
  let start ← advance
  let condition ← expression g
  let _ ← accept (.word .then_)
  if ← check .newline then blockIf g start.location condition
  else inlineIf g start.location condition

def loopEnds : List Keyword :=
  [.endFor, .next]

def loopEnd : Parse Unit := do
  match ← peekKind with
  | .word .endFor =>
    let _ ← advance
  | .word .next =>
    let _ ← advance
    let _ ← accept .identifier
  | _ => failExpected "'end for' or 'next'"

def loopStep (g : Grammar) : Parse Expr := do
  if ← accept (.word .step) then expression g
  else pure (.literal (.integer 1) (← previous).location)

def forStatement (g : Grammar) : Parse Stmt := do
  let start ← advance
  let counter ← consume .identifier "loop counter name"
  let _ ← consume (.symbol .equal) "'=' after loop counter"
  let first ← expression g
  let _ ← consume (.word .to) "'to' in for loop"
  let last ← expression g
  let step ← loopStep g
  consumeNewline
  let body ← block g loopEnds
  loopEnd
  let location ← spanFrom start.location
  pure (.forTo counter.text first last step body location)

def forEachStatement (g : Grammar) : Parse Stmt := do
  let start ← advance
  let item ← consume .identifier "loop variable name"
  let _ ← consume (.word .in_) "'in' after loop variable"
  let target ← expression g
  consumeNewline
  let body ← block g loopEnds
  loopEnd
  let location ← spanFrom start.location
  pure (.forEach item.text target body location)

def whileStatement (g : Grammar) : Parse Stmt := do
  let start ← advance
  let condition ← expression g
  consumeNewline
  let body ← block g [.endWhile]
  let _ ← consume (.word .endWhile) "'end while'"
  let location ← spanFrom start.location
  pure (.whileDo condition body location)

def printItem (g : Grammar) : Parse PrintItem := do
  match ← peekKind with
  | .symbol .semicolon =>
    let _ ← advance
    pure .join
  | .symbol .comma =>
    let _ ← advance
    pure .zone
  | _ =>
    let value ← expression g
    pure (.expression value)

def printItems (g : Grammar) : Nat → Parse (List PrintItem)
  | 0 => pure []
  | bound + 1 => do
    if endsValues (← peekKind) then pure []
    else
      let item ← printItem g
      let later ← printItems g bound
      pure (item :: later)

def printStatement (g : Grammar) : Parse Stmt := do
  let start ← advance
  let items ← printItems g g.bound
  let location ← spanFrom start.location
  pure (.print items location)

def returnStatement (g : Grammar) : Parse Stmt := do
  let start ← advance
  let value ← if endsValues (← peekKind) then pure none else some <$> expression g
  let location ← spanFrom start.location
  pure (.giveBack value location)

def dimStatement (g : Grammar) : Parse Stmt := do
  let start ← advance
  let name ← consume .identifier "array name after 'dim'"
  let _ ← consume (.symbol .leftSquare) "'[' after array name"
  let dimensions ← commaList (expression g) g.bound
  let _ ← consume (.symbol .rightSquare) "']' after dimensions"
  let location ← spanFrom start.location
  pure (.dim name.text dimensions location)

def gotoStatement : Parse Stmt := do
  let start ← advance
  let label ← consume .identifier "label name after 'goto'"
  let location ← spanFrom start.location
  pure (.goto label.text location)

def labelStatement : Parse Stmt := do
  let name ← advance
  let _ ← advance
  let location ← spanFrom name.location
  pure (.label name.text location)

def pathText (token : Token) : String :=
  match token.literal with
  | some (.string path) => path
  | _ => token.text

def libraryStatement : Parse Stmt := do
  let start ← advance
  let path ← consume .string "library path string"
  let location ← spanFrom start.location
  pure (.library (pathText path) location)

def tryStatement (g : Grammar) : Parse Stmt := do
  let start ← advance
  consumeNewline
  let body ← block g [.catch_]
  let _ ← consume (.word .catch_) "'catch'"
  if !(← check .identifier) then fail .missingCatchVariable
  let name ← advance
  consumeNewline
  let handler ← block g [.endTry]
  let _ ← consume (.word .endTry) "'end try'"
  let location ← spanFrom start.location
  pure (.tryCatch body name.text handler location)

def throwStatement (g : Grammar) : Parse Stmt := do
  let start ← advance
  let value ← expression g
  let location ← spanFrom start.location
  pure (.raise value location)

def assignmentSign? : Lexeme → Option (Option BinaryOp)
  | .symbol .equal => some none
  | .symbol .plusEqual => some (some .add)
  | .symbol .minusEqual => some (some .subtract)
  | .symbol .starEqual => some (some .multiply)
  | .symbol .slashEqual => some (some .divide)
  | .symbol .backslashEqual => some (some .integerDivide)
  | .symbol .leftShiftEqual => some (some .leftShift)
  | .symbol .rightShiftEqual => some (some .rightShift)
  | _ => none

def assignment (target : Expr) (op : Option BinaryOp) (sign : Token) (value : Expr) :
    Parse Stmt :=
  let location := target.location.through value.location
  let stored := match op with
    | none => value
    | some op => Expr.binary target op value location
  match target with
  | .variable name _ => pure (.assign name stored location)
  | .member object name _ => pure (.setMember object name stored location)
  | .index object index _ => pure (.setIndex object index stored location)
  | _ => failAt .invalidAssignmentTarget sign.location

def stepOp? : Lexeme → Option StepOp
  | .symbol .plusPlus => some .increment
  | .symbol .minusMinus => some .decrement
  | _ => none

def stepStatement (target : Expr) (op : StepOp) : Parse Stmt := do
  let sign ← advance
  if !target.isAssignable then
    match target with
    | .call _ _ _ => failAt .incrementOnCall sign.location
    | _ => failAt .incrementOnNonAssignable sign.location
  else if (stepOp? (← peekKind)).isSome then fail .consecutiveIncrement
  else pure (.step target op (target.location.through sign.location))

def expressionStatement (g : Grammar) : Parse Stmt := do
  let target ← chain g
  let kind ← peekKind
  match assignmentSign? kind, stepOp? kind with
  | some op, _ =>
    let sign ← advance
    let value ← expression g
    assignment target op sign value
  | none, some op => stepStatement target op
  | none, none =>
    match target with
    | .call _ _ location => pure (.expression target location)
    | _ => failAt .expressionNotStatement target.location

def wordStatement (make : Location → Stmt) : Parse Stmt := do
  pure (make (← advance).location)

def statement (g : Grammar) : Parse Stmt := do
  let token ← peek
  match token.kind with
  | .word .if_ => ifStatement g
  | .word .for_ => forStatement g
  | .word .forEach => forEachStatement g
  | .word .while_ => whileStatement g
  | .word .print => printStatement g
  | .word .return_ => returnStatement g
  | .word .dim => dimStatement g
  | .word .goto => gotoStatement
  | .word .try_ => tryStatement g
  | .word .throw => throwStatement g
  | .word .exitFor => wordStatement .exitFor
  | .word .exitWhile => wordStatement .exitWhile
  | .word .end_ => wordStatement .endProgram
  | .word .stop => wordStatement .stop
  | .identifier =>
    if (← secondKind) == .symbol .colon then labelStatement else expressionStatement g
  | .symbol .leftParen => expressionStatement g
  | .word .function | .word .sub => fail (.nestedFunction token.text)
  | _ => fail (.unexpected (describe token))

-- The rules by nesting depth. Each level reads a token before it uses the level below, so a depth
-- above the number of tokens is never used up.
def grammar (bound : Nat) : Nat → Grammar
  | 0 => ⟨bound, failExpected "expression", failExpected "expression"⟩
  | depth + 1 =>
    ⟨bound, fun cursor => expression (grammar bound depth) cursor,
      fun cursor => statement (grammar bound depth) cursor⟩

def isFunctionWord : Lexeme → Bool
  | .word .function | .word .sub => true
  | _ => false

def declaration (g : Grammar) : Parse Stmt := do
  if isFunctionWord (← peekKind) && (← secondKind) == .identifier then
    let function ← functionLiteral g true
    pure (.declare (function.name.getD "") function function.location)
  else statement g

def topStatement (g : Grammar) (librariesAllowed : Bool) : Parse Stmt := do
  let result ← if ← check (.word .library) then
      if librariesAllowed then libraryStatement else fail .libraryNotAtTop
    else declaration g
  statementSeparator
  pure result

def topStatements (g : Grammar) : Nat → Bool → Parse (List Stmt)
  | 0, _ => pure []
  | bound + 1, librariesAllowed => do
    skipSeparators
    let kind ← peekKind
    if kind == .eof then pure []
    else
      let allowed := librariesAllowed && kind == .word .library
      match ← recover (topStatement g librariesAllowed) with
      | some result =>
        let later ← topStatements g bound allowed
        pure (result :: later)
      | none => topStatements g bound allowed

end Parser

structure Parsed where
  statements : List Stmt
  errors : List ParseError

def parse (tokens : List Token) : Parsed :=
  let bound := tokens.length + 1
  match Parser.topStatements (Parser.grammar bound bound) bound true
    (Parser.Cursor.start tokens) with
  | .ok statements cursor => ⟨statements, cursor.errors⟩
  | .error e cursor => ⟨[], cursor.errors ++ [e]⟩

end BrightScript
