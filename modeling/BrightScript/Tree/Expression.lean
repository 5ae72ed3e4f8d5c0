import BrightScript.Tree.Cursor
set_option autoImplicit false

namespace BrightScript

namespace Parser

def binaryOp? : Lexeme → Option BinaryOp
  | .word .or => some .or
  | .word .and => some .and
  | .symbol .equal => some .equal
  | .symbol .lessGreater => some .notEqual
  | .symbol .less => some .less
  | .symbol .lessEqual => some .lessEqual
  | .symbol .greater => some .greater
  | .symbol .greaterEqual => some .greaterEqual
  | .symbol .leftShift => some .leftShift
  | .symbol .rightShift => some .rightShift
  | .symbol .plus => some .add
  | .symbol .minus => some .subtract
  | .symbol .star => some .multiply
  | .symbol .slash => some .divide
  | .symbol .backslash => some .integerDivide
  | .word .mod => some .modulo
  | .symbol .caret => some .power
  | _ => none

def operatorAt? (level : Level) (kind : Lexeme) : Option BinaryOp :=
  (binaryOp? kind).filter fun op => op.level == level

def makeBinary (left : Expr) (op : BinaryOp) (right : Expr) : Expr :=
  .binary left op right (left.location.through right.location)

def operands (level : Level) (operand : Parse Expr) : Nat → Expr → Parse Expr
  | 0, left => pure left
  | bound + 1, left => do
    match operatorAt? level (← peekKind) with
    | none => pure left
    | some op =>
      let _ ← advance
      let right ← operand
      operands level operand bound (makeBinary left op right)

def atLevel (level : Level) (bound : Nat) (operand : Parse Expr) : Parse Expr := do
  let first ← operand
  operands level operand bound first

-- Signs and `not` in front of an operand. A plus sign leaves no trace.
def signed (operand : Parse Expr) : Nat → Parse Expr
  | 0 => operand
  | bound + 1 => do
    match ← peekKind with
    | .word .not =>
      let start ← advance
      let inner ← signed operand bound
      pure (.unary .not inner (start.location.through inner.location))
    | .symbol .minus =>
      let start ← advance
      let inner ← signed operand bound
      pure (.unary .negate inner (start.location.through inner.location))
    | .symbol .plus =>
      let _ ← advance
      signed operand bound
    | _ => operand

def arguments (g : Grammar) : Parse (List Expr) := do
  let values ← if ← check (.symbol .rightParen) then pure [] else commaList g.expression g.bound
  let _ ← consume (.symbol .rightParen) "')' after arguments"
  pure values

def memberName : Parse String := do
  let token ← peek
  if token.kind == .identifier || token.kind.isKeyword then
    let _ ← advance
    pure token.text
  else failExpected "property name after '.'"

def indices (g : Grammar) : Nat → Expr → Parse Expr
  | 0, object => pure object
  | bound + 1, object => do
    let index ← g.expression
    let location ← spanFrom object.location
    let indexed := Expr.index object index location
    if ← accept (.symbol .comma) then indices g bound indexed else pure indexed

def accesses (g : Grammar) : Nat → Expr → Parse Expr
  | 0, head => pure head
  | bound + 1, head => do
    match ← peekKind with
    | .symbol .leftParen =>
      let _ ← advance
      let values ← arguments g
      let location ← spanFrom head.location
      accesses g bound (.call head values location)
    | .symbol .dot =>
      let _ ← advance
      let name ← memberName
      let location ← spanFrom head.location
      accesses g bound (.member head name location)
    | .symbol .leftSquare =>
      let _ ← advance
      let indexed ← indices g g.bound head
      let _ ← consume (.symbol .rightSquare) "']' after index"
      accesses g bound indexed
    | _ => pure head

-- The word `as` is an ordinary name everywhere else.
def acceptAs : Parse Bool := do
  let token ← peek
  if token.kind == .identifier && sameName token.text "as" then
    let _ ← advance
    pure true
  else pure false

def mayNameType : Lexeme → Bool
  | .identifier | .word .function | .word .invalid => true
  | _ => false

def typeName : Parse Kind := do
  let token ← peek
  match if mayNameType token.kind then Kind.ofTypeName? token.text else none with
  | some kind =>
    let _ ← advance
    pure kind
  | none => failExpected "type name"

def parameter (g : Grammar) : Parse Parameter := do
  let token ← consume .identifier "parameter name"
  let default ← if ← accept (.symbol .equal) then some <$> g.expression else pure none
  let kind ← if ← acceptAs then typeName
    else pure ((Kind.ofDesignator? token.text).getD .dynamic)
  let location ← spanFrom token.location
  pure ⟨token.text, kind, default, location⟩

def parameters (g : Grammar) : Parse (List Parameter) := do
  let values ← if ← check (.symbol .rightParen) then pure [] else commaList (parameter g) g.bound
  let _ ← consume (.symbol .rightParen) "')' after parameters"
  pure values

def returnKind (isSub : Bool) : Parse Kind := do
  if ← acceptAs then typeName
  else pure (if isSub then .void else .dynamic)

def functionLiteral (g : Grammar) (named : Bool) : Parse Function := do
  let keyword ← advance
  let isSub := keyword.kind == .word .sub
  let name ← if named then (some ·.text) <$> consume .identifier "function name" else pure none
  let _ ← consume (.symbol .leftParen) "'(' after function name"
  let values ← parameters g
  let returns ← returnKind isSub
  consumeNewline
  let terminator : Keyword := if isSub then .endSub else .endFunction
  let body ← block g [terminator]
  let _ ← consume (.word terminator) (terminatorName terminator)
  let location ← spanFrom keyword.location
  pure ⟨name, values, returns, body, isSub, location⟩

def memberKey? (token : Token) : Option String :=
  match token.kind, token.literal with
  | .string, some (.string value) => some value
  | .identifier, _ | .word _, _ => some token.text
  | _, _ => none

def tableMember (g : Grammar) : Parse Member := do
  let key ← peek
  match memberKey? key with
  | none => failExpected "associative array key"
  | some name =>
    let _ ← advance
    let _ ← consume (.symbol .colon) "':' after associative array key"
    let value ← g.expression
    let location ← spanFrom key.location
    pure ⟨name, value, location⟩

def isLiteral : Lexeme → Bool
  | .word .true | .word .false | .word .invalid | .integer | .longInteger | .float | .double
  | .string => true
  | _ => false

def primary (g : Grammar) : Parse Expr := do
  let token ← peek
  match token.kind with
  | .identifier =>
    let _ ← advance
    pure (.variable token.text token.location)
  | .symbol .leftParen =>
    let _ ← advance
    let inner ← g.expression
    let _ ← consume (.symbol .rightParen) "')' after expression"
    let location ← spanFrom token.location
    pure (.grouping inner location)
  | .symbol .leftSquare =>
    let _ ← advance
    skipNewlines
    let elements ← itemsUntil .rightSquare g.expression g.bound
    let _ ← consume (.symbol .rightSquare) "']' to close array literal"
    let location ← spanFrom token.location
    pure (.array elements location)
  | .symbol .leftBrace =>
    let _ ← advance
    skipNewlines
    let members ← itemsUntil .rightBrace (tableMember g) g.bound
    let _ ← consume (.symbol .rightBrace) "'\x7d' to close associative array literal"
    let location ← spanFrom token.location
    pure (.table members location)
  | .word .function | .word .sub =>
    let function ← functionLiteral g false
    pure (.function function)
  | kind =>
    if isLiteral kind then
      let _ ← advance
      pure (.literal (token.literal.getD .invalid) token.location)
    else failExpected "expression"

def chain (g : Grammar) : Parse Expr := do
  let head ← primary g
  accesses g g.bound head

def expression (g : Grammar) : Parse Expr :=
  atLevel .or g.bound <| atLevel .and g.bound <| atLevel .relational g.bound <|
    atLevel .shift g.bound <| atLevel .additive g.bound <| atLevel .multiplicative g.bound <|
    atLevel .power g.bound <| signed (chain g) g.bound

end Parser

end BrightScript
