set_option autoImplicit false

namespace BrightScript

inductive BinaryOp where
  | add
  | subtract
  | multiply
  | divide
  | integerDivide
  | modulo
  | power
  | leftShift
  | rightShift
  | equal
  | notEqual
  | less
  | lessEqual
  | greater
  | greaterEqual
  | and
  | or
deriving DecidableEq, Repr

namespace BinaryOp

def all : List BinaryOp :=
  [.add, .subtract, .multiply, .divide, .integerDivide, .modulo, .power, .leftShift, .rightShift,
    .equal, .notEqual, .less, .lessEqual, .greater, .greaterEqual, .and, .or]

def symbol : BinaryOp → String
  | .add => "+"
  | .subtract => "-"
  | .multiply => "*"
  | .divide => "/"
  | .integerDivide => "\\"
  | .modulo => "mod"
  | .power => "^"
  | .leftShift => "<<"
  | .rightShift => ">>"
  | .equal => "="
  | .notEqual => "<>"
  | .less => "<"
  | .lessEqual => "<="
  | .greater => ">"
  | .greaterEqual => ">="
  | .and => "and"
  | .or => "or"

end BinaryOp

-- The levels of binary operators, the loosest first. Every level groups to the left.
inductive Level where
  | or
  | and
  | relational
  | shift
  | additive
  | multiplicative
  | power
deriving DecidableEq, Repr

def Level.rank : Level → Nat
  | .or => 0
  | .and => 1
  | .relational => 2
  | .shift => 3
  | .additive => 4
  | .multiplicative => 5
  | .power => 6

def BinaryOp.level : BinaryOp → Level
  | .or => .or
  | .and => .and
  | .equal | .notEqual | .less | .lessEqual | .greater | .greaterEqual => .relational
  | .leftShift | .rightShift => .shift
  | .add | .subtract => .additive
  | .multiply | .divide | .integerDivide | .modulo => .multiplicative
  | .power => .power

inductive UnaryOp where
  | negate
  | not
deriving DecidableEq, Repr

def UnaryOp.symbol : UnaryOp → String
  | .negate => "-"
  | .not => "not"

inductive StepOp where
  | increment
  | decrement
deriving DecidableEq, Repr

end BrightScript
