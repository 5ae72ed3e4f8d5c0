import BrightScript.Location
import BrightScript.Operator
import BrightScript.Scalar
set_option autoImplicit false

namespace BrightScript

mutual

inductive Expr where
  | literal (value : Scalar) (location : Location)
  | binary (left : Expr) (op : BinaryOp) (right : Expr) (location : Location)
  | unary (op : UnaryOp) (operand : Expr) (location : Location)
  | grouping (inner : Expr) (location : Location)
  | variable (name : String) (location : Location)
  | call (callee : Expr) (arguments : List Expr) (location : Location)
  | member (object : Expr) (name : String) (location : Location)
  | index (object : Expr) (index : Expr) (location : Location)
  | array (elements : List Expr) (location : Location)
  | table (members : List Member) (location : Location)
  | function (function : Function)

structure Member where
  name : String
  value : Expr
  location : Location

structure Parameter where
  name : String
  kind : Kind
  default : Option Expr
  location : Location

structure Function where
  name : Option String
  parameters : List Parameter
  returns : Kind
  body : Block
  isSub : Bool
  location : Location

structure Block where
  statements : List Stmt
  location : Location

structure ElseIf where
  condition : Expr
  body : Block

inductive PrintItem where
  | expression (expression : Expr)
  -- A comma: on to the next zone.
  | zone
  -- A semicolon: nothing between the items.
  | join

inductive Stmt where
  | expression (expression : Expr) (location : Location)
  | print (items : List PrintItem) (location : Location)
  | assign (name : String) (value : Expr) (location : Location)
  | dim (name : String) (dimensions : List Expr) (location : Location)
  | ifThen (condition : Expr) (body : Block) (elseIfs : List ElseIf) (otherwise : Option Block)
      (location : Location)
  | forTo (counter : String) (start stop step : Expr) (body : Block) (location : Location)
  | forEach (item : String) (target : Expr) (body : Block) (location : Location)
  | whileDo (condition : Expr) (body : Block) (location : Location)
  | declare (name : String) (function : Function) (location : Location)
  | giveBack (value : Option Expr) (location : Location)
  | setMember (object : Expr) (name : String) (value : Expr) (location : Location)
  | setIndex (object : Expr) (index : Expr) (value : Expr) (location : Location)
  | step (target : Expr) (op : StepOp) (location : Location)
  | library (path : String) (location : Location)
  | goto (label : String) (location : Location)
  | label (name : String) (location : Location)
  | exitFor (location : Location)
  | exitWhile (location : Location)
  | tryCatch (body : Block) (variableName : String) (handler : Block) (location : Location)
  | raise (value : Expr) (location : Location)
  | endProgram (location : Location)
  | stop (location : Location)
  | block (block : Block)

end

namespace Expr

def location : Expr → Location
  | .literal _ l | .binary _ _ _ l | .unary _ _ l | .grouping _ l | .variable _ l | .call _ _ l
  | .member _ _ l | .index _ _ l | .array _ l | .table _ l => l
  | .function f => f.location

def isAssignable : Expr → Bool
  | .variable _ _ | .member _ _ _ | .index _ _ _ => true
  | _ => false

instance : Inhabited Expr := ⟨.literal .invalid .internal⟩

end Expr

instance : Inhabited Block := ⟨⟨[], .internal⟩⟩

instance : Inhabited Stmt := ⟨.block default⟩

def Stmt.location : Stmt → Location
  | .expression _ l | .print _ l | .assign _ _ l | .dim _ _ l | .ifThen _ _ _ _ l
  | .forTo _ _ _ _ _ l | .forEach _ _ _ l | .whileDo _ _ l | .declare _ _ l | .giveBack _ l
  | .setMember _ _ _ l | .setIndex _ _ _ l | .step _ _ l | .library _ l | .goto _ l | .label _ l
  | .exitFor l | .exitWhile l | .tryCatch _ _ _ l | .raise _ l | .endProgram l | .stop l => l
  | .block b => b.location

end BrightScript
