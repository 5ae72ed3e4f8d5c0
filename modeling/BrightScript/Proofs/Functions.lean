import BrightScript.Tree
set_option autoImplicit false

namespace BrightScript

mutual

def Expr.everyFunction (check : Function → Bool) : Expr → Bool
  | .literal _ _ | .variable _ _ => true
  | .binary left _ right _ => left.everyFunction check && right.everyFunction check
  | .unary _ operand _ => operand.everyFunction check
  | .grouping inner _ => inner.everyFunction check
  | .call callee arguments _ => callee.everyFunction check && everyFunctionIn check arguments
  | .member object _ _ => object.everyFunction check
  | .index object index _ => object.everyFunction check && index.everyFunction check
  | .array elements _ => everyFunctionIn check elements
  | .table members _ => everyMemberFunction check members
  | .function function => function.everyFunction check

def everyFunctionIn (check : Function → Bool) : List Expr → Bool
  | [] => true
  | first :: rest => first.everyFunction check && everyFunctionIn check rest

def everyMemberFunction (check : Function → Bool) : List Member → Bool
  | [] => true
  | ⟨_, value, _⟩ :: rest => value.everyFunction check && everyMemberFunction check rest

def everyDefaultFunction (check : Function → Bool) : List Parameter → Bool
  | [] => true
  | ⟨_, _, default, _⟩ :: rest =>
    everyOptionalFunction check default && everyDefaultFunction check rest

def everyOptionalFunction (check : Function → Bool) : Option Expr → Bool
  | none => true
  | some expression => expression.everyFunction check

def Function.everyFunction (check : Function → Bool) : Function → Bool
  | ⟨name, parameters, returns, body, isSub, location⟩ =>
    check ⟨name, parameters, returns, body, isSub, location⟩
      && everyDefaultFunction check parameters && body.everyFunction check

def Block.everyFunction (check : Function → Bool) : Block → Bool
  | ⟨statements, _⟩ => everyStatementFunction check statements

def everyStatementFunction (check : Function → Bool) : List Stmt → Bool
  | [] => true
  | first :: rest => first.everyFunction check && everyStatementFunction check rest

def everyElseIfFunction (check : Function → Bool) : List ElseIf → Bool
  | [] => true
  | ⟨condition, body⟩ :: rest =>
    condition.everyFunction check && body.everyFunction check && everyElseIfFunction check rest

def everyOtherwiseFunction (check : Function → Bool) : Option Block → Bool
  | none => true
  | some block => block.everyFunction check

def everyPrintFunction (check : Function → Bool) : List PrintItem → Bool
  | [] => true
  | .expression expression :: rest =>
    expression.everyFunction check && everyPrintFunction check rest
  | .zone :: rest | .join :: rest => everyPrintFunction check rest

def Stmt.everyFunction (check : Function → Bool) : Stmt → Bool
  | .expression expression _ => expression.everyFunction check
  | .print items _ => everyPrintFunction check items
  | .assign _ value _ => value.everyFunction check
  | .dim _ dimensions _ => everyFunctionIn check dimensions
  | .ifThen condition body elseIfs otherwise _ =>
    condition.everyFunction check && body.everyFunction check
      && everyElseIfFunction check elseIfs && everyOtherwiseFunction check otherwise
  | .forTo _ start stop step body _ =>
    start.everyFunction check && stop.everyFunction check && step.everyFunction check
      && body.everyFunction check
  | .forEach _ target body _ => target.everyFunction check && body.everyFunction check
  | .whileDo condition body _ => condition.everyFunction check && body.everyFunction check
  | .declare _ function _ => function.everyFunction check
  | .giveBack value _ => everyOptionalFunction check value
  | .setMember object _ value _ => object.everyFunction check && value.everyFunction check
  | .setIndex object index value _ =>
    object.everyFunction check && index.everyFunction check && value.everyFunction check
  | .step target _ _ => target.everyFunction check
  | .tryCatch body _ handler _ => body.everyFunction check && handler.everyFunction check
  | .raise value _ => value.everyFunction check
  | .library _ _ | .goto _ _ | .label _ _ | .exitFor _ | .exitWhile _ | .endProgram _ | .stop _ =>
    true
  | .block block => block.everyFunction check

end

theorem Function.every_function_iff (check : Function → Bool) (f : Function) :
    f.everyFunction check = true ↔
      check f = true ∧ everyDefaultFunction check f.parameters = true ∧
        f.body.everyFunction check = true := by
  cases f
  simp only [Function.everyFunction, Bool.and_eq_true, and_assoc]

theorem every_default_function_cons (check : Function → Bool) (parameter : Parameter)
    (rest : List Parameter) : everyDefaultFunction check (parameter :: rest) =
      (everyOptionalFunction check parameter.default && everyDefaultFunction check rest) := by
  cases parameter
  rfl

def passAll (_ : Function) : Bool := true

mutual

theorem Expr.every_function_pass_all : (e : Expr) → e.everyFunction passAll = true
  | .literal _ _ | .variable _ _ => rfl
  | .binary left _ right _ => by
    simp [Expr.everyFunction, left.every_function_pass_all, right.every_function_pass_all]
  | .unary _ operand _ => by simp [Expr.everyFunction, operand.every_function_pass_all]
  | .grouping inner _ => by simp [Expr.everyFunction, inner.every_function_pass_all]
  | .call callee arguments _ => by
    simp [Expr.everyFunction, callee.every_function_pass_all, every_function_in_pass_all arguments]
  | .member object _ _ => by simp [Expr.everyFunction, object.every_function_pass_all]
  | .index object index _ => by
    simp [Expr.everyFunction, object.every_function_pass_all, index.every_function_pass_all]
  | .array elements _ => by simp [Expr.everyFunction, every_function_in_pass_all elements]
  | .table members _ => by simp [Expr.everyFunction, every_member_function_pass_all members]
  | .function function => by simp [Expr.everyFunction, function.every_function_pass_all]

theorem every_function_in_pass_all : (es : List Expr) → everyFunctionIn passAll es = true
  | [] => rfl
  | first :: rest => by
    simp [everyFunctionIn, first.every_function_pass_all, every_function_in_pass_all rest]

theorem every_member_function_pass_all : (ms : List Member) → everyMemberFunction passAll ms = true
  | [] => rfl
  | ⟨_, value, _⟩ :: rest => by
    simp [everyMemberFunction, value.every_function_pass_all, every_member_function_pass_all rest]

theorem every_default_function_pass_all :
    (ps : List Parameter) → everyDefaultFunction passAll ps = true
  | [] => rfl
  | ⟨_, _, default, _⟩ :: rest => by
    simp [everyDefaultFunction, every_optional_function_pass_all default,
      every_default_function_pass_all rest]

theorem every_optional_function_pass_all :
    (e : Option Expr) → everyOptionalFunction passAll e = true
  | none => rfl
  | some expression => by simp [everyOptionalFunction, expression.every_function_pass_all]

theorem Function.every_function_pass_all : (f : Function) → f.everyFunction passAll = true
  | ⟨_, parameters, _, body, _, _⟩ => by
    simp [Function.everyFunction, passAll, every_default_function_pass_all parameters,
      body.every_function_pass_all]

theorem Block.every_function_pass_all : (b : Block) → b.everyFunction passAll = true
  | ⟨statements, _⟩ => by simp [Block.everyFunction, every_statement_function_pass_all statements]

theorem every_statement_function_pass_all :
    (ss : List Stmt) → everyStatementFunction passAll ss = true
  | [] => rfl
  | first :: rest => by
    simp [everyStatementFunction, first.every_function_pass_all,
      every_statement_function_pass_all rest]

theorem every_else_if_function_pass_all : (es : List ElseIf) → everyElseIfFunction passAll es = true
  | [] => rfl
  | ⟨condition, body⟩ :: rest => by
    simp [everyElseIfFunction, condition.every_function_pass_all, body.every_function_pass_all,
      every_else_if_function_pass_all rest]

theorem every_otherwise_function_pass_all :
    (b : Option Block) → everyOtherwiseFunction passAll b = true
  | none => rfl
  | some block => by simp [everyOtherwiseFunction, block.every_function_pass_all]

theorem every_print_function_pass_all : (is : List PrintItem) → everyPrintFunction passAll is = true
  | [] => rfl
  | .expression expression :: rest => by
    simp [everyPrintFunction, expression.every_function_pass_all,
      every_print_function_pass_all rest]
  | .zone :: rest | .join :: rest => by
      simp [everyPrintFunction, every_print_function_pass_all rest]

theorem Stmt.every_function_pass_all : (s : Stmt) → s.everyFunction passAll = true
  | .expression value _ | .assign _ value _ | .raise value _ | .step value _ _ => by
    simp [Stmt.everyFunction, value.every_function_pass_all]
  | .print items _ => by simp [Stmt.everyFunction, every_print_function_pass_all items]
  | .dim _ dimensions _ => by simp [Stmt.everyFunction, every_function_in_pass_all dimensions]
  | .ifThen condition body elseIfs otherwise _ => by
    simp [Stmt.everyFunction, condition.every_function_pass_all, body.every_function_pass_all,
      every_else_if_function_pass_all elseIfs, every_otherwise_function_pass_all otherwise]
  | .forTo _ start stop step body _ => by
    simp [Stmt.everyFunction, start.every_function_pass_all, stop.every_function_pass_all,
      step.every_function_pass_all, body.every_function_pass_all]
  | .forEach _ value body _ | .whileDo value body _ => by
    simp [Stmt.everyFunction, value.every_function_pass_all, body.every_function_pass_all]
  | .declare _ function _ => by simp [Stmt.everyFunction, function.every_function_pass_all]
  | .giveBack value _ => by simp [Stmt.everyFunction, every_optional_function_pass_all value]
  | .setMember object _ value _ => by
    simp [Stmt.everyFunction, object.every_function_pass_all, value.every_function_pass_all]
  | .setIndex object index value _ => by
    simp [Stmt.everyFunction, object.every_function_pass_all, index.every_function_pass_all,
      value.every_function_pass_all]
  | .tryCatch body _ handler _ => by
    simp [Stmt.everyFunction, body.every_function_pass_all, handler.every_function_pass_all]
  | .block block => by simp [Stmt.everyFunction, block.every_function_pass_all]
  | .library _ _ | .goto _ _ | .label _ _ | .exitFor _ | .exitWhile _ | .endProgram _ | .stop _ =>
    rfl

end

end BrightScript
