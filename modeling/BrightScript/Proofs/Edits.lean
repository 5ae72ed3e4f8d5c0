import BrightScript.Callable
import BrightScript.Proofs.Unplaced
set_option autoImplicit false

namespace BrightScript

structure Edit where
  place : Location → Location
  name : String → String
  inside : place .internal = .internal
  same : ∀ n, fold (name n) = fold n
  again : ∀ n, name (name n) = name n
  append : ∀ a b, name (a ++ b) = name a ++ name b

def unplacing : Edit where
  place _ := .internal
  name := id
  inside := rfl
  same _ := rfl
  again _ := rfl
  append _ _ := rfl

mutual

def Expr.edited (edit : Edit) : Expr → Expr
  | .literal value l => .literal value (edit.place l)
  | .binary left op right l => .binary (left.edited edit) op (right.edited edit) (edit.place l)
  | .unary op operand l => .unary op (operand.edited edit) (edit.place l)
  | .grouping inner l => .grouping (inner.edited edit) (edit.place l)
  | .variable name l => .variable (edit.name name) (edit.place l)
  | .call callee arguments l => .call (callee.edited edit) (editedAll edit arguments) (edit.place l)
  | .member object name l => .member (object.edited edit) (edit.name name) (edit.place l)
  | .index object index l => .index (object.edited edit) (index.edited edit) (edit.place l)
  | .array elements l => .array (editedAll edit elements) (edit.place l)
  | .table members l => .table (editedMembers edit members) (edit.place l)
  | .function function => .function (function.edited edit)

def editedAll (edit : Edit) : List Expr → List Expr
  | [] => []
  | first :: rest => first.edited edit :: editedAll edit rest

def editedMembers (edit : Edit) : List Member → List Member
  | [] => []
  | ⟨name, value, l⟩ :: rest =>
    ⟨edit.name name, value.edited edit, edit.place l⟩ :: editedMembers edit rest

def editedParameters (edit : Edit) : List Parameter → List Parameter
  | [] => []
  | ⟨name, kind, default, l⟩ :: rest =>
    ⟨edit.name name, kind, editedOptional edit default, edit.place l⟩ :: editedParameters edit rest

def editedOptional (edit : Edit) : Option Expr → Option Expr
  | none => none
  | some expression => some (expression.edited edit)

def Function.edited (edit : Edit) : Function → Function
  | ⟨name, parameters, returns, body, isSub, l⟩ =>
    ⟨name, editedParameters edit parameters, returns, body.edited edit, isSub, edit.place l⟩

def Block.edited (edit : Edit) : Block → Block
  | ⟨statements, l⟩ => ⟨editedStatements edit statements, edit.place l⟩

def editedStatements (edit : Edit) : List Stmt → List Stmt
  | [] => []
  | first :: rest => first.edited edit :: editedStatements edit rest

def editedElseIfs (edit : Edit) : List ElseIf → List ElseIf
  | [] => []
  | ⟨condition, body⟩ :: rest =>
    ⟨condition.edited edit, body.edited edit⟩ :: editedElseIfs edit rest

def editedOtherwise (edit : Edit) : Option Block → Option Block
  | none => none
  | some block => some (block.edited edit)

def editedItems (edit : Edit) : List PrintItem → List PrintItem
  | [] => []
  | .expression expression :: rest => .expression (expression.edited edit) :: editedItems edit rest
  | .zone :: rest => .zone :: editedItems edit rest
  | .join :: rest => .join :: editedItems edit rest

def Stmt.edited (edit : Edit) : Stmt → Stmt
  | .expression expression l => .expression (expression.edited edit) (edit.place l)
  | .print items l => .print (editedItems edit items) (edit.place l)
  | .assign name value l => .assign (edit.name name) (value.edited edit) (edit.place l)
  | .dim name dimensions l => .dim (edit.name name) (editedAll edit dimensions) (edit.place l)
  | .ifThen condition body elseIfs otherwise l =>
    .ifThen (condition.edited edit) (body.edited edit) (editedElseIfs edit elseIfs)
      (editedOtherwise edit otherwise) (edit.place l)
  | .forTo counter start stop step body l =>
    .forTo (edit.name counter) (start.edited edit) (stop.edited edit) (step.edited edit)
      (body.edited edit)
      (edit.place l)
  | .forEach item target body l =>
    .forEach (edit.name item) (target.edited edit) (body.edited edit) (edit.place l)
  | .whileDo condition body l => .whileDo (condition.edited edit) (body.edited edit) (edit.place l)
  | .declare name function l => .declare name (function.edited edit) (edit.place l)
  | .giveBack value l => .giveBack (editedOptional edit value) (edit.place l)
  | .setMember object name value l =>
    .setMember (object.edited edit) (edit.name name) (value.edited edit) (edit.place l)
  | .setIndex object index value l =>
    .setIndex (object.edited edit) (index.edited edit) (value.edited edit) (edit.place l)
  | .step target op l => .step (target.edited edit) op (edit.place l)
  | .library path l => .library path (edit.place l)
  | .goto label l => .goto (edit.name label) (edit.place l)
  | .label name l => .label (edit.name name) (edit.place l)
  | .exitFor l => .exitFor (edit.place l)
  | .exitWhile l => .exitWhile (edit.place l)
  | .tryCatch body name handler l =>
    .tryCatch (body.edited edit) (edit.name name) (handler.edited edit) (edit.place l)
  | .raise value l => .raise (value.edited edit) (edit.place l)
  | .endProgram l => .endProgram (edit.place l)
  | .stop l => .stop (edit.place l)
  | .block block => .block (block.edited edit)

end

mutual

theorem Expr.edited_unplacing : (e : Expr) → e.edited unplacing = e.unplaced
  | .literal _ _ | .variable _ _ => rfl
  | .binary left _ right _ => by
    rw [Expr.edited, left.edited_unplacing, right.edited_unplacing]
    rfl
  | .unary _ inner _ | .grouping inner _ | .member inner _ _ => by
    rw [Expr.edited, inner.edited_unplacing]
    rfl
  | .call callee arguments _ => by
    rw [Expr.edited, callee.edited_unplacing, edited_all_unplacing arguments]
    rfl
  | .index object index _ => by
    rw [Expr.edited, object.edited_unplacing, index.edited_unplacing]
    rfl
  | .array elements _ => by
    rw [Expr.edited, edited_all_unplacing elements]
    rfl
  | .table members _ => by
    rw [Expr.edited, edited_members_unplacing members]
    rfl
  | .function function => by
    rw [Expr.edited, function.edited_unplacing]
    rfl

theorem edited_all_unplacing : (es : List Expr) → editedAll unplacing es = unplacedAll es
  | [] => rfl
  | first :: rest => by
    rw [editedAll, first.edited_unplacing, edited_all_unplacing rest]
    rfl

theorem edited_members_unplacing :
    (ms : List Member) → editedMembers unplacing ms = unplacedMembers ms
  | [] => rfl
  | ⟨_, value, _⟩ :: rest => by
    rw [editedMembers, value.edited_unplacing, edited_members_unplacing rest]
    rfl

theorem edited_parameters_unplacing :
    (ps : List Parameter) → editedParameters unplacing ps = unplacedParameters ps
  | [] => rfl
  | ⟨_, _, default, _⟩ :: rest => by
    rw [editedParameters, edited_optional_unplacing default, edited_parameters_unplacing rest]
    rfl

theorem edited_optional_unplacing :
    (e : Option Expr) → editedOptional unplacing e = unplacedOptional e
  | none => rfl
  | some expression => by
    rw [editedOptional, expression.edited_unplacing]
    rfl

theorem Function.edited_unplacing : (f : Function) → f.edited unplacing = f.unplaced
  | ⟨_, parameters, _, body, _, _⟩ => by
    rw [Function.edited, edited_parameters_unplacing parameters, body.edited_unplacing]
    rfl

theorem Block.edited_unplacing : (b : Block) → b.edited unplacing = b.unplaced
  | ⟨statements, _⟩ => by
    rw [Block.edited, edited_statements_unplacing statements]
    rfl

theorem edited_statements_unplacing :
    (ss : List Stmt) → editedStatements unplacing ss = unplacedStatements ss
  | [] => rfl
  | first :: rest => by
    rw [editedStatements, first.edited_unplacing, edited_statements_unplacing rest]
    rfl

theorem edited_else_ifs_unplacing :
    (es : List ElseIf) → editedElseIfs unplacing es = unplacedElseIfs es
  | [] => rfl
  | ⟨condition, body⟩ :: rest => by
    rw [editedElseIfs, condition.edited_unplacing, body.edited_unplacing,
      edited_else_ifs_unplacing rest]
    rfl

theorem edited_otherwise_unplacing :
    (b : Option Block) → editedOtherwise unplacing b = unplacedOtherwise b
  | none => rfl
  | some block => by
    rw [editedOtherwise, block.edited_unplacing]
    rfl

theorem edited_items_unplacing : (is : List PrintItem) → editedItems unplacing is = unplacedItems is
  | [] => rfl
  | .expression expression :: rest => by
    rw [editedItems, expression.edited_unplacing, edited_items_unplacing rest]
    rfl
  | .zone :: rest | .join :: rest => by
    rw [editedItems, edited_items_unplacing rest]
    rfl

theorem Stmt.edited_unplacing : (s : Stmt) → s.edited unplacing = s.unplaced
  | .expression value _ | .assign _ value _ | .raise value _ | .step value _ _ => by
    rw [Stmt.edited, value.edited_unplacing]
    rfl
  | .print items _ => by
    rw [Stmt.edited, edited_items_unplacing items]
    rfl
  | .dim _ dimensions _ => by
    rw [Stmt.edited, edited_all_unplacing dimensions]
    rfl
  | .ifThen condition body elseIfs otherwise _ => by
    rw [Stmt.edited, condition.edited_unplacing, body.edited_unplacing,
      edited_else_ifs_unplacing elseIfs, edited_otherwise_unplacing otherwise]
    rfl
  | .forTo _ start stop step body _ => by
    rw [Stmt.edited, start.edited_unplacing, stop.edited_unplacing, step.edited_unplacing,
      body.edited_unplacing]
    rfl
  | .forEach _ value body _ | .whileDo value body _ => by
    rw [Stmt.edited, value.edited_unplacing, body.edited_unplacing]
    rfl
  | .declare _ function _ => by
    rw [Stmt.edited, function.edited_unplacing]
    rfl
  | .giveBack value _ => by
    rw [Stmt.edited, edited_optional_unplacing value]
    rfl
  | .setMember object _ value _ => by
    rw [Stmt.edited, object.edited_unplacing, value.edited_unplacing]
    rfl
  | .setIndex object index value _ => by
    rw [Stmt.edited, object.edited_unplacing, index.edited_unplacing, value.edited_unplacing]
    rfl
  | .tryCatch body _ handler _ => by
    rw [Stmt.edited, body.edited_unplacing, handler.edited_unplacing]
    rfl
  | .block block => by
    rw [Stmt.edited, block.edited_unplacing]
    rfl
  | .library _ _ | .goto _ _ | .label _ _ | .exitFor _ | .exitWhile _ | .endProgram _
  | .stop _ => rfl

end

end BrightScript
