import BrightScript.Tree
set_option autoImplicit false

namespace BrightScript

mutual

def Expr.unplaced : Expr → Expr
  | .literal value _ => .literal value .internal
  | .binary left op right _ => .binary left.unplaced op right.unplaced .internal
  | .unary op operand _ => .unary op operand.unplaced .internal
  | .grouping inner _ => .grouping inner.unplaced .internal
  | .variable name _ => .variable name .internal
  | .call callee arguments _ => .call callee.unplaced (unplacedAll arguments) .internal
  | .member object name _ => .member object.unplaced name .internal
  | .index object index _ => .index object.unplaced index.unplaced .internal
  | .array elements _ => .array (unplacedAll elements) .internal
  | .table members _ => .table (unplacedMembers members) .internal
  | .function function => .function function.unplaced

def unplacedAll : List Expr → List Expr
  | [] => []
  | first :: rest => first.unplaced :: unplacedAll rest

def unplacedMembers : List Member → List Member
  | [] => []
  | ⟨name, value, _⟩ :: rest => ⟨name, value.unplaced, .internal⟩ :: unplacedMembers rest

def unplacedParameters : List Parameter → List Parameter
  | [] => []
  | ⟨name, kind, default, _⟩ :: rest =>
    ⟨name, kind, unplacedOptional default, .internal⟩ :: unplacedParameters rest

def unplacedOptional : Option Expr → Option Expr
  | none => none
  | some expression => some expression.unplaced

def Function.unplaced : Function → Function
  | ⟨name, parameters, returns, body, isSub, _⟩ =>
    ⟨name, unplacedParameters parameters, returns, body.unplaced, isSub, .internal⟩

def Block.unplaced : Block → Block
  | ⟨statements, _⟩ => ⟨unplacedStatements statements, .internal⟩

def unplacedStatements : List Stmt → List Stmt
  | [] => []
  | first :: rest => first.unplaced :: unplacedStatements rest

def unplacedElseIfs : List ElseIf → List ElseIf
  | [] => []
  | ⟨condition, body⟩ :: rest => ⟨condition.unplaced, body.unplaced⟩ :: unplacedElseIfs rest

def unplacedOtherwise : Option Block → Option Block
  | none => none
  | some block => some block.unplaced

def unplacedItems : List PrintItem → List PrintItem
  | [] => []
  | .expression expression :: rest => .expression expression.unplaced :: unplacedItems rest
  | .zone :: rest => .zone :: unplacedItems rest
  | .join :: rest => .join :: unplacedItems rest

def Stmt.unplaced : Stmt → Stmt
  | .expression expression _ => .expression expression.unplaced .internal
  | .print items _ => .print (unplacedItems items) .internal
  | .assign name value _ => .assign name value.unplaced .internal
  | .dim name dimensions _ => .dim name (unplacedAll dimensions) .internal
  | .ifThen condition body elseIfs otherwise _ =>
    .ifThen condition.unplaced body.unplaced (unplacedElseIfs elseIfs) (unplacedOtherwise otherwise)
      .internal
  | .forTo counter start stop step body _ =>
    .forTo counter start.unplaced stop.unplaced step.unplaced body.unplaced .internal
  | .forEach item target body _ => .forEach item target.unplaced body.unplaced .internal
  | .whileDo condition body _ => .whileDo condition.unplaced body.unplaced .internal
  | .declare name function _ => .declare name function.unplaced .internal
  | .giveBack value _ => .giveBack (unplacedOptional value) .internal
  | .setMember object name value _ => .setMember object.unplaced name value.unplaced .internal
  | .setIndex object index value _ =>
    .setIndex object.unplaced index.unplaced value.unplaced .internal
  | .step target op _ => .step target.unplaced op .internal
  | .library path _ => .library path .internal
  | .goto label _ => .goto label .internal
  | .label name _ => .label name .internal
  | .exitFor _ => .exitFor .internal
  | .exitWhile _ => .exitWhile .internal
  | .tryCatch body name handler _ => .tryCatch body.unplaced name handler.unplaced .internal
  | .raise value _ => .raise value.unplaced .internal
  | .endProgram _ => .endProgram .internal
  | .stop _ => .stop .internal
  | .block block => .block block.unplaced

end

def Member.unplaced (m : Member) : Member :=
  ⟨m.name, m.value.unplaced, .internal⟩

theorem unplaced_all_eq (es : List Expr) : unplacedAll es = es.map Expr.unplaced := by
  induction es with
  | nil => rfl
  | cons first rest ih => rw [unplacedAll, ih, List.map_cons]

theorem unplaced_members_eq (ms : List Member) : unplacedMembers ms = ms.map Member.unplaced := by
  induction ms with
  | nil => rfl
  | cons first rest ih =>
    cases first
    rw [unplacedMembers, ih, List.map_cons, Member.unplaced]

def Parameter.unplaced (p : Parameter) : Parameter :=
  ⟨p.name, p.kind, unplacedOptional p.default, .internal⟩

theorem unplaced_parameters_eq (ps : List Parameter) :
    unplacedParameters ps = ps.map Parameter.unplaced := by
  induction ps with
  | nil => rfl
  | cons first rest ih =>
    cases first
    rw [unplacedParameters, ih, List.map_cons, Parameter.unplaced]

def PrintItem.unplaced : PrintItem → PrintItem
  | .expression value => .expression value.unplaced
  | .zone => .zone
  | .join => .join

theorem unplaced_items_eq (items : List PrintItem) :
    unplacedItems items = items.map PrintItem.unplaced := by
  induction items with
  | nil => rfl
  | cons first rest ih => cases first <;> rw [unplacedItems, ih, List.map_cons, PrintItem.unplaced]

def Expr.isCall : Expr → Bool
  | .call _ _ _ => true
  | _ => false

theorem called_unplaced (e : Expr) : e.unplaced.isCall = e.isCall := by
  cases e <;> rfl

theorem assignable_unplaced (e : Expr) : e.unplaced.isAssignable = e.isAssignable := by
  cases e <;> rfl

def Expr.stores (target value : Expr) (location : Location) : Option Stmt :=
  match target with
  | .variable name _ => some (.assign name value location)
  | .member object name _ => some (.setMember object name value location)
  | .index object place _ => some (.setIndex object place value location)
  | _ => none

theorem stores_unplaced (target value : Expr) (location : Location) :
    (target.stores value location).map Stmt.unplaced =
      target.unplaced.stores value.unplaced .internal := by
  cases target with
  | «variable» | member | index =>
    simp only [Expr.stores, Option.map_some, Stmt.unplaced]
    rfl
  | _ => rfl

end BrightScript
