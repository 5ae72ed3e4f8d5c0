import BrightScript.Proofs.Construction
import BrightScript.Proofs.Unplaced
set_option autoImplicit false

namespace BrightScript

def BinaryOp.looseness (op : BinaryOp) : Nat :=
  7 - op.level.rank

def Expr.looseness : Expr → Nat
  | .binary _ op _ _ => op.looseness
  | _ => 0

def Expr.isChain : Expr → Bool
  | .binary _ _ _ _ | .unary _ _ _ => false
  | _ => true

def Expr.Grouped : Expr → Prop
  | .binary left op right _ => left.looseness ≤ op.looseness ∧ right.looseness < op.looseness
  | .unary _ operand _ => operand.looseness = 0
  | .call head _ _ | .member head _ _ | .index head _ _ => head.isChain = true
  | _ => True

mutual

-- A check of single nodes is made of every node of an expression, those in functions included. It
-- is also told what the expression is stored in, where it is the value of an assignment.
def Expr.EveryNode (check : Option Expr → Expr → Prop) (target : Option Expr) : Expr → Prop
  | .literal value location => check target (.literal value location)
  | .variable name location => check target (.variable name location)
  | .binary left op right location =>
    check target (.binary left op right location) ∧ left.EveryNode check none ∧
      right.EveryNode check none
  | .unary op operand location =>
    check target (.unary op operand location) ∧ operand.EveryNode check none
  | .grouping inner location => check target (.grouping inner location) ∧ inner.EveryNode check none
  | .call callee arguments location =>
    check target (.call callee arguments location) ∧ callee.EveryNode check none ∧
      everyNodeIn check arguments
  | .member object name location =>
    check target (.member object name location) ∧ object.EveryNode check none
  | .index object index location =>
    check target (.index object index location) ∧ object.EveryNode check none ∧
      index.EveryNode check none
  | .array elements location => check target (.array elements location) ∧ everyNodeIn check elements
  | .table members location => check target (.table members location) ∧
      everyMemberNode check members
  | .function function => check target (.function function) ∧ function.EveryNode check

def everyNodeIn (check : Option Expr → Expr → Prop) : List Expr → Prop
  | [] => True
  | first :: rest => first.EveryNode check none ∧ everyNodeIn check rest

def everyMemberNode (check : Option Expr → Expr → Prop) : List Member → Prop
  | [] => True
  | ⟨_, value, _⟩ :: rest => value.EveryNode check none ∧ everyMemberNode check rest

def everyDefaultNode (check : Option Expr → Expr → Prop) : List Parameter → Prop
  | [] => True
  | ⟨_, _, default, _⟩ :: rest => everyOptionalNode check default ∧ everyDefaultNode check rest

def everyOptionalNode (check : Option Expr → Expr → Prop) : Option Expr → Prop
  | none => True
  | some expression => expression.EveryNode check none

def Function.EveryNode (check : Option Expr → Expr → Prop) : Function → Prop
  | ⟨_, parameters, _, body, _, _⟩ => everyDefaultNode check parameters ∧ body.EveryNode check

def Block.EveryNode (check : Option Expr → Expr → Prop) : Block → Prop
  | ⟨statements, _⟩ => everyStatementNode check statements

def everyStatementNode (check : Option Expr → Expr → Prop) : List Stmt → Prop
  | [] => True
  | first :: rest => first.EveryNode check ∧ everyStatementNode check rest

def everyElseIfNode (check : Option Expr → Expr → Prop) : List ElseIf → Prop
  | [] => True
  | ⟨condition, body⟩ :: rest =>
    condition.EveryNode check none ∧ body.EveryNode check ∧ everyElseIfNode check rest

def everyOtherwiseNode (check : Option Expr → Expr → Prop) : Option Block → Prop
  | none => True
  | some block => block.EveryNode check

def everyPrintNode (check : Option Expr → Expr → Prop) : List PrintItem → Prop
  | [] => True
  | .expression expression :: rest => expression.EveryNode check none ∧ everyPrintNode check rest
  | .zone :: rest | .join :: rest => everyPrintNode check rest

def Stmt.EveryNode (check : Option Expr → Expr → Prop) : Stmt → Prop
  | .expression value _ | .raise value _ | .step value _ _ => value.EveryNode check none
  | .print items _ => everyPrintNode check items
  | .assign name value location => value.EveryNode check (some (.variable name location))
  | .dim _ dimensions _ => everyNodeIn check dimensions
  | .ifThen condition body elseIfs otherwise _ =>
    condition.EveryNode check none ∧ body.EveryNode check ∧ everyElseIfNode check elseIfs ∧
      everyOtherwiseNode check otherwise
  | .forTo _ start stop step body _ =>
    start.EveryNode check none ∧ stop.EveryNode check none ∧ step.EveryNode check none ∧
      body.EveryNode check
  | .forEach _ value body _ | .whileDo value body _ =>
    value.EveryNode check none ∧ body.EveryNode check
  | .declare _ function _ => function.EveryNode check
  | .giveBack value _ => everyOptionalNode check value
  | .setMember object name value location =>
    object.EveryNode check none ∧ value.EveryNode check (some (.member object name location))
  | .setIndex object index value location =>
    object.EveryNode check none ∧ index.EveryNode check none ∧
      value.EveryNode check (some (.index object index location))
  | .tryCatch body _ handler _ => body.EveryNode check ∧ handler.EveryNode check
  | .block block => block.EveryNode check
  | .library _ _ | .goto _ _ | .label _ _ | .exitFor _ | .exitWhile _ | .endProgram _ | .stop _ =>
    True

end

def Expr.Canonical (e : Expr) : Prop :=
  e.EveryNode (fun _ node => node.Grouped) none

def BinaryOp.isCompound : BinaryOp → Bool
  | .add | .subtract | .multiply | .divide | .integerDivide | .leftShift | .rightShift => true
  | _ => false

-- The value that a compound assignment stores: its operator applied to its own target and to an
-- expression of any looseness.
def Expr.Compounds (target : Option Expr) : Expr → Prop
  | .binary left op _ _ =>
    op.isCompound = true ∧ target.map Expr.unplaced = some left.unplaced
  | _ => False

def Stmt.stored? : Stmt → Option Expr
  | .assign _ value _ | .setMember _ _ value _ | .setIndex _ _ value _ => some value
  | _ => none

def Expr.GroupedOrCompound (target : Option Expr) (node : Expr) : Prop :=
  node.Grouped ∨ node.Compounds target

def Expr.CanonicalBeforeCompounds (e : Expr) : Prop :=
  e.EveryNode Expr.GroupedOrCompound none

section

variable {check : Option Expr → Expr → Prop}

theorem every_node_in {es : List Expr} (every : ∀ e ∈ es, e.EveryNode check none) :
    everyNodeIn check es := by
  induction es with
  | nil => trivial
  | cons first rest ih =>
    have parts := List.forall_mem_cons.1 every
    exact ⟨parts.1, ih parts.2⟩

theorem every_member_node {ms : List Member} :
    everyMemberNode check ms ↔ ∀ m ∈ ms, m.value.EveryNode check none := by
  induction ms with
  | nil => exact ⟨fun _ _ among => absurd among List.not_mem_nil, fun _ => trivial⟩
  | cons first rest ih =>
    cases first
    rw [everyMemberNode, ih, List.forall_mem_cons]

theorem every_optional_node {value : Option Expr} (every : ∀ e ∈ value, e.EveryNode check none) :
    everyOptionalNode check value := by
  cases value with
  | none => trivial
  | some e => exact every e rfl

theorem every_default_node {ps : List Parameter}
    (every : ∀ p ∈ ps, ∀ e ∈ p.default, e.EveryNode check none) : everyDefaultNode check ps := by
  induction ps with
  | nil => trivial
  | cons first rest ih =>
    have parts := List.forall_mem_cons.1 every
    cases first
    exact ⟨every_optional_node parts.1, ih parts.2⟩

theorem every_statement_node {statements : List Stmt}
    (every : ∀ s ∈ statements, s.EveryNode check) : everyStatementNode check statements := by
  induction statements with
  | nil => trivial
  | cons first rest ih =>
    have parts := List.forall_mem_cons.1 every
    exact ⟨parts.1, ih parts.2⟩

theorem every_else_if_node {branches : List ElseIf}
    (every : ∀ b ∈ branches, b.condition.EveryNode check none ∧ b.body.EveryNode check) :
    everyElseIfNode check branches := by
  induction branches with
  | nil => trivial
  | cons first rest ih =>
    have parts := List.forall_mem_cons.1 every
    cases first
    exact ⟨parts.1.1, parts.1.2, ih parts.2⟩

theorem every_otherwise_node {otherwise : Option Block}
    (every : ∀ b ∈ otherwise, b.EveryNode check) : everyOtherwiseNode check otherwise := by
  cases otherwise with
  | none => trivial
  | some block => exact every block rfl

theorem every_print_node {items : List PrintItem}
    (every : ∀ e, PrintItem.expression e ∈ items → e.EveryNode check none) :
    everyPrintNode check items := by
  induction items with
  | nil => trivial
  | cons first rest ih =>
    have later := ih fun e among => every e (List.mem_cons_of_mem _ among)
    cases first with
    | expression e => exact ⟨every e List.mem_cons_self, later⟩
    | zone | join => exact later

end

abbrev Stmt.Sound (s : Stmt) : Prop :=
  s.EveryNode Expr.GroupedOrCompound

def Expr.Sound (n : Nat) (e : Expr) : Prop :=
  e.CanonicalBeforeCompounds ∧ e.looseness ≤ n

def Expr.SoundChain (e : Expr) : Prop :=
  e.CanonicalBeforeCompounds ∧ e.isChain = true

theorem sound_of_chain {e : Expr} (sound : e.SoundChain) (n : Nat) : e.Sound n := by
  refine ⟨sound.1, ?_⟩
  have chain := sound.2
  cases e with
  | binary | unary => cases chain
  | literal | grouping | «variable» | call | member | index | array | table | function =>
    exact Nat.zero_le n

theorem binary_sound {left right : Expr} {op : BinaryOp} {n : Nat} (loose : op.looseness = n + 1)
    (leftSound : left.Sound (n + 1)) (rightSound : right.Sound n) (location : Location) :
    (Expr.binary left op right location).Sound (n + 1) := by
  refine ⟨⟨.inl ⟨?_, ?_⟩, leftSound.1, rightSound.1⟩, Nat.le_of_eq loose⟩
  · exact loose ▸ leftSound.2
  · exact loose ▸ Nat.lt_succ_of_le rightSound.2

theorem unary_sound (op : UnaryOp) {operand : Expr} (sound : operand.Sound 0)
    (location : Location) : (Expr.unary op operand location).Sound 0 :=
  ⟨⟨.inl (Nat.le_zero.1 sound.2), sound.1⟩, Nat.le_refl 0⟩

theorem sign_compound {kind : Lexeme} {op : BinaryOp}
    (sign : Parser.assignmentSign? kind = some (some op)) : op.isCompound = true := by
  unfold Parser.assignmentSign? at sign
  split at sign <;> cases sign <;> rfl

theorem canonical_stored {e : Expr} (good : e.CanonicalBeforeCompounds) (target : Option Expr) :
    e.EveryNode Expr.GroupedOrCompound target := by
  have root {node : Expr} (whole : node.GroupedOrCompound none) :
      node.GroupedOrCompound target := by
    rcases whole with grouped | compound
    · exact .inl grouped
    · cases node with
      | binary => exact nomatch compound.2
      | literal | unary | grouping | «variable» | call | member | index | array | table
      | function =>
        exact compound.elim
  cases e with
  | literal | «variable» => exact root good
  | binary | unary | grouping | call | member | index | array | table | function =>
    exact ⟨root good.1, good.2⟩

theorem compound_stored {target value : Expr} (chain : target.SoundChain)
    (good : value.CanonicalBeforeCompounds) {op : BinaryOp} (compound : op.isCompound = true)
    (place : Expr) (same : place.unplaced = target.unplaced) (location : Location) :
    (Expr.binary target op value location).EveryNode Expr.GroupedOrCompound (some place) :=
  ⟨.inr ⟨compound, congrArg some same⟩, chain.1, good⟩

def Demands.sound : Demands where
  chain := Expr.SoundChain
  operand := Expr.Sound
  whole := Expr.CanonicalBeforeCompounds
  function := Function.EveryNode Expr.GroupedOrCompound
  block := Block.EveryNode Expr.GroupedOrCompound
  stored target value :=
    ∀ place : Expr, place.unplaced = target.unplaced →
      value.EveryNode Expr.GroupedOrCompound (some place)
  statement := Stmt.Sound

theorem sound_inherited (bound : Nat) : Demands.sound.Inherited bound where
  literal _ _ := ⟨.inl trivial, rfl⟩
  «variable» _ _ := ⟨.inl trivial, rfl⟩
  grouping _ good := ⟨⟨.inl trivial, good⟩, rfl⟩
  call _ head given := ⟨⟨.inl head.2, head.1, every_node_in given⟩, rfl⟩
  member _ _ head := ⟨⟨.inl head.2, head.1⟩, rfl⟩
  index _ head given := ⟨⟨.inl head.2, head.1, given⟩, rfl⟩
  array _ good := ⟨⟨.inl trivial, every_node_in good⟩, rfl⟩
  table _ good := ⟨⟨.inl trivial, every_member_node.2 good⟩, rfl⟩
  anonymous _ good := ⟨⟨.inl trivial, good⟩, rfl⟩
  bare chain := sound_of_chain chain 0
  unary op location inside := unary_sound op inside location
  binary location loose first second := binary_sound loose first second location
  looser good := ⟨good.1, Nat.le_succ_of_le good.2⟩
  expression good := good.1
  function {f} defaults inside := by
    cases f
    exact ⟨every_default_node defaults, inside⟩
  block _ inside := every_statement_node inside
  plain good place _ := canonical_stored good (some place)
  compound location sign chain good place same :=
    compound_stored chain good (sign_compound sign) place same location
  invocation _ _ good := good.1
  print _ good := every_print_node good
  assign _ _ kept := kept (.variable _ _) rfl
  dim _ _ _ good := every_node_in good
  ifThen _ test main others last :=
  ⟨test, main, every_else_if_node others, every_otherwise_node last⟩
  forTo _ _ starts stops steps main := ⟨starts, stops, steps, main⟩
  forEach _ _ good main := ⟨good, main⟩
  whileDo _ test main := ⟨test, main⟩
  giveBack _ good := every_optional_node good
  setMember _ _ chain kept := ⟨chain.1.2, kept (.member _ _ _) rfl⟩
  setIndex _ _ chain kept := ⟨chain.1.2.1, chain.1.2.2, kept (.index _ _ _) rfl⟩
  step _ _ _ chain := chain.1
  goto _ _ := trivial
  label _ _ := trivial
  exitFor _ := trivial
  exitWhile _ := trivial
  tryCatch _ _ main rescue := ⟨main, rescue⟩
  raise _ good := good
  endProgram _ := trivial
  stop _ := trivial

namespace Parser

structure Grammar.Sound (g : Grammar) : Prop where
  expression : Returns Expr.CanonicalBeforeCompounds g.expression
  statement : Returns Stmt.Sound g.statement

theorem expression_sound {g : Grammar} (sound : g.Sound) :
    Returns Expr.CanonicalBeforeCompounds (expression g) :=
  expression_meets (d := .sound) ⟨sound_inherited g.bound, sound.expression, sound.statement⟩

theorem grammar_sound (bound depth : Nat) : (grammar bound depth).Sound where
  expression := (grammar_meets (sound_inherited bound) depth).expression
  statement := (grammar_meets (sound_inherited bound) depth).statement

section PlainAssignments

variable {g : Grammar} {target value : Expr} {statement : Stmt} {cursor atSign after : Cursor}
  {sign : Token} {rest : List Token}

theorem plain_assignment_stored
    (read : assignment target none sign value cursor = .ok statement after) :
    statement.stored? = some value ∧ after = cursor := by
  unfold assignment at read
  cases target with
  | «variable» | member | index =>
    cases read
    exact ⟨rfl, rfl⟩
  | literal | binary | unary | grouping | call | array | table | function => cases read

theorem plain_assignment_reads (chained : chain g cursor = .ok target atSign)
    (ahead : atSign.rest = sign :: rest) (plain : sign.kind = .symbol .equal)
    (read : expressionStatement g cursor = .ok statement after) :
    ∃ value, expression g { atSign with rest := rest, previous := sign } = .ok value after ∧
      statement.stored? = some value := by
  obtain ⟨_, previous, finish, errors⟩ := atSign
  cases ahead
  unfold expressionStatement at read
  rw [bind_ran chained] at read
  have signed : assignmentSign? sign.kind = some none := by rw [plain]; rfl
  have seen : peekKind ⟨sign :: rest, previous, finish, errors⟩ = .ok sign.kind _ := rfl
  rw [bind_ran seen, signed] at read
  have passed : advance ⟨sign :: rest, previous, finish, errors⟩ =
      .ok sign ⟨rest, sign, finish, errors⟩ := rfl
  dsimp only at read
  rw [bind_ran passed] at read
  cases outcome : expression g ⟨rest, sign, finish, errors⟩ with
  | ok value reached =>
    rw [bind_ran outcome] at read
    obtain ⟨stored, rfl⟩ := plain_assignment_stored read
    exact ⟨value, rfl, stored⟩
  | error fault reached =>
    change EStateM.bind _ _ _ = _ at read
    simp only [EStateM.bind, outcome] at read
    cases read

end PlainAssignments

end Parser

end BrightScript
