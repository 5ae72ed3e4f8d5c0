import BrightScript.Proofs.Confinement
import BrightScript.Proofs.Construction
set_option autoImplicit false

/-!
Well-formed programs. The type of trees admits statements in places where no program has them, such
as a declaration inside a loop. What may stand where is said here by one rule for each form; every
program that the parser returns follows these rules, however faulty the tokens it was read from.
-/

namespace BrightScript

mutual

inductive Expr.WellFormed : Expr → Prop
  | literal (value : Scalar) (location : Location) : Expr.WellFormed (.literal value location)
  | «variable» (name : String) (location : Location) : Expr.WellFormed (.variable name location)
  | binary {left right : Expr} (op : BinaryOp) (location : Location) (first : left.WellFormed)
      (second : right.WellFormed) : Expr.WellFormed (.binary left op right location)
  | unary {operand : Expr} (op : UnaryOp) (location : Location) (inside : operand.WellFormed) :
      Expr.WellFormed (.unary op operand location)
  | grouping {inner : Expr} (location : Location) (inside : inner.WellFormed) :
      Expr.WellFormed (.grouping inner location)
  | call {callee : Expr} {arguments : List Expr} (location : Location) (head : callee.WellFormed)
      (given : ∀ argument ∈ arguments, argument.WellFormed) :
      Expr.WellFormed (.call callee arguments location)
  | member {object : Expr} (name : String) (location : Location) (head : object.WellFormed) :
      Expr.WellFormed (.member object name location)
  | index {object index : Expr} (location : Location) (head : object.WellFormed)
      (given : index.WellFormed) : Expr.WellFormed (.index object index location)
  | array {elements : List Expr} (location : Location)
      (inside : ∀ element ∈ elements, element.WellFormed) :
      Expr.WellFormed (.array elements location)
  | table {members : List Member} (location : Location)
      (inside : ∀ member ∈ members, member.value.WellFormed) :
      Expr.WellFormed (.table members location)
  | function {function : Function} (anonymous : function.name = none)
      (inside : function.WellFormed) : Expr.WellFormed (.function function)

inductive Function.WellFormed : Function → Prop
  | mk {function : Function}
      (defaults : ∀ parameter ∈ function.parameters, ∀ default ∈ parameter.default,
        default.WellFormed)
      (inside : function.body.WellFormed) : function.WellFormed

inductive Block.WellFormed : Block → Prop
  | mk {block : Block} (inside : ∀ statement ∈ block.statements, statement.WellFormed) :
      block.WellFormed

inductive ElseIf.WellFormed : ElseIf → Prop
  | mk {branch : ElseIf} (test : branch.condition.WellFormed) (main : branch.body.WellFormed) :
      branch.WellFormed

-- The statements of blocks. There is no rule for declarations, for libraries and for blocks that
-- stand by themselves.
inductive Stmt.WellFormed : Stmt → Prop
  | expression {callee : Expr} {arguments : List Expr} (place location : Location)
      (inside : (Expr.call callee arguments place).WellFormed) :
      Stmt.WellFormed (.expression (.call callee arguments place) location)
  | print {items : List PrintItem} (location : Location)
      (inside : ∀ value, PrintItem.expression value ∈ items → value.WellFormed) :
      Stmt.WellFormed (.print items location)
  | assign {value : Expr} (name : String) (location : Location) (stored : value.WellFormed) :
      Stmt.WellFormed (.assign name value location)
  | dim {dimensions : List Expr} (name : String) (location : Location) (some : dimensions ≠ [])
      (inside : ∀ dimension ∈ dimensions, dimension.WellFormed) :
      Stmt.WellFormed (.dim name dimensions location)
  | ifThen {condition : Expr} {body : Block} {elseIfs : List ElseIf} {otherwise : Option Block}
      (location : Location) (test : condition.WellFormed) (main : body.WellFormed)
      (others : ∀ branch ∈ elseIfs, branch.WellFormed)
      (last : ∀ block ∈ otherwise, block.WellFormed) :
      Stmt.WellFormed (.ifThen condition body elseIfs otherwise location)
  | forTo {start stop step : Expr} {body : Block} (counter : String) (location : Location)
      (from_ : start.WellFormed) (upTo : stop.WellFormed) (by_ : step.WellFormed)
      (main : body.WellFormed) : Stmt.WellFormed (.forTo counter start stop step body location)
  | forEach {target : Expr} {body : Block} (item : String) (location : Location)
      (among : target.WellFormed) (main : body.WellFormed) :
      Stmt.WellFormed (.forEach item target body location)
  | whileDo {condition : Expr} {body : Block} (location : Location) (test : condition.WellFormed)
      (main : body.WellFormed) : Stmt.WellFormed (.whileDo condition body location)
  | giveBack {value : Option Expr} (location : Location)
      (inside : ∀ given ∈ value, given.WellFormed) : Stmt.WellFormed (.giveBack value location)
  | setMember {object value : Expr} (name : String) (location : Location) (head : object.WellFormed)
      (stored : value.WellFormed) : Stmt.WellFormed (.setMember object name value location)
  | setIndex {object index value : Expr} (location : Location) (head : object.WellFormed)
      (given : index.WellFormed) (stored : value.WellFormed) :
      Stmt.WellFormed (.setIndex object index value location)
  | step {target : Expr} (op : StepOp) (location : Location)
      (assignable : target.isAssignable = true) (inside : target.WellFormed) :
      Stmt.WellFormed (.step target op location)
  | goto (label : String) (location : Location) : Stmt.WellFormed (.goto label location)
  | label (name : String) (location : Location) : Stmt.WellFormed (.label name location)
  | exitFor (location : Location) : Stmt.WellFormed (.exitFor location)
  | exitWhile (location : Location) : Stmt.WellFormed (.exitWhile location)
  | tryCatch {body handler : Block} (name : String) (location : Location) (main : body.WellFormed)
      (rescue : handler.WellFormed) : Stmt.WellFormed (.tryCatch body name handler location)
  | raise {value : Expr} (location : Location) (inside : value.WellFormed) :
      Stmt.WellFormed (.raise value location)
  | endProgram (location : Location) : Stmt.WellFormed (.endProgram location)
  | stop (location : Location) : Stmt.WellFormed (.stop location)

end

inductive Stmt.WellPlaced : Stmt → Prop
  | library (path : String) (location : Location) : Stmt.WellPlaced (.library path location)
  | declare {name : String} {function : Function} (location : Location)
      (named : function.name = some name) (inside : function.WellFormed) :
      Stmt.WellPlaced (.declare name function location)
  | inner {statement : Stmt} (inside : statement.WellFormed) : statement.WellPlaced

def Stmt.isLibrary : Stmt → Bool
  | .library _ _ => true
  | _ => false

structure WellOrdered (librariesAllowed : Bool) (statements : List Stmt) : Prop where
  placed : ∀ statement ∈ statements, statement.WellPlaced
  ordered : ∃ libraries others, statements = libraries ++ others ∧
    (∀ s ∈ libraries, s.isLibrary = true) ∧
    (∀ s ∈ others, s.isLibrary = false) ∧ (librariesAllowed = false → libraries = [])

theorem Stmt.WellFormed.not_library {statement : Stmt} (formed : statement.WellFormed) :
    statement.isLibrary = false := by
  cases formed <;> rfl

theorem WellOrdered.nil (librariesAllowed : Bool) : WellOrdered librariesAllowed [] :=
  ⟨by simp, [], [], rfl, by simp, by simp, fun _ => rfl⟩

theorem WellOrdered.cons {statement : Stmt} {later : List Stmt} {librariesAllowed : Bool}
    (placed : statement.WellPlaced) (allowed : statement.isLibrary = true → librariesAllowed = true)
    (rest : WellOrdered statement.isLibrary later) :
    WellOrdered librariesAllowed (statement :: later) := by
  refine ⟨List.forall_mem_cons.2 ⟨placed, rest.placed⟩, ?_⟩
  obtain ⟨libraries, others, rfl, areLibraries, areOthers, none⟩ := rest.ordered
  cases isLibrary : statement.isLibrary with
  | true =>
    refine ⟨statement :: libraries, others, rfl, List.forall_mem_cons.2 ⟨isLibrary, areLibraries⟩,
      areOthers, ?_⟩
    intro refused
    rw [allowed isLibrary] at refused
    cases refused
  | false =>
    rw [none isLibrary]
    exact ⟨[], statement :: others, rfl, by simp, List.forall_mem_cons.2 ⟨isLibrary, areOthers⟩,
      fun _ => rfl⟩

theorem WellOrdered.weaken {statements : List Stmt} {allowed librariesAllowed : Bool}
    (fewer : allowed = true → librariesAllowed = true) (ordered : WellOrdered allowed statements) :
    WellOrdered librariesAllowed statements := by
  obtain ⟨libraries, others, shape, areLibraries, areOthers, none⟩ := ordered.ordered
  refine ⟨ordered.placed, libraries, others, shape, areLibraries, areOthers, fun refused => none ?_⟩
  cases allowed with
  | true =>
    rw [fewer rfl] at refused
    cases refused
  | false => rfl

def Demands.formed : Demands where
  chain := Expr.WellFormed
  operand _ := Expr.WellFormed
  whole := Expr.WellFormed
  function := Function.WellFormed
  block := Block.WellFormed
  stored _ value := value.WellFormed
  statement := Stmt.WellFormed

theorem formed_inherited {bound : Nat} (repeats : 0 < bound) : Demands.formed.Inherited bound where
  literal := .literal
  «variable» := .variable
  grouping := .grouping
  call location head given := .call location head given
  member name location head := .member name location head
  index location head given := .index location head given
  array location inside := .array location inside
  table location inside := .table location inside
  anonymous none inside := .function none inside
  bare chain := chain
  unary op location inside := .unary op location inside
  binary location _ first second := .binary _ location first second
  looser inside := inside
  expression inside := inside
  function defaults inside := .mk defaults inside
  block _ inside := .mk inside
  plain stored := stored
  compound location _ into stored := .binary _ location into stored
  invocation place location inside := .expression place location inside
  print location inside := .print location inside
  assign _ location stored := .assign _ location stored
  dim name location some inside := .dim name location (some repeats) inside
  ifThen location test main others last :=
    .ifThen location test main
      (fun branch among => .mk (others branch among).1 (others branch among).2) last
  forTo counter location starts stops steps main := .forTo counter location starts stops steps main
  forEach item location among main := .forEach item location among main
  whileDo location test main := .whileDo location test main
  giveBack location inside := .giveBack location inside
  setMember _ location into stored := by
    cases into with
    | member _ _ head => exact .setMember _ location head stored
  setIndex _ location into stored := by
    cases into with
    | index _ head given => exact .setIndex location head given stored
  step op location assignable inside := .step op location assignable inside
  goto := .goto
  label := .label
  exitFor := .exitFor
  exitWhile := .exitWhile
  tryCatch name location main rescue := .tryCatch name location main rescue
  raise location inside := .raise location inside
  endProgram := .endProgram
  stop := .stop

namespace Parser

structure Grammar.Formed (g : Grammar) : Prop where
  expression : Returns Expr.WellFormed g.expression
  statement : Returns Stmt.WellFormed g.statement
  repeats : 0 < g.bound

theorem Grammar.Formed.meets {g : Grammar} (formed : g.Formed) : g.Meets .formed :=
  ⟨formed_inherited formed.repeats, formed.expression, formed.statement⟩

theorem grammar_formed {bound : Nat} (repeats : 0 < bound) (depth : Nat) :
    (grammar bound depth).Formed where
  expression := (grammar_meets (formed_inherited repeats) depth).expression
  statement := (grammar_meets (formed_inherited repeats) depth).statement
  repeats := by cases depth <;> exact repeats

variable {g : Grammar}

theorem declaration_formed (formed : g.Formed) :
    Returns (fun s => s.WellPlaced ∧ s.isLibrary = false) (declaration g) := by
  refine returns_last fun kind => returns_last fun second => ?_
  split
  · refine returns_bind (function_literal_meets formed.meets true) fun function good => ?_
    refine returns_pure _ ⟨.declare _ ?_ good.1, rfl⟩
    obtain ⟨name, named⟩ := Option.isSome_iff_exists.1 good.2
    rw [named, Option.getD_some]
  · exact returns_mono (statement_meets formed.meets) fun _ good => ⟨.inner good, good.not_library⟩

theorem library_statement_formed :
    Returns (fun s => s.WellPlaced ∧ s.isLibrary = true) libraryStatement :=
  returns_last fun _ => returns_last fun _ => returns_last fun _ =>
    returns_pure _ ⟨.library _ _, rfl⟩

theorem top_statement_formed (formed : g.Formed) {librariesAllowed : Bool} {c next : Cursor}
    {statement : Stmt} (ran : topStatement g librariesAllowed c = .ok statement next) :
    statement.WellPlaced ∧ statement.isLibrary =
      (librariesAllowed && c.nextKind == .word .library) := by
  have separated {gives : Stmt → Prop} {x : Parse Stmt} (returns : Returns gives x) :
      Returns gives (x >>= fun result => statementSeparator >>= fun _ => pure result) :=
    returns_bind returns fun result good => returns_last fun _ => returns_pure result good
  rw [top_statement_eq] at ran
  change ((if (c.nextKind == .word .library) = true then
      if librariesAllowed = true then libraryStatement else fail .libraryNotAtTop
    else declaration g : Parse Stmt) >>= fun result => statementSeparator >>= fun _ => pure result)
      c = _ at ran
  generalize (c.nextKind == .word .library) = atLibrary at ran ⊢
  cases atLibrary with
  | false =>
    rw [Bool.and_false]
    exact separated (declaration_formed formed) _ _ _ ran
  | true =>
    cases librariesAllowed with
    | true => exact separated library_statement_formed _ _ _ ran
    | false =>
      have never : Returns (fun _ => False) (fail .libraryNotAtTop : Parse Stmt) :=
        returns_last fun _ => returns_throw _
      exact (separated never _ _ _ ran).elim

theorem top_statements_formed (formed : g.Formed) (bound : Nat) (librariesAllowed : Bool)
    (c next : Cursor) (statements : List Stmt)
    (ran : topStatements g bound librariesAllowed c = .ok statements next) :
    WellOrdered librariesAllowed statements := by
  induction bound generalizing librariesAllowed c statements with
  | zero =>
    cases ran
    exact .nil librariesAllowed
  | succ bound ih =>
    by_cases done : (skipped c).nextKind = .eof
    · rw [top_statements_end done] at ran
      cases ran
      exact .nil librariesAllowed
    · obtain ⟨result, middle, first⟩ :=
        recover_returns (topStatement g librariesAllowed) (skipped c)
      rw [top_statements_step done first] at ran
      generalize allowed : (librariesAllowed && (skipped c).nextKind == .word .library) =
        more at ran
      obtain ⟨later, last, second⟩ := top_statements_returns g bound more middle
      rw [second] at ran
      cases ran
      have rest := ih more middle later second
      have fewer : more = true → librariesAllowed = true := by
        intro still
        rw [still] at allowed
        exact (Bool.and_eq_true_iff.1 allowed).1
      cases result with
      | none => exact rest.weaken fewer
      | some statement =>
        rw [recover_run] at first
        split at first
        · rename_i read
          cases first
          obtain ⟨placed, isLibrary⟩ := top_statement_formed formed read
          rw [allowed] at isLibrary
          rw [← isLibrary] at rest fewer
          exact .cons placed fewer rest
        · cases first

end Parser

/-- Whatever the tokens, and also when there are faults among them, the program that is returned is
well-formed: libraries come first, functions are declared under their own names and only in the file
itself, and what stands in blocks, in the bodies of functions included, follows the rules for
statements of blocks. -/
theorem parsed_well_formed (tokens : List Token) : WellOrdered true (parse tokens).statements := by
  obtain ⟨statements, next, ran⟩ := Parser.top_statements_returns
    (Parser.grammar (tokens.length + 1) (tokens.length + 1)) (tokens.length + 1) true
      (Parser.Cursor.start tokens)
  rw [Parser.parse_eq, ran]
  exact Parser.top_statements_formed (Parser.grammar_formed (Nat.succ_pos _) _) _ _ _ _ _ ran

end BrightScript
