import BrightScript.Tree.Statement
import BrightScript.Proofs.GrammarRuns
import BrightScript.Proofs.OwnTokens
import BrightScript.Proofs.Precedence
set_option autoImplicit false

namespace BrightScript

def Expr.compounded (target : Expr) (op : Option BinaryOp) (value : Expr) : Expr :=
  match op with
  | none => value
  | some op => .binary target op value (target.location.through value.location)

theorem compounded_unplaced {target twin value other : Expr} (op : Option BinaryOp)
    (same : target.unplaced = twin.unplaced) (alike : value.unplaced = other.unplaced) :
    (target.compounded op value).unplaced = (twin.compounded op other).unplaced := by
  cases op with
  | none => exact alike
  | some op => simp only [Expr.compounded, Expr.unplaced, same, alike]

theorem stored_unplaced {target twin value other : Expr} (op : Option BinaryOp)
    (same : target.unplaced = twin.unplaced) (alike : value.unplaced = other.unplaced)
    (location place : Location) :
    (target.stores (target.compounded op value) location).map Stmt.unplaced =
      (twin.stores (twin.compounded op other) place).map Stmt.unplaced := by
  rw [stores_unplaced, stores_unplaced, same, compounded_unplaced op same alike]

namespace Parser

theorem assignment_eq (target : Expr) (op : Option BinaryOp) (sign : Token) (value : Expr) :
    assignment target op sign value =
      match target.stores (target.compounded op value) (target.location.through value.location) with
      | some statement => pure statement
      | none => failAt .invalidAssignmentTarget sign.location := by
  cases target <;> rfl

theorem step_statement_eq (target : Expr) (op : StepOp) :
    stepStatement target op = (do
      let sign ← advance
      if !target.isAssignable then
        failAt (if target.isCall then .incrementOnCall else .incrementOnNonAssignable) sign.location
      else if (stepOp? (← peekKind)).isSome then fail .consecutiveIncrement
      else pure (.step target op (target.location.through sign.location))) := by
  cases target <;> rfl

variable {α γ : Type}

section

variable {f : α → γ} {item : Parse α} (reads : Insular anything nowhere false f item item)

include reads

theorem comma_list_insular (bound : Nat) :
    Insular anything nowhere false (List.map f) (commaList item bound) (commaList item bound) := by
  induction bound with
  | zero => exact .pure rfl
  | succ bound ih =>
    refine reads.bind fun value other same => .bind_same (.accept (by decide)) fun more => ?_
    refine .ite (fun _ => ?_) fun _ => ?_
    · exact ih.bind fun later others alike => .pure (by simp only [List.map_cons, same, alike])
    · exact .pure (by simp only [List.map_cons, same, List.map_nil])

theorem items_until_insular (close : Symbol) (bound : Nat) :
    Insular anything nowhere false (List.map f) (itemsUntil close item bound)
      (itemsUntil close item bound) := by
  induction bound with
  | zero => exact .pure rfl
  | succ bound ih =>
    refine .check (.pure rfl) (reads.bind fun value other same => ?_)
    refine .bind_same (.accept (by decide)) fun separated => .bind_same (.skip_while _) fun _ => ?_
    refine .previous fun last before feed => ?_
    rw [feed]
    refine .ite (fun _ => ?_) fun _ => ?_
    · exact ih.bind fun later others alike => .pure (by simp only [List.map_cons, same, alike])
    · exact .pure (by simp only [List.map_cons, same, List.map_nil])

end

section

variable {ends : Lexeme → Prop} {operand : Parse Expr}
  (reads : Insular anything ends true Expr.unplaced operand operand)

include reads

theorem operands_insular (level : Level)
    (closed : ∀ kind, ends kind → operatorAt? level kind = none) (bound : Nat) {left twin : Expr}
    (same : left.unplaced = twin.unplaced) :
    Insular anything ends false Expr.unplaced (operands level operand bound left)
      (operands level operand bound twin) := by
  induction bound generalizing left twin with
  | zero => exact .pure same
  | succ bound ih =>
    refine .peek_kind_open (fun kind closes => ⟨left, twin, same, rfl, by rw [closed kind closes]⟩)
      fun kind => ?_
    cases found : operatorAt? level kind with
    | none => exact .pure same
    | some op =>
      refine .and_then (.advance_at (operator_in_line found).1) fun _ _ _ => ?_
      refine reads.and_then fun right other alike => ih ?_
      simp only [makeBinary, Expr.unplaced, same, alike]

theorem at_level_insular (level : Level)
    (closed : ∀ kind, ends kind → operatorAt? level kind = none) (bound : Nat) :
    Insular anything ends true Expr.unplaced (atLevel level bound operand)
      (atLevel level bound operand) :=
  reads.and_then fun _ _ same => operands_insular reads level closed bound same

theorem signed_insular (bound : Nat) :
    Insular anything ends true Expr.unplaced (signed operand bound) (signed operand bound) := by
  induction bound with
  | zero => exact reads
  | succ bound ih =>
    refine .peek_kind fun kind => ?_
    split
    · refine .bind (.advance_at (by decide)) fun _ _ _ =>
        ih.and_then fun inner other same => .pure ?_
      simp only [Expr.unplaced, same]
    · refine .bind (.advance_at (by decide)) fun _ _ _ =>
        ih.and_then fun inner other same => .pure ?_
      simp only [Expr.unplaced, same]
    · exact .bind (.advance_at (by decide)) fun _ _ _ => ih
    · exact reads.anywhere

end

section

variable {ahead ends : Lexeme → Prop} {moves : Bool}

theorem member_name_insular : Insular anything ends moves id memberName memberName := by
  unfold memberName
  refine .slack (.peek fun token place => .ite (fun named => ?_) fun _ => .fail_expected _)
  refine .and_then (.advance_at fun same => ?_) fun _ _ _ => .pure rfl
  simp [same, Lexeme.isKeyword] at named

theorem accept_as_insular : Insular ahead nowhere false id acceptAs acceptAs := by
  unfold acceptAs
  refine .peek fun token place => .ite (fun isAs => ?_) fun _ => .pure rfl
  refine .bind (.advance_at fun same => ?_) fun _ _ _ => .pure rfl
  simp [same] at isAs

theorem type_name_insular : Insular ahead nowhere false id typeName typeName := by
  unfold typeName
  refine .peek fun token place => ?_
  dsimp only
  cases found : if mayNameType token.kind = true then Kind.ofTypeName? token.text else none with
  | none => exact .fail_expected _
  | some kind =>
    refine .bind (.advance_at fun same => ?_) fun _ _ _ => .pure rfl
    simp [same, mayNameType] at found

theorem return_kind_insular (isSub : Bool) :
    Insular ahead nowhere false id (returnKind isSub) (returnKind isSub) := by
  unfold returnKind
  exact accept_as_insular.bind_same fun found =>
    .ite (fun _ => type_name_insular) fun _ => .pure rfl

theorem consume_newline_insular : Insular ahead nowhere false id consumeNewline consumeNewline := by
  unfold consumeNewline
  refine .peek_kind fun kind => .ite (fun _ => ?_) fun _ =>
    .ite (fun _ => .fail_expected _) fun _ => .pure rfl
  exact .bind .advance_past fun _ _ _ => .pure rfl

theorem statement_separator_insular :
    Insular ahead nowhere false id statementSeparator statementSeparator := by
  unfold statementSeparator
  refine .peek_kind fun kind => .ite (fun _ => ?_) fun _ =>
    .ite (fun _ => .fail_expected _) fun _ => .pure rfl
  exact .bind .advance_past fun _ _ _ => .pure rfl

end

structure Grammar.Insulated (g : Grammar) : Prop where
  expression : Insular anything (Stops 7) true Expr.unplaced g.expression g.expression
  statement : Insular anything nowhere false Stmt.unplaced g.statement g.statement

section

variable {g : Grammar} (level : g.Insulated) {ends : Lexeme → Prop} {moves : Bool}

include level

theorem arguments_insular :
    Insular anything ends moves (List.map Expr.unplaced) (arguments g) (arguments g) := by
  unfold arguments
  have list := comma_list_insular level.expression.within g.bound
  refine .slack (.check_bind (.pure rfl) list fun values others same => ?_)
  exact .and_then (.consume (by decide)) fun _ _ _ => .pure same

theorem indices_insular (bound : Nat) {object twin : Expr}
    (same : object.unplaced = twin.unplaced) :
    Insular anything nowhere false Expr.unplaced (indices g bound object)
      (indices g bound twin) := by
  induction bound generalizing object twin with
  | zero => exact .pure same
  | succ bound ih =>
    refine level.expression.within.bind fun index other alike => .span_from fun location place => ?_
    have indexed : (Expr.index object index location).unplaced =
        (Expr.index twin other place).unplaced := by
      simp only [Expr.unplaced, same, alike]
    exact .bind_same (.accept (by decide)) fun more => .ite (fun _ => ih indexed) fun _ =>
      .pure indexed

theorem accesses_insular (bound : Nat) {head twin : Expr} (same : head.unplaced = twin.unplaced) :
    Insular anything (Stops 0) false Expr.unplaced (accesses g bound head)
      (accesses g bound twin) := by
  induction bound generalizing head twin with
  | zero => exact .pure same
  | succ bound ih =>
    refine .peek_kind_open (fun kind closes => ⟨head, twin, same, rfl, ?_⟩) fun kind => ?_
    · split
      · exact nomatch closes.access
      · exact nomatch closes.access
      · exact nomatch closes.access
      · rfl
    split
    · refine .and_then (.advance_at (by decide)) fun _ _ _ => ?_
      refine (arguments_insular level).and_then fun values others alike =>
        .span_from fun location place => ih ?_
      simp only [Expr.unplaced, unplaced_all_eq, same, alike]
    · refine .and_then (.advance_at (by decide)) fun _ _ _ => ?_
      refine member_name_insular.and_then fun name other alike =>
        .span_from fun location place => ih ?_
      obtain rfl : name = other := alike
      simp only [Expr.unplaced, same]
    · refine .and_then (.advance_at (by decide)) fun _ _ _ => .slack ?_
      refine (indices_insular level g.bound same).bind fun indexed other alike => ?_
      exact .and_then (.consume (by decide)) fun _ _ _ => ih alike
    · exact .pure same

theorem parameter_insular :
    Insular anything nowhere false Parameter.unplaced (parameter g) (parameter g) := by
  unfold parameter
  refine .bind (.consume (by decide)) fun token other same => ?_
  have text := Token.same_text same
  refine .bind_same (.accept (by decide)) fun optional => ?_
  refine .ite_bind (f := unplacedOptional)
    (fun _ => level.expression.within.map fun _ _ alike => ?_)
    (fun _ => .pure rfl) fun default fallback alike => ?_
  · simp only [unplacedOptional, alike]
  refine accept_as_insular.bind_same fun typed => ?_
  rw [text]
  refine .ite_bind (f := id) (fun _ => type_name_insular) (fun _ => .pure rfl)
    fun kind declared same => ?_
  refine .span_from fun location place => .pure ?_
  obtain rfl : kind = declared := same
  simp only [Parameter.unplaced, alike]

theorem parameters_insular :
    Insular anything nowhere false (List.map Parameter.unplaced) (parameters g) (parameters g) := by
  unfold parameters
  refine .check_bind (.pure rfl) (comma_list_insular (parameter_insular level) g.bound)
    fun values others same => ?_
  exact .bind (.consume (by decide)) fun _ _ _ => .pure same

theorem block_statement_insular (terminators : List Keyword) :
    Insular anything nowhere false Stmt.unplaced (blockStatement g terminators)
      (blockStatement g terminators) := by
  unfold blockStatement
  refine level.statement.bind fun statement other same => .peek_kind fun kind => ?_
  exact .unless_bind (fun _ => statement_separator_insular) (.pure same)

theorem block_statements_insular (terminators : List Keyword) (bound : Nat) :
    Insular anything nowhere false unplacedStatements (blockStatements g terminators bound)
      (blockStatements g terminators bound) := by
  induction bound with
  | zero => exact .pure rfl
  | succ bound ih =>
    refine .bind_same (.skip_while _) fun _ => .peek_kind fun kind => ?_
    refine .ite (fun _ => .pure rfl) fun _ => .ite (fun _ => .fail_expected _) fun _ => ?_
    refine (block_statement_insular level terminators).anywhere.recover.bind
      fun result other same => ?_
    cases result with
    | none =>
      obtain rfl : other = none := Option.map_eq_none_iff.1 same.symm
      exact ih
    | some statement =>
      obtain ⟨twin, rfl, alike⟩ := Option.map_eq_some_iff.1 same.symm
      refine ih.bind fun later others following => .pure ?_
      simp only [unplacedStatements, alike, following]

theorem block_insular (terminators : List Keyword) :
    Insular anything nowhere false Block.unplaced (block g terminators) (block g terminators) := by
  unfold block
  refine .previous fun last before _ => ?_
  refine (block_statements_insular level terminators g.bound).bind fun statements others same => ?_
  refine .peek fun next place => .pure ?_
  simp only [Block.unplaced, same]

theorem function_literal_insular (named : Bool) :
    Insular (fun kind => kind = .word .function ∨ kind = .word .sub) ends moves Function.unplaced
      (functionLiteral g named) (functionLiteral g named) := by
  unfold functionLiteral
  refine .slack (.bind (.advance ?_) fun keyword other same => ?_)
  · rintro kind (rfl | rfl) <;> decide
  rw [← Token.same_kind same]
  refine .ite_bind (f := id) (fun _ => .map (.consume (by decide)) fun name other same => ?_)
    (fun _ => .pure rfl)
    fun name other same => ?_
  · exact congrArg some (Token.same_text same)
  obtain rfl : name = other := same
  refine .bind (.consume (by decide)) fun _ _ _ => ?_
  refine (parameters_insular level).bind fun values others same => ?_
  refine (return_kind_insular _).bind_same fun returns =>
    consume_newline_insular.bind_same fun _ => ?_
  refine (block_insular level _).bind fun body other alike => ?_
  refine .and_then (.consume (by simp)) fun _ _ _ => .span_from fun location place => .pure ?_
  simp only [Function.unplaced, unplaced_parameters_eq, same, alike]

theorem table_member_insular :
    Insular anything nowhere false Member.unplaced (tableMember g) (tableMember g) := by
  unfold tableMember
  refine .peek fun key place => ?_
  have named : memberKey? { key with location := place } = memberKey? key := rfl
  rw [named]
  cases found : memberKey? key with
  | none => exact .fail_expected _
  | some name =>
    refine .bind (.advance_at fun same => ?_) fun _ _ _ =>
      .bind (.consume (by decide)) fun _ _ _ => ?_
    · simp [memberKey?, same] at found
    refine level.expression.within.bind fun value other same =>
      .span_from fun location place => .pure ?_
    simp only [Member.unplaced, same]

theorem primary_insular : Insular anything ends moves Expr.unplaced (primary g) (primary g) := by
  have elements := items_until_insular level.expression.within .rightSquare g.bound
  have members := items_until_insular (table_member_insular level) .rightBrace g.bound
  unfold primary
  refine .slack (.peek fun token place => ?_)
  generalize token.kind = kind
  split
  · exact .and_then (.advance_at (by decide)) fun _ _ _ => .pure rfl
  · refine .bind (.advance_at (by decide)) fun _ _ _ =>
      level.expression.within.bind fun inner other same => ?_
    refine .and_then (.consume (by decide)) fun _ _ _ => .span_from fun location place => .pure ?_
    simp only [Expr.unplaced, same]
  · refine .bind (.advance_at (by decide)) fun _ _ _ => .bind_same (.skip_while _) fun _ => ?_
    refine elements.bind fun values others same => ?_
    refine .and_then (.consume (by decide)) fun _ _ _ => .span_from fun location place => .pure ?_
    simp only [Expr.unplaced, unplaced_all_eq, same]
  · refine .bind (.advance_at (by decide)) fun _ _ _ => .bind_same (.skip_while _) fun _ => ?_
    refine members.bind fun values others same => ?_
    refine .and_then (.consume (by decide)) fun _ _ _ => .span_from fun location place => .pure ?_
    simp only [Expr.unplaced, unplaced_members_eq, same]
  · refine .and_then ((function_literal_insular level false).at_kind (.inl rfl))
      fun function other same => .pure ?_
    simp only [Expr.unplaced, same]
  · refine .and_then ((function_literal_insular level false).at_kind (.inr rfl))
      fun function other same => .pure ?_
    simp only [Expr.unplaced, same]
  · refine .ite (fun literal => ?_) fun _ => .fail_expected _
    refine .and_then (.advance_at ?_) fun _ _ _ => .pure rfl
    rintro rfl
    cases literal

theorem chain_insular : Insular anything (Stops 0) true Expr.unplaced (chain g) (chain g) :=
  (primary_insular level).and_then fun _ _ same => accesses_insular level g.bound same

theorem expression_insular :
    Insular anything (Stops 7) true Expr.unplaced (expression g) (expression g) := by
  have closed (tier : Nat) (low : tier < 7) (kind : Lexeme) (stops : Stops 7 kind) :
      operatorAt? (levelAt tier) kind = none :=
    no_operator_at low (stops_mono low stops)
  have operand : Insular anything (Stops 7) true Expr.unplaced (chain g) (chain g) :=
    (chain_insular level).closes_before fun _ => stops_mono (Nat.zero_le 7)
  unfold expression
  have power := at_level_insular (signed_insular operand g.bound) .power
      (closed 0 (by decide)) g.bound
  have multiplicative := at_level_insular power .multiplicative (closed 1 (by decide)) g.bound
  have additive := at_level_insular multiplicative .additive (closed 2 (by decide)) g.bound
  have shift := at_level_insular additive .shift (closed 3 (by decide)) g.bound
  have relational := at_level_insular shift .relational (closed 4 (by decide)) g.bound
  have conjunction := at_level_insular relational .and (closed 5 (by decide)) g.bound
  exact at_level_insular conjunction .or (closed 6 (by decide)) g.bound

end

-- Statements. What they do at the end of the tokens is left open.

theorem loop_end_insular : Insular anything nowhere false id loopEnd loopEnd := by
  unfold loopEnd
  refine .peek_kind fun kind => ?_
  split
  · exact .bind (.advance_at (by decide)) fun _ _ _ => .pure rfl
  · refine .bind (.advance_at (by decide)) fun _ _ _ => ?_
    exact .bind_same (.accept (by decide)) fun _ => .pure rfl
  · exact .fail_expected _

theorem goto_statement_insular :
    Insular (· = .word .goto) nowhere false Stmt.unplaced gotoStatement gotoStatement := by
  unfold gotoStatement
  refine .bind (.advance_at (by decide)) fun _ _ _ =>
    .bind (.consume (by decide)) fun label other same => ?_
  refine .span_from fun location place => .pure ?_
  simp only [Stmt.unplaced, Token.same_text same]

theorem word_statement_insular {kind : Lexeme} (inside : kind ≠ .eof) {make : Location → Stmt}
    (same : ∀ location place, (make location).unplaced = (make place).unplaced) :
    Insular (· = kind) nowhere false Stmt.unplaced (wordStatement make) (wordStatement make) :=
  .bind (.advance_at inside) fun _ _ _ => .pure (same _ _)

theorem label_statement_insular :
    Insular (· = .identifier) nowhere false Stmt.unplaced labelStatement labelStatement := by
  unfold labelStatement
  refine .bind (.advance_at (by decide)) fun name other same => .bind .advance_past fun _ _ _ => ?_
  refine .span_from fun location place => .pure ?_
  simp only [Stmt.unplaced, Token.same_text same]

theorem assignment_insular {ahead : Lexeme → Prop} {target twin value other : Expr}
    (op : Option BinaryOp) (same : target.unplaced = twin.unplaced)
    (alike : value.unplaced = other.unplaced) (sign mark : Token) :
    Insular ahead nowhere false Stmt.unplaced (assignment target op sign value)
      (assignment twin op mark other) := by
  have stored := stored_unplaced op same alike (target.location.through value.location)
    (twin.location.through other.location)
  rw [assignment_eq, assignment_eq]
  cases made : target.stores (target.compounded op value)
    (target.location.through value.location) with
  | none =>
    rw [made] at stored
    rw [Option.map_eq_none_iff.1 stored.symm]
    exact .fail_at _ _ _
  | some statement =>
    rw [made] at stored
    obtain ⟨twinStatement, twinMade, same⟩ := Option.map_eq_some_iff.1 stored.symm
    rw [twinMade]
    exact .pure same.symm

theorem step_statement_insular {kind : Lexeme} (inside : kind ≠ .eof) {target twin : Expr}
    (same : target.unplaced = twin.unplaced) (op : StepOp) :
    Insular (· = kind) nowhere false Stmt.unplaced (stepStatement target op)
      (stepStatement twin op) := by
  rw [step_statement_eq, step_statement_eq, ← assignable_unplaced target, ← called_unplaced target,
    same, assignable_unplaced, called_unplaced]
  refine .bind (.advance_at inside) fun _ _ _ => .ite (fun _ => .fail_at _ _ _) fun _ => ?_
  refine .peek_kind fun kind => .ite (fun _ => .fail _) fun _ => .pure ?_
  simp only [Stmt.unplaced, same]

section

variable {g : Grammar} (level : g.Insulated)

include level

theorem inline_statements_insular (bound : Nat) :
    Insular anything nowhere false unplacedStatements (inlineStatements g bound)
      (inlineStatements g bound) := by
  induction bound with
  | zero => exact .pure rfl
  | succ bound ih =>
    refine .peek_kind fun kind => .ite (fun _ => .pure rfl) fun _ => ?_
    refine level.statement.within.bind fun statement other same => ?_
    refine .bind_same (.accept (by decide)) fun more => .ite (fun _ => ?_) fun _ => ?_
    · exact ih.bind fun later others alike => .pure (by simp only [unplacedStatements, same, alike])
    · exact .pure (by simp only [unplacedStatements, same])

theorem inline_block_insular :
    Insular anything nowhere false Block.unplaced (inlineBlock g) (inlineBlock g) := by
  unfold inlineBlock
  refine .peek fun start place => ?_
  refine (inline_statements_insular level g.bound).within.bind fun statements others same => ?_
  have empty : statements.isEmpty = others.isEmpty := by
    cases statements <;> cases others <;> first | rfl | cases same
  rw [empty]
  refine .unless_bind (fun _ => .fail_expected _) (.span_from fun location place => .pure ?_)
  simp only [Block.unplaced, same]

theorem block_else_ifs_insular (bound : Nat) :
    Insular anything nowhere false unplacedElseIfs (blockElseIfs g bound)
      (blockElseIfs g bound) := by
  induction bound with
  | zero => exact .pure rfl
  | succ bound ih =>
    refine .bind_same (.accept (by decide)) fun more => .ite (fun _ => ?_) fun _ => .pure rfl
    refine (expression_insular level).within.bind fun condition other same => ?_
    refine .bind_same (.accept (by decide)) fun _ => consume_newline_insular.bind_same fun _ => ?_
    refine (block_insular level _).bind fun body twin alike =>
      ih.bind fun later others following => .pure ?_
    simp only [unplacedElseIfs, same, alike, following]

theorem inline_else_ifs_insular (bound : Nat) :
    Insular anything nowhere false unplacedElseIfs (inlineElseIfs g bound)
      (inlineElseIfs g bound) := by
  induction bound with
  | zero => exact .pure rfl
  | succ bound ih =>
    refine .bind_same (.accept (by decide)) fun more => .ite (fun _ => ?_) fun _ => .pure rfl
    refine (expression_insular level).within.bind fun condition other same => ?_
    refine .bind_same (.accept (by decide)) fun _ => ?_
    refine (inline_block_insular level).bind fun body twin alike =>
      ih.bind fun later others following => .pure ?_
    simp only [unplacedElseIfs, same, alike, following]

section

variable (start begin : Location) {condition other : Expr}
  (same : condition.unplaced = other.unplaced)

include same

theorem block_if_insular :
    Insular anything nowhere false Stmt.unplaced (blockIf g start condition)
      (blockIf g begin other) := by
  unfold blockIf
  refine consume_newline_insular.bind_same fun _ =>
    (block_insular level _).bind fun body twin alike => ?_
  refine (block_else_ifs_insular level g.bound).bind fun elseIfs others following => ?_
  refine .bind_same (.accept (by decide)) fun more => .ite (fun _ => ?_) fun _ => ?_
  · refine consume_newline_insular.bind_same fun _ => ?_
    refine .bind (f := unplacedOtherwise) (.map (block_insular level _) fun _ _ alike => ?_)
      fun otherwise fallback last => ?_
    · simp only [unplacedOtherwise, alike]
    refine .bind (.consume (by decide)) fun _ _ _ => .span_from fun location place => .pure ?_
    simp only [Stmt.unplaced, same, alike, following, last]
  · refine .bind_same (.pure rfl) fun otherwise => ?_
    refine .bind (.consume (by decide)) fun _ _ _ => .span_from fun location place => .pure ?_
    simp only [Stmt.unplaced, same, alike, following]

theorem inline_if_insular :
    Insular anything nowhere false Stmt.unplaced (inlineIf g start condition)
      (inlineIf g begin other) := by
  unfold inlineIf
  refine (inline_block_insular level).bind fun body twin alike => ?_
  refine (inline_else_ifs_insular level g.bound).bind fun elseIfs others following => ?_
  refine .bind_same (.accept (by decide)) fun more => ?_
  refine .ite_bind (f := unplacedOtherwise)
    (fun _ => (inline_block_insular level).map fun _ _ alike => ?_)
    (fun _ => .pure rfl) fun otherwise fallback last => ?_
  · simp only [unplacedOtherwise, alike]
  refine .span_from fun location place => .pure ?_
  simp only [Stmt.unplaced, same, alike, following, last]

end

theorem if_statement_insular :
    Insular (· = .word .if_) nowhere false Stmt.unplaced (ifStatement g) (ifStatement g) := by
  unfold ifStatement
  refine .bind (.advance_at (by decide)) fun start begin _ => ?_
  refine (expression_insular level).within.bind fun condition other same => ?_
  refine .bind_same (.accept (by decide)) fun _ => .checked fun feed =>
    .ite (fun _ => ?_) fun _ => ?_
  · exact block_if_insular level _ _ same
  · exact inline_if_insular level _ _ same

theorem loop_step_insular :
    Insular anything nowhere false Expr.unplaced (loopStep g) (loopStep g) := by
  unfold loopStep
  refine .bind_same (.accept (by decide)) fun more => .ite (fun _ => ?_) fun _ => ?_
  · exact (expression_insular level).within
  · exact .previous fun _ _ _ => .pure rfl

theorem for_statement_insular :
    Insular (· = .word .for_) nowhere false Stmt.unplaced (forStatement g) (forStatement g) := by
  have value : Insular anything nowhere false Expr.unplaced (expression g) (expression g) :=
    (expression_insular level).within
  unfold forStatement
  refine .bind (.advance_at (by decide)) fun start begin _ => ?_
  refine .bind (.consume (by decide)) fun counter other named => ?_
  refine .bind (.consume (by decide)) fun _ _ _ => value.bind fun first least lower => ?_
  refine .bind (.consume (by decide)) fun _ _ _ => value.bind fun last most upper => ?_
  refine (loop_step_insular level).bind fun step stride same =>
    consume_newline_insular.bind_same fun _ => ?_
  refine (block_insular level _).bind fun body twin alike => loop_end_insular.bind_same fun _ => ?_
  refine .span_from fun location place => .pure ?_
  simp only [Stmt.unplaced, Token.same_text named, lower, upper, same, alike]

theorem for_each_statement_insular :
    Insular (· = .word .forEach) nowhere false Stmt.unplaced (forEachStatement g)
      (forEachStatement g) := by
  unfold forEachStatement
  refine .bind (.advance_at (by decide)) fun start begin _ =>
    .bind (.consume (by decide)) fun item other named => ?_
  refine .bind (.consume (by decide)) fun _ _ _ =>
    (expression_insular level).within.bind fun target whole same => ?_
  refine consume_newline_insular.bind_same fun _ =>
    (block_insular level _).bind fun body twin alike => ?_
  refine loop_end_insular.bind_same fun _ => .span_from fun location place => .pure ?_
  simp only [Stmt.unplaced, Token.same_text named, same, alike]

theorem while_statement_insular :
    Insular (· = .word .while_) nowhere false Stmt.unplaced (whileStatement g)
      (whileStatement g) := by
  unfold whileStatement
  refine .bind (.advance_at (by decide)) fun start begin _ => ?_
  refine (expression_insular level).within.bind fun condition other same => ?_
  refine consume_newline_insular.bind_same fun _ => ?_
  refine (block_insular level _).bind fun body twin alike =>
    .bind (.consume (by decide)) fun _ _ _ => ?_
  refine .span_from fun location place => .pure ?_
  simp only [Stmt.unplaced, same, alike]

theorem print_item_insular :
    Insular anything nowhere false PrintItem.unplaced (printItem g) (printItem g) := by
  unfold printItem
  refine .peek_kind fun kind => ?_
  split
  · exact .bind (.advance_at (by decide)) fun _ _ _ => .pure rfl
  · exact .bind (.advance_at (by decide)) fun _ _ _ => .pure rfl
  · refine (expression_insular level).within.bind fun value other same => .pure ?_
    simp only [PrintItem.unplaced, same]

theorem print_items_insular (bound : Nat) :
    Insular anything nowhere false (List.map PrintItem.unplaced) (printItems g bound)
      (printItems g bound) := by
  induction bound with
  | zero => exact .pure rfl
  | succ bound ih =>
    refine .peek_kind fun kind => .ite (fun _ => .pure rfl) fun _ => ?_
    refine (print_item_insular level).within.bind fun item other same =>
      ih.bind fun later others alike => .pure ?_
    simp only [List.map_cons, same, alike]

theorem print_statement_insular :
    Insular (· = .word .print) nowhere false Stmt.unplaced (printStatement g)
      (printStatement g) := by
  unfold printStatement
  refine .bind (.advance_at (by decide)) fun start begin _ => ?_
  refine (print_items_insular level g.bound).bind fun items others same =>
    .span_from fun location place => .pure ?_
  simp only [Stmt.unplaced, unplaced_items_eq, same]

theorem return_statement_insular :
    Insular (· = .word .return_) nowhere false Stmt.unplaced (returnStatement g)
      (returnStatement g) := by
  unfold returnStatement
  refine .bind (.advance_at (by decide)) fun start begin _ => .peek_kind fun kind => ?_
  refine .ite_bind (f := unplacedOptional) (fun _ => .pure rfl)
    (fun _ => (expression_insular level).within.map fun _ _ same => ?_) fun value other same => ?_
  · simp only [unplacedOptional, same]
  refine .span_from fun location place => .pure ?_
  simp only [Stmt.unplaced, same]

theorem dim_statement_insular :
    Insular (· = .word .dim) nowhere false Stmt.unplaced (dimStatement g) (dimStatement g) := by
  have sizes := comma_list_insular (expression_insular level).within g.bound
  unfold dimStatement
  refine .bind (.advance_at (by decide)) fun start begin _ =>
    .bind (.consume (by decide)) fun name other named => ?_
  refine .bind (.consume (by decide)) fun _ _ _ => sizes.bind fun dimensions others same => ?_
  refine .bind (.consume (by decide)) fun _ _ _ => .span_from fun location place => .pure ?_
  simp only [Stmt.unplaced, unplaced_all_eq, Token.same_text named, same]

theorem try_statement_insular :
    Insular (· = .word .try_) nowhere false Stmt.unplaced (tryStatement g) (tryStatement g) := by
  unfold tryStatement
  refine .bind (.advance_at (by decide)) fun start begin _ =>
    consume_newline_insular.bind_same fun _ => ?_
  refine (block_insular level _).bind fun body twin same =>
    .bind (.consume (by decide)) fun _ _ _ => ?_
  refine .checked fun found => .unless_bind (fun _ => .fail _)
    (.bind .advance_past fun name other named => ?_)
  refine consume_newline_insular.bind_same fun _ =>
    (block_insular level _).bind fun handler twin alike => ?_
  refine .bind (.consume (by decide)) fun _ _ _ => .span_from fun location place => .pure ?_
  simp only [Stmt.unplaced, Token.same_text named, same, alike]

theorem throw_statement_insular :
    Insular (· = .word .throw) nowhere false Stmt.unplaced (throwStatement g)
      (throwStatement g) := by
  unfold throwStatement
  refine .bind (.advance_at (by decide)) fun start begin _ => ?_
  refine (expression_insular level).within.bind fun value other same =>
    .span_from fun location place => .pure ?_
  simp only [Stmt.unplaced, same]

end

def withTarget (g : Grammar) (target : Expr) : Parse Stmt := do
  let kind ← peekKind
  match assignmentSign? kind, stepOp? kind with
  | some op, _ =>
    let sign ← advance
    let value ← expression g
    assignment target op sign value
  | none, some op => stepStatement target op
  | none, none =>
    if target.isCall then pure (.expression target target.location)
    else failAt .expressionNotStatement target.location

theorem expression_statement_eq (g : Grammar) :
    expressionStatement g = chain g >>= withTarget g := by
  unfold expressionStatement
  congr 1
  funext target
  unfold withTarget
  congr 1
  funext kind
  cases assignmentSign? kind <;> cases stepOp? kind <;> cases target <;> rfl

theorem primary_name (g : Grammar) {c : Cursor} {name : Token} {rest : List Token}
    (shape : c.rest = name :: rest) (kind : name.kind = .identifier) :
    primary g c = .ok (.variable name.text name.location)
      { c with rest := rest, previous := name } := by
  obtain ⟨_, previous, finish, errors⟩ := c
  obtain ⟨_, text, literal, location⟩ := name
  subst shape kind
  rfl

def namedBranch (g : Grammar) (second : Lexeme) : Parse Stmt :=
  if second == .symbol .colon then labelStatement else expressionStatement g

def namedStatement (g : Grammar) : Parse Stmt := do
  namedBranch g (← secondKind)

theorem named_statement_run (g : Grammar) {c : Cursor} {name : Token} {rest : List Token}
    (shape : c.rest = name :: rest) :
    namedStatement g c = namedBranch g (rest.headD c.finish).kind c := by
  change namedBranch g ((c.rest.drop 1).headD c.finish).kind c = _
  rw [shape]
  rfl

section

variable {g : Grammar} (level : g.Insulated)

include level

theorem with_target_insular {target twin : Expr} (same : target.unplaced = twin.unplaced) :
    Insular anything nowhere false Stmt.unplaced (withTarget g target) (withTarget g twin) := by
  unfold withTarget
  rw [← called_unplaced target, same, called_unplaced]
  refine .peek_kind fun kind => ?_
  cases assigned : assignmentSign? kind with
  | some op =>
    refine .bind (.advance_at ?_) fun sign mark _ => ?_
    · rintro rfl
      cases assigned
    refine (expression_insular level).within.bind fun value other alike => ?_
    exact assignment_insular op same alike sign mark
  | none =>
    cases stepped : stepOp? kind with
    | some op =>
      refine step_statement_insular ?_ same op
      rintro rfl
      cases stepped
    | none =>
      refine .ite (fun _ => .pure ?_) fun _ => .fail_at _ _ _
      simp only [Stmt.unplaced, same]

theorem expression_statement_insular :
    Insular anything nowhere false Stmt.unplaced (expressionStatement g)
      (expressionStatement g) := by
  rw [expression_statement_eq]
  exact (chain_insular level).within.bind fun _ _ same => with_target_insular level same

theorem lone_name_read {c : Cursor} {name : Token} (shape : c.rest = [name])
    (kind : name.kind = .identifier) : (finalState (expressionStatement g c)).rest = [] := by
  have rest (head : Expr) :
      Insular anything nowhere false Stmt.unplaced (accesses g g.bound head >>= withTarget g)
        (accesses g g.bound head >>= withTarget g) :=
    (accesses_insular level g.bound rfl).within.bind fun _ _ same => with_target_insular level same
  rw [expression_statement_eq, chain, bind_assoc, bind_run, primary_name g shape kind]
  exact (rest _).exhausted rfl

theorem named_statement_insular :
    Insular (· = .identifier) nowhere false Stmt.unplaced (namedStatement g)
      (namedStatement g) := by
  have branch (second : Lexeme) :
      Insular (· = .identifier) nowhere false Stmt.unplaced (namedBranch g second)
        (namedBranch g second) :=
    .ite (fun _ => label_statement_insular) fun _ => (expression_statement_insular level).anywhere
  refine ⟨fun c => (branch _).onward c, nofun, fun s c twin alongside fits shelters => ?_⟩
  obtain ⟨rest, shape⟩ := next_of_kind alongside.ends (by rw [fits]; decide)
  obtain ⟨other, others, twinShape, same, later⟩ := alongside.step shape
  rw [named_statement_run g shape] at shelters ⊢
  rw [named_statement_run g twinShape]
  cases rest with
  | nil =>
    have short := shelters.resolve_right fun ⟨_, absurd⟩ => absurd.elim
    rw [List.headD_nil, alongside.ends] at short
    exact absurd (lone_name_read level shape fits) short
  | cons next rest =>
    have kind : next.kind = (others.headD twin.finish).kind :=
      Token.same_kind (later.next (List.cons_ne_nil next rest))
    rw [← kind]
    exact (branch next.kind).concurs s c twin alongside fits shelters

theorem statement_insular :
    Insular anything nowhere false Stmt.unplaced (statement g) (statement g) := by
  unfold statement
  refine .peek fun token place => ?_
  have described : describe { token with location := place } = describe token := rfl
  rw [described]
  generalize token.kind = kind
  split
  · exact if_statement_insular level
  · exact for_statement_insular level
  · exact for_each_statement_insular level
  · exact while_statement_insular level
  · exact print_statement_insular level
  · exact return_statement_insular level
  · exact dim_statement_insular level
  · exact goto_statement_insular
  · exact try_statement_insular level
  · exact throw_statement_insular level
  · exact word_statement_insular (by decide) fun _ _ => rfl
  · exact word_statement_insular (by decide) fun _ _ => rfl
  · exact word_statement_insular (by decide) fun _ _ => rfl
  · exact word_statement_insular (by decide) fun _ _ => rfl
  · exact named_statement_insular level
  · exact (expression_statement_insular level).anywhere
  · exact .fail _
  · exact .fail _
  · exact .fail _

end

theorem grammar_insulated (bound depth : Nat) : (grammar bound depth).Insulated := by
  induction depth with
  | zero => exact ⟨.fail_expected _, .fail_expected _⟩
  | succ depth ih => exact ⟨expression_insular ih, statement_insular ih⟩

end Parser

end BrightScript
