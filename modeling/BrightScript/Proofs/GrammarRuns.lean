import BrightScript.Tree.Statement
import BrightScript.Proofs.ParserRuns
set_option autoImplicit false

namespace BrightScript

namespace Parser

variable {α : Type} {limit : Nat}

section

variable {item other : Parse α} (reads : Tandem limit anything .opened .settled true item other)

include reads

theorem comma_list_tandem (bound twinBound : Nat) (enough : limit ≤ bound)
    (twinEnough : limit ≤ twinBound) :
    Tandem limit anything .opened .settled true (commaList item bound)
      (commaList other twinBound) := by
  induction bound generalizing limit twinBound with
  | zero => exact .vacuous enough fun c => .refl c
  | succ bound ih =>
    refine .bounded (y := commaList other) twinEnough fun twinBound twinEnough => ?_
    refine reads.and_then (by decide) fun value => ?_
    refine .bind (.accept (by decide)) fun more => .ite (fun _ => ?_) fun _ => .pure [value]
    have again := ih (reads.relax (Nat.sub_le limit 1)) twinBound (by omega) twinEnough
    refine .bind (again.relax (Nat.le_refl _)) fun later => ?_
    exact .pure (value :: later)

theorem items_until_tandem (close : Symbol) (bound twinBound : Nat) (enough : limit ≤ bound)
    (twinEnough : limit ≤ twinBound) :
    Tandem limit anything .opened .opened false (itemsUntil close item bound)
      (itemsUntil close other twinBound) := by
  induction bound generalizing limit twinBound with
  | zero => exact .vacuous enough fun c => .refl c
  | succ bound ih =>
    refine .bounded (y := itemsUntil close other) twinEnough fun twinBound twinEnough => ?_
    refine .check (.pure []) ?_
    refine (reads.relax (p := .opened) (Nat.le_refl _)).and_then (by decide) fun value => ?_
    refine .bind (.accept (by decide)) fun separated => ?_
    refine .bind (.skip_while _) fun _ => ?_
    refine .previous fun last => .ite (fun _ => ?_) fun _ => .pure [value]
    have again := ih (reads.relax (Nat.sub_le limit 1)) twinBound (by omega) twinEnough
    refine .bind again fun later => ?_
    exact .pure (value :: later)

end

section

variable {operand twin : Parse Expr}
  (reads : Tandem limit anything .opened .settled true operand twin)

theorem operator_in_line {level : Level} {kind : Lexeme} {op : BinaryOp}
    (found : operatorAt? level kind = some op) : kind ≠ .eof ∧ kind ≠ .newline := by
  constructor <;> rintro rfl <;> simp [operatorAt?, binaryOp?] at found

include reads

theorem operands_tandem (level : Level) (bound twinBound : Nat) (left : Expr)
    (enough : limit ≤ bound) (twinEnough : limit ≤ twinBound) :
    Tandem limit anything .settled .settled true (operands level operand bound left)
      (operands level twin twinBound left) := by
  induction bound generalizing limit twinBound left with
  | zero => exact .vacuous enough fun c => .refl c
  | succ bound ih =>
    refine .bounded (y := fun b => operands level twin b left) twinEnough
      fun twinBound twinEnough => ?_
    refine .peek_kind fun kind => ?_
    cases found : operatorAt? level kind with
    | none => exact .pure left
    | some op =>
      refine .and_then (.advance_at (operator_in_line found)) (by decide) fun _ => ?_
      refine .bind (reads.relax (Nat.sub_le limit 1)) fun right => ?_
      exact ih (reads.relax (Nat.sub_le limit 1)) twinBound _ (by omega) twinEnough

theorem at_level_tandem (level : Level) (bound twinBound : Nat) (enough : limit ≤ bound)
    (twinEnough : limit ≤ twinBound) :
    Tandem limit anything .opened .settled true (atLevel level bound operand)
      (atLevel level twinBound twin) :=
  reads.bind fun first => operands_tandem reads level bound twinBound first enough twinEnough

theorem signed_tandem (bound twinBound : Nat) (enough : limit ≤ bound)
    (twinEnough : limit ≤ twinBound) :
    Tandem limit anything .opened .settled true (signed operand bound) (signed twin twinBound) := by
  induction bound generalizing limit twinBound with
  | zero => exact .vacuous enough reads.onward
  | succ bound ih =>
    refine .bounded (y := signed twin) twinEnough fun twinBound twinEnough => ?_
    have again := ih (reads.relax (Nat.sub_le limit 1)) twinBound (by omega) twinEnough
    refine .peek_kind fun kind => ?_
    split
    · refine .and_then (.advance_at (by decide)) (by decide) fun start => ?_
      exact .bind (again.relax (Nat.le_refl _)) fun inner => .pure _
    · refine .and_then (.advance_at (by decide)) (by decide) fun start => ?_
      exact .bind (again.relax (Nat.le_refl _)) fun inner => .pure _
    · refine .and_then (.advance_at (by decide)) (by decide) fun _ => ?_
      exact again.relax (Nat.le_refl _)
    · exact reads.relax (Nat.le_refl _)

end

structure Matched (limit : Nat) (g twin : Grammar) : Prop where
  bound : limit < g.bound
  twinBound : limit < twin.bound
  expression : Tandem limit anything .opened .settled true g.expression twin.expression
  statement : Tandem limit anything .opened .settled true g.statement twin.statement

theorem Matched.fewer {less : Nat} {g twin : Grammar} (level : Matched limit g twin)
    (fewer : less ≤ limit) : Matched less g twin where
  bound := Nat.lt_of_le_of_lt fewer level.bound
  twinBound := Nat.lt_of_le_of_lt fewer level.twinBound
  expression := level.expression.relax fewer
  statement := level.statement.relax fewer

theorem member_name_tandem : Tandem limit anything .opened .settled true memberName memberName := by
  unfold memberName
  refine .peek fun token => .ite (fun named => ?_) fun _ => .fail_expected _
  refine .bind (.advance_at ?_) fun _ => .pure token.text
  constructor <;> intro same <;> simp [same, Lexeme.isKeyword] at named

theorem accept_as_tandem {ahead : Lexeme → Prop} {p : Phase} {inLine : Bool} :
    Tandem limit ahead p p inLine acceptAs acceptAs := by
  unfold acceptAs
  refine .peek fun token => .ite (fun isAs => ?_) fun _ => .pure false
  refine .bind ((Tandem.advance_at ?_).phases (Nat.le_refl _) (by cases p <;> decide)) fun _ =>
    .pure true
  constructor <;> intro same <;> simp [same] at isAs

theorem type_name_tandem : Tandem limit anything .opened .settled true typeName typeName := by
  unfold typeName
  refine .peek fun token => ?_
  split
  · rename_i kind found
    refine .bind (.advance_at ?_) fun _ => .pure kind
    constructor <;> intro same <;> simp [same, mayNameType] at found
  · exact .fail_expected _

theorem return_kind_tandem {ahead : Lexeme → Prop} (isSub : Bool) :
    Tandem limit ahead .settled .settled true (returnKind isSub) (returnKind isSub) := by
  unfold returnKind
  refine .bind accept_as_tandem fun found => .ite (fun _ => ?_) fun _ => .pure _
  exact type_name_tandem.relax (Nat.le_refl _)

theorem consume_newline_tandem {ahead : Lexeme → Prop} {p : Phase} :
    Tandem limit ahead p .opened false consumeNewline consumeNewline := by
  unfold consumeNewline
  refine .peek_kind fun kind => .ite (fun _ => ?_) fun _ => ?_
  · exact .bind .advance_past fun _ => .pure ()
  · exact .ite (fun _ => .fail_expected _) fun _ =>
      (Tandem.pure ()).phases (Nat.le_refl _) (Nat.zero_le _)

theorem statement_separator_tandem {ahead : Lexeme → Prop} {p : Phase} :
    Tandem limit ahead p .opened false statementSeparator statementSeparator := by
  unfold statementSeparator
  refine .peek_kind fun kind => .ite (fun _ => ?_) fun _ => ?_
  · exact .bind .advance_past fun _ => .pure ()
  · exact .ite (fun _ => .fail_expected _) fun _ =>
      (Tandem.pure ()).phases (Nat.le_refl _) (Nat.zero_le _)

section

variable {g twin : Grammar} (level : Matched limit g twin)

include level

theorem arguments_tandem :
    Tandem limit anything .opened .settled true (arguments g) (arguments twin) := by
  have list := comma_list_tandem level.expression g.bound twin.bound (Nat.le_of_lt level.bound)
    (Nat.le_of_lt level.twinBound)
  unfold arguments
  refine .check_bind (q := .opened) (.pure []) (list.phases (by decide) (by decide)) fun values =>
    ?_
  exact .bind (.consume (by decide)) fun _ => .pure values

theorem indices_tandem (bound twinBound : Nat) (object : Expr) (enough : limit ≤ bound)
    (twinEnough : limit ≤ twinBound) :
    Tandem limit anything .opened .settled true (indices g bound object)
      (indices twin twinBound object) := by
  induction bound generalizing limit twinBound object with
  | zero => exact .vacuous enough fun c => .refl c
  | succ bound ih =>
    refine .bounded (y := fun b => indices twin b object) twinEnough fun twinBound twinEnough => ?_
    refine level.expression.and_then (by decide) fun index => ?_
    refine .span_from fun location => ?_
    refine .bind (.accept (by decide)) fun more => .ite (fun _ => ?_) fun _ => .pure _
    exact (ih (level.fewer (Nat.sub_le limit 1)) twinBound _ (by omega) twinEnough).relax
      (Nat.le_refl _)

theorem accesses_tandem (bound twinBound : Nat) (head : Expr) (enough : limit ≤ bound)
    (twinEnough : limit ≤ twinBound) :
    Tandem limit anything .settled .settled true (accesses g bound head)
      (accesses twin twinBound head) := by
  induction bound generalizing limit twinBound head with
  | zero => exact .vacuous enough fun c => .refl c
  | succ bound ih =>
    refine .bounded (y := fun b => accesses twin b head) twinEnough fun twinBound twinEnough => ?_
    have fewer := level.fewer (Nat.sub_le limit 1)
    have again := fun head => ih fewer twinBound head (by omega) twinEnough
    refine .peek_kind fun kind => ?_
    split
    · refine .and_then (.advance_at (by decide)) (by decide) fun _ => ?_
      refine .bind ((arguments_tandem fewer).relax (Nat.le_refl _)) fun values => ?_
      exact .span_from fun location => again _
    · refine .and_then (.advance_at (by decide)) (by decide) fun _ => ?_
      refine .bind (member_name_tandem.relax (Nat.le_refl _)) fun name => ?_
      exact .span_from fun location => again _
    · refine .and_then (.advance_at (by decide)) (by decide) fun _ => ?_
      have inner := indices_tandem fewer g.bound twin.bound head (Nat.le_of_lt fewer.bound)
        (Nat.le_of_lt fewer.twinBound)
      refine .bind (inner.relax (Nat.le_refl _)) fun indexed => ?_
      exact .bind (.consume (by decide)) fun _ => again indexed
    · exact .pure head

theorem parameter_tandem :
    Tandem limit anything .opened .settled true (parameter g) (parameter twin) := by
  unfold parameter
  refine .bind (.consume (by decide)) fun token => ?_
  refine .bind (.accept (by decide)) fun optional => ?_
  refine .ite_bind (q := .settled) (fun _ => (level.expression.relax (Nat.le_refl _)).map some)
    (fun _ => .pure none) fun default => ?_
  refine .bind accept_as_tandem fun typed => ?_
  refine .ite_bind (q := .settled) (fun _ => type_name_tandem.relax (Nat.le_refl _))
    (fun _ => .pure _)
    fun kind => ?_
  exact .span_from fun location => .pure _

theorem parameters_tandem :
    Tandem limit anything .opened .settled true (parameters g) (parameters twin) := by
  have list := comma_list_tandem (parameter_tandem level) g.bound twin.bound
      (Nat.le_of_lt level.bound)
    (Nat.le_of_lt level.twinBound)
  unfold parameters
  refine .check_bind (q := .opened) (.pure []) (list.phases (by decide) (by decide)) fun values =>
    ?_
  exact .bind (.consume (by decide)) fun _ => .pure values

theorem block_statement_tandem (terminators : List Keyword) :
    Tandem limit anything .opened .moved false (blockStatement g terminators)
      (blockStatement twin terminators) := by
  unfold blockStatement
  refine .bind (level.statement.relax (Nat.le_refl _)) fun statement => .peek_kind fun kind => ?_
  refine .unless_bind (q := .moved) (fun _ => ?_) (fun _ => .pure statement) (by decide)
  exact statement_separator_tandem.moved.phases (by decide) (by decide)

theorem block_statements_tandem (terminators : List Keyword) (bound twinBound : Nat)
    (enough : limit ≤ bound) (twinEnough : limit ≤ twinBound) :
    Tandem limit anything .opened .opened false (blockStatements g terminators bound)
      (blockStatements twin terminators twinBound) := by
  induction bound generalizing limit twinBound with
  | zero => exact .vacuous enough fun c => .refl c
  | succ bound ih =>
    refine .bounded (y := blockStatements twin terminators) twinEnough fun twinBound twinEnough =>
      ?_
    have again := ih (level.fewer (Nat.sub_le limit 1)) twinBound (by omega) twinEnough
    refine .bind (.skip_while _) fun _ => .peek_kind fun kind => ?_
    refine .ite (fun _ => .pure []) fun _ => .ite (fun _ => .fail_expected _) fun more => ?_
    have step : Tandem limit (· = kind) .opened .moved false (blockStatement g terminators)
        (blockStatement twin terminators) :=
      (block_statement_tandem level terminators).mono (Nat.le_refl _) fun _ _ => trivial
    refine .and_then (step.recover (by decide) ?_) (by decide) fun result => ?_
    · intro next same isEnd
      rw [← same, isEnd] at more
      exact absurd more (by decide)
    · cases result with
      | none => exact again.loosen (Nat.le_refl _)
      | some statement => exact .bind (again.loosen (Nat.le_refl _)) fun later => .pure _

theorem block_tandem (terminators : List Keyword) :
    Tandem limit anything .opened .opened false (block g terminators) (block twin terminators) := by
  unfold block
  refine .previous fun last => ?_
  refine .bind (block_statements_tandem level terminators g.bound twin.bound
    (Nat.le_of_lt level.bound)
    (Nat.le_of_lt level.twinBound)) fun statements => ?_
  exact .peek fun next => .pure _

theorem function_literal_tandem (named : Bool) :
    Tandem (limit + 1) (fun kind => kind = .word .function ∨ kind = .word .sub) .opened
      .settled false
      (functionLiteral g named) (functionLiteral twin named) := by
  unfold functionLiteral
  refine .and_then (.advance ?_) (by decide) fun keyword => ?_
  · rintro kind (rfl | rfl) <;> decide
  refine .ite_bind (q := .settled) (fun _ => (Tandem.consume (by decide)).map _)
    (fun _ => .pure none)
    fun name => ?_
  refine .bind (.consume (by decide)) fun _ => ?_
  refine .bind ((parameters_tandem level).relax (Nat.le_refl _)) fun values => ?_
  refine .bind ((return_kind_tandem _).across_lines) fun returns => ?_
  refine .bind consume_newline_tandem fun _ => ?_
  refine .bind (block_tandem level _) fun body => ?_
  refine .bind (.consume ?_) fun _ => ?_
  · exact ⟨by simp, by simp⟩
  exact .span_from fun location => .pure _

theorem table_member_tandem :
    Tandem limit anything .opened .settled true (tableMember g) (tableMember twin) := by
  unfold tableMember
  refine .peek fun key => ?_
  split
  · exact .fail_expected _
  · rename_i name found
    refine .bind (.advance_at ?_) fun _ => .bind (.consume (by decide)) fun _ => ?_
    · constructor <;> intro same <;> simp [memberKey?, same] at found
    refine .bind (level.expression.relax (Nat.le_refl _)) fun value => ?_
    exact .span_from fun location => .pure _

theorem primary_tandem :
    Tandem (limit + 1) anything .opened .settled true (primary g) (primary twin) := by
  have enough := Nat.le_of_lt level.bound
  have twinEnough := Nat.le_of_lt level.twinBound
  unfold primary
  refine .peek fun token => ?_
  generalize token.kind = kind
  split
  · exact .bind (.advance_at (by decide)) fun _ => .pure _
  · refine .and_then (.advance_at (by decide)) (by decide) fun _ => ?_
    refine .bind (level.expression.relax (Nat.le_refl _)) fun inner => ?_
    refine .bind (.consume (by decide)) fun _ => ?_
    exact .span_from fun location => .pure _
  · refine .barred_at ?_ (by decide)
    refine .and_then (.advance_at (by decide)) (by decide) fun _ => ?_
    refine .bind (.skip_while _) fun _ => ?_
    refine .bind (items_until_tandem level.expression _ _ _ enough twinEnough) fun elements => ?_
    refine .bind (.consume (by decide)) fun _ => ?_
    exact .span_from fun location => .pure _
  · refine .barred_at ?_ (by decide)
    refine .and_then (.advance_at (by decide)) (by decide) fun _ => ?_
    refine .bind (.skip_while _) fun _ => ?_
    refine .bind (items_until_tandem (table_member_tandem level) _ _ _ enough twinEnough)
      fun members => ?_
    refine .bind (.consume (by decide)) fun _ => ?_
    exact .span_from fun location => .pure _
  · refine .barred_at ?_ (by decide)
    have reads := (function_literal_tandem level false).mono (Nat.le_refl _)
      fun _ (same : _ = Lexeme.word .function) => .inl same
    exact reads.bind fun function => .pure _
  · refine .barred_at ?_ (by decide)
    have reads := (function_literal_tandem level false).mono (Nat.le_refl _)
      fun _ (same : _ = Lexeme.word .sub) => .inr same
    exact reads.bind fun function => .pure _
  · refine .ite (fun literal => ?_) fun _ => .fail_expected _
    refine .bind (.advance_at ?_) fun _ => .pure _
    constructor <;> rintro rfl <;> simp [isLiteral] at literal

theorem chain_tandem :
    Tandem (limit + 1) anything .opened .settled true (chain g) (chain twin) := by
  unfold chain
  refine (primary_tandem level).and_then (by decide) fun head => ?_
  exact accesses_tandem level _ _ head (Nat.le_of_lt level.bound) (Nat.le_of_lt level.twinBound)

theorem expression_tandem :
    Tandem (limit + 1) anything .opened .settled true (expression g) (expression twin) := by
  unfold expression
  iterate 7 apply at_level_tandem _ _ _ _ level.bound level.twinBound
  exact signed_tandem (chain_tandem level) _ _ level.bound level.twinBound

end

theorem loop_end_tandem : Tandem limit anything .opened .settled true loopEnd loopEnd := by
  unfold loopEnd
  refine .peek_kind fun kind => ?_
  split
  · exact .bind (.advance_at (by decide)) fun _ => .pure ()
  · refine .bind (.advance_at (by decide)) fun _ => ?_
    exact .bind (.accept (by decide)) fun _ => .pure ()
  · exact .fail_expected _

theorem goto_statement_tandem :
    Tandem (limit + 1) (· = .word .goto) .opened .settled true gotoStatement gotoStatement := by
  unfold gotoStatement
  refine .bind (.advance_at (by decide)) fun start => ?_
  refine .bind (.consume (by decide)) fun label => ?_
  exact .span_from fun location => .pure _

theorem word_statement_tandem {kind : Lexeme} (inside : kind ≠ .eof ∧ kind ≠ .newline)
    (make : Location → Stmt) :
    Tandem limit (· = kind) .opened .settled true (wordStatement make) (wordStatement make) :=
  .bind (.advance_at inside) fun token => .pure (make token.location)

theorem assignment_tandem {ahead : Lexeme → Prop} {p : Phase} (target : Expr) (op : Option BinaryOp)
    (sign : Token) (value : Expr) :
    Tandem limit ahead p p true (assignment target op sign value)
      (assignment target op sign value) := by
  cases target with
  | «variable» name place => exact .pure _
  | member object name place => exact .pure _
  | index object index place => exact .pure _
  | _ => exact .fail_at _ _

theorem step_statement_tandem {kind : Lexeme} (inside : kind ≠ .eof ∧ kind ≠ .newline)
    (target : Expr) (op : StepOp) :
    Tandem limit (· = kind) .settled .settled true (stepStatement target op)
      (stepStatement target op) := by
  unfold stepStatement
  refine .bind (.advance_at inside) fun sign => .ite (fun _ => ?_) fun _ => ?_
  · split
    · exact .fail_at _ _
    · exact .fail_at _ _
  · exact .peek_kind fun kind => .ite (fun _ => .fail _) fun _ => .pure _

section

variable {g twin : Grammar} (level : Matched limit g twin)

include level

theorem inline_statements_tandem (bound twinBound : Nat) (enough : limit ≤ bound)
    (twinEnough : limit ≤ twinBound) :
    Tandem limit anything .settled .settled true (inlineStatements g bound)
      (inlineStatements twin twinBound) := by
  induction bound generalizing limit twinBound with
  | zero => exact .vacuous enough fun c => .refl c
  | succ bound ih =>
    refine .bounded (y := inlineStatements twin) twinEnough fun twinBound twinEnough => ?_
    refine .peek_kind fun kind => .ite (fun _ => .pure []) fun _ => ?_
    refine .and_then (level.statement.relax (Nat.le_refl _)) (by decide) fun statement => ?_
    refine .bind (.accept (by decide)) fun more => .ite (fun _ => ?_) fun _ => .pure _
    have again := ih (level.fewer (Nat.sub_le limit 1)) twinBound (by omega) twinEnough
    exact again.bind fun later => .pure _

theorem inline_block_tandem :
    Tandem limit anything .settled .settled true (inlineBlock g) (inlineBlock twin) := by
  have statements := inline_statements_tandem level g.bound twin.bound (Nat.le_of_lt level.bound)
    (Nat.le_of_lt level.twinBound)
  unfold inlineBlock
  refine .peek fun start => ?_
  refine .bind (statements.mono (Nat.le_refl _) fun _ _ => trivial) fun statements => ?_
  refine .unless_bind (q := .settled) (fun _ => .fail_expected _) (fun _ => ?_) (by decide)
  exact .span_from fun location => .pure _

theorem block_else_ifs_tandem (bound twinBound : Nat) (enough : limit ≤ bound)
    (twinEnough : limit ≤ twinBound) :
    Tandem limit anything .opened .opened false (blockElseIfs g bound)
      (blockElseIfs twin twinBound) := by
  induction bound generalizing limit twinBound with
  | zero => exact .vacuous enough fun c => .refl c
  | succ bound ih =>
    refine .bounded (y := blockElseIfs twin) twinEnough fun twinBound twinEnough => ?_
    have fewer := level.fewer (Nat.sub_le limit 1)
    refine .bind (.accept (by decide)) fun more => .ite (fun _ => ?_) fun _ => .pure []
    refine .and_then ((expression_tandem level).relax (Nat.le_succ _)) (by decide) fun condition =>
      ?_
    refine .bind (.accept (by decide)) fun _ => ?_
    refine .bind consume_newline_tandem fun _ => ?_
    refine .bind (block_tandem fewer _) fun body => ?_
    exact .bind (ih fewer twinBound (by omega) twinEnough) fun later => .pure _

theorem block_if_tandem (start : Location) (condition : Expr) :
    Tandem limit anything .opened .settled false (blockIf g start condition)
      (blockIf twin start condition) := by
  unfold blockIf
  refine .bind consume_newline_tandem fun _ => ?_
  refine .bind (block_tandem level _) fun body => ?_
  refine .bind (block_else_ifs_tandem level _ _ (Nat.le_of_lt level.bound)
    (Nat.le_of_lt level.twinBound))
    fun elseIfs => ?_
  refine .bind (.accept (by decide)) fun more => .ite (fun _ => ?_) fun _ => ?_
  · refine .bind consume_newline_tandem fun _ => ?_
    refine .bind ((block_tandem level _).map some) fun otherwise => ?_
    exact .bind (.consume (by decide)) fun _ => .span_from fun location => .pure _
  · refine .bind (.pure none) fun otherwise => ?_
    exact .bind (.consume (by decide)) fun _ => .span_from fun location => .pure _

theorem inline_else_ifs_tandem (bound twinBound : Nat) (enough : limit ≤ bound)
    (twinEnough : limit ≤ twinBound) :
    Tandem limit anything .settled .settled true (inlineElseIfs g bound)
      (inlineElseIfs twin twinBound) := by
  induction bound generalizing limit twinBound with
  | zero => exact .vacuous enough fun c => .refl c
  | succ bound ih =>
    refine .bounded (y := inlineElseIfs twin) twinEnough fun twinBound twinEnough => ?_
    have fewer := level.fewer (Nat.sub_le limit 1)
    refine .bind (.accept (by decide)) fun more => .ite (fun _ => ?_) fun _ => .pure []
    refine .and_then ((expression_tandem level).relax (Nat.le_succ _)) (by decide) fun condition =>
      ?_
    refine .bind (.accept (by decide)) fun _ => ?_
    refine .bind (inline_block_tandem fewer) fun body => ?_
    exact .bind (ih fewer twinBound (by omega) twinEnough) fun later => .pure _

theorem inline_if_tandem (start : Location) (condition : Expr) :
    Tandem limit anything .settled .settled true (inlineIf g start condition)
      (inlineIf twin start condition) := by
  unfold inlineIf
  refine .bind (inline_block_tandem level) fun body => ?_
  refine .bind (inline_else_ifs_tandem level _ _ (Nat.le_of_lt level.bound)
    (Nat.le_of_lt level.twinBound))
    fun elseIfs => ?_
  refine .bind (.accept (by decide)) fun more => ?_
  refine .ite_bind (q := .settled) (fun _ => (inline_block_tandem level).map some)
    (fun _ => .pure none)
    fun otherwise => ?_
  exact .span_from fun location => .pure _

theorem if_statement_tandem :
    Tandem (limit + 1) (· = .word .if_) .opened .settled false (ifStatement g)
      (ifStatement twin) := by
  unfold ifStatement
  refine .and_then (.advance_at (by decide)) (by decide) fun start => ?_
  refine .bind ((expression_tandem level).relax (Nat.le_succ _)) fun condition => ?_
  refine .bind (.accept (by decide)) fun _ => .checked fun onward => .ite (fun _ => ?_) fun _ => ?_
  · exact (block_if_tandem level _ _).loosen (Nat.le_refl _)
  · exact (inline_if_tandem level _ _).across_lines

theorem loop_step_tandem :
    Tandem limit anything .settled .settled true (loopStep g) (loopStep twin) := by
  unfold loopStep
  refine .bind (.accept (by decide)) fun more => .ite (fun _ => ?_) fun _ => ?_
  · exact (expression_tandem level).relax (Nat.le_succ _)
  · exact .previous fun last => .pure _

theorem for_statement_tandem :
    Tandem (limit + 1) (· = .word .for_) .opened .settled false (forStatement g)
      (forStatement twin) := by
  have value : ∀ {p}, Tandem limit anything p .settled false (expression g) (expression twin) :=
    (expression_tandem level).relax (Nat.le_succ _)
  unfold forStatement
  refine .and_then (.advance_at (by decide)) (by decide) fun start => ?_
  refine .bind (.consume (by decide)) fun counter => ?_
  refine .bind (.consume (by decide)) fun _ => .bind value fun first => ?_
  refine .bind (.consume (by decide)) fun _ => .bind value fun last => ?_
  refine .bind (loop_step_tandem level).across_lines fun step => ?_
  refine .bind consume_newline_tandem fun _ => ?_
  refine .bind (block_tandem level _) fun body => ?_
  refine .bind loop_end_tandem.across_lines fun _ => ?_
  exact .span_from fun location => .pure _

theorem for_each_statement_tandem :
    Tandem (limit + 1) (· = .word .forEach) .opened .settled false (forEachStatement g)
      (forEachStatement twin) := by
  unfold forEachStatement
  refine .and_then (.advance_at (by decide)) (by decide) fun start => ?_
  refine .bind (.consume (by decide)) fun item => ?_
  refine .bind (.consume (by decide)) fun _ => ?_
  refine .bind ((expression_tandem level).relax (Nat.le_succ _)) fun target => ?_
  refine .bind consume_newline_tandem fun _ => ?_
  refine .bind (block_tandem level _) fun body => ?_
  refine .bind loop_end_tandem.across_lines fun _ => ?_
  exact .span_from fun location => .pure _

theorem while_statement_tandem :
    Tandem (limit + 1) (· = .word .while_) .opened .settled false (whileStatement g)
      (whileStatement twin) := by
  unfold whileStatement
  refine .and_then (.advance_at (by decide)) (by decide) fun start => ?_
  refine .bind ((expression_tandem level).relax (Nat.le_succ _)) fun condition => ?_
  refine .bind consume_newline_tandem fun _ => ?_
  refine .bind (block_tandem level _) fun body => ?_
  refine .bind (.consume (by decide)) fun _ => ?_
  exact .span_from fun location => .pure _

theorem print_item_tandem :
    Tandem limit anything .opened .settled true (printItem g) (printItem twin) := by
  unfold printItem
  refine .peek_kind fun kind => ?_
  split
  · exact .bind (.advance_at (by decide)) fun _ => .pure _
  · exact .bind (.advance_at (by decide)) fun _ => .pure _
  · exact .bind ((expression_tandem level).relax (Nat.le_succ _)) fun value => .pure _

theorem print_items_tandem (bound twinBound : Nat) (enough : limit ≤ bound)
    (twinEnough : limit ≤ twinBound) :
    Tandem limit anything .settled .settled true (printItems g bound)
      (printItems twin twinBound) := by
  induction bound generalizing limit twinBound with
  | zero => exact .vacuous enough fun c => .refl c
  | succ bound ih =>
    refine .bounded (y := printItems twin) twinEnough fun twinBound twinEnough => ?_
    refine .peek_kind fun kind => .ite (fun _ => .pure []) fun _ => ?_
    refine .and_then ((print_item_tandem level).relax (Nat.le_refl _)) (by decide) fun item => ?_
    have again := ih (level.fewer (Nat.sub_le limit 1)) twinBound (by omega) twinEnough
    exact again.bind fun later => .pure _

theorem print_statement_tandem :
    Tandem (limit + 1) (· = .word .print) .opened .settled true (printStatement g)
      (printStatement twin) := by
  unfold printStatement
  refine .and_then (.advance_at (by decide)) (by decide) fun start => ?_
  refine .bind (print_items_tandem level _ _ (Nat.le_of_lt level.bound)
    (Nat.le_of_lt level.twinBound))
    fun items => ?_
  exact .span_from fun location => .pure _

theorem return_statement_tandem :
    Tandem (limit + 1) (· = .word .return_) .opened .settled true (returnStatement g)
      (returnStatement twin) := by
  unfold returnStatement
  refine .and_then (.advance_at (by decide)) (by decide) fun start => .peek_kind fun kind => ?_
  refine .ite_bind (q := .settled) (fun _ => .pure none)
    (fun _ => ((expression_tandem level).relax (Nat.le_succ _)).map some) fun value => ?_
  exact .span_from fun location => .pure _

theorem dim_statement_tandem :
    Tandem (limit + 1) (· = .word .dim) .opened .settled true (dimStatement g)
      (dimStatement twin) := by
  have value : Tandem limit anything .opened .settled true (expression g) (expression twin) :=
    (expression_tandem level).relax (Nat.le_succ _)
  have sizes := comma_list_tandem value g.bound twin.bound (Nat.le_of_lt level.bound)
    (Nat.le_of_lt level.twinBound)
  unfold dimStatement
  refine .and_then (.advance_at (by decide)) (by decide) fun start => ?_
  refine .bind (.consume (by decide)) fun name => ?_
  refine .bind (.consume (by decide)) fun _ => ?_
  refine .bind (sizes.relax (Nat.le_refl _)) fun dimensions => ?_
  refine .bind (.consume (by decide)) fun _ => ?_
  exact .span_from fun location => .pure _

theorem try_statement_tandem :
    Tandem (limit + 1) (· = .word .try_) .opened .settled false (tryStatement g)
      (tryStatement twin) := by
  unfold tryStatement
  refine .and_then (.advance_at (by decide)) (by decide) fun start => ?_
  refine .bind consume_newline_tandem fun _ => ?_
  refine .bind (block_tandem level _) fun body => ?_
  refine .bind (.consume (by decide)) fun _ => .checked fun named => ?_
  refine .unless_bind (q := .settled) (fun _ => .fail _) (fun _ => ?_) (by decide)
  refine .bind .advance_past fun name => ?_
  refine .bind consume_newline_tandem fun _ => ?_
  refine .bind (block_tandem level _) fun handler => ?_
  refine .bind (.consume (by decide)) fun _ => ?_
  exact .span_from fun location => .pure _

theorem throw_statement_tandem :
    Tandem (limit + 1) (· = .word .throw) .opened .settled true (throwStatement g)
      (throwStatement twin) := by
  unfold throwStatement
  refine .and_then (.advance_at (by decide)) (by decide) fun start => ?_
  refine .bind ((expression_tandem level).relax (Nat.le_succ _)) fun value => ?_
  exact .span_from fun location => .pure _

theorem expression_statement_tandem :
    Tandem (limit + 1) anything .opened .settled true (expressionStatement g)
      (expressionStatement twin) := by
  unfold expressionStatement
  refine (chain_tandem level).and_then (by decide) fun target => .peek_kind fun kind => ?_
  split
  · rename_i op found
    refine .bind (.advance_at ?_) fun sign => ?_
    · constructor <;> rintro rfl <;> simp [assignmentSign?] at found
    refine .bind ((expression_tandem level).relax (Nat.le_succ _)) fun value => ?_
    exact assignment_tandem _ _ _ _
  · rename_i op _ found
    refine step_statement_tandem ?_ target op
    constructor <;> rintro rfl <;> simp [stepOp?] at found
  · split
    · exact .pure _
    · exact .fail_at _ _

end

def colonLabel : Parse Stmt := do
  let name ← advance
  let _ ← consume (.symbol .colon) "':'"
  let location ← spanFrom name.location
  pure (.label name.text location)

theorem advance_second (c : Cursor) :
    (finalState (advance c)).nextKind = ((c.rest.drop 1).headD c.finish).kind := by
  obtain ⟨rest, previous, finish, errors⟩ := c
  cases rest <;> rfl

theorem label_statement_eq (x : Parse Stmt) :
    (secondKind >>= fun kind => if (kind == .symbol .colon) = true then labelStatement else x) =
      secondKind >>= fun kind => if (kind == .symbol .colon) = true then colonLabel else x := by
  funext c
  change (if (((c.rest.drop 1).headD c.finish).kind == .symbol .colon) = true
    then labelStatement else x) c =
    (if (((c.rest.drop 1).headD c.finish).kind == .symbol .colon) = true then colonLabel else x) c
  split
  · rename_i isColon
    rw [← advance_second] at isColon
    obtain ⟨name, ran⟩ := advance_ok c
    rw [labelStatement, colonLabel, bind_run, bind_run, ran]
    simp only [bind_run]
    rw [consume_run _ (eq_of_beq isColon)]
  · rfl

theorem label_tandem {x y : Parse Stmt}
    (other : Tandem limit (· = .identifier) .opened .settled true x y) :
    Tandem limit (· = .identifier) .opened .settled true
      (secondKind >>= fun kind => if (kind == .symbol .colon) = true then labelStatement else x)
      (secondKind >>= fun kind => if (kind == .symbol .colon) = true then labelStatement
        else y) := by
  rw [label_statement_eq, label_statement_eq]
  refine .second_kind (by rintro _ rfl; decide) fun second => .ite (fun _ => ?_) fun _ => other
  refine .bind (.advance_at (by decide)) fun name => .bind (.consume (by decide)) fun _ => ?_
  exact .span_from fun location => .pure _

section

variable {g twin : Grammar} (level : Matched limit g twin)

include level

theorem statement_tandem :
    Tandem (limit + 1) anything .opened .settled true (statement g) (statement twin) := by
  unfold statement
  refine .peek fun token => ?_
  generalize token.kind = kind
  split
  · exact (if_statement_tandem level).barred_at (by decide)
  · exact (for_statement_tandem level).barred_at (by decide)
  · exact (for_each_statement_tandem level).barred_at (by decide)
  · exact (while_statement_tandem level).barred_at (by decide)
  · exact print_statement_tandem level
  · exact return_statement_tandem level
  · exact dim_statement_tandem level
  · exact goto_statement_tandem
  · exact (try_statement_tandem level).barred_at (by decide)
  · exact throw_statement_tandem level
  · exact word_statement_tandem (by decide) _
  · exact word_statement_tandem (by decide) _
  · exact word_statement_tandem (by decide) _
  · exact word_statement_tandem (by decide) _
  · exact label_tandem ((expression_statement_tandem level).relax (Nat.le_refl _))
  · exact (expression_statement_tandem level).relax (Nat.le_refl _)
  · exact .fail _
  · exact .fail _
  · exact .fail _

theorem declaration_tandem :
    Tandem (limit + 1) anything .opened .settled true (declaration g) (declaration twin) := by
  unfold declaration
  refine .peek_kind fun kind => ?_
  cases isWord : isFunctionWord kind with
  | false =>
    -- What stands second is looked at, but makes no difference.
    exact (statement_tandem level).relax (Nat.le_refl _)
  | true =>
    have shape : kind = .word .function ∨ kind = .word .sub := by
      unfold isFunctionWord at isWord
      split at isWord <;> simp_all
    refine .second_kind (by rintro _ rfl; rintro rfl; cases isWord) fun second => ?_
    refine .ite (fun _ => ?_) fun _ => (statement_tandem level).relax (Nat.le_refl _)
    refine .barred ?_ (by rintro _ rfl; obtain rfl | rfl := shape <;> decide)
    refine .bind ((function_literal_tandem level true).mono (Nat.le_refl _) ?_) fun function =>
      .pure _
    rintro _ rfl
    exact shape

end

@[simp]
theorem grammar_bound (bound depth : Nat) : (grammar bound depth).bound = bound := by
  cases depth <;> rfl

theorem grammar_matched (bound twinBound depth twinDepth : Nat) (wide : limit < bound)
    (twinWide : limit < twinBound) (deep : limit ≤ depth) (twinDeep : limit ≤ twinDepth) :
    Matched limit (grammar bound depth) (grammar twinBound twinDepth) := by
  induction depth generalizing limit twinDepth with
  | zero =>
    exact ⟨by simpa using wide, by simpa using twinWide,
      .vacuous deep fun c => .refl c, .vacuous deep fun c => .refl c⟩
  | succ depth ih =>
    have below : ∀ less, limit - 1 ≤ less →
        Matched (limit - 1) (grammar bound depth) (grammar twinBound less) :=
      fun less enough => ih less (by omega) (by omega) (by omega) enough
    refine ⟨by simpa using wide, by simpa using twinWide, ?_, ?_⟩
    · refine .bounded (y := fun d => (grammar twinBound d).expression) twinDeep fun less enough =>
        ?_
      exact (expression_tandem (below less enough)).relax (by omega)
    · refine .bounded (y := fun d => (grammar twinBound d).statement) twinDeep fun less enough => ?_
      exact (statement_tandem (below less enough)).relax (by omega)

def topDeclaration (g : Grammar) (librariesAllowed : Bool) : Parse Stmt := do
  if ← check (.word .library) then
    if librariesAllowed then libraryStatement else fail .libraryNotAtTop
  else declaration g

theorem top_statement_eq (g : Grammar) (librariesAllowed : Bool) :
    topStatement g librariesAllowed = topDeclaration g librariesAllowed >>= fun result =>
      statementSeparator >>= fun _ => pure result := by
  unfold topStatement topDeclaration
  rw [bind_assoc]
  congr 1
  funext isLibrary
  cases isLibrary <;> cases librariesAllowed <;> rfl

section

variable {g twin : Grammar} (level : Matched limit g twin)

include level

theorem top_declaration_tandem (librariesAllowed : Bool) :
    Tandem (limit + 1) anything .opened .settled true (topDeclaration g librariesAllowed)
      (topDeclaration twin librariesAllowed) := by
  unfold topDeclaration
  refine .check ?_ (declaration_tandem level)
  change Tandem _ _ _ _ _ (if librariesAllowed = true then _ else _)
    (if librariesAllowed = true then _ else _)
  refine .ite (fun _ => ?_) fun _ => .fail _
  unfold libraryStatement
  refine .bind (.advance_at (by decide)) fun start => ?_
  refine .bind (.consume (by decide)) fun path => ?_
  exact .span_from fun location => .pure _

theorem top_statement_tandem (librariesAllowed : Bool) :
    Tandem (limit + 1) anything .opened .moved false (topStatement g librariesAllowed)
      (topStatement twin librariesAllowed) := by
  rw [top_statement_eq, top_statement_eq]
  refine .bind ((top_declaration_tandem level librariesAllowed).relax (Nat.le_refl _)) fun result =>
    ?_
  exact .bind (statement_separator_tandem.moved.phases (by decide) (Nat.le_refl _)) fun _ =>
    .pure result

end

theorem top_statements_tandem {g twin : Grammar} (level : Matched (limit - 1) g twin)
    (bound twinBound : Nat) (librariesAllowed : Bool) (enough : limit ≤ bound)
    (twinEnough : limit ≤ twinBound) :
    Tandem limit anything .opened .opened false (topStatements g bound librariesAllowed)
      (topStatements twin twinBound librariesAllowed) := by
  induction bound generalizing limit twinBound librariesAllowed with
  | zero => exact .vacuous enough fun c => .refl c
  | succ bound ih =>
    refine .bounded (y := fun b => topStatements twin b librariesAllowed) twinEnough
      fun twinBound twinEnough => ?_
    refine .bind (.skip_while _) fun _ => .peek_kind fun kind =>
      .ite (fun _ => .pure []) fun more => ?_
    have again := fun allowed => ih (level.fewer (Nat.sub_le _ 1)) twinBound allowed
        (by omega) twinEnough
    have step : Tandem limit (· = kind) .opened .moved false (topStatement g librariesAllowed)
        (topStatement twin librariesAllowed) :=
      (top_statement_tandem level librariesAllowed).mono (by omega) fun _ _ => trivial
    refine .and_then (step.recover (by decide) ?_) (by decide) fun result => ?_
    · intro next same isEnd
      rw [← same, isEnd] at more
      exact absurd more (by decide)
    · cases result with
      | none => exact (again _).loosen (Nat.le_refl _)
      | some statement => exact .bind ((again _).loosen (Nat.le_refl _)) fun later => .pure _

end Parser

end BrightScript
