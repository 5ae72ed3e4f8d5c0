import BrightScript.Tree.Statement
import BrightScript.Proofs.Agreement
set_option autoImplicit false

/-!
How programs are put together. A demand on trees is inherited when every form that the rules make
meets it as soon as the parts of the form do. All that is read meets an inherited demand: the rules
are gone through here once, and a property of programs is shown form by form.
-/

namespace BrightScript

structure Demands where
  -- Primaries, and the calls and accesses on them.
  chain : Expr → Prop
  -- Operands with operators of at most so many levels, counted from the tightest.
  operand : Nat → Expr → Prop
  whole : Expr → Prop
  function : Function → Prop
  block : Block → Prop
  -- A target, and a value that is stored in it.
  stored : Expr → Expr → Prop
  statement : Stmt → Prop

-- Every form meets the demands if its parts do. With no repetition allowed, a list may be left
-- without its items.
structure Demands.Inherited (d : Demands) (bound : Nat) : Prop where
  literal (value : Scalar) (location : Location) : d.chain (.literal value location)
  «variable» (name : String) (location : Location) : d.chain (.variable name location)
  grouping {inner : Expr} (location : Location) : d.whole inner → d.chain (.grouping inner location)
  call {head : Expr} {arguments : List Expr} (location : Location) :
    d.chain head → (∀ argument ∈ arguments, d.whole argument) →
      d.chain (.call head arguments location)
  member {object : Expr} (name : String) (location : Location) :
    d.chain object → d.chain (.member object name location)
  index {object index : Expr} (location : Location) :
    d.chain object → d.whole index → d.chain (.index object index location)
  array {elements : List Expr} (location : Location) :
    (∀ element ∈ elements, d.whole element) → d.chain (.array elements location)
  table {members : List Member} (location : Location) :
    (∀ member ∈ members, d.whole member.value) → d.chain (.table members location)
  anonymous {function : Function} :
  function.name = none → d.function function → d.chain (.function function)
  bare {e : Expr} : d.chain e → d.operand 0 e
  unary {operand : Expr} (op : UnaryOp) (location : Location) :
    d.operand 0 operand → d.operand 0 (.unary op operand location)
  binary {left right : Expr} {op : BinaryOp} {n : Nat} (location : Location) :
  7 - op.level.rank = n + 1 →
    d.operand (n + 1) left → d.operand n right → d.operand (n + 1) (.binary left op right location)
  looser {e : Expr} {n : Nat} : d.operand n e → d.operand (n + 1) e
  expression {e : Expr} : d.operand 7 e → d.whole e
  function {function : Function} :
    (∀ parameter ∈ function.parameters, ∀ default ∈ parameter.default, d.whole default) →
      d.block function.body →
      d.function function
  block {statements : List Stmt} (location : Location) :
    (∀ statement ∈ statements, d.statement statement) → d.block ⟨statements, location⟩
  plain {target value : Expr} : d.whole value → d.stored target value
  compound {target value : Expr} {op : BinaryOp} {sign : Lexeme} (location : Location) :
    Parser.assignmentSign? sign = some (some op) → d.chain target → d.whole value →
      d.stored target (.binary target op value location)
  invocation {callee : Expr} {arguments : List Expr} (place location : Location) :
    d.chain (.call callee arguments place) →
      d.statement (.expression (.call callee arguments place) location)
  print {items : List PrintItem} (location : Location) :
    (∀ value, PrintItem.expression value ∈ items → d.whole value) →
      d.statement (.print items location)
  assign {name : String} {value : Expr} (place location : Location) :
    d.stored (.variable name place) value → d.statement (.assign name value location)
  dim {dimensions : List Expr} (name : String) (location : Location) :
  (0 < bound → dimensions ≠ []) →
    (∀ dimension ∈ dimensions, d.whole dimension) → d.statement (.dim name dimensions location)
  ifThen {condition : Expr} {body : Block} {elseIfs : List ElseIf} {otherwise : Option Block}
  (location : Location) :
    d.whole condition → d.block body →
      (∀ branch ∈ elseIfs, d.whole branch.condition ∧ d.block branch.body) →
      (∀ block ∈ otherwise, d.block block) →
        d.statement (.ifThen condition body elseIfs otherwise location)
  forTo {start stop step : Expr} {body : Block} (counter : String) (location : Location) :
    d.whole start → d.whole stop → d.whole step → d.block body →
      d.statement (.forTo counter start stop step body location)
  forEach {target : Expr} {body : Block} (item : String) (location : Location) :
    d.whole target → d.block body → d.statement (.forEach item target body location)
  whileDo {condition : Expr} {body : Block} (location : Location) :
    d.whole condition → d.block body → d.statement (.whileDo condition body location)
  giveBack {value : Option Expr} (location : Location) :
    (∀ given ∈ value, d.whole given) → d.statement (.giveBack value location)
  setMember {object value : Expr} {name : String} (place location : Location) :
    d.chain (.member object name place) → d.stored (.member object name place) value →
      d.statement (.setMember object name value location)
  setIndex {object index value : Expr} (place location : Location) :
    d.chain (.index object index place) → d.stored (.index object index place) value →
      d.statement (.setIndex object index value location)
  step {target : Expr} (op : StepOp) (location : Location) :
    target.isAssignable = true → d.chain target → d.statement (.step target op location)
  goto (label : String) (location : Location) : d.statement (.goto label location)
  label (name : String) (location : Location) : d.statement (.label name location)
  exitFor (location : Location) : d.statement (.exitFor location)
  exitWhile (location : Location) : d.statement (.exitWhile location)
  tryCatch {body handler : Block} (name : String) (location : Location) :
    d.block body → d.block handler → d.statement (.tryCatch body name handler location)
  raise {value : Expr} (location : Location) : d.whole value → d.statement (.raise value location)
  endProgram (location : Location) : d.statement (.endProgram location)
  stop (location : Location) : d.statement (.stop location)

namespace Parser

section Lists

variable {α : Type} {gives : α → Prop} {item : Parse α}

theorem comma_list_gives (good : Returns gives item) (bound : Nat) :
    Returns (∀ a ∈ ·, gives a) (commaList item bound) := by
  induction bound with
  | zero => exact returns_pure _ fun _ member => absurd member List.not_mem_nil
  | succ bound ih =>
    refine returns_bind good fun value first => returns_last fun more => ?_
    split
    · exact returns_bind ih fun later rest => returns_pure _ (List.forall_mem_cons.2 ⟨first, rest⟩)
    · exact returns_pure _ (List.forall_mem_singleton.2 first)

theorem comma_list_some (item : Parse α) {bound : Nat} (repeats : 0 < bound) :
    Returns (· ≠ []) (commaList item bound) := by
  obtain ⟨bound, rfl⟩ := Nat.exists_eq_add_one.2 repeats
  refine returns_last fun value => returns_last fun more => ?_
  split
  · exact returns_last fun later => returns_pure _ (List.cons_ne_nil _ _)
  · exact returns_pure _ (List.cons_ne_nil _ _)

theorem items_until_gives (close : Symbol) (good : Returns gives item) (bound : Nat) :
    Returns (∀ a ∈ ·, gives a) (itemsUntil close item bound) := by
  induction bound with
  | zero => exact returns_pure _ fun _ member => absurd member List.not_mem_nil
  | succ bound ih =>
    refine returns_last fun closed => ?_
    split
    · exact returns_pure _ fun _ member => absurd member List.not_mem_nil
    · refine returns_bind good fun value first => returns_last fun separated =>
        returns_last fun _ => ?_
      refine returns_last fun last => ?_
      split
      · exact returns_bind ih fun later rest =>
          returns_pure _ (List.forall_mem_cons.2 ⟨first, rest⟩)
      · exact returns_pure _ (List.forall_mem_singleton.2 first)

theorem enclosed_gives (good : Returns gives item) (bound : Nat) (close : Symbol) (what : String) :
    Returns (∀ a ∈ ·, gives a) (do
      let values ← if ← check (.symbol close) then pure [] else commaList item bound
      let _ ← consume (.symbol close) what
      pure values : Parse (List α)) := by
  refine returns_last fun closed => ?_
  have closing (values : List α) (each : ∀ a ∈ values, gives a) :
      Returns (∀ a ∈ ·, gives a)
        (do let _ ← consume (.symbol close) what; pure values : Parse (List α)) :=
    returns_last fun _ => returns_pure values each
  split
  · exact closing [] fun _ member => absurd member List.not_mem_nil
  · exact returns_bind (comma_list_gives good bound) closing

theorem recover_gives {step : Parse α} (good : Returns gives step) :
    Returns (fun result => ∀ a, result = some a → gives a) (recover step) := by
  intro cursor result after same
  unfold recover at same
  split at same
  · rename_i value next ended
    cases same
    intro a found
    cases found
    exact good cursor value _ ended
  · split at same
    · cases same
      exact fun _ found => nomatch found
    · cases same

end Lists

-- Rules that give what meets the demands, to be used by rules whose forms inherit them.
structure Grammar.Meets (g : Grammar) (d : Demands) : Prop where
  inherited : d.Inherited g.bound
  expression : Returns d.whole g.expression
  statement : Returns d.statement g.statement

theorem operator_at_level {level : Level} {kind : Lexeme} {op : BinaryOp}
    (found : operatorAt? level kind = some op) : op.level = level := by
  have accepted := (Option.filter_eq_some_iff.1 found).2
  simpa using accepted

section Expressions

variable {d : Demands} {g : Grammar} (meets : g.Meets d)

include meets

theorem operands_meet {level : Level} {operand : Parse Expr} {n : Nat}
    (loose : 7 - level.rank = n + 1) (good : Returns (d.operand n) operand) (bound : Nat)
    {left : Expr} (first : d.operand (n + 1) left) :
    Returns (d.operand (n + 1)) (operands level operand bound left) := by
  induction bound generalizing left with
  | zero => exact returns_pure left first
  | succ bound ih =>
    refine returns_last fun kind => ?_
    split
    · exact returns_pure left first
    · rename_i op found
      have place : 7 - op.level.rank = n + 1 := by rw [operator_at_level found, loose]
      refine returns_last fun _ => returns_bind good fun right second => ?_
      exact ih (meets.inherited.binary _ place first second)

theorem at_level_meets {level : Level} {operand : Parse Expr} {n : Nat}
    (loose : 7 - level.rank = n + 1) (good : Returns (d.operand n) operand) (bound : Nat) :
    Returns (d.operand (n + 1)) (atLevel level bound operand) :=
  returns_bind good fun _ first =>
    operands_meet meets loose good bound (meets.inherited.looser first)

theorem signed_meets {operand : Parse Expr} (good : Returns (d.operand 0) operand) (bound : Nat) :
    Returns (d.operand 0) (signed operand bound) := by
  induction bound with
  | zero => exact good
  | succ bound ih =>
    have sign (op : UnaryOp) (start : Token) : Returns (d.operand 0)
        (do
          let inner ← signed operand bound
          pure (.unary op inner (start.location.through inner.location)) : Parse Expr) :=
      returns_bind ih fun _ inside => returns_pure _ (meets.inherited.unary op _ inside)
    refine returns_last fun kind => ?_
    split
    · exact returns_last fun start => sign .not start
    · exact returns_last fun start => sign .negate start
    · exact returns_last fun _ => ih
    · exact good

theorem indices_meet (bound : Nat) {object : Expr} (head : d.chain object) :
    Returns d.chain (indices g bound object) := by
  induction bound generalizing object with
  | zero => exact returns_pure object head
  | succ bound ih =>
    refine returns_bind meets.expression fun index given => returns_last fun location => ?_
    have indexed := meets.inherited.index location head given
    refine returns_last fun more => ?_
    split
    · exact ih indexed
    · exact returns_pure _ indexed

theorem accesses_meet (bound : Nat) {head : Expr} (chain : d.chain head) :
    Returns d.chain (accesses g bound head) := by
  induction bound generalizing head with
  | zero => exact returns_pure head chain
  | succ bound ih =>
    have arguments : Returns (∀ e ∈ ·, d.whole e) (arguments g) :=
      enclosed_gives meets.expression g.bound _ _
    refine returns_last fun kind => ?_
    split
    · refine returns_last fun _ => returns_bind arguments fun values given => ?_
      exact returns_last fun location => ih (meets.inherited.call location chain given)
    · refine returns_last fun _ => returns_last fun name => ?_
      exact returns_last fun location => ih (meets.inherited.member name location chain)
    · refine returns_last fun _ =>
        returns_bind (indices_meet meets g.bound chain) fun indexed good => ?_
      exact returns_last fun _ => ih good
    · exact returns_pure head chain

theorem parameter_meets :
    Returns (fun p => ∀ default ∈ p.default, d.whole default) (parameter g) := by
  refine returns_last fun token => returns_last fun given => ?_
  have ending (default : Option Expr) (good : ∀ e ∈ default, d.whole e) :
      Returns (fun p : Parameter => ∀ e ∈ p.default, d.whole e)
        (do
          let kind ← if ← acceptAs then typeName
            else pure ((Kind.ofDesignator? token.text).getD .dynamic)
          let location ← spanFrom token.location
          pure ⟨token.text, kind, default, location⟩ : Parse Parameter) := by
    refine returns_last fun typed => ?_
    split <;> exact returns_last fun _ => returns_last fun _ => returns_pure _ good
  split
  · exact returns_bind (returns_map meets.expression fun _ good => by simpa using good) ending
  · exact ending none (by simp)

theorem block_statement_meets (terminators : List Keyword) :
    Returns d.statement (blockStatement g terminators) := by
  refine returns_bind meets.statement fun statement good => returns_last fun kind => ?_
  split
  · exact returns_last fun _ => returns_pure statement good
  · exact returns_pure statement good

theorem block_statements_meet (terminators : List Keyword) (bound : Nat) :
    Returns (∀ s ∈ ·, d.statement s) (blockStatements g terminators bound) := by
  induction bound with
  | zero => exact returns_pure _ (by simp)
  | succ bound ih =>
    refine returns_last fun _ => returns_last fun kind => ?_
    split
    · exact returns_pure _ (by simp)
    · split
      · exact returns_last fun _ => returns_last fun _ => returns_throw _
      · refine returns_bind (recover_gives (block_statement_meets meets terminators))
          fun result good => ?_
        cases result with
        | some statement =>
          exact returns_bind ih fun later rest =>
            returns_pure _ (List.forall_mem_cons.2 ⟨good statement rfl, rest⟩)
        | none => exact ih

theorem block_meets (terminators : List Keyword) : Returns d.block (block g terminators) :=
  returns_last fun _ => returns_bind (block_statements_meet meets terminators g.bound)
    fun _ inside => returns_last fun _ => returns_pure _ (meets.inherited.block _ inside)

theorem function_literal_meets (named : Bool) :
    Returns (fun f => d.function f ∧ f.name.isSome = named) (functionLiteral g named) := by
  refine returns_last fun keyword => ?_
  have ending (name : Option String) (asked : name.isSome = named) :
      Returns (fun f => d.function f ∧ f.name.isSome = named)
        (do
          let _ ← consume (.symbol .leftParen) "'(' after function name"
          let values ← parameters g
          let returns ← returnKind (keyword.kind == .word .sub)
          consumeNewline
          let terminator : Keyword := if keyword.kind == .word .sub then .endSub else .endFunction
          let body ← block g [terminator]
          let _ ← consume (.word terminator) (terminatorName terminator)
          let location ← spanFrom keyword.location
          pure ⟨name, values, returns, body, keyword.kind == .word .sub, location⟩ :
            Parse Function) := by
    have values : Returns (∀ p ∈ ·, ∀ e ∈ p.default, d.whole e) (parameters g) :=
      enclosed_gives (parameter_meets meets) g.bound _ _
    refine returns_last fun _ => returns_bind values fun values defaults => ?_
    refine returns_last fun returns => returns_last fun _ => ?_
    refine returns_bind (block_meets meets _) fun body inside => ?_
    exact returns_last fun _ => returns_last fun _ =>
      returns_pure _ ⟨meets.inherited.function defaults inside, asked⟩
  dsimp only
  split
  · rename_i asked
    have given : Returns (fun name => name.isSome = named)
        ((some ·.text) <$> consume .identifier "function name" : Parse (Option String)) :=
      returns_map (returns_any _) fun _ _ => asked.symm
    exact returns_bind given ending
  · rename_i unasked
    exact ending none (by simpa using unasked)

theorem table_member_meets : Returns (fun m => d.whole m.value) (tableMember g) := by
  refine returns_last fun key => ?_
  split
  · exact returns_last fun _ => returns_last fun _ => returns_throw _
  · refine returns_last fun _ => returns_last fun _ => ?_
    exact returns_bind meets.expression fun value good => returns_last fun _ => returns_pure _ good

theorem primary_meets : Returns d.chain (primary g) := by
  have function : Returns d.chain (do
      let function ← functionLiteral g false
      pure (.function function) : Parse Expr) := by
    refine returns_bind (function_literal_meets meets false) fun function good => ?_
    exact returns_pure _ (meets.inherited.anonymous (by simpa using good.2) good.1)
  refine returns_last fun token => ?_
  split
  · exact returns_last fun _ => returns_pure _ (meets.inherited.variable _ _)
  · refine returns_last fun _ => returns_bind meets.expression fun inner good => ?_
    exact returns_last fun _ => returns_last fun _ =>
      returns_pure _ (meets.inherited.grouping _ good)
  · refine returns_last fun _ => returns_last fun _ => ?_
    refine returns_bind (items_until_gives _ meets.expression g.bound) fun elements good => ?_
    exact returns_last fun _ => returns_last fun _ => returns_pure _ (meets.inherited.array _ good)
  · refine returns_last fun _ => returns_last fun _ => ?_
    refine returns_bind (items_until_gives _ (table_member_meets meets) g.bound) fun members good =>
      ?_
    exact returns_last fun _ => returns_last fun _ => returns_pure _ (meets.inherited.table _ good)
  · exact function
  · exact function
  · split
    · exact returns_last fun _ => returns_pure _ (meets.inherited.literal _ _)
    · exact returns_last fun _ => returns_last fun _ => returns_throw _

theorem chain_meets : Returns d.chain (chain g) :=
  returns_bind (primary_meets meets) fun _ good => accesses_meet meets g.bound good

theorem expression_meets : Returns d.whole (expression g) := by
  have bare : Returns (d.operand 0) (signed (chain g) g.bound) :=
    signed_meets meets (returns_mono (chain_meets meets) fun _ good => meets.inherited.bare good)
      g.bound
  have power : Returns (d.operand 1) (atLevel .power g.bound _) :=
    at_level_meets meets rfl bare g.bound
  have multiplicative : Returns (d.operand 2) (atLevel .multiplicative g.bound _) :=
    at_level_meets meets rfl power g.bound
  have additive : Returns (d.operand 3) (atLevel .additive g.bound _) :=
    at_level_meets meets rfl multiplicative g.bound
  have shift : Returns (d.operand 4) (atLevel .shift g.bound _) :=
    at_level_meets meets rfl additive g.bound
  have relational : Returns (d.operand 5) (atLevel .relational g.bound _) :=
    at_level_meets meets rfl shift g.bound
  have conjunction : Returns (d.operand 6) (atLevel .and g.bound _) :=
    at_level_meets meets rfl relational g.bound
  have loosest : Returns (d.operand 7) (expression g) :=
    at_level_meets meets rfl conjunction g.bound
  exact returns_mono loosest fun _ good => meets.inherited.expression good

end Expressions

section Statements

variable {d : Demands} {g : Grammar} (meets : g.Meets d)

include meets

theorem inline_statements_meet (bound : Nat) :
    Returns (∀ s ∈ ·, d.statement s) (inlineStatements g bound) := by
  induction bound with
  | zero => exact returns_pure _ (by simp)
  | succ bound ih =>
    refine returns_last fun kind => ?_
    split
    · exact returns_pure _ (by simp)
    · refine returns_bind meets.statement fun statement good => returns_last fun more => ?_
      split
      · exact returns_bind ih fun later rest => returns_pure _ (List.forall_mem_cons.2 ⟨good, rest⟩)
      · exact returns_pure _ (List.forall_mem_singleton.2 good)

theorem inline_block_meets : Returns d.block (inlineBlock g) := by
  refine returns_last fun start => returns_bind (inline_statements_meet meets g.bound)
    fun statements inside => ?_
  have made (location : Location) := meets.inherited.block location inside
  dsimp only
  split
  · exact returns_last fun _ => returns_last fun _ => returns_pure _ (made _)
  · exact returns_last fun _ => returns_pure _ (made _)

theorem block_else_ifs_meet (bound : Nat) :
    Returns (∀ b ∈ ·, d.whole b.condition ∧ d.block b.body) (blockElseIfs g bound) := by
  induction bound with
  | zero => exact returns_pure _ (by simp)
  | succ bound ih =>
    refine returns_last fun more => ?_
    split
    · refine returns_bind (expression_meets meets) fun condition test => ?_
      refine returns_last fun _ => returns_last fun _ => ?_
      refine returns_bind (block_meets meets _) fun body main => ?_
      exact returns_bind ih fun later rest =>
        returns_pure _ (List.forall_mem_cons.2 ⟨⟨test, main⟩, rest⟩)
    · exact returns_pure _ (by simp)

theorem inline_else_ifs_meet (bound : Nat) :
    Returns (∀ b ∈ ·, d.whole b.condition ∧ d.block b.body) (inlineElseIfs g bound) := by
  induction bound with
  | zero => exact returns_pure _ (by simp)
  | succ bound ih =>
    refine returns_last fun more => ?_
    split
    · refine returns_bind (expression_meets meets) fun condition test => returns_last fun _ => ?_
      refine returns_bind (inline_block_meets meets) fun body main => ?_
      exact returns_bind ih fun later rest =>
        returns_pure _ (List.forall_mem_cons.2 ⟨⟨test, main⟩, rest⟩)
    · exact returns_pure _ (by simp)

theorem block_if_meets (start : Location) {condition : Expr} (test : d.whole condition) :
    Returns d.statement (blockIf g start condition) := by
  refine returns_last fun _ => returns_bind (block_meets meets _) fun body main => ?_
  refine returns_bind (block_else_ifs_meet meets g.bound) fun elseIfs others => ?_
  have ending (otherwise : Option Block) (last : ∀ b ∈ otherwise, d.block b) :
      Returns d.statement
        (do
          let _ ← consume (.word .endIf) "'end if'"
          let location ← spanFrom start
          pure (.ifThen condition body elseIfs otherwise location) : Parse Stmt) :=
    returns_last fun _ => returns_last fun _ =>
      returns_pure _ (meets.inherited.ifThen _ test main others last)
  refine returns_last fun more => ?_
  split
  · refine returns_last fun _ =>
      returns_bind (returns_map (block_meets meets _) fun _ good => ?_) ending
    simpa using good
  · exact ending none (by simp)

theorem inline_if_meets (start : Location) {condition : Expr} (test : d.whole condition) :
    Returns d.statement (inlineIf g start condition) := by
  refine returns_bind (inline_block_meets meets) fun body main => ?_
  refine returns_bind (inline_else_ifs_meet meets g.bound) fun elseIfs others => ?_
  have ending (otherwise : Option Block) (last : ∀ b ∈ otherwise, d.block b) :
      Returns d.statement
        (do
          let location ← spanFrom start
          pure (.ifThen condition body elseIfs otherwise location) : Parse Stmt) :=
    returns_last fun _ => returns_pure _ (meets.inherited.ifThen _ test main others last)
  refine returns_last fun more => ?_
  split
  · refine returns_bind (returns_map (inline_block_meets meets) fun _ good => ?_) ending
    simpa using good
  · exact ending none (by simp)

theorem if_statement_meets : Returns d.statement (ifStatement g) := by
  refine returns_last fun start => returns_bind (expression_meets meets) fun condition test => ?_
  refine returns_last fun _ => returns_last fun broken => ?_
  split
  · exact block_if_meets meets _ test
  · exact inline_if_meets meets _ test

theorem loop_step_meets : Returns d.whole (loopStep g) := by
  refine returns_last fun given => ?_
  split
  · exact expression_meets meets
  · have looser {e : Expr} {n : Nat} (good : d.operand n e) := meets.inherited.looser good
    refine returns_last fun _ => returns_pure _ (meets.inherited.expression ?_)
    exact looser (looser (looser (looser (looser (looser (looser (meets.inherited.bare
      (meets.inherited.literal _ _))))))))

theorem for_statement_meets : Returns d.statement (forStatement g) := by
  refine returns_last fun start => returns_last fun counter => returns_last fun _ => ?_
  refine returns_bind (expression_meets meets) fun first starts => returns_last fun _ => ?_
  refine returns_bind (expression_meets meets) fun last stops => ?_
  refine returns_bind (loop_step_meets meets) fun step steps => returns_last fun _ => ?_
  refine returns_bind (block_meets meets _) fun body main => ?_
  exact returns_last fun _ => returns_last fun _ =>
    returns_pure _ (meets.inherited.forTo _ _ starts stops steps main)

theorem for_each_statement_meets : Returns d.statement (forEachStatement g) := by
  refine returns_last fun start => returns_last fun item => returns_last fun _ => ?_
  refine returns_bind (expression_meets meets) fun target good => returns_last fun _ => ?_
  refine returns_bind (block_meets meets _) fun body main => ?_
  exact returns_last fun _ => returns_last fun _ =>
    returns_pure _ (meets.inherited.forEach _ _ good main)

theorem while_statement_meets : Returns d.statement (whileStatement g) := by
  refine returns_last fun start => ?_
  refine returns_bind (expression_meets meets) fun condition good => returns_last fun _ => ?_
  refine returns_bind (block_meets meets _) fun body main => ?_
  exact returns_last fun _ => returns_last fun _ =>
    returns_pure _ (meets.inherited.whileDo _ good main)

theorem print_item_meets :
    Returns (fun item => ∀ value, item = PrintItem.expression value → d.whole value)
      (printItem g) := by
  refine returns_last fun kind => ?_
  split
  · exact returns_last fun _ => returns_pure _ (by simp)
  · exact returns_last fun _ => returns_pure _ (by simp)
  · exact returns_bind (expression_meets meets) fun _ good => returns_pure _ (by simpa using good)

theorem print_items_meet (bound : Nat) :
    Returns (∀ item ∈ ·, ∀ value, item = PrintItem.expression value → d.whole value)
      (printItems g bound) := by
  induction bound with
  | zero => exact returns_pure _ (by simp)
  | succ bound ih =>
    refine returns_last fun kind => ?_
    split
    · exact returns_pure _ (by simp)
    · refine returns_bind (print_item_meets meets) fun item good =>
        returns_bind ih fun later rest => ?_
      exact returns_pure _ (List.forall_mem_cons.2 ⟨good, rest⟩)

theorem print_statement_meets : Returns d.statement (printStatement g) :=
  returns_last fun _ => returns_bind (print_items_meet meets g.bound) fun _ good =>
    returns_last fun _ => returns_pure _
      (meets.inherited.print _ fun value found => good _ found value rfl)

theorem return_statement_meets : Returns d.statement (returnStatement g) := by
  refine returns_last fun start => returns_last fun kind => ?_
  have ending (value : Option Expr) (good : ∀ e ∈ value, d.whole e) :
      Returns d.statement
        (do
          let location ← spanFrom start.location
          pure (.giveBack value location) : Parse Stmt) :=
    returns_last fun _ => returns_pure _ (meets.inherited.giveBack _ good)
  split
  · exact ending none (by simp)
  · exact returns_bind (returns_map (expression_meets meets) fun _ good => by simpa using good)
      ending

theorem dim_statement_meets : Returns d.statement (dimStatement g) := by
  have dimensions : Returns (fun es => (0 < g.bound → es ≠ []) ∧ ∀ e ∈ es, d.whole e)
      (commaList (expression g) g.bound) :=
    fun c es next ran => ⟨fun repeats => comma_list_some _ repeats c es next ran,
      comma_list_gives (expression_meets meets) _ c es next ran⟩
  refine returns_last fun start => returns_last fun name => returns_last fun _ => ?_
  refine returns_bind dimensions fun dimensions good => ?_
  exact returns_last fun _ => returns_last fun _ =>
    returns_pure _ (meets.inherited.dim _ _ good.1 good.2)

theorem try_statement_meets : Returns d.statement (tryStatement g) := by
  refine returns_last fun start => returns_last fun _ => ?_
  refine returns_bind (block_meets meets _) fun body main => ?_
  have ending : Returns d.statement
      (do
        let name ← advance
        consumeNewline
        let handler ← block g [.endTry]
        let _ ← consume (.word .endTry) "'end try'"
        let location ← spanFrom start.location
        pure (.tryCatch body name.text handler location) : Parse Stmt) := by
    refine returns_last fun name => returns_last fun _ => ?_
    refine returns_bind (block_meets meets _) fun handler rescue => ?_
    exact returns_last fun _ => returns_last fun _ =>
      returns_pure _ (meets.inherited.tryCatch _ _ main rescue)
  refine returns_last fun _ => returns_last fun named => ?_
  split
  · exact returns_last fun _ => ending
  · exact ending

theorem throw_statement_meets : Returns d.statement (throwStatement g) :=
  returns_last fun _ => returns_bind (expression_meets meets) fun _ good =>
    returns_last fun _ => returns_pure _ (meets.inherited.raise _ good)

theorem assignment_meets {target value : Expr} (into : d.chain target) (good : d.whole value)
    {op : Option BinaryOp} {kind : Lexeme} (signed : assignmentSign? kind = some op)
    (sign : Token) : Returns d.statement (assignment target op sign value) := by
  unfold assignment
  extract_lets location stored
  have kept : d.stored target stored := by
    cases op with
    | none => exact meets.inherited.plain good
    | some op => exact meets.inherited.compound location signed into good
  cases target with
  | «variable» name place => exact returns_pure _ (meets.inherited.assign place _ kept)
  | member object name place => exact returns_pure _ (meets.inherited.setMember place _ into kept)
  | index object index place => exact returns_pure _ (meets.inherited.setIndex place _ into kept)
  | literal | binary | unary | grouping | call | array | table | function => exact returns_throw _

theorem step_statement_meets {target : Expr} (into : d.chain target) (op : StepOp) :
    Returns d.statement (stepStatement target op) := by
  refine returns_last fun sign => ?_
  split
  · split <;> exact returns_throw _
  · rename_i assignable
    refine returns_last fun kind => ?_
    split
    · exact returns_last fun _ => returns_throw _
    · exact returns_pure _ (meets.inherited.step _ _ (by simpa using assignable) into)

theorem expression_statement_meets : Returns d.statement (expressionStatement g) := by
  refine returns_bind (chain_meets meets) fun target into => returns_last fun kind => ?_
  split
  · rename_i op sign
    refine returns_last fun token => returns_bind (expression_meets meets) fun value good => ?_
    exact assignment_meets meets into good sign token
  · exact step_statement_meets meets into _
  · split
    · exact returns_pure _ (meets.inherited.invocation _ _ into)
    · exact returns_throw _

theorem statement_meets : Returns d.statement (statement g) := by
  have word (make : Location → Stmt) (plain : ∀ l, d.statement (make l)) :
      Returns d.statement (wordStatement make) :=
    returns_last fun _ => returns_pure _ (plain _)
  refine returns_last fun token => ?_
  split
  · exact if_statement_meets meets
  · exact for_statement_meets meets
  · exact for_each_statement_meets meets
  · exact while_statement_meets meets
  · exact print_statement_meets meets
  · exact return_statement_meets meets
  · exact dim_statement_meets meets
  · exact returns_last fun _ => returns_last fun _ => returns_last fun _ =>
      returns_pure _ (meets.inherited.goto _ _)
  · exact try_statement_meets meets
  · exact throw_statement_meets meets
  · exact word _ meets.inherited.exitFor
  · exact word _ meets.inherited.exitWhile
  · exact word _ meets.inherited.endProgram
  · exact word _ meets.inherited.stop
  · refine returns_last fun second => ?_
    split
    · exact returns_last fun _ => returns_last fun _ => returns_last fun _ =>
        returns_pure _ (meets.inherited.label _ _)
    · exact expression_statement_meets meets
  · exact expression_statement_meets meets
  · exact returns_last fun _ => returns_throw _
  · exact returns_last fun _ => returns_throw _
  · exact returns_last fun _ => returns_throw _

end Statements

theorem grammar_meets {d : Demands} {bound : Nat} (inherited : d.Inherited bound) (depth : Nat) :
    (grammar bound depth).Meets d := by
  induction depth with
  | zero =>
    exact ⟨inherited, returns_last fun _ => returns_last fun _ => returns_throw _,
      returns_last fun _ => returns_last fun _ => returns_throw _⟩
  | succ depth ih => exact ⟨inherited, expression_meets ih, statement_meets ih⟩

end Parser

end BrightScript
