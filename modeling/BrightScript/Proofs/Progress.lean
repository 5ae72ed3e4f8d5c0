import BrightScript.Proofs.Confinement
set_option autoImplicit false

/-!
Reading comes to an end. Every loop of the parser is made of passes, of which each returns or reads
a token before the next one starts, and what a statement or an expression is read from is at least
one token. So the bounds on repetition and on depth that the rules carry are never used up.
-/

namespace BrightScript

namespace Parser

variable {α β ι : Type} {limit : Nat}

inductive Turn (ι α : Type) where
  | done (value : α)
  | again (index : ι) (wrap : α → α)

def round (turn : ι → Parse (Turn ι α)) (rest : ι → Parse α) (index : ι) : Parse α := do
  match ← turn index with
  | .done value => pure value
  | .again index wrap => wrap <$> rest index

-- A loop is made of passes, and before fewer than `limit` tokens each of them returns or goes on
-- behind the place where it started.
structure Halts (limit : Nat) (turn : ι → Parse (Turn ι α)) (loop : Nat → ι → Parse α) : Prop where
  rounds : ∀ bound index, loop (bound + 1) index = round turn (loop bound) index
  onward : ∀ index c, Onward c (finalState (turn index c))
  advances : ∀ index c other wrap next, c.rest.length < limit → c.finish.kind = .eof →
    turn index c = .ok (.again other wrap) next → next.rest.length < c.rest.length

structure Consumes (limit : Nat) (x : Parse α) : Prop where
  onward : ∀ c, Onward c (finalState (x c))
  advances : ∀ c value next, c.rest.length < limit → c.finish.kind = .eof → x c = .ok value next →
    next.rest.length < c.rest.length

theorem Halts.unbounded {turn : ι → Parse (Turn ι α)} {loop : Nat → ι → Parse α}
    (halts : Halts limit turn loop) {free : ι → Parse α}
    (solves : ∀ index, free index = round turn free index) (bound : Nat) (index : ι) (c : Cursor)
    (short : c.rest.length < limit) (ends : c.finish.kind = .eof) (enough : c.rest.length < bound) :
    loop bound index c = free index c := by
  induction bound generalizing index c with
  | zero => exact absurd enough (Nat.not_lt_zero _)
  | succ bound ih =>
    have onward := halts.onward index c
    rw [halts.rounds, solves, round, round, bind_run, bind_run]
    cases ran : turn index c with
    | error e next => rfl
    | ok value next =>
      rw [ran] at onward
      cases value with
      | done value => rfl
      | again other wrap =>
        have shorter := halts.advances index c other wrap next short ends ran
        have same := ih other next (by omega) (onward.finish ▸ ends) (by omega)
        change EStateM.map wrap (loop bound other) next = EStateM.map wrap (free other) next
        rw [EStateM.map, EStateM.map, same]

structure Reaches (limit : Nat) (ahead : Lexeme → Prop) (p : Phase) (q : α → Phase) (x : Parse α) :
    Prop where
  onward : ∀ c, Onward c (finalState (x c))
  settles : ∀ total c a next, c.rest.length < limit → c.finish.kind = .eof → ahead c.nextKind →
    p.Holds total c → x c = .ok a next → (q a).Holds total next

def Turn.phase : Turn ι α → Phase
  | .done _ => .opened
  | .again _ _ => .moved

namespace Reaches

variable {ahead : Lexeme → Prop} {p q : Phase} {x x' : Parse α} {k : α → Parse β} {r : β → Phase}
  {s : α → Phase}

theorem pass (onward : ∀ c, Onward c (finalState (x c))) :
    Reaches limit ahead p (fun _ => .opened) x where
  onward := onward
  settles total c a next _ _ _ holds done := by
    have shorter := onward c
    rw [done] at shorter
    exact holds.onward shorter

theorem stay (onward : ∀ c, Onward c (finalState (x c))) :
    Reaches limit ahead .moved (fun _ => .moved) x where
  onward := onward
  settles total c a next _ _ _ holds done := by
    have shorter := onward c
    rw [done] at shorter
    exact Nat.lt_of_le_of_lt shorter.shorter holds

theorem reads {inLine : Bool} {y : Parse α} (tandem : Tandem limit ahead .opened q inLine x y)
    (moves : 1 ≤ q.rank) : Reaches limit ahead .opened (fun _ => .moved) x where
  onward := tandem.onward
  settles total c a next short ends fits holds done :=
    (tandem.settles total c a next short ends fits holds done).weaken moves

theorem bind (first : Reaches limit ahead p (fun _ => q) x)
    (rest : ∀ a, Reaches limit anything q r (k a)) : Reaches limit ahead p r (x >>= k) where
  onward c := by
    have onward := first.onward c
    rw [bind_run]
    cases ran : x c with
    | ok a next =>
      rw [ran] at onward
      exact onward.trans ((rest a).onward next)
    | error e next =>
      rw [ran] at onward
      exact onward
  settles total c b last short ends fits holds done := by
    have onward := first.onward c
    rw [bind_run] at done
    cases ran : x c with
    | error e next => simp [ran] at done
    | ok a next =>
      rw [ran] at onward done
      have reached := first.settles total c a next short ends fits holds ran
      exact (rest a).settles total next b last (Nat.lt_of_le_of_lt onward.shorter short)
        (onward.finish ▸ ends)
        trivial reached done

theorem done (value : α) :
    Reaches limit ahead p Turn.phase (pure (.done value) : Parse (Turn ι α)) where
  onward c := .refl c
  settles total c _ next _ _ _ holds ran := by
    cases ran
    exact holds.weaken (Nat.zero_le _)

theorem again (index : ι) (wrap : α → α) :
    Reaches limit ahead .moved Turn.phase (pure (.again index wrap) : Parse (Turn ι α)) where
  onward c := .refl c
  settles total c _ next _ _ _ holds ran := by
    cases ran
    exact holds

theorem fail_expected (what : String) :
    Reaches limit ahead p s (Parser.failExpected what : Parse α) where
  onward c := .refl c
  settles _ _ _ _ _ _ _ _ done := nomatch done

theorem look {see : Parse β} {k : β → Parse α} (sight : Cursor → β) (seen : β → Lexeme → Prop)
    (looks : ∀ c, see c = .ok (sight c) c) (shown : ∀ c, seen (sight c) c.nextKind)
    (rest : ∀ b, Reaches limit (seen b) p s (k b)) : Reaches limit ahead p s (see >>= k) where
  onward c := by
    rw [bind_run, looks]
    exact (rest (sight c)).onward c
  settles total c a next short ends _ holds done := by
    rw [bind_run, looks] at done
    exact (rest (sight c)).settles total c a next short ends (shown c) holds done

theorem peek_kind {k : Lexeme → Parse α} (rest : ∀ kind, Reaches limit (· = kind) p s (k kind)) :
    Reaches limit ahead p s (Parser.peekKind >>= k) :=
  look Cursor.nextKind (fun shown kind => kind = shown) (fun _ => rfl) (fun _ => rfl) rest

theorem check {kind : Lexeme} {k : Bool → Parse α}
    (rest : ∀ same, Reaches limit anything p s (k same)) :
    Reaches limit ahead p s (Parser.check kind >>= k) :=
  look (fun c => c.nextKind == kind) (fun _ => anything) (fun _ => rfl) (fun _ => trivial) rest

theorem previous {k : Token → Parse α} (rest : ∀ token, Reaches limit anything p s (k token)) :
    Reaches limit ahead p s (Parser.previous >>= k) :=
  look Cursor.previous (fun _ => anything) (fun _ => rfl) (fun _ => trivial) rest

theorem span_from {start : Location} {k : Location → Parse α}
    (rest : ∀ location, Reaches limit anything p s (k location)) :
    Reaches limit ahead p s (Parser.spanFrom start >>= k) :=
  previous fun token => rest (start.through token.location)

theorem ite {condition : Bool} (yes : condition = true → Reaches limit ahead p s x)
    (no : condition = false → Reaches limit ahead p s x') :
    Reaches limit ahead p s (if condition = true then x else x') := by
  cases condition with
  | true => exact yes rfl
  | false => exact no rfl

theorem advance_at {kind : Lexeme} (inside : kind ≠ .eof ∧ kind ≠ .newline) :
    Reaches limit (· = kind) .opened (fun _ => .moved) Parser.advance :=
  reads (Tandem.advance_at inside : Tandem _ _ _ _ true _ _) (by decide)

end Reaches

theorem Consumes.of_tandem {inLine : Bool} {q : Phase} {x y : Parse α}
    (tandem : Tandem limit anything .opened q inLine x y) (moves : 1 ≤ q.rank) :
    Consumes limit x where
  onward := tandem.onward
  advances c value next short ends ran :=
    (tandem.settles c.rest.length c value next short ends trivial (Nat.le_refl _) ran).weaken
    (q := .moved) moves

theorem Halts.of_reaches {turn : ι → Parse (Turn ι α)} {loop : Nat → ι → Parse α}
    (rounds : ∀ bound index, loop (bound + 1) index = round turn (loop bound) index)
    (reaches : ∀ index, Reaches limit anything .opened Turn.phase (turn index)) :
    Halts limit turn loop where
  rounds := rounds
  onward index := (reaches index).onward
  advances index c other wrap next short ends ran :=
    (reaches index).settles c.rest.length c (.again other wrap) next short ends trivial
      (Nat.le_refl _) ran

theorem accept_onward (kind : Lexeme) (c : Cursor) : Onward c (finalState (accept kind c)) := by
  change Onward c (finalState ((if (c.nextKind == kind) = true then advance >>= fun _ => pure true
    else pure false : Parse Bool) c))
  split
  · obtain ⟨token, ran⟩ := advance_ok c
    rw [bind_run, ran]
    exact advance_onward c
  · exact .refl c

theorem consume_onward (kind : Lexeme) (what : String) (c : Cursor) :
    Onward c (finalState (consume kind what c)) := by
  change Onward c (finalState
    ((if (c.nextKind == kind) = true then advance else failExpected what : Parse Token) c))
  split
  · exact advance_onward c
  · exact .refl c

def commaTurn (item : Parse α) (_ : Unit) : Parse (Turn Unit (List α)) := do
  let value ← item
  if ← accept (.symbol .comma) then pure (.again () (value :: ·)) else pure (.done [value])

theorem comma_list_halts {item : Parse α}
    (reads : Tandem limit anything .opened .settled true item item) :
    Halts limit (commaTurn item) fun bound _ => commaList item bound := by
  refine .of_reaches (fun bound _ => ?_) fun _ => ?_
  · simp only [round, commaTurn, commaList, bind_assoc]
    congr 1
    funext value
    congr 1
    funext more
    cases more <;> simp
  · refine .bind (.reads reads (by decide)) fun value => ?_
    refine .bind (.stay (accept_onward _)) fun more => ?_
    exact .ite (fun _ => .again _ _) fun _ => .done _

def itemsTurn (close : Symbol) (item : Parse α) (_ : Unit) : Parse (Turn Unit (List α)) := do
  if ← check (.symbol close) then pure (.done [])
  else
    let value ← item
    let separated ← accept (.symbol .comma)
    skipNewlines
    if separated || (← previous).kind == .newline then pure (.again () (value :: ·))
    else pure (.done [value])

theorem items_until_halts (close : Symbol) {item : Parse α}
    (reads : Tandem limit anything .opened .settled true item item) :
    Halts limit (itemsTurn close item) fun bound _ => itemsUntil close item bound := by
  refine .of_reaches (fun bound _ => ?_) fun _ => ?_
  · simp only [round, itemsTurn, itemsUntil, bind_assoc]
    congr 1
    funext closed
    cases closed with
    | true => simp
    | false =>
      simp only [Bool.false_eq_true, if_false, bind_assoc]
      congr 1
      funext value
      congr 1
      funext separated
      congr 1
      funext _
      congr 1
      funext last
      cases separated || last.kind == .newline <;> simp
  · refine .check fun closed => .ite (fun _ => .done _) fun _ => ?_
    refine .bind (.reads reads (by decide)) fun value => ?_
    refine .bind (.stay (accept_onward _)) fun separated => ?_
    refine .bind (.stay (skip_while_onward _)) fun _ => .previous fun last => ?_
    exact .ite (fun _ => .again _ _) fun _ => .done _

def operandsTurn (level : Level) (operand : Parse Expr) (left : Expr) : Parse (Turn Expr Expr) := do
  match operatorAt? level (← peekKind) with
  | none => pure (.done left)
  | some op =>
    let _ ← advance
    let right ← operand
    pure (.again (makeBinary left op right) id)

theorem operands_halts (level : Level) {operand : Parse Expr}
    (onward : ∀ c, Onward c (finalState (operand c))) :
    Halts limit (operandsTurn level operand) (operands level operand) := by
  refine .of_reaches (fun bound left => ?_) fun left => ?_
  · simp only [round, operandsTurn, operands, bind_assoc]
    congr 1
    funext kind
    cases operatorAt? level kind <;> simp
  · refine .peek_kind fun kind => ?_
    split
    · exact .done _
    · rename_i op found
      refine .bind (.advance_at (operator_in_line found)) fun _ => ?_
      exact .bind (.stay onward) fun right => .again _ _

def signedTurn (operand : Parse Expr) (_ : Unit) : Parse (Turn Unit Expr) := do
  match ← peekKind with
  | .word .not =>
    let start ← advance
    pure (.again () fun inner => .unary .not inner (start.location.through inner.location))
  | .symbol .minus =>
    let start ← advance
    pure (.again () fun inner => .unary .negate inner (start.location.through inner.location))
  | .symbol .plus =>
    let _ ← advance
    pure (.again () id)
  | _ =>
    let value ← operand
    pure (.done value)

theorem signed_halts {operand : Parse Expr} (onward : ∀ c, Onward c (finalState (operand c))) :
    Halts limit (signedTurn operand) fun bound _ => signed operand bound := by
  refine .of_reaches (fun bound _ => ?_) fun _ => ?_
  · simp only [round, signedTurn, signed, bind_assoc]
    congr 1
    funext kind
    split <;> simp
  · refine .peek_kind fun kind => ?_
    split
    · exact .bind (.advance_at (by decide)) fun start => .again _ _
    · exact .bind (.advance_at (by decide)) fun start => .again _ _
    · exact .bind (.advance_at (by decide)) fun _ => .again _ _
    · exact .bind (.pass onward) fun value => .done _

variable {g : Grammar}

def indicesTurn (g : Grammar) (object : Expr) : Parse (Turn Expr Expr) := do
  let index ← g.expression
  let location ← spanFrom object.location
  let indexed := Expr.index object index location
  if ← accept (.symbol .comma) then pure (.again indexed id) else pure (.done indexed)

theorem indices_halts (level : Matched limit g g) : Halts limit (indicesTurn g) (indices g) := by
  refine .of_reaches (fun bound object => ?_) fun object => ?_
  · simp only [round, indicesTurn, indices, bind_assoc]
    congr 1
    funext index
    congr 1
    funext location
    congr 1
    funext more
    cases more <;> simp
  · refine .bind (.reads level.expression (by decide)) fun index => .span_from fun location => ?_
    refine .bind (.stay (accept_onward _)) fun more => ?_
    exact .ite (fun _ => .again _ _) fun _ => .done _

def accessesTurn (g : Grammar) (head : Expr) : Parse (Turn Expr Expr) := do
  match ← peekKind with
  | .symbol .leftParen =>
    let _ ← advance
    let values ← arguments g
    let location ← spanFrom head.location
    pure (.again (.call head values location) id)
  | .symbol .dot =>
    let _ ← advance
    let name ← memberName
    let location ← spanFrom head.location
    pure (.again (.member head name location) id)
  | .symbol .leftSquare =>
    let _ ← advance
    let indexed ← indices g g.bound head
    let _ ← consume (.symbol .rightSquare) "']' after index"
    pure (.again indexed id)
  | _ => pure (.done head)

theorem accesses_halts (level : Matched limit g g) : Halts limit (accessesTurn g) (accesses g) := by
  refine .of_reaches (fun bound head => ?_) fun head => ?_
  · simp only [round, accessesTurn, accesses, bind_assoc]
    congr 1
    funext kind
    split <;> simp
  · refine .peek_kind fun kind => ?_
    split
    · refine .bind (.advance_at (by decide)) fun _ => ?_
      refine .bind (.stay (arguments_tandem level).onward) fun values => ?_
      exact .span_from fun location => .again _ _
    · refine .bind (.advance_at (by decide)) fun _ => ?_
      have name : Tandem limit anything .opened .settled true memberName memberName :=
        member_name_tandem
      refine .bind (.stay name.onward) fun name => ?_
      exact .span_from fun location => .again _ _
    · have inner := indices_tandem level g.bound g.bound head (Nat.le_of_lt level.bound)
          (Nat.le_of_lt level.bound)
      refine .bind (.advance_at (by decide)) fun _ => ?_
      refine .bind (.stay inner.onward) fun indexed => ?_
      exact .bind (.stay (consume_onward _ _)) fun _ => .again _ _
    · exact .done _

def blockTurn (g : Grammar) (terminators : List Keyword) (_ : Unit) :
    Parse (Turn Unit (List Stmt)) := do
  skipSeparators
  let kind ← peekKind
  if isTerminator terminators kind || closesFunction kind then pure (.done [])
  else if kind == .eof then failExpected (" or ".intercalate (terminators.map terminatorName))
  else
    match ← recover (blockStatement g terminators) with
    | some statement => pure (.again () (statement :: ·))
    | none => pure (.again () id)

theorem block_statements_halts (level : Matched limit g g) (terminators : List Keyword) :
    Halts limit (blockTurn g terminators) fun bound _ => blockStatements g terminators bound := by
  refine .of_reaches (fun bound _ => ?_) fun _ => ?_
  · simp only [round, blockTurn, blockStatements, bind_assoc]
    congr 1
    funext _
    congr 1
    funext kind
    split
    · simp
    · split
      · rfl
      · rw [bind_assoc]
        congr 1
        funext result
        cases result <;> simp
  · refine .bind (.pass (skip_while_onward _)) fun _ => .peek_kind fun kind => ?_
    refine .ite (fun _ => .done _) fun _ => .ite (fun _ => .fail_expected _) fun more => ?_
    have step : Tandem limit (· = kind) .opened .moved false (blockStatement g terminators)
        (blockStatement g terminators) :=
      (block_statement_tandem level terminators).mono (Nat.le_refl _) fun _ _ => trivial
    refine .bind (.reads (step.recover (by decide) ?_) (by decide)) fun result => ?_
    · rintro _ rfl
      simpa using more
    · cases result with
      | none => exact .again _ _
      | some statement => exact .again _ _

def inlineTurn (g : Grammar) (_ : Unit) : Parse (Turn Unit (List Stmt)) := do
  if endsInline (← peekKind) then pure (.done [])
  else
    let statement ← g.statement
    if ← accept (.symbol .colon) then pure (.again () (statement :: ·))
    else pure (.done [statement])

theorem inline_statements_halts (level : Matched limit g g) :
    Halts limit (inlineTurn g) fun bound _ => inlineStatements g bound := by
  refine .of_reaches (fun bound _ => ?_) fun _ => ?_
  · simp only [round, inlineTurn, inlineStatements, bind_assoc]
    congr 1
    funext kind
    split
    · simp
    · rw [bind_assoc]
      congr 1
      funext statement
      rw [bind_assoc]
      congr 1
      funext more
      cases more <;> simp
  · refine .peek_kind fun kind => .ite (fun _ => .done _) fun _ => ?_
    refine .bind (.reads (level.statement.relax (Nat.le_refl _) : Tandem _ _ _ _ true _ _)
      (by decide))
      fun statement => ?_
    refine .bind (.stay (accept_onward _)) fun more => ?_
    exact .ite (fun _ => .again _ _) fun _ => .done _

def blockElseIfTurn (g : Grammar) (_ : Unit) : Parse (Turn Unit (List ElseIf)) := do
  if ← accept (.word .elseIf) then
    let condition ← expression g
    let _ ← accept (.word .then_)
    consumeNewline
    let body ← block g branchEnds
    pure (.again () (⟨condition, body⟩ :: ·))
  else pure (.done [])

theorem block_else_ifs_halts (level : Matched limit g g) :
    Halts limit (blockElseIfTurn g) fun bound _ => blockElseIfs g bound := by
  refine .of_reaches (fun bound _ => ?_) fun _ => ?_
  · simp only [round, blockElseIfTurn, blockElseIfs, bind_assoc]
    congr 1
    funext more
    cases more <;> simp
  · refine .bind (.pass (accept_onward _)) fun more => .ite (fun _ => ?_) fun _ => .done _
    have condition : Tandem limit anything .opened .settled true (expression g) (expression g) :=
      (expression_tandem level).relax (Nat.le_succ _)
    refine .bind (.reads condition (by decide)) fun condition => ?_
    refine .bind (.stay (accept_onward _)) fun _ => ?_
    have feed : Tandem limit anything .opened .opened false consumeNewline consumeNewline :=
      consume_newline_tandem
    refine .bind (.stay feed.onward) fun _ => ?_
    exact .bind (.stay (block_tandem level _).onward) fun body => .again _ _

def inlineElseIfTurn (g : Grammar) (_ : Unit) : Parse (Turn Unit (List ElseIf)) := do
  if ← accept (.word .elseIf) then
    let condition ← expression g
    let _ ← accept (.word .then_)
    let body ← inlineBlock g
    pure (.again () (⟨condition, body⟩ :: ·))
  else pure (.done [])

theorem inline_else_ifs_halts (level : Matched limit g g) :
    Halts limit (inlineElseIfTurn g) fun bound _ => inlineElseIfs g bound := by
  refine .of_reaches (fun bound _ => ?_) fun _ => ?_
  · simp only [round, inlineElseIfTurn, inlineElseIfs, bind_assoc]
    congr 1
    funext more
    cases more <;> simp
  · refine .bind (.pass (accept_onward _)) fun more => .ite (fun _ => ?_) fun _ => .done _
    have condition : Tandem limit anything .opened .settled true (expression g) (expression g) :=
      (expression_tandem level).relax (Nat.le_succ _)
    refine .bind (.reads condition (by decide)) fun condition => ?_
    refine .bind (.stay (accept_onward _)) fun _ => ?_
    exact .bind (.stay (inline_block_tandem level).onward) fun body => .again _ _

def printTurn (g : Grammar) (_ : Unit) : Parse (Turn Unit (List PrintItem)) := do
  if endsValues (← peekKind) then pure (.done [])
  else
    let item ← printItem g
    pure (.again () (item :: ·))

theorem print_items_halts (level : Matched limit g g) :
    Halts limit (printTurn g) fun bound _ => printItems g bound := by
  refine .of_reaches (fun bound _ => ?_) fun _ => ?_
  · simp only [round, printTurn, printItems, bind_assoc]
    congr 1
    funext kind
    split <;> simp
  · refine .peek_kind fun kind => .ite (fun _ => .done _) fun _ => ?_
    have item : Tandem limit (· = kind) .opened .settled true (printItem g) (printItem g) :=
      (print_item_tandem level).relax (Nat.le_refl _)
    exact .bind (.reads item (by decide)) fun item => .again _ _

def topTurn (g : Grammar) (librariesAllowed : Bool) : Parse (Turn Bool (List Stmt)) := do
  skipSeparators
  let kind ← peekKind
  if kind == .eof then pure (.done [])
  else
    let allowed := librariesAllowed && kind == .word .library
    match ← recover (topStatement g librariesAllowed) with
    | some result => pure (.again allowed (result :: ·))
    | none => pure (.again allowed id)

theorem top_statements_halts (level : Matched limit g g) :
    Halts (limit + 1) (topTurn g) (topStatements g) := by
  refine .of_reaches (fun bound librariesAllowed => ?_) fun librariesAllowed => ?_
  · simp only [round, topTurn, topStatements, bind_assoc]
    congr 1
    funext _
    congr 1
    funext kind
    split
    · simp
    · rw [bind_assoc]
      congr 1
      funext result
      cases result <;> simp
  · refine .bind (.pass (skip_while_onward _)) fun _ => .peek_kind fun kind => ?_
    refine .ite (fun _ => .done _) fun more => ?_
    have step : Tandem (limit + 1) (· = kind) .opened .moved false (topStatement g librariesAllowed)
        (topStatement g librariesAllowed) :=
      (top_statement_tandem level librariesAllowed).mono (Nat.le_refl _) fun _ _ => trivial
    refine .bind (.reads (step.recover (by decide) ?_) (by decide)) fun result => ?_
    · rintro _ rfl
      simpa using more
    · cases result with
      | none => exact .again _ _
      | some statement => exact .again _ _

-- The rules of a level read tokens and their loops halt. What stands behind the first token of a
-- statement or an expression has one token less before it.
structure Grammar.Progresses (limit : Nat) (g : Grammar) : Prop where
  expression : Consumes (limit + 1) (Parser.expression g)
  statement : Consumes (limit + 1) (Parser.statement g)
  file : Halts (limit + 1) (topTurn g) (topStatements g)
  block : ∀ terminators, Halts limit (blockTurn g terminators) fun bound _ =>
    blockStatements g terminators bound
  inline : Halts limit (inlineTurn g) fun bound _ => inlineStatements g bound
  elseIfs : Halts limit (blockElseIfTurn g) fun bound _ => blockElseIfs g bound
  inlineElseIfs : Halts limit (inlineElseIfTurn g) fun bound _ => Parser.inlineElseIfs g bound
  printed : Halts limit (printTurn g) fun bound _ => printItems g bound
  dimensions : Halts limit (commaTurn (Parser.expression g)) fun bound _ =>
    commaList (Parser.expression g) bound
  arguments : Halts limit (commaTurn g.expression) fun bound _ => commaList g.expression bound
  parameters : Halts limit (commaTurn (parameter g)) fun bound _ => commaList (parameter g) bound
  elements : Halts limit (itemsTurn .rightSquare g.expression) fun bound _ =>
    itemsUntil .rightSquare g.expression bound
  members : Halts limit (itemsTurn .rightBrace (tableMember g)) fun bound _ =>
    itemsUntil .rightBrace (tableMember g) bound
  indices : Halts limit (indicesTurn g) (Parser.indices g)
  accesses : Halts limit (accessesTurn g) (Parser.accesses g)
  signs : Halts (limit + 1) (signedTurn (chain g)) fun bound _ => signed (chain g) bound
  operators : ∀ level operand, (∀ c, Onward c (finalState (operand c))) →
    Halts (limit + 1) (operandsTurn level operand) (operands level operand)

theorem matched_progresses (level : Matched limit g g) : g.Progresses limit where
  expression := .of_tandem (expression_tandem level) (by decide)
  statement := .of_tandem (statement_tandem level) (by decide)
  file := top_statements_halts level
  block := block_statements_halts level
  inline := inline_statements_halts level
  elseIfs := block_else_ifs_halts level
  inlineElseIfs := inline_else_ifs_halts level
  printed := print_items_halts level
  dimensions := comma_list_halts ((expression_tandem level).relax (Nat.le_succ _))
  arguments := comma_list_halts level.expression
  parameters := comma_list_halts (parameter_tandem level)
  elements := items_until_halts _ level.expression
  members := items_until_halts _ (table_member_tandem level)
  indices := indices_halts level
  accesses := accesses_halts level
  signs := signed_halts (chain_tandem level).onward
  operators level operand onward := operands_halts level onward

theorem Halts.last {turn : ι → Parse (Turn ι α)} {loop : Nat → ι → Parse α}
    (halts : Halts limit turn loop) {bound : Nat} {index : ι} {c final : Cursor} {a : α}
    (short : c.rest.length < limit) (ends : c.finish.kind = .eof) (enough : c.rest.length < bound)
    (ran : loop bound index c = .ok a final) :
    ∃ other middle value, Onward c middle ∧ turn other middle = .ok (.done value) final := by
  induction bound generalizing index c a with
  | zero => exact absurd enough (Nat.not_lt_zero _)
  | succ bound ih =>
    have onward := halts.onward index c
    rw [halts.rounds, round, bind_run] at ran
    cases first : turn index c with
    | error e next =>
      rw [first] at ran
      cases ran
    | ok turned next =>
      rw [first] at ran onward
      cases turned with
      | done value =>
        cases ran
        exact ⟨index, c, _, .refl c, first⟩
      | again other wrap =>
        have shorter := halts.advances index c other wrap next short ends first
        change EStateM.map wrap (loop bound other) next = _ at ran
        rw [EStateM.map] at ran
        cases later : loop bound other next with
        | error e _ =>
          rw [later] at ran
          cases ran
        | ok b last =>
          rw [later] at ran
          cases ran
          obtain ⟨other, middle, value, onwards, last⟩ :=
            ih (by omega) (onward.finish ▸ ends) (by omega) later
          exact ⟨other, middle, value, onward.trans onwards, last⟩

theorem top_turn_done {librariesAllowed : Bool} {c final : Cursor} {value : List Stmt}
    (ran : topTurn g librariesAllowed c = .ok (.done value) final) : final.nextKind = .eof := by
  change (if ((skipped c).nextKind == .eof) = true then pure (.done [])
    else recover (topStatement g librariesAllowed) >>= _ : Parse (Turn Bool (List Stmt)))
      (skipped c) = _ at ran
  split at ran
  · rename_i done
    cases ran
    exact eq_of_beq done
  · obtain ⟨result, next, read⟩ := recover_returns (topStatement g librariesAllowed) (skipped c)
    rw [bind_run, read] at ran
    cases result <;> cases ran

theorem Tandem.same {p q : Phase} {x y : Parse α} (tandem : Tandem limit anything p q false x y)
    {c : Cursor} (short : c.rest.length < limit) (ends : c.finish.kind = .eof) : x c = y c := by
  let f : Fork := ⟨.whole, [], c.finish, c.finish, c.errors, c.errors, ends⟩
  have abreast : Abreast f c c := ⟨c.rest, c.previous, [], ⟨rfl, rfl⟩, by simp [f], by simp [f]⟩
  have met := tandem.meets f c c (fun isLine => nomatch isLine) short abreast trivial
  generalize x c = run at met ⊢
  generalize y c = other at met ⊢
  cases met with
  | ok abreast =>
    obtain ⟨_, _, noted, _, rfl, rfl⟩ := abreast
    simp [f]
  | error abreast =>
    obtain ⟨_, _, noted, _, rfl, rfl⟩ := abreast
    simp [f]
  | spilled lines _ => nomatch lines

end Parser

theorem start_ends (tokens : List Token) : (Parser.Cursor.start tokens).finish.kind = .eof := by
  simp only [Parser.Cursor.start]
  cases found : tokens.find? (·.kind == .eof) with
  | none => rfl
  | some finish => simpa using List.find?_some found

/-- Reading any list of tokens comes to an end, with all tokens before the first end token read and
none behind it. Bounds on repetition and depth that exceed the number of tokens make no difference,
not even if there is none on the statements of the file; statements and expressions start with a
token, and each pass of each loop returns or reads a token. -/
theorem parsing_halts (tokens : List Token) :
    (Parser.Cursor.start tokens).rest = tokens.takeWhile (·.kind != .eof) ∧
      (∃ statements final, parse tokens = ⟨statements, final.errors⟩ ∧
        Parser.Onward (Parser.Cursor.start tokens) final ∧ final.rest = [] ∧
        ∀ bound depth, tokens.length < bound → tokens.length < depth →
          (∀ rounds, tokens.length < rounds →
            Parser.topStatements (Parser.grammar bound depth) rounds true
              (Parser.Cursor.start tokens) =
              .ok statements final) ∧
          ∀ free, (∀ allowed, free allowed =
            Parser.round (Parser.topTurn (Parser.grammar bound depth)) free allowed) →
            free true (Parser.Cursor.start tokens) = .ok statements final) ∧
      ∀ limit bound depth, limit < bound → limit ≤ depth →
        (Parser.grammar bound depth).Progresses limit := by
  have progress (limit bound depth : Nat) (wide : limit < bound) (deep : limit ≤ depth) :
      (Parser.grammar bound depth).Progresses limit :=
    Parser.matched_progresses (Parser.grammar_matched _ _ _ _ wide wide deep deep)
  have ends := start_ends tokens
  have short : (Parser.Cursor.start tokens).rest.length < tokens.length + 1 :=
    Nat.lt_succ_of_le (List.takeWhile_sublist _).length_le
  obtain ⟨statements, final, ran⟩ := Parser.top_statements_returns
    (Parser.grammar (tokens.length + 1) (tokens.length + 1)) (tokens.length + 1) true
      (Parser.Cursor.start tokens)
  have file := (progress tokens.length _ _ (Nat.lt_succ_self _) (Nat.le_succ _)).file
  obtain ⟨allowed, middle, value, onward, last⟩ := file.last short ends short ran
  have onwards : Parser.Onward (Parser.Cursor.start tokens) final := by
    have pass := file.onward allowed middle
    rw [last] at pass
    exact onward.trans pass
  refine ⟨rfl, ⟨statements, final, by rw [Parser.parse_eq, ran]; rfl, onwards, ?_, ?_⟩, progress⟩
  · -- At the end of the last pass no token is left, as none of those that are read is an end token.
    have done := Parser.top_turn_done last
    cases shape : final.rest with
    | nil => rfl
    | cons token rest =>
      have found : token ∈ tokens.takeWhile (·.kind != .eof) :=
        onwards.mem (by rw [shape]; exact .head rest)
      have inner := List.all_eq_true.1 List.all_takeWhile token found
      simp only [Parser.Cursor.nextKind, Parser.Cursor.next, shape, List.headD_cons] at done
      simp [done] at inner
  · intro bound depth wide deep
    have level := Parser.grammar_matched (tokens.length + 1) bound (tokens.length + 1) depth
        (Nat.lt_succ_self _) wide
      (Nat.le_succ _) (Nat.le_of_lt deep)
    have same (rounds : Nat) (enough : tokens.length < rounds) :
        Parser.topStatements (Parser.grammar bound depth) rounds true (Parser.Cursor.start tokens) =
          .ok statements final := by
      rw [← ran]
      have tandem : Parser.Tandem (tokens.length + 1) Parser.anything .opened .opened false
          (Parser.topStatements (Parser.grammar (tokens.length + 1) (tokens.length + 1))
            (tokens.length + 1) true)
          (Parser.topStatements (Parser.grammar bound depth) rounds true) :=
        Parser.top_statements_tandem level _ rounds true (Nat.le_refl _) enough
      exact (tandem.same short ends).symm
    refine ⟨same, fun free solves => ?_⟩
    rw [← same (tokens.length + 1) (Nat.lt_succ_self _)]
    exact ((progress tokens.length bound depth wide (Nat.le_of_lt deep)).file.unbounded solves _
      true _ short ends
      short).symm

end BrightScript
