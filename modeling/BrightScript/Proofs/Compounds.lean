import BrightScript.Proofs.GrammarOwnTokens
import BrightScript.Proofs.Progress
set_option autoImplicit false

namespace BrightScript

def CopyOf (tokens copy : List Token) : Prop :=
  copy.map Token.unplaced = tokens.map Token.unplaced

theorem CopyOf.length {tokens copy : List Token} (copied : CopyOf tokens copy) :
    copy.length = tokens.length := by
  simpa using congrArg List.length copied

theorem CopyOf.cons {token : Token} {rest copy : List Token}
    (copied : CopyOf (token :: rest) copy) :
    ∃ other others, copy = other :: others ∧ other.unplaced = token.unplaced := by
  cases copy with
  | nil => exact nomatch copied
  | cons other others => exact ⟨other, others, rfl, (List.cons.inj copied).1⟩

def BinaryOp.assigning : BinaryOp → Option Symbol
  | .add => some .plusEqual
  | .subtract => some .minusEqual
  | .multiply => some .starEqual
  | .divide => some .slashEqual
  | .integerDivide => some .backslashEqual
  | .leftShift => some .leftShiftEqual
  | .rightShift => some .rightShiftEqual
  | _ => none

inductive Sugar (op : BinaryOp) (t e : List Token) : List Token → List Token → Prop
  | mk {symbol : Symbol} {sign equal operator opening closing : Token}
      {target value again operand inner : List Token} (compound : op.assigning = some symbol)
      (assigns : sign.kind = .symbol symbol) (equals : equal.kind = .symbol .equal)
      (operates : operator.kind = op.lexeme) (opens : opening.kind = .symbol .leftParen)
      (closes : closing.kind = .symbol .rightParen) (updated : CopyOf t target)
      (applied : CopyOf e value) (stored : CopyOf t again) (read : CopyOf t operand)
      (grouped : CopyOf e inner) : Sugar op t e (target ++ sign :: value)
        (again ++ equal :: (operand ++ operator :: (opening :: (inner ++ [closing]))))

def Expr.ungrouped : Expr → Expr
  | .binary left op (.grouping inner _) location => .binary left op inner location
  | e => e

def Stmt.ungrouped : Stmt → Stmt
  | .assign name value location => .assign name value.ungrouped location
  | .setMember object name value location => .setMember object name value.ungrouped location
  | .setIndex object place value location => .setIndex object place value.ungrouped location
  | s => s

theorem stores_ungrouped (target value : Expr) (location : Location) :
    (target.stores value location).map Stmt.ungrouped = target.stores value.ungrouped location := by
  cases target <;> rfl

namespace Parser

variable {α γ : Type}

-- From these tokens, with nothing around them, the rule reads all of them as `a` and notes these
-- faults.
structure ParsesAs (rule : Grammar → Parse α) (tokens : List Token) (a : α)
    (noted : List ParseError) : Prop where
  inner : ∀ token ∈ tokens, token.kind ≠ .eof
  read : ∃ c, rule (grammar (tokens.length + 1) (tokens.length + 1)) (.start tokens) = .ok a c ∧
    c.rest = [] ∧ c.errors = noted

structure Spot where
  bound : Nat
  depth : Nat
  behind : List Token
  previous : Token
  finish : Token
  errors : List ParseError

namespace Spot

def follows (p : Spot) : Lexeme :=
  (p.behind.headD p.finish).kind

def Holds (p : Spot) (tokens : List Token) : Prop :=
  tokens.length < p.bound ∧ tokens.length ≤ p.depth

def before (p : Spot) (tokens : List Token) : Cursor :=
  ⟨tokens ++ p.behind, p.previous, p.finish, p.errors⟩

def after (p : Spot) (tokens : List Token) (noted : List ParseError) : Cursor :=
  ⟨p.behind, tokens.getLastD p.previous, p.finish, p.errors ++ noted⟩

def run (p : Spot) (rule : Grammar → Parse α) (tokens : List Token) :
    EStateM.Result ParseError Cursor α :=
  rule (grammar p.bound p.depth) (p.before tokens)

end Spot

theorem start_whole {tokens : List Token} (inner : ∀ token ∈ tokens, token.kind ≠ .eof) :
    ∃ finish, finish.kind = .eof ∧ Cursor.start tokens = ⟨tokens, finish, finish, []⟩ := by
  refine ⟨(Cursor.start tokens).finish, start_ends tokens, ?_⟩
  have whole : (tokens ++ []).takeWhile (fun token => token.kind != Lexeme.eof) = tokens ++ [] :=
    List.takeWhile_append_of_pos fun token member => by simpa using inner token member
  rw [List.append_nil] at whole
  simp only [Cursor.start, whole]

section

variable {rule : Grammar → Parse α} {ends : Lexeme → Prop} {f : α → γ}
  {tokens copy : List Token} {a : α} {noted : List ParseError}

theorem parses_some (parses : ParsesAs rule tokens a noted)
    (insular : ∀ g, g.Insulated → Insular anything ends true f (rule g) (rule g)) :
    tokens ≠ [] := by
  obtain ⟨c, read, done, errors⟩ := parses.read
  obtain ⟨finish, isEnd, start⟩ := start_whole parses.inner
  rw [start] at read
  have moved := (insular _ (grammar_insulated _ _)).moved rfl _ _ _ isEnd trivial read
  exact List.length_pos_iff.1 (Nat.zero_lt_of_lt moved)

theorem parses_anywhere (parses : ParsesAs rule tokens a noted) (copied : CopyOf tokens copy)
    (tandem : ∀ g twin, Matched tokens.length g twin →
      Tandem (tokens.length + 1) anything .opened .settled true (rule g) (rule twin))
    (insular : ∀ g, g.Insulated → Insular anything ends true f (rule g) (rule g))
    (forgets : ∀ g, Forgets (rule g)) (p : Spot) (room : p.Holds tokens) (closes : ends p.follows) :
    ∃ b more, f b = f a ∧ more.map Located.cause = noted.map Located.cause ∧
      p.run rule copy = .ok b (p.after copy more) := by
  obtain ⟨c, read, done, errors⟩ := parses.read
  obtain ⟨finish, isEnd, start⟩ := start_whole parses.inner
  -- The bounds of the place are as good as those of a file of these tokens.
  have level : Matched tokens.length (grammar (tokens.length + 1) (tokens.length + 1))
      (grammar p.bound p.depth) :=
    grammar_matched _ _ _ _ (Nat.lt_succ_self _) room.1 (Nat.le_succ _) room.2
  have steps : Tandem (tokens.length + 1) anything .opened .settled false _ _ :=
    (tandem _ _ level).across_lines
  rw [start, steps.same (Nat.lt_succ_self _) isEnd] at read
  -- Nor does it matter where they stand and what is behind them, nor what stands before.
  let s : Seam := ⟨p.behind, finish, p.finish, [], p.errors, isEnd⟩
  let twin : Cursor := ⟨copy ++ p.behind, finish, p.finish, p.errors⟩
  have alongside : Alongside s ⟨tokens, finish, finish, []⟩ twin :=
    ⟨⟨copy, copied.symm, rfl⟩, rfl, rfl, rfl, ⟨[], [], rfl, rfl, (List.append_nil _).symm⟩⟩
  have reads := insular (grammar p.bound p.depth) (grammar_insulated _ _)
  have met := reads.concurs s _ twin alongside trivial (.inr ⟨⟨a, c, read⟩, closes⟩)
  have onward := reads.onward twin
  have some : copy ≠ [] := by
    rw [← List.length_pos_iff, copied.length, List.length_pos_iff]
    exact parses_some parses insular
  rw [read] at met
  cases ran : rule (grammar p.bound p.depth) twin with
  | error e next =>
    rw [ran] at met
    exact nomatch met
  | ok b next =>
    rw [ran] at met onward
    cases met with
    | ok same alongside =>
      obtain ⟨notedThere, more, causes, shape, twinErrors⟩ := alongside.errors
      obtain ⟨consumed, passed, last⟩ := onward.reads
      change copy ++ p.behind = consumed ++ next.rest at passed
      rw [alongside.exhausted done] at passed
      obtain rfl := List.append_cancel_right passed
      obtain rfl : notedThere = noted := by rw [← errors, shape]; rfl
      refine ⟨b, more, same.symm, causes.symm, ?_⟩
      have reached : next = p.after copy more := by
        obtain ⟨rest, previous, _, _⟩ := next
        obtain rfl : rest = p.behind := alongside.exhausted done
        obtain rfl := alongside.twinFinish
        obtain rfl := twinErrors
        obtain ⟨token, others, rfl⟩ := List.exists_cons_of_ne_nil some
        rw [List.getLastD_cons] at last
        obtain rfl : previous = others.getLastD token := last
        rw [Spot.after, List.getLastD_cons]
      obtain again | ⟨e, failed, _⟩ :=
        forgets (grammar p.bound p.depth) twin p.previous (by simp [twin, some])
      · exact again.trans (ran.trans (by rw [reached]))
      · exact nomatch ran.symm.trans failed

end

theorem forgets_at_level (level : Level) (bound : Nat) {operand : Parse Expr}
    (forgets : Forgets operand) : Forgets (atLevel level bound operand) :=
  forgets_bind forgets _

theorem signed_forgets {operand : Parse Expr} (forgets : Forgets operand) (bound : Nat) :
    Forgets (signed operand bound) := by
  cases bound with
  | zero => exact forgets
  | succ bound =>
    refine forgets_peek_kind fun kind => ?_
    split
    · exact forgets_advance _
    · exact forgets_advance _
    · exact forgets_advance _
    · exact forgets

theorem chain_forgets (g : Grammar) : Forgets (chain g) :=
  forgets_bind (primary_forgets g) _

theorem expression_forgets (g : Grammar) : Forgets (expression g) := by
  unfold expression
  iterate 7 apply forgets_at_level
  exact signed_forgets (chain_forgets g) g.bound

theorem chain_anywhere {t copy : List Token} {target : Expr} {noted : List ParseError}
    (parses : ParsesAs chain t target noted) (copied : CopyOf t copy) (p : Spot) (room : p.Holds t)
    (closes : Stops 0 p.follows) :
    ∃ read more, read.unplaced = target.unplaced ∧
      more.map Located.cause = noted.map Located.cause ∧
      p.run chain copy = .ok read (p.after copy more) :=
  parses_anywhere parses copied (fun _ _ => chain_tandem)
    (fun _ => chain_insular) chain_forgets p room closes

theorem expression_reads {e copy : List Token} {value : Expr}
    (parses : ParsesAs expression e value []) (copied : CopyOf e copy) {bound depth : Nat}
    (wide : e.length < bound) (deep : e.length ≤ depth) :
    Reads (expression (grammar bound depth)) copy (Stops 7) (·.unplaced = value.unplaced) := by
  intro behind previous finish errors stops
  let p : Spot := ⟨bound, depth, behind, previous, finish, errors⟩
  obtain ⟨read, more, same, none, ran⟩ :=
    parses_anywhere parses copied (fun _ _ => expression_tandem)
    (fun _ => expression_insular) expression_forgets p ⟨wide, deep⟩ stops
  obtain rfl : more = [] := List.map_eq_nil_iff.1 none
  rw [Spot.after, List.append_nil] at ran
  exact ⟨read, same, ran⟩

section

variable {g : Grammar} {c next : Cursor}

theorem operands_stay {n : Nat} (low : n < 7) (stops : Stops (n + 1) c.nextKind) (bound : Nat)
    (left : Expr) : operands (levelAt n) (tier g n) bound left c = .ok left c := by
  obtain ⟨read, rfl, stayed⟩ :=
    operands_stop low (left, bound) c.rest c.previous c.finish c.errors stops
  exact stayed

theorem accesses_stay {n : Nat} (stops : Stops n c.nextKind) (bound : Nat) (head : Expr) :
    accesses g bound head c = .ok head c := by
  obtain ⟨read, rfl, stayed⟩ :=
    accesses_stop (head, bound) c.rest c.previous c.finish c.errors stops
  exact stayed

theorem tier_passes {k : Nat} {e : Expr} (ran : tier g k c = .ok e next) (n : Nat) (looser : k ≤ n)
    (low : n ≤ 7) (stops : Stops n next.nextKind) : tier g n c = .ok e next := by
  induction looser with
  | refl => exact ran
  | @step n _ ih =>
    change (tier g n >>= fun first => operands (levelAt n) (tier g n) g.bound first) c = _
    rw [bind_run, ih (Nat.le_of_lt low) (stops_mono (Nat.le_succ n) stops)]
    exact operands_stay low stops g.bound e

theorem primary_begins {head : Expr} (ran : primary g c = .ok head next) :
    c.nextKind.beginsPrimary = true ∨ c.nextKind = .word .function ∨ c.nextKind = .word .sub := by
  have seen : peek c = .ok c.next c := rfl
  rw [primary, bind_run, seen] at ran
  simp only at ran
  rw [Cursor.nextKind]
  generalize c.next.kind = kind at ran ⊢
  split at ran
  · exact .inl rfl
  · exact .inl rfl
  · exact .inl rfl
  · exact .inl rfl
  · exact .inr (.inl rfl)
  · exact .inr (.inr rfl)
  · split at ran
    · rename_i literal
      refine .inl ?_
      unfold Lexeme.beginsPrimary
      split <;> first | rfl | exact literal
    · cases ran

theorem chain_begins {target : Expr} (ran : chain g c = .ok target next) :
    c.nextKind.beginsPrimary = true ∨ c.nextKind = .word .function ∨ c.nextKind = .word .sub := by
  rw [chain, bind_run] at ran
  cases first : primary g c with
  | error e last =>
    rw [first] at ran
    cases ran
  | ok head last => exact primary_begins first

theorem signed_chain {target : Expr} (ran : chain g c = .ok target next) (bound : Nat) :
    signed (chain g) bound c = .ok target next := by
  have begins := chain_begins ran
  cases bound with
  | zero => exact ran
  | succ bound =>
    have seen : peekKind c = .ok c.nextKind c := rfl
    rw [signed, bind_run, seen]
    simp only
    generalize c.nextKind = kind at begins
    split
    · rcases begins with begins | begins | begins <;> cases begins
    · rcases begins with begins | begins | begins <;> cases begins
    · rcases begins with begins | begins | begins <;> cases begins
    · exact ran

variable {value : Expr} {inner behind : List Token} {opening closing : Token}

theorem grouping_reads (opens : opening.kind = .symbol .leftParen)
    (closes : closing.kind = .symbol .rightParen)
    (reads : Reads g.expression inner (Stops 7) (·.unplaced = value.unplaced)) :
    Reads (primary g) (opening :: (inner ++ [closing])) (fun _ => True)
      (·.unplaced = (Expr.grouping value .internal).unplaced) := by
  refine leads_peek ?_
  rw [opens]
  refine leads_advance
    (leads_bind reads (fun read same => ?_) (ahead_cons (closes ▸ stops_plain rfl rfl 7)))
  refine leads_consume closes (leads_span fun location => ?_)
  exact reads_pure _ (by simp only [Expr.unplaced, same])

-- The operator stands on its own level right behind the chain. A tighter level has the chain alone,
-- a looser one all of it.
theorem update_read {op : BinaryOp} {target : Expr} {operator previous finish : Token}
    {errors : List ParseError} (chained : chain g c =
      .ok target ⟨operator :: opening :: (inner ++ [closing]) ++ behind, previous, finish, errors⟩)
    (operates : operator.kind = op.lexeme) (opens : opening.kind = .symbol .leftParen)
    (closes : closing.kind = .symbol .rightParen)
    (reads : Reads g.expression inner (Stops 7) (·.unplaced = value.unplaced))
    (room : (opening :: (inner ++ [closing])).length ≤ g.bound)
    (stops : Stops 7 (behind.headD finish).kind) :
    ∃ read, read.unplaced = (Expr.binary target op (.grouping value .internal) .internal).unplaced ∧
      expression g c = .ok read ⟨behind, closing, finish, errors⟩ := by
  obtain ⟨n, loose, low⟩ : ∃ n, op.looseness = n + 1 ∧ n < 7 := by
    cases op <;> exact ⟨_, rfl, by decide⟩
  obtain ⟨less, more⟩ : ∃ less, g.bound = less + 1 := ⟨g.bound - 1, by simp at room; omega⟩
  have grouping : Readable g (.grouping value .internal) (opening :: (inner ++ [closing])) :=
    readable_of_primary room ⟨opening, _, rfl, by rw [opens]; rfl⟩
      (grouping_reads opens closes reads)
  have operand := grouping.inTier n (Nat.zero_le n) (Nat.le_of_lt low)
  have stopped : Stops n operator.kind := by
    rw [operates]
    exact stops_operator (by omega)
  have tight := tier_passes (k := 0) (signed_chain chained g.bound) n (Nat.zero_le n)
      (Nat.le_of_lt low) stopped
  obtain ⟨_, ⟨right, same, rfl⟩, stepped⟩ :=
    operands_step loose operates operand target less behind previous
    finish errors (stops_mono (Nat.le_of_lt low) stops)
  have own : tier g (n + 1) c = .ok (makeBinary target op right)
      ⟨behind, closing, finish, errors⟩ := by
    change (tier g n >>= fun first => operands (levelAt n) (tier g n) g.bound first) c = _
    rw [bind_run, tight, more]
    refine stepped.trans ?_
    have last : (operator :: opening :: (inner ++ [closing])).getLastD previous = closing := by
      rw [List.getLastD_cons, List.getLastD_cons, List.getLastD_concat]
    rw [last]
    exact operands_stay (c := ⟨behind, closing, finish, errors⟩) low (stops_mono low stops) less _
  refine ⟨makeBinary target op right, ?_, tier_passes own 7 low (Nat.le_refl 7) stops⟩
  simp only [makeBinary, Expr.unplaced, same]

def OpensStatement (tokens : List Token) : Prop :=
  ∃ first rest, tokens = first :: rest ∧
    (first.kind = .identifier ∨ first.kind = .symbol .leftParen)

theorem statement_of_chain {target : Expr} (chained : chain g c = .ok target next)
    (opens : OpensStatement c.rest) (unlabelled : next.nextKind ≠ .symbol .colon) :
    statement g c = withTarget g target next := by
  have whole : expressionStatement g c = withTarget g target next := by
    rw [expression_statement_eq, bind_run, chained]
  obtain ⟨first, rest, shape, opens⟩ := opens
  have seen : peek c = .ok first c := by
    change EStateM.Result.ok c.next c = _
    rw [Cursor.next, shape, List.headD_cons]
  rw [statement, bind_run, seen]
  simp only
  rcases opens with kind | kind <;> rw [kind]
  · change namedStatement g c = _
    rw [named_statement_run g shape, namedBranch]
    split
    · rename_i colon
      -- The chain would have ended there.
      have ended : chain g c =
          .ok (.variable first.text first.location) { c with rest := rest, previous := first } := by
        rw [chain, bind_run, primary_name g shape kind]
        refine accesses_stay (n := 0) ?_ g.bound _
        change Stops 0 (rest.headD c.finish).kind
        rw [eq_of_beq colon]
        exact stops_plain rfl rfl 0
      rw [chained] at ended
      cases ended
      exact absurd (eq_of_beq colon) unlabelled
    · exact whole
  · exact whole

def refusal (token : Token) : ParseFault :=
  match token.kind with
  | .word .function | .word .sub => .nestedFunction token.text
  | _ => .unexpected (describe token)

theorem statement_refuses {target : Expr} {first : Token} {rest : List Token}
    (chained : chain g c = .ok target next) (shape : c.rest = first :: rest)
    (closed : ¬ OpensStatement c.rest) :
    statement g c = .error ⟨refusal first, first.location⟩ c := by
  have begins := chain_begins chained
  have other : first.kind ≠ .identifier ∧ first.kind ≠ .symbol .leftParen :=
    not_or.1 fun opens => closed ⟨first, rest, shape, opens⟩
  obtain ⟨_, previous, finish, errors⟩ := c
  obtain ⟨kind, text, literal, location⟩ := first
  subst shape
  change kind.beginsPrimary = true ∨ kind = _ ∨ kind = _ at begins
  cases kind with
  | symbol symbol =>
    cases symbol with
    | leftParen => exact absurd rfl other.2
    | _ => rfl
  | identifier => exact absurd rfl other.1
  | word keyword =>
    cases keyword with
    | «false» | function | invalid | sub | «true» => rfl
    | _ => rcases begins with begins | begins | begins <;> cases begins
  | _ => rfl

theorem statement_assigns {target value : Expr} {op : Option BinaryOp} {sign : Token}
    {rest : List Token} {last : Cursor} (chained : chain g c = .ok target next)
    (opens : OpensStatement c.rest) (shape : next.rest = sign :: rest)
    (assigns : assignmentSign? sign.kind = some op)
    (read : expression g { next with rest := rest, previous := sign } = .ok value last)
    (assignable : target.isAssignable = true) :
    ∃ s, statement g c = .ok s last ∧
      some s.unplaced = target.unplaced.stores (target.compounded op value).unplaced .internal := by
  have kind : next.nextKind = sign.kind := by
    rw [Cursor.nextKind, Cursor.next, shape, List.headD_cons]
  have unlabelled : next.nextKind ≠ .symbol .colon := by
    rw [kind]
    intro colon
    rw [colon] at assigns
    cases assigns
  obtain ⟨s, made⟩ : ∃ s,
      target.stores (target.compounded op value) (target.location.through value.location) =
        some s := by
    cases target <;> first | exact ⟨_, rfl⟩ | cases assignable
  refine ⟨s, ?_, ?_⟩
  · have seen : peekKind next = .ok next.nextKind next := rfl
    rw [statement_of_chain chained opens unlabelled, withTarget, bind_run, seen]
    simp only
    rw [kind, assigns]
    simp only
    rw [bind_run, advance_run shape]
    simp only
    rw [bind_run, read]
    simp only
    rw [assignment_eq, made]
    rfl
  · rw [← stores_unplaced, made]
    rfl

end

theorem assigning_sign {op : BinaryOp} {symbol : Symbol} (compound : op.assigning = some symbol) :
    assignmentSign? (.symbol symbol) = some (some op) ∧ Stops 0 (.symbol symbol) := by
  cases op <;> cases compound <;> exact ⟨rfl, stops_plain rfl rfl 0⟩

theorem equal_stops : Stops 0 (.symbol .equal) :=
  (stops_operator (by decide) : Stops 0 BinaryOp.equal.lexeme)

theorem last_behind (before : List Token) (token : Token) (after : List Token) (previous : Token) :
    (before ++ token :: after).getLastD previous = after.getLastD token := by
  rw [List.getLastD_eq_getLast?, List.getLastD_eq_getLast?, List.getLast?_append,
    List.getLast?_cons]
  cases after.getLast? <;> rfl

section

variable {t e copy : List Token} {target value : Expr} {noted : List ParseError} {sign : Token}

theorem chain_before (parses : ParsesAs chain t target noted) (copied : CopyOf t copy)
    (rest : List Token) (p : Spot) (room : p.Holds t) (stops : Stops 0 sign.kind) :
    ∃ read more, read.unplaced = target.unplaced ∧
      more.map Located.cause = noted.map Located.cause ∧
      p.run chain (copy ++ sign :: rest) =
        .ok read ⟨sign :: (rest ++ p.behind), copy.getLastD p.previous, p.finish,
          p.errors ++ more⟩ := by
  obtain ⟨read, more, same, causes, ran⟩ :=
    chain_anywhere parses copied { p with behind := sign :: (rest ++ p.behind) } room stops
  refine ⟨read, more, same, causes, Eq.trans ?_ ran⟩
  simp only [Spot.run, Spot.before, List.append_assoc, List.cons_append]

theorem refused_before (parses : ParsesAs chain t target noted) (copied : CopyOf t copy)
    (closed : ¬ OpensStatement t) (rest : List Token) (p : Spot) (room : p.Holds t)
    (stops : Stops 0 sign.kind) : ∃ location, p.run statement (copy ++ sign :: rest) =
      .error ⟨refusal (t.headD default), location⟩ (p.before (copy ++ sign :: rest)) := by
  obtain ⟨read, more, _, _, ran⟩ := chain_before parses copied rest p room stops
  obtain ⟨first, others, rfl⟩ :=
    List.exists_cons_of_ne_nil (parses_some parses fun _ => chain_insular)
  obtain ⟨other, tail, rfl, same⟩ := copied.cons
  have shape : (p.before (other :: tail ++ sign :: rest)).rest = other ::
      (tail ++ sign :: rest ++ p.behind) := rfl
  refine ⟨other.location, (statement_refuses ran shape ?_).trans ?_⟩
  · rintro ⟨_, _, rebuilt, opens⟩
    rw [shape] at rebuilt
    cases rebuilt
    exact closed ⟨first, others, rfl, by rwa [← Token.same_kind same]⟩
  · rw [Token.same_but_location same]
    rfl

theorem opens_before (copied : CopyOf t copy) (opens : OpensStatement t) (rest : List Token)
    (p : Spot) : OpensStatement (p.before (copy ++ sign :: rest)).rest := by
  obtain ⟨first, others, rfl, kind⟩ := opens
  obtain ⟨other, tail, rfl, same⟩ := copied.cons
  exact ⟨other, tail ++ sign :: rest ++ p.behind, rfl, by rwa [Token.same_kind same]⟩

variable {op : BinaryOp}

theorem compound_reads {applied : List Token} {symbol : Symbol}
    (chained : ParsesAs chain t target noted) (assignable : target.isAssignable = true)
    (valued : ParsesAs expression e value []) (compound : op.assigning = some symbol)
    (assigns : sign.kind = .symbol symbol) (copied : CopyOf t copy) (grouped : CopyOf e applied)
    (opens : OpensStatement t) (p : Spot) (room : p.Holds (copy ++ sign :: applied))
    (ends : ¬ p.follows.Continues) :
    ∃ s more, p.run statement (copy ++ sign :: applied) =
      .ok s (p.after (copy ++ sign :: applied) more) ∧
      some s.unplaced = target.unplaced.stores
      (.binary target.unplaced op value.unplaced .internal) .internal ∧
      more.map Located.cause = noted.map Located.cause := by
  obtain ⟨isSign, stops⟩ := assigning_sign compound
  rw [← assigns] at isSign stops
  simp only [Spot.Holds, List.length_append, List.length_cons, copied.length,
    grouped.length] at room
  have wide : e.length < p.bound := by omega
  have deep : e.length ≤ p.depth := by omega
  obtain ⟨head, more, same, causes, ran⟩ :=
    chain_before chained copied applied p ⟨by omega, by omega⟩ stops
  obtain ⟨read, alike, reached⟩ := expression_reads valued grouped wide deep p.behind sign p.finish
    (p.errors ++ more) (stops_end ends 7)
  obtain ⟨s, stated, stored⟩ :=
    statement_assigns ran (opens_before copied opens applied p) rfl isSign reached
    (by rw [← assignable_unplaced, same, assignable_unplaced, assignable])
  refine ⟨s, more, ?_, ?_, causes⟩
  · rw [Spot.after, last_behind]
    exact stated
  · rw [stored, Expr.compounded, Expr.unplaced, same, alike]

theorem plain_reads {equal operator opening closing : Token} {operand inner : List Token}
    (chained : ParsesAs chain t target noted) (assignable : target.isAssignable = true)
    (valued : ParsesAs expression e value []) (equals : equal.kind = .symbol .equal)
    (operates : operator.kind = op.lexeme) (opens : opening.kind = .symbol .leftParen)
    (closes : closing.kind = .symbol .rightParen) (copied : CopyOf t copy)
    (again : CopyOf t operand) (grouped : CopyOf e inner) (starts : OpensStatement t) (p : Spot)
    (room : p.Holds (copy ++ equal :: (operand ++ operator :: (opening :: (inner ++ [closing])))))
    (ends : ¬ p.follows.Continues) :
    ∃ s more,
      p.run statement (copy ++ equal ::
        (operand ++ operator :: (opening :: (inner ++ [closing])))) =
        .ok s (p.after (copy ++ equal :: (operand ++ operator :: (opening :: (inner ++ [closing]))))
          more) ∧
      some s.unplaced = target.unplaced.stores
        (.binary target.unplaced op (.grouping value.unplaced .internal) .internal) .internal ∧
      more.map Located.cause = noted.map Located.cause ++ noted.map Located.cause := by
  obtain ⟨bound, depth, behind, previous, finish, errors⟩ := p
  simp only [Spot.Holds, List.length_append, List.length_cons, copied.length, again.length,
    grouped.length, List.length_nil] at room
  obtain ⟨depth, rfl⟩ : ∃ less, depth = less + 1 := ⟨depth - 1, by omega⟩
  have assigns : assignmentSign? equal.kind = some none := by
    rw [equals]
    rfl
  have stops : Stops 0 equal.kind := equals ▸ equal_stops
  have stopsToo : Stops 0 operator.kind := by
    rw [operates]
    exact stops_operator (by cases op <;> decide)
  have fits (last : Token) (others : List ParseError) :
      Spot.Holds ⟨bound, depth + 1, behind, last, finish, others⟩ t :=
    ⟨by dsimp only; omega, by dsimp only; omega⟩
  obtain ⟨head, noted, same, causes, ran⟩ := chain_before chained copied
    (operand ++ operator :: (opening :: (inner ++ [closing]))) _ (fits previous errors) stops
  obtain ⟨left, more, like, moreCauses, ranToo⟩ :=
    chain_before chained again (opening :: (inner ++ [closing])) _
    (fits equal (errors ++ noted)) stopsToo
  have inside : Reads (grammar bound (depth + 1)).expression inner (Stops 7)
      (·.unplaced = value.unplaced) :=
    expression_reads valued grouped (by omega) (by omega)
  have wide : (opening :: (inner ++ [closing])).length ≤ (grammar bound (depth + 1)).bound := by
    simp only [grammar_bound, List.length_cons, List.length_append, List.length_nil, grouped.length]
    omega
  obtain ⟨read, alike, reached⟩ :=
    update_read ranToo operates opens closes inside wide (stops_end ends 7)
  obtain ⟨s, stated, stored⟩ :=
    statement_assigns ran (opens_before copied starts _ _) rfl assigns reached
    (by rw [← assignable_unplaced, same, assignable_unplaced, assignable])
  refine ⟨s, noted ++ more, ?_, ?_, ?_⟩
  · rw [Spot.after, last_behind, last_behind, List.getLastD_cons, List.getLastD_concat,
      ← List.append_assoc]
    exact stated
  · rw [stored, Expr.compounded, alike, same]
    simp only [Expr.unplaced, like]
  · rw [List.map_append, causes, moreCauses]

end

end Parser

theorem separator_ends {kind : Lexeme} (separates : Parser.isSeparator kind = true) :
    ¬ kind.Continues := by
  rintro (access | ⟨op, rfl⟩)
  · unfold Parser.isSeparator at separates
    split at separates
    · cases access
    · cases access
    · cases separates
  · cases op <;> cases separates

/-- Compound assignment is sugar for the plain one. Let `t` be read as a variable or as a chain that
ends with a member or an index, and `e` without faults as an expression. Wherever `t op= e` and
`t = t op ( e )` stand, each before anything that an expression does not go on with, both are read
up to there, and but for locations and the brackets around `e` they are the same statement, which
stores `target op value`; the faults noted in `t` are noted once more when `t` is read once more. If
`t` does not open a statement, both are refused at its first token for the same cause. -/
theorem compound_assignment_expands {op : BinaryOp} {t e compound plain : List Token}
    {target value : Expr} {noted : List ParseError}
    (chained : Parser.ParsesAs Parser.chain t target noted)
    (assignable : target.isAssignable = true)
    (valued : Parser.ParsesAs Parser.expression e value []) (sugar : Sugar op t e compound plain)
    (p q : Parser.Spot) (room : p.Holds compound) (roomToo : q.Holds plain)
    (ends : ¬ p.follows.Continues) (endsToo : ¬ q.follows.Continues) :
    (Parser.OpensStatement t → ∃ s u more others,
      p.run Parser.statement compound = .ok s (p.after compound more) ∧
      q.run Parser.statement plain = .ok u (q.after plain others) ∧
      s.unplaced = u.unplaced.ungrouped ∧
      some u.unplaced = target.unplaced.stores
        (.binary target.unplaced op (.grouping value.unplaced .internal) .internal) .internal ∧
      more.map Located.cause = noted.map Located.cause ∧
      others.map Located.cause = noted.map Located.cause ++ noted.map Located.cause) ∧
    (¬ Parser.OpensStatement t → ∃ cause location place,
      p.run Parser.statement compound = .error ⟨cause, location⟩ (p.before compound) ∧
      q.run Parser.statement plain = .error ⟨cause, place⟩ (q.before plain)) := by
  obtain ⟨isCompound, assigns, equals, operates, opens, closes, updated, applied, stored, read,
      grouped⟩ := sugar
  constructor
  · intro starts
    obtain ⟨s, more, ran, shape, causes⟩ :=
      Parser.compound_reads chained assignable valued isCompound assigns updated applied
        starts p room ends
    obtain ⟨u, others, ranToo, shapeToo, causesToo⟩ :=
      Parser.plain_reads chained assignable valued equals operates opens closes stored read grouped
        starts q roomToo
        endsToo
    refine ⟨s, u, more, others, ran, ranToo, ?_, shapeToo, causes, causesToo⟩
    have bare : some u.unplaced.ungrouped = some s.unplaced := by
      rw [← Option.map_some, shapeToo, stores_ungrouped, shape]
      rfl
    exact (Option.some.inj bare).symm
  · intro closed
    simp only [Parser.Spot.Holds, List.length_append, List.length_cons, updated.length,
      stored.length] at room roomToo
    obtain ⟨location, refused⟩ :=
      Parser.refused_before chained updated closed _ p ⟨by omega, by omega⟩
      (assigns ▸ (Parser.assigning_sign isCompound).2)
    obtain ⟨place, refusedToo⟩ :=
      Parser.refused_before chained stored closed _ q ⟨by omega, by omega⟩
      (equals ▸ Parser.equal_stops)
    exact ⟨_, location, place, refused, refusedToo⟩

-- `m.count *= a or b`, and on the second line `m.count = m.count * (a or b)`.
def countedMember : List Token :=
  [nameToken "m", (Lexeme.symbol .dot).token, nameToken "count"]

def looseOperand : List Token :=
  [nameToken "a", (Lexeme.word .or).token, nameToken "b"]

def onSecondLine (tokens : List Token) : List Token :=
  tokens.map fun token => { token with location := ⟨"main.brs", ⟨2, 1⟩, ⟨2, 2⟩⟩ }

theorem loose_operand_grouped :
    let compound := countedMember ++ (Lexeme.symbol .starEqual).token :: looseOperand
    let plain := onSecondLine countedMember ++ (Lexeme.symbol .equal).token ::
      (onSecondLine countedMember ++ (Lexeme.symbol .star).token ::
        ((Lexeme.symbol .leftParen).token ::
        (onSecondLine looseOperand ++ [(Lexeme.symbol .rightParen).token])))
    let p : Parser.Spot := ⟨20, 20, [Lexeme.newline.token], default, default, []⟩
    let q : Parser.Spot := ⟨20, 20, [(Lexeme.symbol .colon).token], default, default, []⟩
    ∃ s u, p.run Parser.statement compound = .ok s (p.after compound []) ∧
      q.run Parser.statement plain = .ok u (q.after plain []) ∧ s.unplaced = u.unplaced.ungrouped ∧
      u.unplaced = .setMember (.variable "m" .internal) "count"
        (.binary (.member (.variable "m" .internal) "count" .internal) .multiply
          (.grouping (.binary (.variable "a" .internal) .or (.variable "b" .internal) .internal)
            .internal)
          .internal) .internal := by
  intro compound plain p q
  have chained : Parser.ParsesAs Parser.chain countedMember
      (.member (.variable "m" .internal) "count" .internal) [] :=
    ⟨by decide, _, rfl, rfl, rfl⟩
  have valued : Parser.ParsesAs Parser.expression looseOperand
      (.binary (.variable "a" .internal) .or (.variable "b" .internal) .internal) [] :=
    ⟨by decide, _, rfl, rfl, rfl⟩
  have sugar : Sugar .multiply countedMember looseOperand compound plain :=
    .mk rfl rfl rfl rfl rfl rfl rfl rfl rfl rfl rfl
  obtain ⟨s, u, more, others, ran, ranToo, same, shape, causes, causesToo⟩ :=
    (compound_assignment_expands chained rfl valued sugar p q ⟨by decide, by decide⟩
      ⟨by decide, by decide⟩
      (separator_ends rfl) (separator_ends rfl)).1 ⟨_, _, rfl, .inl rfl⟩
  obtain rfl : more = [] := List.map_eq_nil_iff.1 causes
  obtain rfl : others = [] := List.map_eq_nil_iff.1 causesToo
  exact ⟨s, u, ran, ranToo, same, Option.some.inj shape⟩

end BrightScript
