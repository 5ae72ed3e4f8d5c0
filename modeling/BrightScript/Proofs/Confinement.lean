import BrightScript.Proofs.GrammarRuns
set_option autoImplicit false

namespace BrightScript

namespace Parser

variable {α β : Type}

def Forgets (x : Parse α) : Prop :=
  ∀ (c : Cursor) (last : Token), c.rest ≠ [] → x { c with previous := last } = x c ∨
    ∃ e, x c = .error e c ∧ x { c with previous := last } = .error e { c with previous := last }

theorem forgets_advance (k : Token → Parse β) : Forgets (advance >>= k) := by
  intro c last some
  obtain ⟨rest, previous, finish, errors⟩ := c
  cases rest with
  | nil => exact absurd rfl some
  | cons token rest => exact .inl rfl

theorem forgets_fail_at (cause : ParseFault) (location : Location) :
    Forgets (failAt cause location : Parse α) :=
  fun _ _ _ => .inr ⟨_, rfl, rfl⟩

theorem forgets_look {see : Parse α} {k : α → Parse β} (sight : Cursor → α)
    (looks : ∀ c, see c = .ok (sight c) c)
    (blind : ∀ c last, sight { c with previous := last } = sight c) (rest : ∀ a, Forgets (k a)) :
    Forgets (see >>= k) := by
  intro c last some
  rw [bind_run, bind_run, looks, looks, blind]
  exact rest (sight c) c last some

theorem forgets_peek {k : Token → Parse β} (rest : ∀ token, Forgets (k token)) :
    Forgets (peek >>= k) :=
  forgets_look Cursor.next (fun _ => rfl) (fun _ _ => rfl) rest

theorem forgets_peek_kind {k : Lexeme → Parse β} (rest : ∀ kind, Forgets (k kind)) :
    Forgets (peekKind >>= k) :=
  forgets_look Cursor.nextKind (fun _ => rfl) (fun _ _ => rfl) rest

theorem forgets_second_kind {k : Lexeme → Parse β} (rest : ∀ kind, Forgets (k kind)) :
    Forgets (secondKind >>= k) :=
  forgets_look (fun c => ((c.rest.drop 1).headD c.finish).kind) (fun _ => rfl) (fun _ _ => rfl) rest

theorem forgets_fail (cause : ParseFault) : Forgets (fail cause : Parse α) :=
  forgets_peek fun token => forgets_fail_at cause token.location

theorem forgets_fail_expected (what : String) : Forgets (failExpected what : Parse α) :=
  forgets_peek fun token => forgets_fail (.expected what (describe token))

theorem forgets_bind {x : Parse α} (forgets : Forgets x) (k : α → Parse β) : Forgets (x >>= k) := by
  intro c last some
  rw [bind_run, bind_run]
  obtain same | ⟨e, failed, failedToo⟩ := forgets c last some
  · exact .inl (by rw [same])
  · exact .inr ⟨e, by rw [failed], by rw [failedToo]⟩

theorem primary_forgets (g : Grammar) : Forgets (primary g) := by
  unfold primary
  refine forgets_peek fun token => ?_
  split
  · exact forgets_advance _
  · exact forgets_advance _
  · exact forgets_advance _
  · exact forgets_advance _
  · exact forgets_bind (forgets_advance _) _
  · exact forgets_bind (forgets_advance _) _
  · split
    · exact forgets_advance _
    · exact forgets_fail_expected _

theorem expression_statement_forgets (g : Grammar) : Forgets (expressionStatement g) :=
  forgets_bind (forgets_bind (primary_forgets g) _) _

theorem statement_forgets (g : Grammar) : Forgets (statement g) := by
  unfold statement
  refine forgets_peek fun token => ?_
  split
  all_goals try exact forgets_advance _
  · refine forgets_second_kind fun second => ?_
    split
    · exact forgets_advance _
    · exact expression_statement_forgets g
  · exact expression_statement_forgets g
  · exact forgets_fail _
  · exact forgets_fail _
  · exact forgets_fail _

theorem top_declaration_forgets (g : Grammar) (librariesAllowed : Bool) :
    Forgets (topDeclaration g librariesAllowed) := by
  refine forgets_look (fun c => c.nextKind == .word .library) (fun _ => rfl) (fun _ _ => rfl)
    fun isLibrary => ?_
  split
  · split
    · exact forgets_advance _
    · exact forgets_fail _
  · refine forgets_peek_kind fun kind => forgets_second_kind fun second => ?_
    split
    · exact forgets_bind (forgets_advance _) _
    · exact statement_forgets g

theorem synchronize_forgets {c : Cursor} (last : Token) (some : c.rest ≠ []) :
    synchronize { c with previous := last } = synchronize c := by
  obtain ⟨rest, previous, finish, errors⟩ := c
  cases rest with
  | nil => exact absurd rfl some
  | cons token rest =>
    rw [synchronize_run, synchronize_run, skip_while_cons, skip_while_cons]
    split <;> rfl

theorem recover_forgets {x : Parse α} (forgets : Forgets x) {c : Cursor} (last : Token)
    (some : c.rest ≠ []) : recover x { c with previous := last } = recover x c := by
  rw [recover_run, recover_run]
  obtain same | ⟨e, failed, failedToo⟩ := forgets c last some
  · rw [same]
  · rw [failed, failedToo]
    simp only
    rw [← synchronize_forgets (c := c.note e) last some]
    rfl

def conclusion : EStateM.Result ParseError Cursor (List Stmt) → Parsed
  | .ok statements c => ⟨statements, c.errors⟩
  | .error e c => ⟨[], c.errors ++ [e]⟩

theorem parse_eq (tokens : List Token) :
    parse tokens = conclusion (topStatements (grammar (tokens.length + 1) (tokens.length + 1))
      (tokens.length + 1) true (Cursor.start tokens)) := by
  simp only [parse]
  generalize topStatements _ _ _ _ = run
  cases run <;> rfl

def followed (statements : List Stmt) :
    EStateM.Result ParseError Cursor (List Stmt) → EStateM.Result ParseError Cursor (List Stmt)
  | .ok later c => .ok (statements ++ later) c
  | .error e c => .error e c

theorem followed_followed (first second : List Stmt)
    (r : EStateM.Result ParseError Cursor (List Stmt)) :
    followed first (followed second r) = followed (first ++ second) r := by
  cases r <;> simp [followed]

@[simp]
theorem followed_nil (r : EStateM.Result ParseError Cursor (List Stmt)) : followed [] r = r := by
  cases r <;> rfl

@[simp]
theorem followed_final (statements : List Stmt) (r : EStateM.Result ParseError Cursor (List Stmt)) :
    finalState (followed statements r) = finalState r := by
  cases r <;> rfl

def skipped (c : Cursor) : Cursor :=
  finalState (skipSeparators c)

section

variable {g twin : Grammar} {bound : Nat} {librariesAllowed : Bool} {c : Cursor}

theorem top_statements_run : topStatements g (bound + 1) librariesAllowed c =
    (if ((skipped c).nextKind == .eof) = true then pure []
    else do
      let allowed := librariesAllowed && (skipped c).nextKind == .word .library
      match ← recover (topStatement g librariesAllowed) with
      | some result =>
        let later ← topStatements g bound allowed
        pure (result :: later)
      | none => topStatements g bound allowed : Parse (List Stmt)) (skipped c) :=
  rfl

theorem top_statements_skipped {other : Cursor} (same : skipped c = skipped other) :
    topStatements g (bound + 1) librariesAllowed c =
      topStatements g (bound + 1) librariesAllowed other := by
  rw [top_statements_run, top_statements_run, same]

theorem top_statements_end (done : (skipped c).nextKind = .eof) :
    topStatements g (bound + 1) librariesAllowed c = .ok [] (skipped c) := by
  rw [top_statements_run, done]
  rfl

theorem top_statements_step {result : Option Stmt} {next : Cursor}
    (more : (skipped c).nextKind ≠ .eof)
    (ran : recover (topStatement g librariesAllowed) (skipped c) = .ok result next) :
    topStatements g (bound + 1) librariesAllowed c = followed result.toList
      (topStatements g bound (librariesAllowed && (skipped c).nextKind == .word .library)
        next) := by
  rw [top_statements_run, beq_false_of_ne more, if_neg (by decide), bind_run, ran]
  generalize (librariesAllowed && (skipped c).nextKind == .word .library) = allowed
  cases result with
  | none =>
    change topStatements g bound allowed next = _
    cases topStatements g bound allowed next <;> rfl
  | some statement =>
    change (topStatements g bound allowed >>= fun later => pure (statement :: later)) next = _
    rw [bind_run]
    cases topStatements g bound allowed next <;> rfl

theorem recover_returns (x : Parse α) (c : Cursor) :
    ∃ result next, recover x c = .ok result next := by
  rw [recover_run]
  cases x c with
  | ok a next => exact ⟨some a, next, rfl⟩
  | error e next => exact ⟨none, _, rfl⟩

theorem skipped_forgets (c : Cursor) (last : Token) :
    ∃ other, skipped { c with previous := last } = { skipped c with previous := other } :=
  ⟨_, rfl⟩

theorem top_statements_forget (last : Token) (ends : c.finish.kind = .eof) :
    conclusion (topStatements g bound librariesAllowed { c with previous := last }) =
      conclusion (topStatements g bound librariesAllowed c) := by
  cases bound with
  | zero => rfl
  | succ bound =>
    obtain ⟨other, same⟩ := skipped_forgets c last
    by_cases done : (skipped c).nextKind = .eof
    · rw [top_statements_end done, top_statements_end (by rw [same]; exact done), same]
      rfl
    · obtain ⟨result, next, ran⟩ := recover_returns (topStatement g librariesAllowed) (skipped c)
      obtain ⟨rest, shape⟩ := next_of_kind (c := skipped c) ends done
      have forgets : Forgets (topStatement g librariesAllowed) := by
        rw [top_statement_eq]
        exact forgets_bind (top_declaration_forgets g librariesAllowed) _
      have again := recover_forgets forgets (c := skipped c) other (by simp [shape])
      rw [top_statements_step done ran, top_statements_step (by rw [same]; exact done)
        (by rw [same, again, ran]), same]
      rfl

theorem skipped_onward (c : Cursor) : Onward c (skipped c) :=
  skip_while_onward isSeparator c

theorem Onward.mem {next : Cursor} (onward : Onward c next) {token : Token}
    (member : token ∈ next.rest) : token ∈ c.rest := by
  obtain ⟨consumed, read, _⟩ := onward.reads
  rw [read]
  exact List.mem_append_right consumed member

theorem top_statement_allowed (other : Bool) (different : c.nextKind ≠ .word .library) :
    topStatement g librariesAllowed c = topStatement g other c := by
  have same : topDeclaration g librariesAllowed c = topDeclaration g other c := by
    change (if (c.nextKind == .word .library) = true then _ else declaration g : Parse Stmt) c =
      (if (c.nextKind == .word .library) = true then _ else declaration g : Parse Stmt) c
    rw [beq_false_of_ne different]
    rfl
  rw [top_statement_eq, top_statement_eq, bind_run, bind_run, same]

theorem top_statements_allowed (other : Bool) (ends : c.finish.kind = .eof)
    (free : ∀ token ∈ c.rest, token.kind ≠ .word .library) :
    topStatements g bound librariesAllowed c = topStatements g bound other c := by
  cases bound with
  | zero => rfl
  | succ bound =>
    by_cases done : (skipped c).nextKind = .eof
    · rw [top_statements_end done, top_statements_end done]
    · obtain ⟨rest, shape⟩ := next_of_kind (c := skipped c) ends done
      have different : (skipped c).nextKind ≠ .word .library :=
        free _ ((skipped_onward c).mem (by rw [shape]; exact .head rest))
      obtain ⟨result, next, ran⟩ := recover_returns (topStatement g librariesAllowed) (skipped c)
      have ranToo : recover (topStatement g other) (skipped c) = .ok result next := by
        rw [← ran, recover_run, recover_run, top_statement_allowed librariesAllowed different]
      rw [top_statements_step done ran, top_statements_step done ranToo, beq_false_of_ne different,
        Bool.and_false, Bool.and_false]

end

def Beside (f : Fork) (c twin : Cursor) : Prop :=
  ∃ shared previous noted, (shared = [] ∨ f.Admits shared) ∧
    c = ⟨shared, previous, f.finish, f.errors ++ noted⟩ ∧
    twin = ⟨shared ++ f.tail, previous, f.twinFinish, f.twinErrors ++ noted⟩

section

variable {f : Fork} {c twin : Cursor}

theorem Fork.Admits.rest {token : Token} {shared : List Token}
    (admits : f.Admits (token :: shared)) : shared = [] ∨ f.Admits shared := by
  by_cases isEnd : f.extent = .line ∧ token.kind = .newline
  · simp only [Fork.Admits, isEnd.1] at admits
    obtain ⟨line, feed, shape, _, simple⟩ := admits
    cases line with
    | nil => exact .inl (List.cons.inj shape).2
    | cons head line =>
      have isSimple := simple head (.head line)
      rw [← (List.cons.inj shape).1, isEnd.2] at isSimple
      cases isSimple
  · obtain later | ⟨_, passed, _⟩ := admits.drop fun isLine isFeed => isEnd ⟨isLine, isFeed⟩
    · exact .inr later
    · exact .inl passed

theorem advance_beside (abreast : Abreast f c twin) :
    Beside f (finalState (advance c)) (finalState (advance twin)) := by
  obtain ⟨shared, previous, noted, admits, rfl, rfl⟩ := abreast
  cases shared with
  | nil =>
    simp only [admits.at_end, List.append_nil]
    exact ⟨[], previous, noted, .inl rfl, rfl, by rw [admits.at_end, List.append_nil]; rfl⟩
  | cons token shared => exact ⟨shared, token, noted, admits.rest, rfl, rfl⟩

theorem skip_while_abreast {accepted : Lexeme → Bool} (stops : accepted .newline = false)
    (abreast : Abreast f c twin) :
    Abreast f (finalState (skipWhile accepted c)) (finalState (skipWhile accepted twin)) := by
  obtain ⟨shared, previous, noted, admits, rfl, rfl⟩ := abreast
  induction shared generalizing previous with
  | nil =>
    refine ⟨[], previous, noted, admits, rfl, ?_⟩
    simp only [admits.at_end]
    rfl
  | cons token shared ih =>
    rw [List.cons_append, skip_while_cons, skip_while_cons]
    split
    · rename_i admitted
      have inside : token.kind ≠ .newline := by
        intro isFeed
        rw [isFeed, stops] at admitted
        cases admitted
      obtain later | ⟨_, _, isFeed⟩ := admits.drop fun _ => inside
      · exact ih token later
      · exact absurd isFeed inside
    · exact ⟨token :: shared, previous, noted, admits, rfl, rfl⟩

theorem synchronize_beside (abreast : Abreast f c twin) :
    Beside f (finalState (synchronize c)) (finalState (synchronize twin)) := by
  rw [synchronize_run, synchronize_run]
  exact advance_beside (skip_while_abreast rfl abreast)

theorem statement_separator_run (c : Cursor) :
    statementSeparator c =
      if isSeparator c.nextKind = true then .ok () (finalState (advance c))
      else if (c.nextKind != .eof) = true then
        .error ⟨.expected "newline or ':' after statement" (describe c.next), c.next.location⟩ c
      else .ok () c := by
  change (if isSeparator c.nextKind = true then advance >>= fun _ => pure ()
    else if (c.nextKind != .eof) = true then failExpected _ else pure () : Parse Unit) c = _
  split
  · obtain ⟨token, ran⟩ := advance_ok c
    rw [bind_run, ran]
    rfl
  · split <;> rfl

theorem Abreast.beside (abreast : Abreast f c twin) : Beside f c twin := by
  obtain ⟨shared, previous, noted, admits, same, sameToo⟩ := abreast
  exact ⟨shared, previous, noted, .inr admits, same, sameToo⟩

theorem Abreast.next_mem (abreast : Abreast f c twin) (partly : f.extent ≠ .whole) :
    c.next ∈ c.rest := by
  obtain ⟨shared, previous, noted, admits, rfl, _⟩ := abreast
  cases shared with
  | cons token shared => exact .head shared
  | nil =>
    cases extent : f.extent <;> simp [Fork.Admits, extent] at admits
    exact absurd extent partly

theorem Beside.sizes (beside : Beside f c twin) :
    twin.rest.length = c.rest.length + f.tail.length := by
  obtain ⟨shared, previous, noted, _, rfl, rfl⟩ := beside
  exact List.length_append

theorem statement_separator_beside (abreast : Abreast f c twin) :
    (∃ next twinNext, statementSeparator c = .ok () next ∧
      statementSeparator twin = .ok () twinNext ∧
      Beside f next twinNext) ∨
    ∃ e, statementSeparator c = .error e c ∧ statementSeparator twin = .error e twin := by
  rw [statement_separator_run, statement_separator_run, abreast.next_kind, abreast.next]
  split
  · exact .inl ⟨_, _, rfl, rfl, advance_beside abreast⟩
  · split
    · exact .inr ⟨_, rfl, rfl⟩
    · exact .inl ⟨c, twin, rfl, rfl, abreast.beside⟩

theorem skipped_beside (beside : Beside f c twin) :
    Abreast f (skipped c) (skipped twin) ∨
      ∃ previous noted, skipped c = ⟨[], previous, f.finish, f.errors ++ noted⟩ ∧
        skipped twin = skipped ⟨f.tail, previous, f.twinFinish, f.twinErrors ++ noted⟩ := by
  obtain ⟨shared, previous, noted, admits, rfl, rfl⟩ := beside
  induction shared generalizing previous with
  | nil => exact .inr ⟨previous, noted, rfl, rfl⟩
  | cons token shared ih =>
    obtain nothing | admits := admits
    · cases nothing
    unfold skipped skipSeparators
    rw [List.cons_append, skip_while_cons, skip_while_cons]
    split
    · exact ih token admits.rest
    · exact .inl ⟨token :: shared, previous, noted, admits, rfl, rfl⟩

end

section

variable {g twinGrammar : Grammar} {limit : Nat} {f : Fork} {c twin : Cursor}
  {librariesAllowed : Bool}

theorem recover_ok {x : Parse α} {a : α} {next : Cursor} (ran : x c = .ok a next) :
    recover x c = .ok (some a) next := by
  rw [recover_run, ran]

theorem recover_error {x : Parse α} {e : ParseError} {next : Cursor} (ran : x c = .error e next) :
    recover x c = .ok none (finalState (synchronize (next.note e))) := by
  rw [recover_run, ran]

theorem top_statement_ok {statement : Stmt} {next last : Cursor}
    (ran : topDeclaration g librariesAllowed c = .ok statement next)
    (separated : statementSeparator next = .ok () last) :
    topStatement g librariesAllowed c = .ok statement last := by
  rw [top_statement_eq, bind_run, ran]
  change (statementSeparator >>= fun _ => pure statement) next = _
  rw [bind_run, separated]
  rfl

theorem top_statement_unseparated {statement : Stmt} {next last : Cursor} {e : ParseError}
    (ran : topDeclaration g librariesAllowed c = .ok statement next)
    (unseparated : statementSeparator next = .error e last) :
    topStatement g librariesAllowed c = .error e last := by
  rw [top_statement_eq, bind_run, ran]
  change (statementSeparator >>= fun _ => pure statement) next = _
  rw [bind_run, unseparated]

theorem top_statement_error {next : Cursor} {e : ParseError}
    (ran : topDeclaration g librariesAllowed c = .error e next) :
    topStatement g librariesAllowed c = .error e next := by
  rw [top_statement_eq, bind_run, ran]

theorem recovered_errors {next : Cursor} (e : ParseError) (onward : Onward c next) :
    c.errors.length < (finalState (synchronize (next.note e))).errors.length := by
  have noted := (synchronize_onward (next.note e)).errors.length_le
  have before := onward.errors.length_le
  simp only [finalState, Cursor.note, List.length_append, List.length_singleton] at noted before ⊢
  omega

theorem settled_not_spilled (lines : f.extent = .lines) (abreast : Abreast f c twin) {next : Cursor}
    (onward : Onward c next) (settled : Phase.settled.Holds c.rest.length next) :
    next.rest ≠ [] := by
  intro passed
  obtain ⟨shared, previous, noted, admits, rfl, _⟩ := abreast
  simp only [Fork.Admits, lines] at admits
  obtain ⟨init, feed, rfl, isFeed⟩ := admits
  obtain ⟨consumed, read, last⟩ := onward.reads
  rw [passed, List.append_nil] at read
  apply settled.2
  rw [last, ← read, List.getLastD_concat]
  exact isFeed

theorem top_statement_beside (level : Matched limit g twinGrammar) (abreast : Abreast f c twin)
    (short : c.rest.length ≤ limit)
    (calm : f.extent = .lines →
      (finalState (recover (topStatement g librariesAllowed) c)).errors = c.errors) :
    ∃ result next twinNext, recover (topStatement g librariesAllowed) c = .ok result next ∧
      recover (topStatement twinGrammar librariesAllowed) twin = .ok result twinNext ∧
      Beside f next twinNext := by
  have tandem := top_declaration_tandem level librariesAllowed
  have met := tandem.meets f c twin (fun _ => rfl) (Nat.lt_succ_of_le short) abreast trivial
  have onward := tandem.onward c
  cases ran : topDeclaration g librariesAllowed c with
  | ok statement next =>
    rw [ran] at met onward
    generalize twinRan : topDeclaration twinGrammar librariesAllowed twin = other at met
    cases met with
    | spilled lines passed =>
      have settled := tandem.settles c.rest.length c statement next
          (Nat.lt_succ_of_le short) abreast.ends
        trivial (Nat.le_refl _) ran
      exact absurd passed (settled_not_spilled lines abreast onward settled)
    | ok behind =>
      obtain ⟨last, twinLast, separated, separatedToo, beside⟩ | ⟨fault, failed, failedToo⟩ :=
        statement_separator_beside behind
      · exact ⟨some statement, last, twinLast, recover_ok (top_statement_ok ran separated),
          recover_ok (top_statement_ok twinRan separatedToo), beside⟩
      · exact ⟨none, _, _, recover_error (top_statement_unseparated ran failed),
          recover_error (top_statement_unseparated twinRan failedToo),
            synchronize_beside (behind.note fault)⟩
  | error e next =>
    rw [ran] at met onward
    generalize twinRan : topDeclaration twinGrammar librariesAllowed twin = other at met
    cases met with
    | spilled lines passed =>
      have grown := recovered_errors e onward
      rw [← calm lines, recover_error (top_statement_error ran)] at grown
      exact absurd grown (Nat.lt_irrefl _)
    | error behind =>
      exact ⟨none, _, _, recover_error (top_statement_error ran),
        recover_error (top_statement_error twinRan), synchronize_beside (behind.note e)⟩

theorem top_statement_recovers (level : Matched limit g twinGrammar) (librariesAllowed : Bool) :
    Tandem (limit + 1) (· ≠ .eof) .opened .moved false (recover (topStatement g librariesAllowed))
      (recover (topStatement twinGrammar librariesAllowed)) :=
  ((top_statement_tandem level librariesAllowed).mono (Nat.le_refl _) fun _ _ => trivial).recover
    (by decide) fun _ different => different

theorem top_statements_onward (level : Matched limit g twinGrammar) (bound : Nat)
    (librariesAllowed : Bool) (c : Cursor) :
    Onward c (finalState (topStatements g bound librariesAllowed c)) :=
  (top_statements_tandem (level.fewer (Nat.zero_le _)) bound bound librariesAllowed (Nat.zero_le _)
    (Nat.zero_le _)).onward c

theorem top_statements_calm (level : Matched limit g twinGrammar) {bound : Nat}
    {result : Option Stmt} {next : Cursor} (more : (skipped c).nextKind ≠ .eof)
    (ran : recover (topStatement g librariesAllowed) (skipped c) = .ok result next)
    (calm : (finalState (topStatements g (bound + 1) librariesAllowed c)).errors = c.errors) :
    next.errors = c.errors := by
  have first := ((top_statement_recovers level librariesAllowed).onward (skipped c)).errors
  have rest := (top_statements_onward level bound
    (librariesAllowed && (skipped c).nextKind == .word .library) next).errors
  rw [top_statements_step more ran, followed_final] at calm
  rw [ran] at first
  rw [calm] at rest
  exact rest.eq_of_length_le first.length_le

theorem top_statements_pass (level : Matched limit g twinGrammar) (partly : f.extent ≠ .whole)
    (bound twinBound : Nat) (beside : Beside f c twin) (short : c.rest.length ≤ limit)
    (enough : c.rest.length < bound) (twinEnough : twin.rest.length < twinBound)
    (noEnd : ∀ token ∈ c.rest, token.kind ≠ .eof)
    (calm : f.extent = .lines →
      (finalState (topStatements g bound librariesAllowed c)).errors = c.errors) :
    ∃ statements noted last less allowed,
      topStatements g bound librariesAllowed c =
      .ok statements ⟨[], last, f.finish, f.errors ++ noted⟩ ∧
      f.tail.length < less ∧
      topStatements twinGrammar twinBound librariesAllowed twin = followed statements
        (topStatements twinGrammar less allowed
          ⟨f.tail, last, f.twinFinish, f.twinErrors ++ noted⟩) := by
  induction bound generalizing c twin twinBound librariesAllowed with
  | zero => exact absurd enough (Nat.not_lt_zero _)
  | succ bound ih =>
    obtain ⟨twinBound, rfl⟩ : ∃ less, twinBound = less + 1 := ⟨twinBound - 1, by omega⟩
    have sizes := beside.sizes
    obtain abreast | ⟨previous, noted, done, same⟩ := skipped_beside beside
    · have onward := skipped_onward c
      have shorter := onward.shorter
      have more : (skipped c).nextKind ≠ .eof := noEnd _ (onward.mem (abreast.next_mem partly))
      obtain ⟨result, next, twinNext, ran, twinRan, behind⟩ :
          ∃ result next twinNext, recover (topStatement g librariesAllowed) (skipped c) =
            .ok result next ∧
            recover (topStatement twinGrammar librariesAllowed) (skipped twin) =
            .ok result twinNext ∧
            Beside f next twinNext := by
        refine top_statement_beside level abreast (by omega) fun lines => ?_
        obtain ⟨result, next, ran⟩ := recover_returns (topStatement g librariesAllowed) (skipped c)
        have kept := top_statements_calm level more ran (calm lines)
        rw [ran]
        exact kept
      have recovers := top_statement_recovers level librariesAllowed
      have onwardNext := recovers.onward (skipped c)
      rw [ran] at onwardNext
      have moved : next.rest.length < (skipped c).rest.length :=
        recovers.settles _ _ _ _ (by omega) abreast.ends more (Nat.le_refl _) ran
      have sizesNext := behind.sizes
      have calmNext : f.extent = .lines → (finalState (topStatements g bound
          (librariesAllowed && (skipped c).nextKind == .word .library) next)).errors =
            next.errors := by
        intro lines
        rw [top_statements_calm level more ran (calm lines), ← calm lines,
          top_statements_step more ran, followed_final]
      obtain ⟨statements, noted, last, less, allowed, first, tailShort, second⟩ :=
        ih twinBound behind (by omega) (by omega) (by omega)
          (fun token member => noEnd token (onward.mem (onwardNext.mem member))) calmNext
      refine ⟨result.toList ++ statements, noted, last, less, allowed, ?_, tailShort, ?_⟩
      · rw [top_statements_step more ran, first]
        rfl
      · rw [top_statements_step (by rw [abreast.next_kind]; exact more) twinRan, abreast.next_kind,
          second, followed_followed]
    · refine ⟨[], noted, previous, twinBound + 1, librariesAllowed, ?_, by omega, ?_⟩
      · rw [top_statements_end (by rw [done]; exact f.ends), done]
      · rw [top_statements_skipped same, followed_nil]

end

theorem start_open {tokens : List Token} (noEnd : ∀ token ∈ tokens, token.kind ≠ .eof) :
    ∃ finish, finish.kind = .eof ∧ Cursor.start tokens = ⟨tokens, finish, finish, []⟩ := by
  have whole : tokens.takeWhile (·.kind != .eof) = tokens := by
    have open_ : ∀ token ∈ tokens, (token.kind != .eof) = true := fun token member => by
      simpa using noEnd token member
    have taken : (tokens ++ []).takeWhile (fun token => token.kind != Lexeme.eof) = tokens ++ [] :=
      List.takeWhile_append_of_pos open_
    rwa [List.append_nil] at taken
  have none : tokens.find? (·.kind == .eof) = none :=
    List.find?_eq_none.2 fun token member => by simpa using noEnd token member
  refine ⟨Token.eofAt (tokens.getLast?.elim Location.internal Token.location), rfl, ?_⟩
  simp only [Cursor.start, whole, none, Option.getD_none]

theorem start_closed {tokens : List Token} (ends : ∃ token ∈ tokens, token.kind = .eof) :
    ∃ body finish, finish.kind = .eof ∧ body.length < tokens.length ∧
      (∀ token ∈ body, token ∈ tokens) ∧
      ∀ before : List Token, (∀ token ∈ before, token.kind ≠ .eof) →
        Cursor.start (before ++ tokens) = ⟨before ++ body, finish, finish, []⟩ := by
  obtain ⟨finish, found⟩ : ∃ finish, tokens.find? (·.kind == .eof) = some finish := by
    obtain ⟨token, member, isEnd⟩ := ends
    exact Option.isSome_iff_exists.1 (List.find?_isSome.2 ⟨token, member, by simp [isEnd]⟩)
  refine ⟨tokens.takeWhile (·.kind != .eof), finish, by simpa using List.find?_some found, ?_,
    fun token member => (List.takeWhile_sublist _).mem member, fun before noEnd => ?_⟩
  · have all : (tokens.takeWhile (·.kind != .eof)).all (·.kind != .eof) = true := List.all_takeWhile
    obtain ⟨token, member, isEnd⟩ := ends
    refine Nat.lt_of_le_of_ne (List.takeWhile_prefix _).length_le fun same => ?_
    rw [(List.takeWhile_prefix _).eq_of_length same, List.all_eq_true] at all
    simpa [isEnd] using all token member
  · have none : before.find? (·.kind == .eof) = none :=
      List.find?_eq_none.2 fun token member => by simpa using noEnd token member
    have taken : (before ++ tokens).takeWhile (·.kind != .eof) =
        before ++ tokens.takeWhile (·.kind != .eof) :=
      List.takeWhile_append_of_pos fun token member => by simpa using noEnd token member
    simp only [Cursor.start, taken, List.find?_append, none, found, Option.none_or,
      Option.getD_some]

theorem top_statements_returns (g : Grammar) (bound : Nat) (librariesAllowed : Bool) (c : Cursor) :
    ∃ statements next, topStatements g bound librariesAllowed c = .ok statements next := by
  induction bound generalizing librariesAllowed c with
  | zero => exact ⟨[], c, rfl⟩
  | succ bound ih =>
    by_cases done : (skipped c).nextKind = .eof
    · exact ⟨[], skipped c, top_statements_end done⟩
    · obtain ⟨result, next, ran⟩ := recover_returns (topStatement g librariesAllowed) (skipped c)
      obtain ⟨later, last, rest⟩ :=
        ih (librariesAllowed && (skipped c).nextKind == .word .library) next
      exact ⟨result.toList ++ later, last, by rw [top_statements_step done ran, rest]; rfl⟩

section

variable {previous finish : Token} {errors : List ParseError} {allowed : Bool}

theorem parse_pass (shared tail : List Token) (extent : Extent) (bound enough : Nat)
    (partly : extent ≠ .whole) (ends : finish.kind = .eof)
    (admits : ∀ f : Fork, f.extent = extent → shared = [] ∨ f.Admits shared)
    (noEnd : ∀ token ∈ shared, token.kind ≠ .eof) (wide : shared.length < bound)
    (long : shared.length + tail.length < enough)
    (free : allowed = true ∨ ∀ token ∈ shared ++ tail, token.kind ≠ .word .library)
    (calm : extent = .lines → (parse shared).errors = []) :
    ∃ less later last, tail.length < less ∧
      conclusion (topStatements (grammar bound bound) enough allowed
        ⟨shared ++ tail, previous, finish, errors⟩) =
      conclusion (followed (parse shared).statements (topStatements (grammar bound bound) less later
        ⟨tail, last, finish, errors ++ (parse shared).errors⟩)) := by
  obtain ⟨closing, isEnd, started⟩ := start_open noEnd
  let f : Fork := ⟨extent, tail, closing, finish, [], errors, isEnd⟩
  have beside : Beside f ⟨shared, closing, closing, []⟩ ⟨shared ++ tail, closing, finish, errors⟩ :=
    ⟨shared, closing, [], admits f rfl, rfl, by simp [f]⟩
  have level := grammar_matched (shared.length + 1) bound (shared.length + 1) bound
      (Nat.lt_succ_self _) wide
    (Nat.le_succ _) (Nat.le_of_lt wide)
  have parsed := parse_eq shared
  rw [started] at parsed
  obtain ⟨statements, noted, last, less, later, first, fits, second⟩ :=
    top_statements_pass level partly (shared.length + 1) enough beside (Nat.le_refl _)
      (Nat.lt_succ_self _)
      (by simpa using long) noEnd fun lines => by
        have none := calm lines
        rw [parsed] at none
        obtain ⟨statements, next, ran⟩ :=
          top_statements_returns (grammar (shared.length + 1) (shared.length + 1))
          (shared.length + 1) true ⟨shared, closing, closing, []⟩
        rw [ran] at none ⊢
        exact none
  rw [first] at parsed
  refine ⟨less, later, last, fits, ?_⟩
  rw [← top_statements_forget closing ends, parsed]
  have same : topStatements (grammar bound bound) enough allowed
      ⟨shared ++ tail, closing, finish, errors⟩ =
      topStatements (grammar bound bound) enough true
        ⟨shared ++ tail, closing, finish, errors⟩ := by
    obtain rfl | free := free
    · rfl
    · exact top_statements_allowed true ends free
  exact congrArg conclusion (same.trans second)

theorem parse_rest {tokens tail : List Token} (bound enough : Nat)
    (started : Cursor.start tokens = ⟨tail, finish, finish, []⟩)
    (ends : finish.kind = .eof) (short : tail.length ≤ tokens.length) (wide : tail.length < bound)
    (long : tail.length < enough) (free : ∀ token ∈ tail, token.kind ≠ .word .library) :
    conclusion (topStatements (grammar bound bound) enough allowed
      ⟨tail, previous, finish, errors⟩) =
      ⟨(parse tokens).statements, errors ++ (parse tokens).errors⟩ := by
  let f : Fork := ⟨.whole, [], finish, finish, [], errors, ends⟩
  have abreast : Abreast f ⟨tail, finish, finish, []⟩ ⟨tail, finish, finish, errors⟩ :=
    ⟨tail, finish, [], ⟨rfl, rfl⟩, rfl, by simp [f]⟩
  have level : Matched (tail.length + 1 - 1) (grammar (tokens.length + 1) (tokens.length + 1))
      (grammar bound bound) :=
    grammar_matched _ _ _ _ (by omega) wide (by omega) (Nat.le_of_lt wide)
  have tandem := top_statements_tandem level (tokens.length + 1) enough true (by omega) (by omega)
  have met := tandem.meets f _ _ (fun isLine => nomatch isLine) (Nat.lt_succ_self _) abreast trivial
  rw [← top_statements_forget finish ends, top_statements_allowed true ends free, parse_eq, started]
  generalize topStatements (grammar (tokens.length + 1) (tokens.length + 1))
    (tokens.length + 1) true
    ⟨tail, finish, finish, []⟩ = run at met ⊢
  generalize topStatements (grammar bound bound) enough true ⟨tail, finish, finish, errors⟩ =
    twinRun at met ⊢
  cases met with
  | ok abreast =>
    obtain ⟨_, _, noted, _, rfl, rfl⟩ := abreast
    rfl
  | error abreast =>
    obtain ⟨_, _, noted, _, rfl, rfl⟩ := abreast
    simp [conclusion, f]
  | spilled lines _ => nomatch lines

end

theorem conclusion_followed (statements : List Stmt) (g : Grammar) (bound : Nat)
    (librariesAllowed : Bool) (c : Cursor) :
    conclusion (followed statements (topStatements g bound librariesAllowed c)) =
      ⟨statements ++ (conclusion (topStatements g bound librariesAllowed c)).statements,
        (conclusion (topStatements g bound librariesAllowed c)).errors⟩ := by
  obtain ⟨later, next, ran⟩ := top_statements_returns g bound librariesAllowed c
  rw [ran]
  rfl

end Parser

theorem simple_line_kinds {line : List Token} {feed : Token}
    (simple : ∀ token ∈ line, token.kind.isSimple = true) (feeds : feed.kind = .newline) :
    ∀ token ∈ line ++ [feed], token.kind ≠ .eof ∧ token.kind ≠ .word .library := by
  intro token member
  obtain inLine | isFeed := List.mem_append.1 member
  · have isSimple := simple token inLine
    constructor <;> intro isOther <;> rw [isOther] at isSimple <;> cases isSimple
  · rw [List.mem_singleton.1 isFeed, feeds]
    decide

/-- A simple line, however malformed, is confined to itself: behind lines without faults it is read
as it would be alone, and what follows it as if the line had not been there. -/
theorem malformed_line_confined (before line behind : List Token) (feed : Token)
    (noEnd : ∀ token ∈ before, token.kind ≠ .eof)
    (lines : before = [] ∨ ∃ init last, before = init ++ [last] ∧ last.kind = .newline)
    (clean : (parse before).errors = []) (simple : ∀ token ∈ line, token.kind.isSimple = true)
    (feeds : feed.kind = .newline) (ends : ∃ init last, behind = init ++ [last] ∧ last.kind = .eof)
    (noLibrary : ∀ token ∈ behind, token.kind ≠ .word .library) :
    (parse (before ++ line ++ [feed] ++ behind)).statements =
      (parse before).statements ++ (parse (line ++ [feed])).statements ++
        (parse behind).statements ∧
    (parse (before ++ line ++ [feed] ++ behind)).errors =
      (parse (line ++ [feed])).errors ++ (parse behind).errors := by
  have kinds := simple_line_kinds simple feeds
  have closed : ∃ token ∈ behind, token.kind = .eof := by
    obtain ⟨init, last, rfl, isEnd⟩ := ends
    exact ⟨last, List.mem_append_right init (.head []), isEnd⟩
  obtain ⟨body, finish, isEnd, shorter, within, started⟩ := Parser.start_closed closed
  have start : Parser.Cursor.start (before ++ line ++ [feed] ++ behind) =
      ⟨before ++ (line ++ [feed] ++ body), finish, finish, []⟩ := by
    have whole := started (before ++ (line ++ [feed])) fun token member =>
      (List.mem_append.1 member).elim (noEnd token) fun inLine => (kinds token inLine).1
    simpa using whole
  have free : ∀ token ∈ line ++ [feed] ++ body, token.kind ≠ .word .library := fun token member =>
    (List.mem_append.1 member).elim (fun inLine => (kinds token inLine).2) fun inBody =>
      noLibrary token (within token inBody)
  have sizes : (before ++ line ++ [feed] ++ behind).length =
      before.length + (line ++ [feed]).length + behind.length := by simp; omega
  rw [Parser.parse_eq (before ++ line ++ [feed] ++ behind), start]
  generalize (before ++ line ++ [feed] ++ behind).length = total at sizes
  -- The lines before are read to their end, where the malformed line starts.
  obtain ⟨less, later, last, fits, first⟩ :=
    Parser.parse_pass before (line ++ [feed] ++ body) .lines (total + 1)
    (total + 1) (by simp) isEnd
      (fun f isLines => by simpa [Parser.Fork.Admits, isLines] using lines) noEnd
    (by omega) (by rw [List.length_append]; omega) (.inl rfl) fun _ => clean
  rw [first, Parser.conclusion_followed, clean]
  -- The malformed line is read to its end, where the lines behind start.
  obtain ⟨enough, later, last, fits, second⟩ :=
    Parser.parse_pass (line ++ [feed]) body .line (total + 1)
    less (by simp) isEnd (fun f isLine => .inr (by
      simp only [Parser.Fork.Admits, isLine]
      exact ⟨line, feed, rfl, feeds, simple⟩))
    (fun token member => (kinds token member).1) (by omega) (by rwa [List.length_append] at fits)
    (.inr free) fun isLines => absurd isLines (by simp)
  have alone : Parser.Cursor.start behind = ⟨body, finish, finish, []⟩ := started [] (by simp)
  rw [second, Parser.conclusion_followed, Parser.parse_rest (total + 1) enough alone isEnd
    (Nat.le_of_lt shorter) (by omega) fits fun token inBody =>
      noLibrary token (within token inBody)]
  simp

-- `x = 1`, then `print ) : stop stop`, then `end`.
theorem faulty_print_confined :
    let token := fun kind text literal => Token.mk kind text literal Location.internal
    let feed := token .newline "\n" none
    let before := [token .identifier "x" none, token (.symbol .equal) "=" none,
      token .integer "1" (some (.integer 1)), feed]
    let line := [token (.word .print) "print" none, token (.symbol .rightParen) ")" none,
      token (.symbol .colon) ":" none, token (.word .stop) "stop" none,
        token (.word .stop) "stop" none]
    let behind := [token (.word .end_) "end" none, Token.eofAt .internal]
    (parse (before ++ line ++ [feed] ++ behind)).statements.length = 2 ∧
      (parse (before ++ line ++ [feed] ++ behind)).errors.length = 2 := by
  intro token feed before line behind
  have confined := malformed_line_confined before line behind feed (by decide)
    (.inr ⟨before.dropLast, feed, rfl, rfl⟩) rfl (by decide) rfl
    ⟨behind.dropLast, Token.eofAt .internal, rfl, rfl⟩ (by decide)
  rw [confined.1, confined.2]
  decide

end BrightScript
