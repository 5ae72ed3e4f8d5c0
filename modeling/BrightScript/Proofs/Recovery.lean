import BrightScript.Proofs.Confinement
set_option autoImplicit false

/-!
What recovery loses. A block that is left open stops before the end of the function around it, so
that the function could be closed there; but the fault it reports passes through the function's own
block, which recovers behind that line and with it behind the function's end.
-/

namespace BrightScript

namespace Parser

variable {α β : Type}

def faults : EStateM.Result ParseError Cursor α → Nat
  | .ok _ c => c.errors.length
  | .error _ c => c.errors.length + 1

theorem faults_onward {c : Cursor} {r : EStateM.Result ParseError Cursor α}
    (onward : Onward c (finalState r)) : c.errors.length ≤ faults r := by
  have grown := onward.errors.length_le
  cases r with
  | ok a d => exact grown
  | error e d => exact Nat.le_succ_of_le grown

theorem faults_bind {x : Parse α} {k : α → Parse β} {c : Cursor}
    (onward : ∀ a d, Onward d (finalState (k a d))) : faults (x c) ≤ faults ((x >>= k) c) := by
  rw [bind_run]
  cases x c with
  | ok a d => exact faults_onward (onward a d)
  | error e d => exact Nat.le_refl _

theorem faults_bind_ok {x : Parse α} {k : α → Parse β} {c d : Cursor} {a : α}
    (ran : x c = .ok a d) : faults ((x >>= k) c) = faults (k a d) := by
  rw [bind_run, ran]

section

variable {g : Grammar} {terminators : List Keyword} {bound : Nat} {c : Cursor}

theorem block_statements_run : blockStatements g terminators (bound + 1) c =
    (if (isTerminator terminators (skipped c).nextKind ||
      closesFunction (skipped c).nextKind) = true then
      pure []
    else if ((skipped c).nextKind == .eof) = true then
      failExpected (" or ".intercalate (terminators.map terminatorName))
    else do
      match ← recover (blockStatement g terminators) with
      | some statement =>
        let later ← blockStatements g terminators bound
        pure (statement :: later)
      | none => blockStatements g terminators bound : Parse (List Stmt)) (skipped c) :=
  rfl

def Cursor.InBlock (c : Cursor) (terminators : List Keyword) : Prop :=
  isTerminator terminators c.nextKind = false ∧ closesFunction c.nextKind = false ∧
    c.nextKind ≠ .eof

theorem block_statements_inside (inside : (skipped c).InBlock terminators) :
    blockStatements g terminators (bound + 1) c = (do
      match ← recover (blockStatement g terminators) with
      | some statement =>
        let later ← blockStatements g terminators bound
        pure (statement :: later)
      | none => blockStatements g terminators bound : Parse (List Stmt)) (skipped c) := by
  obtain ⟨noTerminator, noClosing, more⟩ := inside
  rw [block_statements_run, noTerminator, noClosing, beq_false_of_ne more, if_neg (by decide),
    if_neg (by decide)]

theorem block_statements_recover {e : ParseError} {d : Cursor}
    (inside : (skipped c).InBlock terminators)
    (fails : blockStatement g terminators (skipped c) = .error e d) :
    blockStatements g terminators (bound + 1) c =
      blockStatements g terminators bound (finalState (synchronize (d.note e))) := by
  rw [block_statements_inside inside, bind_run, recover_error fails]

theorem block_statement_error {e : ParseError} {d : Cursor} (fails : g.statement c = .error e d) :
    blockStatement g terminators c = .error e d := by
  unfold blockStatement
  rw [bind_run, fails]

inductive ReadsOn (g : Grammar) (terminators : List Keyword) : Nat → Cursor → Cursor → Prop
  | here (c : Cursor) : ReadsOn g terminators 0 c c
  | step {count : Nat} {c next d : Cursor} {statement : Stmt}
      (inside : (skipped c).InBlock terminators)
      (reads : blockStatement g terminators (skipped c) = .ok statement next)
      (later : ReadsOn g terminators count next d) : ReadsOn g terminators (count + 1) c d

theorem reads_on_faults {total count : Nat} {d : Cursor} (reads : ReadsOn g terminators count c d)
    (fits : total = bound + count) :
    faults (blockStatements g terminators total c) =
      faults (blockStatements g terminators bound d) := by
  subst fits
  induction reads with
  | here c => rfl
  | @step count c next d statement inside first _ ih =>
    rw [← ih, ← Nat.add_assoc, block_statements_inside inside, bind_run, recover_ok first]
    change faults ((blockStatements g terminators (bound + count) >>= fun later =>
      pure (statement :: later)) next) = _
    rw [bind_run]
    cases blockStatements g terminators (bound + count) next <;> rfl

end

structure Header where
  keyword : Token
  name : String
  parameters : List Parameter
  returns : Kind

def Header.isSub (h : Header) : Bool :=
  h.keyword.kind == .word .sub

def Header.terminator (h : Header) : Keyword :=
  if h.isSub then .endSub else .endFunction

def functionHeader (g : Grammar) : Parse Header := do
  let keyword ← advance
  let name ← consume .identifier "function name"
  let _ ← consume (.symbol .leftParen) "'(' after function name"
  let values ← parameters g
  let returns ← returnKind (keyword.kind == .word .sub)
  consumeNewline
  pure ⟨keyword, name.text, values, returns⟩

def functionEnd (h : Header) (body : Block) : Parse Function := do
  let _ ← consume (.word h.terminator) (terminatorName h.terminator)
  let location ← spanFrom h.keyword.location
  pure ⟨some h.name, h.parameters, h.returns, body, h.isSub, location⟩

theorem function_literal_eq (g : Grammar) :
    functionLiteral g true = functionHeader g >>= fun h =>
      block g [h.terminator] >>= functionEnd h := by
  unfold functionLiteral functionHeader
  simp only [↓reduceIte, bind_assoc, pure_bind, bind_map_left]
  rfl

def openIf (g : Grammar) : Parse (Expr × Block × List ElseIf × Option Block) := do
  let _ ← advance
  let condition ← expression g
  let _ ← accept (.word .then_)
  if ← check .newline then
    consumeNewline
    let body ← block g branchEnds
    let elseIfs ← blockElseIfs g g.bound
    let otherwise ← if ← accept (.word .else_) then
        consumeNewline
        some <$> block g [.endIf]
      else pure none
    pure (condition, body, elseIfs, otherwise)
  else failExpected "newline"

theorem closing_cases {kind : Lexeme} (closes : closesFunction kind = true) :
    kind = .word .endFunction ∨ kind = .word .endSub := by
  unfold closesFunction at closes
  split at closes
  · exact .inl rfl
  · exact .inr rfl
  · cases closes

theorem consume_missing {kind : Lexeme} {c : Cursor} (what : String) (missing : c.nextKind ≠ kind) :
    consume kind what c = .error ⟨.expected what (describe c.next), c.next.location⟩ c := by
  change (if (c.nextKind == kind) = true then _ else failExpected what : Parse Token) c = _
  rw [beq_false_of_ne missing]
  rfl

-- Where `x` ends right before the end of a function, `y` fails there, for lack of an `end if`.
def Stalls (x : Parse α) (y : Parse β) : Prop :=
  ∀ c a d, x c = .ok a d → closesFunction d.nextKind = true →
    y c = .error ⟨.expected "'end if'" (describe d.next), d.next.location⟩ d

theorem stalls_bind {γ : Type} {first : Parse γ} {k : γ → Parse α} {l : γ → Parse β}
    (rest : ∀ a, Stalls (k a) (l a)) : Stalls (first >>= k) (first >>= l) := by
  intro c b d ran stops
  rw [bind_run] at ran ⊢
  cases begun : first c with
  | ok a next =>
    rw [begun] at ran
    exact rest a next b d ran stops
  | error e next =>
    rw [begun] at ran
    cases ran

theorem stalls_at_end (a : α) (k : Token → Parse β) :
    Stalls (pure a) (consume (.word .endIf) "'end if'" >>= k) := by
  intro c b d ran stops
  obtain rfl : c = d := by
    injection ran
  have missing : c.nextKind ≠ .word .endIf := by
    obtain isFunction | isSub := closing_cases stops
    · rw [isFunction]
      decide
    · rw [isSub]
      decide
  rw [bind_run, consume_missing _ missing]

theorem unclosed_if_stalls (g : Grammar) : Stalls (openIf g) (ifStatement g) := by
  refine stalls_bind fun start => stalls_bind fun condition => stalls_bind fun _ => ?_
  refine stalls_bind fun inLines => ?_
  cases inLines with
  | false => exact fun _ _ _ ran => nomatch ran
  | true =>
    refine stalls_bind fun _ => stalls_bind fun body => stalls_bind fun elseIfs =>
      stalls_bind fun more => ?_
    cases more with
    | false => exact stalls_bind fun otherwise => stalls_at_end _ _
    | true => exact stalls_bind fun _ => stalls_bind fun otherwise => stalls_at_end _ _

theorem statement_if {c : Cursor} (g : Grammar) (isIf : c.nextKind = .word .if_) :
    statement g c = ifStatement g c := by
  have seen : peek c = .ok c.next c := rfl
  have kind : c.next.kind = .word .if_ := isIf
  unfold statement
  rw [bind_run, seen]
  simp only [kind]

theorem function_word_cases {kind : Lexeme} (isWord : isFunctionWord kind = true) :
    kind = .word .function ∨ kind = .word .sub := by
  unfold isFunctionWord at isWord
  split at isWord
  · exact .inl rfl
  · exact .inr rfl
  · cases isWord

theorem statement_nested {c : Cursor} (g : Grammar) (isWord : isFunctionWord c.nextKind = true) :
    statement g c = .error ⟨.nestedFunction c.next.text, c.next.location⟩ c := by
  have seen : peek c = .ok c.next c := rfl
  unfold statement
  rw [bind_run, seen]
  obtain isFunction | isSub := function_word_cases isWord
  · have kind : c.next.kind = .word .function := isFunction
    simp only [kind]
    rfl
  · have kind : c.next.kind = .word .sub := isSub
    simp only [kind]
    rfl

theorem skipped_next (rest : List Token) (previous finish : Token) (errors : List ParseError) :
    (skipped ⟨rest, previous, finish, errors⟩).next =
      (rest.find? fun token => !isSeparator token.kind).getD finish := by
  unfold skipped skipSeparators
  induction rest generalizing previous with
  | nil => rfl
  | cons token rest ih =>
    rw [skip_while_cons]
    cases separates : isSeparator token.kind with
    | true => rw [if_pos rfl, ih, List.find?_cons_of_neg (by simp [separates])]
    | false =>
      rw [if_neg (by decide), List.find?_cons_of_pos (by simp [separates])]
      rfl

theorem recovered_next {c : Cursor} {token : Token} {later : List Token}
    (shape : c.rest = token :: later) (inside : isSeparator token.kind = false)
    (separated : (later.head?.all fun next => isSeparator next.kind) = true) :
    (skipped (finalState (synchronize c))).next =
      (later.find? fun token => !isSeparator token.kind).getD c.finish := by
  obtain ⟨_, previous, finish, errors⟩ := c
  subst shape
  rw [synchronize_run, skip_while_cons, inside, if_pos (by decide)]
  cases later with
  | nil => rfl
  | cons separator later =>
    have separates : isSeparator separator.kind = true := separated
    rw [skip_while_cons, separates, if_neg (by decide),
      List.find?_cons_of_neg (by simp [separates])]
    exact skipped_next later separator finish errors

section

variable {bound depth : Nat} {terminator : Keyword} {c : Cursor}

theorem grammar_shallow (bound depth : Nat) :
    Matched 0 (grammar (bound + 1) depth) (grammar (bound + 1) depth) :=
  grammar_matched _ _ _ _ (Nat.succ_pos _) (Nat.succ_pos _) (Nat.zero_le _) (Nat.zero_le _)

theorem block_statements_onward (terminators : List Keyword) (fuel : Nat) (c : Cursor) :
    Onward c (finalState (blockStatements (grammar (bound + 1) depth) terminators fuel c)) :=
  (block_statements_tandem (grammar_shallow bound depth) terminators fuel fuel (Nat.zero_le _)
    (Nat.zero_le _)).onward c

theorem word_in_block {kind : Keyword} (ends : closesFunction (.word terminator) = true)
    (different : closesFunction (.word kind) = false) (known : c.nextKind = .word kind) :
    c.InBlock [terminator] := by
  unfold Cursor.InBlock
  rw [known]
  refine ⟨?_, different, by simp⟩
  have other : kind ≠ terminator := by
    rintro rfl
    rw [ends] at different
    cases different
  simp [isTerminator, other]

-- The next function or the end of the file is one more fault inside the body of a function.
theorem body_past_end_fails (ends : closesFunction (.word terminator) = true) (fuel : Nat)
    (next : (skipped c).nextKind = .eof ∨ isFunctionWord (skipped c).nextKind = true) :
    c.errors.length + 1 ≤
      faults (blockStatements (grammar (bound + 1) (depth + 1)) [terminator] (fuel + 1) c) := by
  obtain atEnd | isWord := next
  · rw [block_statements_run, atEnd]
    exact Nat.le_refl _
  · have inside : (skipped c).InBlock [terminator] := by
      obtain isFunction | isSub := function_word_cases isWord
      · exact word_in_block ends rfl isFunction
      · exact word_in_block ends rfl isSub
    have nested : (grammar (bound + 1) (depth + 1)).statement (skipped c) = _ :=
      statement_nested (grammar (bound + 1) depth) isWord
    rw [block_statements_recover inside (block_statement_error nested)]
    refine Nat.le_trans ?_ (faults_onward (block_statements_onward [terminator] fuel _))
    exact recovered_errors _ (skipped_onward c)

-- The fault of an `if` that is left open takes the end of the function with it: the body goes on
-- behind that line, and the next function or the end of the file is a second fault.
theorem unclosed_if_loses_function_end {stop : Cursor}
    {parts : Expr × Block × List ElseIf × Option Block} {closer : Token} {later : List Token}
    (ends : closesFunction (.word terminator) = true) (isIf : (skipped c).nextKind = .word .if_)
    (opens : openIf (grammar (bound + 1) depth) (skipped c) = .ok parts stop)
    (stops : stop.rest = closer :: later) (closes : closesFunction closer.kind = true)
    (separated : (later.head?.all fun token => isSeparator token.kind) = true)
    (next : ((later.find? fun token => !isSeparator token.kind).getD stop.finish).kind = .eof ∨
      isFunctionWord ((later.find? fun token => !isSeparator token.kind).getD stop.finish).kind =
        true)
    (fuel : Nat) :
    stop.errors.length + 2 ≤
      faults (blockStatements (grammar (bound + 1) (depth + 1)) [terminator] (fuel + 2) c) := by
  have atCloser : stop.nextKind = closer.kind := by
    unfold Cursor.nextKind Cursor.next
    rw [stops]
    rfl
  have fails : (grammar (bound + 1) (depth + 1)).statement (skipped c) = .error _ stop :=
    (statement_if (grammar (bound + 1) depth) isIf).trans
      (unclosed_if_stalls _ _ _ _ opens (by rw [atCloser, closes]))
  have notSeparator : isSeparator closer.kind = false := by
    obtain isFunction | isSub := closing_cases closes
    · rw [isFunction]
      rfl
    · rw [isSub]
      rfl
  rw [block_statements_recover (word_in_block ends rfl isIf) (block_statement_error fails)]
  refine Nat.le_trans ?_ (body_past_end_fails ends fuel ?_)
  · exact Nat.succ_le_succ (recovered_errors _ (.refl stop))
  · unfold Cursor.nextKind
    rwa [recovered_next (by rw [note_rest, stops]) notSeparator separated]

theorem reads_on_onward {terminators : List Keyword} {count : Nat} {d : Cursor}
    (reads : ReadsOn (grammar (bound + 1) depth) terminators count c d) : Onward c d := by
  induction reads with
  | here c => exact .refl c
  | @step count c next d statement _ first _ ih =>
    have onward := (block_statement_tandem (grammar_shallow bound depth) terminators).onward
        (skipped c)
    rw [first] at onward
    exact ((skipped_onward c).trans onward).trans ih

theorem reads_on_shorter {terminators : List Keyword} {count : Nat} {d : Cursor}
    (reads : ReadsOn (grammar (bound + 1) depth) terminators count c d)
    (ends : c.finish.kind = .eof) (wide : c.rest.length < bound) (deep : c.rest.length < depth) :
    count + d.rest.length ≤ c.rest.length := by
  induction reads with
  | here c => exact Nat.le_of_eq (Nat.zero_add _)
  | @step count c next d statement _ first later ih =>
    have level : Matched (c.rest.length + 1) (grammar (bound + 1) depth)
        (grammar (bound + 1) depth) :=
      grammar_matched _ _ _ _ (by omega) (by omega) deep deep
    have tandem := block_statement_tandem level terminators
    have shorter := (skipped_onward c).shorter
    have onward := (skipped_onward c).trans (tandem.onward (skipped c))
    rw [first] at onward
    have moved : next.rest.length < (skipped c).rest.length :=
      tandem.settles _ _ _ _ (by omega) ((skipped_onward c).finish ▸ ends) trivial
        (Nat.le_refl _) first
    have rest := ih (onward.finish ▸ ends) (by omega) (by omega)
    omega

end

theorem function_header_onward (bound depth : Nat) (c : Cursor) :
    Onward c (finalState (functionHeader (grammar (bound + 1) depth) c)) := by
  have level := grammar_shallow bound depth
  have tandem : Tandem 0 anything .opened .opened false (functionHeader (grammar (bound + 1) depth))
      (functionHeader (grammar (bound + 1) depth)) := by
    refine .bind .advance_past fun keyword => ?_
    refine .bind (.consume (by decide)) fun name => ?_
    refine .bind (.consume (by decide)) fun _ => ?_
    refine .bind ((parameters_tandem level).relax (Nat.le_refl _)) fun values => ?_
    refine .bind ((return_kind_tandem _).across_lines) fun returns => ?_
    exact .bind consume_newline_tandem fun _ => .pure _
  exact tandem.onward c

theorem Header.terminator_closes (h : Header) : closesFunction (.word h.terminator) = true := by
  unfold Header.terminator
  split <;> rfl

-- A declaration with an `if` in its body that is left open: the `if` is read up to the end of the
-- function, which stands last on its line, with another function or nothing behind it.
structure LeftOpen (size : Nat) (start : Cursor) where
  header : Header
  body : Cursor
  -- The statements before the `if`, and where it stands.
  count : Nat
  place : Cursor
  parts : Expr × Block × List ElseIf × Option Block
  -- Right before the end of the function.
  stop : Cursor
  closer : Token
  later : List Token
  isFunction : isFunctionWord start.nextKind = true
  heads : functionHeader (grammar (size + 1) (size + 1)) start = .ok header body
  reads : ReadsOn (grammar (size + 1) (size + 1)) [header.terminator] count body place
  isIf : (skipped place).nextKind = .word .if_
  opens : openIf (grammar (size + 1) size) (skipped place) = .ok parts stop
  stops : stop.rest = closer :: later
  closes : closesFunction closer.kind = true
  separated : (later.head?.all fun token => isSeparator token.kind) = true
  followed : ((later.find? fun token => !isSeparator token.kind).all fun token =>
    isFunctionWord token.kind) = true

section

variable {size : Nat} {start : Cursor} (leftOpen : LeftOpen size start)

include leftOpen

theorem left_open_header : Onward start leftOpen.body := by
  have onward := function_header_onward size (size + 1) start
  rw [leftOpen.heads] at onward
  exact onward

theorem left_open_onward : Onward start leftOpen.place :=
  (left_open_header leftOpen).trans (reads_on_onward leftOpen.reads)

theorem left_open_stops : Onward (skipped leftOpen.place) leftOpen.stop := by
  have onward := (if_statement_tandem (grammar_shallow size size)).onward (skipped leftOpen.place)
  have atCloser : closesFunction leftOpen.stop.nextKind = true := by
    unfold Cursor.nextKind Cursor.next
    rw [leftOpen.stops]
    exact leftOpen.closes
  rw [unclosed_if_stalls _ _ _ _ leftOpen.opens atCloser] at onward
  exact onward

theorem left_open_size : 2 ≤ leftOpen.place.rest.length := by
  have onward := left_open_stops leftOpen
  obtain ⟨consumed, read, _⟩ := onward.reads
  have shorter := (skipped_onward leftOpen.place).shorter
  rw [leftOpen.stops] at read
  cases consumed with
  | nil =>
    have isIf := leftOpen.isIf
    unfold Cursor.nextKind Cursor.next at isIf
    rw [read] at isIf
    have closes := leftOpen.closes
    rw [show leftOpen.closer.kind = .word .if_ from isIf] at closes
    cases closes
  | cons token consumed =>
    have sizes := congrArg List.length read
    simp only [List.length_append, List.length_cons] at sizes
    omega

theorem left_open_body (ends : start.finish.kind = .eof) (wide : start.rest.length < size) :
    2 ≤ faults (blockStatements (grammar (size + 1) (size + 1))
      [leftOpen.header.terminator] (size + 1)
      leftOpen.body) := by
  have header := left_open_header leftOpen
  have shorter := header.shorter
  have counted := reads_on_shorter leftOpen.reads (header.finish ▸ ends) (by omega) (by omega)
  have two := left_open_size leftOpen
  obtain ⟨fuel, fits⟩ : ∃ fuel, size + 1 = fuel + 2 + leftOpen.count :=
    ⟨size + 1 - leftOpen.count - 2, by omega⟩
  rw [reads_on_faults leftOpen.reads fits]
  have closing : leftOpen.stop.finish = start.finish :=
    ((left_open_stops leftOpen).finish.trans (skipped_onward _).finish).trans
      (left_open_onward leftOpen).finish
  refine Nat.le_trans (Nat.le_add_left 2 leftOpen.stop.errors.length)
    (unclosed_if_loses_function_end leftOpen.header.terminator_closes leftOpen.isIf leftOpen.opens
      leftOpen.stops leftOpen.closes leftOpen.separated ?_ fuel)
  have next := leftOpen.followed
  generalize leftOpen.later.find? (fun token => !isSeparator token.kind) = found at next
  cases found with
  | none => exact .inl (by rw [Option.getD_none, closing, ends])
  | some token => exact .inr next

theorem left_open_named : ((start.rest.drop 1).headD start.finish).kind = .identifier := by
  rw [← advance_second]
  have heads := leftOpen.heads
  obtain ⟨keyword, ran⟩ := advance_ok start
  unfold functionHeader at heads
  rw [bind_run, ran] at heads
  by_cases named : (finalState (advance start)).nextKind = .identifier
  · exact named
  · simp only [bind_run, consume_missing _ named] at heads
    cases heads

theorem left_open_literal (ends : start.finish.kind = .eof) (wide : start.rest.length < size) :
    2 ≤ faults (functionLiteral (grammar (size + 1) (size + 1)) true start) := by
  rw [function_literal_eq, faults_bind_ok leftOpen.heads]
  refine Nat.le_trans ?_ (faults_bind fun body d => ?_)
  · -- The block does nothing before its statements but look at the token behind it.
    change 2 ≤ faults ((blockStatements (grammar (size + 1) (size + 1)) [leftOpen.header.terminator]
      (size + 1) >>= fun statements => peek >>= fun next => pure (Block.mk statements _))
        leftOpen.body)
    exact Nat.le_trans (left_open_body leftOpen ends wide) (faults_bind fun statements d => .refl d)
  · have tandem : Tandem 0 anything .opened .settled false (functionEnd leftOpen.header body)
        (functionEnd leftOpen.header body) :=
      .bind (.consume ⟨by simp, by simp⟩) fun _ => .span_from fun location => .pure _
    exact tandem.onward d

theorem left_open_statement (ends : start.finish.kind = .eof) (wide : start.rest.length < size)
    (librariesAllowed : Bool) :
    2 ≤ faults (topStatement (grammar (size + 1) (size + 1)) librariesAllowed start) := by
  have isFunction := leftOpen.isFunction
  have noLibrary : (start.nextKind == .word .library) = false := by
    obtain isWord | isWord := function_word_cases isFunction <;> rw [isWord] <;> rfl
  have declared : topDeclaration (grammar (size + 1) (size + 1)) librariesAllowed start =
      (functionLiteral (grammar (size + 1) (size + 1)) true >>= fun function =>
        pure (.declare (function.name.getD "") function function.location)) start := by
    change (if (start.nextKind == .word .library) = true then _ else declaration _ : Parse Stmt)
      start = _
    rw [noLibrary, if_neg (by decide)]
    change (if (isFunctionWord start.nextKind &&
      ((start.rest.drop 1).headD start.finish).kind == .identifier) = true then _ else statement _ :
        Parse Stmt) start = _
    rw [isFunction, left_open_named leftOpen]
    rfl
  rw [top_statement_eq]
  refine Nat.le_trans ?_ (faults_bind fun statement d => ?_)
  · rw [declared]
    exact Nat.le_trans (left_open_literal leftOpen ends wide)
      (faults_bind fun function d => .refl d)
  · have tandem : Tandem 0 anything .opened .opened false _ _ :=
      .bind statement_separator_tandem fun _ => .pure statement
    exact tandem.onward d

end

theorem recover_faults {x : Parse α} {c next : Cursor} {result : Option α}
    (ran : recover x c = .ok result next) : faults (x c) ≤ next.errors.length := by
  rw [recover_run] at ran
  cases begun : x c with
  | ok a d =>
    rw [begun] at ran
    injection ran with _ same
    exact Nat.le_of_eq (by rw [← same]; rfl)
  | error e d =>
    rw [begun] at ran
    injection ran with _ same
    rw [← same]
    exact recovered_errors e (.refl d)

theorem conclusion_errors (r : EStateM.Result ParseError Cursor (List Stmt)) :
    (conclusion r).errors.length = faults r := by
  cases r with
  | ok statements c => rfl
  | error e c => simp [conclusion, faults]

theorem skipped_same {c : Cursor} (inside : isSeparator c.nextKind = false) : skipped c = c := by
  obtain ⟨rest, previous, finish, errors⟩ := c
  cases rest with
  | nil => rfl
  | cons token rest =>
    unfold skipped skipSeparators
    rw [skip_while_cons, if_neg (by rw [show isSeparator token.kind = false from inside]; decide)]
    rfl

theorem left_open_file {size : Nat} {start : Cursor} (leftOpen : LeftOpen size start)
    (ends : start.finish.kind = .eof) (wide : start.rest.length < size) (bound : Nat)
    (librariesAllowed : Bool) :
    2 ≤ (conclusion (topStatements (grammar (size + 1) (size + 1)) (bound + 1) librariesAllowed
      start)).errors.length := by
  have here : skipped start = start := by
    refine skipped_same ?_
    obtain isWord | isWord := function_word_cases leftOpen.isFunction <;> rw [isWord] <;> rfl
  have more : start.nextKind ≠ .eof := by
    obtain isWord | isWord := function_word_cases leftOpen.isFunction <;> rw [isWord] <;> decide
  obtain ⟨result, next, ran⟩ := recover_returns
    (topStatement (grammar (size + 1) (size + 1)) librariesAllowed) start
  have twice := Nat.le_trans (left_open_statement leftOpen ends wide librariesAllowed)
      (recover_faults ran)
  have onward := top_statements_onward (grammar_shallow size (size + 1)) bound
    (librariesAllowed && start.nextKind == .word .library) next
  rw [conclusion_errors, top_statements_step (by rwa [here]) (by rwa [here]), here]
  exact Nat.le_trans twice (faults_onward (by rwa [followed_final]))

end Parser

/-- An `if` that is left open in the body of a function is never a single fault. The end of the
function goes with the fault of the `if`, and what stands behind it is reported as a fault of its
own. -/
theorem unclosed_if_reported_twice (before behind : List Token)
    (noEnd : ∀ token ∈ before, token.kind ≠ .eof)
    (lines : before = [] ∨ ∃ init last, before = init ++ [last] ∧ last.kind = .newline)
    (clean : (parse before).errors = []) (ends : ∃ token ∈ behind, token.kind = .eof)
    (leftOpen : Parser.LeftOpen (before ++ behind).length (Parser.Cursor.start behind)) :
    2 ≤ (parse (before ++ behind)).errors.length := by
  obtain ⟨body, finish, isEnd, shorter, within, started⟩ := Parser.start_closed ends
  have alone : Parser.Cursor.start behind = ⟨body, finish, finish, []⟩ := started [] (by simp)
  have sizes : (before ++ behind).length = before.length + behind.length := List.length_append
  rw [alone] at leftOpen
  rw [Parser.parse_eq, started before noEnd]
  generalize (before ++ behind).length = size at sizes leftOpen ⊢
  obtain ⟨less, later, last, fits, same⟩ := Parser.parse_pass before body .lines (size + 1)
    (size + 1) (by simp) isEnd (fun f isLines => by simpa [Parser.Fork.Admits, isLines] using lines)
      noEnd
    (by omega) (by omega) (.inl rfl) fun _ => clean
  rw [same, Parser.conclusion_followed, clean, List.append_nil,
    ← Parser.top_statements_forget finish isEnd]
  obtain ⟨bound, rfl⟩ : ∃ bound, less = bound + 1 := ⟨less - 1, by omega⟩
  exact Parser.left_open_file leftOpen isEnd (by change body.length < size; omega) bound later

-- `function f()`, `if true`, `end function`, and `function g()` behind it.
theorem unclosed_if_between_functions :
    let token := fun kind text literal => Token.mk kind text literal Location.internal
    let feed := token .newline "\n" none
    let heading := fun name =>
      [token (.word .function) "function" none, token .identifier name none,
        token (.symbol .leftParen) "(" none, token (.symbol .rightParen) ")" none, feed]
    let closing := [token (.word .endFunction) "end function" none, feed]
    let opened := [token (.word .if_) "if" none,
        token (.word .true) "true" (some (.boolean true)), feed]
    2 ≤ (parse ([] ++ (heading "f" ++ opened ++ closing ++ heading "g" ++ closing ++
      [Token.eofAt .internal]))).errors.length := by
  intro token feed heading closing opened
  refine unclosed_if_reported_twice [] _ (by simp) (.inl rfl) rfl
    ⟨Token.eofAt .internal, by simp, rfl⟩ ?_
  exact {
    header := _
    body := _
    count := 0
    place := _
    parts := _
    stop := _
    closer := _
    later := _
    isFunction := rfl
    heads := rfl
    reads := .here _
    isIf := rfl
    opens := rfl
    stops := rfl
    closes := rfl
    separated := rfl
    followed := rfl }

theorem unclosed_if_loses_next_function :
    let token := fun kind text literal => Token.mk kind text literal Location.internal
    let feed := token .newline "\n" none
    let heading := fun name =>
      [token (.word .function) "function" none, token .identifier name none,
        token (.symbol .leftParen) "(" none, token (.symbol .rightParen) ")" none, feed]
    let closing := [token (.word .endFunction) "end function" none, feed]
    let opened := heading "f" ++ [token (.word .if_) "if" none,
      token (.word .true) "true" (some (.boolean true)), feed]
    let endIf := [token (.word .endIf) "end if" none, feed]
    let behind := closing ++ heading "g" ++ closing ++ [Token.eofAt .internal]
    ((parse (opened ++ endIf ++ behind)).errors.length = 0 ∧
      (parse (opened ++ endIf ++ behind)).statements.length = 2) ∧
    (parse (opened ++ behind)).errors.length = 2 ∧
      (parse (opened ++ behind)).statements.length = 1 := by
  decide +kernel

end BrightScript
