import BrightScript.Proofs.TokensRead
import BrightScript.Token.Lexer
set_option autoImplicit false

namespace BrightScript

namespace Parser

theorem loop_end_onward (c : Cursor) : Onward c (finalState (loopEnd c)) :=
  (loop_end_tandem : Tandem 0 anything .opened .settled true _ _).onward c

theorem compound_op {kind : Lexeme} {op : BinaryOp}
    (found : assignmentSign? kind = some (some op)) : compoundOp? kind = some op := by
  rw [compoundOp?, found]
  rfl

section

variable {limit : Nat} {g : Grammar}

theorem assignment_takes {target value : Expr} {op : Option BinaryOp} {sign : Token}
    {head own : List Token} (reads : target.ReadFrom binaryOp? head)
    (found : assignmentSign? sign.kind = some op) (stands : value.StandsIn own) :
    Takes limit Any (head ++ sign :: own) (assignment target op sign value) fun s tokens =>
      Apart Any s.passages tokens := by
  have compound {op : BinaryOp} (found : assignmentSign? sign.kind = some (some op)) :
      (Expr.binary target op value (target.location.through value.location)).ReadFrom compoundOp?
        (head ++ sign :: own) := binary_read reads (compound_op found) stands
  cases target with
  | «variable» name place =>
    cases op with
    | none =>
      refine .pure _ (apart_behind head (apart_behind [sign] (apart_single (.inl ?_))))
      exact stands
    | some op => exact .pure _ (apart_single (.inr (compound found)))
  | member object name place =>
    refine .pure _ (apart_single ?_)
    cases op with
    | none =>
      obtain ⟨_, inner, dot, word, rfl, _, _, accessed⟩ := reads
      rw [List.append_assoc]
      exact .inl (apart_cons accessed (apart_behind [dot, word, sign] (apart_single stands)))
    | some op => exact .inr ⟨compound found, _, _, _, _, rfl⟩
  | index object index place =>
    refine .pure _ (apart_single ?_)
    cases op with
    | none =>
      obtain ⟨_, closing, rfl, _, _, inner, bracket, place, rfl, indexed, accessed⟩ := reads
      rw [List.append_assoc, List.append_assoc]
      refine .inl (apart_cons (accessed.imp And.right And.right)
        (apart_behind [bracket] (apart_cons indexed ?_)))
      exact apart_behind [closing, sign] (apart_single stands)
    | some op => exact .inr ⟨compound found, _, _, _, _, rfl⟩
  | _ => exact .fail_at _ _

theorem step_statement_takes {kind : Lexeme} {target : Expr} {op : StepOp} {head : List Token}
    (inside : kind ≠ .eof) (reads : target.ReadFrom binaryOp? head) :
    Takes limit (·.kind = kind) head (stepStatement target op) fun s tokens =>
      Apart Any s.passages tokens := by
  refine .bind (.advance_at inside) fun sign _ ⟨_, shape⟩ => .ite (fun _ => ?_) fun _ => ?_
  · split
    · exact .fail_at _ _
    · exact .fail_at _ _
  · refine .peek_kind fun kind => .ite (fun _ => .fail _) fun _ => .pure _ ?_
    exact shape ▸ apart_trail (apart_single (read_stands reads)) fun _ _ => trivial

end

section

variable {limit : Nat} {g : Grammar} (traced : g.Traced limit)

include traced

theorem condition_takes : Finds limit (expression g) fun e => [e.StandsIn] :=
  (expression_takes traced).gives_mono fun _ _ stands => apart_single stands

theorem inline_statements_takes (bound : Nat) :
    Finds limit (inlineStatements g bound) statementPassages := by
  induction bound with
  | zero => exact .pure [] fun _ _ => trivial
  | succ bound ih =>
    refine .peek_kind fun kind => .ite (fun _ => .pure [] fun _ _ => trivial) fun _ => ?_
    refine .find traced.statement (found_nothing []) fun statement _ found => ?_
    refine .skip (accept_onward _) found fun more _ found => .ite (fun _ => ?_) fun _ => .pure _ ?_
    · exact .find ih found fun later _ found => .pure _ found.apart
    · simpa [statementPassages] using found.apart

theorem inline_block_takes : Finds limit (inlineBlock g) Block.passages := by
  refine .peek fun start => ?_
  refine .find (inline_statements_takes traced g.bound) (found_nothing []) fun statements _ found =>
    ?_
  refine .ite (fun _ => ?_) fun _ => ?_
  · exact .bind (.fail_expected _) fun _ _ (never : False) => never.elim
  · exact .finish found fun _ => rfl

theorem block_else_ifs_takes (bound : Nat) : Finds limit (blockElseIfs g bound) elseIfPassages := by
  induction bound with
  | zero => exact .pure [] fun _ _ => trivial
  | succ bound ih =>
    refine .skip (accept_onward _) (found_nothing []) fun more _ found => ?_
    refine .ite (fun _ => ?_) fun _ => .pure [] found.apart
    refine .find (condition_takes traced) found fun condition _ found => ?_
    refine .skip (accept_onward _) found fun _ _ found =>
      .skip line_end_onward found fun _ _ found => ?_
    refine .find (block_takes traced _) found fun body _ found => ?_
    refine .find ih found fun later _ found => .pure _ ?_
    simpa [elseIfPassages] using found.apart

theorem inline_else_ifs_takes (bound : Nat) :
    Finds limit (inlineElseIfs g bound) elseIfPassages := by
  induction bound with
  | zero => exact .pure [] fun _ _ => trivial
  | succ bound ih =>
    refine .skip (accept_onward _) (found_nothing []) fun more _ found => ?_
    refine .ite (fun _ => ?_) fun _ => .pure [] found.apart
    refine .find (condition_takes traced) found fun condition _ found => ?_
    refine .skip (accept_onward _) found fun _ _ found => ?_
    refine .find (inline_block_takes traced) found fun body _ found => ?_
    refine .find ih found fun later _ found => .pure _ ?_
    simpa [elseIfPassages] using found.apart

theorem block_if_takes {start : Location} {condition : Expr} {tokens : List Token}
    (found : Found [] [condition.StandsIn] tokens) :
    Takes limit Any tokens (blockIf g start condition) fun s later =>
      Apart Any s.passages later := by
  have final : Finds limit (some <$> block g [.endIf]) otherwisePassages :=
    (block_takes traced _).map fun _ _ apart => apart
  have none : Finds limit (pure none) otherwisePassages := .pure none fun _ _ => trivial
  refine .skip line_end_onward found fun _ _ found => ?_
  refine .find (block_takes traced _) found fun body _ found => ?_
  refine .find (block_else_ifs_takes traced _) found fun elseIfs _ found => ?_
  refine .skip (accept_onward _) found fun more _ found => .ite (fun _ => ?_) fun _ => ?_
  · refine .skip line_end_onward found fun _ _ found =>
      .find final found fun otherwise _ found => ?_
    exact .skip (consume_onward _ _) found fun _ _ found => .finish found fun _ => by
      simp [Stmt.passages]
  · refine .find none found fun otherwise _ found => ?_
    exact .skip (consume_onward _ _) found fun _ _ found => .finish found fun _ => by
      simp [Stmt.passages]

theorem inline_if_takes {start : Location} {condition : Expr} {tokens : List Token}
    (found : Found [] [condition.StandsIn] tokens) :
    Takes limit Any tokens (inlineIf g start condition) fun s later =>
      Apart Any s.passages later := by
  have final : Finds limit (some <$> inlineBlock g) otherwisePassages :=
    (inline_block_takes traced).map fun _ _ apart => apart
  have none : Finds limit (pure none) otherwisePassages := .pure none fun _ _ => trivial
  refine .find (inline_block_takes traced) found fun body _ found => ?_
  refine .find (inline_else_ifs_takes traced _) found fun elseIfs _ found => ?_
  refine .skip (accept_onward _) found fun more _ found => ?_
  refine .find_ite final none found fun otherwise _ found => ?_
  exact .finish found fun _ => by simp [Stmt.passages]

theorem if_statement_takes : Finds limit (ifStatement g) Stmt.passages := by
  refine .skip advance_onward (found_nothing []) fun start _ found => ?_
  refine .find (condition_takes traced) found fun condition _ found => ?_
  refine .skip (accept_onward _) found fun _ _ found =>
    .skip (fun c => .refl c) found fun _ _ found => ?_
  exact .ite (fun _ => block_if_takes traced found) fun _ => inline_if_takes traced found

theorem loop_step_takes {stop : Expr} {earlier own : List Token} (stands : stop.StandsIn own) :
    Takes limit Any (earlier ++ own) (loopStep g) fun step tokens =>
      ∃ bounds, tokens = earlier ++ bounds ∧
        Bounding stop.StandsIn step.StandsIn step.IsUnitStep bounds := by
  have some : own ≠ [] := by
    obtain ⟨signs, rest, rfl, _, reads⟩ := stands
    simp [read_nonempty reads]
  refine .bind (.accept (by decide)) fun more _ taken => .ite (fun found => ?_) fun missing => ?_
  · rw [if_pos found] at taken
    obtain ⟨sign, _, rfl⟩ := taken
    refine ((expression_takes traced).frame _).gives_mono fun step _ ⟨rest, shape, steps⟩ => ?_
    refine ⟨own ++ sign :: rest, by simp [shape], .inl ?_⟩
    exact apart_cons stands (apart_behind [sign] (apart_single steps))
  · rw [if_neg (by simp [missing])] at taken
    subst taken
    refine .last (by simp [some]) fun last ends => .pure _ ⟨own, rfl, .inr ⟨stands, last, ?_, rfl⟩⟩
    simpa [List.getLast?_append, List.getLast?_eq_some_getLast some] using ends

theorem for_statement_takes : Finds limit (forStatement g) Stmt.passages := by
  refine .skip advance_onward (found_nothing []) fun start _ found => ?_
  refine .skip (consume_onward _ _) found fun counter _ found =>
    .skip (consume_onward _ _) found fun _ _ found => ?_
  refine .find (condition_takes traced) found fun first _ found => ?_
  refine .skip (consume_onward _ _) found fun _ earlier found => ?_
  refine .bind ((expression_takes traced).frame _) fun stop _ ⟨own, shape, stands⟩ => ?_
  subst shape
  refine .bind (loop_step_takes traced stands) fun step _ ⟨bounds, shape, bounding⟩ => ?_
  subst shape
  have found := found.append (apart_single bounding)
  refine .skip line_end_onward found fun _ _ found => ?_
  refine .find (block_takes traced _) found fun body _ found => ?_
  exact .skip loop_end_onward found fun _ _ found => .finish found fun _ => rfl

theorem for_each_statement_takes : Finds limit (forEachStatement g) Stmt.passages := by
  refine .skip advance_onward (found_nothing []) fun start _ found => ?_
  refine .skip (consume_onward _ _) found fun item _ found =>
    .skip (consume_onward _ _) found fun _ _ found => ?_
  refine .find (condition_takes traced) found fun target _ found =>
    .skip line_end_onward found fun _ _ found => ?_
  refine .find (block_takes traced _) found fun body _ found => ?_
  exact .skip loop_end_onward found fun _ _ found => .finish found fun _ => rfl

theorem while_statement_takes : Finds limit (whileStatement g) Stmt.passages := by
  refine .skip advance_onward (found_nothing []) fun start _ found => ?_
  refine .find (condition_takes traced) found fun condition _ found =>
    .skip line_end_onward found fun _ _ found => ?_
  refine .find (block_takes traced _) found fun body _ found =>
    .skip (consume_onward _ _) found fun _ _ found => ?_
  exact .finish found fun _ => rfl

theorem print_item_takes : Finds limit (printItem g) fun item => printPassages [item] := by
  refine .peek_kind fun kind => ?_
  split
  · exact .skip advance_onward (found_nothing []) fun _ _ found => .pure _ found.apart
  · exact .skip advance_onward (found_nothing []) fun _ _ found => .pure _ found.apart
  · exact .find (condition_takes traced) (found_nothing []) fun value _ found => .pure _ found.apart

theorem print_items_takes (bound : Nat) : Finds limit (printItems g bound) printPassages := by
  induction bound with
  | zero => exact .pure [] fun _ _ => trivial
  | succ bound ih =>
    refine .peek_kind fun kind => .ite (fun _ => .pure [] fun _ _ => trivial) fun _ => ?_
    refine .find (print_item_takes traced) (found_nothing []) fun item _ found => ?_
    refine .find ih found fun later _ found => .pure _ ?_
    cases item <;> exact found.apart

theorem print_statement_takes : Finds limit (printStatement g) Stmt.passages := by
  refine .skip advance_onward (found_nothing []) fun start _ found => ?_
  refine .find (print_items_takes traced g.bound) found fun items _ found => ?_
  exact .finish found fun _ => rfl

theorem return_statement_takes : Finds limit (returnStatement g) Stmt.passages := by
  have none : Finds limit (pure none) optionalPassages := .pure none fun _ _ => trivial
  have given : Finds limit (some <$> expression g) optionalPassages :=
    (condition_takes traced).map fun _ _ apart => apart
  refine .skip advance_onward (found_nothing []) fun start _ found => .peek_kind fun kind => ?_
  refine .find_ite none given found fun value _ found => ?_
  exact .finish found fun _ => rfl

theorem dim_statement_takes : Finds limit (dimStatement g) Stmt.passages := by
  have sizes : Finds limit (commaList (expression g) g.bound) passages :=
    (comma_list_takes (expression_takes traced) g.bound).gives_mono fun values _ apart => by
      rw [passages_eq_map]
      exact apart_mono apart fun _ _ => trivial
  refine .skip advance_onward (found_nothing []) fun start _ found => ?_
  refine .skip (consume_onward _ _) found fun name _ found =>
    .skip (consume_onward _ _) found fun _ _ found => ?_
  refine .find sizes found fun dimensions _ found =>
    .skip (consume_onward _ _) found fun _ _ found => ?_
  exact .finish found fun _ => rfl

theorem try_statement_takes : Finds limit (tryStatement g) Stmt.passages := by
  refine .skip advance_onward (found_nothing []) fun start _ found =>
    .skip line_end_onward found fun _ _ found => ?_
  refine .find (block_takes traced _) found fun body _ found =>
    .skip (consume_onward _ _) found fun _ _ found => ?_
  refine .skip (fun c => .refl c) found fun named _ found => .ite (fun _ => ?_) fun _ => ?_
  · exact .bind (.fail _) fun _ _ (never : False) => never.elim
  · refine .skip advance_onward found fun name _ found =>
      .skip line_end_onward found fun _ _ found => ?_
    refine .find (block_takes traced _) found fun handler _ found => ?_
    exact .skip (consume_onward _ _) found fun _ _ found => .finish found fun _ => rfl

theorem throw_statement_takes : Finds limit (throwStatement g) Stmt.passages := by
  refine .skip advance_onward (found_nothing []) fun start _ found => ?_
  refine .find (condition_takes traced) found fun value _ found => ?_
  exact .finish found fun _ => rfl

theorem expression_statement_takes : Finds limit (expressionStatement g) Stmt.passages := by
  refine (chain_takes traced).bind fun target head reads => .peek_kind fun kind => ?_
  split
  · rename_i op found
    refine .bind (.advance_at ?_) fun sign _ ⟨isSign, shape⟩ => ?_
    · rintro rfl
      cases found
    refine .bind ((expression_takes traced).frame _) fun value _ ⟨own, whole, stands⟩ => ?_
    subst shape whole
    rw [List.append_assoc]
    exact assignment_takes reads (isSign ▸ found) stands
  · rename_i op _ found
    refine step_statement_takes ?_ reads
    rintro rfl
    cases found
  · split
    · exact .pure _ (apart_single (read_stands reads))
    · exact .fail_at _ _

theorem statement_takes : Finds limit (statement g) Stmt.passages := by
  refine .peek fun token => ?_
  split
  · exact (if_statement_takes traced).anywhere
  · exact (for_statement_takes traced).anywhere
  · exact (for_each_statement_takes traced).anywhere
  · exact (while_statement_takes traced).anywhere
  · exact (print_statement_takes traced).anywhere
  · exact (return_statement_takes traced).anywhere
  · exact (dim_statement_takes traced).anywhere
  · refine .skip advance_onward (found_nothing []) fun start _ found => ?_
    refine .skip (consume_onward _ _) found fun label _ found => ?_
    exact .finish found fun _ => rfl
  · exact (try_statement_takes traced).anywhere
  · exact (throw_statement_takes traced).anywhere
  · exact .skip advance_onward (found_nothing []) fun word _ found => .pure _ found.apart
  · exact .skip advance_onward (found_nothing []) fun word _ found => .pure _ found.apart
  · exact .skip advance_onward (found_nothing []) fun word _ found => .pure _ found.apart
  · exact .skip advance_onward (found_nothing []) fun word _ found => .pure _ found.apart
  · refine .second_kind fun kind => .ite (fun _ => ?_) fun _ =>
      (expression_statement_takes traced).anywhere
    refine .skip advance_onward (found_nothing []) fun name _ found => ?_
    refine .skip advance_onward found fun _ _ found => ?_
    exact .finish found fun _ => rfl
  · exact (expression_statement_takes traced).anywhere
  · exact .fail _
  · exact .fail _
  · exact .fail _

theorem declaration_takes : Finds limit (declaration g) Stmt.passages := by
  refine .peek_kind fun kind => ?_
  refine .second_kind fun second => .ite (fun named => ?_) fun _ =>
    (statement_takes traced).anywhere
  rw [Bool.and_eq_true] at named
  have function := (function_literal_takes traced true).mono (Nat.le_refl _)
    (fun (next : Token) (same : next.kind = kind) => same ▸ named.1) fun _ _ given => given
  refine function.bind fun function _ ⟨_, opening, inner, closing, shape, _, _, apart⟩ => .pure _ ?_
  exact shape ▸ apart_behind [opening] (apart_trail apart fun _ _ => trivial)

theorem top_statement_takes (librariesAllowed : Bool) :
    Finds limit (topStatement g librariesAllowed) Stmt.passages := by
  have library : Finds limit libraryStatement Stmt.passages := by
    refine .skip advance_onward (found_nothing []) fun start _ found => ?_
    refine .skip (consume_onward _ _) found fun path _ found => ?_
    exact .finish found fun _ => rfl
  have top : Finds limit (topDeclaration g librariesAllowed) Stmt.passages := by
    refine .check ?_ (declaration_takes traced)
    cases librariesAllowed with
    | true => exact library.anywhere
    | false => exact .fail _
  rw [top_statement_eq]
  refine .find top (found_nothing []) fun statement _ found => ?_
  exact .skip separator_onward found fun _ _ found => .pure _ found.apart

theorem top_statements_takes (bound : Nat) (librariesAllowed : Bool) :
    Finds limit (topStatements g bound librariesAllowed) statementPassages := by
  induction bound generalizing librariesAllowed with
  | zero => exact .pure [] fun _ _ => trivial
  | succ bound ih =>
    have onward := (top_statement_tandem traced.matched librariesAllowed).onward
    refine .skip (skip_while_onward _) (found_nothing []) fun _ _ found => .peek_kind fun kind => ?_
    refine .ite (fun _ => .pure [] found.apart) fun _ => ?_
    refine .find ((top_statement_takes traced librariesAllowed).recover onward) found
      fun result _ found => ?_
    cases result with
    | none => exact ((ih _).next found).gives_mono fun _ _ found => found.apart
    | some statement => exact .find (ih _) found fun later _ found => .pure _ found.apart

end

theorem grammar_traced (bound depth : Nat) (some : 0 < bound) :
    (grammar bound depth).Traced bound := by
  have matched (depth : Nat) : Matched 0 (grammar bound depth) (grammar bound depth) :=
    grammar_matched bound bound depth depth some some (Nat.zero_le _) (Nat.zero_le _)
  induction depth with
  | zero => exact ⟨Nat.le_refl _, .fail_expected _, .fail_expected _, matched 0⟩
  | succ depth ih =>
    exact ⟨Nat.le_refl _, expression_takes ih, statement_takes ih, matched (depth + 1)⟩

end Parser

theorem parse_passages (tokens : List Token) :
    Apart Any (statementPassages (parse tokens).statements) tokens := by
  have traced := Parser.grammar_traced (tokens.length + 1) (tokens.length + 1) (Nat.succ_pos _)
  have short : (Parser.Cursor.start tokens).rest.length < tokens.length + 1 :=
    Nat.lt_succ_of_le (List.takeWhile_sublist _).length_le
  obtain ⟨statements, final, ran⟩ := Parser.top_statements_returns
    (Parser.grammar (tokens.length + 1) (tokens.length + 1)) (tokens.length + 1) true
      (Parser.Cursor.start tokens)
  obtain ⟨taken, took, apart⟩ := Parser.top_statements_takes traced (tokens.length + 1) true
    (Parser.Cursor.start tokens) statements final short (start_ends tokens) trivial rfl ran
  have shape : tokens = taken ++ (final.rest ++ tokens.dropWhile (·.kind != .eof)) := by
    rw [← List.append_assoc, ← took.reads]
    exact List.takeWhile_append_dropWhile.symm
  have parsed : (parse tokens).statements = statements := by
    rw [Parser.parse_eq, ran]
    rfl
  rw [parsed, shape]
  exact apart_trail apart fun _ _ => trivial

-- Not behind: on an earlier line, or on the same and no further along it.
def Position.Precedes (p q : Position) : Prop :=
  p.line < q.line ∨ p.line = q.line ∧ p.column ≤ q.column

theorem Position.Precedes.refl (p : Position) : p.Precedes p :=
  .inr ⟨rfl, Nat.le_refl _⟩

theorem Position.Precedes.trans {p q r : Position} (first : p.Precedes q) (second : q.Precedes r) :
    p.Precedes r := by
  unfold Precedes at *
  omega

theorem precedes_after (p : Position) (text : List Char) : p.Precedes (p.after text) := by
  induction text generalizing p with
  | nil => exact .refl p
  | cons c rest ih =>
    have step : p.Precedes (p.step c) := by
      unfold Position.Precedes Position.step
      split
      · exact .inl (Nat.lt_succ_self _)
      · exact .inr ⟨rfl, Nat.le_succ _⟩
    exact step.trans (ih _)

structure Location.Contains (outer inner : Location) : Prop where
  file : inner.file = outer.file
  start : outer.start.Precedes inner.start
  stop : inner.stop.Precedes outer.stop

-- Tokens of one file, none of which starts before those in front of it have ended.
structure InOrder (tokens : List Token) : Prop where
  forward : ∀ token ∈ tokens, token.location.start.Precedes token.location.stop
  apart : tokens.Pairwise fun a b => b.location.file = a.location.file ∧
    a.location.stop.Precedes b.location.start

theorem in_order_infix {part whole : List Token} (among : part <:+: whole)
    (inOrder : InOrder whole) : InOrder part where
  forward token member := inOrder.forward token (among.subset member)
  apart := inOrder.apart.sublist among.sublist

theorem located_in_order (file : String) (p : Position) (ps : List Lexer.Piece) :
    InOrder (Lexer.locate file p ps).tokens ∧
      ∀ token ∈ (Lexer.locate file p ps).tokens, token.location.file = file ∧
        p.Precedes token.location.start := by
  induction ps generalizing p with
  | nil =>
    refine ⟨⟨?_, List.pairwise_singleton _ _⟩, ?_⟩
    · exact List.forall_mem_singleton.2 (.refl p)
    · exact List.forall_mem_singleton.2 ⟨rfl, .refl p⟩
  | cons piece rest ih =>
    obtain ⟨inOrder, behind⟩ := ih (p.after piece.text)
    have onward := precedes_after p piece.text
    have later : ∀ token ∈ (Lexer.locate file (p.after piece.text) rest).tokens,
        token.location.file = file ∧ p.Precedes token.location.start := fun token member =>
      ⟨(behind token member).1, onward.trans (behind token member).2⟩
    cases reading : piece.reading with
    | token kind literal =>
      simp only [Lexer.locate, reading]
      refine ⟨⟨?_, ?_⟩, ?_⟩
      · exact List.forall_mem_cons.2 ⟨onward, inOrder.forward⟩
      · exact List.pairwise_cons.2 ⟨behind, inOrder.apart⟩
      · exact List.forall_mem_cons.2 ⟨⟨rfl, .refl p⟩, later⟩
    | fault _ | blank | comment =>
      simp only [Lexer.locate, reading]
      exact ⟨inOrder, later⟩

theorem scan_in_order (source file : String) : InOrder (scan source file).tokens :=
  (located_in_order file ⟨1, 1⟩ _).1

section

variable {outer inner : Location} {part whole gap : List Token}

theorem start_precedes (inOrder : InOrder (gap ++ part)) (starts : outer.StartsAt (gap ++ part))
    (within : inner.StartsAt part) :
    inner.file = outer.file ∧ outer.start.Precedes inner.start := by
  obtain ⟨first, found, file, start⟩ := starts
  obtain ⟨own, at_, ownFile, ownStart⟩ := within
  rw [file, start, ownFile, ownStart]
  cases gap with
  | nil =>
    obtain rfl : first = own := Option.some.inj (found.symm.trans at_)
    exact ⟨rfl, .refl _⟩
  | cons token rest =>
    obtain rfl : token = first := Option.some.inj found
    have before := (List.pairwise_cons.1 inOrder.apart).1 own
        (List.mem_append_right _ (List.mem_of_head? at_))
    exact ⟨before.1, (inOrder.forward token List.mem_cons_self).trans before.2⟩

theorem stop_precedes (inOrder : InOrder (part ++ gap)) (stops : outer.StopsAt (part ++ gap))
    (within : inner.StopsAt part) : inner.stop.Precedes outer.stop := by
  obtain ⟨last, found, stop⟩ := stops
  obtain ⟨own, at_, ownStop⟩ := within
  rw [stop, ownStop]
  rcases List.eq_nil_or_concat gap with rfl | ⟨rest, token, rfl⟩
  · rw [List.append_nil] at found
    obtain rfl : last = own := Option.some.inj (found.symm.trans at_)
    exact .refl _
  · obtain rfl : token = last := by simpa using found
    have before := (List.pairwise_append.1 inOrder.apart).2.2 own
        (List.mem_of_getLast? at_) token (by simp)
    exact before.2.trans (inOrder.forward token (by simp))

theorem spans_contains (inOrder : InOrder whole) (spans : outer.Spans whole)
    (among : part <:+: whole) (within : inner.Spans part) : outer.Contains inner := by
  obtain ⟨before, behind, rfl⟩ := among
  have starts : outer.StartsAt (before ++ (part ++ behind)) := by simpa using spans.starts
  have ordered : InOrder (before ++ (part ++ behind)) := by simpa using inOrder
  obtain ⟨file, start⟩ := start_precedes ordered starts (starts_append within.starts behind)
  exact ⟨file, start, stop_precedes inOrder spans.stops (stops_append within.stops before)⟩

theorem contains_pervades (inOrder : InOrder whole) (spans : outer.Spans whole) :
    Pervades (· <:+: whole) fun e => outer.Contains e.location where
  narrower _ _ narrow among := narrow.trans among
  closed _ _ _ reads among := spans_contains inOrder spans among (read_spans reads)
  opened _ _ opens among := spans_contains inOrder spans among (open_spans opens)
  implied token among := spans_contains inOrder spans among (spans_token token)

end

def Expr.ContainsParts (e : Expr) : Prop :=
  e.EveryNode (fun _ part => e.location.Contains part.location) none

theorem in_order_pervades : Pervades InOrder Expr.ContainsParts where
  narrower _ _ := in_order_infix
  closed e op? tokens reads inOrder :=
    read_every_node (contains_pervades inOrder (read_spans reads)) e op? tokens reads
      (List.infix_refl _) none
  opened e tokens opens inOrder :=
    open_every_node (contains_pervades inOrder (open_spans opens)) e tokens opens
      (List.infix_refl _)
  implied token inOrder :=
    spans_contains inOrder (spans_token token) (List.infix_refl _) (spans_token token)

/-- The expressions of a program are read from tokens of its scan, in their order and apart from one
another, and the location of each spans its tokens, but for an access by index, which stops before
its closing bracket, and for operations that end in one. The location of an expression contains
those of all expressions in it. -/
theorem expressions_span_tokens (source file : String) :
    Apart Any (statementPassages (parse (scan source file).tokens).statements)
      (scan source file).tokens ∧
      everyStatementNode (fun _ e => e.ContainsParts)
        (parse (scan source file).tokens).statements := by
  have apart := parse_passages (scan source file).tokens
  exact ⟨apart, statements_every_node in_order_pervades _ _ apart (scan_in_order source file)⟩

theorem access_without_bracket :
    let tokens := (scan "print a[1]" "main.brs").tokens
    ∃ access location own, (parse tokens).statements = [.print [.expression access] location] ∧
      own <:+: tokens ∧
      access.ReadFrom Parser.binaryOp? own ∧ ¬ access.location.Spans own := by
  intro tokens
  let place (start stop : Nat) : Location := ⟨"main.brs", ⟨1, start⟩, ⟨1, stop⟩⟩
  let object : Token := ⟨.identifier, "a", none, place 7 8⟩
  let opening : Token := ⟨.symbol .leftSquare, "[", none, place 8 9⟩
  let index : Token := ⟨.integer, "1", some (.integer 1), place 9 10⟩
  let closing : Token := ⟨.symbol .rightSquare, "]", none, place 10 11⟩
  have scanned : tokens =
      [⟨.word .print, "print", none, place 1 6⟩, object, opening, index, closing,
        Token.eofAt (place 11 11)] := by
    have text : Lexer.withoutMark "print a[1]".toList =
        ['p', 'r', 'i', 'n', 't', ' ', 'a', '[', '1', ']'] := by
      decide +kernel
    simp only [tokens, scan, text, Lexer.pieces]
    decide +kernel
  refine ⟨.index (.variable "a" (place 7 8)) (.literal (.integer 1) (place 9 10)) (place 7 10),
    place 1 11, [object, opening, index, closing], ?_, ⟨[_], [_], scanned.symm⟩, ?_, ?_⟩
  · rw [scanned]
    rfl
  · exact ⟨[object, opening, index], closing, rfl, rfl, ⟨⟨object, rfl, rfl, rfl⟩, index, rfl, rfl⟩,
      [object], opening, [index], rfl, read_stands ⟨index, rfl, rfl, rfl, spans_token index⟩,
      .inl ⟨rfl, object, rfl, rfl, rfl, spans_token object⟩⟩
  · rintro ⟨_, last, found, stop⟩
    cases found
    cases stop

end BrightScript
