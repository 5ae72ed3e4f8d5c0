import BrightScript.Proofs.Streaming
set_option autoImplicit false

namespace BrightScript

namespace Stream

variable (last : Location) (constants : Constants) (stack outer : List OpenIf) (kept : List Token)

theorem bind_ok {ε α β : Type} {x : Except ε α} {f : α → Except ε β} {b : β}
    (made : x >>= f = .ok b) : ∃ a, x = .ok a ∧ f a = .ok b := by
  cases x with
  | error e => cases made
  | ok a => exact ⟨a, rfl, made⟩

theorem map_ok {ε α β : Type} {x : Except ε α} {f : α → β} {b : β} (made : x.map f = .ok b) :
    ∃ a, x = .ok a ∧ f a = b := by
  cases x with
  | error e => cases made
  | ok a =>
    cases made
    exact ⟨a, rfl, rfl⟩

theorem expect_rest {part : DirectivePart} {accepted : Lexeme → Bool} {tokens rest : List Token}
    {token : Token} (read : ChunkReader.expect last part accepted tokens = .ok (token, rest)) :
    tokens = token :: rest := by
  cases tokens with
  | nil => cases read
  | cons first others =>
    by_cases fits : accepted first.kind = true
    · simp only [ChunkReader.expect, fits, if_true, Except.ok.injEq, Prod.mk.injEq] at read
      rw [read.1, read.2]
    · simp [ChunkReader.expect, fits] at read

theorem line_end_rest {tokens rest : List Token}
    (read : ChunkReader.lineEnd last tokens = .ok rest) : rest.length ≤ tokens.length := by
  unfold ChunkReader.lineEnd at read
  split at read
  · cases read
    exact Nat.le_refl _
  · obtain ⟨⟨token, others⟩, found, rfl⟩ := map_ok read
    rw [expect_rest last found]
    exact Nat.le_succ _

theorem condition_line_rest {tokens rest : List Token} {test : Token}
    (read : ChunkReader.conditionLine last tokens = .ok (test, rest)) :
    rest.length ≤ tokens.length := by
  obtain ⟨⟨token, others⟩, found, more⟩ := bind_ok read
  obtain ⟨ended, line, done⟩ := bind_ok more
  cases done
  rw [expect_rest last found]
  exact Nat.le_succ_of_le (line_end_rest last line)

theorem declaration_rest {tokens rest : List Token} {chunk : Chunk}
    (read : ChunkReader.declaration last tokens = .ok (chunk, rest)) :
    rest.length ≤ tokens.length := by
  obtain ⟨⟨name, afterName⟩, named, more⟩ := bind_ok read
  obtain ⟨⟨sign, afterSign⟩, signed, more⟩ := bind_ok more
  obtain ⟨⟨value, afterValue⟩, valued, more⟩ := bind_ok more
  obtain ⟨ended, line, done⟩ := bind_ok more
  cases done
  have short := line_end_rest last line
  have sizes : tokens = name :: sign :: value :: afterValue := by
    rw [expect_rest last named, expect_rest last signed, expect_rest last valued]
  rw [sizes]
  simp only [List.length_cons]
  omega

theorem failure_rest {location : Location} {tokens rest : List Token} {chunk : Chunk}
    (read : ChunkReader.failure last location tokens = .ok (chunk, rest)) :
    rest.length ≤ tokens.length := by
  unfold ChunkReader.failure at read
  split at read
  · split at read
    · obtain ⟨ended, line, done⟩ := map_ok read
      cases done
      exact Nat.le_succ_of_le (line_end_rest last line)
    · obtain ⟨ended, line, done⟩ := map_ok read
      cases done
      exact line_end_rest last line
  · cases read
    exact Nat.le_refl _

structure Forward (fuel : Nat) : Prop where
  chunks : ∀ nested tokens cs rest, ChunkReader.chunks last fuel nested tokens = .ok (cs, rest) →
    rest.length ≤ tokens.length ∧
      if nested then closing rest = true else ChunkReader.headKind rest = .eof
  branches : ∀ tokens bs rest, ChunkReader.branches last fuel tokens = .ok (bs, rest) →
    closing tokens = true → rest.length ≤ tokens.length ∧ closing rest = true ∧
      ChunkReader.headKind rest ≠ .directive .elseIf
  otherwise : ∀ tokens o rest, ChunkReader.elseBranch last fuel tokens = .ok (o, rest) →
    closing tokens = true → ChunkReader.headKind tokens ≠ .directive .elseIf →
      rest.length ≤ tokens.length ∧ closing rest = true ∧
        (o.isSome = false → ChunkReader.headKind rest = .directive .endIf)

theorem at_closing {nested : Bool} {tokens final : List Token} {cs : List Chunk}
    {e : DirectiveError} (closes : closing tokens = true)
    (read : (if nested then .ok ([], tokens) else .error e : Except _ _) = .ok (cs, final)) :
    final.length ≤ tokens.length ∧
      if nested then closing final = true else ChunkReader.headKind final = .eof := by
  cases nested with
  | true =>
    cases read
    exact ⟨Nat.le_refl _, closes⟩
  | false => cases read

theorem chunks_forward {fuel : Nat} (ih : Forward last fuel) (nested : Bool) (tokens : List Token)
    (cs : List Chunk) (final : List Token)
    (read : ChunkReader.chunks last (fuel + 1) nested tokens = .ok (cs, final)) :
    final.length ≤ tokens.length ∧
      if nested then closing final = true else ChunkReader.headKind final = .eof := by
  cases tokens with
  | nil =>
    cases nested with
    | true => cases read
    | false =>
      cases read
      exact ⟨Nat.le_refl _, rfl⟩
  | cons token rest =>
    unfold ChunkReader.chunks at read
    split at read
    · rename_i ended
      cases nested with
      | true => cases read
      | false =>
        cases read
        exact ⟨Nat.le_refl _, ended⟩
    · obtain ⟨⟨chunk, afterChunk⟩, first, more⟩ := bind_ok read
      obtain ⟨⟨later, afterAll⟩, others, done⟩ := bind_ok more
      cases done
      have step := declaration_rest last first
      have through := ih.chunks nested _ _ _ others
      exact ⟨by simp only [List.length_cons]; omega, through.2⟩
    · obtain ⟨⟨chunk, afterChunk⟩, first, more⟩ := bind_ok read
      obtain ⟨⟨later, afterAll⟩, others, done⟩ := bind_ok more
      cases done
      have step := failure_rest last first
      have through := ih.chunks nested _ _ _ others
      exact ⟨by simp only [List.length_cons]; omega, through.2⟩
    · obtain ⟨⟨test, afterTest⟩, tested, more⟩ := bind_ok read
      obtain ⟨⟨body, afterBody⟩, main, more⟩ := bind_ok more
      obtain ⟨⟨bs, afterBranches⟩, branched, more⟩ := bind_ok more
      obtain ⟨⟨o, afterElse⟩, elsed, more⟩ := bind_ok more
      obtain ⟨⟨close, afterClose⟩, closed, more⟩ := bind_ok more
      obtain ⟨afterLine, line, more⟩ := bind_ok more
      obtain ⟨⟨later, afterAll⟩, others, done⟩ := bind_ok more
      cases done
      have testLength := condition_line_rest last tested
      have bodyRest := ih.chunks true _ _ _ main
      have branchRest := ih.branches _ _ _ branched bodyRest.2
      have elseRest := ih.otherwise _ _ _ elsed branchRest.2.1 branchRest.2.2
      have closeLength := congrArg List.length (expect_rest last closed)
      have lineLength := line_end_rest last line
      have through := ih.chunks nested _ _ _ others
      refine ⟨?_, through.2⟩
      have bodyLength := bodyRest.1
      have branchLength := branchRest.1
      have elseLength := elseRest.1
      have laterLength := through.1
      simp only [List.length_cons] at *
      omega
    · rename_i kind
      exact at_closing (by simp [closing, ChunkReader.headKind, kind]) read
    · rename_i kind
      exact at_closing (by simp [closing, ChunkReader.headKind, kind]) read
    · rename_i kind
      exact at_closing (by simp [closing, ChunkReader.headKind, kind]) read
    · obtain ⟨⟨later, afterAll⟩, others, done⟩ := bind_ok read
      cases done
      have through := ih.chunks nested _ _ _ others
      have dropped := (List.dropWhile_sublist ChunkReader.isOrdinary (l := rest)).length_le
      exact ⟨by simp only [List.length_cons]; omega, through.2⟩

theorem branches_forward {fuel : Nat} (ih : Forward last fuel) (tokens : List Token)
    (bs : List Branch) (final : List Token)
    (read : ChunkReader.branches last (fuel + 1) tokens = .ok (bs, final))
    (closes : closing tokens = true) :
    final.length ≤ tokens.length ∧ closing final = true ∧
      ChunkReader.headKind final ≠ .directive .elseIf := by
  cases tokens with
  | nil => cases closes
  | cons token rest =>
    unfold ChunkReader.branches at read
    split at read
    · obtain ⟨⟨test, afterTest⟩, tested, more⟩ := bind_ok read
      obtain ⟨⟨body, afterBody⟩, main, more⟩ := bind_ok more
      obtain ⟨⟨later, afterAll⟩, others, done⟩ := bind_ok more
      cases done
      have testLength := condition_line_rest last tested
      have bodyRest := ih.chunks true _ _ _ main
      have through := ih.branches _ _ _ others bodyRest.2
      have bodyLength := bodyRest.1
      have laterLength := through.1
      refine ⟨?_, through.2⟩
      simp only [List.length_cons] at *
      omega
    · rename_i other
      cases read
      exact ⟨Nat.le_refl _, closes, other⟩

theorem else_forward {fuel : Nat} (ih : Forward last fuel) (tokens : List Token)
    (o : Option (List Chunk)) (final : List Token)
    (read : ChunkReader.elseBranch last (fuel + 1) tokens = .ok (o, final))
    (closes : closing tokens = true) (other : ChunkReader.headKind tokens ≠ .directive .elseIf) :
    final.length ≤ tokens.length ∧ closing final = true ∧
      (o.isSome = false → ChunkReader.headKind final = .directive .endIf) := by
  cases tokens with
  | nil => cases closes
  | cons token rest =>
    unfold ChunkReader.elseBranch at read
    split at read
    · obtain ⟨afterLine, line, more⟩ := bind_ok read
      obtain ⟨⟨body, afterBody⟩, main, done⟩ := bind_ok more
      cases done
      have lineLength := line_end_rest last line
      have bodyRest := ih.chunks true _ _ _ main
      have bodyLength := bodyRest.1
      refine ⟨?_, bodyRest.2, fun none => nomatch none⟩
      simp only [List.length_cons] at *
      omega
    · rename_i notElse
      cases read
      refine ⟨Nat.le_refl _, closes, fun _ => ?_⟩
      rcases closing_cases closes with kind | kind | kind
      · exact absurd kind other
      · exact absurd kind notElse
      · exact kind

theorem reads_forward (fuel : Nat) : Forward last fuel := by
  induction fuel with
  | zero =>
    exact ⟨fun _ _ _ _ read => (nomatch read), fun _ _ _ read => (nomatch read),
      fun _ _ _ read => (nomatch read)⟩
  | succ fuel ih => exact ⟨chunks_forward last ih, branches_forward last ih, else_forward last ih⟩

def branched (decided : Bool) (bs : List Branch) : Option Reader :=
  if allTaken outer && !decided then
    (Chunk.selectBranch constants bs).toOption.map fun
      | some (tokens, after) => between after (⟨false, true, false⟩ :: outer) (kept ++ tokens)
      | none => between constants (⟨false, false, false⟩ :: outer) kept
  else some (between constants (⟨false, decided, false⟩ :: outer) kept)

def elsed (decided : Bool) (o : Option (List Chunk)) : Option Reader :=
  if allTaken outer && !decided then
    (Chunk.selectElse constants o).toOption.map fun (tokens, after) =>
      between after (⟨false, o.isSome, o.isSome⟩ :: outer) (kept ++ tokens)
  else some (between constants (⟨false, decided || o.isSome, o.isSome⟩ :: outer) kept)

-- What the reading of chunks leaves to the reader that reads them in one pass.
structure Alike (fuel : Nat) : Prop where
  chunks : ∀ nested tokens constants stack kept, tokens.length < fuel → nested = !stack.isEmpty →
    (between constants stack kept).run tokens =
      (ChunkReader.chunks last fuel nested tokens).toOption.bind fun (cs, rest) =>
        (behind constants stack kept (Chunk.selectAll · cs)).bind fun r => r.run rest
  branches : ∀ tokens constants outer kept decided, tokens.length < fuel → closing tokens = true →
    (between constants (⟨false, decided, false⟩ :: outer) kept).run tokens =
      (ChunkReader.branches last fuel tokens).toOption.bind fun (bs, rest) =>
        (branched constants outer kept decided bs).bind fun r => r.run rest
  otherwise : ∀ tokens constants outer kept decided, tokens.length < fuel → closing tokens = true →
    (between constants (⟨false, decided, false⟩ :: outer) kept).run tokens =
      (ChunkReader.elseBranch last fuel tokens).toOption.bind fun (o, rest) =>
        (elsed constants outer kept decided o).bind fun r => r.run rest

theorem behind_some {select : Constants → Except DirectiveError (List Token × Constants)}
    {r : Reader} (made : behind constants stack kept select = some r) :
    r = between r.constants stack r.kept := by
  unfold behind at made
  split at made
  · obtain ⟨_, _, rfl⟩ := Option.map_eq_some_iff.1 made
    rfl
  · cases made
    rfl

theorem run_cons {fuel : Nat} (ih : Alike last fuel) (nested : Bool) (chunk : Chunk)
    (rest : List Token) (enough : rest.length < fuel) (inside : nested = !stack.isEmpty) :
    ((behind constants stack kept (Chunk.select · chunk)).bind fun r => r.run rest) =
      (ChunkReader.chunks last fuel nested rest).toOption.bind fun (later, final) =>
        (behind constants stack kept (Chunk.selectAll · (chunk :: later))).bind fun r =>
          r.run final := by
  simp only [behind_cons]
  cases first : behind constants stack kept (Chunk.select · chunk) with
  | none => simp
  | some r =>
    have shape := behind_some constants stack kept first
    rw [shape]
    exact ih.chunks nested rest r.constants stack r.kept enough inside

theorem ok_of_to_option {ε α : Type} {x : Except ε α} {a : α} (found : x.toOption = some a) :
    x = .ok a := by
  cases x with
  | error e => cases found
  | ok b =>
    cases found
    rfl

theorem run_end (top : OpenIf) (tokens : List Token) (closes : closing tokens = true)
    (only : top.last = false → ChunkReader.headKind tokens = .directive .endIf) :
    (between constants (top :: outer) kept).run tokens =
      (ChunkReader.expect last .endIf (· == .directive .endIf) tokens).toOption.bind
        fun (_, rest) =>
        (ChunkReader.lineEnd last rest).toOption.bind (between constants outer kept).run := by
  cases tokens with
  | nil => cases closes
  | cons token rest =>
    by_cases close : token.kind = .directive .endIf
    · simp [Reader.run, Reader.step, Reader.fresh, close, ChunkReader.expect, run_line_end last]
    · obtain ⟨taken, decided, final⟩ := top
      have ended : final = true := by
        cases final with
        | true => rfl
        | false => exact absurd (only rfl) close
      subst ended
      rcases closing_cases closes with kind | kind | kind
      · simp [Reader.run, Reader.step, Reader.fresh, kind, ChunkReader.expect]
      · simp [Reader.run, Reader.step, Reader.fresh, kind, ChunkReader.expect]
      · exact absurd kind close

def selectOthers (bs : List Branch) (o : Option (List Chunk)) (constants : Constants) :
    Except DirectiveError (List Token × Constants) := do
  match ← Chunk.selectBranch constants bs with
  | some taken => pure taken
  | none => Chunk.selectElse constants o

def behindUnless (decided : Bool)
    (select : Constants → Except DirectiveError (List Token × Constants)) : Option Reader :=
  if decided then some (between constants outer kept) else behind constants outer kept select

theorem behind_unless_skipped {decided : Bool} (skipped : (allTaken outer && !decided) = false)
    (select : Constants → Except DirectiveError (List Token × Constants)) :
    behindUnless constants outer kept decided select = some (between constants outer kept) := by
  cases decided with
  | true => rfl
  | false =>
    have passed : allTaken outer = false := by simpa using skipped
    simp [behindUnless, behind, passed]

theorem run_else_to_end {fuel : Nat} (ih : Alike last fuel) (decided : Bool) (tokens : List Token)
    (enough : tokens.length < fuel) (closes : closing tokens = true)
    (other : ChunkReader.headKind tokens ≠ .directive .elseIf) :
    (between constants (⟨false, decided, false⟩ :: outer) kept).run tokens =
      (ChunkReader.elseBranch last fuel tokens).toOption.bind fun (o, afterElse) =>
        (ChunkReader.expect last .endIf (· == .directive .endIf) afterElse).toOption.bind
          fun (_, afterEnd) =>
            (ChunkReader.lineEnd last afterEnd).toOption.bind fun rest =>
              (behindUnless constants outer kept decided (Chunk.selectElse · o)).bind fun r =>
                r.run rest := by
  rw [ih.otherwise tokens constants outer kept decided enough closes]
  refine Option.bind_congr fun pair read => ?_
  obtain ⟨o, afterElse⟩ := pair
  obtain ⟨_, closesElse, only⟩ :=
    (reads_forward last fuel).otherwise tokens o afterElse (ok_of_to_option read) closes other
  have ended (constants : Constants) (kept : List Token) (decided : Bool) :=
    run_end last constants outer kept ⟨false, decided, o.isSome⟩ afterElse closesElse only
  unfold elsed
  by_cases reached : (allTaken outer && !decided) = true
  · obtain ⟨taken, undecided⟩ : allTaken outer = true ∧ decided = false := by simpa using reached
    cases chosen : (Chunk.selectElse constants o).toOption with
    | none => simp [taken, undecided, behindUnless, behind, chosen]
    | some pair => simp [taken, undecided, behindUnless, behind, chosen, ended]
  · have skipped : (allTaken outer && !decided) = false := by simpa using reached
    simp only [skipped, behind_unless_skipped constants outer kept skipped, ended, Option.bind_some,
      Bool.false_eq_true, if_false]

theorem run_others {fuel : Nat} (ih : Alike last fuel) (decided : Bool) (tokens : List Token)
    (enough : tokens.length < fuel) (closes : closing tokens = true) :
    (between constants (⟨false, decided, false⟩ :: outer) kept).run tokens =
      (ChunkReader.branches last fuel tokens).toOption.bind fun (bs, afterBranches) =>
        (ChunkReader.elseBranch last fuel afterBranches).toOption.bind fun (o, afterElse) =>
          (ChunkReader.expect last .endIf (· == .directive .endIf) afterElse).toOption.bind
            fun (_, afterEnd) =>
              (ChunkReader.lineEnd last afterEnd).toOption.bind fun rest =>
                (behindUnless constants outer kept decided (selectOthers bs o)).bind fun r =>
                  r.run rest := by
  rw [ih.branches tokens constants outer kept decided enough closes]
  refine Option.bind_congr fun pair read => ?_
  obtain ⟨bs, afterBranches⟩ := pair
  obtain ⟨shorter, closesBranches, other⟩ :=
    (reads_forward last fuel).branches tokens bs afterBranches (ok_of_to_option read) closes
  have ended (constants : Constants) (kept : List Token) (decided : Bool) :=
    run_else_to_end last constants outer kept ih decided afterBranches
      (by omega) closesBranches other
  unfold branched
  by_cases reached : (allTaken outer && !decided) = true
  · obtain ⟨taken, undecided⟩ : allTaken outer = true ∧ decided = false := by simpa using reached
    cases chosen : (Chunk.selectBranch constants bs).toOption with
    | none => simp [taken, undecided, behindUnless, behind, selectOthers, chosen]
    | some choice =>
      cases choice with
      | none => simp [taken, undecided, behindUnless, behind, selectOthers, chosen, ended]
      | some pair => simp [taken, undecided, behindUnless, behind, selectOthers, chosen, ended]
  · have skipped : (allTaken outer && !decided) = false := by simpa using reached
    simp only [skipped, behind_unless_skipped constants outer kept skipped, ended, Option.bind_some,
      Bool.false_eq_true, if_false]

@[simp] theorem all_taken_cons (top : OpenIf) :
    allTaken (top :: outer) = (top.taken && allTaken outer) := rfl

def entered (decided : Bool) (test : Token) (body : List Chunk) : Option Reader :=
  if allTaken outer && !decided then
    (value? constants test).bind fun
      | true => (Chunk.selectAll constants body).toOption.map fun (tokens, after) =>
        between after (⟨false, true, false⟩ :: outer) (kept ++ tokens)
      | false => some (between constants (⟨false, false, false⟩ :: outer) kept)
  else some (between constants (⟨false, decided, false⟩ :: outer) kept)

theorem run_branch {fuel : Nat} (ih : Alike last fuel) (decided : Bool) (test : Token)
    (tokens : List Token) (enough : tokens.length < fuel) :
    ((opened constants outer kept decided test).bind fun r => r.run tokens) =
      (ChunkReader.chunks last fuel true tokens).toOption.bind fun (body, rest) =>
        (entered constants outer kept decided test body).bind fun r => r.run rest := by
  have inside (top : OpenIf) := ih.chunks true tokens constants (top :: outer) kept enough rfl
  have ended (body : List Chunk) (rest : List Token)
      (read : (ChunkReader.chunks last fuel true tokens).toOption = some (body, rest))
      (constants : Constants) (kept : List Token) (decided : Bool) :
      (between constants (⟨true, decided, false⟩ :: outer) kept).run rest =
        (between constants (⟨false, decided, false⟩ :: outer) kept).run rest := by
    have closes := ((reads_forward last fuel).chunks true tokens body rest (ok_of_to_option read)).2
    exact run_closing constants outer kept true decided false rest closes
  by_cases reached : (allTaken outer && !decided) = true
  · cases holds : value? constants test with
    | none => simp [opened, entered, reached, holds]
    | some value =>
      simp only [opened, reached, holds, if_true, Option.map_some, Option.bind_some, inside]
      refine Option.bind_congr fun pair read => ?_
      obtain ⟨taken, undecided⟩ : allTaken outer = true ∧ decided = false := by simpa using reached
      cases value with
      | true =>
        cases chosen : (Chunk.selectAll constants pair.1).toOption with
        | none => simp [entered, taken, undecided, holds, behind, chosen]
        | some made =>
          simp [entered, taken, undecided, holds, behind, chosen, ended pair.1 pair.2 read]
      | false => simp [entered, taken, undecided, holds, behind]
  · have skipped : (allTaken outer && !decided) = false := by simpa using reached
    simp only [opened, skipped, Bool.false_eq_true, if_false, Option.bind_some, inside]
    refine Option.bind_congr fun pair read => ?_
    simp [entered, skipped, behind]

theorem branches_alike {fuel : Nat} (ih : Alike last fuel) (tokens : List Token)
    (constants : Constants) (outer : List OpenIf) (kept : List Token) (decided : Bool)
    (enough : tokens.length < fuel + 1) (closes : closing tokens = true) :
    (between constants (⟨false, decided, false⟩ :: outer) kept).run tokens =
      (ChunkReader.branches last (fuel + 1) tokens).toOption.bind fun (bs, rest) =>
        (branched constants outer kept decided bs).bind fun r => r.run rest := by
  cases tokens with
  | nil => cases closes
  | cons token rest =>
    by_cases kind : token.kind = .directive .elseIf
    · simp only [Reader.run, kind, reduceCtorEq, if_false, Reader.step, Reader.fresh,
        Option.bind_some, run_else_if_line last, ChunkReader.branches, if_true, to_option_bind,
        to_option_pure, Option.bind_assoc]
      refine Option.bind_congr fun pair tested => ?_
      have testLength := condition_line_rest last (ok_of_to_option tested)
      simp only [List.length_cons] at enough
      rw [run_branch last constants outer kept ih decided pair.1 pair.2 (by omega)]
      refine Option.bind_congr fun body read => ?_
      obtain ⟨shorter, closing⟩ :=
        (reads_forward last fuel).chunks true _ _ _ (ok_of_to_option read)
      have later (constants : Constants) (kept : List Token) (decided : Bool) :=
        ih.branches body.2 constants outer kept decided (by omega) closing
      by_cases reached : (allTaken outer && !decided) = true
      · obtain ⟨taken, undecided⟩ : allTaken outer = true ∧ decided = false := by
          simpa using reached
        cases holds : value? constants pair.1 with
        | none => simp [entered, branched, taken, undecided, holds, Chunk.selectBranch, truth_eq]
        | some value =>
          cases value with
          | true =>
            cases chosen : (Chunk.selectAll constants body.1).toOption with
            | none =>
              simp [entered, branched, taken, undecided, holds, Chunk.selectBranch,
                truth_eq, chosen]
            | some made =>
              simp [entered, branched, taken, undecided, holds, Chunk.selectBranch, truth_eq,
                chosen, later]
          | false =>
            simp [entered, branched, taken, undecided, holds, Chunk.selectBranch, truth_eq, later]
      · have skipped : (allTaken outer && !decided) = false := by simpa using reached
        simp [entered, skipped, branched, later]
    · have none : branched constants outer kept decided [] =
          some (between constants (⟨false, decided, false⟩ :: outer) kept) := by
        cases decided <;> simp [branched, Chunk.selectBranch]
      simp [ChunkReader.branches, kind, none]

theorem else_alike {fuel : Nat} (ih : Alike last fuel) (tokens : List Token)
    (constants : Constants) (outer : List OpenIf) (kept : List Token) (decided : Bool)
    (enough : tokens.length < fuel + 1) (closes : closing tokens = true) :
    (between constants (⟨false, decided, false⟩ :: outer) kept).run tokens =
      (ChunkReader.elseBranch last (fuel + 1) tokens).toOption.bind fun (o, rest) =>
        (elsed constants outer kept decided o).bind fun r => r.run rest := by
  cases tokens with
  | nil => cases closes
  | cons token rest =>
    by_cases kind : token.kind = .directive .else_
    · simp only [Reader.run, kind, reduceCtorEq, if_false, Reader.step, Reader.fresh,
        Option.bind_some, run_line_end last, ChunkReader.elseBranch, if_true, to_option_bind,
        to_option_pure, Option.bind_assoc]
      refine Option.bind_congr fun afterLine line => ?_
      have lineLength := line_end_rest last (ok_of_to_option line)
      simp only [List.length_cons] at enough
      rw [ih.chunks true afterLine constants (⟨!decided, true, true⟩ :: outer) kept (by omega) rfl]
      refine Option.bind_congr fun body read => ?_
      have closing := ((reads_forward last fuel).chunks true _ _ _ (ok_of_to_option read)).2
      have ended (constants : Constants) (kept : List Token) (taken : Bool) :=
        run_closing constants outer kept taken true true body.2 closing
      by_cases reached : (allTaken outer && !decided) = true
      · obtain ⟨taken, undecided⟩ : allTaken outer = true ∧ decided = false := by
          simpa using reached
        cases chosen : (Chunk.selectAll constants body.1).toOption with
        | none => simp [behind, elsed, taken, undecided, Chunk.selectElse, chosen]
        | some made =>
          simp [behind, elsed, taken, undecided, Chunk.selectElse, chosen, ended _ _ true]
      · have skipped : (!decided && allTaken outer) = false := by
          rw [Bool.and_comm]
          simpa using reached
        simp [behind, elsed, skipped, Bool.and_comm (allTaken outer), ended _ _ (!decided)]
    · have none : elsed constants outer kept decided none =
          some (between constants (⟨false, decided, false⟩ :: outer) kept) := by
        cases decided <;> simp [elsed, Chunk.selectElse]
      simp [ChunkReader.elseBranch, kind, none]

theorem select_conditional (test : Token) (body : List Chunk) (bs : List Branch)
    (o : Option (List Chunk)) (location : Location) :
    (Chunk.select constants (.conditional test body bs o location)).toOption =
      (value? constants test).bind fun holds =>
        if holds then (Chunk.selectAll constants body).toOption
        else (selectOthers bs o constants).toOption := by
  simp only [Chunk.select, to_option_bind, truth_eq]
  refine Option.bind_congr fun holds _ => ?_
  cases holds <;> rfl

theorem run_conditional {fuel : Nat} (ih : Alike last fuel) (test : Token) (body : List Chunk)
    (location : Location → Location) (tokens : List Token) (enough : tokens.length < fuel)
    (closes : closing tokens = true) :
    ((entered constants stack kept false test body).bind fun r => r.run tokens) =
      (ChunkReader.branches last fuel tokens).toOption.bind fun (bs, afterBranches) =>
        (ChunkReader.elseBranch last fuel afterBranches).toOption.bind fun (o, afterElse) =>
          (ChunkReader.expect last .endIf (· == .directive .endIf) afterElse).toOption.bind
            fun (close, afterEnd) =>
              (ChunkReader.lineEnd last afterEnd).toOption.bind fun rest =>
                (behind constants stack kept (Chunk.select ·
                  (.conditional test body bs o (location close.location)))).bind fun r =>
                    r.run rest := by
  have ended (constants : Constants) (kept : List Token) (decided : Bool) :=
    run_others last constants stack kept ih decided tokens enough closes
  by_cases reached : allTaken stack = true
  · cases holds : value? constants test with
    | none => simp [entered, behind, reached, holds, select_conditional]
    | some value =>
      cases value with
      | true =>
        cases chosen : (Chunk.selectAll constants body).toOption with
        | none => simp [entered, behind, reached, holds, select_conditional, chosen]
        | some made =>
          simp [entered, behind, reached, holds, select_conditional, chosen, ended, behindUnless]
      | false =>
        simp [entered, behind, reached, holds, select_conditional, ended, behindUnless]
  · simp [entered, behind, reached, ended, behindUnless]

theorem chunks_alike {fuel : Nat} (ih : Alike last fuel) (nested : Bool) (tokens : List Token)
    (constants : Constants) (stack : List OpenIf) (kept : List Token)
    (enough : tokens.length < fuel + 1) (inside : nested = !stack.isEmpty) :
    (between constants stack kept).run tokens =
      (ChunkReader.chunks last (fuel + 1) nested tokens).toOption.bind fun (cs, rest) =>
        (behind constants stack kept (Chunk.selectAll · cs)).bind fun r => r.run rest := by
  subst inside
  cases tokens with
  | nil => cases stack <;> simp [ChunkReader.chunks, behind_nothing, Reader.run, Reader.finish]
  | cons token rest =>
    simp only [List.length_cons] at enough
    unfold ChunkReader.chunks
    split
    · rename_i kind
      cases stack <;> simp [kind, behind_nothing, Reader.run, Reader.finish]
    · rename_i kind
      simp only [Reader.run, kind, reduceCtorEq, if_false, Reader.step, Reader.fresh,
        Option.bind_some, run_declaration last, to_option_bind, to_option_pure, Option.bind_assoc]
      refine Option.bind_congr fun pair read => ?_
      have length := declaration_rest last (ok_of_to_option read)
      exact run_cons last constants stack kept ih _ pair.1 pair.2 (by omega) rfl
    · rename_i kind
      rw [run_failure last constants stack kept token kind rest]
      simp only [to_option_bind, to_option_pure, Option.bind_assoc, Option.bind_some]
      refine Option.bind_congr fun pair read => ?_
      have length := failure_rest last (ok_of_to_option read)
      exact run_cons last constants stack kept ih _ pair.1 pair.2 (by omega) rfl
    · rename_i kind
      simp only [Reader.run, kind, reduceCtorEq, if_false, Reader.step, Reader.fresh,
        Option.bind_some, run_if_line last, to_option_bind, to_option_pure, Option.bind_assoc]
      refine Option.bind_congr fun head tested => ?_
      obtain ⟨test, afterTest⟩ := head
      have testLength := condition_line_rest last (ok_of_to_option tested)
      rw [run_branch last constants stack kept ih false test afterTest (by omega)]
      refine Option.bind_congr fun main read => ?_
      obtain ⟨body, afterBody⟩ := main
      obtain ⟨bodyLength, closes⟩ :=
        (reads_forward last fuel).chunks true _ _ _ (ok_of_to_option read)
      dsimp only
      rw [run_conditional last constants stack kept ih test body token.location.through afterBody
        (by omega) closes]
      refine Option.bind_congr fun others branched => ?_
      obtain ⟨bs, afterBranches⟩ := others
      obtain ⟨branchLength, closing, other⟩ :=
        (reads_forward last fuel).branches _ _ _ (ok_of_to_option branched) closes
      refine Option.bind_congr fun otherwise elsed => ?_
      obtain ⟨o, afterElse⟩ := otherwise
      have elseLength :=
        ((reads_forward last fuel).otherwise _ _ _ (ok_of_to_option elsed) closing other).1
      refine Option.bind_congr fun finish closed => ?_
      obtain ⟨close, afterEnd⟩ := finish
      have endLength := congrArg List.length (expect_rest last (ok_of_to_option closed))
      refine Option.bind_congr fun afterLine line => ?_
      have lineLength := line_end_rest last (ok_of_to_option line)
      simp only [List.length_cons] at endLength
      exact run_cons last constants stack kept ih _ _ afterLine (by omega) rfl
    · rename_i kind
      cases stack <;> simp [kind, behind_nothing, Reader.run, Reader.step, Reader.fresh]
    · rename_i kind
      cases stack <;> simp [kind, behind_nothing, Reader.run, Reader.step, Reader.fresh]
    · rename_i kind
      cases stack <;> simp [kind, behind_nothing, Reader.run, Reader.step, Reader.fresh]
    · have ordinary : ChunkReader.isOrdinary token = true := by
        cases kind : token.kind with
        | eof => simp_all
        | directive directive => cases directive <;> simp_all
        | symbol | identifier | string | integer | longInteger | float | double | message | word
        | newline => simp [ChunkReader.isOrdinary, Lexeme.isDirective, kind]
      have parts : token :: rest = (token :: rest.takeWhile ChunkReader.isOrdinary) ++
          rest.dropWhile ChunkReader.isOrdinary := by simp
      have allOrdinary : ∀ other ∈ token :: rest.takeWhile ChunkReader.isOrdinary,
          ChunkReader.isOrdinary other = true := by
        intro other member
        rcases List.mem_cons.1 member with same | later
        · exact same ▸ ordinary
        · exact List.all_eq_true.1 List.all_takeWhile other later
      have dropped := (List.dropWhile_sublist ChunkReader.isOrdinary (l := rest)).length_le
      rw [parts, run_ordinary constants stack kept _ _ allOrdinary]
      simp only [to_option_bind, to_option_pure, Option.bind_assoc, Option.bind_some]
      exact run_cons last constants stack kept ih _ _ _ (by omega) rfl

theorem reads_alike (fuel : Nat) : Alike last fuel := by
  induction fuel with
  | zero =>
    exact ⟨fun _ _ _ _ _ enough => absurd enough (Nat.not_lt_zero _),
      fun _ _ _ _ _ enough => absurd enough (Nat.not_lt_zero _),
      fun _ _ _ _ _ enough => absurd enough (Nat.not_lt_zero _)⟩
  | succ fuel ih =>
    exact ⟨chunks_alike last ih, branches_alike last ih, else_alike last ih⟩

end Stream

theorem stream_eq (tokens : List Token) (constants : Constants) :
    stream tokens constants =
      (parseChunks tokens).toOption.bind fun chunks =>
        (Chunk.selectAll constants chunks).toOption.map (·.1) := by
  unfold parseChunks
  dsimp only
  generalize tokens.getLast?.elim Location.internal Token.location = last
  have alike := (Stream.reads_alike last (tokens.length + 1)).chunks false tokens constants [] []
    (Nat.lt_succ_self _) rfl
  rw [stream, alike, Stream.to_option_map, Option.bind_map]
  refine Option.bind_congr fun parsed read => ?_
  obtain ⟨chunks, rest⟩ := parsed
  have ended := ((Stream.reads_forward last _).chunks _ _ _ _ (Stream.ok_of_to_option read)).2
  have closed (after : Constants) (kept : List Token) :
      (Stream.between after [] kept).run rest = some kept := by
    cases rest with
    | nil => rfl
    | cons token rest => simp_all [ChunkReader.headKind, Stream.Reader.run, Stream.Reader.finish]
  simp only [Stream.behind, Stream.allTaken, List.all_nil, if_true, Function.comp_apply]
  cases Chunk.selectAll constants chunks with
  | error => simp [Except.toOption]
  | ok selected => simp [Except.toOption, closed]

/-- Selection from the tree of chunks fails exactly where a single pass over the tokens fails, and
otherwise gives the tokens kept in that pass, with an end token behind them. -/
theorem preprocess_streams (tokens : List Token) (constants : Constants) :
    ((preprocess tokens constants).errors ≠ [] ↔ stream tokens constants = none) ∧
      ∀ kept, stream tokens constants = some kept →
        ∃ finish, finish.kind = .eof ∧ (preprocess tokens constants).tokens = kept ++ [finish] := by
  rw [stream_eq]
  unfold preprocess filterChunks
  cases parseChunks tokens with
  | error e => simp
  | ok chunks =>
    cases selected : Chunk.selectAll constants chunks with
    | error e => simp [selected]
    | ok pair => simp [selected, closeStream, Token.eofAt]

end BrightScript
