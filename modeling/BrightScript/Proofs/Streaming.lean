import BrightScript.Chunk.Selection
set_option autoImplicit false

/-!
Conditional compilation in one pass. A reader goes through the tokens once, with a stack of the
`#if` constructs that are open, and keeps a token as soon as it sees it. It keeps the same tokens as
the selection from the tree of chunks, and fails on the same streams.
-/

namespace BrightScript

namespace Stream

-- An `#if` that is open: whether the branch being read is the one that is taken, whether this
-- branch or one before it was, and whether it is the `#else` branch.
structure OpenIf where
  taken : Bool
  decided : Bool
  last : Bool

inductive Lacks where
  | nothing
  | constName
  | equalSign (name : Token)
  | constValue (name : Token)
  | ifCondition
  | elseIfCondition
  | message
  | lineEnd

structure Reader where
  constants : Constants
  -- The innermost first.
  stack : List OpenIf
  lacks : Lacks
  kept : List Token

def allTaken (stack : List OpenIf) : Bool :=
  stack.all OpenIf.taken

def Reader.active (r : Reader) : Bool :=
  allTaken r.stack

def isTest (token : Token) : Bool :=
  [.word .true, .word .false, .identifier].contains token.kind

def value? (constants : Constants) (token : Token) : Option Bool :=
  match token.kind with
  | .word .true => some true
  | .word .false => some false
  | _ => constants.get? token.text

namespace Reader

-- The value of a `#const` counts, and its name must be new, only where it is reached.
def declare (r : Reader) (name value : Token) : Option Reader :=
  if r.active then
    if r.constants.contains name.text then none
    else (value? r.constants value).map fun value =>
      { r with constants := r.constants.insert name.text value, lacks := .lineEnd }
  else some { r with lacks := .lineEnd }

def openIf (r : Reader) (test : Token) : Option Reader :=
  if r.active then
    (value? r.constants test).map fun value =>
      { r with stack := ⟨value, value, false⟩ :: r.stack, lacks := .lineEnd }
  else some { r with stack := ⟨false, false, false⟩ :: r.stack, lacks := .lineEnd }

-- The test of an `#else if` counts only where the whole `#if` is reached and no branch before it
-- was taken.
def elseIf (r : Reader) (test : Token) : Option Reader :=
  match r.stack with
  | [] => none
  | top :: outer =>
    if allTaken outer && !top.decided then
      (value? r.constants test).map fun value =>
        { r with stack := ⟨value, value, false⟩ :: outer, lacks := .lineEnd }
    else some { r with stack := ⟨false, top.decided, false⟩ :: outer, lacks := .lineEnd }

def fresh (r : Reader) (token : Token) : Option Reader :=
  match token.kind, r.stack with
  | .directive .const, _ => some { r with lacks := .constName }
  | .directive .if_, _ => some { r with lacks := .ifCondition }
  | .directive .error, _ => if r.active then none else some { r with lacks := .message }
  | .directive .elseIf, ⟨_, _, false⟩ :: _ => some { r with lacks := .elseIfCondition }
  | .directive .else_, ⟨_, decided, false⟩ :: outer =>
    some { r with stack := ⟨!decided, true, true⟩ :: outer, lacks := .lineEnd }
  | .directive .endIf, _ :: outer => some { r with stack := outer, lacks := .lineEnd }
  | .directive _, _ => none
  | _, _ => some (if r.active then { r with kept := r.kept ++ [token] } else r)

def step (r : Reader) (token : Token) : Option Reader :=
  match r.lacks with
  | .nothing => r.fresh token
  | .constName =>
    if token.kind = .identifier then some { r with lacks := .equalSign token } else none
  | .equalSign name =>
    if token.kind = .symbol .equal then some { r with lacks := .constValue name } else none
  | .constValue name => if isTest token then r.declare name token else none
  | .ifCondition => if isTest token then r.openIf token else none
  | .elseIfCondition => if isTest token then r.elseIf token else none
  | .message =>
    if token.kind = .message then some { r with lacks := .lineEnd }
    else if token.kind = .newline then some { r with lacks := .nothing }
    else none
  | .lineEnd => if token.kind = .newline then some { r with lacks := .nothing } else none

-- A stream may end between directives, or in place of the line end that a directive lacks.
def finish (r : Reader) : Option (List Token) :=
  match r.stack, r.lacks with
  | [], .nothing | [], .message | [], .lineEnd => some r.kept
  | _, _ => none

def run (r : Reader) : List Token → Option (List Token)
  | [] => r.finish
  | token :: rest =>
    if token.kind = .eof then r.finish else (r.step token).bind fun r => r.run rest

end Reader

end Stream

def stream (tokens : List Token) (constants : Constants) : Option (List Token) :=
  (Stream.Reader.mk constants [] .nothing []).run tokens

namespace Stream

abbrev between (constants : Constants) (stack : List OpenIf) (kept : List Token) : Reader :=
  ⟨constants, stack, .nothing, kept⟩

variable (last : Location) (constants : Constants) (stack outer : List OpenIf) (kept : List Token)

theorem is_test_eq (token : Token) : isTest token = ChunkReader.isCondition token.kind := by
  unfold isTest ChunkReader.isCondition
  split <;> simp_all

theorem truth_eq (token : Token) :
    (Chunk.truth constants token).toOption = value? constants token := by
  unfold Chunk.truth value?
  cases token.kind with
  | word keyword =>
    cases keyword <;> first | rfl | (cases constants.get? token.text <;> rfl)
  | _ => cases constants.get? token.text <;> rfl

section

variable {ε α β : Type}

@[simp] theorem to_option_ok (a : α) : (Except.ok a : Except ε α).toOption = some a := rfl

@[simp] theorem to_option_pure (a : α) : (pure a : Except ε α).toOption = some a := rfl

@[simp] theorem to_option_error (e : ε) : (Except.error e : Except ε α).toOption = none := rfl

@[simp] theorem to_option_bind (x : Except ε α) (f : α → Except ε β) :
    (x >>= f).toOption = x.toOption.bind fun a => (f a).toOption := by
  cases x <;> rfl

@[simp] theorem to_option_map (x : Except ε α) (f : α → β) :
    (x.map f).toOption = x.toOption.map f := by
  cases x <;> rfl

end

theorem run_line_end (tokens : List Token) :
    (Reader.mk constants stack .lineEnd kept).run tokens =
      (ChunkReader.lineEnd last tokens).toOption.bind (between constants stack kept).run := by
  cases tokens with
  | nil => cases stack <;> rfl
  | cons token rest =>
    by_cases ended : token.kind = .eof
    · cases stack <;>
        simp [ChunkReader.lineEnd, ChunkReader.headKind, Reader.run, Reader.finish, ended,
          Except.toOption]
    · by_cases line : token.kind = .newline <;>
        simp [ChunkReader.lineEnd, ChunkReader.headKind, ChunkReader.expect, Reader.run,
          Reader.step, line, ended, Except.map, Except.toOption]

theorem run_expect (part : DirectivePart) (accepted : Lexeme → Bool) (noEnd : accepted .eof = false)
    (r : Reader) (next : Token → Option Reader) (unfinished : r.finish = none)
    (steps : ∀ token, r.step token = if accepted token.kind then next token else none)
    (tokens : List Token) :
    r.run tokens = (ChunkReader.expect last part accepted tokens).toOption.bind fun (token, rest) =>
      (next token).bind fun r => r.run rest := by
  cases tokens with
  | nil => exact unfinished
  | cons token rest =>
    by_cases fits : accepted token.kind = true
    · have goes : token.kind ≠ .eof := fun ended => by simp [ended, noEnd] at fits
      simp [ChunkReader.expect, Reader.run, fits, goes, steps, Except.toOption]
    · simp [ChunkReader.expect, Reader.run, fits, steps, unfinished, Except.toOption]

-- The reader behind chunks of which a selection is made: where they are reached they are selected
-- from, and elsewhere nothing is done.
def behind (select : Constants → Except DirectiveError (List Token × Constants)) : Option Reader :=
  if allTaken stack then
    (select constants).toOption.map fun (tokens, after) => between after stack (kept ++ tokens)
  else some (between constants stack kept)

theorem behind_nothing :
    behind constants stack kept (Chunk.selectAll · []) = some (between constants stack kept) := by
  unfold behind
  split
  · simp [Chunk.selectAll, Except.toOption]
  · rfl

theorem behind_cons (chunk : Chunk) (rest : List Chunk) :
    behind constants stack kept (Chunk.selectAll · (chunk :: rest)) =
      (behind constants stack kept (Chunk.select · chunk)).bind fun r =>
        behind r.constants r.stack r.kept (Chunk.selectAll · rest) := by
  unfold behind
  split
  · rename_i reached
    simp only [Chunk.selectAll, to_option_bind, to_option_pure, Option.map_eq_bind,
      Option.bind_assoc, Function.comp_def, Option.bind_some, reached, if_true, List.append_assoc]
  · rename_i passed
    simp [passed]

theorem bind_line_end (effect : Option Reader) (between : ∀ r ∈ effect, r.lacks = .nothing)
    (tokens : List Token) :
    ((effect.map fun r => { r with lacks := .lineEnd }).bind fun r => r.run tokens) =
      (ChunkReader.lineEnd last tokens).toOption.bind fun rest => effect.bind fun r =>
        r.run rest := by
  cases effect with
  | none => simp
  | some r =>
    obtain ⟨constants, stack, lacks, kept⟩ := r
    have same : lacks = .nothing := between _ rfl
    subst same
    exact run_line_end last constants stack kept tokens

theorem lacks_nothing {α : Type} {reached : Prop} [Decidable reached] (x : Option α)
    (f : α → Reader) (other : Reader) (made : ∀ a, (f a).lacks = .nothing)
    (same : other.lacks = .nothing) :
    ∀ r ∈ if reached then x.map f else some other, r.lacks = .nothing := by
  intro r found
  split at found
  · obtain ⟨a, _, rfl⟩ := Option.map_eq_some_iff.1 found
    exact made a
  · cases found
    exact same

theorem declare_eq (lacks : Lacks) (name value : Token) :
    (Reader.mk constants stack lacks kept).declare name value =
      (behind constants stack kept (Chunk.select · (.declaration name value))).map fun r =>
        { r with lacks := .lineEnd } := by
  unfold Reader.declare behind
  by_cases reached : allTaken stack = true
  · by_cases known : constants.contains name.text = true
    · simp [Reader.active, reached, known, Chunk.select, Chunk.declare, Except.map]
    · simp [Reader.active, reached, known, Chunk.select, Chunk.declare, truth_eq, Function.comp_def]
  · simp [Reader.active, reached]

theorem run_declaration (tokens : List Token) :
    (Reader.mk constants stack .constName kept).run tokens =
      (ChunkReader.declaration last tokens).toOption.bind fun (chunk, rest) =>
        (behind constants stack kept (Chunk.select · chunk)).bind fun r => r.run rest := by
  have named := run_expect last .constName (· == .identifier) rfl
    (Reader.mk constants stack .constName kept)
    (fun token => some ⟨constants, stack, .equalSign token, kept⟩) (by cases stack <;> rfl)
    (fun token => by simp [Reader.step])
  have signed (name : Token) := run_expect last .equalSign (· == .symbol .equal) rfl
    (Reader.mk constants stack (.equalSign name) kept)
    (fun _ => some ⟨constants, stack, .constValue name, kept⟩) (by cases stack <;> rfl)
    (fun token => by simp [Reader.step])
  have valued (name : Token) := run_expect last .condition ChunkReader.isCondition rfl
    (Reader.mk constants stack (.constValue name) kept)
    (fun value => Reader.declare ⟨constants, stack, .constValue name, kept⟩ name value)
    (by cases stack <;> rfl) (fun token => by simp [Reader.step, is_test_eq])
  have ended (name value : Token) (rest : List Token) := bind_line_end last
    (behind constants stack kept (Chunk.select · (.declaration name value)))
    (lacks_nothing _ _ _ (fun _ => rfl) rfl) rest
  rw [named]
  simp only [ChunkReader.declaration, ChunkReader.condition, to_option_bind, to_option_pure,
    Option.bind_assoc, Option.bind_some, signed, valued, declare_eq, ended]

-- The reader in an `#if` or `#else if` branch with the given test, which counts only where it is
-- reached and no branch before it was taken.
def opened (decided : Bool) (test : Token) : Option Reader :=
  if allTaken stack && !decided then
    (value? constants test).map fun value => between constants (⟨value, value, false⟩ :: stack) kept
  else some (between constants (⟨false, decided, false⟩ :: stack) kept)

theorem run_test_line (r : Reader) (effect : Token → Option Reader) (unfinished : r.finish = none)
    (settled : ∀ test, ∀ next ∈ effect test, next.lacks = .nothing)
    (steps : ∀ token, r.step token =
      if isTest token then (effect token).map fun next => { next with lacks := .lineEnd } else none)
    (tokens : List Token) :
    r.run tokens = (ChunkReader.conditionLine last tokens).toOption.bind fun (test, rest) =>
      (effect test).bind fun next => next.run rest := by
  have tested := run_expect last .condition ChunkReader.isCondition rfl r
    (fun test => (effect test).map fun next => { next with lacks := .lineEnd }) unfinished
    (fun token => by rw [steps, is_test_eq])
  have ended (test : Token) (rest : List Token) :=
    bind_line_end last (effect test) (settled test) rest
  rw [tested]
  simp only [ChunkReader.conditionLine, ChunkReader.condition, to_option_bind, to_option_pure,
    Option.bind_assoc, Option.bind_some, ended]

theorem run_if_line (tokens : List Token) :
    (Reader.mk constants stack .ifCondition kept).run tokens =
      (ChunkReader.conditionLine last tokens).toOption.bind fun (test, rest) =>
        (opened constants stack kept false test).bind fun r => r.run rest := by
  refine run_test_line last _ _ (by cases stack <;> rfl)
    (fun _ => lacks_nothing _ _ _ (fun _ => rfl) rfl) ?_ tokens
  intro token
  by_cases reached : allTaken stack = true <;>
    simp [Reader.step, Reader.openIf, Reader.active, reached, Function.comp_def]

theorem run_else_if_line (top : OpenIf) (tokens : List Token) :
    (Reader.mk constants (top :: outer) .elseIfCondition kept).run tokens =
      (ChunkReader.conditionLine last tokens).toOption.bind fun (test, rest) =>
        (opened constants outer kept top.decided test).bind fun r => r.run rest := by
  refine run_test_line last _ _ rfl (fun _ => lacks_nothing _ _ _ (fun _ => rfl) rfl) ?_ tokens
  intro token
  by_cases reached : (allTaken outer && !top.decided) = true <;>
    simp [Reader.step, Reader.elseIf, reached, Function.comp_def]

theorem run_message (location : Location) (tokens : List Token) :
    ∃ message rest, ChunkReader.failure last location tokens =
        (ChunkReader.lineEnd last rest).map (fun rest => (.failure message location, rest)) ∧
      (Reader.mk constants stack .message kept).run tokens =
        (Reader.mk constants stack .lineEnd kept).run rest := by
  cases tokens with
  | nil => exact ⟨"", [], rfl, by cases stack <;> rfl⟩
  | cons token rest =>
    by_cases message : token.kind = .message
    · exact ⟨_, rest, by rw [ChunkReader.failure, if_pos message],
        by simp [Reader.run, Reader.step, message]⟩
    · refine ⟨"", token :: rest, by rw [ChunkReader.failure, if_neg message], ?_⟩
      by_cases ended : token.kind = .eof
      · cases stack <;> simp [Reader.run, ended, Reader.finish]
      · simp [Reader.run, Reader.step, ended, message]

theorem run_failure (token : Token) (kind : token.kind = .directive .error) (tokens : List Token) :
    (between constants stack kept).run (token :: tokens) =
      (ChunkReader.failure last token.location tokens).toOption.bind fun (chunk, rest) =>
        (behind constants stack kept (Chunk.select · chunk)).bind fun r => r.run rest := by
  obtain ⟨message, rest, read, same⟩ :=
    run_message last constants stack kept token.location tokens
  rw [read, to_option_map, Option.bind_map]
  by_cases reached : allTaken stack = true
  · simp [Reader.run, Reader.step, Reader.fresh, Reader.active, kind, reached, behind, Chunk.select,
      Function.comp_def]
  · simpa [Reader.run, Reader.step, Reader.fresh, Reader.active, kind, reached, behind, same,
      Function.comp_def] using run_line_end last constants stack kept rest

theorem fresh_ordinary (token : Token) (ordinary : ChunkReader.isOrdinary token = true) :
    (between constants stack kept).fresh token =
      some (between constants stack (if allTaken stack then kept ++ [token] else kept)) := by
  unfold Reader.fresh
  cases kind : token.kind with
  | directive directive => simp [ChunkReader.isOrdinary, Lexeme.isDirective, kind] at ordinary
  | symbol | identifier | string | integer | longInteger | float | double | message | word | newline
  | eof =>
    by_cases reached : allTaken stack = true <;> simp [Reader.active, reached]

theorem run_ordinary (tokens rest : List Token)
    (ordinary : ∀ token ∈ tokens, ChunkReader.isOrdinary token = true) :
    (between constants stack kept).run (tokens ++ rest) =
      (behind constants stack kept (Chunk.select · (.text tokens))).bind fun r => r.run rest := by
  induction tokens generalizing kept with
  | nil =>
    by_cases reached : allTaken stack = true <;> simp [behind, reached, Chunk.select]
  | cons token tokens ih =>
    have first := ordinary token List.mem_cons_self
    have later := ih (if allTaken stack then kept ++ [token] else kept)
      fun other member => ordinary other (List.mem_cons_of_mem _ member)
    have goes : token.kind ≠ .eof := by
      intro ended
      simp [ChunkReader.isOrdinary, ended] at first
    have same := fresh_ordinary constants stack kept token first
    simp only [List.cons_append, Reader.run, if_neg goes, Reader.step, same,
      Option.bind_some, later]
    by_cases reached : allTaken stack = true <;> simp [behind, reached, Chunk.select]

def closing (tokens : List Token) : Bool :=
  [.directive .elseIf, .directive .else_, .directive .endIf].contains (ChunkReader.headKind tokens)

theorem closing_cases {token : Token} {rest : List Token}
    (closes : closing (token :: rest) = true) :
    token.kind = .directive .elseIf ∨ token.kind = .directive .else_ ∨
      token.kind = .directive .endIf := by
  simpa [closing, ChunkReader.headKind] using closes

theorem run_closing (taken decided final : Bool) (tokens : List Token)
    (closes : closing tokens = true) :
    (between constants (⟨taken, decided, final⟩ :: outer) kept).run tokens =
      (between constants (⟨false, decided, final⟩ :: outer) kept).run tokens := by
  cases tokens with
  | nil => rfl
  | cons token rest =>
    rcases closing_cases closes with kind | kind | kind
    · cases final
      · simp only [Reader.run, Reader.step, Reader.fresh, kind, reduceCtorEq, if_false,
          Option.bind_some, run_else_if_line .internal]
      · simp [Reader.run, Reader.step, Reader.fresh, kind]
    · cases final <;> simp [Reader.run, Reader.step, Reader.fresh, kind]
    · simp [Reader.run, Reader.step, Reader.fresh, kind]

end Stream

end BrightScript
