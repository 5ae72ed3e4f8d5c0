import BrightScript.Proofs.Selection
set_option autoImplicit false

namespace BrightScript

namespace Directives

inductive EndsLine : List Token → List Token → Prop
  | feed {token : Token} {rest : List Token} (isFeed : token.kind = .newline) :
      EndsLine (token :: rest) rest
  | finish : EndsLine [] []

inductive Part where
  | chunks
  | chunk
  | elseIfs
  | otherwise

-- The part stands at the head of the first list of tokens, with the second one behind it.
inductive Derives : Part → List Token → List Token → Prop
  | none (rest : List Token) : Derives .chunks rest rest
  | more {tokens middle rest : List Token} (first : Derives .chunk tokens middle)
      (later : Derives .chunks middle rest) : Derives .chunks tokens rest
  -- A run of other tokens, as long as there are any.
  | text {run rest : List Token} (some : run ≠ [])
      (ordinary : ∀ token ∈ run, token.kind.isDirective = false)
      (maximal : ∀ token ∈ rest.head?, token.kind.isDirective = true) :
      Derives .chunk (run ++ rest) rest
  | const {word name sign value : Token} {line rest : List Token}
      (isConst : word.kind = .directive .const) (named : name.kind = .identifier)
      (signed : sign.kind = .symbol .equal) (valued : Stream.isTest value = true)
      (ends : EndsLine line rest) : Derives .chunk (word :: name :: sign :: value :: line) rest
  | error {word : Token} {message : Option Token} {line rest : List Token}
      (isError : word.kind = .directive .error)
      (isMessage : ∀ token ∈ message, token.kind = .message) (ends : EndsLine line rest) :
      Derives .chunk (word :: (message.toList ++ line)) rest
  | conditional {word test close : Token} {line body elseIfs otherwise final rest : List Token}
      (isIf : word.kind = .directive .if_) (tested : Stream.isTest test = true)
      (ends : EndsLine line body) (inside : Derives .chunks body elseIfs)
      (others : Derives .elseIfs elseIfs otherwise)
      (last : Derives .otherwise otherwise (close :: final))
      (isEnd : close.kind = .directive .endIf) (closed : EndsLine final rest) :
      Derives .chunk (word :: test :: line) rest
  | noElseIf (rest : List Token) : Derives .elseIfs rest rest
  | elseIf {word test : Token} {line body middle rest : List Token}
      (isElseIf : word.kind = .directive .elseIf) (tested : Stream.isTest test = true)
      (ends : EndsLine line body) (inside : Derives .chunks body middle)
      (later : Derives .elseIfs middle rest) : Derives .elseIfs (word :: test :: line) rest
  | noElse (rest : List Token) : Derives .otherwise rest rest
  | else_ {word : Token} {line body rest : List Token} (isElse : word.kind = .directive .else_)
      (ends : EndsLine line body) (inside : Derives .chunks body rest) :
      Derives .otherwise (word :: line) rest

-- Whether the directives of a stream nest. For every `#if` that is open, the innermost first, it is
-- known whether its `#else` has come: no branch follows that, nothing is closed that is not open,
-- and nothing stays open.
def nests : List Bool → List Token → Bool
  | stack, [] => stack.isEmpty
  | stack, token :: rest =>
    match token.kind, stack with
    | .directive .if_, _ => nests (false :: stack) rest
    | .directive .elseIf, false :: _ => nests stack rest
    | .directive .else_, false :: outer => nests (true :: outer) rest
    | .directive .endIf, _ :: outer => nests outer rest
    | .directive .elseIf, _ | .directive .else_, _ | .directive .endIf, _ => false
    | _, _ => nests stack rest

inductive Piece where
  | token (token : Token)
  | kind (kind : Lexeme)
  -- The message of an `#error`. One that says nothing may be missing.
  | message (text : String)
  | lineEnd

mutual

def rendered : Chunk → List Piece
  | .text tokens => tokens.map .token
  | .declaration name value =>
    [.kind (.directive .const), .token name, .kind (.symbol .equal), .token value, .lineEnd]
  | .failure message _ => [.kind (.directive .error), .message message, .lineEnd]
  | .conditional condition body elseIfs otherwise _ =>
    [.kind (.directive .if_), .token condition, .lineEnd] ++ renderedAll body ++
      renderedBranches elseIfs ++
      renderedElse otherwise ++ [.kind (.directive .endIf), .lineEnd]

def renderedAll : List Chunk → List Piece
  | [] => []
  | chunk :: rest => rendered chunk ++ renderedAll rest

def renderedBranches : List Branch → List Piece
  | [] => []
  | .mk condition body :: rest =>
    [.kind (.directive .elseIf), .token condition, .lineEnd] ++ renderedAll body ++
      renderedBranches rest

def renderedElse : Option (List Chunk) → List Piece
  | none => []
  | some body => [.kind (.directive .else_), .lineEnd] ++ renderedAll body

end

inductive Spells : List Piece → List Token → List Token → Prop
  | nothing (rest : List Token) : Spells [] rest rest
  | token {token : Token} {pieces : List Piece} {tokens rest : List Token}
      (later : Spells pieces tokens rest) : Spells (.token token :: pieces) (token :: tokens) rest
  | kind {token : Token} {kind : Lexeme} {pieces : List Piece} {tokens rest : List Token}
      (same : token.kind = kind) (later : Spells pieces tokens rest) :
      Spells (.kind kind :: pieces) (token :: tokens) rest
  | message {token : Token} {pieces : List Piece} {tokens rest : List Token}
      (isMessage : token.kind = .message) (later : Spells pieces tokens rest) :
      Spells (.message (ChunkReader.messageText token) :: pieces) (token :: tokens) rest
  | noMessage {pieces : List Piece} {tokens rest : List Token} (later : Spells pieces tokens rest) :
      Spells (.message "" :: pieces) tokens rest
  | lineEnd {pieces : List Piece} {tokens middle rest : List Token} (ends : EndsLine tokens middle)
      (later : Spells pieces middle rest) : Spells (.lineEnd :: pieces) tokens rest

theorem Spells.append {first second : List Piece} {tokens middle rest : List Token}
    (spells : Spells first tokens middle) (later : Spells second middle rest) :
    Spells (first ++ second) tokens rest := by
  induction spells with
  | nothing _ => exact later
  | token _ ih => exact .token (ih later)
  | kind same _ ih => exact .kind same (ih later)
  | message isMessage _ ih => exact .message isMessage (ih later)
  | noMessage _ ih => exact .noMessage (ih later)
  | lineEnd ends _ ih => exact .lineEnd ends (ih later)

theorem spells_line_end {tokens rest : List Token} (ends : EndsLine tokens rest) :
    Spells [.lineEnd] tokens rest :=
  .lineEnd ends (.nothing rest)

theorem spells_text (run rest : List Token) : Spells (run.map .token) (run ++ rest) rest := by
  induction run with
  | nil => exact .nothing rest
  | cons token run ih => exact .token ih

theorem ends_line_suffix {tokens rest : List Token} (ends : EndsLine tokens rest) :
    rest <:+ tokens := by
  cases ends with
  | feed _ => exact List.suffix_cons _ _
  | finish => exact List.suffix_refl _

theorem derives_suffix {part : Part} {tokens rest : List Token}
    (derives : Derives part tokens rest) : rest <:+ tokens := by
  induction derives with
  | none | noElseIf | noElse => exact List.suffix_refl _
  | more _ _ first later => exact later.trans first
  | text => exact List.suffix_append _ _
  | const _ _ _ _ ends =>
    exact (ends_line_suffix ends).trans ⟨[_, _, _, _], rfl⟩
  | error _ _ ends =>
    exact ((ends_line_suffix ends).trans (List.suffix_append _ _)).trans (List.suffix_cons _ _)
  | conditional _ _ ends _ _ _ _ closed inside others last =>
    have final := (List.suffix_cons _ _).trans (last.trans (others.trans inside))
    exact ((ends_line_suffix closed).trans (final.trans (ends_line_suffix ends))).trans
      ⟨[_, _], rfl⟩
  | elseIf _ _ ends _ _ inside later =>
    exact ((later.trans inside).trans (ends_line_suffix ends)).trans ⟨[_, _], rfl⟩
  | else_ _ ends _ inside =>
    exact (inside.trans (ends_line_suffix ends)).trans (List.suffix_cons _ _)

theorem nests_ordinary {token : Token} (ordinary : token.kind.isDirective = false)
    (stack : List Bool) (rest : List Token) : nests stack (token :: rest) = nests stack rest := by
  cases kind : token.kind with
  | directive directive => simp [kind, Lexeme.isDirective] at ordinary
  | symbol | identifier | string | integer | longInteger | float | double | message | word
  | newline | eof =>
    simp [nests, kind]

theorem nests_run {run : List Token} (ordinary : ∀ token ∈ run, token.kind.isDirective = false)
    (stack : List Bool) (rest : List Token) : nests stack (run ++ rest) = nests stack rest := by
  induction run with
  | nil => rfl
  | cons token run ih =>
    obtain ⟨first, later⟩ := List.forall_mem_cons.1 ordinary
    rw [List.cons_append, nests_ordinary first, ih later]

theorem nests_line {line rest : List Token} (ends : EndsLine line rest) (stack : List Bool) :
    nests stack line = nests stack rest := by
  cases ends with
  | feed isFeed => exact nests_ordinary (by rw [isFeed]; rfl) stack rest
  | finish => rfl

theorem test_ordinary {token : Token} (tested : Stream.isTest token = true) :
    token.kind.isDirective = false := by
  rw [Stream.is_test_eq] at tested
  cases kind : token.kind with
  | directive directive => simp [kind, ChunkReader.isCondition] at tested
  | symbol | identifier | string | integer | longInteger | float | double | message | word | newline
  | eof => rfl

-- What a part does to the constructs that are open: chunks leave them as they are, and an `#else`
-- closes its `#if` to further branches.
def Part.Nests : Part → List Token → List Token → Prop
  | .chunks, tokens, rest | .chunk, tokens, rest => ∀ stack, nests stack tokens = nests stack rest
  | .elseIfs, tokens, rest => ∀ outer, nests (false :: outer) tokens = nests (false :: outer) rest
  | .otherwise, tokens, rest =>
    ∀ outer, ∃ ended, nests (false :: outer) tokens = nests (ended :: outer) rest

theorem derives_nests {part : Part} {tokens rest : List Token}
    (derives : Derives part tokens rest) : part.Nests tokens rest := by
  induction derives with
  | none rest => exact fun _ => rfl
  | noElseIf rest => exact fun _ => rfl
  | noElse rest => exact fun _ => ⟨false, rfl⟩
  | more _ _ first later => exact fun stack => (first stack).trans (later stack)
  | text _ ordinary _ => exact fun stack => nests_run ordinary stack _
  | @const word name sign value line rest isConst named signed valued ends =>
    intro stack
    have named : name.kind.isDirective = false := by rw [named]; rfl
    have signed : sign.kind.isDirective = false := by rw [signed]; rfl
    calc nests stack (word :: name :: sign :: value :: line)
        = nests stack (name :: sign :: value :: line) := by simp only [nests, isConst]
      _ = nests stack line := by
        rw [nests_ordinary named, nests_ordinary signed, nests_ordinary (test_ordinary valued)]
      _ = nests stack rest := nests_line ends stack
  | @error word message line rest isError isMessage ends =>
    intro stack
    have ordinary : ∀ token ∈ message.toList, token.kind.isDirective = false := by
      intro token found
      rw [isMessage token (Option.mem_toList.1 found)]
      rfl
    calc nests stack (word :: (message.toList ++ line))
        = nests stack (message.toList ++ line) := by simp only [nests, isError]
      _ = nests stack line := nests_run ordinary stack line
      _ = nests stack rest := nests_line ends stack
  | @conditional word test close line body elseIfs otherwise final rest isIf tested ends _ _ _
      isEnd closed
      inside others last =>
    intro stack
    obtain ⟨ended, same⟩ := last stack
    calc nests stack (word :: test :: line)
        = nests (false :: stack) (test :: line) := by simp only [nests, isIf]
      _ = nests (false :: stack) body := by
        rw [nests_ordinary (test_ordinary tested), nests_line ends]
      _ = nests (false :: stack) otherwise := by rw [inside, others]
      _ = nests (ended :: stack) (close :: final) := same
      _ = nests stack final := by simp only [nests, isEnd]
      _ = nests stack rest := nests_line closed stack
  | @elseIf word test line body middle rest isElseIf tested ends _ _ inside later =>
    intro outer
    calc nests (false :: outer) (word :: test :: line)
        = nests (false :: outer) (test :: line) := by simp only [nests, isElseIf]
      _ = nests (false :: outer) body := by
        rw [nests_ordinary (test_ordinary tested), nests_line ends]
      _ = nests (false :: outer) rest := by rw [inside, later]
  | @else_ word line body rest isElse ends _ inside =>
    intro outer
    refine ⟨true, ?_⟩
    calc nests (false :: outer) (word :: line)
        = nests (true :: outer) line := by simp only [nests, isElse]
      _ = nests (true :: outer) rest := by rw [nests_line ends, inside]

def Inner (tokens : List Token) : Prop :=
  ∀ token ∈ tokens, token.kind ≠ .eof

theorem Inner.suffix {tokens rest : List Token} (inner : Inner tokens) (shorter : rest <:+ tokens) :
    Inner rest :=
  fun token found => inner token (shorter.subset found)

theorem Inner.rest {token : Token} {rest : List Token} (inner : Inner (token :: rest)) :
    Inner rest :=
  inner.suffix (List.suffix_cons token rest)

theorem bind_made {ε α β : Type} {x : Except ε α} {f : α → Except ε β} {a : α} {b : β}
    (first : x = .ok a) (later : f a = .ok b) : x >>= f = .ok b := by
  rw [first]
  exact later

section Reading

variable (last : Location) {tail : List Token} (ended : ChunkReader.headKind tail = .eof)

include ended

theorem expect_iff {part : DirectivePart} {accepted : Lexeme → Bool}
    (refused : accepted .eof = false) {tokens final : List Token} {token : Token} :
    ChunkReader.expect last part accepted (tokens ++ tail) = .ok (token, final) ↔
      ∃ rest, tokens = token :: rest ∧ accepted token.kind = true ∧ final = rest ++ tail := by
  cases tokens with
  | nil =>
    cases tail with
    | nil => simp [ChunkReader.expect]
    | cons finish behind =>
      have kind : finish.kind = .eof := ended
      simp [ChunkReader.expect, kind, refused]
  | cons first others =>
    by_cases fits : accepted first.kind = true
    · simp only [List.cons_append, ChunkReader.expect, fits, if_true, Except.ok.injEq,
        Prod.mk.injEq, List.cons.injEq]
      constructor
      · rintro ⟨rfl, rfl⟩
        exact ⟨others, ⟨rfl, rfl⟩, fits, rfl⟩
      · rintro ⟨rest, ⟨rfl, rfl⟩, _, rfl⟩
        exact ⟨rfl, rfl⟩
    · simp only [List.cons_append, ChunkReader.expect, fits]
      constructor
      · intro read
        cases read
      · rintro ⟨rest, same, accepts, _⟩
        cases same
        exact absurd accepts fits

theorem line_end_iff {tokens final : List Token} (inner : Inner tokens) :
    ChunkReader.lineEnd last (tokens ++ tail) = .ok final ↔ ∃ rest, EndsLine tokens rest ∧
      final = rest ++ tail := by
  cases tokens with
  | nil =>
    simp only [List.nil_append, ChunkReader.lineEnd, ended, if_true, Except.ok.injEq]
    constructor
    · rintro rfl
      exact ⟨[], .finish, rfl⟩
    · rintro ⟨rest, ends, rfl⟩
      cases ends
      rfl
  | cons first others =>
    have more : ChunkReader.headKind (first :: others ++ tail) ≠ .eof :=
      inner first List.mem_cons_self
    rw [ChunkReader.lineEnd, if_neg more]
    constructor
    · intro read
      obtain ⟨⟨feed, behind⟩, found, rfl⟩ := Stream.map_ok read
      obtain ⟨rest, same, isFeed, rfl⟩ := (expect_iff last ended rfl).1 found
      cases same
      exact ⟨others, .feed (by simpa using isFeed), rfl⟩
    · rintro ⟨rest, ends, rfl⟩
      cases ends with
      | feed isFeed =>
        rw [(expect_iff last ended rfl).2 ⟨others, rfl, by simpa using isFeed, rfl⟩]
        rfl

theorem condition_line_iff {tokens final : List Token} {test : Token} (inner : Inner tokens) :
    ChunkReader.conditionLine last (tokens ++ tail) = .ok (test, final) ↔
      ∃ line rest, tokens = test :: line ∧ Stream.isTest test = true ∧ EndsLine line rest ∧
        final = rest ++ tail := by
  simp only [Stream.is_test_eq]
  constructor
  · intro read
    obtain ⟨⟨token, behind⟩, found, more⟩ := Stream.bind_ok read
    obtain ⟨afterLine, ends, done⟩ := Stream.bind_ok more
    cases done
    obtain ⟨line, rfl, tested, rfl⟩ := (expect_iff last ended rfl).1 found
    obtain ⟨rest, line_ends, rfl⟩ := (line_end_iff last ended inner.rest).1 ends
    exact ⟨line, rest, rfl, tested, line_ends, rfl⟩
  · rintro ⟨line, rest, rfl, tested, ends, rfl⟩
    apply bind_made ((expect_iff last ended rfl).2 ⟨line, rfl, tested, rfl⟩)
    exact bind_made ((line_end_iff last ended inner.rest).2 ⟨rest, ends, rfl⟩) rfl

theorem declaration_iff {tokens final : List Token} {chunk : Chunk} (inner : Inner tokens) :
    ChunkReader.declaration last (tokens ++ tail) = .ok (chunk, final) ↔
      ∃ name sign value line rest, tokens = name :: sign :: value :: line ∧
        name.kind = .identifier ∧
        sign.kind = .symbol .equal ∧ Stream.isTest value = true ∧ EndsLine line rest ∧
        chunk = .declaration name value ∧ final = rest ++ tail := by
  simp only [Stream.is_test_eq]
  constructor
  · intro read
    obtain ⟨⟨name, afterName⟩, named, more⟩ := Stream.bind_ok read
    obtain ⟨⟨sign, afterSign⟩, signed, more⟩ := Stream.bind_ok more
    obtain ⟨⟨value, afterValue⟩, valued, more⟩ := Stream.bind_ok more
    obtain ⟨afterLine, ends, done⟩ := Stream.bind_ok more
    cases done
    obtain ⟨rest, rfl, isName, rfl⟩ := (expect_iff last ended rfl).1 named
    obtain ⟨rest, rfl, isSign, rfl⟩ := (expect_iff last ended rfl).1 signed
    obtain ⟨line, rfl, isValue, rfl⟩ := (expect_iff last ended rfl).1 valued
    obtain ⟨rest, line_ends, rfl⟩ := (line_end_iff last ended inner.rest.rest.rest).1 ends
    exact ⟨name, sign, value, line, rest, rfl, by simpa using isName, by simpa using isSign,
      isValue, line_ends, rfl, rfl⟩
  · rintro ⟨name, sign, value, line, rest, rfl, isName, isSign, isValue, ends, rfl, rfl⟩
    apply bind_made ((expect_iff last ended rfl).2 ⟨_, rfl, by simpa using isName, rfl⟩)
    apply bind_made ((expect_iff last ended rfl).2 ⟨_, rfl, by simpa using isSign, rfl⟩)
    apply bind_made ((expect_iff last ended rfl).2 ⟨_, rfl, isValue, rfl⟩)
    exact bind_made ((line_end_iff last ended inner.rest.rest.rest).2 ⟨rest, ends, rfl⟩) rfl

omit ended in
theorem failure_unsaid (location : Location) {tokens : List Token}
    (unsaid : ChunkReader.headKind tokens ≠ .message) : ChunkReader.failure last location tokens =
      (ChunkReader.lineEnd last tokens).map fun rest => (.failure "" location, rest) := by
  cases tokens with
  | nil => rfl
  | cons token rest =>
    have unsaid : token.kind ≠ .message := unsaid
    simp only [ChunkReader.failure, unsaid, if_false]

theorem failure_iff {location : Location} {tokens final : List Token} {chunk : Chunk}
    (inner : Inner tokens) :
    ChunkReader.failure last location (tokens ++ tail) = .ok (chunk, final) ↔
      ∃ message line rest, tokens = Option.toList message ++ line ∧
        (∀ token ∈ message, token.kind = .message) ∧
        EndsLine line rest ∧ chunk = .failure (message.elim "" ChunkReader.messageText) location ∧
        final = rest ++ tail := by
  by_cases said : ChunkReader.headKind (tokens ++ tail) = .message
  · cases tokens with
    | nil =>
      rw [List.nil_append, ended] at said
      cases said
    | cons first others =>
      have isMessage : first.kind = .message := said
      simp only [List.cons_append, ChunkReader.failure, isMessage, if_true]
      constructor
      · intro read
        obtain ⟨afterLine, ends, done⟩ := Stream.map_ok read
        cases done
        obtain ⟨rest, line_ends, rfl⟩ := (line_end_iff last ended inner.rest).1 ends
        refine ⟨some first, others, rest, rfl, ?_, line_ends, rfl, rfl⟩
        rintro token ⟨⟩
        exact isMessage
      · rintro ⟨message, line, rest, same, _, ends, rfl, rfl⟩
        cases message with
        | some token =>
          cases same
          rw [(line_end_iff last ended inner.rest).2 ⟨rest, ends, rfl⟩]
          rfl
        | none =>
          -- A message is no line end, so it cannot be left out where it stands.
          cases same
          cases ends with
          | feed isFeed =>
            rw [isFeed] at isMessage
            cases isMessage
  · rw [failure_unsaid last location said]
    constructor
    · intro read
      obtain ⟨afterLine, ends, done⟩ := Stream.map_ok read
      cases done
      obtain ⟨rest, line_ends, rfl⟩ := (line_end_iff last ended inner).1 ends
      exact ⟨none, tokens, rest, rfl, by simp, line_ends, rfl, rfl⟩
    · rintro ⟨message, line, rest, rfl, isMessage, ends, rfl, rfl⟩
      cases message with
      | some token =>
        have heads : ChunkReader.headKind (token :: line ++ tail) = .message := isMessage token rfl
        exact absurd heads said
      | none =>
        rw [(line_end_iff last ended inner).2 ⟨rest, ends, rfl⟩]
        rfl

theorem drop_ordinary {tokens : List Token} (inner : Inner tokens) :
    (tokens ++ tail).dropWhile ChunkReader.isOrdinary =
      tokens.dropWhile (!·.kind.isDirective) ++ tail := by
  induction tokens with
  | nil =>
    cases tail with
    | nil => rfl
    | cons finish behind =>
      have kind : finish.kind = .eof := ended
      simp [ChunkReader.isOrdinary, kind]
  | cons first others ih =>
    have more := inner first List.mem_cons_self
    simp only [List.cons_append, List.dropWhile_cons, ChunkReader.isOrdinary, bne_iff_ne.2 more,
      Bool.true_and, ih inner.rest]
    split <;> rfl

theorem take_ordinary {tokens : List Token} (inner : Inner tokens) :
    (tokens ++ tail).takeWhile ChunkReader.isOrdinary = tokens.takeWhile (!·.kind.isDirective) := by
  induction tokens with
  | nil =>
    cases tail with
    | nil => rfl
    | cons finish behind =>
      have kind : finish.kind = .eof := ended
      simp [ChunkReader.isOrdinary, kind]
  | cons first others ih =>
    have more := inner first List.mem_cons_self
    simp only [List.cons_append, List.takeWhile_cons, ChunkReader.isOrdinary, bne_iff_ne.2 more,
      Bool.true_and, ih inner.rest]

omit ended in
theorem chunks_ordinary {fuel : Nat} {nested : Bool} {token : Token} {rest : List Token}
    (more : token.kind ≠ .eof) (ordinary : token.kind.isDirective = false) :
    ChunkReader.chunks last (fuel + 1) nested (token :: rest) = (do
      let (later, behind) ← ChunkReader.chunks last fuel nested
          (rest.dropWhile ChunkReader.isOrdinary)
      pure (.text (token :: rest.takeWhile ChunkReader.isOrdinary) :: later, behind)) := by
  cases kind : token.kind with
  | directive directive => simp [kind, Lexeme.isDirective] at ordinary
  | eof => exact absurd kind more
  | symbol | identifier | string | integer | longInteger | float | double | message | word
  | newline =>
    simp only [ChunkReader.chunks, kind]

theorem chunks_at_end (fuel : Nat) (nested : Bool) :
    ChunkReader.chunks last (fuel + 1) nested tail =
      if nested then .error (ChunkReader.faultAt last tail .unterminatedIf)
        else .ok ([], tail) := by
  cases tail with
  | nil => rfl
  | cons finish behind =>
    have kind : finish.kind = .eof := ended
    simp only [ChunkReader.chunks, kind]

end Reading

def Found (tail : List Token) (part : Part) (pieces : List Piece) (tokens final : List Token) :
    Prop :=
  ∃ rest, Derives part tokens rest ∧ Spells pieces tokens rest ∧ final = rest ++ tail

theorem Found.more {tail tokens middle final : List Token} {chunk : Chunk} {later : List Chunk}
    (first : Derives .chunk tokens middle) (spelled : Spells (rendered chunk) tokens middle)
    (found : Found tail .chunks (renderedAll later) middle final) :
    Found tail .chunks (renderedAll (chunk :: later)) tokens final := by
  obtain ⟨rest, derives, spells, same⟩ := found
  exact ⟨rest, .more first derives, spelled.append spells, same⟩

structure Sound (last : Location) (tail : List Token) (fuel : Nat) : Prop where
  chunks : ∀ nested tokens cs final, Inner tokens →
    ChunkReader.chunks last fuel nested (tokens ++ tail) = .ok (cs, final) →
      Found tail .chunks (renderedAll cs) tokens final
  branches : ∀ tokens bs final, Inner tokens →
    ChunkReader.branches last fuel (tokens ++ tail) = .ok (bs, final) →
    Found tail .elseIfs (renderedBranches bs) tokens final
  otherwise : ∀ tokens o final, Inner tokens →
    ChunkReader.elseBranch last fuel (tokens ++ tail) = .ok (o, final) →
    Found tail .otherwise (renderedElse o) tokens final

theorem text_derives {token : Token} (ordinary : token.kind.isDirective = false)
    (rest : List Token) : Derives .chunk (token :: rest) (rest.dropWhile (!·.kind.isDirective)) ∧
      Spells (rendered (.text (token :: rest.takeWhile (!·.kind.isDirective)))) (token :: rest)
        (rest.dropWhile (!·.kind.isDirective)) := by
  have parts : token :: rest = (token :: rest.takeWhile (!·.kind.isDirective)) ++
      rest.dropWhile (!·.kind.isDirective) := by simp
  have maximal : ∀ other ∈ (rest.dropWhile (!·.kind.isDirective)).head?,
      other.kind.isDirective = true := by
    intro other found
    have stops := List.head?_dropWhile_not (!·.kind.isDirective) rest
    rw [Option.mem_def.1 found] at stops
    simpa using stops
  rw [parts]
  refine ⟨.text (List.cons_ne_nil _ _) ?_ maximal, spells_text _ _⟩
  intro other found
  rcases List.mem_cons.1 found with same | later
  · rw [same]
    exact ordinary
  · simpa using List.all_eq_true.1 List.all_takeWhile other later

section Reading

variable (last : Location) {tail : List Token} (ended : ChunkReader.headKind tail = .eof)

include ended

section Word

variable {fuel : Nat} (ih : Sound last tail fuel) {nested : Bool} {word : Token}
  {others : List Token} {cs : List Chunk} {final : List Token} (inner : Inner (word :: others))
  (read : ChunkReader.chunks last (fuel + 1) nested (word :: others ++ tail) = .ok (cs, final))

include ih inner read

theorem const_sound (isConst : word.kind = .directive .const) :
    Found tail .chunks (renderedAll cs) (word :: others) final := by
  simp only [List.cons_append, ChunkReader.chunks, isConst] at read
  obtain ⟨⟨chunk, afterChunk⟩, first, more⟩ := Stream.bind_ok read
  obtain ⟨⟨later, afterAll⟩, behind, done⟩ := Stream.bind_ok more
  cases done
  obtain ⟨name, sign, value, line, rest, rfl, named, signed, valued, ends, rfl, rfl⟩ :=
    (declaration_iff last ended inner.rest).1 first
  have derives : Derives .chunk (word :: name :: sign :: value :: line) rest :=
    .const isConst named signed valued ends
  apply Found.more derives
  · rw [rendered]
    exact .kind isConst (.token (.kind signed (.token (spells_line_end ends))))
  · exact ih.chunks _ _ _ _ (inner.suffix (derives_suffix derives)) behind

theorem error_sound (isError : word.kind = .directive .error) :
    Found tail .chunks (renderedAll cs) (word :: others) final := by
  simp only [List.cons_append, ChunkReader.chunks, isError] at read
  obtain ⟨⟨chunk, afterChunk⟩, first, more⟩ := Stream.bind_ok read
  obtain ⟨⟨later, afterAll⟩, behind, done⟩ := Stream.bind_ok more
  cases done
  obtain ⟨message, line, rest, rfl, isMessage, ends, rfl, rfl⟩ :=
    (failure_iff last ended inner.rest).1 first
  have derives : Derives .chunk (word :: (message.toList ++ line)) rest :=
    .error isError isMessage ends
  apply Found.more derives
  · rw [rendered]
    cases message with
    | none => exact .kind isError (.noMessage (spells_line_end ends))
    | some said => exact .kind isError (.message (isMessage said rfl) (spells_line_end ends))
  · exact ih.chunks _ _ _ _ (inner.suffix (derives_suffix derives)) behind

theorem conditional_sound (isIf : word.kind = .directive .if_) :
    Found tail .chunks (renderedAll cs) (word :: others) final := by
  simp only [List.cons_append, ChunkReader.chunks, isIf] at read
  obtain ⟨⟨test, afterTest⟩, tested, more⟩ := Stream.bind_ok read
  obtain ⟨⟨body, afterBody⟩, main, more⟩ := Stream.bind_ok more
  obtain ⟨⟨bs, afterBranches⟩, branched, more⟩ := Stream.bind_ok more
  obtain ⟨⟨o, afterElse⟩, elsed, more⟩ := Stream.bind_ok more
  obtain ⟨⟨close, afterClose⟩, closed, more⟩ := Stream.bind_ok more
  obtain ⟨afterLine, finish, more⟩ := Stream.bind_ok more
  obtain ⟨⟨later, afterAll⟩, behind, done⟩ := Stream.bind_ok more
  cases done
  obtain ⟨line, inside, rfl, isTest, ends, rfl⟩ :=
    (condition_line_iff last ended inner.rest).1 tested
  have innerBody := inner.rest.rest.suffix (ends_line_suffix ends)
  obtain ⟨elseIfs, bodyDerives, bodySpells, rfl⟩ := ih.chunks _ _ _ _ innerBody main
  have innerBranches := innerBody.suffix (derives_suffix bodyDerives)
  obtain ⟨otherwise, branchesDerive, branchesSpell, rfl⟩ := ih.branches _ _ _ innerBranches branched
  have innerElse := innerBranches.suffix (derives_suffix branchesDerive)
  obtain ⟨closing, elseDerives, elseSpells, rfl⟩ := ih.otherwise _ _ _ innerElse elsed
  have innerClosing := innerElse.suffix (derives_suffix elseDerives)
  obtain ⟨rest, rfl, isEnd, rfl⟩ := (expect_iff last ended rfl).1 closed
  obtain ⟨rest, closes, rfl⟩ := (line_end_iff last ended innerClosing.rest).1 finish
  replace isEnd : close.kind = .directive .endIf := by simpa using isEnd
  have derives : Derives .chunk (word :: test :: line) rest :=
    .conditional isIf isTest ends bodyDerives branchesDerive elseDerives isEnd closes
  apply Found.more derives
  · have opening : Spells [.kind (.directive .if_), .token test, .lineEnd]
        (word :: test :: line) inside :=
      .kind isIf (.token (spells_line_end ends))
    rw [rendered]
    exact (((opening.append bodySpells).append branchesSpell).append elseSpells).append
      (.kind isEnd (spells_line_end closes))
  · exact ih.chunks _ _ _ _ (inner.suffix (derives_suffix derives)) behind

theorem text_sound (ordinary : word.kind.isDirective = false) :
    Found tail .chunks (renderedAll cs) (word :: others) final := by
  have more := inner word List.mem_cons_self
  obtain ⟨derives, spells⟩ := text_derives ordinary others
  rw [List.cons_append, chunks_ordinary last more ordinary] at read
  obtain ⟨⟨later, afterAll⟩, behind, done⟩ := Stream.bind_ok read
  cases done
  rw [drop_ordinary ended inner.rest] at behind
  rw [take_ordinary ended inner.rest]
  exact Found.more derives spells (ih.chunks _ _ _ _ (inner.suffix (derives_suffix derives)) behind)

end Word

theorem chunks_sound {fuel : Nat} (ih : Sound last tail fuel) (nested : Bool) (tokens : List Token)
    (cs : List Chunk) (final : List Token) (inner : Inner tokens)
    (read : ChunkReader.chunks last (fuel + 1) nested (tokens ++ tail) = .ok (cs, final)) :
    Found tail .chunks (renderedAll cs) tokens final := by
  cases tokens with
  | nil =>
    rw [List.nil_append, chunks_at_end last ended] at read
    cases nested with
    | true => cases read
    | false =>
      cases read
      exact ⟨[], .none [], .nothing [], rfl⟩
  | cons word others =>
    cases kind : word.kind with
    | directive directive =>
      cases directive with
      | const => exact const_sound last ended ih inner read kind
      | error => exact error_sound last ended ih inner read kind
      | if_ => exact conditional_sound last ended ih inner read kind
      | elseIf | else_ | endIf =>
        -- The construct that is read goes no further; outside of any, there is nothing to go on or
        -- to close.
        simp only [List.cons_append, ChunkReader.chunks, kind] at read
        cases nested with
        | true =>
          cases read
          exact ⟨word :: others, .none _, .nothing _, rfl⟩
        | false => cases read
    | symbol | identifier | string | integer | longInteger | float | double | message | word
    | newline | eof =>
      exact text_sound last ended ih inner read (by rw [kind]; rfl)

omit ended in
theorem branches_stop (fuel : Nat) {tokens : List Token}
    (other : ChunkReader.headKind tokens ≠ .directive .elseIf) :
    ChunkReader.branches last (fuel + 1) tokens = .ok ([], tokens) := by
  cases tokens with
  | nil => rfl
  | cons token rest =>
    have other : token.kind ≠ .directive .elseIf := other
    simp only [ChunkReader.branches, other, if_false]

omit ended in
theorem else_stop (fuel : Nat) {tokens : List Token}
    (other : ChunkReader.headKind tokens ≠ .directive .else_) :
    ChunkReader.elseBranch last (fuel + 1) tokens = .ok (none, tokens) := by
  cases tokens with
  | nil => rfl
  | cons token rest =>
    have other : token.kind ≠ .directive .else_ := other
    simp only [ChunkReader.elseBranch, other, if_false]

theorem head_inner {tokens : List Token} {directive : Directive}
    (heads : ChunkReader.headKind (tokens ++ tail) = .directive directive) :
    ∃ token rest, tokens = token :: rest ∧ token.kind = .directive directive := by
  cases tokens with
  | nil =>
    rw [List.nil_append, ended] at heads
    cases heads
  | cons token rest => exact ⟨token, rest, rfl, heads⟩

theorem branches_sound {fuel : Nat} (ih : Sound last tail fuel) (tokens : List Token)
    (bs : List Branch) (final : List Token) (inner : Inner tokens)
    (read : ChunkReader.branches last (fuel + 1) (tokens ++ tail) = .ok (bs, final)) :
    Found tail .elseIfs (renderedBranches bs) tokens final := by
  by_cases heads : ChunkReader.headKind (tokens ++ tail) = .directive .elseIf
  · obtain ⟨token, others, rfl, kind⟩ := head_inner ended heads
    simp only [List.cons_append, ChunkReader.branches, kind, if_true] at read
    obtain ⟨⟨test, afterTest⟩, tested, more⟩ := Stream.bind_ok read
    obtain ⟨⟨body, afterBody⟩, main, more⟩ := Stream.bind_ok more
    obtain ⟨⟨later, afterAll⟩, behind, done⟩ := Stream.bind_ok more
    cases done
    obtain ⟨line, inside, rfl, isTest, ends, rfl⟩ :=
      (condition_line_iff last ended inner.rest).1 tested
    have innerBody := inner.rest.rest.suffix (ends_line_suffix ends)
    obtain ⟨middle, bodyDerives, bodySpells, rfl⟩ := ih.chunks _ _ _ _ innerBody main
    have innerLater := innerBody.suffix (derives_suffix bodyDerives)
    obtain ⟨rest, laterDerives, laterSpells, rfl⟩ := ih.branches _ _ _ innerLater behind
    refine ⟨rest, .elseIf kind isTest ends bodyDerives laterDerives, ?_, rfl⟩
    have opening : Spells [.kind (.directive .elseIf), .token test, .lineEnd]
        (token :: test :: line) inside :=
      .kind kind (.token (spells_line_end ends))
    rw [renderedBranches]
    exact (opening.append bodySpells).append laterSpells
  · rw [branches_stop last fuel heads] at read
    cases read
    exact ⟨tokens, .noElseIf tokens, .nothing tokens, rfl⟩

theorem else_sound {fuel : Nat} (ih : Sound last tail fuel) (tokens : List Token)
    (o : Option (List Chunk)) (final : List Token) (inner : Inner tokens)
    (read : ChunkReader.elseBranch last (fuel + 1) (tokens ++ tail) = .ok (o, final)) :
    Found tail .otherwise (renderedElse o) tokens final := by
  by_cases heads : ChunkReader.headKind (tokens ++ tail) = .directive .else_
  · obtain ⟨token, others, rfl, kind⟩ := head_inner ended heads
    simp only [List.cons_append, ChunkReader.elseBranch, kind, if_true] at read
    obtain ⟨afterLine, line, more⟩ := Stream.bind_ok read
    obtain ⟨⟨body, afterBody⟩, main, done⟩ := Stream.bind_ok more
    cases done
    obtain ⟨inside, ends, rfl⟩ := (line_end_iff last ended inner.rest).1 line
    have innerBody := inner.rest.suffix (ends_line_suffix ends)
    obtain ⟨rest, bodyDerives, bodySpells, rfl⟩ := ih.chunks _ _ _ _ innerBody main
    exact ⟨rest, .else_ kind ends bodyDerives, .kind kind (.lineEnd ends bodySpells), rfl⟩
  · rw [else_stop last fuel heads] at read
    cases read
    exact ⟨tokens, .noElse tokens, .nothing tokens, rfl⟩

theorem reads_sound (fuel : Nat) : Sound last tail fuel := by
  induction fuel with
  | zero =>
    exact ⟨fun _ _ _ _ _ read => (nomatch read), fun _ _ _ _ read => (nomatch read),
      fun _ _ _ _ read => (nomatch read)⟩
  | succ fuel ih =>
    exact ⟨chunks_sound last ended ih, branches_sound last ended ih, else_sound last ended ih⟩

end Reading

theorem chunk_shorter {tokens rest : List Token} (derives : Derives .chunk tokens rest) :
    rest.length < tokens.length := by
  cases derives with
  | text some _ _ =>
    have := List.length_pos_iff.2 some
    rw [List.length_append]
    omega
  | const _ _ _ _ ends =>
    have := (ends_line_suffix ends).length_le
    simp only [List.length_cons]
    omega
  | error _ _ ends =>
    have := (ends_line_suffix ends).length_le
    simp only [List.length_cons, List.length_append]
    omega
  | conditional _ _ ends inside others last _ closed =>
    have := (ends_line_suffix ends).length_le
    have := (derives_suffix inside).length_le
    have := (derives_suffix others).length_le
    have := (derives_suffix last).length_le
    have := (ends_line_suffix closed).length_le
    simp only [List.length_cons] at *
    omega

theorem closing_of {tokens : List Token} {directive : Directive}
    (heads : ChunkReader.headKind tokens = .directive directive)
    (closes : directive = .elseIf ∨ directive = .else_ ∨ directive = .endIf) :
    Stream.closing tokens = true := by
  rcases closes with rfl | rfl | rfl <;> simp [Stream.closing, heads]

theorem else_closing {tokens rest : List Token} (derives : Derives .otherwise tokens rest)
    (ends : ChunkReader.headKind rest = .directive .endIf) :
    Stream.closing tokens = true ∧ ChunkReader.headKind tokens ≠ .directive .elseIf := by
  cases derives with
  | noElse => exact ⟨closing_of ends (by simp), by simp [ends]⟩
  | @else_ word line _ _ isElse =>
    have heads : ChunkReader.headKind (word :: line) = .directive .else_ := isElse
    exact ⟨closing_of heads (by simp), by simp [heads]⟩

theorem else_ifs_closing {tokens rest : List Token} (derives : Derives .elseIfs tokens rest)
    (closes : Stream.closing rest = true) : Stream.closing tokens = true := by
  cases derives with
  | noElseIf => exact closes
  | @elseIf word test line _ _ _ isElseIf =>
    have heads : ChunkReader.headKind (word :: test :: line) = .directive .elseIf := isElseIf
    exact closing_of heads (by simp)

-- What is derived at the head of the tokens is read there, given a fuel above their number. The
-- reader of chunks goes on for as long as it can: chunks are read up to where a construct or the
-- stream ends.
def Part.Reads (last : Location) (tail : List Token) : Part → List Token → List Token → Prop
  | .chunks, tokens, rest => ∀ fuel nested, tokens.length < fuel →
    (if nested then Stream.closing rest = true else rest = []) →
      ∃ cs, ChunkReader.chunks last fuel nested (tokens ++ tail) = .ok (cs, rest ++ tail)
  | .chunk, tokens, rest => ∀ fuel nested later final, tokens.length ≤ fuel →
    ChunkReader.chunks last fuel nested (rest ++ tail) = .ok (later, final) →
      ∃ cs, ChunkReader.chunks last (fuel + 1) nested (tokens ++ tail) = .ok (cs, final)
  | .elseIfs, tokens, rest => ∀ fuel, tokens.length < fuel → Stream.closing rest = true →
    ChunkReader.headKind rest ≠ .directive .elseIf →
      ∃ bs, ChunkReader.branches last fuel (tokens ++ tail) = .ok (bs, rest ++ tail)
  | .otherwise, tokens, rest =>
    ∀ fuel, tokens.length < fuel → ChunkReader.headKind rest = .directive .endIf →
    ∃ o, ChunkReader.elseBranch last fuel (tokens ++ tail) = .ok (o, rest ++ tail)

section Reading

variable (last : Location) {tail : List Token}

theorem head_kind_append {tokens : List Token} (closes : Stream.closing tokens = true) :
    ChunkReader.headKind (tokens ++ tail) = ChunkReader.headKind tokens := by
  cases tokens with
  | nil => cases closes
  | cons token rest => rfl

theorem chunks_closing (fuel : Nat) {tokens : List Token} (closes : Stream.closing tokens = true) :
    ChunkReader.chunks last (fuel + 1) true (tokens ++ tail) = .ok ([], tokens ++ tail) := by
  cases tokens with
  | nil => cases closes
  | cons token rest =>
    rcases Stream.closing_cases closes with kind | kind | kind <;>
      simp [ChunkReader.chunks, kind]

variable (ended : ChunkReader.headKind tail = .eof)

include ended

theorem none_reads (rest : List Token) : Part.Reads last tail .chunks rest rest := by
  intro fuel nested enough stops
  obtain ⟨fuel, rfl⟩ := Nat.exists_eq_add_one_of_ne_zero (Nat.ne_zero_of_lt enough)
  cases nested with
  | true => exact ⟨[], chunks_closing last fuel stops⟩
  | false =>
    have stops : rest = [] := stops
    rw [stops]
    exact ⟨[], chunks_at_end last ended fuel false⟩

omit ended in
theorem more_reads {tokens middle rest : List Token} (shorter : middle.length < tokens.length)
    (first : Part.Reads last tail .chunk tokens middle)
    (later : Part.Reads last tail .chunks middle rest) :
    Part.Reads last tail .chunks tokens rest := by
  intro fuel nested enough stops
  obtain ⟨fuel, rfl⟩ := Nat.exists_eq_add_one_of_ne_zero (Nat.ne_zero_of_lt enough)
  obtain ⟨cs, read⟩ := later fuel nested (by omega) stops
  exact first fuel nested cs _ (by omega) read

theorem text_reads {run rest : List Token} (inner : Inner (run ++ rest)) (some : run ≠ [])
    (ordinary : ∀ token ∈ run, token.kind.isDirective = false)
    (maximal : ∀ token ∈ rest.head?, token.kind.isDirective = true) :
    Part.Reads last tail .chunk (run ++ rest) rest := by
  intro fuel nested later final _ read
  cases run with
  | nil => exact absurd rfl some
  | cons token others =>
    obtain ⟨plain, allPlain⟩ := List.forall_mem_cons.1 ordinary
    have dropped : (others ++ rest).dropWhile (!·.kind.isDirective) = rest := by
      rw [List.dropWhile_append_of_pos (fun other found => by simp [allPlain other found])]
      cases rest with
      | nil => rfl
      | cons first behind => simp [maximal first rfl]
    have more := inner token List.mem_cons_self
    rw [List.cons_append] at inner
    rw [← dropped, ← drop_ordinary ended inner.rest] at read
    refine ⟨.text (token :: (others ++ rest ++ tail).takeWhile ChunkReader.isOrdinary) :: later, ?_⟩
    rw [List.cons_append, List.cons_append, chunks_ordinary last more plain]
    exact bind_made read rfl

theorem const_reads {word name sign value : Token} {line rest : List Token}
    (inner : Inner (word :: name :: sign :: value :: line))
    (isConst : word.kind = .directive .const) (named : name.kind = .identifier)
    (signed : sign.kind = .symbol .equal) (valued : Stream.isTest value = true)
    (ends : EndsLine line rest) : Part.Reads last tail .chunk
    (word :: name :: sign :: value :: line) rest := by
  intro fuel nested later final _ read
  refine ⟨.declaration name value :: later, ?_⟩
  simp only [List.cons_append, ChunkReader.chunks, isConst]
  apply bind_made ((declaration_iff last ended inner.rest).2
    ⟨name, sign, value, line, rest, rfl, named, signed, valued, ends, rfl, rfl⟩)
  exact bind_made read rfl

theorem error_reads {word : Token} {message : Option Token} {line rest : List Token}
    (inner : Inner (word :: (message.toList ++ line))) (isError : word.kind = .directive .error)
    (isMessage : ∀ token ∈ message, token.kind = .message) (ends : EndsLine line rest) :
    Part.Reads last tail .chunk (word :: (message.toList ++ line)) rest := by
  intro fuel nested later final _ read
  refine ⟨.failure (message.elim "" ChunkReader.messageText) word.location :: later, ?_⟩
  simp only [List.cons_append, ChunkReader.chunks, isError]
  apply bind_made ((failure_iff last ended inner.rest).2
    ⟨message, line, rest, rfl, isMessage, ends, rfl, rfl⟩)
  exact bind_made read rfl

theorem conditional_reads {word test close : Token}
    {line body elseIfs otherwise final rest : List Token} (inner : Inner (word :: test :: line))
    (isIf : word.kind = .directive .if_) (tested : Stream.isTest test = true)
    (ends : EndsLine line body) (inside : Derives .chunks body elseIfs)
    (others : Derives .elseIfs elseIfs otherwise)
    (finalElse : Derives .otherwise otherwise (close :: final))
    (isEnd : close.kind = .directive .endIf) (closed : EndsLine final rest)
    (bodyReads : Part.Reads last tail .chunks body elseIfs)
    (branchesRead : Part.Reads last tail .elseIfs elseIfs otherwise)
    (elseReads : Part.Reads last tail .otherwise otherwise (close :: final)) :
    Part.Reads last tail .chunk (word :: test :: line) rest := by
  intro fuel nested later behind enough read
  have lineLength := (ends_line_suffix ends).length_le
  have bodyLength := (derives_suffix inside).length_le
  have branchesLength := (derives_suffix others).length_le
  simp only [List.length_cons] at enough
  obtain ⟨elseCloses, noElseIf⟩ := else_closing finalElse isEnd
  have bodyCloses := else_ifs_closing others elseCloses
  obtain ⟨cs, body_read⟩ := bodyReads fuel true (by omega) bodyCloses
  obtain ⟨bs, branches_read⟩ := branchesRead fuel (by omega) elseCloses noElseIf
  obtain ⟨o, else_read⟩ := elseReads fuel (by omega) isEnd
  have innerClosing : Inner (close :: final) :=
    inner.rest.rest.suffix ((derives_suffix finalElse).trans ((derives_suffix others).trans
      ((derives_suffix inside).trans (ends_line_suffix ends))))
  refine ⟨.conditional test cs bs o (word.location.through close.location) :: later, ?_⟩
  simp only [List.cons_append, ChunkReader.chunks, isIf]
  apply bind_made ((condition_line_iff last ended inner.rest).2
    ⟨line, body, rfl, tested, ends, rfl⟩)
  apply bind_made body_read
  apply bind_made branches_read
  apply bind_made else_read
  apply bind_made ((expect_iff last ended rfl).2 ⟨final, rfl, by simpa using isEnd, rfl⟩)
  apply bind_made ((line_end_iff last ended innerClosing.rest).2 ⟨rest, closed, rfl⟩)
  exact bind_made read rfl

omit ended in
theorem no_else_if_reads (rest : List Token) : Part.Reads last tail .elseIfs rest rest := by
  intro fuel enough closes other
  obtain ⟨fuel, rfl⟩ := Nat.exists_eq_add_one_of_ne_zero (Nat.ne_zero_of_lt enough)
  exact ⟨[], branches_stop last fuel (by rwa [head_kind_append closes])⟩

theorem else_if_reads {word test : Token} {line body middle rest : List Token}
    (inner : Inner (word :: test :: line)) (isElseIf : word.kind = .directive .elseIf)
    (tested : Stream.isTest test = true) (ends : EndsLine line body)
    (inside : Derives .chunks body middle) (later : Derives .elseIfs middle rest)
    (bodyReads : Part.Reads last tail .chunks body middle)
    (laterRead : Part.Reads last tail .elseIfs middle rest) :
    Part.Reads last tail .elseIfs (word :: test :: line) rest := by
  intro fuel enough closes other
  obtain ⟨fuel, rfl⟩ := Nat.exists_eq_add_one_of_ne_zero (Nat.ne_zero_of_lt enough)
  have lineLength := (ends_line_suffix ends).length_le
  have bodyLength := (derives_suffix inside).length_le
  simp only [List.length_cons] at enough
  obtain ⟨cs, body_read⟩ := bodyReads fuel true (by omega) (else_ifs_closing later closes)
  obtain ⟨bs, later_read⟩ := laterRead fuel (by omega) closes other
  refine ⟨.mk test cs :: bs, ?_⟩
  simp only [List.cons_append, ChunkReader.branches, isElseIf, if_true]
  apply bind_made ((condition_line_iff last ended inner.rest).2
    ⟨line, body, rfl, tested, ends, rfl⟩)
  exact bind_made body_read (bind_made later_read rfl)

omit ended in
theorem no_else_reads (rest : List Token) : Part.Reads last tail .otherwise rest rest := by
  intro fuel enough ends
  obtain ⟨fuel, rfl⟩ := Nat.exists_eq_add_one_of_ne_zero (Nat.ne_zero_of_lt enough)
  have other : ChunkReader.headKind (rest ++ tail) ≠ .directive .else_ := by
    rw [head_kind_append (closing_of ends (by simp)), ends]
    nofun
  exact ⟨none, else_stop last fuel other⟩

theorem else_reads {word : Token} {line body rest : List Token} (inner : Inner (word :: line))
    (isElse : word.kind = .directive .else_) (ends : EndsLine line body)
    (bodyReads : Part.Reads last tail .chunks body rest) :
    Part.Reads last tail .otherwise (word :: line) rest := by
  intro fuel enough closes
  obtain ⟨fuel, rfl⟩ := Nat.exists_eq_add_one_of_ne_zero (Nat.ne_zero_of_lt enough)
  have lineLength := (ends_line_suffix ends).length_le
  simp only [List.length_cons] at enough
  obtain ⟨cs, body_read⟩ := bodyReads fuel true (by omega) (closing_of closes (by simp))
  refine ⟨some cs, ?_⟩
  simp only [List.cons_append, ChunkReader.elseBranch, isElse, if_true]
  apply bind_made ((line_end_iff last ended inner.rest).2 ⟨body, ends, rfl⟩)
  exact bind_made body_read rfl

theorem derives_reads {part : Part} {tokens rest : List Token}
    (derives : Derives part tokens rest) :
    Inner tokens → Part.Reads last tail part tokens rest := by
  induction derives with
  | none rest => exact fun _ => none_reads last ended rest
  | more first _ firstReads laterReads =>
    exact fun inner => more_reads last (chunk_shorter first) (firstReads inner)
      (laterReads (inner.suffix (derives_suffix first)))
  | text some ordinary maximal =>
    exact fun inner => text_reads last ended inner some ordinary maximal
  | const isConst named signed valued ends =>
    exact fun inner => const_reads last ended inner isConst named signed valued ends
  | error isError isMessage ends =>
    exact fun inner => error_reads last ended inner isError isMessage ends
  | conditional isIf tested ends inside others finalElse isEnd closed bodyReads branchesRead
      elseReads =>
    intro inner
    have innerBody := inner.rest.rest.suffix (ends_line_suffix ends)
    have innerBranches := innerBody.suffix (derives_suffix inside)
    have innerElse := innerBranches.suffix (derives_suffix others)
    exact conditional_reads last ended inner isIf tested ends inside others finalElse isEnd closed
      (bodyReads innerBody)
      (branchesRead innerBranches) (elseReads innerElse)
  | noElseIf rest => exact fun _ => no_else_if_reads last rest
  | elseIf isElseIf tested ends inside later bodyReads laterRead =>
    intro inner
    have innerBody := inner.rest.rest.suffix (ends_line_suffix ends)
    exact else_if_reads last ended inner isElseIf tested ends inside later (bodyReads innerBody)
      (laterRead (innerBody.suffix (derives_suffix inside)))
  | noElse rest => exact fun _ => no_else_reads last rest
  | else_ isElse ends _ bodyReads =>
    exact fun inner => else_reads last ended inner isElse ends
      (bodyReads (inner.rest.suffix (ends_line_suffix ends)))

end Reading

end Directives

def beforeEof (tokens : List Token) : List Token :=
  tokens.takeWhile (·.kind != .eof)

theorem before_eof_inner (tokens : List Token) : Directives.Inner (beforeEof tokens) := by
  intro token found
  simpa using List.all_eq_true.1 List.all_takeWhile token found

theorem before_eof_append (tokens : List Token) :
    ∃ tail, tokens = beforeEof tokens ++ tail ∧ ChunkReader.headKind tail = .eof := by
  refine ⟨tokens.dropWhile (·.kind != .eof), (List.takeWhile_append_dropWhile).symm, ?_⟩
  have stops := List.head?_dropWhile_not (·.kind != .eof) tokens
  unfold ChunkReader.headKind
  split at stops
  · rename_i finish found
    simpa [found] using stops
  · rename_i found
    rw [found]
    rfl

theorem parse_chunks_sound {tokens : List Token} {chunks : List Chunk}
    (parsed : parseChunks tokens = .ok chunks) : Directives.Derives .chunks (beforeEof tokens) [] ∧
      Directives.Spells (Directives.renderedAll chunks) (beforeEof tokens) [] := by
  obtain ⟨⟨cs, final⟩, read, rfl⟩ := Stream.map_ok parsed
  have ends := ((Stream.reads_forward _ _).chunks _ _ _ _ read).2
  obtain ⟨tail, parts, ended⟩ := before_eof_append tokens
  have inner := before_eof_inner tokens
  generalize tokens.getLast?.elim Location.internal Token.location = last at read
  generalize tokens.length + 1 = fuel at read
  rw [parts] at read
  obtain ⟨rest, derives, spells, rfl⟩ :=
    (Directives.reads_sound last ended fuel).chunks _ _ _ _ inner read
  cases rest with
  | nil => exact ⟨derives, spells⟩
  | cons token others =>
    exact absurd ends (inner.suffix (Directives.derives_suffix derives) token List.mem_cons_self)

theorem parse_chunks_complete {tokens : List Token}
    (derives : Directives.Derives .chunks (beforeEof tokens) []) :
    ∃ chunks, parseChunks tokens = .ok chunks := by
  obtain ⟨tail, parts, ended⟩ := before_eof_append tokens
  have short : (beforeEof tokens).length < tokens.length + 1 :=
    Nat.lt_succ_of_le (List.takeWhile_sublist _).length_le
  unfold parseChunks
  dsimp only
  generalize tokens.getLast?.elim Location.internal Token.location = last
  obtain ⟨cs, read⟩ :=
    Directives.derives_reads last ended derives (before_eof_inner tokens) _ false short rfl
  rw [← parts] at read
  exact ⟨cs, by rw [read]; rfl⟩

/-- The reader of chunks accepts the streams of the grammar of directives and no others. The chunks
spell the stream they were made of, and a stream that is refused gives one error and no chunks; the
streams whose directives do not nest are among these. -/
theorem chunks_follow_grammar (tokens : List Token) :
    ((∃ chunks, parseChunks tokens = .ok chunks) ↔
      Directives.Derives .chunks (beforeEof tokens) []) ∧
      (∀ chunks, parseChunks tokens = .ok chunks →
        Directives.Spells (Directives.renderedAll chunks) (beforeEof tokens) []) ∧
      (¬ Directives.Derives .chunks (beforeEof tokens) [] →
        ∃ error, parseChunks tokens = .error error ∧
          ∀ constants, preprocess tokens constants = ⟨closeStream [], [error]⟩) ∧
      (Directives.nests [] (beforeEof tokens) = false →
        ∃ error, parseChunks tokens = .error error) := by
  have accepted : (∃ chunks, parseChunks tokens = .ok chunks) ↔
      Directives.Derives .chunks (beforeEof tokens) [] :=
    ⟨fun ⟨_, parsed⟩ => (parse_chunks_sound parsed).1, parse_chunks_complete⟩
  have refused (outside : ¬ Directives.Derives .chunks (beforeEof tokens) []) :
      ∃ error, parseChunks tokens = .error error := by
    cases parsed : parseChunks tokens with
    | ok chunks => exact absurd (accepted.1 ⟨chunks, parsed⟩) outside
    | error error => exact ⟨error, rfl⟩
  refine ⟨accepted, fun chunks parsed => (parse_chunks_sound parsed).2, ?_, ?_⟩
  · intro outside
    obtain ⟨error, failed⟩ := refused outside
    exact ⟨error, failed, fun constants => by simp only [preprocess, failed]⟩
  · intro crossed
    apply refused
    intro derives
    have nested := Directives.derives_nests derives []
    rw [crossed] at nested
    cases nested

end BrightScript
