import BrightScript.Proofs.Directives
set_option autoImplicit false

namespace BrightScript

namespace Stream

theorem declare_kept {r next : Reader} {name value : Token}
    (declares : r.declare name value = some next) : next.kept = r.kept := by
  unfold Reader.declare at declares
  split at declares
  · split at declares
    · cases declares
    · obtain ⟨_, _, rfl⟩ := Option.map_eq_some_iff.1 declares
      rfl
  · cases declares
    rfl

theorem open_if_kept {r next : Reader} {test : Token} (opens : r.openIf test = some next) :
    next.kept = r.kept := by
  unfold Reader.openIf at opens
  split at opens
  · obtain ⟨_, _, rfl⟩ := Option.map_eq_some_iff.1 opens
    rfl
  · cases opens
    rfl

theorem else_if_kept {r next : Reader} {test : Token} (goes : r.elseIf test = some next) :
    next.kept = r.kept := by
  unfold Reader.elseIf at goes
  split at goes
  · cases goes
  · split at goes
    · obtain ⟨_, _, rfl⟩ := Option.map_eq_some_iff.1 goes
      rfl
    · cases goes
      rfl

theorem fresh_kept {constants : Constants} {stack : List OpenIf} {kept : List Token} {next : Reader}
    {token : Token} (steps : (between constants stack kept).fresh token = some next)
    (more : token.kind ≠ .eof) :
    next.kept = kept ∨ next.kept = kept ++ [token] ∧ ChunkReader.isOrdinary token = true := by
  by_cases ordinary : ChunkReader.isOrdinary token = true
  · rw [fresh_ordinary constants stack kept token ordinary] at steps
    cases steps
    by_cases reached : allTaken stack = true
    · exact .inr ⟨by simp [reached], ordinary⟩
    · exact .inl (by simp [reached])
  · obtain ⟨directive, kind⟩ : ∃ directive, token.kind = .directive directive := by
      cases kind : token.kind <;> simp_all [ChunkReader.isOrdinary, Lexeme.isDirective]
    left
    unfold Reader.fresh at steps
    cases directive <;> grind

theorem step_kept {r next : Reader} {token : Token} (steps : r.step token = some next)
    (more : token.kind ≠ .eof) :
    next.kept = r.kept ∨ next.kept = r.kept ++ [token] ∧ ChunkReader.isOrdinary token = true := by
  obtain ⟨constants, stack, lacks, kept⟩ := r
  cases lacks with
  | nothing => exact fresh_kept steps more
  | constName | equalSign name | message | lineEnd =>
    left
    unfold Reader.step at steps
    grind
  | constValue name =>
    left
    simp only [Reader.step] at steps
    split at steps
    · exact declare_kept steps
    · cases steps
  | ifCondition =>
    left
    simp only [Reader.step] at steps
    split at steps
    · exact open_if_kept steps
    · cases steps
  | elseIfCondition =>
    left
    simp only [Reader.step] at steps
    split at steps
    · exact else_if_kept steps
    · cases steps

theorem finish_kept {r : Reader} {kept : List Token} (finishes : r.finish = some kept) :
    kept = r.kept := by
  unfold Reader.finish at finishes
  split at finishes <;> cases finishes
  all_goals rfl

theorem run_kept {r : Reader} {tokens kept : List Token} (runs : r.run tokens = some kept) :
    ∃ later, kept = r.kept ++ later ∧ later.Sublist (beforeEof tokens) ∧
      ∀ token ∈ later, ChunkReader.isOrdinary token = true := by
  induction tokens generalizing r with
  | nil => exact ⟨[], by simp [finish_kept runs], List.nil_sublist _, by simp⟩
  | cons token rest ih =>
    by_cases ended : token.kind = .eof
    · rw [Reader.run, if_pos ended] at runs
      exact ⟨[], by simp [finish_kept runs], List.nil_sublist _, by simp⟩
    · rw [Reader.run, if_neg ended] at runs
      obtain ⟨next, steps, runs⟩ := Option.bind_eq_some_iff.1 runs
      obtain ⟨later, same, inside, ordinary⟩ := ih runs
      have parts : beforeEof (token :: rest) = token :: beforeEof rest := by simp [beforeEof, ended]
      rw [parts]
      rcases step_kept steps ended with unchanged | ⟨added, plain⟩
      · exact ⟨later, by rw [same, unchanged], inside.cons token, ordinary⟩
      · refine ⟨token :: later, by simp [same, added], inside.cons_cons token, ?_⟩
        exact List.forall_mem_cons.2 ⟨plain, ordinary⟩

end Stream

theorem preprocess_cases (tokens : List Token) (constants : Constants) :
    (∃ kept, stream tokens constants = some kept ∧
      preprocess tokens constants = ⟨closeStream kept, []⟩) ∨
      stream tokens constants = none ∧
        ∃ error, preprocess tokens constants = ⟨closeStream [], [error]⟩ := by
  rw [stream_eq]
  unfold preprocess filterChunks
  cases parseChunks tokens with
  | error error => exact .inr ⟨rfl, error, rfl⟩
  | ok chunks =>
    cases selected : Chunk.selectAll constants chunks with
    | error error => exact .inr ⟨by simp [selected], error, by simp only [selected]⟩
    | ok pair => exact .inl ⟨pair.1, by simp [selected], by simp only [selected]⟩

theorem stream_ordinary {kept : List Token}
    (ordinary : ∀ token ∈ kept, ChunkReader.isOrdinary token = true) (constants : Constants) :
    stream (closeStream kept) constants = some kept := by
  unfold stream closeStream
  rw [Stream.run_ordinary constants [] [] kept _ ordinary]
  simp [Stream.behind, Stream.allTaken, Chunk.select, Stream.Reader.run, Stream.Reader.finish,
    Token.eofAt]

theorem preprocess_ordinary {kept : List Token}
    (ordinary : ∀ token ∈ kept, ChunkReader.isOrdinary token = true) (constants : Constants) :
    preprocess (closeStream kept) constants = ⟨closeStream kept, []⟩ := by
  rcases preprocess_cases (closeStream kept) constants with ⟨others, streams, same⟩ | ⟨fails, _⟩
  · rw [stream_ordinary ordinary] at streams
    obtain rfl := Option.some.inj streams
    exact same
  · rw [stream_ordinary ordinary] at fails
    cases fails

/-- What comes out are tokens from before the end of the stream, in the order they stand there, with
one end behind them; no directive and no other end is among them. A fault is the only one reported,
and then the end is all that comes out. Done once more, with any constants, conditional compilation
reports nothing and changes nothing, not even the place of the end. -/
theorem preprocessed_clean (tokens : List Token) (constants : Constants) :
    (∃ kept location, (preprocess tokens constants).tokens = kept ++ [Token.eofAt location] ∧
      kept.Sublist (beforeEof tokens) ∧
      ∀ token ∈ kept, token.kind ≠ .eof ∧ ∀ directive, token.kind ≠ .directive directive) ∧
    ((preprocess tokens constants).errors ≠ [] → ∃ error location,
      preprocess tokens constants = ⟨[Token.eofAt location], [error]⟩) ∧
    ∀ others, preprocess (preprocess tokens constants).tokens others =
      ⟨(preprocess tokens constants).tokens, []⟩ := by
  rcases preprocess_cases tokens constants with ⟨kept, streams, same⟩ | ⟨fails, error, same⟩
  · obtain ⟨later, rfl, inside, ordinary⟩ := Stream.run_kept streams
    rw [same]
    refine ⟨⟨kept, _, rfl, inside, ?_⟩, fun reported => absurd rfl reported,
      preprocess_ordinary ordinary⟩
    intro token found
    have plain := ordinary token found
    constructor
    · intro ended
      simp [ChunkReader.isOrdinary, ended] at plain
    · intro directive is
      simp [ChunkReader.isOrdinary, Lexeme.isDirective, is] at plain
  · rw [same]
    exact ⟨⟨[], _, rfl, List.nil_sublist _, by simp⟩, fun _ => ⟨error, _, rfl⟩,
      preprocess_ordinary (by simp)⟩

end BrightScript
