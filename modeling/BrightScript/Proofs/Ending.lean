import BrightScript.CommandLine
import BrightScript.Proofs.Composition
import BrightScript.Proofs.Sessions
set_option autoImplicit false

namespace BrightScript

variable {α β : Type}

def EndFree (old new : List Event) : Prop :=
  ∃ events, new = events ++ old ∧ ∀ depth scene, .ended depth scene ∉ events

theorem end_free_refl (journal : List Event) : EndFree journal journal :=
  ⟨[], rfl, fun _ _ => List.not_mem_nil⟩

theorem end_free_note {old new : List Event} {event : Event} (free : EndFree old new)
    (other : ∀ depth scene, event ≠ .ended depth scene) : EndFree old (event :: new) := by
  obtain ⟨events, grown, none⟩ := free
  refine ⟨event :: events, congrArg (event :: ·) grown, ?_⟩
  intro depth scene member
  rcases List.mem_cons.1 member with same | earlier
  · exact other depth scene same.symm
  · exact none depth scene earlier

theorem end_free_trans {first second third : List Event} (old : EndFree first second)
    (new : EndFree second third) : EndFree first third := by
  obtain ⟨earlier, grown, noneEarlier⟩ := old
  obtain ⟨later, grownAgain, noneLater⟩ := new
  refine ⟨later ++ earlier, by rw [grownAgain, grown, List.append_assoc], ?_⟩
  intro depth scene member
  rcases List.mem_append.1 member with isLater | isEarlier
  · exact noneLater depth scene isLater
  · exact noneEarlier depth scene isEarlier

-- From `s` on a single `end` was executed, and it was the last thing that happened on the way to
-- `t`.
structure Stopped (s t : State) (depth : Nat) (scene : Scene) : Prop where
  latest : ∃ journal, t.journal = .ended depth scene :: journal ∧ EndFree s.journal journal
  module : t.module = scene.module
  heap : t.heap = scene.heap
  output : t.output = scene.output
  level : t.depth = s.depth
  inside : s.depth ≤ depth
  -- The variables of a call that was still open are gone with it.
  frame : depth = s.depth → t.frame = scene.frame

-- The calls that were opened are closed again, and if an `end` was executed, it was the last thing
-- to happen.
def Heeds (s : State) : EStateM.Result Halt State α → Prop
  | .error .finish t => ∃ depth scene, Stopped s t depth scene
  | .error _ t | .ok _ t => t.depth = s.depth ∧ EndFree s.journal t.journal

theorem heeds_after {s t : State} (level : t.depth = s.depth) (free : EndFree s.journal t.journal)
    {outcome : EStateM.Result Halt State α} (later : Heeds t outcome) : Heeds s outcome := by
  cases outcome with
  | ok a u => exact ⟨later.1.trans level, end_free_trans free later.2⟩
  | error halt u =>
    cases halt with
    | error _ | exhausted => exact ⟨later.1.trans level, end_free_trans free later.2⟩
    | finish =>
      obtain ⟨depth, scene, stopped⟩ := later
      obtain ⟨journal, grown, none⟩ := stopped.latest
      exact ⟨depth, scene, ⟨journal, grown, end_free_trans free none⟩, stopped.module, stopped.heap,
        stopped.output, stopped.level.trans level, level ▸ stopped.inside, level ▸ stopped.frame⟩

theorem heeds_quiet {x : Exec α} (quiet : Quiet x) (s : State) : Heeds s (x s) := by
  obtain ⟨journal, level, goesOn⟩ := quiet s
  have free : EndFree s.journal (finalState (x s)).journal := journal ▸ end_free_refl s.journal
  cases outcome : x s with
  | ok a t =>
    rw [outcome] at level free
    exact ⟨level, free⟩
  | error halt t =>
    rw [outcome] at level free
    cases halt with
    | error _ | exhausted => exact ⟨level, free⟩
    | finish => exact absurd outcome (goesOn t)

theorem heeds_bind {x : Exec α} {f : α → Exec β} (first : ∀ s, Heeds s (x s))
    (later : ∀ a s, Heeds s (f a s)) (s : State) : Heeds s ((x >>= f) s) := by
  have heeds := first s
  change Heeds s (EStateM.bind x f s)
  unfold EStateM.bind
  cases outcome : x s with
  | ok a t =>
    rw [outcome] at heeds
    exact heeds_after heeds.1 heeds.2 (later a t)
  | error halt t =>
    rw [outcome] at heeds
    cases halt with
    | error _ | exhausted | finish => exact heeds

theorem heeds_note {event : Event} (other : ∀ depth scene, event ≠ .ended depth scene) (s : State) :
    Heeds s (Exec.note event s) :=
  ⟨rfl, end_free_note (end_free_refl s.journal) other⟩

theorem heeds_finish (s : State) : Heeds s ((Exec.finish : Exec α) s) :=
  ⟨s.depth, s.scene, ⟨s.journal, rfl, end_free_refl s.journal⟩, rfl, rfl, rfl, rfl, Nat.le_refl _,
    fun _ => rfl⟩

theorem heeds_in_call (frame : Frame) {body : Exec α} (main : ∀ s, Heeds s (body s)) (s : State) :
    Heeds s (Exec.inCall frame body s) := by
  have heeds := main { s with frame := frame, depth := s.depth + 1 }
  unfold Exec.inCall
  dsimp only
  cases outcome : body { s with frame := frame, depth := s.depth + 1 } with
  | ok a t =>
    rw [outcome] at heeds
    exact ⟨congrArg (· - 1) heeds.1, heeds.2⟩
  | error halt t =>
    rw [outcome] at heeds
    cases halt with
    | error _ | exhausted => exact ⟨congrArg (· - 1) heeds.1, heeds.2⟩
    | finish =>
      obtain ⟨depth, scene, stopped⟩ := heeds
      have deeper : s.depth + 1 ≤ depth := stopped.inside
      exact ⟨depth, scene, stopped.latest, stopped.module, stopped.heap, stopped.output,
        congrArg (· - 1) stopped.level, Nat.le_of_succ_le deeper,
          fun same => absurd (same ▸ deeper) (Nat.not_succ_le_self _)⟩

theorem heeds_handler {body handler : Exec Signal} (name : String) (main : ∀ s, Heeds s (body s))
    (handles : ∀ s, Heeds s (handler s)) (s : State) : Heeds s (tryCatch body name handler s) := by
  have heeds := main s
  unfold tryCatch
  cases outcome : body s with
  | ok signal t =>
    rw [outcome] at heeds
    exact heeds
  | error halt t =>
    rw [outcome] at heeds
    cases halt with
    | exhausted | finish => exact heeds
    | error error =>
      have handled : ∀ u, Heeds u ((do
          Exec.note (.caught error)
          let caught ← Exec.allocate (·.newTable error.cause.entries)
          Exec.define .function name caught
          handler : Exec Signal) u) :=
        heeds_bind (heeds_note fun _ _ => Event.noConfusion) fun _ =>
          heeds_bind (heeds_quiet (quiet_allocate _)) fun value =>
            heeds_bind (heeds_quiet (quiet_define _ name value)) fun _ => handles
      exact heeds_after heeds.1 heeds.2 (handled t)

theorem composed_heeds {x : Exec α} (composed : Composed x) : ∀ s, Heeds s (x s) := by
  induction composed with
  | quiet quiet => exact heeds_quiet quiet
  | bind _ _ first later => exact heeds_bind first later
  | enter function depth => exact heeds_note fun _ _ => Event.noConfusion
  | inCall frame _ main => exact heeds_in_call frame main
  | handle name _ _ main handles => exact heeds_handler name main handles
  | finish => exact heeds_finish

def Ended (before after : State) (depth : Nat) (scene : Scene) : Prop :=
  ∃ events, after.journal = events ++ before.journal ∧ .ended depth scene ∈ events

theorem not_ended_of_free {s t : State} (free : EndFree s.journal t.journal) {depth : Nat}
    {scene : Scene} : ¬ Ended s t depth scene := by
  rintro ⟨events, grown, member⟩
  obtain ⟨noted, same, none⟩ := free
  have alike : events = noted := List.append_cancel_right (grown.symm.trans same)
  exact none depth scene (alike ▸ member)

theorem Stopped.unique {s t : State} {depth other : Nat} {scene twin : Scene}
    (stopped : Stopped s t depth scene) (ended : Ended s t other twin) :
    other = depth ∧ twin = scene := by
  obtain ⟨journal, latest, noted, grown, none⟩ := stopped.latest
  obtain ⟨events, same, member⟩ := ended
  have alike : events = .ended depth scene :: noted := by
    refine List.append_cancel_right (same.symm.trans ?_)
    rw [latest, grown, List.cons_append]
  rw [alike] at member
  rcases List.mem_cons.1 member with last | earlier
  · injection last with depths scenes
    exact ⟨depths, scenes⟩
  · exact absurd earlier (none other twin)

theorem Session.command_composed (setting : Setting) (command : Session.Command) :
    Composed (command.run setting) := by
  cases command with
  | exec statements => exact run_module_composed setting statements
  | call name arguments => exact run_named_composed setting name arguments

theorem Session.perform_stopped (s : Session) (command : Session.Command) {depth : Nat}
    {scene : Scene} (ended : Ended s.state (s.perform command).2.state depth scene) :
    Stopped s.state (s.perform command).2.state depth scene ∧
      (s.perform command).1 = .value .invalid ∧
      (s.perform command).2.errors = s.errors := by
  have heeds := composed_heeds (Session.command_composed s.setting command) s.state
  rw [s.perform_eq command] at ended ⊢
  obtain ⟨setting, state, errors⟩ := s
  unfold Session.conclude at ended ⊢
  dsimp only at heeds ended ⊢
  cases outcome : command.run setting state with
  | ok value t =>
    rw [outcome] at heeds ended
    exact absurd ended (not_ended_of_free heeds.2)
  | error halt t =>
    rw [outcome] at heeds ended
    cases halt with
    | error _ | exhausted => exact absurd ended (not_ended_of_free heeds.2)
    | finish =>
      obtain ⟨other, twin, stopped⟩ := heeds
      obtain ⟨depths, scenes⟩ := stopped.unique ended
      subst depths scenes
      exact ⟨stopped, rfl, rfl⟩

namespace CommandLine

def Report.after (last : Conclusion × Session) : Report :=
  ⟨if succeeded last.1 then 0 else 1, last.2.state.output.sink.written, last.2.errors.written⟩

theorem run_without_entry_point {options : Options} {statements : List Stmt}
    (absent : entryPoint? (runStatements options statements).2 = none) :
    runProgram options statements =
      (succeeded (runStatements options statements).1, (runStatements options statements).2) := by
  unfold runProgram
  dsimp only
  rw [absent]
  split
  · next succeeds => rw [succeeds]
  · next fails => rw [Bool.eq_false_iff.2 fails]

theorem run_with_entry_point {options : Options} {statements : List Stmt} {name : String}
    (succeeds : succeeded (runStatements options statements).1 = true)
    (found : entryPoint? (runStatements options statements).2 = some name) :
    runProgram options statements =
      (succeeded ((runStatements options statements).2.call name []).1,
        ((runStatements options statements).2.call name []).2) := by
  unfold runProgram
  dsimp only
  rw [if_pos succeeds, found]

theorem report_of_run {job : Job} {files : Files} {constants : Constants} {statements : List Stmt}
    (table : job.constantTable files = .ok constants)
    (clean : load files constants [] "" true job.files = .program statements)
    {last : Conclusion × Session}
    (ran : runProgram (job.options constants) statements = (succeeded last.1, last.2)) :
    job.report files = .after last := by
  simp only [Job.report, table, clean, ran, Report.after]

theorem report_stopped {s : State} {last : Conclusion × Session} {depth : Nat} {scene : Scene}
    (stopped : Stopped s last.2.state depth scene) (quietly : last.1 = .value .invalid)
    (errors : last.2.errors.written = "") :
    Report.after last = ⟨0, scene.output.sink.written, ""⟩ := by
  unfold Report.after
  rw [stopped.output, errors, quietly]
  rfl

theorem errors_of_success (s : Session) (command : Session.Command)
    (succeeds : succeeded (s.perform command).1 = true) :
    (s.perform command).2.errors = s.errors := by
  rw [s.perform_eq command] at succeeds ⊢
  obtain ⟨setting, state, errors⟩ := s
  unfold Session.conclude at succeeds ⊢
  dsimp only at succeeds ⊢
  cases outcome : command.run setting state with
  | ok value t => rfl
  | error halt t =>
    cases halt with
    | finish | exhausted => rfl
    | error error =>
      rw [outcome] at succeeds
      cases succeeds

/-- In a program from files without faults, an executed `end`, wherever it stands, is the last thing
that the statements of the files do, or the entry point: all calls are closed, nothing is run,
changed or written after it, and no error is reported. Where it ends the entry point, or the
statements of files that have none, the exit code is 0 and what was written until then is all that
is. Where it ends the statements of files that do have an entry point, that is called all the same,
from the state that the `end` left, and decides the report. -/
theorem end_stops_one_command (job : Job) (files : Files) (constants : Constants)
    (statements : List Stmt) (table : job.constantTable files = .ok constants)
    (clean : load files constants [] "" true job.files = .program statements) :
    let start := Session.start (job.options constants) none none
    let loaded := runStatements (job.options constants) statements
    (∀ depth scene, Ended start.state loaded.2.state depth scene →
      Stopped start.state loaded.2.state depth scene ∧ loaded.1 = .value .invalid ∧
      loaded.2.errors.written = "" ∧
      (entryPoint? loaded.2 = none → job.report files = ⟨0, scene.output.sink.written, ""⟩) ∧
      ∀ name, entryPoint? loaded.2 = some name →
        job.report files = .after (loaded.2.call name [])) ∧
    ∀ name, succeeded loaded.1 = true → entryPoint? loaded.2 = some name → ∀ depth scene,
      Ended loaded.2.state (loaded.2.call name []).2.state depth scene →
      Stopped loaded.2.state (loaded.2.call name []).2.state depth scene ∧
        job.report files = ⟨0, scene.output.sink.written, ""⟩ := by
  intro start loaded
  refine ⟨?_, ?_⟩
  · intro depth scene ended
    obtain ⟨stopped, quietly, errors⟩ := start.perform_stopped (.exec statements) ended
    have silent : loaded.2.errors.written = "" := congrArg Sink.written errors
    refine ⟨stopped, quietly, silent, ?_, ?_⟩
    · intro absent
      rw [report_of_run table clean (run_without_entry_point absent)]
      exact report_stopped stopped quietly silent
    · intro name found
      have succeeds : succeeded loaded.1 = true := congrArg succeeded quietly
      exact report_of_run table clean (run_with_entry_point succeeds found)
  · intro name succeeds found depth scene ended
    obtain ⟨stopped, quietly, errors⟩ := loaded.2.perform_stopped (.call name []) ended
    have before : loaded.2.errors = start.errors :=
      errors_of_success start (.exec statements) succeeds
    have silent : (loaded.2.call name []).2.errors.written = "" :=
      congrArg Sink.written (errors.trans before)
    refine ⟨stopped, ?_⟩
    rw [report_of_run table clean (run_with_entry_point succeeds found)]
    exact report_stopped stopped quietly silent

def isEnd : Event → Bool
  | .ended _ _ => true
  | .entered _ _ | .caught _ => false

theorem ended_of_any {s t : State} (fresh : s.journal.isEmpty = true)
    (ends : t.journal.any isEnd = true) : ∃ depth scene, Ended s t depth scene := by
  obtain ⟨event, member, isEnded⟩ := List.any_eq_true.1 ends
  cases event with
  | entered _ _ | caught _ => cases isEnded
  | ended depth scene =>
    refine ⟨depth, scene, t.journal, ?_, member⟩
    rw [List.isEmpty_iff.1 fresh, List.append_nil]

def Loaded.statements : Loaded → List Stmt
  | .program statements => statements
  | .refused _ | .unreadable _ => []

def Loaded.isClean : Loaded → Bool
  | .program _ => true
  | .refused _ | .unreadable _ => false

theorem Loaded.eq_program {loaded : Loaded} (clean : loaded.isClean = true) :
    loaded = .program loaded.statements := by
  cases loaded with
  | program statements => rfl
  | refused _ | unreadable _ => cases clean

theorem end_behind_handler :
    let files : Files :=
      fun _ => .ok ("sub main()\nprint 1\ntry\nq()\ncatch e\nend try\nprint 2\nend sub\n" ++
      "sub q()\nwhile true\nend\nend while\nend sub\n")
    let job : Job := { files := ["main.brs"] }
    let constants : Constants := .ofList []
    let loaded := load files constants [] "" true job.files
    let ran := runStatements (job.options constants) loaded.statements
    job.constantTable files = .ok constants ∧ loaded = .program loaded.statements ∧
      succeeded ran.1 = true ∧ entryPoint? ran.2 = some "main" ∧
      ∃ depth scene, Ended ran.2.state (ran.2.call "main" []).2.state depth scene ∧
        Stopped ran.2.state (ran.2.call "main" []).2.state depth scene ∧
        job.report files = ⟨0, scene.output.sink.written, ""⟩ := by
  intro files job constants loaded ran
  have table : job.constantTable files = .ok constants := rfl
  obtain ⟨isClean, succeeds, found, fresh, ends⟩ : loaded.isClean = true ∧ succeeded ran.1 = true ∧
      entryPoint? ran.2 = some "main" ∧ ran.2.state.journal.isEmpty = true ∧
      (ran.2.call "main" []).2.state.journal.any isEnd = true := by
    decide +kernel
  have clean : loaded = .program loaded.statements := Loaded.eq_program isClean
  obtain ⟨depth, scene, ended⟩ := ended_of_any fresh ends
  obtain ⟨_, entry⟩ := end_stops_one_command job files constants loaded.statements table clean
  have stopped := entry "main" succeeds found depth scene ended
  exact ⟨table, clean, succeeds, found, depth, scene, ended, stopped.1, stopped.2⟩

theorem entry_point_behind_end :
    let files : Files := fun _ => .ok "print 1\nend\nsub main()\nprint 2\nend sub\n"
    let job : Job := { files := ["a.brs"] }
    let loaded := load files (.ofList []) [] "" true job.files
    let ran := (runStatements (job.options (.ofList [])) loaded.statements).2
    loaded.isClean = true ∧ ran.state.journal.any isEnd = true ∧
      ran.state.output.sink.written = "1\n" ∧
      (job.report files).output = "1\n2\n" := by
  decide +kernel

end CommandLine

end BrightScript
