import BrightScript.Proofs.Scoping
set_option autoImplicit false

namespace BrightScript

def Function.loopFree (function : Function) : Bool :=
  function.body.loopFree

def loopFreeModule (statements : List Stmt) : Bool :=
  statementsLoopFree statements && everyStatementFunction Function.loopFree statements

def Session.Command.loopFree : Session.Command → Bool
  | .exec statements => loopFreeModule statements
  | .call _ _ => true

abbrev HeapLoopFree (s : State) : Prop :=
  s.heap.Vetted Function.loopFree Any

def Halt.Final : Halt → Prop
  | .exhausted => False
  | .error _ | .finish => True

theorem loop_free_lasting : Lasting HeapLoopFree Any Halt.Final Function.loopFree where
  vetted _ holds := holds
  heap _ _ _ vetted _ := vetted
  ordinary _ _ := trivial
  fault _ _ := trivial
  locals _ _ _ holds := holds
  module _ _ _ holds := holds
  write _ _ holds := holds
  caught _ _ holds _ := holds
  ended _ _ _ holds := holds
  finish := trivial
  bodies _ own := .inl own

theorem loop_free_opening : Opening HeapLoopFree HeapLoopFree where
  entered _ _ _ _ holds := holds
  opens _ _ holds := holds
  closes _ _ _ holds := holds

theorem settled_final (x : Exec Signal) : Returns (Signal.Settled Halt.Final) x :=
  fun _ _ _ _ _ _ => trivial

def Setting.withRounds (setting : Setting) (rounds : Nat) : Setting :=
  { setting with options := { setting.options with maxRounds := rounds } }

theorem counterparts_rounds (setting : Setting) (rounds : Nat) :
    Counterparts Halt.Final setting (setting.withRounds rounds) :=
  ⟨rfl, rfl, rfl, False.elim⟩

variable {setting : Setting} {rounds : Nat}

-- By induction on the number of calls that may still be opened: the callee has one less.
theorem call_within_final (remaining : Nat) :
    CallsAgree HeapLoopFree Halt.Final (callWithin setting remaining)
      (callWithin (setting.withRounds rounds) remaining) := by
  induction remaining with
  | zero => exact fun _ _ _ _ => keeps_throw _ trivial
  | succ remaining ih =>
    exact enter_agree loop_free_lasting loop_free_lasting.toDurable loop_free_opening
      (counterparts_rounds setting rounds) ih (fun _ _ _ _ _ _ _ => trivial) fun _ _ =>
        settled_final _

theorem call_function_final :
    CallsAgree HeapLoopFree Halt.Final (callFunction setting)
      (callFunction (setting.withRounds rounds)) :=
  fun ref arguments receiver location s holds =>
    call_within_final _ ref arguments receiver location s holds

theorem command_final (rounds : Nat) (command : Session.Command) (free : command.loopFree = true) :
    Agree HeapLoopFree Halt.Final Any (command.run setting)
      (command.run (setting.withRounds rounds)) := by
  cases command with
  | exec statements =>
    have parts := Bool.and_eq_true_iff.1 free
    exact run_module_agree loop_free_lasting (counterparts_rounds setting rounds)
      call_function_final statements parts.2 (.inl parts.1) (settled_final _)
  | call name arguments =>
    exact run_named_agree loop_free_lasting.toDurable call_function_final name arguments

/-- Where neither the functions in the heap nor the programs to be run have loops or jumps, every
program and every call by name comes to an end of its own: none is stopped for going round too
often, and all conclusions and states are the same whatever the limit on rounds, be it zero. Nothing
bounds the calls but their limited depth. -/
theorem loop_free_terminates (s : Session) (bodies : s.state.heap.Vetted Function.loopFree Any)
    (commands : List Session.Command) (free : ∀ command ∈ commands, command.loopFree = true) :
    .exhausted ∉ (s.performAll commands).1 ∧
      ∀ rounds, (s.withSetting (s.setting.withRounds rounds)).performAll commands =
        ((s.performAll commands).1,
          (s.performAll commands).2.withSetting (s.setting.withRounds rounds)) := by
  refine ⟨?_, ?_⟩
  · intro stopped
    have kept := Session.perform_all_expected commands s
      (fun command member t holds =>
        ⟨rfl, (command_final 0 command (free command member) t holds).2⟩) bodies
    exact kept.2 .exhausted stopped
  · intro rounds
    exact Session.perform_all_agree commands s
      (fun command member => command_final rounds command (free command member)) bodies

-- A function that calls itself without end, once for each element of an array that it makes longer
-- meanwhile, and once more whenever that fails.
def diving : List Stmt :=
  let inside : Location := .internal
  let again : Stmt := .expression (.call (.variable "dive" inside) [] inside) inside
  let longer : Stmt :=
    .expression (.call (.member (.variable "a" inside) "push" inside) [.variable "x" inside] inside)
      inside
  let dive : Function :=
    ⟨some "dive", [], .void,
      ⟨[.assign "a" (.array [.literal (.integer 1) inside, .literal (.integer 2) inside] inside)
        inside, .forEach "x" (.variable "a" inside)
          ⟨[longer, .tryCatch ⟨[again], inside⟩ "e" ⟨[again], inside⟩ inside], inside⟩ inside],
        inside⟩,
      true, inside⟩
  [.declare "dive" dive inside]

theorem diving_terminates :
    let s := Session.start { maxRounds := 0 } none none
    let commands : List Session.Command := [.exec diving, .call "dive" []]
    .exhausted ∉ (s.performAll commands).1 ∧
      ∀ rounds, (s.withSetting (s.setting.withRounds rounds)).performAll commands =
        ((s.performAll commands).1,
          (s.performAll commands).2.withSetting (s.setting.withRounds rounds)) :=
  loop_free_terminates _ (initial_calm none).heap _ (by decide)

end BrightScript
