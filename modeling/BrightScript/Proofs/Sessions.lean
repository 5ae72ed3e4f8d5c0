import BrightScript.Session
import BrightScript.Proofs.Calls
set_option autoImplicit false

namespace BrightScript

variable {inv : State → Prop} {faults : Fault → Prop} {halts : Halt → Prop}
  {check : Function → Bool} {setting twinSetting : Setting}

theorem hoist_keeps (lasting : Lasting inv faults halts check) (statements : List Stmt)
    (passed : everyStatementFunction check statements = true) :
    Keeps inv halts Any (hoist statements) := by
  induction statements with
  | nil => exact keeps_pure _ trivial
  | cons statement rest ih =>
    have parts := Bool.and_eq_true_iff.1 passed
    have later := ih parts.2
    cases statement
    case declare name function _ =>
      exact agree_bind (declare_keeps lasting name function parts.1) fun _ _ => later
    all_goals exact later

theorem run_module_agree (lasting : Lasting inv faults halts check)
    (counterparts : Counterparts halts setting twinSetting)
    (calls : CallsAgree inv halts (callFunction setting) (callFunction twinSetting))
    (statements : List Stmt) (passed : everyStatementFunction check statements = true)
    (free : statementsLoopFree statements = true ∨ halts .exhausted)
    (settled : Returns (Signal.Settled halts)
      (executeAll setting (callFunction setting) statements)) :
    Agree inv halts Any (runModule setting statements) (runModule twinSetting statements) := by
  refine agree_bind (hoist_keeps lasting statements passed) fun _ _ => ?_
  refine agree_bind (agree_of_returns
    (execute_all_agree lasting counterparts calls statements passed free)
    settled) fun signal ends => ?_
  cases result : signal.result with
  | ok value => exact keeps_pure _ trivial
  | error error => exact keeps_throw _ (ends error result)

theorem run_named_agree (durable : Durable inv faults halts check)
    (calls : CallsAgree inv halts (callFunction setting) (callFunction twinSetting)) (name : String)
    (arguments : List Value) :
    Agree inv halts Any (runNamed setting name arguments)
      (runNamed twinSetting name arguments) := by
  refine agree_get_bind fun s _ => ?_
  split
  · exact calls _ arguments none .internal
  · exact durable.fail _ _ rfl
  · exact durable.fail _ _ rfl

def Conclusion.Expected (halts : Halt → Prop) : Conclusion → Prop
  | .value _ => True
  | .failed error => halts (.error error)
  | .exhausted => halts .exhausted

def concluded : EStateM.Result Halt State Value → Conclusion × State
  | .ok value s => (.value value, s)
  | .error .finish s => (.value .invalid, s)
  | .error (.error error) s => (.failed error, s)
  | .error .exhausted s => (.exhausted, s)

namespace Session

theorem conclude_eq (s : Session) (run : Setting → Exec Value) :
    ((s.conclude run).1, (s.conclude run).2.state) = concluded (run s.setting s.state) := by
  unfold conclude
  dsimp only
  cases run s.setting s.state with
  | ok value t => rfl
  | error halt t => cases halt <;> rfl

inductive Command where
  | exec (statements : List Stmt)
  | call (name : String) (arguments : List Value)

def Command.run : Command → Setting → Exec Value
  | .exec statements, setting => runModule setting statements
  | .call name arguments, setting => runNamed setting name arguments

theorem command_keeps (lasting : Lasting inv Any Any passAll)
    (calls : CallsAgree inv Any (callFunction setting) (callFunction setting)) (command : Command) :
    Keeps inv Any Any (command.run setting) := by
  cases command with
  | exec statements =>
    exact run_module_agree lasting (counterparts_refl _ _) calls statements
      (every_statement_function_pass_all statements) (.inr trivial) fun _ _ _ _ _ _ => trivial
  | call name arguments => exact run_named_agree lasting.toDurable calls name arguments

def perform (s : Session) : Command → Conclusion × Session
  | .exec statements => s.exec statements
  | .call name arguments => s.call name arguments

def performAll (s : Session) : List Command → List Conclusion × Session
  | [] => ([], s)
  | command :: rest =>
    let (conclusion, next) := s.perform command
    let (conclusions, last) := next.performAll rest
    (conclusion :: conclusions, last)

theorem perform_eq (s : Session) (command : Command) :
    s.perform command = s.conclude command.run := by
  cases command <;> rfl

theorem conclude_keeps (s : Session) (run : Setting → Exec Value)
    (keeps : Keeps inv halts Any (run s.setting)) (holds : inv s.state) :
    (s.conclude run).2.setting = s.setting ∧ inv (s.conclude run).2.state ∧
      (s.conclude run).1.Expected halts := by
  obtain ⟨setting, state, errors⟩ := s
  have ends := (keeps state holds).2
  unfold conclude
  dsimp only at ends ⊢
  cases outcome : run setting state with
  | ok value t =>
    rw [outcome] at ends
    exact ⟨rfl, ends.1, trivial⟩
  | error halt t =>
    rw [outcome] at ends
    cases halt with
    | finish => exact ⟨rfl, ends.1, trivial⟩
    | error error | exhausted => exact ⟨rfl, ends.1, ends.2⟩

theorem perform_all_expected (commands : List Command) (s : Session)
    (keeps : ∀ command ∈ commands, Keeps inv halts Any (command.run s.setting))
    (holds : inv s.state) :
    inv (s.performAll commands).2.state ∧
      ∀ conclusion ∈ (s.performAll commands).1, conclusion.Expected halts := by
  induction commands generalizing s with
  | nil => exact ⟨holds, fun _ member => absurd member List.not_mem_nil⟩
  | cons command rest ih =>
    obtain ⟨sameSetting, held, expected⟩ :=
      s.conclude_keeps command.run (keeps command List.mem_cons_self) holds
    -- The setting is still the same, so that what the other commands keep is known.
    have later := ih (s.conclude command.run).2
      (fun other member => sameSetting ▸ keeps other (List.mem_cons_of_mem _ member)) held
    simp only [performAll, perform_eq]
    refine ⟨later.1, ?_⟩
    intro conclusion member
    rcases List.mem_cons.1 member with first | further
    · exact first ▸ expected
    · exact later.2 conclusion further

theorem perform_all_keeps (commands : List Command) (s : Session)
    (keeps : ∀ command ∈ commands, Keeps inv halts Any (command.run s.setting))
    (holds : inv s.state) :
    inv (s.performAll commands).2.state ∧
      ∀ error, .failed error ∈ (s.performAll commands).1 → halts (.error error) := by
  obtain ⟨held, expected⟩ := perform_all_expected commands s keeps holds
  exact ⟨held, fun error member => expected (.failed error) member⟩

def withSetting (s : Session) (setting : Setting) : Session :=
  { s with setting }

theorem conclude_agree (s : Session) (run : Setting → Exec Value)
    (agree : Agree inv halts Any (run s.setting) (run twinSetting)) (holds : inv s.state) :
    (s.withSetting twinSetting).conclude run =
      ((s.conclude run).1, (s.conclude run).2.withSetting twinSetting) := by
  obtain ⟨setting, state, errors⟩ := s
  have same := (agree state holds).1
  unfold withSetting conclude
  dsimp only at same ⊢
  rw [← same]
  cases run setting state with
  | ok value t => rfl
  | error halt t => cases halt <;> rfl

-- Under settings that commands cannot tell apart, sessions in the same state come to the same.
theorem perform_all_agree (commands : List Command) (s : Session)
    (agree : ∀ command ∈ commands,
      Agree inv halts Any (command.run s.setting) (command.run twinSetting))
    (holds : inv s.state) :
    (s.withSetting twinSetting).performAll commands =
      ((s.performAll commands).1, (s.performAll commands).2.withSetting twinSetting) := by
  induction commands generalizing s with
  | nil => rfl
  | cons command rest ih =>
    have first := agree command List.mem_cons_self
    obtain ⟨sameSetting, held, _⟩ :=
      s.conclude_keeps command.run (fun t inside => ⟨rfl, (first t inside).2⟩) holds
    have later := ih (s.conclude command.run).2
      (fun other member => sameSetting ▸ agree other (List.mem_cons_of_mem _ member)) held
    simp only [performAll, perform_eq, s.conclude_agree command.run first holds, later]

end Session

end BrightScript
