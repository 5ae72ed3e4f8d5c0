import BrightScript.Proofs.Frames
import BrightScript.Proofs.Simulation
set_option autoImplicit false

namespace BrightScript

def Code.unplaced : Code → Code
  | .native own => .native own
  | .user function => .user function.unplaced

def Overload.unplaced (o : Overload) : Overload :=
  { o with code := o.code.unplaced }

def Callable.unplaced (c : Callable) : Callable :=
  { c with overloads := c.overloads.map Overload.unplaced }

def Heap.unplaced (h : Heap) : Heap :=
  { h with functions := h.functions.map Callable.unplaced }

def Event.unplaced : Event → Event
  | .entered function depth => .entered function depth
  | .caught error => .caught { error with location := .internal }
  | .ended depth scene => .ended depth { scene with heap := scene.heap.unplaced }

-- Values hold no locations themselves; only the functions that they refer to do.
def State.unplaced (s : State) : State :=
  { s with heap := s.heap.unplaced, journal := s.journal.map Event.unplaced }

def Halt.unplaced : Halt → Halt
  | .error failure => .error { failure with location := .internal }
  | .finish => .finish
  | .exhausted => .exhausted

theorem unplacing_keeps_names : unplacing.KeepsNames :=
  fun _ => rfl

theorem Overload.edited_unplacing (o : Overload) : o.edited unplacing = o.unplaced := by
  obtain ⟨⟨arguments, returns⟩, code⟩ := o
  cases code with
  | native own => rfl
  | user function =>
    have same : arguments.map (Argument.edited unplacing) = arguments := List.map_id arguments
    simp only [Overload.edited, Signature.edited, same, function.edited_unplacing]
    rfl

theorem Callable.edited_unplacing (c : Callable) : c.edited unplacing = c.unplaced := by
  unfold Callable.edited Callable.unplaced
  rw [funext Overload.edited_unplacing]

theorem Heap.edited_unplacing (h : Heap) : h.restyled unplacing.restyle = h.unplaced := by
  have functions : unplacing.restyle.apply = Callable.unplaced := funext Callable.edited_unplacing
  unfold Heap.restyled Heap.unplaced
  rw [functions]

theorem Event.edited_unplacing (e : Event) : e.edited unplacing = e.unplaced := by
  cases e with
  | entered function depth => rfl
  | caught failure =>
    exact congrArg (fun cause => Event.caught ⟨cause, .internal⟩)
      (failure.cause.edited_kept unplacing_keeps_names)
  | ended depth scene =>
    exact congrArg (fun heap => Event.ended depth { scene with heap }) scene.heap.edited_unplacing

theorem State.edited_unplacing (s : State) : s.edited unplacing = s.unplaced := by
  unfold State.edited State.unplaced
  rw [s.heap.edited_unplacing, funext Event.edited_unplacing]

theorem Halt.edited_unplacing (h : Halt) : h.edited unplacing = h.unplaced := by
  cases h with
  | finish | exhausted => rfl
  | error failure =>
    exact congrArg (fun cause => Halt.error ⟨cause, .internal⟩)
      (failure.cause.edited_kept unplacing_keeps_names)

theorem unplacing_allows : unplacing.Allows passAll :=
  fun _ _ => .inr unplacing_keeps_names

theorem user_unplaced (function : Function) :
    Callable.user function.unplaced = (Callable.user function).unplaced := by
  rw [← function.edited_unplacing, user_edited, Callable.edited_unplacing]

variable {setting : Setting}

theorem call_function_follows :
    CallsFollow unplacing passAll (callFunction setting) (callFunction setting) :=
  follows_call_function unplacing_allows

abbrev unplacedOutcome (outcome : EStateM.Result Halt State Value) :
    EStateM.Result Halt State Value :=
  mapOutcome State.unplaced Halt.unplaced id outcome

theorem outcome_unplaced {x mirror : Exec Value} (follows : Follows unplacing passAll id x mirror)
    (s : State) : mirror s.unplaced = unplacedOutcome (x s) := by
  have same := follows.follows s (vetted_any s.heap)
  rw [funext (Halt.respelled_kept unplacing_keeps_names), funext State.edited_unplacing,
    funext Halt.edited_unplacing] at same
  rw [unplacedOutcome, ← same]
  cases mirror s.unplaced <;> rfl

theorem outcomes_alike {x y mirror : Exec Value} (left : Follows unplacing passAll id x mirror)
    (right : Follows unplacing passAll id y mirror) {s t : State}
    (alike : s.unplaced = t.unplaced) : unplacedOutcome (x s) = unplacedOutcome (y t) := by
  rw [← outcome_unplaced left, ← outcome_unplaced right, alike]

def Conclusion.unplaced : Conclusion → Conclusion
  | .failed error => .failed { error with location := .internal }
  | other => other

namespace Session

def Command.unplaced : Command → Command
  | .exec statements => .exec (unplacedStatements statements)
  | .call name arguments => .call name arguments

theorem command_follows (command : Command) :
    Follows unplacing passAll id (command.run setting) (command.unplaced.run setting) := by
  cases command with
  | exec statements =>
    have follows : Follows unplacing passAll id (runModule setting statements) _ :=
      follows_run_module unplacing_allows statements (every_statement_function_pass_all statements)
        (.inr unplacing_keeps_names)
    rwa [edited_statements_unplacing] at follows
  | call name arguments => exact follows_run_named unplacing_allows name arguments

theorem conclude_unplaced (s : Session) (run : Setting → Exec Value) :
    ((s.conclude run).1.unplaced, (s.conclude run).2.state.unplaced) =
      concluded (unplacedOutcome (run s.setting s.state)) := by
  refine (congrArg (fun ends : Conclusion × State => (ends.1.unplaced, ends.2.unplaced))
    (s.conclude_eq run)).trans ?_
  cases run s.setting s.state with
  | ok value t => rfl
  | error halt t => cases halt <;> rfl

theorem conclude_setting (s : Session) (run : Setting → Exec Value) :
    (s.conclude run).2.setting = s.setting := by
  unfold conclude
  dsimp only
  split <;> rfl

theorem perform_alike {s t : Session} (sameSetting : s.setting = t.setting)
    (alike : s.state.unplaced = t.state.unplaced) {command twin : Command}
    (same : command.unplaced = twin.unplaced) :
    (s.perform command).1.unplaced = (t.perform twin).1.unplaced ∧
      (s.perform command).2.setting = (t.perform twin).2.setting ∧
      (s.perform command).2.state.unplaced = (t.perform twin).2.state.unplaced := by
  have outcomes : unplacedOutcome (command.run s.setting s.state) =
      unplacedOutcome (twin.run t.setting t.state) := by
    rw [sameSetting]
    exact outcomes_alike (command_follows command) (same ▸ command_follows twin) alike
  have ends := (s.conclude_unplaced command.run).trans
    ((congrArg concluded outcomes).trans (t.conclude_unplaced twin.run).symm)
  simp only [perform_eq, conclude_setting]
  exact ⟨congrArg Prod.fst ends, sameSetting, congrArg Prod.snd ends⟩

theorem perform_all_alike (commands twins : List Command)
    (same : commands.map Command.unplaced = twins.map Command.unplaced) {s t : Session}
    (sameSetting : s.setting = t.setting) (alike : s.state.unplaced = t.state.unplaced) :
    (s.performAll commands).1.map Conclusion.unplaced =
        (t.performAll twins).1.map Conclusion.unplaced ∧
      (s.performAll commands).2.state.unplaced = (t.performAll twins).2.state.unplaced := by
  induction commands generalizing twins s t with
  | nil =>
    cases twins with
    | nil => exact ⟨rfl, alike⟩
    | cons _ _ => cases same
  | cons command rest ih =>
    cases twins with
    | nil => cases same
    | cons twin others =>
      injection same with sameFirst sameRest
      obtain ⟨conclusion, settings, states⟩ := perform_alike sameSetting alike sameFirst
      obtain ⟨conclusions, finals⟩ := ih others sameRest settings states
      simp only [performAll, List.map_cons]
      exact ⟨congr (congrArg List.cons conclusion) conclusions, finals⟩

end Session

/-- Programs that are the same up to locations, run one after another in states that are the same up
to the locations in functions, come to the same conclusions up to the locations of errors, and leave
the same output, variables and heap, up to the locations in functions. So does any single call,
wherever it is made from. -/
theorem locations_are_metadata (s t : Session) (sameSetting : s.setting = t.setting)
    (alike : s.state.unplaced = t.state.unplaced) :
    (∀ commands twins : List Session.Command,
      commands.map Session.Command.unplaced = twins.map Session.Command.unplaced →
        (s.performAll commands).1.map Conclusion.unplaced =
            (t.performAll twins).1.map Conclusion.unplaced ∧
          (s.performAll commands).2.state.unplaced = (t.performAll twins).2.state.unplaced) ∧
      ∀ (ref : Nat) (arguments : List Value) (receiver : Option Nat) (here there : Location),
        unplacedOutcome (callFunction s.setting ref arguments receiver here s.state) =
          unplacedOutcome (callFunction t.setting ref arguments receiver there t.state) := by
  refine ⟨?_, ?_⟩
  · intro commands twins same
    exact Session.perform_all_alike commands twins same sameSetting alike
  · intro ref arguments receiver here there
    rw [sameSetting]
    exact outcomes_alike (call_function_follows ref arguments receiver here)
      (call_function_follows ref arguments receiver there) alike

def rethrowing (place : Location) : Function :=
  ⟨some "rethrow", [], .void,
    ⟨[.tryCatch ⟨[.raise (.literal (.string "no") place) place], place⟩ "e"
        ⟨[.print [.expression (.member (.variable "e" place) "message" place)] place,
          .raise (.variable "e" place) place], place⟩ place], place⟩,
    true, place⟩

def keepingRethrowing (place : Location) : Session :=
  ((Session.start {} none none).allocate (·.newFunction (.user (rethrowing place)))).2

theorem rethrown_in_two_places :
    let here : Location := ⟨"a.brs", ⟨1, 1⟩, ⟨9, 8⟩⟩
    let there : Location := ⟨"b.brs", ⟨40, 5⟩, ⟨49, 2⟩⟩
    let commands (place : Location) : List Session.Command :=
      [.exec [.declare "rethrow" (rethrowing place) place], .call "rethrow" []]
    (keepingRethrowing here).state.unplaced = (keepingRethrowing there).state.unplaced ∧
      ((keepingRethrowing here).performAll (commands here)).1.map Conclusion.unplaced =
          ((keepingRethrowing there).performAll (commands there)).1.map Conclusion.unplaced ∧
        ((keepingRethrowing here).performAll (commands here)).2.state.unplaced =
          ((keepingRethrowing there).performAll (commands there)).2.state.unplaced := by
  intro here there commands
  have alike : (keepingRethrowing here).state.unplaced =
      (keepingRethrowing there).state.unplaced := by
    simp only [keepingRethrowing, Session.allocate, Heap.newFunction, State.unplaced, Heap.unplaced,
      Array.map_push, ← user_unplaced]
    rfl
  exact ⟨alike,
    (locations_are_metadata (keepingRethrowing here) (keepingRethrowing there) rfl alike).1
    (commands here) (commands there) rfl⟩

end BrightScript
