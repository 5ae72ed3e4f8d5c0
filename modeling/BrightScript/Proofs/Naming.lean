import BrightScript.Proofs.Scoping
import BrightScript.Proofs.Simulation
set_option autoImplicit false

namespace BrightScript

def recasing : Edit where
  place := id
  name := fold
  inside := rfl
  same := fold_fold
  again := fold_fold
  append := fold_append

def Function.handlerFree (f : Function) : Bool :=
  f.body.handlerFree

def catchesNothing (statements : List Stmt) : Bool :=
  statementsHandlerFree statements && everyStatementFunction Function.handlerFree statements

theorem recasing_allows : recasing.Allows Function.handlerFree :=
  fun _ free => .inl free

theorem Fault.code_edited (edit : Edit) (fault : Fault) :
    (fault.edited edit).code = fault.code := by
  cases fault <;> rfl

def Fault.Recased (a b : Fault) : Prop :=
  a.edited recasing = b.edited recasing ∧ a.code = b.code

def Conclusion.Recased : Conclusion → Conclusion → Prop
  | .value a, .value b => a = b
  | .failed a, .failed b => a.cause.Recased b.cause ∧ a.location = b.location
  | .exhausted, .exhausted => True
  | _, _ => False

theorem outcomes_recased {setting : Setting} {p q : List Stmt} (plainP : catchesNothing p = true)
    (plainQ : catchesNothing q = true)
    (same : editedStatements recasing p = editedStatements recasing q) {s : State}
    (vetted : s.Vetted Function.handlerFree) :
    mapOutcome (State.edited recasing) (Halt.edited recasing) id (runModule setting p s) =
      mapOutcome (State.edited recasing) (Halt.edited recasing) id (runModule setting q s) := by
  have follows : ∀ statements, catchesNothing statements = true →
      Follows recasing Function.handlerFree id (runModule setting statements)
        (runModule setting (editedStatements recasing statements)) := by
    intro statements plain
    have parts := Bool.and_eq_true_iff.1 plain
    exact follows_run_module recasing_allows statements parts.2 (.inl parts.1)
  rw [← (follows p plainP).follows s vetted, ← (follows q plainQ).follows s vetted, same]

theorem concluded_recased {a b : EStateM.Result Halt State Value}
    (alike : mapOutcome (State.edited recasing) (Halt.edited recasing) id a =
      mapOutcome (State.edited recasing) (Halt.edited recasing) id b) :
    (concluded a).1.Recased (concluded b).1 ∧
      (concluded a).2.edited recasing = (concluded b).2.edited recasing := by
  cases a with
  | ok value s =>
    cases b with
    | ok other t =>
      injection alike with values states
      exact ⟨values, states⟩
    | error halt t => cases alike
  | error halt s =>
    cases b with
    | ok other t => cases alike
    | error other t =>
      injection alike with halts states
      refine ⟨?_, by cases halt <;> cases other <;> exact states⟩
      cases halt with
      | error failure =>
        cases other with
        | error twin =>
          injection halts with errors
          injection errors with cause location
          have code : failure.cause.code = twin.cause.code := by
            rw [← failure.cause.code_edited recasing, cause, twin.cause.code_edited]
          exact ⟨⟨cause, code⟩, location⟩
        | finish | exhausted => cases halts
      | finish =>
        cases other with
        | finish => rfl
        | error _ | exhausted => cases halts
      | exhausted =>
        cases other with
        | exhausted => trivial
        | error _ | finish => cases halts

/-- Two programs that catch no errors and are the same but for the case of the names of variables,
parameters, counters, labels and members, each run in the same new session, end alike: with the same
value, or with faults of one kind, number and place, or stopped for going round too often. They
leave the same output, and the same state but for the case of names in functions. -/
theorem names_ignore_case (options : Options) (output errors : Sink) (p q : List Stmt)
    (plainP : catchesNothing p = true) (plainQ : catchesNothing q = true)
    (same : editedStatements recasing p = editedStatements recasing q) :
    let s := Session.startOn options output errors
    (s.exec p).1.Recased (s.exec q).1 ∧
      (s.exec p).2.state.output = (s.exec q).2.state.output ∧
      (s.exec p).2.state.edited recasing = (s.exec q).2.state.edited recasing := by
  intro s
  have vetted : s.state.Vetted Function.handlerFree := (fresh_calm output).heap
  have alike : mapOutcome _ _ _ (runModule s.setting p s.state) = _ :=
    outcomes_recased plainP plainQ same vetted
  obtain ⟨conclusions, states⟩ := concluded_recased alike
  have ends : ∀ statements, concluded (runModule s.setting statements s.state) =
      ((s.exec statements).1, (s.exec statements).2.state) :=
    fun statements => (s.conclude_eq (runModule · statements)).symm
  rw [ends p, ends q] at conclusions states
  have outputs := congrArg State.output states
  exact ⟨conclusions, outputs, states⟩

def summing (total counter keeper add ending : String) : List Stmt :=
  let place : Location := .internal
  let adding : Function :=
    ⟨none, [⟨counter, .integer, none, place⟩], .dynamic,
      ⟨[.setMember (.variable "m" place) total
          (.binary (.member (.variable "m" place) total place) .add (.variable counter place) place)
            place], place⟩,
      false, place⟩
  [.assign keeper (.table [⟨total, .literal (.integer 0) place, place⟩,
    ⟨add, .function adding, place⟩] place) place,
    .forTo counter (.literal (.integer 1) place) (.literal (.integer 3) place)
      (.literal (.integer 1) place)
      ⟨[.expression (.call (.member (.variable keeper place) add place)
        [.variable counter place] place) place], place⟩
      place,
    .print [.expression (.member (.variable keeper place) total place)] place,
    .goto ending place, .label ending place,
    .expression (.call (.variable total place) [] place) place]

theorem summing_edited (total counter keeper add ending : String) :
    editedStatements recasing (summing total counter keeper add ending) =
      summing (fold total) (fold counter) (fold keeper) (fold add) (fold ending) := by
  rfl

theorem summing_in_two_spellings :
    let p := summing "total" "i" "keeper" "add" "done"
    let q := summing "Total" "I" "KEEPER" "aDD" "DONE"
    let s := Session.startOn {} (.empty none) (.empty none)
    catchesNothing p = true ∧ catchesNothing q = true ∧
      editedStatements recasing p = editedStatements recasing q ∧
      (s.exec p).1.Recased (s.exec q).1 ∧
        (s.exec p).2.state.output = (s.exec q).2.state.output := by
  intro p q s
  have plainP : catchesNothing p = true := by rfl
  have plainQ : catchesNothing q = true := by rfl
  have same : editedStatements recasing p = editedStatements recasing q := by
    have names : fold "Total" = fold "total" ∧ fold "I" = fold "i" ∧ fold "KEEPER" = fold "keeper" ∧
        fold "aDD" = fold "add" ∧ fold "DONE" = fold "done" := by decide
    rw [summing_edited, summing_edited, names.1, names.2.1, names.2.2.1, names.2.2.2.1,
      names.2.2.2.2]
  obtain ⟨conclusions, outputs, _⟩ :=
    names_ignore_case {} (.empty none) (.empty none) p q plainP plainQ same
  exact ⟨plainP, plainQ, same, conclusions, outputs⟩

end BrightScript
