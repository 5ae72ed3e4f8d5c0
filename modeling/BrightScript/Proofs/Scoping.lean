import BrightScript.Proofs.Sessions
set_option autoImplicit false

namespace BrightScript

-- What encloses a statement within its body: a loop of either kind, and the labels of all the lists
-- it stands in.
structure Enclosing where
  inFor : Bool
  inWhile : Bool
  labels : List String

namespace Enclosing

def nothing : Enclosing := ⟨false, false, []⟩

def list (around : Enclosing) (statements : List Stmt) : Enclosing :=
  { around with labels := statements.filterMap Stmt.labelName? ++ around.labels }

def hasLabel (around : Enclosing) (label : String) : Bool :=
  around.labels.any (sameName label)

end Enclosing

mutual

-- Whether exits and jumps have somewhere to go. Functions in a statement are bodies of their own
-- and not looked into.
def Stmt.scoped (around : Enclosing) : Stmt → Bool
  | .exitFor _ => around.inFor
  | .exitWhile _ => around.inWhile
  | .goto label _ => around.hasLabel label
  | .ifThen _ body elseIfs otherwise _ =>
    body.scoped around && elseIfsScoped around elseIfs && otherwiseScoped around otherwise
  | .forTo _ _ _ _ body _ | .forEach _ _ body _ => body.scoped { around with inFor := true }
  | .whileDo _ body _ => body.scoped { around with inWhile := true }
  | .tryCatch body _ handler _ => body.scoped around && handler.scoped around
  | .block block => block.scoped around
  | _ => true

def Block.scoped (around : Enclosing) : Block → Bool
  | ⟨statements, _⟩ => statementsScoped (around.list statements) statements

def statementsScoped (around : Enclosing) : List Stmt → Bool
  | [] => true
  | statement :: rest => statement.scoped around && statementsScoped around rest

def elseIfsScoped (around : Enclosing) : List ElseIf → Bool
  | [] => true
  | ⟨_, body⟩ :: rest => body.scoped around && elseIfsScoped around rest

def otherwiseScoped (around : Enclosing) : Option Block → Bool
  | none => true
  | some block => block.scoped around

end

def Function.scoped (function : Function) : Bool :=
  function.body.scoped .nothing

def wellScoped (statements : List Stmt) : Bool :=
  statementsScoped (Enclosing.nothing.list statements) statements
    && everyStatementFunction Function.scoped statements

-- A jump may leave the list it stands in, but not enter another one.
example :
    wellScoped [.label "A" .internal, .block ⟨[.goto "a" .internal], .internal⟩] = true ∧
      wellScoped [.goto "a" .internal, .block ⟨[.label "A" .internal], .internal⟩] = false := by
  decide

def Signal.Fits (around : Enclosing) : Signal → Prop
  | .completed | .returned _ => True
  | .exitFor _ => around.inFor = true
  | .exitWhile _ => around.inWhile = true
  | .goto label _ => around.hasLabel label = true

variable {around : Enclosing} {setting : Setting} {call : Call}

def RoundFits (around : Enclosing) (round : Option Signal) : Prop :=
  ∀ signal, round = some signal → signal.Fits around

theorem round_some (signal : Signal) (fits : signal.Fits around) :
    RoundFits around (some signal) := by
  intro other same
  cases same
  exact fits

theorem go_round_returns {round : Exec (Option Signal)} (fits : Returns (RoundFits around) round)
    (rounds : Nat) : Returns (Signal.Fits around) (goRound round rounds) := by
  unfold goRound
  refine returns_bind fits fun outcome expected => ?_
  cases outcome with
  | some signal => exact returns_pure signal (expected signal rfl)
  | none =>
    cases rounds with
    | zero => exact returns_throw _
    | succ rounds => exact go_round_returns fits rounds

theorem while_loop_returns (condition : Exec Bool) {body : Exec Signal}
    (fits : Returns (Signal.Fits { around with inWhile := true }) body) (rounds : Nat) :
    Returns (Signal.Fits around) (whileLoop condition body rounds) := by
  refine go_round_returns (returns_last fun holds => ?_) rounds
  cases holds with
  | false => exact returns_pure _ (round_some _ trivial)
  | true =>
    refine returns_bind fits fun signal expected => ?_
    cases signal with
    | completed => exact returns_pure _ fun _ same => nomatch same
    | exitWhile _ => exact returns_pure _ (round_some _ trivial)
    | returned _ | exitFor _ | goto _ _ => exact returns_pure _ (round_some _ expected)

theorem for_loop_returns (counter : String) (stop step : Exec Value) {body : Exec Signal}
    (fits : Returns (Signal.Fits { around with inFor := true }) body) (location : Location)
    (rounds : Nat) :
    Returns (Signal.Fits around) (forLoop counter stop step body location rounds) := by
  refine go_round_returns ?_ rounds
  refine returns_last fun stopValue => returns_last fun stepValue => returns_last fun current =>
    returns_last fun direction => ?_
  split
  · refine returns_bind fits fun signal expected => ?_
    cases signal with
    | completed =>
      refine returns_last fun reached => returns_last fun next => returns_last fun _ => ?_
      exact returns_pure _ fun _ same => nomatch same
    | exitFor _ => exact returns_pure _ (round_some _ trivial)
    | returned _ | exitWhile _ | goto _ _ => exact returns_pure _ (round_some _ expected)
  · exact returns_pure _ (round_some _ trivial)

theorem for_each_loop_returns (item : String) {body : Exec Signal}
    (fits : Returns (Signal.Fits { around with inFor := true }) body) (elements : List Value) :
    Returns (Signal.Fits around) (forEachLoop item body elements) := by
  induction elements with
  | nil => exact returns_pure _ trivial
  | cons element rest ih =>
    refine returns_last fun _ => returns_bind fits fun signal expected => ?_
    cases signal with
    | completed => exact ih
    | exitFor _ => exact returns_pure _ trivial
    | returned _ | exitWhile _ | goto _ _ => exact returns_pure _ expected

theorem try_catch_returns {body handler : Exec Signal} (name : String)
    (fits : Returns (Signal.Fits around) body) (handles : Returns (Signal.Fits around) handler) :
    Returns (Signal.Fits around) (tryCatch body name handler) := by
  intro s signal t same
  unfold tryCatch at same
  split at same
  · exact returns_last (fun _ => returns_last fun _ => returns_last fun _ => handles) _
      signal t same
  · exact fits s signal t same

theorem no_label_of_after (label : String) (statements : List Stmt)
    (gone : Step.after? label (steps setting call statements) = none) :
    (statements.filterMap Stmt.labelName?).any (sameName label) = false := by
  induction statements with
  | nil => rfl
  | cons statement rest ih =>
    cases own :
        (Step.mk statement.labelName? (execute setting call statement)).isLabelled label with
    | true => simp [Step.after?, steps, own] at gone
    | false =>
      have later := ih (by simpa [Step.after?, steps, List.dropWhile, own] using gone)
      cases named : statement.labelName? with
      | none => simpa [named] using later
      | some name =>
        simp only [Step.isLabelled, named, Option.any_some] at own
        simp [named, own, later]

theorem run_straight_returns {block : List Step}
    (fits : ∀ step ∈ block, Returns (Signal.Fits around) step.action) :
    Returns (Signal.Fits around) (Step.runStraight block) := by
  induction block with
  | nil => exact returns_pure _ trivial
  | cons step rest ih =>
    refine returns_bind (fits step List.mem_cons_self) fun signal expected => ?_
    cases signal with
    | completed => exact ih fun other member => fits other (List.mem_cons_of_mem _ member)
    | returned _ | exitFor _ | exitWhile _ | goto _ _ => exact returns_pure _ expected

-- A signal that leaves a block fits what is around the block: a jump that only fits inside would
-- have been taken.
theorem run_from_returns (statements : List Stmt)
    (fits : ∀ step ∈ steps setting call statements,
      Returns (Signal.Fits (around.list statements)) step.action)
    (rounds : Nat) (rest : List Step)
    (inside : ∀ step ∈ rest, step ∈ steps setting call statements) :
    Returns (Signal.Fits around) (Step.runFrom (steps setting call statements) rounds rest) := by
  unfold Step.runFrom
  refine returns_bind (run_straight_returns fun step member => fits step (inside step member))
    fun signal expected => ?_
  cases signal with
  | goto label location =>
    dsimp only
    split
    · rename_i behind found
      cases rounds with
      | zero => exact returns_throw _
      | succ rounds =>
        exact run_from_returns statements fits rounds behind (Step.mem_of_after found)
    · rename_i gone
      -- No label of this list is meant, so the jump fits what is around it.
      have outside := no_label_of_after label statements gone
      refine returns_pure _ ?_
      simpa [Signal.Fits, Enclosing.hasLabel, Enclosing.list, outside] using expected
  | completed | returned _ => exact returns_pure _ trivial
  | exitFor _ | exitWhile _ => exact returns_pure _ expected

mutual

theorem execute_returns : (statement : Stmt) → (around : Enclosing) →
    statement.scoped around = true → Returns (Signal.Fits around) (execute setting call statement)
  | .exitFor _, _, placed | .exitWhile _, _, placed | .goto _ _, _, placed => returns_pure _ placed
  | .ifThen condition body elseIfs otherwise _, around, placed => by
    simp only [Stmt.scoped, Bool.and_eq_true] at placed
    obtain ⟨⟨main, others⟩, last⟩ := placed
    refine returns_last fun holds => ?_
    cases holds with
    | true => exact execute_block_returns body around main
    | false =>
      exact execute_else_returns (execute_otherwise_returns otherwise around last) elseIfs others
  | .forTo counter start stop step body location, around, placed =>
    returns_last fun _ => returns_last fun _ =>
      for_loop_returns counter _ _ (execute_block_returns body _ placed) location _
  | .forEach item target body _, around, placed =>
    returns_last fun _ => returns_last fun _ => returns_last fun elements =>
      for_each_loop_returns item (execute_block_returns body _ placed) elements
  | .whileDo condition body _, around, placed =>
    while_loop_returns _ (execute_block_returns body _ placed) _
  | .tryCatch body name handler _, around, placed => by
    have parts := Bool.and_eq_true_iff.1 placed
    exact try_catch_returns name (execute_block_returns body around parts.1)
      (execute_block_returns handler around parts.2)
  | .block block, around, placed => execute_block_returns block around placed
  | .giveBack none _, _, _ => returns_pure _ trivial
  | .giveBack (some _) _, _, _ => returns_last fun _ => returns_pure _ trivial
  | .library _ _, _, _ | .label _ _, _, _ | .stop _, _, _ => returns_pure _ trivial
  | .endProgram _, _, _ => fun _ _ _ same => nomatch same
  | .raise _ _, _, _ => returns_last fun _ => returns_last fun _ => returns_throw _
  | .expression _ _, _, _ | .dim _ _ _, _, _ | .declare _ _ _, _, _ | .step _ _ _, _, _ =>
    returns_last fun _ => returns_pure _ trivial
  | .assign _ _ _, _, _ => returns_last fun _ => returns_last fun _ => returns_pure _ trivial
  | .setMember _ _ _ _, _, _ =>
    returns_last fun _ => returns_last fun _ => returns_last fun _ => returns_pure _ trivial
  | .setIndex _ _ _ _, _, _ =>
    returns_last fun _ => returns_last fun _ => returns_last fun _ => returns_last fun _ =>
      returns_pure _ trivial
  | .print items location, _, _ => by
    refine returns_last fun _ => ?_
    split
    · exact returns_last fun _ => returns_pure _ trivial
    · exact returns_pure _ trivial

theorem execute_block_returns : (block : Block) → (around : Enclosing) →
    block.scoped around = true → Returns (Signal.Fits around) (executeBlock setting call block)
  | ⟨statements, _⟩, around, placed =>
    run_from_returns statements (steps_return statements (around.list statements) placed) _ _
      fun _ member => member

theorem steps_return : (statements : List Stmt) → (around : Enclosing) →
    statementsScoped around statements = true →
      ∀ step ∈ steps setting call statements, Returns (Signal.Fits around) step.action
  | [], _, _, _, member => absurd member List.not_mem_nil
  | statement :: rest, around, placed, step, member => by
    have parts := Bool.and_eq_true_iff.1 placed
    rcases List.mem_cons.1 member with first | later
    · rw [first]
      exact execute_returns statement around parts.1
    · exact steps_return rest around parts.2 step later

theorem execute_else_returns {around : Enclosing} {otherwise : Exec Signal}
    (last : Returns (Signal.Fits around) otherwise) : (elseIfs : List ElseIf) →
    elseIfsScoped around elseIfs = true →
      Returns (Signal.Fits around) (executeElse setting call otherwise elseIfs)
  | [], _ => last
  | ⟨condition, body⟩ :: rest, placed => by
    have parts := Bool.and_eq_true_iff.1 placed
    refine returns_last fun holds => ?_
    cases holds with
    | true => exact execute_block_returns body around parts.1
    | false => exact execute_else_returns last rest parts.2

theorem execute_otherwise_returns : (otherwise : Option Block) → (around : Enclosing) →
    otherwiseScoped around otherwise = true →
      Returns (Signal.Fits around) (executeOtherwise setting call otherwise)
  | none, _, _ => returns_pure _ trivial
  | some block, around, placed => execute_block_returns block around placed

end

theorem execute_all_returns (statements : List Stmt) (around : Enclosing)
    (placed : statementsScoped (around.list statements) statements = true) :
    Returns (Signal.Fits around) (executeAll setting call statements) :=
  run_from_returns statements (steps_return statements (around.list statements) placed) _ _
    fun _ member => member

def Fault.isStray : Fault → Bool
  | .exitOutsideLoop _ | .labelNotFound _ => true
  | _ => false

def NotStray (fault : Fault) : Prop :=
  fault.isStray = false

theorem ordinary_not_stray (fault : Fault) (ordinary : fault.isOrdinary = true) :
    NotStray fault := by
  cases fault
  case stackOverflow | labelNotFound | exitOutsideLoop => cases ordinary
  all_goals rfl

theorem settled_of_fits (signal : Signal) (fits : signal.Fits .nothing) :
    signal.Settled (Halt.Expected NotStray) := by
  intro error stray
  cases signal with
  | completed | returned _ => cases stray
  | exitFor _ | exitWhile _ => cases fits
  | goto label _ => cases fits

theorem body_settled (function : Function)
    (passed : function.everyFunction Function.scoped = true) :
    Returns (Signal.Settled (Halt.Expected NotStray))
      (executeBlock setting call function.body) := by
  obtain ⟨placed, _, _⟩ := (function.every_function_iff Function.scoped).1 passed
  intro s signal t ended
  exact settled_of_fits signal
    (execute_block_returns function.body .nothing placed s signal t ended)

abbrev Unstrayed : State → Prop :=
  Calm Function.scoped NotStray

theorem unstrayed_lasting :
    Lasting Unstrayed NotStray (Halt.Expected NotStray) Function.scoped :=
  calm_lasting ordinary_not_stray

theorem call_within_unstrayed (classes : ClassesVetted NotStray setting.components)
    (remaining : Nat) :
    CallsAgree Unstrayed (Halt.Expected NotStray) (callWithin setting remaining)
      (callWithin setting remaining) := by
  induction remaining with
  | zero => exact fun _ _ _ _ => keeps_throw _ rfl
  | succ remaining ih =>
    exact enter_agree unstrayed_lasting unstrayed_lasting.toDurable calm_opening
      (counterparts_refl _ _) ih classes body_settled

theorem call_function_unstrayed (classes : ClassesVetted NotStray setting.components) :
    CallsAgree Unstrayed (Halt.Expected NotStray) (callFunction setting) (callFunction setting) :=
  fun ref arguments receiver location s holds =>
    call_within_unstrayed classes _ ref arguments receiver location s holds

theorem module_settled (statements : List Stmt)
    (placed : statementsScoped (Enclosing.nothing.list statements) statements = true) :
    Returns (Signal.Settled (Halt.Expected NotStray)) (executeAll setting call statements) := by
  intro s signal t ended
  exact settled_of_fits signal (execute_all_returns statements .nothing placed s signal t ended)

def Session.Command.wellScoped : Session.Command → Bool
  | .exec statements => BrightScript.wellScoped statements
  | .call _ _ => true

theorem command_unstrayed (classes : ClassesVetted NotStray setting.components)
    (command : Session.Command) (placed : command.wellScoped = true) :
    Keeps Unstrayed (Halt.Expected NotStray) Any (command.run setting) := by
  have calls := call_function_unstrayed classes
  cases command with
  | exec statements =>
    have parts := Bool.and_eq_true_iff.1 placed
    exact run_module_agree unstrayed_lasting (counterparts_refl _ _) calls statements parts.2
      (.inr trivial) (module_settled statements parts.1)
  | call name arguments => exact run_named_agree unstrayed_lasting.toDurable calls name arguments

theorem builtins_vetted {check : Function → Bool} {faults : Fault → Prop}
    (callable : Callable) (member : callable ∈ Builtin.callables) :
    callable.Vetted check faults := by
  obtain ⟨builtins, _, rfl⟩ := List.mem_map.1 member
  intro overload among
  obtain ⟨builtin, _, rfl⟩ := List.mem_map.1 among
  trivial

theorem vetted_define {check : Function → Bool} {faults : Fault → Prop}
    (callables : List Callable) (passed : ∀ callable ∈ callables, callable.Vetted check faults)
    (names : Table Value) (heap : Heap) (vetted : heap.Vetted check faults) :
    (callables.foldl
      (fun (names, heap) callable =>
        let (value, heap) := heap.newFunction callable
        (names.insert callable.displayName value, heap))
      (names, heap)).2.Vetted check faults := by
  induction callables generalizing names heap with
  | nil => exact vetted
  | cons callable rest ih =>
    refine ih (fun other member => passed other (List.mem_cons_of_mem _ member)) _ _ ?_
    exact Heap.vetted_new_function vetted callable (passed callable List.mem_cons_self)

theorem fresh_calm {check : Function → Bool} {faults : Fault → Prop} (sink : Sink) :
    Calm check faults (State.fresh sink) where
  heap := by
    have bare : (Heap.empty.newTable .empty).2.Vetted check faults :=
      ⟨fun _ member => absurd member (by simp [Heap.newTable, Heap.empty]),
        fun _ member => absurd member (by simp [Heap.newTable, Heap.empty])⟩
    exact vetted_define Builtin.callables builtins_vetted .empty _ bare
  caught _ member := absurd member List.not_mem_nil

theorem initial_calm {check : Function → Bool} {faults : Fault → Prop} (limit : Option Nat) :
    Calm check faults (State.initial limit) :=
  fresh_calm _

/-- However well-scoped programs and calls by name follow one another in a new session, no exit and
no jump goes astray: no command fails so, and no handler ever took such an error. -/
theorem well_scoped_never_strays (options : Options) (outputLimit errorLimit : Option Nat)
    (commands : List Session.Command)
    (placed : ∀ command ∈ commands, command.wellScoped = true) :
    let run := (Session.start options outputLimit errorLimit).performAll commands
    (∀ error, .failed error ∈ run.1 → error.cause.isStray = false) ∧
      ∀ error, .caught error ∈ run.2.state.journal → error.cause.isStray = false := by
  -- A new session knows no components of the host, whose members could fail in any way.
  have classes :
      ClassesVetted NotStray (Session.start options outputLimit errorLimit).setting.components :=
    fun _ _ found => nomatch found
  have kept := Session.perform_all_keeps commands _
    (fun command member => command_unstrayed classes command (placed command member))
    (initial_calm outputLimit)
  exact ⟨kept.2, kept.1.caught⟩

def loopsAndJumps : List Stmt :=
  let inside : Location := .internal
  let condition : Expr := .literal (.boolean true) inside
  let jumping : Function :=
    ⟨none, [], .void,
      ⟨[.tryCatch ⟨[.raise condition inside], inside⟩ "e" ⟨[.goto "DONE" inside], inside⟩ inside,
        .label "done" inside], inside⟩,
      true, inside⟩
  let leaving : Block :=
    ⟨[.whileDo condition ⟨[.ifThen condition ⟨[.exitFor inside], inside⟩ [] none inside,
        .exitWhile inside], inside⟩ inside], inside⟩
  let running : Function :=
    ⟨some "run", [], .void,
      ⟨[.forEach "x" (.array [condition] inside) leaving inside,
        .assign "t" (.table [⟨"jump", .function jumping, inside⟩] inside) inside,
        .expression (.call (.member (.variable "t" inside) "jump" inside) [] inside) inside],
        inside⟩,
      true, inside⟩
  [.declare "run" running inside]

theorem loops_and_jumps_never_stray :
    let run := (Session.start {} none none).performAll [.exec loopsAndJumps, .call "run" []]
    (∀ error, .failed error ∈ run.1 → error.cause.isStray = false) ∧
      ∀ error, .caught error ∈ run.2.state.journal → error.cause.isStray = false :=
  well_scoped_never_strays {} none none _ (by decide)

end BrightScript
