import BrightScript.Machine.State
set_option autoImplicit false

/-!
How statements follow one another. A statement that does not simply complete gives a signal, which
travels outward to the block or loop that it is meant for. Loops and blocks are built here from the
actions they consist of; only repetition without a bound of its own uses up rounds.
-/

namespace BrightScript

inductive Signal where
  | completed
  | returned (value : Value)
  | exitFor (location : Location)
  | exitWhile (location : Location)
  | goto (label : String) (location : Location)

def Signal.result : Signal → Except RuntimeError (Option Value)
  | .completed => .ok none
  | .returned value => .ok (some value)
  | .exitFor location => .error ⟨.exitOutsideLoop "exit for", location⟩
  | .exitWhile location => .error ⟨.exitOutsideLoop "exit while", location⟩
  | .goto label location => .error ⟨.labelNotFound label, location⟩

structure Step where
  label : Option String
  action : Exec Signal

namespace Step

def isLabelled (label : String) (step : Step) : Bool :=
  step.label.any (sameName label)

def after? (label : String) (steps : List Step) : Option (List Step) :=
  match steps.dropWhile fun step => !step.isLabelled label with
  | [] => none
  | _ :: rest => some rest

theorem mem_of_after {label : String} {block rest : List Step}
    (found : after? label block = some rest) (step : Step) (member : step ∈ rest) :
    step ∈ block := by
  unfold after? at found
  split at found
  · cases found
  · rename_i first behind dropped
    cases found
    have inside : step ∈ block.dropWhile fun step => !step.isLabelled label := by
      rw [dropped]
      exact List.mem_cons_of_mem _ member
    exact (List.dropWhile_sublist _).subset inside

def runStraight : List Step → Exec Signal
  | [] => pure .completed
  | step :: rest => do
    match ← step.action with
    | .completed => runStraight rest
    | signal => pure signal

def runFrom (block : List Step) (rounds : Nat) (steps : List Step) : Exec Signal := do
  match ← runStraight steps with
  | .goto label location =>
    match after? label block with
    | some rest =>
      match rounds with
      | 0 => throw .exhausted
      | rounds + 1 => runFrom block rounds rest
    | none => pure (.goto label location)
  | signal => pure signal

def runBlock (rounds : Nat) (block : List Step) : Exec Signal :=
  runFrom block rounds block

end Step

def goRound (round : Exec (Option Signal)) (rounds : Nat) : Exec Signal := do
  match ← round with
  | some signal => pure signal
  | none =>
    match rounds with
    | 0 => throw .exhausted
    | rounds + 1 => goRound round rounds

def whileRound (condition : Exec Bool) (body : Exec Signal) : Exec (Option Signal) := do
  if ← condition then
    match ← body with
    | .completed => pure none
    | .exitWhile _ => pure (some .completed)
    | signal => pure (some signal)
  else pure (some .completed)

def whileLoop (condition : Exec Bool) (body : Exec Signal) (rounds : Nat) : Exec Signal :=
  goRound (whileRound condition body) rounds

def forEachLoop (item : String) (body : Exec Signal) : List Value → Exec Signal
  | [] => pure .completed
  | element :: rest => do
    Exec.define .function item element
    match ← body with
    | .completed => forEachLoop item body rest
    | .exitFor _ => pure .completed
    | signal => pure signal

inductive Direction where
  | up
  | down
  | still
deriving DecidableEq, Repr

def Scalar.direction? : Scalar → Option Direction
  | .integer v => some (if v = 0 then .still else if 0 < v then .up else .down)
  | .longInteger v => some (if v = 0 then .still else if 0 < v then .up else .down)
  | .float v => some (if v == 0.0 then .still else if 0.0 < v then .up else .down)
  | .double v => some (if v == 0.0 then .still else if 0.0 < v then .up else .down)
  | _ => none

def Value.isNumber (v : Value) : Bool :=
  v.unboxed.kind.isNumeric

def Direction.continues (current stop : Value) : Direction → Bool
  | .up => compareValues .lessEqual current stop
  | .down => compareValues .greaterEqual current stop
  | .still => false

def direction? (current stop step : Value) : Option Direction :=
  match step.scalar?.bind Scalar.direction? with
  | some direction => if current.isNumber && stop.isNumber then some direction else none
  | none => none

def forRound (counter : String) (stop step : Exec Value) (body : Exec Signal)
    (location : Location) : Exec (Option Signal) := do
  let stopValue ← stop
  let stepValue ← step
  let current ← Exec.lookup counter
  let direction ← Exec.orFail (direction? current stopValue stepValue)
    (.typeMismatch "for" current.kind (some stopValue.kind)) location
  if direction.continues current stopValue then
    match ← body with
    | .completed =>
      let reached ← Exec.lookup counter
      let next ← Exec.ofExcept location (applyBinary .add reached stepValue)
      Exec.assign counter next location
      pure none
    | .exitFor _ => pure (some .completed)
    | signal => pure (some signal)
  else pure (some .completed)

-- Runs the body while the counter has not passed its end. End and step are computed anew before
-- each round, and the counter is read back, so that the body may change all three.
def forLoop (counter : String) (stop step : Exec Value) (body : Exec Signal)
    (location : Location) (rounds : Nat) : Exec Signal :=
  goRound (forRound counter stop step body location) rounds

end BrightScript
