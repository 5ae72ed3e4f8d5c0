import BrightScript.Session
import BrightScript.Proofs.Designators
set_option autoImplicit false

/-!
Declarations at the head of a file and elsewhere. The functions of a file are declared before
anything of it runs, and each of them is declared once more where it stands. That makes no
difference to jumps and to what the other statements do, but a name may come to stand for another
function than the one declared last.
-/

namespace BrightScript

def Stmt.isDeclaration : Stmt → Bool
  | .declare _ _ _ => true
  | _ => false

def fileValue (run : Exec Signal) : Exec Value := do
  match (← run).result with
  | .ok value => pure (value.getD .invalid)
  | .error error => throw (.error error)

theorem run_module_eq (setting : Setting) (statements : List Stmt) :
    runModule setting statements = (do
      hoist statements
      fileValue (Step.runBlock setting.options.maxRounds
        (steps setting (callFunction setting) statements))) :=
  rfl

def runHoisted (setting : Setting) (statements : List Stmt) : Exec Value := do
  hoist statements
  fileValue (executeAll setting (callFunction setting) (statements.filter (!·.isDeclaration)))

def passingSteps (setting : Setting) (call : Call) (statements : List Stmt) : List Step :=
  statements.map fun statement =>
    if statement.isDeclaration then ⟨none, pure .completed⟩
    else ⟨statement.labelName?, execute setting call statement⟩

namespace Step

-- Steps of which some that do nothing are left out.
inductive Thinned : List Step → List Step → Prop
  | nil : Thinned [] []
  | keep (step : Step) {block fewer : List Step} (rest : Thinned block fewer) :
      Thinned (step :: block) (step :: fewer)
  | drop {block fewer : List Step} (rest : Thinned block fewer) :
      Thinned (⟨none, pure .completed⟩ :: block) fewer

theorem run_straight_thinned {block fewer : List Step} (thinned : Thinned block fewer) :
    runStraight block = runStraight fewer := by
  induction thinned with
  | nil => rfl
  | keep step _ ih => simp only [runStraight, ih]
  | drop _ ih => exact ih

theorem after_cons (label : String) (step : Step) (block : List Step) :
    after? label (step :: block) =
      if step.isLabelled label = true then some block else after? label block := by
  unfold after?
  cases found : step.isLabelled label <;> simp [found]

theorem after_thinned {block fewer : List Step} (thinned : Thinned block fewer) (label : String) :
    (after? label block = none ∧ after? label fewer = none) ∨
      ∃ rest fewerRest, after? label block = some rest ∧ after? label fewer = some fewerRest ∧
        Thinned rest fewerRest := by
  induction thinned with
  | nil => exact .inl ⟨rfl, rfl⟩
  | @keep step block fewer rest ih =>
    rw [after_cons, after_cons]
    split
    · exact .inr ⟨block, fewer, rfl, rfl, rest⟩
    · exact ih
  | drop _ ih =>
    rw [after_cons]
    exact ih

theorem run_from_thinned {block fewer : List Step} (whole : Thinned block fewer) (rounds : Nat)
    {steps fewerSteps : List Step} (thinned : Thinned steps fewerSteps) :
    runFrom block rounds steps = runFrom fewer rounds fewerSteps := by
  induction rounds generalizing steps fewerSteps with
  | zero =>
    unfold runFrom
    rw [run_straight_thinned thinned]
    congr 1
    funext signal
    cases signal with
    | goto label location =>
      obtain ⟨missing, missingToo⟩ | ⟨rest, fewerRest, found, foundToo, _⟩ :=
        after_thinned whole label
      · simp only [missing, missingToo]
      · simp only [found, foundToo]
    | completed | returned | exitFor | exitWhile => rfl
  | succ rounds ih =>
    unfold runFrom
    rw [run_straight_thinned thinned]
    congr 1
    funext signal
    cases signal with
    | goto label location =>
      obtain ⟨missing, missingToo⟩ | ⟨rest, fewerRest, found, foundToo, later⟩ :=
        after_thinned whole label
      · simp only [missing, missingToo]
      · simp only [found, foundToo]
        exact ih later
    | completed | returned | exitFor | exitWhile => rfl

theorem run_from_labels {block other : List Step}
    (same : ∀ label, after? label block = after? label other) (rounds : Nat) (steps : List Step) :
    runFrom block rounds steps = runFrom other rounds steps := by
  induction rounds generalizing steps with
  | zero =>
    unfold runFrom
    simp only [same]
  | succ rounds ih =>
    unfold runFrom
    simp only [same, ih]

end Step

section

variable (setting : Setting) (call : Call)

theorem passing_thinned (statements : List Stmt) :
    Step.Thinned (passingSteps setting call statements)
      (steps setting call (statements.filter (!·.isDeclaration))) := by
  induction statements with
  | nil => exact .nil
  | cons statement rest ih =>
    cases declares : statement.isDeclaration with
    | true => simpa [passingSteps, declares] using ih.drop
    | false =>
      have kept := ih.keep ⟨statement.labelName?, execute setting call statement⟩
      simpa [passingSteps, declares, steps] using kept

theorem run_declarations {declared : List Stmt}
    (declares : ∀ statement ∈ declared, statement.isDeclaration = true) (others : List Stmt) :
    Step.runStraight (steps setting call (declared ++ others)) =
      (hoist declared >>= fun _ => Step.runStraight (steps setting call others)) ∧
    ∀ label, Step.after? label (steps setting call (declared ++ others)) =
      Step.after? label (steps setting call others) := by
  induction declared with
  | nil => exact ⟨rfl, fun _ => rfl⟩
  | cons statement rest ih =>
    obtain ⟨first, later⟩ := List.forall_mem_cons.1 declares
    obtain ⟨straight, labels⟩ := ih later
    cases statement with
    | declare name function place =>
      constructor
      · simp only [List.cons_append, steps, Step.runStraight, execute, hoist, bind_assoc,
          pure_bind, straight]
      · intro label
        rw [List.cons_append, steps, Step.after_cons, labels]
        rfl
    | _ => cases first

theorem execute_declarations {declared : List Stmt}
    (declares : ∀ statement ∈ declared, statement.isDeclaration = true) (others : List Stmt) :
    executeAll setting call (declared ++ others) =
      (hoist declared >>= fun _ => executeAll setting call others) := by
  obtain ⟨straight, labels⟩ := run_declarations setting call declares others
  unfold executeAll Step.runBlock
  rw [Step.run_from_labels labels]
  unfold Step.runFrom
  rw [straight, bind_assoc]

end

theorem hoist_append (first second : List Stmt) :
    hoist (first ++ second) = (hoist first >>= fun _ => hoist second) := by
  induction first with
  | nil => rfl
  | cons statement rest ih =>
    cases statement with
    | declare name function place => simp only [List.cons_append, hoist, ih, bind_assoc]
    | _ => exact ih

theorem hoist_declarations (statements : List Stmt) :
    hoist (statements.filter (·.isDeclaration)) = hoist statements := by
  induction statements with
  | nil => rfl
  | cons statement rest ih =>
    cases statement with
    | declare name function place =>
      change (Exec.declare name function >>= fun _ => hoist (rest.filter (·.isDeclaration))) = _
      rw [ih]
      rfl
    | _ => exact ih

theorem hoist_others (statements : List Stmt) :
    hoist (statements.filter (!·.isDeclaration)) = pure () := by
  induction statements with
  | nil => rfl
  | cons statement rest ih =>
    cases statement with
    | declare name function place => exact ih
    | _ => exact ih

def lastDeclared? (name : String) : List Stmt → Option Function
  | [] => none
  | .declare other function _ :: rest =>
    (lastDeclared? name rest).or (if fold name = fold other then some function else none)
  | _ :: rest => lastDeclared? name rest

def declaredFunctions : List Stmt → List Function
  | [] => []
  | .declare _ function _ :: rest => function :: declaredFunctions rest
  | _ :: rest => declaredFunctions rest

structure Declared (statements : List Stmt) (s once : State) : Prop where
  rest : once = { s with module := once.module, heap :=
    { s.heap with functions := once.heap.functions } }
  functions : once.heap.functions = s.heap.functions ++
    ((declaredFunctions statements).map Callable.user).toArray
  named : ∀ name function, lastDeclared? name statements = some function →
    ∃ ref, once.module.get? name = some (.function ref) ∧ once.heap.function ref = .user function
  unnamed : ∀ name, lastDeclared? name statements = none →
    once.module.get? name = s.module.get? name

def State.declare (s : State) (name : String) (function : Function) : State :=
  { s with
    module := s.module.insert name (.function s.heap.functions.size)
    heap := { s.heap with functions := s.heap.functions.push (.user function) } }

theorem hoist_declares (statements : List Stmt) (s : State) :
    ∃ once, hoist statements s = .ok () once ∧ Declared statements s once := by
  induction statements generalizing s with
  | nil => exact ⟨s, rfl, rfl, by simp [declaredFunctions], nofun, fun _ _ => rfl⟩
  | cons statement rest ih =>
    cases statement with
    | declare name function place =>
      obtain ⟨once, ran, declared⟩ := ih (s.declare name function)
      have functions : once.heap.functions =
          s.heap.functions.push (.user function) ++
            ((declaredFunctions rest).map Callable.user).toArray :=
        declared.functions
      have found : once.heap.function s.heap.functions.size = .user function := by
        simp [Heap.function, functions, Array.getD_eq_getD_getElem?]
      refine ⟨once, ran, declared.rest, by simp [functions, declaredFunctions], ?_, ?_⟩
      · intro other last isLast
        cases later : lastDeclared? other rest with
        | some newer =>
          rw [lastDeclared?, later, Option.some_or] at isLast
          exact declared.named other last (later.trans isLast)
        | none =>
          rw [lastDeclared?, later, Option.none_or] at isLast
          have kept : once.module.get? other = (s.declare name function).module.get? other :=
            declared.unnamed other later
          split at isLast
          · rename_i same
            cases isLast
            refine ⟨s.heap.functions.size, ?_, found⟩
            rw [kept, State.declare, Table.get_insert, if_pos same]
          · cases isLast
      · intro other none
        rw [lastDeclared?, Option.or_eq_none_iff] at none
        obtain ⟨later, differs⟩ := none
        rw [declared.unnamed other later, State.declare, Table.get_insert]
        split at differs
        · cases differs
        · rename_i other
          rw [if_neg other]
    | _ =>
      obtain ⟨once, ran, declared⟩ := ih s
      exact ⟨once, ran, declared.rest, declared.functions, declared.named, declared.unnamed⟩

structure Unshadowed (name : String) (s : State) : Prop where
  notReceiver : sameName name "m" = false
  notMocked : s.mocks.get? name = none
  notLocal : s.frame.locals.get? name = none

theorem declare_lookup {name : String} {s : State} (unshadowed : Unshadowed name s)
    (function : Function) :
    (s.declare name function).lookup? name = some (.function s.heap.functions.size) ∧
      (s.declare name function).heap.function s.heap.functions.size = .user function ∧
      Unshadowed name (s.declare name function) := by
  obtain ⟨notReceiver, notMocked, notLocal⟩ := unshadowed
  refine ⟨?_, by simp [State.declare, Heap.function, Array.getD_eq_getD_getElem?], notReceiver,
    notMocked, notLocal⟩
  simp [State.lookup?, State.declare, notReceiver, notMocked, notLocal, Table.get_insert]

theorem give_back_run (setting : Setting) (call : Call) {name : String} {s : State} {value : Value}
    (found : s.lookup? name = some value) (place : Location) (rest : List Stmt) :
    executeAll setting call (.giveBack (some (.variable name place)) place :: rest) s =
      .ok (.returned value) s := by
  have looked : execute setting call (.giveBack (some (.variable name place)) place) s =
      .ok (.returned value) s := by
    change EStateM.Result.ok (Signal.returned ((s.lookup? name).getD .uninitialized)) s = _
    rw [found]
    rfl
  have straight : Step.runStraight
      (steps setting call (.giveBack (some (.variable name place)) place :: rest)) s =
      .ok (.returned value) s := by
    rw [steps, Step.runStraight, bind_ran looked]
    rfl
  unfold executeAll Step.runBlock Step.runFrom
  rw [bind_ran straight]
  rfl

-- Between two declarations of a name, it stands for the first function in a file that is run, and
-- for the second one in a file that is hoisted.
theorem between_declarations (setting : Setting) {name : String} {s : State}
    (unshadowed : Unshadowed name s) (first second : Function) (place : Location) :
    let file := [.declare name first place, .giveBack (some (.variable name place)) place,
      .declare name second place]
    (∃ ref final, runModule setting file s = .ok (.function ref) final ∧
      final.heap.function ref = .user first) ∧
    ∃ ref final, runHoisted setting file s = .ok (.function ref) final ∧
      final.heap.function ref = .user second := by
  intro file
  obtain ⟨_, _, once⟩ := declare_lookup unshadowed first
  obtain ⟨named, found, twice⟩ := declare_lookup once second
  obtain ⟨renamed, refound, _⟩ := declare_lookup twice first
  have hoisted : hoist file s = .ok () ((s.declare name first).declare name second) := rfl
  constructor
  · refine ⟨_, _, ?_, refound⟩
    have ran := give_back_run setting (callFunction setting) renamed place
        [.declare name second place]
    have declares : ∀ statement ∈ [Stmt.declare name first place],
        statement.isDeclaration = true := by
      simp [Stmt.isDeclaration]
    have again := execute_declarations setting (callFunction setting) declares
      [.giveBack (some (.variable name place)) place, .declare name second place]
    have whole : executeAll setting (callFunction setting) file _ = _ :=
      (congrFun again ((s.declare name first).declare name second)).trans ran
    rw [runModule, bind_ran hoisted, bind_ran whole]
    rfl
  · refine ⟨_, _, ?_, found⟩
    have ran := give_back_run setting (callFunction setting) named place []
    rw [runHoisted, bind_ran hoisted, fileValue]
    change (executeAll setting _ [.giveBack (some (.variable name place)) place] >>= _) _ = _
    rw [bind_ran ran]
    rfl

/-- A file differs from what it would be with its functions declared once and for all in that each
declaration is made again where it stands. Hoisting only adds functions under their names, and the
other statements, jumps included, run as if the declarations were not there. So a file that starts
with its declarations runs like a hoisted one, from a state in which they have been made before; but
between two declarations of a name it stands for the first one. -/
theorem declarations_made_again (setting : Setting) (statements : List Stmt) :
    (∀ s, ∃ once, hoist statements s = .ok () once ∧ Declared statements s once) ∧
      (runHoisted setting statements = do
        hoist statements
        fileValue (Step.runBlock setting.options.maxRounds
          (passingSteps setting (callFunction setting) statements))) ∧
      (runModule setting
        (statements.filter (·.isDeclaration) ++ statements.filter (!·.isDeclaration)) = do
        hoist statements
        runHoisted setting statements) ∧
      ∀ name s first second place, Unshadowed name s →
        let file := [.declare name first place, .giveBack (some (.variable name place)) place,
          .declare name second place]
        (∃ ref final, runModule setting file s = .ok (.function ref) final ∧
          final.heap.function ref = .user first) ∧
        ∃ ref final, runHoisted setting file s = .ok (.function ref) final ∧
          final.heap.function ref = .user second := by
  refine ⟨hoist_declares statements, ?_, ?_, fun name s first second place unshadowed =>
    between_declarations setting unshadowed first second place⟩
  · have thinned := passing_thinned setting (callFunction setting) statements
    rw [runHoisted, executeAll, Step.runBlock, Step.runBlock,
      Step.run_from_thinned thinned _ thinned]
  · have declares : ∀ statement ∈ statements.filter (·.isDeclaration),
        statement.isDeclaration = true :=
      fun statement found => (List.mem_filter.1 found).2
    have again := execute_declarations setting (callFunction setting) declares
    unfold executeAll at again
    rw [run_module_eq, again, hoist_append, hoist_declarations, hoist_others]
    simp only [fileValue, runHoisted, executeAll, bind_assoc, pure_bind]

theorem redeclared_function_named :
    let place := Location.internal
    let giving := fun n : Int32 => Function.mk (some "f") [] .dynamic
      ⟨[.giveBack (some (.literal (.integer n) place)) place], place⟩ false place
    Unshadowed "f" (.initial none) ∧ ∃ ref final,
      runModule ⟨{}, .empty⟩ [.declare "f" (giving 1) place,
        .giveBack (some (.variable "f" place)) place, .declare "f" (giving 2) place]
          (.initial none) = .ok (.function ref) final ∧
      final.heap.function ref = .user (giving 1) := by
  intro place giving
  have unshadowed : Unshadowed "f" (.initial none) := ⟨by decide, rfl, rfl⟩
  obtain ⟨_, _, _, redeclared⟩ := declarations_made_again ⟨{}, .empty⟩ []
  exact ⟨unshadowed, (redeclared "f" _ (giving 1) (giving 2) place unshadowed).1⟩

def Conclusion.value? : Conclusion → Option Value
  | .value result => some result
  | .failed _ | .exhausted => none

theorem redeclared_function_called :
    let place := Location.internal
    let giving := fun n : Int32 => Function.mk (some "f") [] .dynamic
      ⟨[.giveBack (some (.literal (.integer n) place)) place], place⟩ false place
    let file := [Stmt.declare "f" (giving 1) place,
      .giveBack (some (.call (.variable "f" place) [] place)) place, .declare "f" (giving 2) place]
    ((Session.start {} none none).exec file).1.value? = some (.integer 1) ∧
      ((Session.start {} none none).conclude (runHoisted · file)).1.value? = some (.integer 2) := by
  decide +kernel

end BrightScript
