import BrightScript.Proofs.EditedSteps
set_option autoImplicit false

/-!
Edited programs run alike: their statements, their functions, whole modules and calls by name. A
handler gets to see how names are spelled, so programs with handlers run alike only under edits that
keep all names.
-/

namespace BrightScript

mutual

-- Whether no error is caught. Functions in a statement are bodies of their own and not looked into.
def Stmt.handlerFree : Stmt → Bool
  | .tryCatch _ _ _ _ => false
  | .ifThen _ body elseIfs otherwise _ =>
    body.handlerFree && elseIfsHandlerFree elseIfs && otherwiseHandlerFree otherwise
  | .forTo _ _ _ _ body _ | .forEach _ _ body _ | .whileDo _ body _ => body.handlerFree
  | .block block => block.handlerFree
  | _ => true

def Block.handlerFree : Block → Bool
  | ⟨statements, _⟩ => statementsHandlerFree statements

def statementsHandlerFree : List Stmt → Bool
  | [] => true
  | statement :: rest => statement.handlerFree && statementsHandlerFree rest

def elseIfsHandlerFree : List ElseIf → Bool
  | [] => true
  | ⟨_, body⟩ :: rest => body.handlerFree && elseIfsHandlerFree rest

def otherwiseHandlerFree : Option Block → Bool
  | none => true
  | some block => block.handlerFree

end

variable {α : Type} {f : α → α} {edit : Edit} {check : Function → Bool} {call twin : Call}

def Step.relabelled (edit : Edit) (step : Step) : Step :=
  { step with label := step.label.map edit.name }

abbrev StepsFollow (edit : Edit) (check : Function → Bool) (block mirror : List Step) : Prop :=
  StepsRelated (Follows edit check (Signal.edited edit)) (block.map (Step.relabelled edit)) mirror

theorem Step.labelled_edited (label : String) (step : Step) :
    (step.relabelled edit).isLabelled (edit.name label) = step.isLabelled label := by
  unfold isLabelled relabelled
  cases step.label with
  | none => rfl
  | some own => exact (edited_same_name label _).trans (same_name_edited label own)

theorem Step.after_edited (label : String) (block : List Step) :
    after? (edit.name label) (block.map (relabelled edit)) =
      (after? label block).map (List.map (relabelled edit)) := by
  induction block with
  | nil => rfl
  | cons step rest ih =>
    have labelled : (step.relabelled edit).isLabelled (edit.name label) = _ :=
      step.labelled_edited label
    cases found : step.isLabelled label with
    | true => simp [after?, List.dropWhile, labelled, found]
    | false => simpa [after?, List.dropWhile, labelled, found] using ih

theorem follows_straight {block mirror : List Step} (follow : StepsFollow edit check block mirror) :
    Follows edit check (Signal.edited edit) (Step.runStraight block) (Step.runStraight mirror) := by
  induction block generalizing mirror with
  | nil =>
    cases mirror with
    | nil => exact follows_pure _
    | cons _ _ => exact follow.elim
  | cons step rest ih =>
    cases mirror with
    | nil => exact follow.elim
    | cons _ _ =>
      refine follows_bind follow.2.1 fun signal => ?_
      cases signal with
      | completed => exact ih follow.2.2
      | returned | exitFor | exitWhile | goto => exact follows_pure _

theorem follows_run_from {block mirror : List Step} (follow : StepsFollow edit check block mirror)
    (rounds : Nat) {rest mirrorRest : List Step}
    (restFollow : StepsFollow edit check rest mirrorRest) :
    Follows edit check (Signal.edited edit) (Step.runFrom block rounds rest)
      (Step.runFrom mirror rounds mirrorRest) := by
  unfold Step.runFrom
  refine follows_bind (follows_straight restFollow) fun signal => ?_
  cases signal with
  | goto label location =>
    dsimp only [Signal.edited]
    have target : Step.after? (edit.name label) (block.map (Step.relabelled edit)) = _ :=
      Step.after_edited label block
    rcases after_related (edit.name label)
      follow with ⟨gone, mirrorGone⟩ | ⟨_, _, found, mirrorFound, behind⟩
    · rw [target, Option.map_eq_none_iff] at gone
      simp only [gone, mirrorGone]
      exact follows_pure (Signal.goto label location)
    · rw [target] at found
      obtain ⟨after, here, rfl⟩ := Option.map_eq_some_iff.1 found
      simp only [here, mirrorFound]
      cases rounds with
      | zero => exact follows_throw rfl
      | succ rounds => exact follows_run_from follow rounds behind
  | completed | returned | exitFor | exitWhile => exact follows_pure _

theorem follows_go_round {round mirror : Exec (Option Signal)}
    (follow : Follows edit check (Option.map (Signal.edited edit)) round mirror) (rounds : Nat) :
    Follows edit check (Signal.edited edit) (goRound round rounds) (goRound mirror rounds) := by
  unfold goRound
  refine follows_bind follow fun outcome => ?_
  cases outcome with
  | some signal => exact follows_pure signal
  | none =>
    cases rounds with
    | zero => exact follows_throw rfl
    | succ rounds => exact follows_go_round follow rounds

theorem follows_while_loop {condition mirror : Exec Bool} {body mirrorBody : Exec Signal}
    (test : Follows edit check id condition mirror)
    (follow : Follows edit check (Signal.edited edit) body mirrorBody) (rounds : Nat) :
    Follows edit check (Signal.edited edit) (whileLoop condition body rounds)
      (whileLoop mirror mirrorBody rounds) := by
  refine follows_go_round (follows_bind test fun holds => ?_) rounds
  cases holds with
  | false => exact follows_pure (some Signal.completed)
  | true =>
    refine follows_bind follow fun signal => ?_
    cases signal with
    | completed => exact follows_pure none
    | exitWhile _ => exact follows_pure (some Signal.completed)
    | returned | exitFor | goto => exact follows_pure (some _)

theorem follows_for_each_loop (item : String) {body mirror : Exec Signal}
    (follow : Follows edit check (Signal.edited edit) body mirror) (elements : List Value) :
    Follows edit check (Signal.edited edit) (forEachLoop item body elements)
      (forEachLoop (edit.name item) mirror elements) := by
  induction elements with
  | nil => exact follows_pure _
  | cons element rest ih =>
    refine follows_bind (follows_store item element) fun _ => ?_
    refine follows_bind follow fun signal => ?_
    cases signal with
    | completed => exact ih
    | exitFor _ => exact follows_pure Signal.completed
    | returned | exitWhile | goto => exact follows_pure _

theorem follows_for_loop (counter : String) {stop mirrorStop step mirrorStep : Exec Value}
    {body mirror : Exec Signal} (stops : Follows edit check id stop mirrorStop)
    (steps : Follows edit check id step mirrorStep)
    (follow : Follows edit check (Signal.edited edit) body mirror) (location : Location)
    (rounds : Nat) :
    Follows edit check (Signal.edited edit) (forLoop counter stop step body location rounds)
      (forLoop (edit.name counter) mirrorStop mirrorStep mirror (edit.place location) rounds) := by
  refine follows_go_round (follows_bind stops fun stopValue => ?_) rounds
  refine follows_bind steps fun stepValue => ?_
  refine follows_bind (follows_lookup counter) fun current => ?_
  refine follows_bind (follows_or_fail _ rfl location) fun direction => ?_
  dsimp only [id]
  split
  · refine follows_bind follow fun signal => ?_
    cases signal with
    | completed =>
      refine follows_bind (follows_lookup counter) fun reached => ?_
      refine follows_bind (follows_of_except _ location) fun next => ?_
      exact follows_bind (follows_assign counter next location) fun _ => follows_pure none
    | exitFor _ => exact follows_pure (some Signal.completed)
    | returned | exitWhile | goto => exact follows_pure (some _)
  · exact follows_pure (some Signal.completed)

theorem Halt.respelled_kept (kept : edit.KeepsNames) (halt : Halt) :
    halt.respelled edit = halt := by
  cases halt with
  | error failure =>
    exact congrArg (fun cause => Halt.error ⟨cause, failure.location⟩)
      (failure.cause.edited_kept kept)
  | finish | exhausted => rfl

theorem follows_try_catch (kept : edit.KeepsNames) {body mirror : Exec Signal} (name : String)
    {handler mirrorHandler : Exec Signal}
    (follow : Follows edit check (Signal.edited edit) body mirror)
    (handles : Follows edit check (Signal.edited edit) handler mirrorHandler) :
    Follows edit check (Signal.edited edit) (tryCatch body name handler)
      (tryCatch mirror (edit.name name) mirrorHandler) := by
  have bounded : ∀ x : Exec Signal, Returns (Signal.Bounded Any) x :=
    fun _ _ signal _ _ => bounded_of_exhausted trivial signal
  refine ⟨agree_of_returns
    (try_catch_agree (vetted_lasting check) name (agree_of_returns follow.keeps (bounded _))
    (agree_of_returns handles.keeps (bounded _))) (returns_any _), ?_⟩
  intro s vetted
  have ends := (follow.keeps s vetted).2
  have same := follow.follows s vetted
  unfold tryCatch
  rcases outcomes_matched same with ⟨signal, t, ran, twinRan⟩ | ⟨halt, other, t, ran,
    twinRan, halts⟩
  · rw [ran, twinRan]
    rfl
  · rw [Halt.respelled_kept kept] at halts
    rw [ran] at ends
    rw [ran, twinRan, halts]
    cases halt with
    | finish | exhausted => rfl
    | error failure =>
      have noted : Follows edit check id (Exec.note (.caught failure))
          (Exec.note (Event.edited edit (.caught failure))) :=
        follows_modify (fun _ vetted => vetted) fun _ => rfl
      have handled : Follows edit check (Signal.edited edit)
          (do
            Exec.note (.caught failure)
            let caught ← Exec.allocate (·.newTable failure.cause.entries)
            Exec.define .function name caught
            handler)
          (do
            Exec.note (Event.edited edit (.caught failure))
            let caught ← Exec.allocate (·.newTable (failure.cause.edited edit).entries)
            Exec.define .function (edit.name name) caught
            mirrorHandler) := by
        rw [failure.cause.edited_kept kept]
        exact follows_bind noted fun _ =>
          follows_bind (follows_allocate (fun _ vetted => ⟨vetted.functions, vetted.components⟩)
            fun _ => rfl)
            fun caught => follows_bind (follows_store name caught) fun _ => handles
      exact handled.follows t ends.1

theorem Stmt.label_name_edited (statement : Stmt) :
    (statement.edited edit).labelName? = statement.labelName?.map edit.name := by
  cases statement <;> rfl

variable {setting : Setting}

mutual

theorem follows_execute (calls : CallsFollow edit check call twin) :
    (statement : Stmt) → statement.everyFunction check = true →
      statement.handlerFree = true ∨ edit.KeepsNames →
      Follows edit check (Signal.edited edit) (execute setting call statement)
        (execute setting twin (statement.edited edit))
  | .expression expression _, passed, _ =>
    follows_bind (follows_evaluate calls expression passed) fun _ => follows_pure Signal.completed
  | .print items location, passed, _ => by
    refine follows_bind (follows_print_items calls _ location items passed) fun _ => ?_
    rw [ends_line_edited]
    split
    · exact follows_bind (follows_print "\n" location) fun _ => follows_pure Signal.completed
    · exact follows_pure Signal.completed
  | .assign name value location, passed, _ =>
    follows_bind (follows_evaluate calls value passed) fun value =>
      follows_bind (follows_assign name value location) fun _ => follows_pure Signal.completed
  | .dim name dimensions location, passed, _ =>
    follows_bind (follows_dim calls name dimensions location passed) fun _ =>
      follows_pure Signal.completed
  | .ifThen condition body elseIfs otherwise _, passed, free => by
    simp only [Stmt.everyFunction, Bool.and_eq_true] at passed
    obtain ⟨⟨⟨test, main⟩, others⟩, last⟩ := passed
    obtain ⟨free, lastFree⟩ := free_and free
    obtain ⟨mainFree, othersFree⟩ := free_and free
    refine follows_bind (follows_condition calls condition test) fun holds => ?_
    cases holds with
    | true => exact follows_execute_block calls body main mainFree
    | false =>
      exact follows_execute_else calls
        (follows_otherwise calls otherwise last lastFree) elseIfs others othersFree
  | .forTo counter start stop step body location, passed, free => by
    simp only [Stmt.everyFunction, Bool.and_eq_true] at passed
    obtain ⟨⟨⟨starts, stops⟩, steps⟩, main⟩ := passed
    refine follows_bind (follows_evaluate calls start starts) fun first => ?_
    refine follows_bind (follows_assign counter first location) fun _ => ?_
    exact follows_for_loop counter (follows_evaluate calls stop stops)
      (follows_evaluate calls step steps)
      (follows_execute_block calls body main free) location _
  | .forEach item target body _, passed, free => by
    have parts := Bool.and_eq_true_iff.1 passed
    unfold Stmt.edited execute
    rw [target.location_edited]
    refine follows_bind (follows_evaluate calls target parts.1) fun collection => ?_
    refine follows_get_bind fun s _ => ?_
    refine follows_bind (follows_or_fail _ rfl _) fun elements => ?_
    exact follows_for_each_loop item (follows_execute_block calls body parts.2 free) elements
  | .whileDo condition body _, passed, free => by
    have parts := Bool.and_eq_true_iff.1 passed
    exact follows_while_loop (follows_condition calls condition parts.1)
      (follows_execute_block calls body parts.2 free) _
  | .declare name function _, passed, _ =>
    follows_bind (follows_declare name function passed) fun _ => follows_pure Signal.completed
  | .giveBack none _, _, _ => follows_pure (Signal.returned _)
  | .giveBack (some value) _, passed, _ =>
    follows_bind (follows_evaluate calls value passed) fun value =>
      follows_pure (Signal.returned value)
  | .setMember object name value location, passed, _ => by
    have parts := Bool.and_eq_true_iff.1 passed
    exact follows_bind (follows_evaluate calls object parts.1) fun target =>
      follows_bind (follows_evaluate calls value parts.2) fun value =>
        follows_bind (follows_set_member target name value location) fun _ =>
          follows_pure Signal.completed
  | .setIndex object index value location, passed, _ => by
    simp only [Stmt.everyFunction, Bool.and_eq_true] at passed
    obtain ⟨⟨objects, places⟩, values⟩ := passed
    exact follows_bind (follows_evaluate calls object objects) fun target =>
      follows_bind (follows_evaluate calls index places) fun place =>
        follows_bind (follows_evaluate calls value values) fun value =>
          follows_bind (follows_set_index target place value location) fun _ =>
            follows_pure Signal.completed
  | .step target op location, passed, _ =>
    follows_bind (follows_step calls target op location passed) fun _ =>
      follows_pure Signal.completed
  | .tryCatch body name handler _, passed, free => by
    have parts := Bool.and_eq_true_iff.1 passed
    have kept : edit.KeepsNames := free.resolve_left Bool.false_ne_true
    exact follows_try_catch kept name (follows_execute_block calls body parts.1 (.inr kept))
      (follows_execute_block calls handler parts.2 (.inr kept))
  | .raise value location, passed, _ => by
    refine follows_bind (follows_evaluate calls value passed) fun value => ?_
    refine follows_get_bind fun s _ => ?_
    rw [show (s.edited edit).heap.thrown (id value) =
      s.heap.thrown value from thrown_restyled s.heap value]
    exact follows_fail rfl location
  | .library _ _, _, _ | .label _ _, _, _ | .stop _, _, _ => follows_pure Signal.completed
  | .goto label location, _, _ => follows_pure (Signal.goto label location)
  | .exitFor location, _, _ => follows_pure (Signal.exitFor location)
  | .exitWhile location, _, _ => follows_pure (Signal.exitWhile location)
  | .endProgram _, _, _ => follows_finish
  | .block block, passed, free => follows_execute_block calls block passed free

theorem follows_execute_block (calls : CallsFollow edit check call twin) :
    (block : Block) → block.everyFunction check = true → block.handlerFree = true ∨
      edit.KeepsNames →
      Follows edit check (Signal.edited edit) (executeBlock setting call block)
        (executeBlock setting twin (block.edited edit))
  | ⟨statements, _⟩, passed, free =>
    have follow := steps_follow calls statements passed free
    follows_run_from follow _ follow

theorem steps_follow (calls : CallsFollow edit check call twin) :
    (statements : List Stmt) → everyStatementFunction check statements = true →
      statementsHandlerFree statements = true ∨ edit.KeepsNames →
      StepsFollow edit check (steps setting call statements)
        (steps setting twin (editedStatements edit statements))
  | [], _, _ => trivial
  | statement :: rest, passed, free =>
    have parts := Bool.and_eq_true_iff.1 passed
    have freeParts := free_and free
    ⟨statement.label_name_edited.symm, follows_execute calls statement parts.1 freeParts.1,
      steps_follow calls rest parts.2 freeParts.2⟩

theorem follows_execute_else (calls : CallsFollow edit check call twin)
    {otherwise mirror : Exec Signal}
    (last : Follows edit check (Signal.edited edit) otherwise mirror) :
    (elseIfs : List ElseIf) → everyElseIfFunction check elseIfs = true →
      elseIfsHandlerFree elseIfs = true ∨ edit.KeepsNames →
      Follows edit check (Signal.edited edit) (executeElse setting call otherwise elseIfs)
        (executeElse setting twin mirror (editedElseIfs edit elseIfs))
  | [], _, _ => last
  | ⟨condition, body⟩ :: rest, passed, free => by
    simp only [everyElseIfFunction, Bool.and_eq_true] at passed
    obtain ⟨⟨test, main⟩, others⟩ := passed
    obtain ⟨mainFree, othersFree⟩ := free_and free
    refine follows_bind (follows_condition calls condition test) fun holds => ?_
    cases holds with
    | true => exact follows_execute_block calls body main mainFree
    | false => exact follows_execute_else calls last rest others othersFree

theorem follows_otherwise (calls : CallsFollow edit check call twin) :
    (otherwise : Option Block) → everyOtherwiseFunction check otherwise = true →
      otherwiseHandlerFree otherwise = true ∨ edit.KeepsNames →
      Follows edit check (Signal.edited edit) (executeOtherwise setting call otherwise)
        (executeOtherwise setting twin (editedOtherwise edit otherwise))
  | none, _, _ => follows_pure Signal.completed
  | some block, passed, free => follows_execute_block calls block passed free

end

theorem follows_default_value (calls : CallsFollow edit check call twin) (function : String)
    (parameter : Parameter) (passed : everyOptionalFunction check parameter.default = true) :
    Follows edit check id (defaultValue call function parameter)
      (defaultValue twin
        function ⟨edit.name parameter.name, parameter.kind, editedOptional edit parameter.default,
          edit.place parameter.location⟩) := by
  obtain ⟨name, kind, default, location⟩ := parameter
  cases default with
  | none => exact follows_pure _
  | some expression =>
    unfold defaultValue editedOptional
    dsimp only
    rw [expression.location_edited]
    refine follows_bind (follows_evaluate calls expression passed) fun value => ?_
    refine follows_bind (follows_convert value kind) fun converted => ?_
    refine follows_or_fail _ ?_ _
    simp only [Fault.edited, toString, edit.append, edit.again, id]

theorem follows_bind_parameters (calls : CallsFollow edit check call twin) (function : String)
    (parameters : List Parameter) (arguments : List Value)
    (passed : everyDefaultFunction check parameters = true) :
    Follows edit check id (bindParameters call function parameters arguments)
      (bindParameters twin function (editedParameters edit parameters) arguments) := by
  induction parameters generalizing arguments with
  | nil => exact follows_pure _
  | cons parameter rest ih =>
    rw [every_default_function_cons] at passed
    have parts := Bool.and_eq_true_iff.1 passed
    have supplied := follows_default_value calls function parameter parts.1
    obtain ⟨name, kind, default, location⟩ := parameter
    cases arguments with
    | nil =>
      refine follows_bind supplied fun value => ?_
      exact follows_bind (follows_store name value) fun _ => ih [] parts.2
    | cons argument arguments =>
      exact follows_bind (follows_store name argument) fun _ => ih arguments parts.2

theorem follows_give_back (function : Function) (value : Value) (location : Location) :
    Follows edit check id (giveBack function value location)
      (giveBack (function.edited edit) value (edit.place location)) := by
  obtain ⟨name, parameters, returns, body, isSub, _⟩ := function
  unfold giveBack Function.edited
  dsimp only
  split
  · exact follows_pure _
  · exact follows_bind (follows_convert value returns) fun _ => follows_or_fail _ rfl location

theorem follows_throw_error (failure : RuntimeError) :
    Follows edit check f (throw (.error failure))
      (throw (.error ⟨failure.cause.edited edit, edit.place failure.location⟩)) := by
  refine follows_throw ?_
  exact congrArg (fun cause => Halt.error ⟨cause, edit.place failure.location⟩)
    failure.cause.edited_again

theorem Signal.result_edited (signal : Signal) :
    (signal.edited edit).result =
      signal.result.mapError fun failure =>
        ⟨failure.cause.edited edit, edit.place failure.location⟩ := by
  cases signal <;> rfl

-- The functions that pass the check have no handlers, unless the edit keeps all names.
def Edit.Allows (edit : Edit) (check : Function → Bool) : Prop :=
  ∀ function : Function, check function = true → function.body.handlerFree = true ∨ edit.KeepsNames

theorem follows_run_function (allows : edit.Allows check) (calls : CallsFollow edit check call twin)
    (function : Function) (passed : function.everyFunction check = true) (arguments : List Value)
    (location : Location) :
    Follows edit check id (runFunction setting call function arguments location)
      (runFunction setting twin (function.edited edit) arguments (edit.place location)) := by
  have whole : ∀ value, Follows edit check id (giveBack function value location) _ :=
    fun value => follows_give_back function value location
  obtain ⟨own, defaults, inside⟩ := (function.every_function_iff check).1 passed
  have free := allows function own
  obtain ⟨name, parameters, returns, body, isSub, _⟩ := function
  refine follows_bind (follows_bind_parameters calls _ parameters arguments defaults) fun _ => ?_
  refine follows_bind (follows_execute_block calls body inside free) fun signal => ?_
  rw [signal.result_edited]
  cases signal.result with
  | ok value =>
    cases value with
    | none => exact follows_pure _
    | some value => exact whole value
  | error failure => exact follows_throw_error failure

theorem follows_run_code (allows : edit.Allows check) (calls : CallsFollow edit check call twin)
    (code : Code) (passed : code.Vetted check Any) (arguments : List Value) (location : Location) :
    Follows edit check id (runCode setting call code arguments location)
      (runCode setting twin (code.edited edit) arguments (edit.place location)) := by
  cases code with
  | native own =>
    refine follows_get_bind fun s _ => ?_
    exact follows_on_heap location
      (safe_native (fun _ _ => trivial) ⟨setting.components, s.root⟩
        (fun _ _ _ _ _ _ _ => trivial) own passed arguments)
      (echoes_of_blind (blind_native _ own arguments))
  | user function => exact follows_run_function allows calls function passed arguments location

theorem follows_in_call (frame : Frame) {body mirror : Exec α}
    (follow : Follows edit check f body mirror) :
    Follows edit check f (Exec.inCall frame body) (Exec.inCall frame mirror) := by
  refine ⟨in_call_agree (vetted_opening check) frame follow.keeps, ?_⟩
  intro s vetted
  have inside := follow.follows { s with frame := frame, depth := s.depth + 1 } vetted
  unfold Exec.inCall
  dsimp only
  rw [show ({ s.edited edit with frame := frame, depth := (s.edited edit).depth + 1 } : State) =
    State.edited edit { s with frame := frame, depth := s.depth + 1 } from rfl]
  rcases outcomes_matched inside with ⟨a, t, ran, twinRan⟩ | ⟨halt, other, t, ran, twinRan, halts⟩
  · rw [ran, twinRan]
    rfl
  · rw [ran, twinRan]
    exact congrArg (EStateM.Result.error · _) halts

theorem follows_enter (allows : edit.Allows check) (calls : CallsFollow edit check call twin) :
    CallsFollow edit check (enter setting call) (enter setting twin) := by
  intro ref arguments receiver location
  have resolves : Safe check Any (fun choice => choice.code.Vetted check Any)
      (resolveCall ref arguments) :=
    safe_resolve_call (fun _ _ => trivial) ref arguments
  refine follows_bind_given (vetted_on_heap location resolves)
    (follows_on_heap location resolves (echoes_resolve_call ref arguments)) fun choice passed => ?_
  refine follows_get_bind fun s _ => ?_
  have named : ((s.edited edit).heap.function ref).displayName =
      (s.heap.function ref).displayName := by
    rw [show (s.edited edit).heap = s.heap.restyled edit.restyle from rfl, s.heap.function_restyled]
    rfl
  rw [named]
  refine follows_bind (follows_modify (fun _ vetted => vetted) fun _ => rfl) fun _ => ?_
  exact follows_in_call _
    (follows_run_code allows calls choice.code passed choice.arguments location)

theorem follows_call_within (allows : edit.Allows check) (remaining : Nat) :
    CallsFollow edit check (callWithin setting remaining) (callWithin setting remaining) := by
  induction remaining with
  | zero => exact fun _ _ _ location => follows_fail rfl location
  | succ remaining ih => exact follows_enter allows ih

theorem follows_call_function (allows : edit.Allows check) :
    CallsFollow edit check (callFunction setting) (callFunction setting) :=
  fun ref arguments receiver location =>
    ⟨fun s => (follows_call_within allows _ ref arguments receiver location).keeps s,
      fun s => (follows_call_within allows _ ref arguments receiver location).follows s⟩

theorem follows_hoist (statements : List Stmt)
    (passed : everyStatementFunction check statements = true) :
    Follows edit check id (hoist statements) (hoist (editedStatements edit statements)) := by
  induction statements with
  | nil => exact follows_pure _
  | cons statement rest ih =>
    have parts := Bool.and_eq_true_iff.1 passed
    have later := ih parts.2
    cases statement
    case declare name function _ =>
      exact follows_bind (follows_declare name function parts.1) fun _ => later
    all_goals exact later

theorem follows_run_module (allows : edit.Allows check) (statements : List Stmt)
    (passed : everyStatementFunction check statements = true)
    (free : statementsHandlerFree statements = true ∨ edit.KeepsNames) :
    Follows edit check id (runModule setting statements)
      (runModule setting (editedStatements edit statements)) := by
  refine follows_bind (follows_hoist statements passed) fun _ => ?_
  have follow : StepsFollow edit check (steps setting (callFunction setting) statements)
      (steps setting (callFunction setting) (editedStatements edit statements)) :=
    steps_follow (follows_call_function allows) statements passed free
  refine follows_bind (follows_run_from follow _ follow) fun signal => ?_
  rw [signal.result_edited]
  cases signal.result with
  | ok value => exact follows_pure _
  | error failure => exact follows_throw_error failure

theorem follows_run_named (allows : edit.Allows check) (name : String) (arguments : List Value) :
    Follows edit check id (runNamed setting name arguments) (runNamed setting name arguments) := by
  refine follows_get_bind fun s _ => ?_
  rw [show (s.edited edit).lookup? name = s.lookup? name from rfl]
  have inside (fault : Fault) :
      Follows edit check id (Exec.fail fault .internal : Exec Value)
        (Exec.fail fault .internal) := by
    have failed : Follows edit check id (Exec.fail fault .internal : Exec Value)
        (Exec.fail fault (edit.place .internal)) := follows_fail rfl .internal
    rwa [edit.inside] at failed
  split
  · rename_i ref _
    have called : Follows edit check id (callFunction setting ref arguments none .internal)
        (callFunction setting ref arguments none (edit.place .internal)) :=
      follows_call_function allows ref arguments none .internal
    rwa [edit.inside] at called
  · exact inside _
  · exact inside _

end BrightScript
