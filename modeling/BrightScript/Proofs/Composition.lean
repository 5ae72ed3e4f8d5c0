import BrightScript.Session
import BrightScript.Proofs.Agreement
set_option autoImplicit false

/-!
What steps are made of. Whatever a program does is put together, by doing one thing after another,
from steps that note nothing, the note of a call and the call itself, handlers, and the end of the
program. So what holds of these and carries over to what is put together holds of every run.
-/

namespace BrightScript

variable {α β : Type}

-- A step that notes nothing, leaves the open calls open and does not end the program.
def Quiet (x : Exec α) : Prop :=
  ∀ s, (finalState (x s)).journal = s.journal ∧ (finalState (x s)).depth = s.depth ∧
    ∀ t, x s ≠ .error .finish t

inductive Composed : {α : Type} → Exec α → Prop
  | quiet {α : Type} {x : Exec α} : Quiet x → Composed x
  | bind {α β : Type} {x : Exec α} {f : α → Exec β} :
      Composed x → (∀ a, Composed (f a)) → Composed (x >>= f)
  | enter (function : String) (depth : Nat) : Composed (Exec.note (.entered function depth))
  | inCall {α : Type} (frame : Frame) {body : Exec α} :
      Composed body → Composed (Exec.inCall frame body)
  | handle {body handler : Exec Signal} (name : String) :
    Composed body → Composed handler → Composed (tryCatch body name handler)
  | finish {α : Type} : Composed (Exec.finish : Exec α)

def CallsComposed (call : Call) : Prop :=
  ∀ ref arguments receiver location, Composed (call ref arguments receiver location)

theorem quiet_allocate (make : Heap → α × Heap) : Quiet (Exec.allocate make) :=
  fun _ => ⟨rfl, rfl, fun _ same => nomatch same⟩

theorem quiet_define (scope : Scope) (name : String) (value : Value) :
    Quiet (Exec.define scope name value) := by
  intro s
  cases scope with
  | global | module | function => exact ⟨rfl, rfl, fun _ same => nomatch same⟩

theorem composed_pure (a : α) : Composed (pure a : Exec α) :=
  .quiet fun _ => ⟨rfl, rfl, fun _ same => nomatch same⟩

theorem composed_fail (fault : Fault) (location : Location) :
    Composed (Exec.fail fault location : Exec α) :=
  .quiet fun _ => ⟨rfl, rfl, fun _ same => nomatch same⟩

theorem composed_error (error : RuntimeError) : Composed (throw (.error error) : Exec α) :=
  .quiet fun _ => ⟨rfl, rfl, fun _ same => nomatch same⟩

theorem composed_exhausted : Composed (throw .exhausted : Exec α) :=
  .quiet fun _ => ⟨rfl, rfl, fun _ same => nomatch same⟩

theorem composed_get : Composed (get : Exec State) :=
  .quiet fun _ => ⟨rfl, rfl, fun _ same => nomatch same⟩

theorem composed_look {f : State → Exec β} (later : ∀ s, Composed (f s)) : Composed (get >>= f) :=
  .bind composed_get later

theorem composed_or_fail (result : Option α) (fault : Fault) (location : Location) :
    Composed (Exec.orFail result fault location) := by
  cases result with
  | some a => exact composed_pure a
  | none => exact composed_fail fault location

theorem composed_of_except (location : Location) (result : Except Fault α) :
    Composed (Exec.ofExcept location result) := by
  cases result with
  | ok a => exact composed_pure a
  | error fault => exact composed_fail fault location

theorem composed_on_heap (location : Location) (access : Access α) :
    Composed (Exec.onHeap location access) := by
  refine .quiet fun s => ?_
  unfold Exec.onHeap
  dsimp only
  cases access s.heap with
  | ok a heap | error fault heap => exact ⟨rfl, rfl, fun _ same => nomatch same⟩

theorem composed_allocate (make : Heap → α × Heap) : Composed (Exec.allocate make) :=
  .quiet (quiet_allocate make)

theorem composed_print (text : String) (location : Location) :
    Composed (Exec.print text location) := by
  refine composed_look fun s => .bind (.quiet fun _ => ⟨rfl, rfl, fun _ same => nomatch same⟩)
    fun _ => ?_
  cases s.output.refusal? text with
  | none => exact composed_pure ()
  | some reason => exact composed_fail _ location

theorem composed_lookup (name : String) : Composed (Exec.lookup name) :=
  composed_look fun _ => composed_pure _

theorem composed_define (scope : Scope) (name : String) (value : Value) :
    Composed (Exec.define scope name value) :=
  .quiet (quiet_define scope name value)

theorem composed_assign (name : String) (value : Value) (location : Location) :
    Composed (Exec.assign name value location) := by
  unfold Exec.assign
  split
  · refine .bind (composed_allocate _) fun converted => ?_
    cases converted with
    | some converted => exact composed_define _ _ _
    | none => exact composed_fail _ _
  · exact composed_define _ _ _

theorem composed_declare (name : String) (function : Function) :
    Composed (Exec.declare name function) :=
  .bind (composed_allocate _) fun _ => composed_define _ _ _

section

variable {call : Call} (calls : CallsComposed call)
include calls

theorem composed_invoke (function : Value) (name : String) (arguments : List Value)
    (receiver : Option Nat) (location : Location) :
    Composed (invoke call function name arguments receiver location) := by
  unfold invoke
  split
  · exact calls _ _ _ _
  · exact composed_fail _ _
  · exact composed_fail _ _

end

mutual

theorem composed_evaluate {call : Call} (calls : CallsComposed call) :
    (expression : Expr) → Composed (evaluate call expression)
  | .literal _ _ => composed_pure _
  | .binary left op right location => by
    refine .bind (composed_evaluate calls left) fun value => ?_
    split
    · exact composed_pure _
    · exact .bind (composed_evaluate calls right) fun _ => composed_of_except _ _
  | .unary _ operand _ => .bind (composed_evaluate calls operand) fun _ => composed_of_except _ _
  | .grouping inner _ => composed_evaluate calls inner
  | .variable name _ => composed_lookup name
  | .member object _ _ => .bind (composed_evaluate calls object) fun _ => composed_on_heap _ _
  | .index object index _ =>
    .bind (composed_evaluate calls object) fun _ => .bind (composed_evaluate calls index) fun _ =>
      composed_on_heap _ _
  | .array elements _ => .bind (composed_evaluate_all calls elements) fun _ => composed_allocate _
  | .table members _ => .bind (composed_evaluate_members calls members) fun _ => composed_allocate _
  | .function _ => composed_allocate _
  | .call callee arguments location => by
    have whole : Composed (do
        let function ← evaluate call callee
        let values ← evaluateAll call arguments
        invoke call function callee.calledName values none location) :=
      .bind (composed_evaluate calls callee) fun _ =>
        .bind (composed_evaluate_all calls arguments) fun _ =>
        composed_invoke calls _ _ _ _ _
    cases callee with
    | member object name memberLocation =>
      refine .bind (composed_evaluate calls object) fun target =>
        .bind (composed_on_heap _ _) fun function => ?_
      exact .bind (composed_evaluate_all calls arguments) fun values =>
        composed_invoke calls _ _ _ _ _
    | literal | binary | unary | grouping | «variable» | call | index | array | table
    | function => exact whole

theorem composed_evaluate_all {call : Call} (calls : CallsComposed call) :
    (expressions : List Expr) → Composed (evaluateAll call expressions)
  | [] => composed_pure _
  | first :: rest =>
    .bind (composed_evaluate calls first) fun _ => .bind (composed_evaluate_all calls rest) fun _ =>
      composed_pure _

theorem composed_evaluate_members {call : Call} (calls : CallsComposed call) :
    (members : List Member) → Composed (evaluateMembers call members)
  | [] => composed_pure _
  | ⟨_, value, _⟩ :: rest =>
    .bind (composed_evaluate calls value) fun _ =>
      .bind (composed_evaluate_members calls rest) fun _ =>
      composed_pure _

end

section

variable {call : Call} (calls : CallsComposed call)
include calls

theorem composed_condition (condition : Expr) : Composed (evaluateCondition call condition) :=
  .bind (composed_evaluate calls condition) fun _ => composed_or_fail _ _ _

theorem composed_print_items (width : Nat) (location : Location) (items : List PrintItem) :
    Composed (printItems call width location items) := by
  induction items with
  | nil => exact composed_pure ()
  | cons item rest ih =>
    refine .bind ?_ fun _ => ih
    cases item with
    | expression expression =>
      exact .bind (composed_evaluate calls expression) fun _ => composed_look fun _ =>
        composed_print _ _
    | zone => exact composed_look fun _ => composed_print _ _
    | join => exact composed_pure ()

theorem composed_sizes (dimensions : List Expr) : Composed (evaluateSizes call dimensions) := by
  induction dimensions with
  | nil => exact composed_pure []
  | cons dimension rest ih =>
    refine .bind (composed_evaluate calls dimension) fun value =>
      .bind (composed_or_fail _ _ _) fun size => ?_
    exact .bind ih fun _ => composed_pure _

theorem composed_dim (name : String) (dimensions : List Expr) (location : Location) :
    Composed (executeDim call name dimensions location) :=
  .bind (composed_sizes calls dimensions) fun _ => .bind (composed_of_except _ _) fun _ =>
    .bind (composed_allocate _) fun _ => composed_assign _ _ _

theorem composed_step (target : Expr) (op : StepOp) (location : Location) :
    Composed (executeStep call target op location) := by
  have whole : Composed (do
      let value ← evaluate call target
      Exec.fail (.typeMismatch "++" value.kind none) location : Exec Unit) :=
    .bind (composed_evaluate calls target) fun _ => composed_fail _ _
  cases target with
  | «variable» name _ =>
    exact .bind (composed_lookup name) fun _ => .bind (composed_of_except _ _) fun _ =>
      composed_assign _ _ _
  | member object name _ =>
    exact .bind (composed_evaluate calls object) fun _ => .bind (composed_on_heap _ _) fun _ =>
      .bind (composed_of_except _ _) fun _ => composed_on_heap _ _
  | index object index _ =>
    exact .bind (composed_evaluate calls object) fun _ =>
      .bind (composed_evaluate calls index) fun _ =>
      .bind (composed_on_heap _ _) fun _ => .bind (composed_of_except _ _) fun _ =>
        composed_on_heap _ _
  | literal | binary | unary | grouping | call | array | table | function => exact whole

end

theorem composed_for_each (item : String) {body : Exec Signal} (main : Composed body)
    (elements : List Value) : Composed (forEachLoop item body elements) := by
  induction elements with
  | nil => exact composed_pure _
  | cons element rest ih =>
    refine .bind (composed_define _ _ _) fun _ => .bind main fun signal => ?_
    cases signal with
    | completed => exact ih
    | returned | exitFor | exitWhile | goto => exact composed_pure _

theorem composed_go_round {round : Exec (Option Signal)} (once : Composed round) (rounds : Nat) :
    Composed (goRound round rounds) := by
  unfold goRound
  refine .bind once fun signal => ?_
  cases signal with
  | some signal => exact composed_pure signal
  | none =>
    cases rounds with
    | zero => exact composed_exhausted
    | succ rounds => exact composed_go_round once rounds

theorem composed_while {condition : Exec Bool} {body : Exec Signal} (test : Composed condition)
    (main : Composed body) (rounds : Nat) : Composed (whileLoop condition body rounds) := by
  refine composed_go_round (.bind test fun holds => ?_) rounds
  cases holds with
  | false => exact composed_pure _
  | true =>
    refine .bind main fun signal => ?_
    cases signal with
    | completed | returned | exitFor | exitWhile | goto => exact composed_pure _

theorem composed_for (counter : String) {stop step : Exec Value} {body : Exec Signal}
    (stops : Composed stop) (steps : Composed step) (main : Composed body) (location : Location)
    (rounds : Nat) : Composed (forLoop counter stop step body location rounds) := by
  refine composed_go_round ?_ rounds
  refine .bind stops fun stopValue => .bind steps fun stepValue =>
    .bind (composed_lookup _) fun current => ?_
  refine .bind (composed_or_fail _ _ _) fun direction => ?_
  split
  · refine .bind main fun signal => ?_
    cases signal with
    | completed =>
      exact .bind (composed_lookup _) fun _ => .bind (composed_of_except _ _) fun _ =>
        .bind (composed_assign _ _ _) fun _ => composed_pure _
    | returned | exitFor | exitWhile | goto => exact composed_pure _
  · exact composed_pure _

theorem composed_straight {block : List Step} (actions : ∀ step ∈ block, Composed step.action) :
    Composed (Step.runStraight block) := by
  induction block with
  | nil => exact composed_pure _
  | cons step rest ih =>
    refine .bind (actions step List.mem_cons_self) fun signal => ?_
    cases signal with
    | completed => exact ih fun other member => actions other (List.mem_cons_of_mem _ member)
    | returned | exitFor | exitWhile | goto => exact composed_pure _

theorem composed_from {block steps : List Step} (actions : ∀ step ∈ block, Composed step.action)
    (own : ∀ step ∈ steps, Composed step.action) (rounds : Nat) :
    Composed (Step.runFrom block rounds steps) := by
  unfold Step.runFrom
  refine .bind (composed_straight own) fun signal => ?_
  cases signal with
  | goto label location =>
    dsimp only
    split
    · next rest found =>
      cases rounds with
      | zero => exact composed_exhausted
      | succ rounds =>
        exact composed_from actions
          (fun step member => actions step (Step.mem_of_after found step member)) rounds
    · exact composed_pure _
  | completed | returned | exitFor | exitWhile => exact composed_pure _

mutual

theorem composed_execute {setting : Setting} {call : Call} (calls : CallsComposed call) :
    (statement : Stmt) → Composed (execute setting call statement)
  | .expression expression _ => .bind (composed_evaluate calls expression) fun _ => composed_pure _
  | .print items location => by
    refine .bind (composed_print_items calls _ location items) fun _ => ?_
    split
    · exact .bind (composed_print _ _) fun _ => composed_pure _
    · exact composed_pure _
  | .assign _ value _ =>
    .bind (composed_evaluate calls value) fun _ => .bind (composed_assign _ _ _) fun _ =>
      composed_pure _
  | .dim name dimensions location => .bind (composed_dim calls name dimensions location) fun _ =>
    composed_pure _
  | .ifThen condition body elseIfs otherwise _ => by
    refine .bind (composed_condition calls condition) fun holds => ?_
    cases holds with
    | true => exact composed_block calls body
    | false => exact composed_else calls (composed_otherwise calls otherwise) elseIfs
  | .forTo counter start stop step body location =>
    .bind (composed_evaluate calls start) fun _ => .bind (composed_assign _ _ _) fun _ =>
      composed_for counter (composed_evaluate calls stop) (composed_evaluate calls step)
        (composed_block calls body) location _
  | .forEach item target body _ =>
    .bind (composed_evaluate calls target) fun _ => composed_look fun _ =>
      .bind (composed_or_fail _ _ _) fun _ =>
      composed_for_each item (composed_block calls body) _
  | .whileDo condition body _ =>
    composed_while (composed_condition calls condition) (composed_block calls body) _
  | .declare name function _ => .bind (composed_declare name function) fun _ => composed_pure _
  | .giveBack none _ => composed_pure _
  | .giveBack (some value) _ => .bind (composed_evaluate calls value) fun _ => composed_pure _
  | .setMember object _ value _ =>
    .bind (composed_evaluate calls object) fun _ => .bind (composed_evaluate calls value) fun _ =>
      .bind (composed_on_heap _ _) fun _ => composed_pure _
  | .setIndex object index value _ =>
    .bind (composed_evaluate calls object) fun _ => .bind (composed_evaluate calls index) fun _ =>
      .bind (composed_evaluate calls value) fun _ => .bind (composed_on_heap _ _) fun _ =>
        composed_pure _
  | .step target op location => .bind (composed_step calls target op location) fun _ =>
    composed_pure _
  | .library _ _ | .goto _ _ | .label _ _ | .exitFor _ | .exitWhile _ | .stop _ => composed_pure _
  | .tryCatch body name handler _ =>
    .handle name (composed_block calls body) (composed_block calls handler)
  | .raise value location => .bind (composed_evaluate calls value) fun _ => composed_look fun _ =>
    composed_fail _ _
  | .endProgram _ => .finish
  | .block block => composed_block calls block

theorem composed_block {setting : Setting} {call : Call} (calls : CallsComposed call) :
    (block : Block) → Composed (executeBlock setting call block)
  | ⟨statements, _⟩ =>
    composed_from (composed_steps calls statements) (composed_steps calls statements) _

theorem composed_steps {setting : Setting} {call : Call} (calls : CallsComposed call) :
    (statements : List Stmt) → ∀ step ∈ steps setting call statements, Composed step.action
  | [], _, member => absurd member List.not_mem_nil
  | statement :: rest, step, member => by
    rcases List.mem_cons.1 member with same | later
    · rw [same]
      exact composed_execute calls statement
    · exact composed_steps calls rest step later

theorem composed_else {setting : Setting} {call : Call} (calls : CallsComposed call)
    {otherwise : Exec Signal} (last : Composed otherwise) :
    (elseIfs : List ElseIf) → Composed (executeElse setting call otherwise elseIfs)
  | [] => last
  | ⟨condition, body⟩ :: rest => by
    refine .bind (composed_condition calls condition) fun holds => ?_
    cases holds with
    | true => exact composed_block calls body
    | false => exact composed_else calls last rest

theorem composed_otherwise {setting : Setting} {call : Call} (calls : CallsComposed call) :
    (otherwise : Option Block) → Composed (executeOtherwise setting call otherwise)
  | none => composed_pure _
  | some block => composed_block calls block

end

section

variable {setting : Setting} {call : Call} (calls : CallsComposed call)
include calls

theorem composed_parameters (function : String) (parameters : List Parameter)
    (arguments : List Value) : Composed (bindParameters call function parameters arguments) := by
  induction parameters generalizing arguments with
  | nil => exact composed_pure ()
  | cons parameter rest ih =>
    cases arguments with
    | cons argument arguments => exact .bind (composed_define _ _ _) fun _ => ih arguments
    | nil =>
      refine .bind ?_ fun _ => .bind (composed_define _ _ _) fun _ => ih []
      unfold defaultValue
      split
      · exact composed_pure _
      · exact .bind (composed_evaluate calls _) fun _ => .bind (composed_allocate _) fun _ =>
          composed_or_fail _ _ _

theorem composed_run_function (function : Function) (arguments : List Value) (location : Location) :
    Composed (runFunction setting call function arguments location) := by
  refine .bind (composed_parameters calls _ _ arguments) fun _ =>
    .bind (composed_block calls _) fun signal => ?_
  split
  · exact composed_pure _
  · unfold giveBack
    split
    · exact composed_pure _
    · exact .bind (composed_allocate _) fun _ => composed_or_fail _ _ _
  · exact composed_error _

theorem enter_composed : CallsComposed (enter setting call) := by
  intro ref arguments receiver location
  refine .bind (composed_on_heap _ _) fun choice => composed_look fun s =>
    .bind (.enter _ _) fun _ => ?_
  refine .inCall _ ?_
  cases choice.code with
  | native own => exact composed_look fun _ => composed_on_heap _ _
  | user function => exact composed_run_function calls function _ location

end

-- By induction on the number of calls that may still be opened.
theorem call_within_composed (setting : Setting) (remaining : Nat) :
    CallsComposed (callWithin setting remaining) := by
  induction remaining with
  | zero => exact fun _ _ _ _ => composed_fail _ _
  | succ remaining ih => exact enter_composed ih

theorem call_function_composed (setting : Setting) : CallsComposed (callFunction setting) :=
  fun ref arguments receiver location =>
    composed_look fun s =>
      call_within_composed setting (setting.options.maxCallDepth - s.depth) ref arguments
        receiver location

theorem hoist_composed (statements : List Stmt) : Composed (hoist statements) := by
  induction statements with
  | nil => exact composed_pure ()
  | cons statement rest ih =>
    cases statement
    case declare name function _ => exact .bind (composed_declare name function) fun _ => ih
    all_goals exact ih

theorem run_module_composed (setting : Setting) (statements : List Stmt) :
    Composed (runModule setting statements) := by
  have whole : Composed (executeBlock setting (callFunction setting) ⟨statements, .internal⟩) :=
    composed_block (call_function_composed setting) _
  refine .bind (hoist_composed statements) fun _ => .bind whole fun signal => ?_
  split
  · exact composed_pure _
  · exact composed_error _

theorem run_named_composed (setting : Setting) (name : String) (arguments : List Value) :
    Composed (runNamed setting name arguments) := by
  refine composed_look fun s => ?_
  split
  · exact call_function_composed setting _ _ _ _
  · exact composed_fail _ _
  · exact composed_fail _ _

end BrightScript
