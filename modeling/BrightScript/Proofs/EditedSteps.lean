import BrightScript.Proofs.EditedHeap
import BrightScript.Proofs.Sessions
set_option autoImplicit false

/-!
Steps that follow each other. From an edited state an edited step does what the step itself does,
and ends in the edited state; where it fails, it fails with the same fault at the edited place, but
for the spelling of names. Expressions follow each other where the calls in them do.
-/

namespace BrightScript

def Halt.edited (edit : Edit) : Halt → Halt
  | .error failure => .error ⟨failure.cause.edited edit, edit.place failure.location⟩
  | .finish => .finish
  | .exhausted => .exhausted

def Halt.respelled (edit : Edit) : Halt → Halt
  | .error failure => .error ⟨failure.cause.edited edit, failure.location⟩
  | .finish => .finish
  | .exhausted => .exhausted

def Event.edited (edit : Edit) : Event → Event
  | .entered function depth => .entered function depth
  | .caught failure => .caught ⟨failure.cause.edited edit, edit.place failure.location⟩
  | .ended depth scene => .ended depth { scene with heap := scene.heap.restyled edit.restyle }

-- Values hold nothing to edit themselves; only the functions that they refer to do.
def State.edited (edit : Edit) (s : State) : State :=
  { s with heap := s.heap.restyled edit.restyle, journal := s.journal.map (Event.edited edit) }

def Signal.edited (edit : Edit) : Signal → Signal
  | .completed => .completed
  | .returned value => .returned value
  | .exitFor location => .exitFor (edit.place location)
  | .exitWhile location => .exitWhile (edit.place location)
  | .goto label location => .goto (edit.name label) (edit.place location)

abbrev State.Vetted (check : Function → Bool) (s : State) : Prop :=
  s.heap.Vetted check Any

theorem vetted_lasting (check : Function → Bool) : Lasting (State.Vetted check) Any Any check where
  vetted _ holds := holds
  heap _ _ _ vetted _ := vetted
  ordinary _ _ := trivial
  fault _ _ := trivial
  locals _ _ _ holds := holds
  module _ _ _ holds := holds
  write _ _ holds := holds
  caught _ _ holds _ := holds
  ended _ _ _ holds := holds
  finish := trivial
  bodies _ _ := .inr trivial

theorem vetted_opening (check : Function → Bool) :
    Opening (State.Vetted check) (State.Vetted check) where
  entered _ _ _ _ holds := holds
  opens _ _ holds := holds
  closes _ _ _ holds := holds

variable {α β : Type} {f : α → α} {g : β → β}

-- From the edited state the second step comes to what the first one comes to, edited.
structure Follows (edit : Edit) (check : Function → Bool) (f : α → α) (x y : Exec α) : Prop where
  keeps : Keeps (State.Vetted check) Any Any x
  follows : ∀ s, State.Vetted check s →
    mapOutcome id (Halt.respelled edit) id (y (s.edited edit)) =
      mapOutcome (State.edited edit) (Halt.edited edit) f (x s)

variable {edit : Edit} {check : Function → Bool}

theorem follows_pure (a : α) : Follows edit check f (pure a) (pure (f a)) :=
  ⟨keeps_pure a trivial, fun _ _ => rfl⟩

theorem follows_throw {halt twin : Halt} (same : twin.respelled edit = halt.edited edit) :
    Follows edit check f (throw halt) (throw twin) :=
  ⟨keeps_throw halt trivial, fun s _ => congrArg (EStateM.Result.error · (s.edited edit)) same⟩

theorem follows_finish : Follows edit check f (Exec.finish : Exec α) Exec.finish :=
  ⟨keeps_of_ends fun _ holds => ⟨holds, trivial⟩, fun _ _ => rfl⟩

theorem follows_bind_given {gives : α → Prop} {x y : Exec α} {next twin : α → Exec β}
    (given : Keeps (State.Vetted check) Any gives x) (first : Follows edit check f x y)
    (later : ∀ a, gives a → Follows edit check g (next a) (twin (f a))) :
    Follows edit check g (x >>= next) (y >>= twin) := by
  refine ⟨agree_bind given fun a expected => (later a expected).keeps, ?_⟩
  intro s vetted
  have ends := (given s vetted).2
  have same := first.follows s vetted
  change mapOutcome id _ id (EStateM.bind y twin (s.edited edit)) =
    mapOutcome _ _ g (EStateM.bind x next s)
  unfold EStateM.bind
  rcases outcomes_matched same with ⟨a, t, ran, twinRan⟩ | ⟨halt, other, t, ran, twinRan, halts⟩
  · rw [ran] at ends
    rw [ran, twinRan]
    exact (later a ends.2).follows t ends.1
  · rw [ran, twinRan]
    exact congrArg (EStateM.Result.error · (t.edited edit)) halts

theorem follows_bind {x y : Exec α} {next twin : α → Exec β} (first : Follows edit check f x y)
    (later : ∀ a, Follows edit check g (next a) (twin (f a))) :
    Follows edit check g (x >>= next) (y >>= twin) :=
  follows_bind_given first.keeps first fun a _ => later a

theorem follows_get_bind {next twin : State → Exec β}
    (later : ∀ s, State.Vetted check s → Follows edit check g (next s) (twin (s.edited edit))) :
    Follows edit check g (get >>= next) (get >>= twin) :=
  ⟨agree_get_bind fun s vetted => (later s vetted).keeps,
    fun s vetted => (later s vetted).follows s vetted⟩

theorem follows_modify {change twin : State → State}
    (kept : ∀ s, State.Vetted check s → State.Vetted check (change s))
    (same : ∀ s : State, twin (s.edited edit) = (change s).edited edit) :
    Follows edit check id (modify change : Exec PUnit) (modify twin) :=
  ⟨keeps_modify change kept, fun s _ => congrArg (EStateM.Result.ok PUnit.unit) (same s)⟩

theorem follows_fail {fault twin : Fault} (same : twin.edited edit = fault.edited edit)
    (location : Location) :
    Follows edit check f (Exec.fail fault location) (Exec.fail twin (edit.place location)) :=
  follows_throw (congrArg (fun cause => Halt.error ⟨cause, edit.place location⟩) same)

theorem follows_or_fail (result : Option α) {fault twin : Fault}
    (same : twin.edited edit = fault.edited edit) (location : Location) :
    Follows edit check id (Exec.orFail result fault location)
      (Exec.orFail result twin (edit.place location)) := by
  cases result with
  | some a => exact follows_pure a
  | none => exact follows_fail same location

theorem follows_of_except (result : Except Fault α) (location : Location) :
    Follows edit check id (Exec.ofExcept location result)
      (Exec.ofExcept (edit.place location) result) := by
  cases result with
  | ok a => exact follows_pure a
  | error fault => exact follows_fail rfl location

theorem vetted_on_heap (location : Location) {gives : α → Prop} {access : Access α}
    (safe : Safe check Any gives access) :
    Keeps (State.Vetted check) Any gives (Exec.onHeap location access) := by
  refine keeps_of_ends fun s vetted => ?_
  have ends := (safe s.heap vetted).2
  unfold Exec.onHeap
  dsimp only
  cases outcome : access s.heap with
  | ok a h =>
    rw [outcome] at ends
    exact ends
  | error fault h =>
    rw [outcome] at ends
    exact ⟨ends.1, trivial⟩

theorem follows_on_heap (location : Location) {gives : α → Prop} {access twin : Access α}
    (safe : Safe check Any gives access) (echoes : Echoes edit f access twin) :
    Follows edit check f (Exec.onHeap location access)
      (Exec.onHeap (edit.place location) twin) := by
  refine ⟨agree_of_returns (vetted_on_heap location safe) (returns_any _), ?_⟩
  intro s _
  have same := echoes s.heap
  have heap : (s.edited edit).heap = s.heap.restyled edit.restyle := rfl
  simp only [Exec.onHeap, heap]
  rcases outcomes_matched same with ⟨a, h, ran, twinRan⟩ | ⟨fault, other, h, ran, twinRan, faults⟩
  · rw [ran, twinRan]
    rfl
  · rw [ran, twinRan]
    exact congrArg (fun cause => EStateM.Result.error (Halt.error ⟨cause, edit.place location⟩) _)
      faults

theorem follows_allocate {make twin : Heap → α × Heap}
    (kept : ∀ h : Heap, h.Vetted check Any → (make h).2.Vetted check Any)
    (same : ∀ h : Heap, twin (h.restyled edit.restyle) =
      ((make h).1, (make h).2.restyled edit.restyle)) :
    Follows edit check id (Exec.allocate make) (Exec.allocate twin) := by
  refine ⟨keeps_of_ends fun s vetted => ⟨kept s.heap vetted, trivial⟩, ?_⟩
  intro s _
  have made := same s.heap
  simp only [Exec.allocate]
  rw [show (s.edited edit).heap = s.heap.restyled edit.restyle from rfl, made]
  rfl

theorem lookup_edited (s : State) (name : String) :
    s.lookup? (edit.name name) = s.lookup? name := by
  simp only [State.lookup?, edited_same_name, Table.get_edited]

theorem follows_lookup (name : String) :
    Follows edit check id (Exec.lookup name) (Exec.lookup (edit.name name)) := by
  unfold Exec.lookup
  refine follows_get_bind fun s _ => ?_
  rw [lookup_edited]
  exact follows_pure _

theorem define_edited (s : State) (scope : Scope) (name : String) (value : Value) :
    s.define scope (edit.name name) value = s.define scope name value := by
  cases scope <;> simp only [State.define, Table.insert_edited]

theorem follows_define (scope : Scope) (name : String) (value : Value) :
    Follows edit check id (Exec.define scope name value) (Exec.define scope name value) := by
  refine follows_modify (fun s vetted => ?_) fun s => ?_
  · cases scope <;> exact vetted
  · cases scope <;> rfl

theorem follows_store (name : String) (value : Value) :
    Follows edit check id (Exec.define .function name value)
      (Exec.define .function (edit.name name) value) := by
  have same : Exec.define .function (edit.name name) value = Exec.define .function name value := by
    simp only [Exec.define, define_edited]
  rw [same]
  exact follows_define .function name value

theorem follows_convert (value : Value) (kind : Kind) :
    Follows edit check id (Exec.convert? value kind) (Exec.convert? value kind) :=
  follows_allocate (fun _ vetted => ⟨vetted.functions, vetted.components⟩) fun _ => rfl

theorem designator_edited (name : String) :
    Kind.ofDesignator? (edit.name name) = Kind.ofDesignator? name := by
  rw [← designator_folded, edit.same, designator_folded]

theorem follows_assign (name : String) (value : Value) (location : Location) :
    Follows edit check id (Exec.assign name value location)
      (Exec.assign (edit.name name) value (edit.place location)) := by
  unfold Exec.assign
  rw [designator_edited]
  split
  · refine follows_bind (follows_convert _ _) fun converted => ?_
    cases converted with
    | some value => exact follows_store name value
    | none =>
      refine follows_fail ?_ location
      exact congrArg (Fault.assignmentMismatch · value.kind) (edit.again name)
  · exact follows_store name value

theorem follows_print (text : String) (location : Location) :
    Follows edit check id (Exec.print text location) (Exec.print text (edit.place location)) := by
  refine ⟨print_keeps (vetted_lasting check) text location, ?_⟩
  intro s _
  have output : (s.edited edit).output = s.output := rfl
  rw [print_eq, print_eq, output]
  cases s.output.refusal? text <;> rfl

theorem follows_print_zone (width : Nat) (location : Location) :
    Follows edit check id (Exec.printZone width location)
      (Exec.printZone width (edit.place location)) :=
  follows_get_bind fun _ _ => follows_print _ location

theorem arguments_edited (parameters : List Parameter) :
    (editedParameters edit parameters).map Callable.argumentOf =
      (parameters.map Callable.argumentOf).map (Argument.edited edit) := by
  induction parameters with
  | nil => rfl
  | cons parameter rest ih =>
    obtain ⟨name, kind, default, location⟩ := parameter
    simp only [editedParameters, List.map_cons, ih]
    cases default <;> rfl

theorem user_edited (function : Function) :
    Callable.user (function.edited edit) = (Callable.user function).edited edit := by
  obtain ⟨name, parameters, returns, body, isSub, location⟩ := function
  simp only [Callable.user, Function.edited, arguments_edited]
  rfl

theorem follows_new_function (function : Function) (passed : function.everyFunction check = true) :
    Follows edit check id (Exec.allocate (·.newFunction (.user function)))
      (Exec.allocate (·.newFunction (.user (function.edited edit)))) := by
  refine ⟨(vetted_lasting check).new_function function passed, ?_⟩
  intro s _
  rw [user_edited]
  simp [Exec.allocate, Heap.newFunction, State.edited, Heap.restyled, mapOutcome, Edit.restyle]

theorem follows_declare (name : String) (function : Function)
    (passed : function.everyFunction check = true) :
    Follows edit check id (Exec.declare name function) (Exec.declare name (function.edited edit)) :=
  follows_bind (follows_new_function function passed) fun value => follows_define _ name value

theorem Expr.called_name_edited (e : Expr) :
    edit.name (e.edited edit).calledName = edit.name e.calledName := by
  cases e with
  | «variable» name _ | member _ name _ => exact edit.again name
  | literal | binary | unary | grouping | call | index | array | table | function => rfl

theorem Expr.location_edited (e : Expr) : (e.edited edit).location = edit.place e.location := by
  cases e with
  | function function => cases function; rfl
  | literal | binary | unary | grouping | «variable» | call | member | index | array | table => rfl

def CallsFollow (edit : Edit) (check : Function → Bool) (call twin : Call) : Prop :=
  ∀ ref arguments receiver location,
    Follows edit check id (call ref arguments receiver location)
      (twin ref arguments receiver (edit.place location))

variable {call twin : Call}

theorem follows_invoke (calls : CallsFollow edit check call twin) (function : Value)
    {name other : String} (same : edit.name other = edit.name name) (arguments : List Value)
    (receiver : Option Nat) (location : Location) :
    Follows edit check id (invoke call function name arguments receiver location)
      (invoke twin function other arguments receiver (edit.place location)) := by
  cases function with
  | function ref => exact calls ref arguments receiver location
  | uninitialized =>
    refine follows_fail ?_ location
    exact congrArg Fault.undefinedFunction same
  | scalar | interface | object => exact follows_fail rfl location

theorem follows_get_member (target : Value) (name : String) (location : Location) :
    Follows edit check id (Exec.onHeap location (target.getMember name))
      (Exec.onHeap (edit.place location) (target.getMember (edit.name name))) :=
  follows_on_heap location (target.safe_get_member (fun _ _ => trivial) name)
    (target.echoes_get_member name)

theorem follows_set_member (target : Value) (name : String) (value : Value) (location : Location) :
    Follows edit check id (Exec.onHeap location (target.setMember name value))
      (Exec.onHeap (edit.place location) (target.setMember (edit.name name) value)) :=
  follows_on_heap location (target.safe_set_member (fun _ _ => trivial) name value)
    (target.echoes_set_member name value)

theorem follows_get_index (target index : Value) (location : Location) :
    Follows edit check id (Exec.onHeap location (target.getIndex index))
      (Exec.onHeap (edit.place location) (target.getIndex index)) :=
  follows_on_heap location (target.safe_get_index (fun _ _ => trivial) index)
    (echoes_of_blind (target.blind_get_index index))

theorem follows_set_index (target index value : Value) (location : Location) :
    Follows edit check id (Exec.onHeap location (target.setIndex index value))
      (Exec.onHeap (edit.place location) (target.setIndex index value)) :=
  follows_on_heap location (target.safe_set_index (fun _ _ => trivial) index value)
    (echoes_of_blind (target.blind_set_index index value))

theorem insert_all_edited (t : Table Value) (pairs : List (String × Value)) :
    t.insertAll (pairs.map fun pair => (edit.name pair.1, pair.2)) = t.insertAll pairs := by
  unfold Table.insertAll
  rw [List.foldl_map]
  simp only [Table.insert_edited]

mutual

theorem follows_evaluate (calls : CallsFollow edit check call twin) :
    (e : Expr) → e.everyFunction check = true →
      Follows edit check id (evaluate call e) (evaluate twin (e.edited edit))
  | .literal value _, _ => follows_pure _
  | .variable name _, _ => follows_lookup name
  | .grouping inner _, passed => follows_evaluate calls inner passed
  | .function function, passed => follows_new_function function passed
  | .unary op operand location, passed =>
    follows_bind (follows_evaluate calls operand passed) fun _ => follows_of_except _ location
  | .binary left op right location, passed => by
    have parts := Bool.and_eq_true_iff.1 passed
    refine follows_bind (follows_evaluate calls left parts.1) fun leftValue => ?_
    dsimp only [id]
    split
    · exact follows_pure _
    · exact follows_bind (follows_evaluate calls right parts.2) fun _ =>
        follows_of_except _ location
  | .member object name location, passed =>
    follows_bind (follows_evaluate calls object passed) fun target =>
      follows_get_member target name location
  | .index object index location, passed => by
    have parts := Bool.and_eq_true_iff.1 passed
    exact follows_bind (follows_evaluate calls object parts.1) fun target =>
      follows_bind (follows_evaluate calls index parts.2) fun indexValue =>
        follows_get_index target indexValue location
  | .array elements _, passed =>
    follows_bind (follows_evaluate_all calls elements passed) fun _ =>
      follows_allocate (fun _ vetted => ⟨vetted.functions, vetted.components⟩) fun _ => rfl
  | .table members _, passed => by
    refine follows_bind (follows_evaluate_members calls members passed) fun pairs => ?_
    simp only [Table.ofList, insert_all_edited]
    exact follows_allocate (fun _ vetted => ⟨vetted.functions, vetted.components⟩) fun _ => rfl
  | .call callee arguments location, passed => by
    have parts := Bool.and_eq_true_iff.1 passed
    have whole : Follows edit check id
        (do
          let function ← evaluate call callee
          let values ← evaluateAll call arguments
          invoke call function callee.calledName values none location)
        (do
          let function ← evaluate twin (callee.edited edit)
          let values ← evaluateAll twin (editedAll edit arguments)
          invoke twin function (callee.edited edit).calledName values none (edit.place location)) :=
      follows_bind (follows_evaluate calls callee parts.1) fun function =>
        follows_bind (follows_evaluate_all calls arguments parts.2) fun values =>
          follows_invoke calls function callee.called_name_edited values none location
    cases callee with
    | member object name memberLocation =>
      refine follows_bind (follows_evaluate calls object parts.1) fun target => ?_
      refine follows_bind (follows_get_member target name memberLocation) fun function => ?_
      exact follows_bind (follows_evaluate_all calls arguments parts.2) fun values =>
        follows_invoke calls function (edit.again name) values _ location
    | literal | binary | unary | grouping | «variable» | call | index | array | table | function =>
      exact whole

theorem follows_evaluate_all (calls : CallsFollow edit check call twin) :
    (es : List Expr) → everyFunctionIn check es = true →
      Follows edit check id (evaluateAll call es) (evaluateAll twin (editedAll edit es))
  | [], _ => follows_pure _
  | first :: rest, passed => by
    have parts := Bool.and_eq_true_iff.1 passed
    exact follows_bind (follows_evaluate calls first parts.1) fun _ =>
      follows_bind (follows_evaluate_all calls rest parts.2) fun _ => follows_pure _

theorem follows_evaluate_members (calls : CallsFollow edit check call twin) :
    (ms : List Member) → everyMemberFunction check ms = true →
      Follows edit check (List.map fun pair => (edit.name pair.1, pair.2)) (evaluateMembers call ms)
        (evaluateMembers twin (editedMembers edit ms))
  | [], _ => follows_pure []
  | ⟨name, value, _⟩ :: rest, passed => by
    have parts := Bool.and_eq_true_iff.1 passed
    exact follows_bind (follows_evaluate calls value parts.1) fun value =>
      follows_bind (follows_evaluate_members calls rest parts.2) fun pairs =>
        follows_pure ((name, value) :: pairs)

end

section

variable (calls : CallsFollow edit check call twin)
include calls

theorem follows_condition (condition : Expr) (passed : condition.everyFunction check = true) :
    Follows edit check id (evaluateCondition call condition)
      (evaluateCondition twin (condition.edited edit)) := by
  unfold evaluateCondition
  rw [condition.location_edited]
  exact follows_bind (follows_evaluate calls condition passed) fun _ => follows_or_fail _ rfl _

theorem follows_print_items (width : Nat) (location : Location) (items : List PrintItem)
    (passed : everyPrintFunction check items = true) :
    Follows edit check id (printItems call width location items)
      (printItems twin width (edit.place location) (editedItems edit items)) := by
  induction items with
  | nil => exact follows_pure _
  | cons item rest ih =>
    cases item with
    | expression expression =>
      have parts := Bool.and_eq_true_iff.1 passed
      have written : Follows edit check id (printItem call width location (.expression expression))
          (printItem twin width (edit.place location) (.expression (expression.edited edit))) := by
        refine follows_bind (follows_evaluate calls expression parts.1) fun value => ?_
        refine follows_get_bind fun s _ => ?_
        rw [show (s.edited edit).heap.text (id value) =
          s.heap.text value from s.heap.text_restyled value]
        exact follows_print _ location
      exact follows_bind written fun _ => ih parts.2
    | zone => exact follows_bind (follows_print_zone width location) fun _ => ih passed
    | join =>
      have nothing : Follows edit check id (pure () : Exec Unit) (pure ()) := follows_pure ()
      exact follows_bind nothing fun _ => ih passed

omit calls in
theorem ends_line_edited (items : List PrintItem) :
    PrintItem.endsLine (editedItems edit items) = PrintItem.endsLine items := by
  induction items with
  | nil => rfl
  | cons item rest ih =>
    cases rest with
    | nil => cases item <;> rfl
    | cons second rest => cases item <;> cases second <;> exact ih

theorem follows_sizes (dimensions : List Expr) (passed : everyFunctionIn check dimensions = true) :
    Follows edit check id (evaluateSizes call dimensions)
      (evaluateSizes twin (editedAll edit dimensions)) := by
  induction dimensions with
  | nil => exact follows_pure _
  | cons dimension rest ih =>
    have parts := Bool.and_eq_true_iff.1 passed
    unfold editedAll evaluateSizes
    rw [dimension.location_edited]
    refine follows_bind (follows_evaluate calls dimension parts.1) fun value => ?_
    refine follows_bind (follows_or_fail _ rfl _) fun size => ?_
    exact follows_bind (ih parts.2) fun _ => follows_pure _

theorem follows_dim (name : String) (dimensions : List Expr) (location : Location)
    (passed : everyFunctionIn check dimensions = true) :
    Follows edit check id (executeDim call name dimensions location)
      (executeDim twin (edit.name name) (editedAll edit dimensions) (edit.place location)) := by
  refine follows_bind (follows_sizes calls dimensions passed) fun sizes => ?_
  refine follows_bind (follows_of_except _ location) fun lengths => ?_
  refine follows_bind
    (follows_allocate (fun _ => Heap.vetted_new_grid lengths) (Heap.new_grid_restyled lengths))
    fun grid => ?_
  exact follows_assign name grid location

theorem follows_step (target : Expr) (op : StepOp) (location : Location)
    (passed : target.everyFunction check = true) :
    Follows edit check id (executeStep call target op location)
      (executeStep twin (target.edited edit) op (edit.place location)) := by
  have whole : Follows edit check id
      (do
        let value ← evaluate call target
        Exec.fail (.typeMismatch "++" value.kind none) location : Exec Unit)
      (do
        let value ← evaluate twin (target.edited edit)
        Exec.fail (.typeMismatch "++" value.kind none) (edit.place location)) :=
    follows_bind (follows_evaluate calls target passed) fun _ => follows_fail rfl location
  cases target with
  | «variable» name _ =>
    refine follows_bind (follows_lookup name) fun current => ?_
    refine follows_bind (follows_of_except _ location) fun next => ?_
    exact follows_assign name next location
  | member object name _ =>
    refine follows_bind (follows_evaluate calls object passed) fun target => ?_
    refine follows_bind (follows_get_member target name location) fun current => ?_
    refine follows_bind (follows_of_except _ location) fun next => ?_
    exact follows_set_member target name next location
  | index object index _ =>
    have parts := Bool.and_eq_true_iff.1 passed
    refine follows_bind (follows_evaluate calls object parts.1) fun target => ?_
    refine follows_bind (follows_evaluate calls index parts.2) fun place => ?_
    refine follows_bind (follows_get_index target place location) fun current => ?_
    refine follows_bind (follows_of_except _ location) fun next => ?_
    exact follows_set_index target place next location
  | literal | binary | unary | grouping | call | array | table | function => exact whole

end

theorem thrown_restyled (h : Heap) (value : Value) :
    (h.restyled edit.restyle).thrown value = h.thrown value := by
  unfold Heap.thrown
  split
  · rfl
  · simp only [Heap.text_restyled]
    rfl
  · rfl

end BrightScript
