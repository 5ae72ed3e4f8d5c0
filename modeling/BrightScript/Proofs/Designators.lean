import BrightScript.Proofs.Frames
set_option autoImplicit false

namespace BrightScript

variable {α : Type}

theorem Entries.find_put (key other : String) (value : α) (entries : List (String × α)) :
    find? other (put key value entries) =
      if other = key then some value else find? other entries := by
  induction entries with
  | nil => rfl
  | cons head rest ih =>
    obtain ⟨k, v⟩ := head
    unfold put
    by_cases same : key = k
    · subst same
      rw [if_pos rfl]
      by_cases found : other = key <;> simp [find?, found]
    · rw [if_neg same]
      split
      · rfl
      · -- The new entry comes later, under another name than this one.
        unfold find?
        rw [ih]
        by_cases found : other = k
        · have differs : other ≠ key := fun again => same (again.symm.trans found)
          rw [if_pos found, if_neg differs, if_pos found]
        · rw [if_neg found, if_neg found]

theorem Table.get_insert (t : Table α) (name other : String) (value : α) :
    (t.insert name value).get? other =
      if fold other = fold name then some value else t.get? other :=
  Entries.find_put (fold name) (fold other) value t.entries

theorem Scalar.convert_kind {s converted : Scalar} {kind : Kind}
    (converts : s.convert? kind = some converted) : converted.kind = kind := by
  unfold Scalar.convert? at converts
  split at converts
  · rename_i same
    cases converts
    exact same
  · split at converts <;> cases converts <;> rfl

theorem coerce_kind {fresh : Nat} {value converted : Value} {kind : Kind} (static : kind ≠ .dynamic)
    (unboxed : kind ≠ .object) (converts : coerce? fresh value kind = some converted) :
    converted.kind = kind := by
  unfold coerce? at converts
  split at converts
  · rename_i same
    cases converts
    exact same.resolve_left static
  · split at converts
    · obtain ⟨scalar, made, rfl⟩ := Option.map_eq_some_iff.1 converts
      exact Scalar.convert_kind made
    · obtain ⟨scalar, made, rfl⟩ := Option.map_eq_some_iff.1 converts
      exact Scalar.convert_kind made
    · cases converts

theorem designator_kind {name : String} {kind : Kind}
    (marked : Kind.ofDesignator? name = some kind) : kind ≠ .dynamic ∧ kind ≠ .object := by
  obtain ⟨mark, _, means⟩ := Option.bind_eq_some_iff.1 marked
  unfold Kind.ofMark? at means
  split at means <;> cases means <;> decide

def Fits (name : String) (value : Value) : Prop :=
  ∀ kind, Kind.ofDesignator? name = some kind → value.kind = kind

theorem fits_unmarked {name : String} (unmarked : Kind.ofDesignator? name = none) (value : Value) :
    Fits name value := by
  intro kind marked
  rw [unmarked] at marked
  cases marked

theorem fits_coerced {name : String} {fresh : Nat} {value converted : Value} {kind : Kind}
    (designated : ∀ other, Kind.ofDesignator? name = some other → kind = other)
    (converts : coerce? fresh value kind = some converted) : Fits name converted := by
  intro other marked
  obtain rfl := designated other marked
  exact coerce_kind (designator_kind marked).1 (designator_kind marked).2 converts

def State.Designated (s : State) : Prop :=
  ∀ name value, s.frame.locals.get? name = some value → Fits name value

theorem define_designated {s : State} {name : String} {value : Value} (designated : s.Designated)
    (fits : Fits name value) : (s.define .function name value).Designated := by
  intro other found finds kind marked
  change (s.frame.locals.insert name value).get? other = some found at finds
  rw [Table.get_insert] at finds
  split at finds
  · rename_i same
    obtain rfl := Option.some.inj finds
    rw [← designator_folded, same, designator_folded] at marked
    exact fits kind marked
  · exact designated other found finds kind marked

mutual

-- Whether no loop over items and no handler names a variable with a designator. Functions in a
-- statement are bodies of their own and not looked into.
def Stmt.itemsUnmarked : Stmt → Bool
  | .forEach item _ body _ => (Kind.ofDesignator? item).isNone && body.itemsUnmarked
  | .tryCatch body name handler _ =>
    (Kind.ofDesignator? name).isNone && body.itemsUnmarked && handler.itemsUnmarked
  | .ifThen _ body elseIfs otherwise _ =>
    body.itemsUnmarked && elseIfsUnmarked elseIfs && otherwiseUnmarked otherwise
  | .forTo _ _ _ _ body _ | .whileDo _ body _ => body.itemsUnmarked
  | .block block => block.itemsUnmarked
  | _ => true

def Block.itemsUnmarked : Block → Bool
  | ⟨statements, _⟩ => statementsUnmarked statements

def statementsUnmarked : List Stmt → Bool
  | [] => true
  | statement :: rest => statement.itemsUnmarked && statementsUnmarked rest

def elseIfsUnmarked : List ElseIf → Bool
  | [] => true
  | ⟨_, body⟩ :: rest => body.itemsUnmarked && elseIfsUnmarked rest

def otherwiseUnmarked : Option Block → Bool
  | none => true
  | some block => block.itemsUnmarked

end

abbrev Designating (x : Exec α) : Prop :=
  Keeps State.Designated Any Any x

theorem designated_durable : Durable State.Designated Any Any passAll where
  vetted s _ := vetted_any s.heap
  heap _ _ designated _ _ := designated
  ordinary _ _ := trivial
  fault _ _ := trivial

theorem calls_designating (setting : Setting) :
    CallsAgree State.Designated Any (callFunction setting) (callFunction setting) := by
  intro ref arguments receiver location
  refine keeps_of_ends fun s designated => ?_
  have started : Restored setting.options.maxCallDepth s s := ⟨rfl, rfl, rfl, noted_refl _ _⟩
  have ends := (call_function_restores setting s ref arguments receiver location s started).2
  have back : ∀ t, Restored setting.options.maxCallDepth s t → t.Designated := fun t restored => by
    unfold State.Designated
    rw [restored.frame]
    exact designated
  cases outcome : callFunction setting ref arguments receiver location s with
  | ok value t | error halt t =>
    rw [outcome] at ends
    exact ⟨back t ends.1, trivial⟩

theorem define_designating (name : String) (value : Value) (fits : Fits name value) :
    Designating (Exec.define .function name value) :=
  keeps_modify _ fun _ designated => define_designated designated fits

theorem convert_designating {name : String} {kind : Kind} (value : Value)
    (designated : ∀ other, Kind.ofDesignator? name = some other → kind = other) :
    Keeps State.Designated Any (fun result => ∀ converted, result = some converted →
      Fits name converted)
      (Exec.convert? value kind) :=
  keeps_of_ends fun _ holds => ⟨holds, fun _ made => fits_coerced designated made⟩

theorem assign_designating (name : String) (value : Value) (location : Location) :
    Designating (Exec.assign name value location) := by
  unfold Exec.assign
  cases marked : Kind.ofDesignator? name with
  | none => exact define_designating name value (fits_unmarked marked value)
  | some kind =>
    have designated : ∀ other, Kind.ofDesignator? name = some other → kind = other :=
      fun other again =>
      Option.some.inj (marked.symm.trans again)
    refine agree_bind (convert_designating value designated) fun result fits => ?_
    cases result with
    | none => exact designated_durable.fail _ _ rfl
    | some converted => exact define_designating name converted (fits converted rfl)

theorem print_designating (text : String) (location : Location) :
    Designating (Exec.print text location) := by
  refine keeps_of_ends fun s designated => ?_
  rw [print_eq]
  split <;> exact ⟨designated, trivial⟩

theorem declare_designating (name : String) (function : Function) :
    Designating (Exec.declare name function) :=
  agree_bind (designated_durable.new_function function function.every_function_pass_all) fun _ _ =>
    keeps_modify _ fun _ designated => designated

theorem stepped_designating (op : StepOp) (value : Value) (location : Location) :
    Designating (stepped op value location) :=
  designated_durable.of_except _ _ (plain_apply_binary _ _ _)

section

variable {call : Call} (calls : CallsAgree State.Designated Any call call)

include calls

theorem evaluate_designating (e : Expr) : Designating (evaluate call e) :=
  evaluate_agree designated_durable calls e e.every_function_pass_all

theorem condition_designating (condition : Expr) : Designating (evaluateCondition call condition) :=
  evaluate_condition_agree designated_durable calls condition condition.every_function_pass_all

theorem print_items_designating (width : Nat) (location : Location) (items : List PrintItem) :
    Designating (printItems call width location items) := by
  induction items with
  | nil => exact keeps_pure _ trivial
  | cons item rest ih =>
    have first : Designating (printItem call width location item) := by
      cases item with
      | expression e =>
        exact agree_bind (evaluate_designating calls e) fun _ _ =>
          agree_get_bind fun _ _ => print_designating _ location
      | zone => exact agree_get_bind fun _ _ => print_designating _ location
      | join => exact keeps_pure _ trivial
    exact agree_bind first fun _ _ => ih

theorem sizes_designating (dimensions : List Expr) :
    Designating (evaluateSizes call dimensions) := by
  induction dimensions with
  | nil => exact keeps_pure _ trivial
  | cons dimension rest ih =>
    refine agree_bind (evaluate_designating calls dimension) fun value _ => ?_
    refine agree_bind (designated_durable.or_fail _ _ _ rfl) fun size _ => ?_
    exact agree_bind ih fun _ _ => keeps_pure _ trivial

theorem dim_designating (name : String) (dimensions : List Expr) (location : Location) :
    Designating (executeDim call name dimensions location) := by
  refine agree_bind (sizes_designating calls dimensions) fun sizes _ => ?_
  refine agree_bind (designated_durable.of_except _ _ (plain_dimension_lengths 1 sizes))
    fun lengths _ => ?_
  refine agree_bind (designated_durable.allocate _ (fun _ => Heap.vetted_new_grid lengths) fun h =>
    gains_of_same (new_grid_functions lengths h)) fun grid _ => ?_
  exact assign_designating name grid location

theorem step_designating (target : Expr) (op : StepOp) (location : Location) :
    Designating (executeStep call target op location) := by
  have ordinary := designated_durable.ordinary
  unfold executeStep
  split
  · rename_i name _
    refine agree_bind (Durable.lookup name) fun current _ => ?_
    refine agree_bind (stepped_designating op current location) fun next _ => ?_
    exact assign_designating name next location
  · rename_i object name _
    refine agree_bind (evaluate_designating calls object) fun target _ => ?_
    refine agree_bind (designated_durable.on_heap _ _ (Value.safe_get_member ordinary target name)
      (target.get_member_gains name)) fun current _ => ?_
    refine agree_bind (stepped_designating op current location) fun next _ => ?_
    exact designated_durable.on_heap _ _ (Value.safe_set_member ordinary target name next)
      (target.set_member_gains name next)
  · rename_i object index _
    refine agree_bind (evaluate_designating calls object) fun target _ => ?_
    refine agree_bind (evaluate_designating calls index) fun place _ => ?_
    refine agree_bind (designated_durable.on_heap _ _ (Value.safe_get_index ordinary target place)
      (target.get_index_gains place)) fun current _ => ?_
    refine agree_bind (stepped_designating op current location) fun next _ => ?_
    exact designated_durable.on_heap _ _ (Value.safe_set_index ordinary target place next)
      (target.set_index_gains place next)
  · exact agree_bind (evaluate_designating calls _) fun _ _ => designated_durable.fail _ _ rfl

end

section

variable {body handler : Exec Signal} (runs : Keeps State.Designated Any (Signal.Bounded Any) body)

include runs

theorem for_each_loop_designating (item : String) (unmarked : Kind.ofDesignator? item = none)
    (elements : List Value) :
    Keeps State.Designated Any (Signal.Bounded Any) (forEachLoop item body elements) := by
  induction elements with
  | nil => exact keeps_pure _ trivial
  | cons element rest ih =>
    refine agree_bind (define_designating item element (fits_unmarked unmarked element)) fun _ _ =>
      ?_
    refine agree_bind runs fun signal bounded => ?_
    cases signal with
    | completed => exact ih
    | exitFor _ => exact keeps_pure _ trivial
    | returned _ | exitWhile _ | goto _ _ => exact keeps_pure _ bounded

theorem for_loop_designating (counter : String) {stop step : Exec Value} (stops : Designating stop)
    (steps : Designating step) (location : Location) (rounds : Nat) :
    Keeps State.Designated Any (Signal.Bounded Any)
      (forLoop counter stop step body location rounds) := by
  refine go_round_agree trivial (agree_bind stops fun stopValue _ => ?_) rfl
  refine agree_bind steps fun stepValue _ => ?_
  refine agree_bind (Durable.lookup counter) fun current _ => ?_
  refine agree_bind (designated_durable.or_fail _ _ _ rfl) fun direction _ => ?_
  split
  · refine agree_bind runs fun signal _ => ?_
    cases signal with
    | completed =>
      refine agree_bind (Durable.lookup counter) fun reached _ => ?_
      refine agree_bind (designated_durable.of_except _ _ (plain_apply_binary _ _ _)) fun next _ =>
        ?_
      exact agree_bind (assign_designating counter next location) fun _ _ => keeps_pure _ trivial
    | returned _ | exitFor _ | exitWhile _ | goto _ _ => exact keeps_pure _ trivial
  · exact keeps_pure _ trivial

theorem try_catch_designating (name : String) (unmarked : Kind.ofDesignator? name = none)
    (handles : Keeps State.Designated Any (Signal.Bounded Any) handler) :
    Keeps State.Designated Any (Signal.Bounded Any) (tryCatch body name handler) := by
  refine keeps_of_ends fun s designated => ?_
  have ends := (runs s designated).2
  unfold tryCatch
  cases outcome : body s with
  | ok signal t =>
    rw [outcome] at ends
    exact ends
  | error halt t =>
    rw [outcome] at ends
    cases halt with
    | finish | exhausted => exact ends
    | error error =>
      have handled : Keeps State.Designated Any (Signal.Bounded Any) (do
          Exec.note (.caught error)
          let caught ← Exec.allocate (·.newTable error.cause.entries)
          Exec.define .function name caught
          handler) := by
        refine agree_bind (keeps_modify _ fun _ designated => designated) fun _ _ => ?_
        refine agree_bind (designated_durable.allocate _ (fun _ vetted =>
          ⟨vetted.functions, vetted.components⟩) fun _ => gains_of_same rfl) fun caught _ => ?_
        exact agree_bind (define_designating name caught (fits_unmarked unmarked caught)) fun _ _ =>
          handles
      exact (handled t ends.1).2

end

mutual

theorem execute_designating {setting : Setting} {call : Call}
    (calls : CallsAgree State.Designated Any call call) :
    (statement : Stmt) → statement.itemsUnmarked = true →
      Keeps State.Designated Any (Signal.Bounded Any) (execute setting call statement)
  | .expression e _, _ =>
    agree_bind (evaluate_designating calls e) fun _ _ => keeps_pure _ trivial
  | .print items location, _ => by
    unfold execute
    refine agree_bind (print_items_designating calls _ location items) fun _ _ => ?_
    split
    · exact agree_bind (print_designating "\n" location) fun _ _ => keeps_pure _ trivial
    · exact keeps_pure _ trivial
  | .assign name value location, _ =>
    agree_bind (evaluate_designating calls value) fun value _ =>
      agree_bind (assign_designating name value location) fun _ _ => keeps_pure _ trivial
  | .dim name dimensions location, _ =>
    agree_bind (dim_designating calls name dimensions location) fun _ _ => keeps_pure _ trivial
  | .ifThen condition body elseIfs otherwise _, unmarked => by
    simp only [Stmt.itemsUnmarked, Bool.and_eq_true] at unmarked
    obtain ⟨⟨main, others⟩, last⟩ := unmarked
    refine agree_bind (condition_designating calls condition) fun holds _ => ?_
    cases holds with
    | true => exact block_designating calls body main
    | false =>
      exact else_designating calls (otherwise_designating calls otherwise last) elseIfs others
  | .forTo counter start stop step body location, unmarked => by
    refine agree_bind (evaluate_designating calls start) fun first _ => ?_
    refine agree_bind (assign_designating counter first location) fun _ _ => ?_
    exact for_loop_designating (block_designating calls body unmarked) counter
      (evaluate_designating calls stop) (evaluate_designating calls step) location _
  | .forEach item target body _, unmarked => by
    have parts := Bool.and_eq_true_iff.1 unmarked
    refine agree_bind (evaluate_designating calls target) fun collection _ =>
      agree_get_bind fun s _ => ?_
    refine agree_bind (designated_durable.or_fail _ _ _ rfl) fun elements _ => ?_
    exact for_each_loop_designating (block_designating calls body parts.2) item
      (Option.isNone_iff_eq_none.1 parts.1) elements
  | .whileDo condition body _, unmarked =>
    while_loop_agree trivial (condition_designating calls condition)
      (block_designating calls body unmarked) rfl
  | .declare name function _, _ =>
    agree_bind (declare_designating name function) fun _ _ => keeps_pure _ trivial
  | .giveBack none _, _ => keeps_pure _ trivial
  | .giveBack (some value) _, _ =>
    agree_bind (evaluate_designating calls value) fun _ _ => keeps_pure _ trivial
  | .setMember object name value location, _ => by
    refine agree_bind (evaluate_designating calls object) fun target _ => ?_
    refine agree_bind (evaluate_designating calls value) fun value _ => ?_
    exact agree_bind (designated_durable.on_heap location _
      (Value.safe_set_member designated_durable.ordinary target name value)
        (target.set_member_gains name value))
      fun _ _ => keeps_pure _ trivial
  | .setIndex object index value location, _ => by
    refine agree_bind (evaluate_designating calls object) fun target _ => ?_
    refine agree_bind (evaluate_designating calls index) fun place _ => ?_
    refine agree_bind (evaluate_designating calls value) fun value _ => ?_
    exact agree_bind (designated_durable.on_heap location _
      (Value.safe_set_index designated_durable.ordinary target place value)
        (target.set_index_gains place value))
      fun _ _ => keeps_pure _ trivial
  | .step target op location, _ =>
    agree_bind (step_designating calls target op location) fun _ _ => keeps_pure _ trivial
  | .tryCatch body name handler _, unmarked => by
    simp only [Stmt.itemsUnmarked, Bool.and_eq_true] at unmarked
    obtain ⟨⟨named, main⟩, handling⟩ := unmarked
    exact try_catch_designating (block_designating calls body main) name
      (Option.isNone_iff_eq_none.1 named)
      (block_designating calls handler handling)
  | .raise value location, _ => by
    refine agree_bind (evaluate_designating calls value) fun value _ => ?_
    exact agree_get_bind fun s _ =>
      designated_durable.fail _ location (thrown_ordinary s.heap value)
  | .goto _ _, _ | .library _ _, _ | .label _ _, _ | .exitFor _, _ | .exitWhile _, _ | .stop _, _ =>
    keeps_pure _ trivial
  | .endProgram _, _ => keeps_of_ends fun _ holds => ⟨holds, trivial⟩
  | .block block, unmarked => block_designating calls block unmarked

theorem block_designating {setting : Setting} {call : Call}
    (calls : CallsAgree State.Designated Any call call) :
    (block : Block) → block.itemsUnmarked = true →
      Keeps State.Designated Any (Signal.Bounded Any) (executeBlock setting call block)
  | ⟨statements, _⟩, unmarked =>
    have agree := steps_designating calls statements unmarked
    run_from_agree agree (fun _ => rfl) agree

theorem steps_designating {setting : Setting} {call : Call}
    (calls : CallsAgree State.Designated Any call call) :
    (statements : List Stmt) → statementsUnmarked statements = true →
      StepsAgree State.Designated Any (steps setting call statements)
        (steps setting call statements)
  | [], _ => trivial
  | statement :: rest, unmarked =>
    have parts := Bool.and_eq_true_iff.1 unmarked
    ⟨rfl, execute_designating calls statement parts.1, steps_designating calls rest parts.2⟩

theorem else_designating {setting : Setting} {call : Call}
    (calls : CallsAgree State.Designated Any call call) {otherwise : Exec Signal}
    (last : Keeps State.Designated Any (Signal.Bounded Any) otherwise) :
    (elseIfs : List ElseIf) → elseIfsUnmarked elseIfs = true →
      Keeps State.Designated Any (Signal.Bounded Any) (executeElse setting call otherwise elseIfs)
  | [], _ => last
  | ⟨condition, body⟩ :: rest, unmarked => by
    have parts := Bool.and_eq_true_iff.1 unmarked
    refine agree_bind (condition_designating calls condition) fun holds _ => ?_
    cases holds with
    | true => exact block_designating calls body parts.1
    | false => exact else_designating calls last rest parts.2

theorem otherwise_designating {setting : Setting} {call : Call}
    (calls : CallsAgree State.Designated Any call call) :
    (otherwise : Option Block) → otherwiseUnmarked otherwise = true →
      Keeps State.Designated Any (Signal.Bounded Any) (executeOtherwise setting call otherwise)
  | none, _ => keeps_pure _ trivial
  | some block, unmarked => block_designating calls block unmarked

end

structure Function.Consistent (f : Function) : Prop where
  kinds : ∀ p ∈ f.parameters, ∀ kind, Kind.ofDesignator? p.name = some kind → p.kind = kind
  optionalLast : f.parameters.Pairwise fun p q => p.default.isSome = true → q.default.isSome = true
  body : f.body.itemsUnmarked = true

def Supplied : List Parameter → List Value → Prop
  | [], _ => True
  | parameter :: parameters, [] => parameter.default.isSome = true ∧ Supplied parameters []
  | parameter :: parameters, argument :: arguments =>
    Fits parameter.name argument ∧ Supplied parameters arguments

theorem supplied_by_defaults {parameters : List Parameter}
    (optional : ∀ p ∈ parameters, p.default.isSome = true) : Supplied parameters [] := by
  induction parameters with
  | nil => trivial
  | cons parameter rest ih =>
    exact ⟨optional parameter (.head rest), ih fun p member => optional p (.tail parameter member)⟩

theorem required_cons (parameter : Parameter) (parameters : List Parameter) (returns : Kind) :
    Signature.required ⟨(parameter :: parameters).map Callable.argumentOf, returns⟩ =
      (if parameter.default.isSome then 0 else 1) +
        Signature.required ⟨parameters.map Callable.argumentOf, returns⟩ := by
  unfold Signature.required
  cases optional : parameter.default.isSome with
  | true => simp [Callable.argumentOf, optional]
  | false => simp [Callable.argumentOf, optional, Nat.add_comm]

theorem required_none {parameters : List Parameter} {returns : Kind}
    (optional : ∀ p ∈ parameters, p.default.isSome = true) :
    Signature.required ⟨parameters.map Callable.argumentOf, returns⟩ = 0 := by
  induction parameters with
  | nil => rfl
  | cons parameter rest ih =>
    have later := ih fun p member => optional p (.tail parameter member)
    rw [required_cons, optional parameter (.head rest), later]
    rfl

theorem supplied_by_conversion {parameters : List Parameter} {returns : Kind}
    {values arguments : List Value} {fresh : Nat}
    (kinds : ∀ p ∈ parameters, ∀ kind, Kind.ofDesignator? p.name = some kind → p.kind = kind)
    (optionalLast : parameters.Pairwise fun p q => p.default.isSome = true →
      q.default.isSome = true)
    (enough : Signature.required ⟨parameters.map Callable.argumentOf, returns⟩ ≤ values.length)
    (converts : Signature.convert? fresh values (parameters.map Callable.argumentOf) =
      some arguments) :
    Supplied parameters arguments := by
  induction parameters generalizing values arguments fresh with
  | nil => trivial
  | cons parameter rest ih =>
    obtain ⟨after, laterLast⟩ := List.pairwise_cons.1 optionalLast
    rw [required_cons] at enough
    cases values with
    | nil =>
      -- None is required, this one as little as any behind it.
      obtain rfl : [] = arguments := Option.some.inj converts
      have optional : parameter.default.isSome = true := by
        cases optional : parameter.default.isSome with
        | true => rfl
        | false => simp [optional] at enough
      refine supplied_by_defaults fun p member => ?_
      obtain rfl | later := List.mem_cons.1 member
      · exact optional
      · exact after p later optional
    | cons value values =>
      simp only [List.map_cons, Signature.convert?] at converts
      split at converts
      · rename_i first later made madeLater
        obtain rfl := Option.some.inj converts
        refine ⟨fits_coerced (kinds parameter (.head rest)) made, ?_⟩
        refine ih (fun p member => kinds p (.tail parameter member)) laterLast ?_ madeLater
        rw [List.length_cons] at enough
        cases optional : parameter.default.isSome with
        | true => simp [required_none fun p member => after p member optional]
        | false =>
          simp only [optional, Bool.false_eq_true, if_false] at enough
          omega
      · cases converts

theorem resolve_user_accepts {function : Function} {fresh : Nat} {values : List Value}
    {choice : Callable.Choice}
    (resolves : (Callable.user function).resolve fresh values = .ok choice) :
    choice.code = .user function ∧
      Signature.admits ⟨function.parameters.map Callable.argumentOf, function.returns⟩
      values.length = true ∧
      Signature.convert? fresh values (function.parameters.map Callable.argumentOf) =
        some choice.arguments := by
  simp only [Callable.resolve, Callable.user, Callable.choose?, Signature.accepts?] at resolves
  split at resolves
  · rename_i found
    cases resolves
    split at found
    · rename_i converted
      cases found
      split at converted
      · rename_i admitted
        exact ⟨rfl, admitted, converted⟩
      · cases converted
    · cases found
  · cases resolves

theorem resolve_user {function : Function} {fresh : Nat} {values : List Value}
    {choice : Callable.Choice}
    (resolves : (Callable.user function).resolve fresh values = .ok choice)
    (consistent : function.Consistent) :
    choice.code = .user function ∧ Supplied function.parameters choice.arguments := by
  obtain ⟨code, admitted, converts⟩ := resolve_user_accepts resolves
  have enough := of_decide_eq_true (Bool.and_eq_true_iff.1 admitted).1
  exact ⟨code, supplied_by_conversion consistent.kinds consistent.optionalLast enough converts⟩

section

variable {call : Call} (calls : CallsAgree State.Designated Any call call)

include calls

theorem default_designating (function : String) {parameter : Parameter}
    (optional : parameter.default.isSome = true)
    (designated : ∀ kind, Kind.ofDesignator? parameter.name = some kind → parameter.kind = kind) :
    Keeps State.Designated Any (Fits parameter.name) (defaultValue call function parameter) := by
  unfold defaultValue
  cases default : parameter.default with
  | none =>
    rw [default] at optional
    cases optional
  | some expression =>
    refine agree_bind (evaluate_designating calls expression) fun value _ => ?_
    refine agree_bind (convert_designating value designated) fun result fits => ?_
    cases result with
    | none => exact designated_durable.fail _ _ rfl
    | some converted => exact keeps_pure converted (fits converted rfl)

theorem bind_parameters_designating (function : String) {parameters : List Parameter}
    {arguments : List Value}
    (kinds : ∀ p ∈ parameters, ∀ kind, Kind.ofDesignator? p.name = some kind → p.kind = kind)
    (supplied : Supplied parameters arguments) :
    Designating (bindParameters call function parameters arguments) := by
  induction parameters generalizing arguments with
  | nil => exact keeps_pure _ trivial
  | cons parameter rest ih =>
    have later := fun p member => kinds p (.tail parameter member)
    cases arguments with
    | nil =>
      refine agree_bind (default_designating calls
        function supplied.1 (kinds parameter (.head rest)))
        fun value fits => ?_
      exact agree_bind (define_designating parameter.name value fits) fun _ _ => ih later supplied.2
    | cons argument arguments =>
      exact agree_bind (define_designating parameter.name argument supplied.1) fun _ _ =>
        ih later supplied.2

theorem run_function_designating (setting : Setting) {function : Function}
    (consistent : function.Consistent) {arguments : List Value}
    (supplied : Supplied function.parameters arguments) (location : Location) :
    Designating (runFunction setting call function arguments location) := by
  refine agree_bind (bind_parameters_designating calls _ consistent.kinds supplied) fun _ _ => ?_
  refine agree_bind (block_designating calls function.body consistent.body) fun signal _ => ?_
  cases signal.result with
  | error error => exact keeps_throw _ trivial
  | ok value =>
    cases value with
    | none => exact keeps_pure _ trivial
    | some value =>
      dsimp only
      unfold giveBack
      split
      · exact keeps_pure _ trivial
      · exact agree_bind (designated_durable.convert value _) fun _ _ =>
          designated_durable.or_fail _ _ _ rfl

end

theorem hoist_designating (statements : List Stmt) : Designating (hoist statements) := by
  induction statements with
  | nil => exact keeps_pure _ trivial
  | cons statement rest ih =>
    cases statement
    case declare name function _ =>
      exact agree_bind (declare_designating name function) fun _ _ => ih
    all_goals exact ih

theorem run_module_designating (setting : Setting) {statements : List Stmt}
    (unmarked : statementsUnmarked statements = true) :
    Designating (runModule setting statements) := by
  have agree : StepsAgree State.Designated Any
      (steps setting (callFunction setting) statements) _ :=
    steps_designating (calls_designating setting) statements unmarked
  refine agree_bind (hoist_designating statements) fun _ _ => ?_
  refine agree_bind (run_from_agree agree (fun _ => rfl) agree) fun signal _ => ?_
  cases signal.result with
  | ok value => exact keeps_pure _ trivial
  | error error => exact keeps_throw _ trivial

def Session.Command.itemsUnmarked : Session.Command → Bool
  | .exec statements => statementsUnmarked statements
  | .call _ _ => true

theorem command_designating (setting : Setting) {command : Session.Command}
    (unmarked : command.itemsUnmarked = true) : Designating (command.run setting) := by
  cases command with
  | exec statements => exact run_module_designating setting unmarked
  | call name arguments =>
    exact run_named_agree designated_durable (calls_designating setting) name arguments

/-- Every statement leaves the variables of its frame true to their designators, whatever it stores
and however it ends, if its loops over items and its handlers name no variable with a designator. A
function whose parameters have the kinds of their designators, the optional ones last, does so in
the frame that a call opens for it, and so do all commands of a session. -/
theorem designators_enforced (setting : Setting) :
    (∀ (statement : Stmt) (s : State), statement.itemsUnmarked = true → s.Designated →
      (finalState (execute setting (callFunction setting) statement s)).Designated) ∧
    (∀ (function : Function) (fresh : Nat) (values : List Value) (choice : Callable.Choice)
      (location : Location) (s : State), function.Consistent →
      (Callable.user function).resolve fresh values = .ok choice → s.frame.locals = .empty →
      (finalState
        (runCode setting (callFunction setting) choice.code choice.arguments location
          s)).Designated) ∧
    (∀ (outputLimit errorLimit : Option Nat) (commands : List Session.Command),
      (∀ command ∈ commands, command.itemsUnmarked = true) →
      ((Session.start setting.options outputLimit errorLimit).performAll
        commands).2.state.Designated) := by
  have calls := calls_designating setting
  have empty : ∀ s : State, s.frame.locals = .empty → s.Designated := by
    intro s none name value found
    rw [none] at found
    cases found
  refine ⟨fun statement s unmarked designated => ?_, ?_,
    fun outputLimit errorLimit commands unmarked => ?_⟩
  · exact ends_final_state (execute_designating calls statement unmarked s designated).2
  · intro function fresh values choice location s consistent resolves opened
    obtain ⟨code, supplied⟩ := resolve_user resolves consistent
    rw [code]
    exact ends_final_state (run_function_designating calls setting consistent supplied location s
      (empty s opened)).2
  · exact (Session.perform_all_keeps commands (Session.start setting.options outputLimit errorLimit)
      (fun command member => command_designating _ (unmarked command member)) (empty _ rfl)).1

-- `d# = 1` leaves a Double in `d#`.
theorem assigned_integer_fits :
    let place := Location.internal
    let assignment := Stmt.assign "d#" (.literal (.integer 1) place) place
    ∃ value, ((Session.start {} none none).performAll
      [.exec [assignment]]).2.state.frame.locals.get? "d#" =
      some value ∧ value.kind = .double := by
  intro place assignment
  obtain ⟨value, stored⟩ : ∃ value,
      ((Session.start {} none none).performAll [.exec [assignment]]).2.state.frame.locals =
        Table.empty.insert "d#" value := by
    refine ⟨.scalar (.double (Float.ofInt 1)), ?_⟩
    simp only [Session.performAll, Session.perform, Session.exec, Session.conclude, runModule,
      executeAll, steps, Step.runBlock]
    unfold Step.runFrom
    rfl
  have found : (Table.empty.insert "d#" value).get? "d#" = some value := by
    rw [Table.get_insert, if_pos rfl]
  rw [stored]
  refine ⟨value, found, ?_⟩
  have designated :=
    (designators_enforced ⟨{}, .empty⟩).2.2 none none [.exec [assignment]] (by decide)
  exact designated "d#" value (stored ▸ found) .double (by decide)

theorem empty_block_runs (setting : Setting) (call : Call) (place : Location) :
    executeBlock setting call ⟨[], place⟩ = pure .completed := by
  unfold executeBlock Step.runBlock Step.runFrom
  rfl

-- `for each d# in [1]` leaves an Integer in `d#`.
theorem for_each_item_unconverted :
    let place := Location.internal
    let loop := Stmt.forEach "d#" (.array [.literal (.integer 1) place] place) ⟨[], place⟩ place
    ¬ ((Session.start {} none none).exec [loop]).2.state.Designated := by
  intro place loop designated
  have loops : ∀ (setting : Setting) (call : Call), execute setting call loop = (do
      let collection ← evaluate call (.array [.literal (.integer 1) place] place)
      let elements ← Exec.orFail ((← get).heap.visited? collection)
          (.notIterable collection.kind) place
      forEachLoop "d#" (pure .completed) elements) := by
    intro setting call
    rw [← empty_block_runs setting call place]
    rfl
  have stored : ((Session.start {} none none).exec [loop]).2.state.frame.locals =
      Table.empty.insert "d#" (.integer 1) := by
    simp only [Session.exec, Session.conclude, runModule, executeAll, steps, loops, Step.runBlock]
    unfold Step.runFrom
    rfl
  have found : (Table.empty.insert "d#" (Value.integer 1)).get? "d#" = some (.integer 1) := by
    rw [Table.get_insert, if_pos rfl]
  exact absurd (designated "d#" (.integer 1) (stored ▸ found) .double (by decide)) (by decide)

end BrightScript
