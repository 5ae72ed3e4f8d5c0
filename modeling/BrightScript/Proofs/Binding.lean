import BrightScript.Proofs.Designators
set_option autoImplicit false

/-!
What a call binds to the parameters of its function. A parameter takes the argument at its position,
converted to its kind, and one that has no argument takes its default, converted likewise. How many
arguments a call may have is a matter of how many parameters have no default, wherever these stand;
so one of them that stands behind a parameter with a default can be left without anything.
-/

namespace BrightScript

def Kind.Admits (kind : Kind) (value : Value) : Prop :=
  kind = .dynamic ∨ value.kind = kind ∨ kind = .object ∧ value = .invalid

theorem coerce_admits {fresh : Nat} {value converted : Value} {kind : Kind}
    (converts : coerce? fresh value kind = some converted) : kind.Admits converted := by
  by_cases dynamic : kind = .dynamic
  · exact .inl dynamic
  · by_cases object : kind = .object
    · unfold coerce? at converts
      simp only [object] at converts ⊢
      grind [Kind.Admits, Value.kind, Value.invalid]
    · exact .inr (.inl (coerce_kind dynamic object converts))

-- How the parameter at a position comes to its value, in a call with the given arguments, when the
-- parameters before it are bound.
inductive Binding (call : Call) (fresh : Nat) (values : List Value) (position : Nat)
    (parameter : Parameter) (before : State) : Value → Prop
  | argument {given value : Value} (supplied : values[position]? = some given)
      (converts : coerce? (fresh + position) given parameter.kind = some value) :
      Binding call fresh values position parameter before value
  | default {expression : Expr} {result value : Value} {after : State}
      (omitted : values.length ≤ position) (optional : parameter.default = some expression)
      (evaluates : evaluate call expression before = .ok result after)
      (converts : coerce? after.heap.boxes result parameter.kind = some value) :
      Binding call fresh values position parameter before value
  | nothing (omitted : values.length ≤ position) (required : parameter.default = none) :
      Binding call fresh values position parameter before .invalid

def DefaultFails (call : Call) (parameter : Parameter) (before : State) (halt : Halt)
    (after : State) : Prop :=
  ∃ expression, parameter.default = some expression ∧
    (evaluate call expression before = .error halt after ∨
      ∃ result middle, evaluate call expression before = .ok result middle ∧
        coerce? middle.heap.boxes result parameter.kind = none)

def parameterValue (call : Call) (function : String) (parameter : Parameter) :
    Option Value → Exec Value
  | some argument => pure argument
  | none => defaultValue call function parameter

section

variable (call : Call) (function : String)

theorem bind_parameters_cons (parameter : Parameter) (parameters : List Parameter)
    (arguments : List Value) (s : State) :
    bindParameters call function (parameter :: parameters) arguments s =
      match parameterValue call function parameter arguments[0]? s with
      | .ok value t =>
        bindParameters call function parameters arguments.tail
          (t.define .function parameter.name value)
      | .error halt t => .error halt t := by
  cases arguments with
  | cons argument arguments => rfl
  | nil =>
    simp only [bindParameters, bind, EStateM.bind, parameterValue, List.getElem?_nil]
    cases defaultValue call function parameter s <;> rfl

theorem default_value_run {parameter : Parameter} {expression : Expr}
    (optional : parameter.default = some expression) (s : State) :
    defaultValue call function parameter s =
      match evaluate call expression s with
      | .ok result t =>
        let after := { t with heap := { t.heap with boxes := t.heap.boxes + 1 } }
        match coerce? t.heap.boxes result parameter.kind with
        | some value => .ok value after
        | none => .error (.error ⟨.argumentMismatch function
            s!"default for '{parameter.name}' is {result.kind.name}, expected {parameter.kind.name}",
            expression.location⟩) after
      | .error halt t => .error halt t := by
  simp only [defaultValue, optional, bind, EStateM.bind]
  cases evaluate call expression s with
  | error halt t => rfl
  | ok result t =>
    simp only [Exec.convert?, Exec.allocate]
    cases coerce? t.heap.boxes result parameter.kind <;> rfl

variable {call function} {parameter : Parameter} {s t : State}

theorem default_value_gives {value : Value}
    (gives : defaultValue call function parameter s = .ok value t) :
    parameter.default = none ∧ value = .invalid ∨
      ∃ expression result after, parameter.default = some expression ∧
        evaluate call expression s = .ok result after ∧
        coerce? after.heap.boxes result parameter.kind = some value := by
  cases optional : parameter.default with
  | none =>
    simp only [defaultValue, optional] at gives
    cases gives
    exact .inl ⟨rfl, rfl⟩
  | some expression =>
    rw [default_value_run call function optional] at gives
    cases evaluated : evaluate call expression s with
    | error halt u => simp [evaluated] at gives
    | ok result after =>
      cases converted : coerce? after.heap.boxes result parameter.kind with
      | none => simp [evaluated, converted] at gives
      | some made =>
        simp only [evaluated, converted] at gives
        cases gives
        exact .inr ⟨expression, result, after, rfl, evaluated, converted⟩

theorem default_value_fails {halt : Halt}
    (fails : defaultValue call function parameter s = .error halt t) :
    DefaultFails call parameter s halt t := by
  cases optional : parameter.default with
  | none =>
    simp only [defaultValue, optional] at fails
    cases fails
  | some expression =>
    refine ⟨expression, optional, ?_⟩
    rw [default_value_run call function optional] at fails
    cases evaluated : evaluate call expression s with
    | error other u =>
      simp only [evaluated] at fails
      cases fails
      exact .inl rfl
    | ok result after =>
      cases converted : coerce? after.heap.boxes result parameter.kind with
      | none => exact .inr ⟨result, after, rfl, converted⟩
      | some made => simp [evaluated, converted] at fails

end

theorem parameter_value_frame (setting : Setting) {function : String} {parameter : Parameter}
    {argument : Option Value} {value : Value} {s t : State}
    (gives : parameterValue (callFunction setting) function parameter argument s = .ok value t) :
    t.frame = s.frame := by
  cases argument with
  | some argument =>
    cases gives
    rfl
  | none =>
    have durable := restored_durable setting.options.maxCallDepth s
    have started : Restored setting.options.maxCallDepth s s := ⟨rfl, rfl, rfl, noted_refl _ _⟩
    rcases default_value_gives gives with ⟨none, _⟩ | ⟨expression, result, after, optional,
      evaluates, converts⟩
    · simp only [parameterValue, defaultValue, none] at gives
      cases gives
      rfl
    · have ends := (evaluate_agree durable (call_function_restores setting s) expression
        expression.every_function_pass_all s started).2
      rw [evaluates] at ends
      simp only [parameterValue, default_value_run _ _ optional, evaluates, converts] at gives
      cases gives
      exact ends.1.frame

theorem bind_parameters_binds (setting : Setting) {function : String} {parameters : List Parameter}
    {arguments : List Value} {s t : State}
    (distinct : parameters.Pairwise fun p q => fold p.name ≠ fold q.name)
    (binds : bindParameters (callFunction setting) function parameters arguments s = .ok () t) :
    (∀ name, (∀ p ∈ parameters, fold name ≠ fold p.name) →
      t.frame.locals.get? name = s.frame.locals.get? name) ∧
    ∀ i p, parameters[i]? = some p → ∃ before value after,
      bindParameters (callFunction setting) function (parameters.take i) arguments s =
      .ok () before ∧
      parameterValue (callFunction setting) function p arguments[i]? before = .ok value after ∧
      t.frame.locals.get? p.name = some value := by
  induction parameters generalizing arguments s with
  | nil =>
    cases binds
    exact ⟨fun _ _ => rfl, by simp⟩
  | cons first rest ih =>
    rw [bind_parameters_cons] at binds
    cases gives : parameterValue (callFunction setting) function first arguments[0]? s with
    | error halt u => simp [gives] at binds
    | ok value u =>
      simp only [gives] at binds
      obtain ⟨apart, distinct⟩ := List.pairwise_cons.1 distinct
      obtain ⟨others, later⟩ := ih distinct binds
      have frame := parameter_value_frame setting gives
      have defined (name : String) : (u.define .function first.name value).frame.locals.get? name =
          if fold name = fold first.name then some value else s.frame.locals.get? name := by
        simp only [State.define, Table.get_insert, frame]
      constructor
      · intro name differs
        obtain ⟨differsFirst, differsRest⟩ := List.forall_mem_cons.1 differs
        rw [others name differsRest, defined, if_neg differsFirst]
      · intro i p found
        cases i with
        | zero =>
          obtain rfl : first = p := by simpa using found
          refine ⟨s, value, u, rfl, gives, ?_⟩
          rw [others first.name apart, defined, if_pos rfl]
        | succ i =>
          obtain ⟨before, other, after, reached, given, stored⟩ := later i p (by simpa using found)
          refine ⟨before, other, after, ?_, by simpa using given, stored⟩
          rw [List.take_succ_cons, bind_parameters_cons, gives]
          exact reached

theorem bind_parameters_fails {call : Call} {function : String} {parameters : List Parameter}
    {arguments : List Value} {s t : State} {halt : Halt}
    (fails : bindParameters call function parameters arguments s = .error halt t) :
    ∃ i p before, parameters[i]? = some p ∧
      bindParameters call function (parameters.take i) arguments s = .ok () before ∧
      parameterValue call function p arguments[i]? before = .error halt t := by
  induction parameters generalizing arguments s with
  | nil => cases fails
  | cons first rest ih =>
    rw [bind_parameters_cons] at fails
    cases gives : parameterValue call function first arguments[0]? s with
    | error other u =>
      simp only [gives] at fails
      cases fails
      exact ⟨0, first, s, rfl, rfl, gives⟩
    | ok value u =>
      simp only [gives] at fails
      obtain ⟨i, p, before, found, reached, stops⟩ := ih fails
      refine ⟨i + 1, p, before, by simpa using found, ?_, by simpa using stops⟩
      rw [List.take_succ_cons, bind_parameters_cons, gives]
      exact reached

theorem convert_at {fresh : Nat} {values converted : List Value} {arguments : List Argument}
    (converts : Signature.convert? fresh values arguments = some converted)
    (fits : values.length ≤ arguments.length) :
    converted.length = values.length ∧
      ∀ (i : Nat) (argument : Argument) (value : Value), arguments[i]? = some argument →
        converted[i]? = some value →
        ∃ given, values[i]? = some given ∧
          coerce? (fresh + i) given argument.kind = some value := by
  induction values generalizing fresh arguments converted with
  | nil =>
    obtain rfl : [] = converted := by cases arguments <;> exact Option.some.inj converts
    exact ⟨rfl, by simp⟩
  | cons given values ih =>
    cases arguments with
    | nil => simp at fits
    | cons argument arguments =>
      simp only [Signature.convert?] at converts
      split at converts
      · rename_i made later madeFirst madeLater
        obtain rfl := Option.some.inj converts
        obtain ⟨length, each⟩ := ih madeLater (by simpa using fits)
        refine ⟨by simp [length], ?_⟩
        intro i other value found stored
        cases i with
        | zero =>
          obtain rfl : argument = other := by simpa using found
          obtain rfl : made = value := by simpa using stored
          exact ⟨given, rfl, madeFirst⟩
        | succ i =>
          obtain ⟨given, supplied, coerced⟩ :=
            each i other value (by simpa using found) (by simpa using stored)
          exact ⟨given, by simpa using supplied, by rwa [Nat.add_assoc,
            Nat.add_comm 1 i] at coerced⟩
      · cases converts

theorem optional_behind {parameters : List Parameter} {returns : Kind} {count : Nat}
    (optionalLast : parameters.Pairwise fun p q => p.default.isSome = true →
      q.default.isSome = true)
    (enough : Signature.required ⟨parameters.map Callable.argumentOf, returns⟩ ≤ count) :
    ∀ i p, parameters[i]? = some p → count ≤ i → p.default.isSome = true := by
  induction parameters generalizing count with
  | nil => simp
  | cons first rest ih =>
    obtain ⟨after, optionalLast⟩ := List.pairwise_cons.1 optionalLast
    rw [required_cons] at enough
    intro i p found omitted
    by_cases optional : first.default.isSome = true
    · rcases List.mem_cons.1 (List.mem_of_getElem? found) with rfl | later
      · exact optional
      · exact after p later optional
    · simp only [optional, Bool.false_eq_true, if_false] at enough
      cases i with
      | zero => omega
      | succ i =>
        exact ih optionalLast (by omega : _ ≤ count - 1) i p (by simpa using found) (by omega)

theorem required_le {parameters : List Parameter} {returns : Kind} {count : Nat}
    (optional : ∀ i p, parameters[i]? = some p → count ≤ i → p.default.isSome = true) :
    Signature.required ⟨parameters.map Callable.argumentOf, returns⟩ ≤ count := by
  induction parameters generalizing count with
  | nil => simp [Signature.required]
  | cons first rest ih =>
    cases count with
    | zero =>
      have all : ∀ p ∈ first :: rest, p.default.isSome = true := by
        intro p member
        obtain ⟨i, found⟩ := List.mem_iff_getElem?.1 member
        exact optional i p found (Nat.zero_le i)
      exact Nat.le_of_eq (required_none all)
    | succ count =>
      have later : Signature.required ⟨rest.map Callable.argumentOf, returns⟩ ≤ count :=
        ih fun i p found omitted => optional (i + 1) p (by simpa using found) (by omega)
      rw [required_cons]
      split <;> omega

theorem optional_last {parameters : List Parameter} {returns : Kind} {count : Nat}
    (needed : Signature.required ⟨parameters.map Callable.argumentOf, returns⟩ = count)
    (optional : ∀ i p, parameters[i]? = some p → count ≤ i → p.default.isSome = true) :
    parameters.Pairwise fun p q => p.default.isSome = true → q.default.isSome = true := by
  induction parameters generalizing count with
  | nil => exact .nil
  | cons first rest ih =>
    rw [required_cons] at needed
    have shifted (i : Nat) (p : Parameter) (found : rest[i]? = some p) (omitted : count ≤ i + 1) :
        p.default.isSome = true :=
      optional (i + 1) p (by simpa using found) omitted
    by_cases given : first.default.isSome = true
    · -- The first takes up a place among the required ones, so that none is required.
      simp only [given, if_true, Nat.zero_add] at needed
      have fewer : Signature.required ⟨rest.map Callable.argumentOf, returns⟩ ≤ count - 1 :=
        required_le fun i p found omitted => shifted i p found (by omega)
      refine List.pairwise_cons.2 ⟨fun q member _ => ?_,
        ih needed fun i p found _ => shifted i p found (by omega)⟩
      obtain ⟨i, found⟩ := List.mem_iff_getElem?.1 member
      exact shifted i q found (by omega)
    · simp only [given, Bool.false_eq_true, if_false] at needed
      refine List.pairwise_cons.2 ⟨fun _ _ isGiven => absurd isGiven given, ?_⟩
      exact ih (by omega : _ = count - 1) fun i p found omitted => shifted i p found (by omega)

section

variable {call : Call} {function : String} {fresh i : Nat} {values arguments : List Value}
  {parameters : List Parameter} {p : Parameter} {before after : State}

theorem parameter_value_binding
    (converts : Signature.convert? fresh values (parameters.map Callable.argumentOf) =
      some arguments)
    (fits : values.length ≤ parameters.length) (found : parameters[i]? = some p) {value : Value}
    (gives : parameterValue call function p arguments[i]? before = .ok value after) :
    Binding call fresh values i p before value := by
  obtain ⟨length, each⟩ := convert_at converts (by simpa using fits)
  cases supplied : arguments[i]? with
  | some argument =>
    rw [supplied] at gives
    cases gives
    obtain ⟨given, there, coerced⟩ :=
      each i (Callable.argumentOf p) value (by simp [found]) supplied
    exact .argument there coerced
  | none =>
    rw [supplied] at gives
    have omitted : values.length ≤ i := length ▸ List.getElem?_eq_none_iff.1 supplied
    rcases default_value_gives gives with
      ⟨required, rfl⟩ | ⟨expression, result, middle, optional, evaluates, coerced⟩
    · exact .nothing omitted required
    · exact .default omitted optional evaluates coerced

theorem parameter_value_fails
    (converts : Signature.convert? fresh values (parameters.map Callable.argumentOf) =
      some arguments)
    (fits : values.length ≤ parameters.length) {halt : Halt}
    (fails : parameterValue call function p arguments[i]? before = .error halt after) :
    values.length ≤ i ∧ DefaultFails call p before halt after := by
  obtain ⟨length, _⟩ := convert_at converts (by simpa using fits)
  cases supplied : arguments[i]? with
  | some argument =>
    rw [supplied] at fails
    cases fails
  | none =>
    rw [supplied] at fails
    exact ⟨length ▸ List.getElem?_eq_none_iff.1 supplied, default_value_fails fails⟩

theorem binding_admits {value : Value} (binding : Binding call fresh values i p before value)
    (supplied : i < values.length ∨ p.default.isSome = true) : p.kind.Admits value := by
  cases binding with
  | argument _ converts | default _ _ _ converts => exact coerce_admits converts
  | nothing omitted required =>
    rw [required] at supplied
    rcases supplied with inside | given
    · omega
    · cases given

end

/-- In a call that is accepted every parameter, when its turn comes, takes the argument at its
position, converted to its kind, or its default, converted to its kind; and all parameters are bound
to that in the end. Binding halts only where a default does, or gives a value of another kind. So a
parameter with an argument or a default holds what its kind admits. One with neither holds
`invalid`: this does not happen if the parameters with a default come last, and for no other
functions is it excluded. -/
theorem parameters_bound_by_position (setting : Setting) {function : Function}
    (distinct : function.parameters.Pairwise fun p q => fold p.name ≠ fold q.name) {fresh : Nat}
    {values : List Value} {choice : Callable.Choice}
    (accepted : (Callable.user function).resolve fresh values = .ok choice) (s : State) :
    let bind := fun parameters =>
      bindParameters (callFunction setting) function.displayName parameters choice.arguments s
    choice.code = .user function ∧
    (match bind function.parameters with
      | .ok _ t => ∀ i p, function.parameters[i]? = some p → ∃ before value,
          bind (function.parameters.take i) = .ok () before ∧
          Binding (callFunction setting) fresh values i p before value ∧
          t.frame.locals.get? p.name = some value ∧
          (i < values.length ∨ p.default.isSome = true → p.kind.Admits value)
      | .error halt t => ∃ i p before, function.parameters[i]? = some p ∧ values.length ≤ i ∧
          bind (function.parameters.take i) = .ok () before ∧
          DefaultFails (callFunction setting) p before halt t) ∧
    ((∀ count, Signature.admits ⟨function.parameters.map Callable.argumentOf, function.returns⟩
        count = true →
        ∀ i p, function.parameters[i]? = some p → count ≤ i → p.default.isSome = true) ↔
      function.parameters.Pairwise fun p q => p.default.isSome = true →
        q.default.isSome = true) := by
  intro bind
  obtain ⟨code, admitted, converts⟩ := resolve_user_accepts accepted
  have fits : values.length ≤ function.parameters.length := by
    simpa using of_decide_eq_true (Bool.and_eq_true_iff.1 admitted).2
  refine ⟨code, ?_, ?_, ?_⟩
  · cases outcome : bind function.parameters with
    | ok _ t =>
      intro i p found
      obtain ⟨before, value, after, reached, gives, stored⟩ :=
        (bind_parameters_binds setting distinct outcome).2 i p found
      have binding := parameter_value_binding converts fits found gives
      exact ⟨before, value, reached, binding, stored, binding_admits binding⟩
    | error halt t =>
      obtain ⟨i, p, before, found, reached, fails⟩ := bind_parameters_fails outcome
      obtain ⟨omitted, fails⟩ := parameter_value_fails converts fits fails
      exact ⟨i, p, before, found, omitted, reached, fails⟩
  · intro supplied
    have least : Signature.admits ⟨function.parameters.map Callable.argumentOf, function.returns⟩
        (Signature.required ⟨function.parameters.map Callable.argumentOf,
          function.returns⟩) = true := by
      simpa [Signature.admits, Signature.required] using
        List.length_filter_le (fun argument => !argument.optional)
          (function.parameters.map Callable.argumentOf)
    exact optional_last rfl (supplied _ least)
  · intro optionalLast count admitted
    exact optional_behind optionalLast (of_decide_eq_true (Bool.and_eq_true_iff.1 admitted).1)

-- `function f(a as LongInteger, b = 7 as LongInteger)`, called with one Integer: `b` has a
-- LongInteger.
theorem default_of_parameter_converted :
    let place := Location.internal
    let a : Parameter := ⟨"a", .longInteger, none, place⟩
    let b : Parameter := ⟨"b", .longInteger, some (.literal (.integer 7) place), place⟩
    let f : Function := ⟨some "f", [a, b], .dynamic, ⟨[], place⟩, false, place⟩
    ∃ choice t value, (Callable.user f).resolve 0 [.integer 3] = .ok choice ∧
      bindParameters (callFunction ⟨{}, .empty⟩) f.displayName f.parameters choice.arguments
        (State.initial none) =
        .ok () t ∧
      t.frame.locals.get? "b" = some value ∧ b.kind.Admits value := by
  intro place a b f
  have distinct : f.parameters.Pairwise fun p q => fold p.name ≠ fold q.name := by
    simp only [f, a, b, List.pairwise_pair]
    decide
  have accepted : (Callable.user f).resolve 0 [.integer 3] =
      .ok ⟨0, .user f, [.scalar (.longInteger 3)]⟩ := rfl
  obtain ⟨t, binds⟩ : ∃ t, bindParameters (callFunction ⟨{}, .empty⟩) f.displayName f.parameters
      [.scalar (.longInteger 3)] (State.initial none) = .ok () t := ⟨_, rfl⟩
  have bound :=
    (parameters_bound_by_position ⟨{}, .empty⟩ distinct accepted (State.initial none)).2.1
  simp only [binds] at bound
  obtain ⟨_, value, _, _, stored, admitted⟩ := bound 1 b rfl
  exact ⟨_, t, value, accepted, binds, stored, admitted (.inr rfl)⟩

-- `function f(a = 1, b as Integer)`, called with one argument: `b` is left with `invalid`.
theorem required_parameter_left_out :
    let place := Location.internal
    let a : Parameter := ⟨"a", .dynamic, some (.literal (.integer 1) place), place⟩
    let b : Parameter := ⟨"b", .integer, none, place⟩
    let f : Function := ⟨some "f", [a, b], .dynamic, ⟨[], place⟩, false, place⟩
    (f.parameters.Pairwise fun p q => fold p.name ≠ fold q.name) ∧
    ∃ choice t, (Callable.user f).resolve 0 [.integer 5] = .ok choice ∧
      bindParameters (callFunction ⟨{}, .empty⟩) f.displayName f.parameters choice.arguments
        (State.initial none) =
        .ok () t ∧
      t.frame.locals.get? "b" = some .invalid ∧ ¬ b.kind.Admits .invalid := by
  intro place a b f
  refine ⟨?_, ⟨0, .user f, [.integer 5]⟩, _, rfl, rfl, ?_, ?_⟩
  · simp only [f, a, b, List.pairwise_pair]
    decide
  · exact (Table.get_insert _ "b" "b" _).trans (if_pos rfl)
  · simp only [Kind.Admits, b]
    decide

end BrightScript
