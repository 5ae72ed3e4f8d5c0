import BrightScript.Proofs.Conversion
set_option autoImplicit false

namespace BrightScript

namespace Signature

structure Takes (s : Signature) (values : List Value) : Prop where
  enough : s.required ≤ values.length
  room : values.length ≤ s.arguments.length
  each : ∀ (i : Nat) (value : Value) (argument : Argument), values[i]? = some value →
    s.arguments[i]? = some argument → (coerce? 0 value argument.kind).isSome = true

-- The arguments, each converted to the kind declared for its place. Boxes are marked by the place.
structure Converted (s : Signature) (fresh : Nat) (values converted : List Value) : Prop where
  length : converted.length = values.length
  each : ∀ (i : Nat) (value : Value) (argument : Argument), values[i]? = some value →
    s.arguments[i]? = some argument →
      ∃ made, converted[i]? = some made ∧ coerce? (fresh + i) value argument.kind = some made

variable {s : Signature} {fresh : Nat} {values others converted : List Value}
  {arguments : List Argument}

theorem coerce_isSome_eq (fresh later : Nat) (value : Value) (kind : Kind) :
    (coerce? fresh value kind).isSome = (coerce? later value kind).isSome := by
  rw [coerce_isSome, coerce_isSome]

theorem convert_isSome (fresh : Nat) (values : List Value) (arguments : List Argument) :
    (convert? fresh values arguments).isSome = true ↔
      ∀ (i : Nat) (value : Value) (argument : Argument), values[i]? = some value →
        arguments[i]? = some argument →
        (coerce? 0 value argument.kind).isSome = true := by
  induction values generalizing fresh arguments with
  | nil => cases arguments <;> simp [convert?]
  | cons value values ih =>
    cases arguments with
    | nil => simp [convert?]
    | cons argument arguments =>
      have later := ih (fresh + 1) arguments
      have both : (convert? fresh (value :: values) (argument :: arguments)).isSome =
          ((coerce? fresh value argument.kind).isSome &&
            (convert? (fresh + 1) values arguments).isSome) := by
        simp only [convert?]
        cases coerce? fresh value argument.kind <;>
          cases convert? (fresh + 1) values arguments <;> rfl
      rw [both, Bool.and_eq_true, later, coerce_isSome_eq fresh 0]
      constructor
      · rintro ⟨first, rest⟩ i given declared there stands
        cases i with
        | zero =>
          cases there
          cases stands
          exact first
        | succ i => exact rest i given declared there stands
      · exact fun each => ⟨each 0 value argument rfl rfl, fun i => each (i + 1)⟩

theorem admits_iff (count : Nat) :
    s.admits count = true ↔ s.required ≤ count ∧ count ≤ s.arguments.length := by
  simp [admits]

theorem accepts_isSome (s : Signature) (fresh : Nat) (values : List Value) :
    (s.accepts? fresh values).isSome = true ↔ s.Takes values := by
  unfold accepts?
  by_cases admitted : s.admits values.length = true
  · obtain ⟨enough, room⟩ := (admits_iff _).1 admitted
    rw [if_pos admitted, convert_isSome]
    exact ⟨fun each => ⟨enough, room, each⟩, Takes.each⟩
  · rw [if_neg admitted]
    refine ⟨fun none => (nomatch none), fun takes => ?_⟩
    exact absurd ((admits_iff _).2 ⟨takes.enough, takes.room⟩) admitted

theorem accepts_none (s : Signature) (fresh : Nat) (values : List Value) :
    s.accepts? fresh values = none ↔ ¬ s.Takes values := by
  rw [← accepts_isSome s fresh values, Bool.not_eq_true, Option.isSome_eq_false_iff,
    Option.isNone_iff_eq_none]

theorem accepts_converted (accepts : s.accepts? fresh values = some converted) :
    s.Converted fresh values converted := by
  have takes : s.Takes values := (accepts_isSome s fresh values).1 (by rw [accepts]; rfl)
  rw [accepts?, if_pos ((admits_iff _).2 ⟨takes.enough, takes.room⟩)] at accepts
  obtain ⟨length, each⟩ := convert_at accepts takes.room
  refine ⟨length, fun i value argument there stands => ?_⟩
  have inside : i < converted.length := length ▸ (List.getElem?_eq_some_iff.1 there).1
  obtain ⟨given, again, coerced⟩ :=
    each i argument converted[i] stands (List.getElem?_eq_getElem inside)
  rw [there] at again
  cases again
  exact ⟨converted[i], List.getElem?_eq_getElem inside, coerced⟩

theorem Takes.of_shapes (same : values.map Value.shape = others.map Value.shape)
    (takes : s.Takes values) : s.Takes others := by
  have length : values.length = others.length := by simpa using congrArg List.length same
  refine ⟨length ▸ takes.enough, length ▸ takes.room, fun i other argument there stands => ?_⟩
  have inside : i < values.length := length ▸ (List.getElem?_eq_some_iff.1 there).1
  have given : values[i]? = some values[i] := List.getElem?_eq_getElem inside
  have shapes : values[i].shape = other.shape := by
    have placed := congrArg (fun shapes : List Shape => shapes[i]?) same
    simpa [given, there] using placed
  have converts := takes.each i values[i] argument given stands
  rwa [coerce_isSome, shapes, ← coerce_isSome 0] at converts

end Signature

namespace Callable

variable {fresh : Nat} {values : List Value}

structure FirstTaking (c : Callable) (values : List Value) (place : Nat) : Prop where
  takes : ∃ overload, c.overloads[place]? = some overload ∧ overload.signature.Takes values
  first : ∀ i < place, ∀ overload, c.overloads[i]? = some overload →
    ¬ overload.signature.Takes values

theorem FirstTaking.unique {c : Callable} {i j : Nat} (one : c.FirstTaking values i)
    (other : c.FirstTaking values j) : i = j := by
  obtain ⟨overload, found, takes⟩ := one.takes
  obtain ⟨overload', found', takes'⟩ := other.takes
  rcases Nat.lt_trichotomy i j with less | same | more
  · exact absurd takes (other.first i less overload found)
  · exact same
  · exact absurd takes' (one.first j more overload' found')

theorem FirstTaking.of_shapes {c : Callable} {others : List Value} {place : Nat}
    (same : values.map Value.shape = others.map Value.shape) (first : c.FirstTaking values place) :
    c.FirstTaking others place := by
  obtain ⟨overload, found, takes⟩ := first.takes
  exact ⟨⟨overload, found, takes.of_shapes same⟩, fun i below other there takes =>
    first.first i below other there (takes.of_shapes same.symm)⟩

theorem choose_some {index : Nat} {overloads : List Overload} {choice : Choice}
    (chosen : choose? fresh values index overloads = some choice) :
    ∃ n overload, choice.index = index + n ∧ overloads[n]? = some overload ∧
      choice.code = overload.code ∧
      overload.signature.accepts? fresh values = some choice.arguments ∧
      ∀ i < n, ∀ other, overloads[i]? = some other →
        other.signature.accepts? fresh values = none := by
  induction overloads generalizing index with
  | nil => cases chosen
  | cons overload rest ih =>
    unfold choose? at chosen
    split at chosen
    · rename_i arguments accepts
      cases chosen
      exact ⟨0, overload, rfl, rfl, rfl, accepts, fun i below => absurd below (Nat.not_lt_zero i)⟩
    · rename_i refused
      obtain ⟨n, found, place, there, code, accepts, before⟩ := ih chosen
      refine ⟨n + 1, found, by omega, there, code, accepts, fun i below other stands => ?_⟩
      cases i with
      | zero =>
        cases stands
        exact refused
      | succ i => exact before i (by omega) other stands

theorem choose_none {index : Nat} {overloads : List Overload} :
    choose? fresh values index overloads = none ↔
      ∀ overload ∈ overloads, overload.signature.accepts? fresh values = none := by
  induction overloads generalizing index with
  | nil => simp [choose?]
  | cons overload rest ih =>
    cases accepts : overload.signature.accepts? fresh values with
    | none => simp [choose?, accepts, ih]
    | some arguments => simp [choose?, accepts]

theorem resolve_chosen {c : Callable} {choice : Choice}
    (resolves : c.resolve fresh values = .ok choice) : c.FirstTaking values choice.index ∧
      ∃ overload, c.overloads[choice.index]? = some overload ∧ choice.code = overload.code ∧
        overload.signature.Takes values ∧
          overload.signature.Converted fresh values choice.arguments := by
  unfold resolve at resolves
  split at resolves
  · rename_i found chosen
    cases resolves
    obtain ⟨n, overload, place, there, code, accepts, before⟩ := choose_some chosen
    obtain rfl : choice.index = n := by omega
    have takes : overload.signature.Takes values :=
      (Signature.accepts_isSome _ fresh values).1 (by rw [accepts]; rfl)
    refine ⟨⟨⟨overload, there, takes⟩, fun i below other stands => ?_⟩, overload, there, code,
      takes, Signature.accepts_converted accepts⟩
    exact (Signature.accepts_none _ fresh values).1 (before i below other stands)
  · cases resolves

theorem resolve_error {c : Callable} {fault : Fault} :
    c.resolve fresh values = .error fault ↔
      (∀ overload ∈ c.overloads, ¬ overload.signature.Takes values) ∧
        fault = .argumentMismatch c.displayName (c.misfit values) := by
  have refused : choose? fresh values 0 c.overloads = none ↔
      ∀ overload ∈ c.overloads, ¬ overload.signature.Takes values := by
    simp only [choose_none, Signature.accepts_none]
  unfold resolve
  rw [← refused]
  cases choose? fresh values 0 c.overloads with
  | none => simp [eq_comm]
  | some choice => simp

theorem resolve_index {c : Callable} {place : Nat} :
    (∃ choice, c.resolve fresh values = .ok choice ∧ choice.index = place) ↔
      c.FirstTaking values place := by
  constructor
  · rintro ⟨choice, resolves, rfl⟩
    exact (resolve_chosen resolves).1
  · intro first
    cases resolves : c.resolve fresh values with
    | ok choice => exact ⟨choice, rfl, (resolve_chosen resolves).1.unique first⟩
    | error fault =>
      obtain ⟨overload, found, takes⟩ := first.takes
      exact absurd takes ((resolve_error.1 resolves).1 overload (List.mem_of_getElem? found))

def chosenPlace (c : Callable) (fresh : Nat) (values : List Value) : Option Nat :=
  (c.resolve fresh values).toOption.map Choice.index

theorem chosen_place_iff {c : Callable} {place : Nat} :
    c.chosenPlace fresh values = some place ↔ c.FirstTaking values place := by
  have picks : (∃ choice, c.resolve fresh values = .ok choice ∧ choice.index = place) ↔
      _ := resolve_index
  rw [← picks, chosenPlace]
  cases c.resolve fresh values <;> simp [Except.toOption]

theorem chosen_place_shapes (c : Callable) {others : List Value} (fresh later : Nat)
    (same : values.map Value.shape = others.map Value.shape) :
    c.chosenPlace fresh values = c.chosenPlace later others := by
  refine Option.ext fun place => ?_
  rw [chosen_place_iff, chosen_place_iff]
  exact ⟨.of_shapes same, .of_shapes same.symm⟩

end Callable

end BrightScript
