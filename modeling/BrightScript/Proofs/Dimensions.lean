import BrightScript.Proofs.Grids
set_option autoImplicit false

namespace BrightScript

section Sizes

theorem dimension_length_eq (size : Int64) :
    (dimensionLength size : Int) = max 0 (min (size.toInt + 1) (2 ^ 63 - 1)) := by
  have greatest : Int64.maxValue.toInt = 2 ^ 63 - 1 := by decide
  unfold dimensionLength
  rw [greatest]
  omega

def Oversized (total : Nat) (sizes : List Int64) (j : Nat) : Prop :=
  ∃ size, sizes[j]? = some size ∧
    (2 ^ 20 < dimensionLength size ∨
      2 ^ 20 < total * ((sizes.take (j + 1)).map dimensionLength).prod)

theorem oversized_cons (total : Nat) (size : Int64) (rest : List Int64) (j : Nat) :
    Oversized total (size :: rest) (j + 1) ↔ Oversized (total * dimensionLength size) rest j := by
  simp only [Oversized, List.getElem?_cons_succ, List.take_succ_cons, List.map_cons, List.prod_cons,
    Nat.mul_assoc]

theorem dimension_lengths_spec (total : Nat) (sizes : List Int64) :
    match dimensionLengths total sizes with
    | .ok lengths => lengths = sizes.map dimensionLength ∧ ∀ j, ¬ Oversized total sizes j
    | .error fault => ∃ j size, sizes[j]? = some size ∧ fault = .indexOutOfRange size ∧
        Oversized total sizes j ∧
        ∀ i < j, ¬ Oversized total sizes i := by
  induction sizes generalizing total with
  | nil => exact ⟨rfl, fun j ⟨size, found, _⟩ => nomatch found⟩
  | cons size rest ih =>
    have here : Oversized total (size :: rest) 0 ↔
        maxArrayLength < dimensionLength size ∨ maxArrayLength < total * dimensionLength size := by
      have limit : maxArrayLength = 2 ^ 20 := by decide
      simp [Oversized, limit]
    have later := ih (total * dimensionLength size)
    simp only [dimensionLengths]
    by_cases exceeds : maxArrayLength < dimensionLength size ∨
      maxArrayLength < total * dimensionLength size
    · rw [if_pos exceeds]
      exact ⟨0, size, rfl, rfl, here.2 exceeds, fun i below => absurd below (Nat.not_lt_zero i)⟩
    · rw [if_neg exceeds]
      have first : ¬ Oversized total (size :: rest) 0 := fun is => exceeds (here.1 is)
      cases outcome : dimensionLengths (total * dimensionLength size) rest with
      | ok lengths =>
        rw [outcome] at later
        refine ⟨congrArg _ later.1, fun j => ?_⟩
        cases j with
        | zero => exact first
        | succ j => exact fun is => later.2 j ((oversized_cons _ _ _ j).1 is)
      | error fault =>
        rw [outcome] at later
        obtain ⟨j, found, there, same, is, before⟩ := later
        refine ⟨j + 1, found, there, same, (oversized_cons _ _ _ j).2 is, fun i below => ?_⟩
        cases i with
        | zero => exact first
        | succ i => exact fun again => before i (by omega) ((oversized_cons _ _ _ i).1 again)

end Sizes

section Dimensions

-- A grid of the lengths given, made of arrays that were not in `old`, with `invalid` in every cell.
-- No array of it stands in two places, and whatever is stored in its cells, each of them reads as
-- what was stored there last.
structure Independent (old heap : Heap) (lengths : List Nat) (grid : Value) : Prop where
  rows : ∀ path, path.length < lengths.length → WithinLengths path (lengths.take path.length) →
    ∃ ref, heap.at? grid path = some (.array ref) ∧
      lengths[path.length]? = some (heap.array ref).size ∧
      old.arrays.size ≤ ref
  cells : ∀ places, WithinLengths places lengths → heap.at? grid places = some .invalid
  distinct : ∀ path other ref, path.length < lengths.length → other.length < lengths.length →
    heap.at? grid path = some (.array ref) → heap.at? grid other = some (.array ref) → path = other
  stores : ∀ writes,
    (∀ write ∈ writes, ∃ places, places? write.1 = some places ∧ WithinLengths places lengths) →
    ∃ later, writeCells grid writes heap = .ok () later ∧
      ∀ indices places, places? indices = some places → WithinLengths places lengths →
        readCell grid indices later = .ok (held writes places .invalid) later

theorem new_grid_independent (h : Heap) {lengths : List Nat} (dimensioned : lengths ≠ []) :
    Independent h (h.newGrid lengths).2 lengths (h.newGrid lengths).1 := by
  have laid := new_grid_laid lengths h
  have cells (places : List Nat) (inRange : WithinLengths places lengths) :
      (h.newGrid lengths).2.at? (h.newGrid lengths).1 places = some .invalid := by
    obtain ⟨value, there, rfl⟩ := laid.cells inRange
    exact there
  refine ⟨fun path short inRange => ?_, cells, fun path other ref => laid.distinct,
    fun writes addressed => ?_⟩
  · obtain ⟨ref, reached, long⟩ := laid.shape inRange short
    exact ⟨ref, reached, long, (laid.reached_between short reached).1⟩
  · obtain ⟨later, ran, holds⟩ :=
      cells_written dimensioned writes addressed (laid.imp fun _ _ => trivial)
    exact ⟨later, ran, fun indices places found inRange =>
      read_cell_at found (holds places .invalid inRange (cells places inRange))⟩

variable {call : Call} {name : String} {dimensions : List Expr} {location : Location} {s u : State}
  {sizes : List Int64}

theorem dim_refused {fault : Fault} (evaluated : evaluateSizes call dimensions s = .ok sizes u)
    (refused : dimensionLengths 1 sizes = .error fault) :
    executeDim call name dimensions location s = .error (.error ⟨fault, location⟩) u := by
  unfold executeDim
  rw [bind_ran evaluated, refused]
  rfl

theorem dim_assigns {lengths : List Nat} (evaluated : evaluateSizes call dimensions s = .ok sizes u)
    (fits : dimensionLengths 1 sizes = .ok lengths) :
    executeDim call name dimensions location s =
      Exec.assign name (u.heap.newGrid lengths).1 location
        { u with heap := (u.heap.newGrid lengths).2 } := by
  unfold executeDim
  rw [bind_ran evaluated, fits]
  rfl

theorem new_grid_array (h : Heap) {lengths : List Nat} (dimensioned : lengths ≠ []) :
    ∃ ref, (h.newGrid lengths).1 = .array ref := by
  cases lengths with
  | nil => exact absurd rfl dimensioned
  | cons length rest => exact ⟨_, rfl⟩

theorem assign_array_refused {kind : Kind} (designated : Kind.ofDesignator? name = some kind)
    (ref : Nat) (t : State) : ∃ later, Exec.assign name (.array ref) location t =
      .error (.error ⟨.assignmentMismatch name .object, location⟩) later := by
  have refused (fresh : Nat) : coerce? fresh (.array ref) kind = none := by
    obtain ⟨mark, _, marked⟩ := Option.bind_eq_some_iff.1 designated
    unfold Kind.ofMark? at marked
    split at marked <;> cases marked <;> rfl
  refine ⟨{ t with heap := { t.heap with boxes := t.heap.boxes + 1 } }, ?_⟩
  simp only [Exec.assign, designated]
  have converted : Exec.convert? (.array ref) kind t =
      .ok none { t with heap := { t.heap with boxes := t.heap.boxes + 1 } } := by
    simp only [Exec.convert?, Exec.allocate, refused]
  rw [bind_ran converted]
  rfl

theorem assign_plain (plain : Kind.ofDesignator? name = none) (value : Value) (t : State) :
    Exec.assign name value location t = .ok () (t.define .function name value) := by
  simp only [Exec.assign, plain]
  rfl

/-- A grid is refused at the first size whose length, or whose product with those before it, is
above 2 ^ 20. Otherwise a name without a designator is bound to a grid of new arrays, each in one
place only, with `invalid` in all cells, and stores to its cells do not meet. A name with a
designator is refused the grid, and nothing is changed. -/
theorem dim_lays_independent_grid (location : Location) (name : String)
    (evaluated : evaluateSizes call dimensions s = .ok sizes u) (dimensioned : sizes ≠ []) :
    (∀ size ∈ sizes, (dimensionLength size : Int) = max 0 (min (size.toInt + 1) (2 ^ 63 - 1))) ∧
    (∀ j size, sizes[j]? = some size → Oversized 1 sizes j → (∀ i < j, ¬ Oversized 1 sizes i) →
      executeDim call name dimensions location s =
        .error (.error ⟨.indexOutOfRange size, location⟩) u) ∧
    ((∀ j, ¬ Oversized 1 sizes j) →
      (Kind.ofDesignator? name = none →
        ∃ grid heap, executeDim call name dimensions location s =
          .ok () ({ u with heap }.define .function name grid) ∧
          u.heap.Untouched heap ∧ Independent u.heap heap (sizes.map dimensionLength) grid) ∧
      (Kind.ofDesignator? name ≠ none →
        ∃ t, executeDim call name dimensions location s =
            .error (.error ⟨.assignmentMismatch name .object, location⟩) t ∧ u.Untouched t)) := by
  have spec := dimension_lengths_spec 1 sizes
  refine ⟨fun size _ => dimension_length_eq size, fun j size there exceeds before => ?_,
    fun fits => ?_⟩
  · cases outcome : dimensionLengths 1 sizes with
    | ok lengths =>
      rw [outcome] at spec
      exact absurd exceeds (spec.2 j)
    | error fault =>
      rw [outcome] at spec
      obtain ⟨k, found, thereToo, same, exceedsToo, beforeToo⟩ := spec
      obtain rfl : j = k := by
        rcases Nat.lt_trichotomy j k with less | equal | more
        · exact absurd exceeds (beforeToo j less)
        · exact equal
        · exact absurd exceedsToo (before k more)
      rw [there] at thereToo
      cases thereToo
      rw [dim_refused evaluated outcome, same]
  · cases outcome : dimensionLengths 1 sizes with
    | error fault =>
      rw [outcome] at spec
      obtain ⟨k, _, _, _, exceeds, _⟩ := spec
      exact absurd exceeds (fits k)
    | ok lengths =>
      rw [outcome] at spec
      obtain rfl := spec.1
      have some_length : sizes.map dimensionLength ≠ [] :=
        fun none => dimensioned (List.map_eq_nil_iff.1 none)
      rw [dim_assigns evaluated outcome]
      refine ⟨fun plain => ?_, fun designated => ?_⟩
      · exact ⟨_, _, assign_plain plain _ _, u.heap.untouched_new_grid _,
          new_grid_independent u.heap some_length⟩
      · obtain ⟨kind, designated⟩ := Option.ne_none_iff_exists'.1 designated
        obtain ⟨ref, made⟩ := new_grid_array u.heap some_length
        rw [made]
        obtain ⟨t, refused⟩ :=
          assign_array_refused designated ref { u with heap := (u.heap.newGrid _).2 }
        exact ⟨t, refused, (u.untouched_heap (u.heap.untouched_new_grid _)).trans
          (assign_spares _ _ _ _ _ _ refused)⟩

theorem three_by_two_grid :
    ∃ grid heap, executeDim (callFunction ⟨{}, .empty⟩) "cells"
        [.literal (.integer 2) .internal, .literal (.integer 1) .internal] .internal
          (.initial none) =
          .ok () ({ State.initial none with heap }.define .function "cells" grid) ∧
      Independent (State.initial none).heap heap [3, 2] grid := by
  have fits : ∀ j, ¬ Oversized 1 [2, 1] j := (dimension_lengths_spec 1 [2, 1]).2
  obtain ⟨grid, heap, ran, _, independent⟩ :=
    ((dim_lays_independent_grid .internal "cells" (show evaluateSizes (callFunction ⟨{}, .empty⟩)
      [.literal (.integer 2) .internal, .literal (.integer 1) .internal] (.initial none) =
        .ok [2, 1] _ from rfl)
      (by decide)).2.2 fits).1 (by decide)
  exact ⟨grid, heap, ran, independent⟩

theorem designated_grid_refused :
    let outcome :=
      executeDim (callFunction ⟨{}, .empty⟩) "a$" [.literal (.integer 2) .internal] .internal
        (.initial none)
    (∀ j, ¬ Oversized 1 [2] j) ∧ (∀ t, outcome ≠ .ok () t) ∧
      ∃ t, outcome = .error (.error ⟨.assignmentMismatch "a$" .object, .internal⟩) t := by
  intro outcome
  have evaluated : evaluateSizes (callFunction ⟨{}, .empty⟩) [.literal (.integer 2) .internal]
      (.initial none) =
      .ok [2] (.initial none) := rfl
  have fits : dimensionLengths 1 [2] = .ok [3] := rfl
  have designated : Kind.ofDesignator? "a$" = some .string := by decide
  have refused : ∃ t, outcome = .error
      (.error ⟨.assignmentMismatch "a$" .object, .internal⟩) t := by
    unfold outcome
    rw [dim_assigns evaluated fits]
    exact assign_array_refused designated _ _
  refine ⟨(dimension_lengths_spec 1 [2]).2, fun t bound => ?_, refused⟩
  obtain ⟨other, failed⟩ := refused
  cases bound.symm.trans failed

end Dimensions

end BrightScript
