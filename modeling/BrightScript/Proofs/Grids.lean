import Mathlib.Data.List.Forall2
import BrightScript.Proofs.Contents
import BrightScript.Proofs.Stores
set_option autoImplicit false

namespace BrightScript

section Cells

def Value.place? (index : Value) : Option Nat :=
  index.toInt64?.bind arrayPlace?

def places? : List Value → Option (List Nat)
  | [] => some []
  | index :: rest =>
    match index.place?, places? rest with
    | some place, some later => some (place :: later)
    | _, _ => none

def readCell : Value → List Value → Access Value
  | value, [] => pure value
  | value, index :: rest => do
    let inner ← value.getIndex index
    readCell inner rest

def writeCell (value : Value) : Value → List Value → Access Unit
  | _, [] => pure ()
  | target, [index] => target.setIndex index value
  | target, index :: rest => do
    let inner ← target.getIndex index
    writeCell value inner rest

def writeCells (grid : Value) : List (List Value × Value) → Access Unit
  | [] => pure ()
  | (indices, value) :: rest => do
    writeCell value grid indices
    writeCells grid rest

def Heap.at? (h : Heap) : Value → List Nat → Option Value
  | value, [] => some value
  | .object (.array ref), place :: rest => (h.array ref)[place]?.bind fun inner => h.at? inner rest
  | _, _ :: _ => none

abbrev WithinLengths : List Nat → List Nat → Prop :=
  List.Forall₂ (· < ·)

theorem places_cons {index : Value} {rest : List Value} {places : List Nat}
    (found : places? (index :: rest) = some places) :
    ∃ place later, places = place :: later ∧ index.place? = some place ∧
      places? rest = some later := by
  unfold places? at found
  split at found
  · cases found
    exact ⟨_, _, rfl, ‹_›, ‹_›⟩
  · cases found

theorem place_number {index : Value} {place : Nat} (found : index.place? = some place) :
    ∃ i, index.toInt64? = some i ∧ arrayPlace? i = some place ∧ 0 ≤ i.toInt ∧
      i.toInt.toNat = place := by
  obtain ⟨i, number, stands⟩ := Option.bind_eq_some_iff.1 found
  refine ⟨i, number, stands, ?_⟩
  unfold arrayPlace? at stands
  split at stands
  · rename_i bounds
    exact ⟨bounds.1, Option.some.inj stands⟩
  · cases stands

variable {h : Heap}

theorem get_index_place {index inner : Value} {ref place : Nat} (found : index.place? = some place)
    (there : (h.array ref)[place]? = some inner) :
    (Value.array ref).getIndex index h = .ok inner h := by
  obtain ⟨i, number, _, positive, rfl⟩ := place_number found
  have read : arrayGet (h.array ref) i = inner := by
    unfold arrayGet
    rw [if_neg (Int.not_lt.2 positive), there]
    rfl
  change (Object.array ref).getIndex index h = _
  simp only [Object.getIndex, number]
  rw [← read]
  rfl

theorem set_index_place {index value : Value} {ref place : Nat}
    (found : index.place? = some place) :
    (Value.array ref).setIndex index value h =
      .ok () (h.modifyArray ref (arraySet · place value)) := by
  obtain ⟨i, number, stands, _, _⟩ := place_number found
  change (Object.array ref).setIndex index value h = _
  rw [set_element_eq, number]
  dsimp only
  rw [stands]

theorem at_array {ref place : Nat} {rest : List Nat} {value : Value}
    (found : h.at? (.array ref) (place :: rest) = some value) :
    ∃ inner, (h.array ref)[place]? = some inner ∧ h.at? inner rest = some value :=
  Option.bind_eq_some_iff.1 found

theorem read_cell_at {indices : List Value} {places : List Nat} {value found : Value}
    (addressed : places? indices = some places) (there : h.at? value places = some found) :
    readCell value indices h = .ok found h := by
  induction indices generalizing places value with
  | nil =>
    cases addressed
    cases there
    rfl
  | cons index rest ih =>
    obtain ⟨place, later, rfl, first, others⟩ := places_cons addressed
    cases value with
    | object o =>
      cases o with
      | array ref =>
        obtain ⟨inner, element, behind⟩ := at_array there
        exact (bind_ran (get_index_place first element)).trans (ih others behind)
      | table | box | component => cases there
    | scalar | uninitialized | function | interface => cases there

end Cells

section Grids

-- Nested arrays of the lengths given, with a value in each cell that is fit for one. The arrays
-- stand at the places from `first` up to `last`, those of a row's elements one after another and
-- the row itself behind them.
inductive Grid (h : Heap) (leaf : Value → Prop) : List Nat → Value → Nat → Nat → Prop
  | cell {value : Value} (place : Nat) : leaf value → Grid h leaf [] value place place
  | row {length : Nat} {rest : List Nat} {ref : Nat} (bound : Nat → Nat) :
    ref < h.arrays.size → (h.array ref).size = length → bound length = ref →
    (∀ i value, (h.array ref)[i]? = some value → Grid h leaf rest value (bound i) (bound (i + 1))) →
      Grid h leaf (length :: rest) (.array ref) (bound 0) (ref + 1)

variable {h later : Heap} {leaf : Value → Prop} {lengths : List Nat} {grid : Value}
  {first last : Nat}

theorem bound_mono {bound : Nat → Nat} {length : Nat}
    (each : ∀ i < length, bound i ≤ bound (i + 1)) {i j : Nat} (below : i ≤ j)
    (inside : j ≤ length) : bound i ≤ bound j := by
  obtain ⟨more, rfl⟩ := Nat.exists_eq_add_of_le below
  induction more with
  | zero => exact Nat.le_refl _
  | succ more ih => exact Nat.le_trans (ih (by omega) (by omega)) (each (i + more) (by omega))

namespace Grid

theorem imp {fit : Value → Prop} (implies : ∀ value, leaf value → fit value)
    (laid : Grid h leaf lengths grid first last) : Grid h fit lengths grid first last := by
  induction laid with
  | cell place holds => exact .cell place (implies _ holds)
  | row bound present size ends _ ih => exact .row bound present size ends ih

theorem ordered (laid : Grid h leaf lengths grid first last) : first ≤ last := by
  induction laid with
  | cell place _ => exact Nat.le_refl _
  | @row length rest ref bound _ size ends _ ih =>
    have each : ∀ i < length, bound i ≤ bound (i + 1) := fun i inside =>
      ih i _ (Array.getElem?_eq_getElem (size ▸ inside))
    have climbs := bound_mono each (Nat.zero_le length) (Nat.le_refl length)
    omega

theorem cell_width (laid : Grid h leaf [] grid first last) : first = last := by
  cases laid
  rfl

section Rows

variable {length ref : Nat} {rest : List Nat} {bound : Nat → Nat}
  (size : (h.array ref).size = length)
  (elements : ∀ i value, (h.array ref)[i]? = some value →
    Grid h leaf rest value (bound i) (bound (i + 1)))
include size elements

theorem row_bounds {i j : Nat} (below : i ≤ j) (inside : j ≤ length) : bound i ≤ bound j :=
  bound_mono (fun i inside => (elements i _ (Array.getElem?_eq_getElem (size ▸ inside))).ordered)
    below inside

theorem element_bounds {i : Nat} (inside : i < length) :
    bound 0 ≤ bound i ∧ bound (i + 1) ≤ bound length :=
  ⟨row_bounds size elements (Nat.zero_le i) (Nat.le_of_lt inside),
    row_bounds size elements inside (Nat.le_refl length)⟩

theorem apart {i j place : Nat} (inside : i < length) (insideToo : j < length)
    (one : bound i ≤ place ∧ place < bound (i + 1))
    (other : bound j ≤ place ∧ place < bound (j + 1)) : i = j := by
  rcases Nat.lt_trichotomy i j with less | same | more
  · have climbs := row_bounds size elements (show i + 1 ≤ j from less) (Nat.le_of_lt insideToo)
    omega
  · exact same
  · have climbs := row_bounds size elements (show j + 1 ≤ i from more) (Nat.le_of_lt inside)
    omega

end Rows

theorem element_inside {length ref i : Nat} {value : Value} (size : (h.array ref).size = length)
    (there : (h.array ref)[i]? = some value) : i < length :=
  size ▸ (Array.getElem?_eq_some_iff.1 there).1

theorem reached_between (laid : Grid h leaf lengths grid first last) {path : List Nat} {ref : Nat}
    (short : path.length < lengths.length) (reached : h.at? grid path = some (.array ref)) :
    first ≤ ref ∧ ref < last := by
  induction laid generalizing path with
  | cell place _ => exact absurd short (Nat.not_lt_zero _)
  | @row length rest own bound _ size ends elements ih =>
    cases path with
    | nil =>
      cases reached
      have climbs := row_bounds size elements (Nat.zero_le length) (Nat.le_refl length)
      omega
    | cons i path =>
      obtain ⟨inner, there, behind⟩ := at_array reached
      have inside := element_inside size there
      have between := ih i inner there (Nat.lt_of_succ_lt_succ short) behind
      obtain ⟨low, high⟩ := element_bounds size elements inside
      omega

theorem distinct (laid : Grid h leaf lengths grid first last) {path other : List Nat} {ref : Nat}
    (short : path.length < lengths.length) (shortToo : other.length < lengths.length)
    (reached : h.at? grid path = some (.array ref))
    (reachedToo : h.at? grid other = some (.array ref)) : path = other := by
  induction laid generalizing path other with
  | cell place _ => exact absurd short (Nat.not_lt_zero _)
  | @row length rest own bound _ size ends elements ih =>
    -- What lies behind an element stands before the row itself.
    have below {i : Nat} {behind : List Nat} (behindShort : behind.length < rest.length)
        (reached : h.at? (.array own) (i :: behind) = some (.array ref)) :
        i < length ∧ bound i ≤ ref ∧ ref < bound (i + 1) ∧ ref < own := by
      obtain ⟨inner, there, onward⟩ := at_array reached
      have inside := element_inside size there
      have between := (elements i inner there).reached_between behindShort onward
      have high := row_bounds size elements (show i + 1 ≤ length from inside) (Nat.le_refl length)
      exact ⟨inside, between.1, between.2, by omega⟩
    cases path with
    | nil =>
      cases reached
      cases other with
      | nil => rfl
      | cons j other =>
        have := below (Nat.lt_of_succ_lt_succ shortToo) reachedToo
        omega
    | cons i path =>
      have one := below (Nat.lt_of_succ_lt_succ short) reached
      cases other with
      | nil =>
        cases reachedToo
        omega
      | cons j other =>
        have two := below (Nat.lt_of_succ_lt_succ shortToo) reachedToo
        obtain rfl := apart size elements one.1 two.1 ⟨one.2.1, one.2.2.1⟩ ⟨two.2.1, two.2.2.1⟩
        obtain ⟨inner, there, onward⟩ := at_array reached
        obtain ⟨again, thereToo, onwardToo⟩ := at_array reachedToo
        rw [there] at thereToo
        cases thereToo
        rw [ih i inner there (Nat.lt_of_succ_lt_succ short)
          (Nat.lt_of_succ_lt_succ shortToo) onward onwardToo]

theorem shape (laid : Grid h leaf lengths grid first last) {path : List Nat}
    (inRange : WithinLengths path (lengths.take path.length))
    (short : path.length < lengths.length) :
    ∃ ref, h.at? grid path = some (.array ref) ∧
      lengths[path.length]? = some (h.array ref).size := by
  induction laid generalizing path with
  | cell place _ => exact absurd short (Nat.not_lt_zero _)
  | @row length rest own bound _ size ends elements ih =>
    cases path with
    | nil => exact ⟨own, rfl, by rw [size]; rfl⟩
    | cons i path =>
      obtain ⟨inside, others⟩ := List.forall₂_cons.1 inRange
      have there : (h.array own)[i]? = some (h.array own)[i] :=
        Array.getElem?_eq_getElem (size ▸ inside)
      obtain ⟨ref, reached, long⟩ := ih i _ there others (Nat.lt_of_succ_lt_succ short)
      exact ⟨ref, Option.bind_eq_some_iff.2 ⟨_, there, reached⟩, long⟩

theorem cells (laid : Grid h leaf lengths grid first last) {places : List Nat}
    (inRange : WithinLengths places lengths) :
    ∃ value, h.at? grid places = some value ∧ leaf value := by
  induction laid generalizing places with
  | cell place fit =>
    cases inRange
    exact ⟨_, rfl, fit⟩
  | @row length rest own bound _ size ends elements ih =>
    cases inRange with
    | @cons i _ others _ inside inRange =>
      have there : (h.array own)[i]? = some (h.array own)[i] :=
        Array.getElem?_eq_getElem (size ▸ inside)
      obtain ⟨value, reached, fit⟩ := ih i _ there inRange
      exact ⟨value, Option.bind_eq_some_iff.2 ⟨_, there, reached⟩, fit⟩

theorem frame (laid : Grid h leaf lengths grid first last)
    (remain : h.arrays.size ≤ later.arrays.size)
    (same : ∀ ref, first ≤ ref → ref < last → later.array ref = h.array ref) :
    Grid later leaf lengths grid first last := by
  induction laid with
  | cell place fit => exact .cell place fit
  | @row length rest own bound present size ends elements ih =>
    have climbs := row_bounds size elements (Nat.zero_le length) (Nat.le_refl length)
    have own_same : later.array own = h.array own := same own (by omega) (by omega)
    refine .row bound (Nat.lt_of_lt_of_le present remain) (own_same ▸ size) ends
      fun i value there => ?_
    rw [own_same] at there
    have inside := element_inside size there
    obtain ⟨low, high⟩ := element_bounds size elements inside
    exact ih i value there fun ref above below => same ref (by omega) (by omega)

theorem at_frame (laid : Grid h leaf lengths grid first last)
    (same : ∀ ref, first ≤ ref → ref < last → later.array ref = h.array ref) {places : List Nat}
    (inRange : WithinLengths places lengths) : later.at? grid places = h.at? grid places := by
  induction laid generalizing places with
  | cell place fit =>
    cases inRange
    rfl
  | @row length rest own bound present size ends elements ih =>
    cases inRange with
    | @cons i _ others _ inside inRange =>
      have climbs := row_bounds size elements (Nat.zero_le length) (Nat.le_refl length)
      have own_same : later.array own = h.array own := same own (by omega) (by omega)
      have there : (h.array own)[i]? = some (h.array own)[i] :=
        Array.getElem?_eq_getElem (size ▸ inside)
      obtain ⟨low, high⟩ := element_bounds size elements inside
      have onward := ih i _ there (fun ref above below => same ref (by omega) (by omega)) inRange
      change (later.array own)[i]?.bind _ = (h.array own)[i]?.bind _
      rw [own_same, there]
      exact onward

end Grid

end Grids

section Making

variable {h : Heap}

theorem Heap.Untouched.array {later : Heap} (untouched : h.Untouched later) {ref : Nat}
    (present : ref < h.arrays.size) : later.array ref = h.array ref := by
  obtain ⟨more, same⟩ := untouched.arrays
  have there : later.arrays[ref]? = h.arrays[ref]? := by
    rw [← Array.getElem?_toList, ← Array.getElem?_toList, ← same,
      List.getElem?_append_left (by simpa using present)]
  simp only [Heap.array, Array.getD_eq_getD_getElem?, there]

theorem Heap.Untouched.size {later : Heap} (untouched : h.Untouched later) :
    h.arrays.size ≤ later.arrays.size := by
  simpa using untouched.arrays.length_le

theorem new_many_laid {rest : List Nat}
    (each : ∀ h : Heap, Grid (h.newGrid rest).2 (· = .invalid) rest (h.newGrid rest).1 h.arrays.size
      (h.newGrid rest).2.arrays.size)
    (count : Nat) (made : Array Value) (h : Heap) :
    let all := h.newMany (Heap.newGrid rest) count made
    all.1.size = made.size + count ∧ (∀ i < made.size, all.1[i]? = made[i]?) ∧
      ∃ bound : Nat → Nat, bound made.size = h.arrays.size ∧
        bound (made.size + count) = all.2.arrays.size ∧
        ∀ i value, made.size ≤ i → all.1[i]? = some value →
          Grid all.2 (· = .invalid) rest value (bound i) (bound (i + 1)) := by
  induction count generalizing made h with
  | zero =>
    refine ⟨rfl, fun _ _ => rfl, fun _ => h.arrays.size, rfl, rfl, fun i value above there => ?_⟩
    rw [show (h.newMany (Heap.newGrid rest) 0 made).1 = made from rfl,
      Array.getElem?_eq_none above] at there
    cases there
  | succ count ih =>
    obtain ⟨size, before, bound, starts, ends, laid⟩ :=
      ih (made.push (h.newGrid rest).1) (h.newGrid rest).2
    rw [Array.size_push] at size before starts ends laid
    dsimp only [Heap.newMany]
    refine ⟨by omega, fun i below => ?_, fun i => if i = made.size then h.arrays.size else bound i,
      if_pos rfl, ?_, fun i value above there => ?_⟩
    · rw [before i (by omega), Array.getElem?_push_lt below, Array.getElem?_eq_getElem below]
    · dsimp only
      rw [if_neg (by omega), ← ends]
      congr 1
      omega
    · dsimp only
      by_cases new : i = made.size
      · subst new
        rw [before _ (by omega), Array.getElem?_push_size] at there
        cases there
        rw [if_pos rfl, if_neg (by omega), starts]
        -- The grids that are made later leave this one alone.
        have untouched := Heap.untouched_new_many (Heap.untouched_new_grid rest) count
          (made.push (h.newGrid rest).1) (h.newGrid rest).2
        exact (each h).frame untouched.size fun ref _ below => untouched.array below
      · rw [if_neg new, if_neg (by omega)]
        exact laid i value (by omega) there

theorem new_grid_laid (lengths : List Nat) (h : Heap) :
    Grid (h.newGrid lengths).2 (· = .invalid) lengths (h.newGrid lengths).1 h.arrays.size
      (h.newGrid lengths).2.arrays.size := by
  induction lengths generalizing h with
  | nil => exact .cell _ rfl
  | cons length rest ih =>
    obtain ⟨size, -, bound, starts, ends, laid⟩ := new_many_laid ih length #[] h
    rw [show (#[] : Array Value).size = 0 from rfl, Nat.zero_add] at size ends
    dsimp only [Heap.newGrid]
    generalize h.newMany (Heap.newGrid rest) length #[] = all at size ends laid ⊢
    have untouched := all.2.untouched_new_array all.1
    have made : (all.2.newArray all.1).2.array all.2.arrays.size = all.1 := Heap.new_array_array _ _
    have present : all.2.arrays.size < (all.2.newArray all.1).2.arrays.size := by
      simp [Heap.newArray]
    have whole : (all.2.newArray all.1).2.arrays.size = all.2.arrays.size + 1 := by
      simp [Heap.newArray]
    rw [whole, ← starts]
    refine .row bound present (by rw [made, size]) ends fun i value there => ?_
    rw [made] at there
    have inside : i < length := size ▸ (Array.getElem?_eq_some_iff.1 there).1
    have elements : ∀ i value, all.1[i]? = some value →
        Grid all.2 (· = .invalid) rest value (bound i) (bound (i + 1)) :=
      fun i value => laid i value (Nat.zero_le i)
    have high : bound (i + 1) ≤ bound length :=
      bound_mono (fun i inside =>
        (elements i _ (Array.getElem?_eq_getElem (size ▸ inside))).ordered) inside
        (Nat.le_refl length)
    exact (elements i value there).frame untouched.size fun ref _ below =>
      untouched.array (by omega)

end Making

section Writing

variable {h : Heap} {lengths : List Nat} {grid : Value} {first last : Nat}

theorem array_modify_other {ref other : Nat} (differs : other ≠ ref)
    (f : Array Value → Array Value) : (h.modifyArray ref f).array other = h.array other := by
  simp [Heap.modifyArray, Heap.array, Array.getD_eq_getD_getElem?, Array.getElem?_modify,
    Ne.symm differs]

-- A store to a cell, at the places given, has made `later` of `h`: one array of the grid was
-- changed, the grid is still one, and every other cell reads as before.
structure Written (h later : Heap) (lengths : List Nat) (grid : Value) (first last : Nat)
    (places : List Nat) (value : Value) : Prop where
  ran : ∀ indices, places? indices = some places → writeCell value grid indices h = .ok () later
  remain : later.arrays.size = h.arrays.size
  elsewhere : ∃ ref, first ≤ ref ∧ ref < last ∧ ∀ other, other ≠ ref →
    later.array other = h.array other
  laid : Grid later Any lengths grid first last
  reads : ∀ others, WithinLengths others lengths →
    later.at? grid others = if others = places then some value else h.at? grid others

variable {length : Nat} {rest : List Nat} {own i : Nat} {bound : Nat → Nat}

theorem written_cell (present : own < h.arrays.size) (size : (h.array own).size = length)
    (ends : bound length = own) (elements : ∀ i value, (h.array own)[i]? = some value →
      Grid h Any [] value (bound i) (bound (i + 1)))
    (inside : i < length) (value : Value) :
    Written h (h.modifyArray own (arraySet · i value)) [length] (.array own) (bound 0) (own + 1)
      [i] value := by
  have climbs := Grid.row_bounds size elements (Nat.zero_le length) (Nat.le_refl length)
  generalize made : h.modifyArray own (arraySet · i value) = later
  have remain : later.arrays.size = h.arrays.size := by simp [← made, Heap.modifyArray]
  have stored : later.array own = arraySet (h.array own) i value :=
    made ▸ array_modify_same present _
  have stored_size : (later.array own).size = length := by
    rw [stored, array_set_size, size]
    omega
  refine ⟨fun indices addressed => ?_, remain, ⟨own, by omega, by omega, fun other differs => ?_⟩,
    ?_, fun others inRange => ?_⟩
  · cases indices with
    | nil => cases addressed
    | cons index more =>
      obtain ⟨place, behind, same, found, nothing⟩ := places_cons addressed
      cases same
      cases more with
      | nil => exact made ▸ set_index_place found
      | cons next more =>
        obtain ⟨_, _, impossible, _⟩ := places_cons nothing
        cases impossible
  · exact made ▸ array_modify_other differs _
  · refine .row bound (remain ▸ present) stored_size ends fun j held holds => ?_
    have below := Grid.element_inside stored_size holds
    rw [(elements j _ (Array.getElem?_eq_getElem (size ▸ below))).cell_width]
    exact .cell _ trivial
  · cases inRange with
    | @cons j _ others _ below inRange =>
      cases inRange
      have holds : (later.array own)[j]? =
          some (if j = i then value else (h.array own)[j]?.getD .invalid) :=
        stored ▸ array_set_at _ i value j (by omega)
      change (later.array own)[j]?.bind _ = if _ then _ else (h.array own)[j]?.bind _
      rw [holds, Array.getElem?_eq_getElem (size ▸ below)]
      by_cases same : j = i <;> simp [same, Heap.at?]

theorem written_behind (present : own < h.arrays.size) (size : (h.array own).size = length)
    (ends : bound length = own) (elements : ∀ i value, (h.array own)[i]? = some value →
      Grid h Any rest value (bound i) (bound (i + 1)))
    {inner value : Value} (there : (h.array own)[i]? = some inner) {later : Heap}
    {behind : List Nat} (inRange : WithinLengths behind rest) (deeper : rest ≠ [])
    (written : Written h later rest inner (bound i) (bound (i + 1)) behind value) :
    Written h later (length :: rest) (.array own) (bound 0) (own + 1) (i :: behind) value := by
  have inside := Grid.element_inside size there
  obtain ⟨low, high⟩ := Grid.element_bounds size elements inside
  obtain ⟨ref, above, below, unchanged⟩ := written.elsewhere
  have own_same : later.array own = h.array own := unchanged own (by omega)
  -- The places of the other elements are not those of the one that is passed.
  have unmoved {j : Nat} (belowLength : j < length) (differs : j ≠ i) :
      ∀ other, bound j ≤ other → other < bound (j + 1) → later.array other = h.array other := by
    refine fun other lower upper => unchanged other ?_
    rintro rfl
    exact differs (Grid.apart size elements belowLength inside ⟨lower, upper⟩ ⟨above, below⟩)
  refine ⟨fun indices addressed => ?_, written.remain, ⟨ref, by omega, by omega, unchanged⟩, ?_,
    fun others otherRange => ?_⟩
  · cases indices with
    | nil => cases addressed
    | cons index more =>
      obtain ⟨place, _, same, found, onward⟩ := places_cons addressed
      cases same
      cases more with
      | nil =>
        cases onward
        cases inRange
        exact absurd rfl deeper
      | cons next more =>
        exact (bind_ran (get_index_place found there)).trans (written.ran _ onward)
  · refine .row bound (written.remain ▸ present) (own_same ▸ size) ends fun j held holds => ?_
    rw [own_same] at holds
    by_cases same : j = i
    · subst same
      rw [there] at holds
      cases holds
      exact written.laid
    · exact (elements j held holds).frame (Nat.le_of_eq written.remain.symm)
        (unmoved (Grid.element_inside size holds) same)
  · cases otherRange with
    | @cons j _ others _ belowLength otherRange =>
      have thereToo : (h.array own)[j]? = some (h.array own)[j] :=
        Array.getElem?_eq_getElem (size ▸ belowLength)
      change (later.array own)[j]?.bind _ = if _ then _ else (h.array own)[j]?.bind _
      rw [own_same, thereToo]
      by_cases same : j = i
      · subst same
        rw [there] at thereToo
        cases thereToo
        simpa using written.reads others otherRange
      · simpa [same] using (elements j _ thereToo).at_frame (unmoved belowLength same) otherRange

theorem Grid.write (laid : Grid h Any lengths grid first last) (dimensioned : lengths ≠ [])
    {places : List Nat} (inRange : WithinLengths places lengths) (value : Value) :
    ∃ later, Written h later lengths grid first last places value := by
  induction laid generalizing places with
  | cell place _ => exact absurd rfl dimensioned
  | @row length rest own bound present size ends elements ih =>
    cases inRange with
    | @cons i _ behind _ inside inRange =>
      have there : (h.array own)[i]? = some (h.array own)[i] :=
        Array.getElem?_eq_getElem (size ▸ inside)
      by_cases deeper : rest = []
      · subst deeper
        cases inRange
        exact ⟨_, written_cell present size ends elements inside value⟩
      · obtain ⟨later, written⟩ := ih i _ there deeper inRange
        exact ⟨later, written_behind present size ends elements there inRange deeper written⟩

def held (writes : List (List Value × Value)) (places : List Nat) (start : Value) : Value :=
  writes.foldl (fun value write => if places? write.1 = some places then write.2 else value) start

theorem cells_written (dimensioned : lengths ≠ []) (writes : List (List Value × Value))
    (addressed : ∀ write ∈ writes, ∃ places, places? write.1 = some places ∧
      WithinLengths places lengths)
    (laid : Grid h Any lengths grid first last) :
    ∃ later, writeCells grid writes h = .ok () later ∧
      ∀ places start, WithinLengths places lengths →
      h.at? grid places = some start → later.at? grid places = some (held writes places start) := by
  induction writes generalizing h with
  | nil => exact ⟨h, rfl, fun _ _ _ there => there⟩
  | cons write rest ih =>
    obtain ⟨indices, value⟩ := write
    obtain ⟨places, found, inRange⟩ := addressed _ List.mem_cons_self
    obtain ⟨next, written⟩ := laid.write dimensioned inRange value
    obtain ⟨later, ran, holds⟩ :=
      ih (fun other member => addressed other (List.mem_cons_of_mem _ member)) written.laid
    refine ⟨later, (bind_ran (written.ran indices found)).trans ran,
      fun others start otherRange there => ?_⟩
    have step := written.reads others otherRange
    rw [there] at step
    rw [held, List.foldl_cons, found]
    by_cases same : others = places
    · rw [if_pos same] at step
      rw [if_pos (congrArg some same.symm)]
      exact holds others value otherRange step
    · rw [if_neg same] at step
      rw [if_neg fun equal => same (Option.some.inj equal).symm]
      exact holds others start otherRange step

end Writing

end BrightScript
