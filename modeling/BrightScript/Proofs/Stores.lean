import Mathlib.Algebra.Group.Int.Defs
import Mathlib.Order.Defs.Unbundled
import BrightScript.Proofs.Contents
import BrightScript.Proofs.Overloads
set_option autoImplicit false

namespace BrightScript

section Outcomes

variable {ε σ α β : Type} {kept : σ → σ → Prop}

def Spares (kept : σ → σ → Prop) (x : EStateM ε σ α) : Prop :=
  ∀ s e t, x s = .error e t → kept s t

theorem stays_spares {x : EStateM ε σ α} (stays : Stays kept x) : Spares kept x := by
  intro s e t failed
  have ended := stays s
  rwa [failed] at ended

theorem spares_bind [IsTrans σ kept] {x : EStateM ε σ α} {k : α → EStateM ε σ β}
    (first : Stays kept x) (next : ∀ a, Spares kept (k a)) : Spares kept (x >>= k) := by
  intro s e t failed
  have ended := first s
  change EStateM.bind x k s = _ at failed
  unfold EStateM.bind at failed
  cases outcome : x s with
  | ok a u =>
    rw [outcome] at ended failed
    exact IsTrans.trans _ _ _ ended (next a u e t failed)
  | error e' u =>
    rw [outcome] at ended failed
    cases failed
    exact ended

theorem spares_look {f : σ → EStateM ε σ β} (next : ∀ s, Spares Eq (f s)) : Spares Eq (get >>= f) :=
  spares_bind (fun _ => rfl) next

theorem spares_throw (e : ε) : Spares Eq (throw e : EStateM ε σ α) :=
  stays_spares fun _ => rfl

theorem spares_total {x : EStateM ε σ α} (total : ∀ s, ∃ a t, x s = .ok a t) : Spares kept x := by
  intro s e t failed
  obtain ⟨a, u, ran⟩ := total s
  rw [ran] at failed
  cases failed

theorem spares_pure (a : α) : Spares kept (pure a : EStateM ε σ α) :=
  spares_total fun _ => ⟨_, _, rfl⟩

theorem spares_modify (f : σ → σ) : Spares kept (modify f : EStateM ε σ PUnit) :=
  spares_total fun _ => ⟨_, _, rfl⟩

theorem spares_modify_get (f : σ → α × σ) : Spares kept (modifyGet f : EStateM ε σ α) :=
  spares_total fun _ => ⟨_, _, rfl⟩

end Outcomes

section Objects

theorem index_mismatch_spares {α : Type} (object : Object) (index : Value) :
    Spares Eq (object.indexMismatch index : Access α) :=
  spares_look fun _ => spares_throw _

theorem member_missing_spares {α : Type} (object : Object) (name : String) :
    Spares Eq (object.memberMissing name : Access α) :=
  spares_look fun _ => spares_throw _

theorem set_field_spares (ref : Nat) (name : String) (value : Value) :
    Spares Eq (Object.setField ref name value) := by
  refine spares_look fun h => ?_
  dsimp only
  split
  · exact spares_throw _
  · exact spares_modify _

theorem Object.set_index_spares (object : Object) (index value : Value) :
    Spares Eq (object.setIndex index value) := by
  cases object with
  | array ref =>
    simp only [Object.setIndex]
    split
    · split
      · exact spares_modify _
      · exact spares_throw _
    · exact index_mismatch_spares _ index
  | table ref =>
    simp only [Object.setIndex]
    split
    · exact spares_modify _
    · exact index_mismatch_spares _ index
  | component ref =>
    refine spares_look fun h => ?_
    split
    · exact spares_throw _
    · split
      · exact set_field_spares ref _ value
      · exact spares_throw _
  | box mark content => exact spares_throw _

theorem Value.set_index_spares (target index value : Value) :
    Spares Eq (target.setIndex index value) := by
  cases target with
  | object o | interface shown o => exact o.set_index_spares index value
  | scalar s | uninitialized | function ref => exact spares_throw _

theorem Value.set_member_spares (target : Value) (name : String) (value : Value) :
    Spares Eq (target.setMember name value) := by
  cases target with
  | object o =>
    cases o with
    | table ref => exact spares_modify _
    | component ref => exact set_field_spares ref name value
    | array ref | box mark content => exact member_missing_spares _ name
  | scalar s | uninitialized | function ref | interface shown o => exact spares_throw _

theorem array_append_spares (ref : Nat) (arguments : List Value) :
    Spares Eq (ArrayMethod.append.run ref arguments) := by
  simp only [ArrayMethod.run]
  split
  · exact spares_total fun _ => ⟨_, _, rfl⟩
  · exact spares_look fun _ => spares_throw _

theorem table_append_spares (ref : Nat) (arguments : List Value) :
    Spares Eq (TableMethod.append.run ref arguments) := by
  simp only [TableMethod.run]
  split
  · exact spares_total fun _ => ⟨_, _, rfl⟩
  · exact spares_look fun _ => spares_throw _

theorem number_bind_spares {function : Builtin} {value : Value} {f : Float → Value} :
    Spares Eq (do pure (f (← function.number value)) : Access Value) := by
  unfold Builtin.number
  split
  · exact spares_pure _
  · exact spares_throw _

theorem builtin_spares (around : Surroundings) (function : Builtin) (arguments : List Value) :
    Spares Eq (function.run around arguments) := by
  cases function with
  | str =>
    simp only [Builtin.run, Builtin.strOf]
    split <;> first | exact spares_pure _ | exact spares_throw _
  | abs =>
    simp only [Builtin.run, Builtin.absOf]
    split <;> first | exact spares_pure _ | exact spares_throw _
  | int | fix | sqr => exact number_bind_spares
  | createObject =>
    refine spares_look fun h => ?_
    unfold Builtin.create
    repeat' split
    all_goals first | exact spares_modify_get _ | exact spares_pure _
  | type | strI | val | valRadix | len | uCase | lCase | box | getGlobalAA | getInterface =>
    exact spares_total fun _ => ⟨_, _, rfl⟩

theorem native_spares (around : Surroundings) (native : Native) (arguments : List Value) :
    Spares Eq (native.run around arguments) := by
  cases native with
  | builtin function => exact builtin_spares around function arguments
  | arrayMethod ref method =>
    cases method with
    | append => exact array_append_spares ref arguments
    | count | push | pop | peek | shift | unshift | clear | isEmpty =>
      exact spares_total fun _ => ⟨_, _, rfl⟩
  | tableMethod ref method =>
    cases method with
    | append => exact table_append_spares ref arguments
    | count | clear | isEmpty | doesExist | delete | lookup | addReplace | keys | items =>
      exact spares_total fun _ => ⟨_, _, rfl⟩
  | fieldCount ref | constant value | collect => exact spares_total fun _ => ⟨_, _, rfl⟩
  | fail cause => exact spares_throw _

end Objects

section Elements

variable {h : Heap} {ref : Nat}

theorem array_set_size (elements : Array Value) (index : Nat) (value : Value) :
    (arraySet elements index value).size = max elements.size (index + 1) := by
  unfold arraySet
  split
  · rw [Array.size_setIfInBounds]
    omega
  · simp only [Array.size_push, Array.size_append, Array.size_replicate]
    omega

theorem array_set_at (elements : Array Value) (index : Nat) (value : Value) (place : Nat)
    (inside : place < max elements.size (index + 1)) :
    (arraySet elements index value)[place]? =
      some (if place = index then value else elements[place]?.getD .invalid) := by
  unfold arraySet
  split
  · rename_i below
    have there : place < elements.size := by omega
    simp only [Array.getElem?_setIfInBounds, eq_comm, below, Array.getElem?_eq_getElem there,
      if_true, Option.getD_some]
    split <;> rfl
  · rename_i above
    rw [Array.getElem?_push, Array.size_append, Array.size_replicate,
      Nat.add_sub_cancel' (Nat.le_of_not_lt above)]
    split
    · rfl
    · rw [Array.getElem?_append]
      split
      · rename_i there
        simp [there]
      · rename_i gap
        rw [Array.getElem?_replicate, if_pos (by omega),
          Array.getElem?_eq_none (Nat.le_of_not_lt gap)]
        rfl

theorem array_modify_same (present : ref < h.arrays.size) (f : Array Value → Array Value) :
    (h.modifyArray ref f).array ref = f (h.array ref) := by
  simp [Heap.modifyArray, Heap.array, Array.getD_eq_getD_getElem?, Array.getElem_modify, present]

theorem array_place_isSome (i : Int64) :
    (arrayPlace? i).isSome = true ↔ 0 ≤ i.toInt ∧ i.toInt < 2 ^ 20 := by
  unfold arrayPlace?
  have limit : ((maxArrayLength : Nat) : Int) = 2 ^ 20 := by decide
  rw [limit]
  split <;> simp_all

def Value.Shows (target : Value) (object : Object) : Prop :=
  target = .object object ∨ ∃ name, target = .interface name object

theorem Value.Shows.set_index {target : Value} {object : Object} (shows : target.Shows object)
    (index value : Value) : target.setIndex index value = object.setIndex index value := by
  rcases shows with rfl | ⟨name, rfl⟩ <;> rfl

theorem set_element_eq (index value : Value) :
    (Object.array ref).setIndex index value h =
      match index.toInt64? with
      | some i =>
        match arrayPlace? i with
        | some place => .ok () (h.modifyArray ref (arraySet · place value))
        | none => .error (.indexOutOfRange i) h
      | none => .error (.typeMismatch "roArray[]" .object (some index.kind)) h := by
  simp only [Object.setIndex]
  cases index.toInt64? with
  | none => rfl
  | some i =>
    dsimp only
    cases arrayPlace? i <;> rfl

theorem set_element_succeeds (index value : Value) :
    (∃ later, (Object.array ref).setIndex index value h = .ok () later) ↔
      ∃ i, index.toInt64? = some i ∧ 0 ≤ i.toInt ∧ i.toInt < 2 ^ 20 := by
  rw [set_element_eq]
  cases index.toInt64? with
  | none => simp
  | some i =>
    have place := array_place_isSome i
    cases found : arrayPlace? i with
    | none => simpa [found] using place
    | some n => simpa [found] using place

theorem set_element_does {index value : Value} {i : Int64} {later : Heap}
    (number : index.toInt64? = some i)
    (stored : (Object.array ref).setIndex index value h = .ok () later) :
    later = h.modifyArray ref (arraySet · i.toInt.toNat value) := by
  rw [set_element_eq, number] at stored
  dsimp only at stored
  split at stored
  · rename_i place found
    unfold arrayPlace? at found
    split at found
    · cases found
      cases stored
      rfl
    · cases found
  · cases stored

theorem modify_eq_set {α : Type} (xs : Array α) (ref : Nat) (f : α → α) (fallback : α) :
    xs.modify ref f = xs.setIfInBounds ref ((xs.modify ref f).getD ref fallback) := by
  refine Array.ext_getElem? fun i => ?_
  rw [Array.getElem?_modify, Array.getElem?_setIfInBounds]
  by_cases here : ref = i
  · subst here
    by_cases present : ref < xs.size
    · simp [present, Array.getD_eq_getD_getElem?, Array.getElem_modify]
    · simp [present]
  · simp [here]

theorem array_modify_set (ref : Nat) (f : Array Value → Array Value) :
    h.modifyArray ref f =
      { h with arrays := h.arrays.setIfInBounds ref ((h.modifyArray ref f).array ref) } :=
  congrArg (fun arrays => { h with arrays }) (modify_eq_set h.arrays ref f #[])

end Elements

section Entries

-- The name under which an object stores what is stored at an index.
def Object.entryName? (object : Object) (index : Value) : Option String :=
  match object with
  | .table _ =>
    match index.scalar? with
    | some (.string name) => some name
    | _ => none
  | .component _ =>
    match index with
    | .scalar (.string name) => some name
    | _ => none
  | .array _ | .box _ _ => none

def Heap.TakesEntry (h : Heap) : Object → String → Prop
  | .table _, _ => True
  | .component ref, name =>
    let class_ := (h.component ref).class_
    class_.fields.isSome = true ∧ ∀ locked ∈ class_.locked, sameName name locked = false
  | .array _, _ | .box _ _, _ => False

def Heap.HasEntries (h : Heap) : Object → Prop
  | .table ref => ref < h.tables.size
  | .component ref => ref < h.components.size
  | .array _ | .box _ _ => False

def Heap.entries (h : Heap) : Object → Contents
  | .table ref => h.contents ref
  | .component ref => (h.component ref).fields.contents
  | .array _ | .box _ _ => fun _ => none

def Heap.OnlyEntries (h later : Heap) : Object → Prop
  | .table ref => later = { h with tables := h.tables.setIfInBounds ref (later.table ref) }
  | .component ref =>
    later = { h with components := h.components.setIfInBounds ref (later.component ref) } ∧
      (later.component ref).class_ = (h.component ref).class_
  | .array _ | .box _ _ => later = h

structure Heap.EntryStored (h : Heap) (object : Object) (name : String) (value : Value)
    (later : Heap) : Prop where
  entries : later.entries object = (Update.store name value).apply (h.entries object)
  others : h.OnlyEntries later object

variable {h later : Heap} {ref : Nat} {object : Object} {name : String} {index value : Value}

theorem component_modify_same (present : ref < h.components.size) (f : Component → Component) :
    (h.modifyComponent ref f).component ref = f (h.component ref) := by
  simp [Heap.modifyComponent, Heap.component, Array.getD_eq_getD_getElem?,
    Array.getElem_modify, present]

theorem table_modify_set (ref : Nat) (f : Table Value → Table Value) :
    h.modifyTable ref f =
      { h with tables := h.tables.setIfInBounds ref ((h.modifyTable ref f).table ref) } :=
  congrArg (fun tables => { h with tables }) (modify_eq_set h.tables ref f .empty)

theorem component_modify_set (ref : Nat) (f : Component → Component) :
    h.modifyComponent ref f =
      { h with components :=
        h.components.setIfInBounds ref ((h.modifyComponent ref f).component ref) } :=
  congrArg (fun components => { h with components }) (modify_eq_set h.components ref f default)

theorem set_field_eq (ref : Nat) (name : String) (value : Value) (h : Heap) :
    Object.setField ref name value h =
      if (h.component ref).class_.fields.isNone ||
        (h.component ref).class_.locked.any (sameName name) then
        .error (.memberNotFound (h.component ref).class_.name name) h
      else .ok () (h.modifyComponent ref fun c =>
        { c with fields := c.fields.insert name value }) := by
  unfold Object.setField
  rw [get_bind_apply]
  cases (h.component ref).class_.fields.isNone ||
    (h.component ref).class_.locked.any (sameName name) <;> rfl

theorem set_member_succeeds (h : Heap) (object : Object) (name : String) (value : Value) :
    (∃ later, object.setMember name value h = .ok () later) ↔ h.TakesEntry object name := by
  cases object with
  | table ref => exact iff_of_true ⟨_, rfl⟩ trivial
  | array ref | box mark content =>
    refine iff_of_false (fun ⟨later, stored⟩ => ?_) id
    cases stored
  | component ref =>
    change (∃ later, Object.setField ref name value h = .ok () later) ↔ _
    rw [set_field_eq]
    have taken : h.TakesEntry (.component ref) name ↔ ((h.component ref).class_.fields.isNone ||
        (h.component ref).class_.locked.any (sameName name)) = false := by
      simp [Heap.TakesEntry, Option.isSome_iff_ne_none]
    rw [taken]
    cases (h.component ref).class_.fields.isNone ||
      (h.component ref).class_.locked.any (sameName name) <;> simp

theorem set_member_taken (h : Heap) (target : Value) (name : String) (value : Value) :
    (∃ later, target.setMember name value h = .ok () later) ↔
      ∃ object, target = .object object ∧ h.TakesEntry object name := by
  cases target with
  | object o =>
    simp only [Value.object.injEq, exists_eq_left']
    exact set_member_succeeds h o name value
  | scalar | uninitialized | function | interface =>
    exact iff_of_false (fun ⟨_, stored⟩ => nomatch stored) fun ⟨_, same, _⟩ => nomatch same

theorem set_member_stores (there : h.HasEntries object)
    (stored : object.setMember name value h = .ok () later) :
    h.EntryStored object name value later := by
  cases object with
  | array ref | box mark content => exact there.elim
  | table ref =>
    cases stored
    refine ⟨?_, table_modify_set ref _⟩
    change ((h.modifyTable ref _).table ref).contents = _
    rw [Heap.table_modify_same there, Table.contents_insert]
    rfl
  | component ref =>
    change Object.setField ref name value h = .ok () later at stored
    rw [set_field_eq] at stored
    split at stored
    · cases stored
    · cases stored
      have changed := component_modify_same there fun c =>
        { c with fields := c.fields.insert name value }
      refine ⟨?_, component_modify_set ref _, ?_⟩
      · change ((h.modifyComponent ref _).component ref).fields.contents = _
        rw [changed, Table.contents_insert]
        rfl
      · rw [changed]

theorem set_entry_iff (there : h.HasEntries object) :
    object.setIndex index value h = .ok () later ↔
      ∃ name, object.entryName? index = some name ∧
        object.setMember name value h = .ok () later := by
  have refused {names : Option String} (none : names = Option.none) (fault : Fault) :
      (EStateM.Result.error fault h : EStateM.Result Fault Heap Unit) = .ok () later ↔
        ∃ name, names = some name ∧ object.setMember name value h = .ok () later := by
    rw [none]
    exact iff_of_false nofun fun ⟨_, named, _⟩ => nomatch named
  cases object with
  | array ref | box mark content => exact there.elim
  | table ref =>
    unfold Object.setIndex Object.entryName?
    dsimp only
    cases index.scalar? with
    | none => exact refused rfl _
    | some s =>
      cases s with
      | string key =>
        exact ⟨fun stored => ⟨key, rfl, stored⟩,
          fun ⟨name, named, stored⟩ => Option.some.inj named ▸ stored⟩
      | integer | longInteger | float | double | boolean | invalid => exact refused rfl _
  | component ref =>
    unfold Object.setIndex Object.entryName?
    dsimp only
    rw [get_bind_apply]
    cases fixed : (h.component ref).class_.fields.isNone with
    | true =>
      refine iff_of_false nofun fun ⟨name, _, stored⟩ => ?_
      change Object.setField ref name value h = .ok () later at stored
      rw [set_field_eq, fixed] at stored
      cases stored
    | false =>
      cases index with
      | scalar s =>
        cases s with
        | string key =>
          exact ⟨fun stored => ⟨key, rfl, stored⟩,
            fun ⟨name, named, stored⟩ => Option.some.inj named ▸ stored⟩
        | integer | longInteger | float | double | boolean | invalid => exact refused rfl _
      | uninitialized | function | object | interface => exact refused rfl _

end Entries

section States

-- All that is in `h` is in `later`, in its place and as it was.
structure Heap.Untouched (h later : Heap) : Prop where
  arrays : h.arrays.toList <+: later.arrays.toList
  tables : h.tables.toList <+: later.tables.toList
  components : h.components.toList <+: later.components.toList
  functions : h.functions.toList <+: later.functions.toList
  boxes : h.boxes ≤ later.boxes

structure State.Untouched (s t : State) : Prop where
  heap : s.heap.Untouched t.heap
  frame : t.frame = s.frame
  root : t.root = s.root
  globals : t.globals = s.globals
  module : t.module = s.module
  mocks : t.mocks = s.mocks
  output : t.output = s.output
  depth : t.depth = s.depth

theorem Heap.Untouched.refl (h : Heap) : h.Untouched h :=
  ⟨List.prefix_rfl, List.prefix_rfl, List.prefix_rfl, List.prefix_rfl, Nat.le_refl _⟩

theorem Heap.Untouched.trans {h later last : Heap} (first : h.Untouched later)
    (second : later.Untouched last) : h.Untouched last :=
  ⟨first.arrays.trans second.arrays, first.tables.trans second.tables,
    first.components.trans second.components, first.functions.trans second.functions,
      Nat.le_trans first.boxes second.boxes⟩

theorem State.Untouched.refl (s : State) : s.Untouched s :=
  ⟨.refl _, rfl, rfl, rfl, rfl, rfl, rfl, rfl⟩

theorem State.Untouched.trans {s t u : State} (first : s.Untouched t) (second : t.Untouched u) :
    s.Untouched u :=
  ⟨first.heap.trans second.heap, second.frame.trans first.frame, second.root.trans first.root,
    second.globals.trans first.globals, second.module.trans first.module,
    second.mocks.trans first.mocks, second.output.trans first.output,
      second.depth.trans first.depth⟩

instance : IsTrans State State.Untouched :=
  ⟨fun _ _ _ => State.Untouched.trans⟩

theorem State.untouched_heap (s : State) {h : Heap} (untouched : s.heap.Untouched h) :
    s.Untouched { s with heap := h } :=
  ⟨untouched, rfl, rfl, rfl, rfl, rfl, rfl, rfl⟩

variable {α : Type}

theorem Heap.untouched_boxes (h : Heap) {boxes : Nat} (more : h.boxes ≤ boxes) :
    h.Untouched { h with boxes } :=
  ⟨List.prefix_rfl, List.prefix_rfl, List.prefix_rfl, List.prefix_rfl, more⟩

theorem Heap.untouched_new_array (h : Heap) (elements : Array Value) :
    h.Untouched (h.newArray elements).2 :=
  ⟨by simp [newArray], List.prefix_rfl, List.prefix_rfl, List.prefix_rfl, Nat.le_refl _⟩

theorem Heap.untouched_new_function (h : Heap) (callable : Callable) :
    h.Untouched (h.newFunction callable).2 :=
  ⟨List.prefix_rfl, List.prefix_rfl, List.prefix_rfl, by simp [newFunction], Nat.le_refl _⟩

theorem Heap.untouched_new_many {make : Heap → Value × Heap}
    (stays : ∀ h : Heap, h.Untouched (make h).2) (count : Nat) (made : Array Value) (h : Heap) :
    h.Untouched (newMany make count made h).2 := by
  induction count generalizing made h with
  | zero => exact .refl h
  | succ count ih => exact (stays h).trans (ih _ _)

theorem Heap.untouched_new_grid (lengths : List Nat) (h : Heap) :
    h.Untouched (newGrid lengths h).2 := by
  induction lengths generalizing h with
  | nil => exact .refl h
  | cons length rest ih =>
    exact (untouched_new_many ih length #[] h).trans (untouched_new_array _ _)

theorem allocate_stays {make : Heap → α × Heap} (stays : ∀ h : Heap, h.Untouched (make h).2) :
    Stays State.Untouched (Exec.allocate make) :=
  fun s => s.untouched_heap (stays s.heap)

theorem convert_stays (value : Value) (kind : Kind) :
    Stays State.Untouched (Exec.convert? value kind) :=
  allocate_stays fun h => h.untouched_boxes (Nat.le_succ _)

theorem on_heap_spares {access : Access α} (spares : Spares Eq access) (location : Location) :
    Spares Eq (Exec.onHeap location access) := by
  intro s halt t failed
  unfold Exec.onHeap at failed
  dsimp only at failed
  cases outcome : access s.heap with
  | ok a h =>
    rw [outcome] at failed
    cases failed
  | error fault h =>
    rw [outcome] at failed
    cases failed
    rw [← spares _ _ _ outcome]

theorem on_heap_stays {access : Access α} (stays : Stays Heap.Untouched access)
    (location : Location) : Stays State.Untouched (Exec.onHeap location access) := by
  intro s
  have ended := stays s.heap
  unfold Exec.onHeap
  dsimp only
  cases outcome : access s.heap with
  | ok a h | error fault h =>
    rw [outcome] at ended
    exact s.untouched_heap ended

theorem untouched_of_eq {x : Exec α} (spares : Spares Eq x) : Spares State.Untouched x :=
  fun s halt t failed => spares s halt t failed ▸ .refl s

theorem of_except_stays (location : Location) (result : Except Fault α) :
    Stays State.Untouched (Exec.ofExcept location result) := by
  cases result with
  | ok a | error fault => exact State.Untouched.refl

theorem assign_spares (name : String) (value : Value) (location : Location) :
    Spares State.Untouched (Exec.assign name value location) := by
  unfold Exec.assign
  split
  · refine spares_bind (convert_stays _ _) fun converted => ?_
    cases converted with
    | some converted => exact spares_modify _
    | none => exact stays_spares State.Untouched.refl
  · exact spares_modify _

theorem member_untouched (target : Value) (name : String) (location : Location) :
    Stays State.Untouched (Exec.onHeap location (target.getMember name)) :=
  on_heap_stays (target.get_member_stays Heap.Untouched.refl
    (fun h callable _ => h.untouched_new_function callable)
    name) location

theorem element_untouched (target index : Value) (location : Location) :
    Stays State.Untouched (Exec.onHeap location (target.getIndex index)) :=
  on_heap_stays (target.get_index_stays Heap.Untouched.refl index) location

theorem call_native_spares {setting : Setting} {ref : Nat} {arguments : List Value}
    {receiver : Option Nat} {location : Location} {s t : State} {halt : Halt}
    (natives : ∀ overload ∈ (s.heap.function ref).overloads, ∃ native,
      overload.code = .native native)
    (failed : callFunction setting ref arguments receiver location s = .error halt t) :
    s.Untouched t := by
  rw [call_function_eq] at failed
  split at failed
  · cases failed
    exact .refl _
  · rw [enter_eq] at failed
    cases resolved : (s.heap.function ref).resolve s.heap.boxes arguments with
    | error fault =>
      simp only [resolveCall, get_bind_apply, resolved] at failed
      cases failed
      exact .refl _
    | ok choice =>
      obtain ⟨_, overload, found, code, _⟩ := Callable.resolve_chosen resolved
      obtain ⟨native, own⟩ := natives overload (List.mem_of_getElem? found)
      simp only [resolveCall, get_bind_apply, resolved] at failed
      change Exec.inCall _ (runCode _ _ choice.code _ _) _ = _ at failed
      rw [code, own] at failed
      -- The body runs with the marks for its arguments used up, in a frame of its own.
      unfold Exec.inCall at failed
      dsimp only at failed
      split at failed
      · cases failed
      · rename_i halt' u ended
        cases failed
        have same := on_heap_spares (native_spares _ native choice.arguments) location _ _ _ ended
        subst same
        exact ⟨s.heap.untouched_boxes (Nat.le_add_right _ _), rfl, rfl, rfl, rfl, rfl, rfl, rfl⟩

end States

section Statements

variable {setting : Setting} {call : Call} {s u v w t : State} {halt : Halt} {location : Location}

theorem failed_of_bind_pure {x : Exec Unit} {signal : Signal}
    (failed : (do x; pure signal : Exec Signal) s = .error halt t) : x s = .error halt t := by
  change EStateM.bind x _ s = _ at failed
  unfold EStateM.bind at failed
  cases outcome : x s with
  | ok a u =>
    rw [outcome] at failed
    cases failed
  | error halt' u =>
    rw [outcome] at failed
    cases failed
    rfl

theorem dim_spares {name : String} {dimensions : List Expr} {sizes : List Int64}
    (evaluated : evaluateSizes call dimensions s = .ok sizes u)
    (failed : executeDim call name dimensions location s = .error halt t) : u.Untouched t := by
  unfold executeDim at failed
  rw [bind_ran evaluated] at failed
  refine spares_bind (of_except_stays location _) (fun lengths => ?_) u halt t failed
  exact spares_bind (allocate_stays (Heap.untouched_new_grid lengths)) fun grid =>
    assign_spares name grid location

theorem set_member_statement {object value : Expr} {name : String} {target stored : Value}
    (first : evaluate call object s = .ok target u) (second : evaluate call value u = .ok stored v)
    (failed : execute setting call (.setMember object name value location) s = .error halt t) :
    t = v := by
  unfold execute at failed
  rw [bind_ran first, bind_ran second] at failed
  exact (on_heap_spares (target.set_member_spares name stored) location _ _ _
    (failed_of_bind_pure failed)).symm

theorem set_index_statement {object index value : Expr} {target place stored : Value}
    (first : evaluate call object s = .ok target u) (second : evaluate call index u = .ok place v)
    (third : evaluate call value v = .ok stored w)
    (failed : execute setting call (.setIndex object index value location) s = .error halt t) :
    t = w := by
  unfold execute at failed
  rw [bind_ran first, bind_ran second, bind_ran third] at failed
  exact (on_heap_spares (target.set_index_spares place stored) location _ _ _
    (failed_of_bind_pure failed)).symm

theorem step_variable_statement {name : String} {op : StepOp} {place : Location}
    (failed : execute setting call (.step (.variable name place) op location) s = .error halt t) :
    s.Untouched t := by
  unfold execute at failed
  have ran := failed_of_bind_pure failed
  simp only [executeStep] at ran
  refine spares_bind (fun t => .refl t) (fun current => ?_) s halt t ran
  exact spares_bind (of_except_stays location _) fun next => assign_spares name next location

theorem step_member_statement {object : Expr} {name : String} {op : StepOp} {place : Location}
    {target : Value} (first : evaluate call object s = .ok target u)
    (failed : execute setting call (.step (.member object name place) op location) s =
      .error halt t) :
    u.Untouched t := by
  unfold execute at failed
  have ran := failed_of_bind_pure failed
  simp only [executeStep] at ran
  rw [bind_ran first] at ran
  refine spares_bind (member_untouched target name location) (fun current => ?_) u halt t ran
  exact spares_bind (of_except_stays location _) fun next =>
    untouched_of_eq (on_heap_spares (target.set_member_spares name next) location)

theorem step_index_statement {object index : Expr} {op : StepOp} {place : Location}
    {target chosen : Value} (first : evaluate call object s = .ok target u)
    (second : evaluate call index u = .ok chosen v)
    (failed : execute setting call (.step (.index object index place) op location) s =
      .error halt t) :
    v.Untouched t := by
  unfold execute at failed
  have ran := failed_of_bind_pure failed
  simp only [executeStep] at ran
  rw [bind_ran first, bind_ran second] at ran
  refine spares_bind (element_untouched target chosen location) (fun current => ?_) v halt t ran
  exact spares_bind (of_except_stays location _) fun next =>
    untouched_of_eq (on_heap_spares (target.set_index_spares chosen next) location)

end Statements

/-- A store happens as a whole or not at all. An element is stored just where its index is a number
from 0 up to the greatest length: the array is then as long as it was or as the index asks for, with
the value in its place, the elements that were there in theirs, and `invalid` in a gap. An entry is
stored just where the object takes its name, and then all other entries and objects are what they
were. An element, an entry or an appending that is refused leaves the heap what it was. A call of a
native function, an assignment or a grid that fails leaves every variable and every object what it
was. So does a statement of which only the store fails, since its parts were evaluated. -/
theorem stores_whole_or_refused (setting : Setting) (call : Call) :
    (∀ (h : Heap) (ref : Nat) (target index value : Value), target.Shows (.array ref) →
      ref < h.arrays.size →
      ((∃ later, target.setIndex index value h = .ok () later) ↔
        ∃ i, index.toInt64? = some i ∧ 0 ≤ i.toInt ∧ i.toInt < 2 ^ 20) ∧
      ∀ i later, index.toInt64? = some i → target.setIndex index value h = .ok () later →
        (later.array ref).size = max (h.array ref).size (i.toInt.toNat + 1) ∧
        (∀ place < (later.array ref).size, (later.array ref)[place]? =
          some (if place = i.toInt.toNat then value else (h.array ref)[place]?.getD .invalid)) ∧
        later = { h with arrays := h.arrays.setIfInBounds ref (later.array ref) }) ∧
    (∀ (h : Heap) (target : Value) (name : String) (value : Value),
      ((∃ later, target.setMember name value h = .ok () later) ↔
        ∃ object, target = .object object ∧ h.TakesEntry object name) ∧
      ∀ object later, target = .object object → h.HasEntries object →
        target.setMember name value h = .ok () later → h.EntryStored object name value later) ∧
    (∀ (h : Heap) (object : Object) (target index value : Value), target.Shows object →
      h.HasEntries object →
      ((∃ later, target.setIndex index value h = .ok () later) ↔
        ∃ name, object.entryName? index = some name ∧ h.TakesEntry object name) ∧
      ∀ name later, object.entryName? index = some name →
        target.setIndex index value h = .ok () later →
        h.EntryStored object name value later) ∧
    ((∀ target index value : Value, Spares Eq (target.setIndex index value)) ∧
      (∀ (target : Value) (name : String) (value : Value),
        Spares Eq (target.setMember name value)) ∧
      ∀ (ref : Nat) (arguments : List Value),
        Spares Eq (ArrayMethod.append.run ref arguments) ∧
          Spares Eq (TableMethod.append.run ref arguments)) ∧
    (∀ (ref : Nat) (arguments : List Value) (receiver : Option Nat) (location : Location)
      (s t : State) (halt : Halt),
        (∀ overload ∈ (s.heap.function ref).overloads, ∃ native, overload.code = .native native) →
        callFunction setting ref arguments receiver location s = .error halt t → s.Untouched t) ∧
    (∀ (name : String) (value : Value) (location : Location),
      Spares State.Untouched (Exec.assign name value location)) ∧
    (∀ (name : String) (dimensions : List Expr) (location : Location) (s u t : State)
      (sizes : List Int64) (halt : Halt), evaluateSizes call dimensions s = .ok sizes u →
        executeDim call name dimensions location s = .error halt t → u.Untouched t) ∧
    (∀ (object value : Expr) (name : String) (location : Location) (s u v t : State)
      (target stored : Value) (halt : Halt), evaluate call object s = .ok target u →
        evaluate call value u = .ok stored v →
        execute setting call (.setMember object name value location) s = .error halt t → t = v) ∧
    (∀ (object index value : Expr) (location : Location) (s u v w t : State)
      (target place stored : Value) (halt : Halt), evaluate call object s = .ok target u →
        evaluate call index u = .ok place v →
        evaluate call value v = .ok stored w →
        execute setting call (.setIndex object index value location) s = .error halt t → t = w) ∧
    (∀ (name : String) (op : StepOp) (place location : Location) (s t : State) (halt : Halt),
      execute setting call (.step (.variable name place) op location) s = .error halt t →
        s.Untouched t) ∧
    (∀ (object : Expr) (name : String) (op : StepOp) (place location : Location) (s u t : State)
      (target : Value) (halt : Halt), evaluate call object s = .ok target u →
        execute setting call (.step (.member object name place) op location) s = .error halt t →
          u.Untouched t) ∧
    ∀ (object index : Expr) (op : StepOp) (place location : Location) (s u v t : State)
    (target chosen : Value) (halt : Halt), evaluate call object s = .ok target u →
        evaluate call index u = .ok chosen v →
        execute setting call (.step (.index object index place) op location) s = .error halt t →
          v.Untouched t := by
  refine ⟨?_, ?_, ?_, ⟨Value.set_index_spares, Value.set_member_spares, ?_⟩, ?_, assign_spares, ?_,
    ?_, ?_, ?_, ?_, ?_⟩
  · intro h ref target index value shows present
    rw [shows.set_index]
    refine ⟨set_element_succeeds index value, fun i later number stored => ?_⟩
    obtain rfl := set_element_does number stored
    refine ⟨?_, fun place inside => ?_, array_modify_set ref _⟩
    · rw [array_modify_same present, array_set_size]
    · rw [array_modify_same present] at inside ⊢
      exact array_set_at _ _ value place (array_set_size _ _ value ▸ inside)
  · intro h target name value
    refine ⟨set_member_taken h target name value, fun object later same there stored => ?_⟩
    subst same
    exact set_member_stores there stored
  · intro h object target index value shows there
    rw [shows.set_index]
    refine ⟨?_, fun name later named stored => ?_⟩
    · simp only [set_entry_iff there, ← set_member_succeeds h object _ value]
      exact ⟨fun ⟨later, name, named, stored⟩ => ⟨name, named, later, stored⟩,
        fun ⟨name, named, later, stored⟩ => ⟨later, name, named, stored⟩⟩
    · obtain ⟨same, named', stored⟩ := (set_entry_iff there).1 stored
      cases named.symm.trans named'
      exact set_member_stores there stored
  · exact fun ref arguments =>
      ⟨array_append_spares ref arguments, table_append_spares ref arguments⟩
  · exact fun _ _ _ _ _ _ _ => call_native_spares
  · exact fun _ _ _ _ _ _ _ _ => dim_spares
  · exact fun _ _ _ _ _ _ _ _ _ _ _ => set_member_statement
  · exact fun _ _ _ _ _ _ _ _ _ _ _ _ _ => set_index_statement
  · exact fun _ _ _ _ _ _ _ => step_variable_statement
  · exact fun _ _ _ _ _ _ _ _ _ _ => step_member_statement
  · exact fun _ _ _ _ _ _ _ _ _ _ _ _ => step_index_statement

theorem array_grown_and_entry_stored :
    let h := ((Heap.empty.newArray #[.integer 7]).2.newTable .empty).2
    let target : Value := .object (.array 0)
    let entries : Value := .object (.table 0)
    (∃ later, target.setIndex (.object (.box 0 (.longInteger 2))) (.integer 9) h = .ok () later ∧
      (later.array 0).size = 3 ∧ (later.array 0)[0]? = some (.integer 7) ∧
      (later.array 0)[1]? = some .invalid ∧
      (later.array 0)[2]? = some (.integer 9)) ∧
    (∃ fault, target.setIndex (.integer (-1)) (.integer 9) h = .error fault h) ∧
    (∃ later, entries.setMember "Depth" (.integer 9) h = .ok () later ∧
      later.contents 0 "depth" = some (.integer 9) ∧ later.arrays = h.arrays) ∧
    ∃ later, entries.setIndex (.object (.box 0 (.string "Depth"))) (.integer 9) h = .ok () later ∧
      later.contents 0 "depth" = some (.integer 9) := by
  intro h target entries
  have shows : target.Shows (.array 0) := .inl rfl
  have present : 0 < h.arrays.size := by decide
  have there : h.HasEntries (.table 0) := Nat.zero_lt_one
  have last : (Update.store "Depth" (.integer 9)).apply (h.entries (.table 0)) "depth" =
      some (.integer 9) := by
    have folded : "depth" = fold "Depth" := by decide
    simp only [Update.apply, folded, if_true]
  obtain ⟨stores, members, indexed, ⟨spares, _⟩, _⟩ :=
    stores_whole_or_refused ⟨{}, .empty⟩ (callFunction ⟨{}, .empty⟩)
  refine ⟨?_, ?_, ?_, ?_⟩
  · obtain ⟨happens, does⟩ :=
      stores h 0 target (.object (.box 0 (.longInteger 2))) (.integer 9) shows present
    obtain ⟨later, stored⟩ := happens.2 ⟨2, rfl, by decide, by decide⟩
    obtain ⟨size, elements, _⟩ := does 2 later rfl stored
    have three : (later.array 0).size = 3 := size
    exact ⟨later, stored, three, elements 0 (by omega), elements 1 (by omega),
      elements 2 (by omega)⟩
  · obtain ⟨happens, _⟩ := stores h 0 target (.integer (-1)) (.integer 9) shows present
    cases outcome : target.setIndex (.integer (-1)) (.integer 9) h with
    | ok done later =>
      obtain ⟨i, number, least, _⟩ := happens.1 ⟨later, outcome⟩
      cases number
      exact absurd least (by decide)
    | error fault later =>
      exact ⟨fault, by rw [← spares _ _ _ _ _ _ outcome]⟩
  · obtain ⟨happens, does⟩ := members h entries "Depth" (.integer 9)
    obtain ⟨later, stored⟩ := happens.2 ⟨_, rfl, trivial⟩
    obtain ⟨changed, others⟩ := does _ later rfl there stored
    refine ⟨later, stored, (congrFun changed "depth").trans last, ?_⟩
    rw [show later = _ from others]
  · obtain ⟨happens, does⟩ := indexed h (.table 0) entries (.object (.box 0 (.string "Depth")))
        (.integer 9)
      (.inl rfl) there
    obtain ⟨later, stored⟩ := happens.2 ⟨"Depth", rfl, trivial⟩
    obtain ⟨changed, _⟩ := does _ later rfl stored
    exact ⟨later, stored, (congrFun changed "depth").trans last⟩

end BrightScript
