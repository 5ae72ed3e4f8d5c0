import BrightScript.Proofs.Contents
set_option autoImplicit false

namespace BrightScript

def Value.text? (value : Value) : Option String :=
  match value.scalar? with
  | some (.string text) => some text
  | _ => none

theorem coerce_string (fresh : Nat) (value : Value) :
    coerce? fresh value .string = value.text?.map Value.string := by
  cases value with
  | scalar s => cases s <;> rfl
  | object o =>
    cases o with
    | box mark content => cases content <;> rfl
    | array ref | table ref | component ref => rfl
  | uninitialized | function ref | interface name o => rfl

inductive Handle where
  | object (ref : Nat)
  | interface (name : String) (ref : Nat)

namespace Handle

def ref : Handle → Nat
  | .object ref | .interface _ ref => ref

def value : Handle → Value
  | .object ref => .table ref
  | .interface name ref => .interface name (.table ref)

-- An entry hides the member function of its name, from the object but not from an interface.
def Shows (h : Heap) (name : String) : Handle → Prop
  | .object ref => h.contents ref (fold name) = none
  | .interface _ _ => True

end Handle

namespace TableMethod

def signature (method : TableMethod) : Signature :=
  ⟨method.arguments, method.returns⟩

def callable (ref : Nat) (method : TableMethod) : Callable :=
  .native method.name method.arguments method.returns (.tableMethod ref method)

def update? (h : Heap) : TableMethod → List Value → Option Update
  | .addReplace, [key, value] => key.text?.map (Update.store · value)
  | .delete, [key] => key.text?.map Update.remove
  | .clear, [] => some .clear
  | .append, [.object (.table other)] => some (.absorb (h.contents other))
  | _, _ => none

end TableMethod

inductive Route where
  | member (handle : Handle) (name : String)
  | value (function : Nat) (receiver : Option Nat)

namespace Route

def Leads (h : Heap) (ref : Nat) (method : TableMethod) : Route → Prop
  | .member handle name => handle.ref = ref ∧ sameName method.name name = true ∧ handle.Shows h name
  | .value function _ => h.function function = method.callable ref

def call (setting : Setting) (location : Location) (arguments : List Value) : Route → Exec Value
  | .member handle name => do
    let function ← Exec.onHeap location (handle.value.getMember name)
    invoke (callFunction setting) function name arguments handle.value.receiver? location
  | .value function receiver => callFunction setting function arguments receiver location

end Route

inductive Operation where
  | setMember (handle : Handle) (name : String) (value : Value)
  | setIndex (handle : Handle) (index value : Value)
  | getMember (handle : Handle) (name : String)
  | getIndex (handle : Handle) (index : Value)
  | call (route : Route) (method : TableMethod) (arguments : List Value)

namespace Operation

def On (h : Heap) (ref : Nat) : Operation → Prop
  | .setMember handle _ _ | .setIndex handle _ _ | .getMember handle _ | .getIndex handle _ =>
    handle.ref = ref
  | .call route method _ => route.Leads h ref method

def run (setting : Setting) (location : Location) : Operation → Exec Value
  | .setMember handle name value => do
    Exec.onHeap location (handle.value.setMember name value)
    pure .invalid
  | .setIndex handle index value => do
    Exec.onHeap location (handle.value.setIndex index value)
    pure .invalid
  | .getMember handle name => Exec.onHeap location (handle.value.getMember name)
  | .getIndex handle index => Exec.onHeap location (handle.value.getIndex index)
  | .call route _ arguments => route.call setting location arguments

-- The update that the operation asks for. An interface has no members to set, a key is a string,
-- and a call is refused when as many are open as may be.
def update? (setting : Setting) (s : State) : Operation → Option Update
  | .setMember (.object _) name value => some (.store name value)
  | .setIndex _ index value => index.text?.map (Update.store · value)
  | .call _ method arguments =>
    if s.depth < setting.options.maxCallDepth then method.update? s.heap arguments else none
  | _ => none

end Operation

section Arguments

variable {returns : Kind} {fresh : Nat} {values converted : List Value}

theorem accepts_nothing :
    Signature.accepts? ⟨[], returns⟩ fresh values = some converted ↔ values = [] ∧
      converted = [] := by
  cases values with
  | nil =>
    simp [Signature.accepts?, Signature.admits, Signature.required, Signature.convert?, eq_comm]
  | cons first rest => simp [Signature.accepts?, Signature.admits, Signature.required]

theorem accepts_one {argument : Argument} (needed : argument.optional = false) :
    Signature.accepts? ⟨[argument], returns⟩ fresh values = some converted ↔
      ∃ value result, values = [value] ∧ coerce? fresh value argument.kind = some result ∧
        converted = [result] := by
  match values with
  | [] => simp [Signature.accepts?, Signature.admits, Signature.required, needed]
  | [value] =>
    simp only [Signature.accepts?, Signature.admits, Signature.required, Signature.convert?]
    cases coerced : coerce? fresh value argument.kind <;> simp [needed, coerced, eq_comm]
  | first :: second :: rest =>
    simp [Signature.accepts?, Signature.admits, Signature.required, needed]

theorem accepts_key {name : String} :
    Signature.accepts? ⟨[⟨name, .string, false⟩], returns⟩ fresh values = some converted ↔
      ∃ key text, values = [key] ∧ key.text? = some text ∧ converted = [.string text] := by
  rw [accepts_one rfl]
  constructor
  · rintro ⟨key, result, rfl, coerced, rfl⟩
    rw [coerce_string] at coerced
    obtain ⟨text, found, rfl⟩ := Option.map_eq_some_iff.1 coerced
    exact ⟨key, text, rfl, found, rfl⟩
  · rintro ⟨key, text, rfl, found, rfl⟩
    exact ⟨key, .string text, rfl, by simp [coerce_string, found], rfl⟩

theorem accepts_key_and_value {name other : String} :
    Signature.accepts? ⟨[⟨name, .string, false⟩, ⟨other, .dynamic, false⟩], returns⟩ fresh values =
      some converted ↔
      ∃ key value text, values = [key, value] ∧ key.text? = some text ∧
        converted = [.string text, value] := by
  match values with
  | [] | [_] => simp [Signature.accepts?, Signature.admits, Signature.required]
  | [key, value] =>
    have whole : coerce? (fresh + 1) value .dynamic = some value := by simp [coerce?]
    simp only [Signature.accepts?, Signature.admits, Signature.required, Signature.convert?,
      coerce_string, whole]
    constructor
    · intro accepted
      cases found : key.text? with
      | none => simp [found] at accepted
      | some text =>
        have same : [Value.string text, value] = converted := by simpa [found] using accepted
        exact ⟨key, value, text, rfl, found, same.symm⟩
    · rintro ⟨_, _, text, same, found, rfl⟩
      cases same
      simp [found]
  | _ :: _ :: _ :: _ => simp [Signature.accepts?, Signature.admits, Signature.required]

end Arguments

section Calls

theorem method_named (h : Heap) (ref : Nat) {method : TableMethod} {name : String}
    (named : sameName method.name name = true) :
    h.method? (.table ref) name = some (method.callable ref) := by
  have same : fold method.name = fold name := by simpa [sameName] using named
  have found : TableMethod.all.find? (fun other => sameName other.name name) = some method := by
    simp only [sameName, ← same]
    cases method <;> rfl
  simp only [Heap.method?, found, Option.map_some, TableMethod.callable]

theorem object_member_eq (ref : Nat) (name : String) (h : Heap) :
    (Handle.object ref).value.getMember name h =
      match h.contents ref (fold name) with
      | some value => .ok value h
      | none =>
        match h.method? (.table ref) name with
        | some callable => .ok (.function h.functions.size) (h.newFunction callable).2
        | none => .ok .invalid h := by
  simp only [Handle.value, Value.table, Value.getMember, Object.getMember, get_bind_apply,
    Table.get_contents, Heap.contents]
  cases (h.table ref).contents (fold name) with
  | some value => rfl
  | none =>
    simp only [get_bind_apply]
    cases h.method? (.table ref) name <;> rfl

theorem interface_member_eq (shown : String) (ref : Nat) (name : String) (h : Heap) :
    (Handle.interface shown ref).value.getMember name h =
      match h.method? (.table ref) name with
      | some callable => .ok (.function h.functions.size) (h.newFunction callable).2
      | none => .error (.memberNotFound shown name) h := by
  simp only [Handle.value, Value.getMember, get_bind_apply]
  cases h.method? (.table ref) name <;> rfl

theorem get_member_method {h : Heap} {handle : Handle} {method : TableMethod} {name : String}
    (named : sameName method.name name = true) (shows : handle.Shows h name) :
    handle.value.getMember name h =
      .ok (.function h.functions.size) (h.newFunction (method.callable handle.ref)).2 := by
  cases handle with
  | object ref =>
    have unhidden : h.contents ref (fold name) = none := shows
    rw [object_member_eq, unhidden, method_named h ref named]
    rfl
  | interface shown ref =>
    rw [interface_member_eq, method_named h ref named]
    rfl

def endedIn (s : State) (journal : List Event) (location : Location) :
    EStateM.Result Fault Heap Value → EStateM.Result Halt State Value
  | .ok value heap => .ok value { s with heap, journal }
  | .error fault heap => .error (.error ⟨fault, location⟩) { s with heap, journal }

def State.withFunctions (s : State) (functions : Array Callable) : State :=
  { s with heap := { s.heap with functions } }

variable (setting : Setting) {s : State} {ref : Nat} {method : TableMethod} {arguments : List Value}

theorem resolve_method (fresh : Nat) :
    (method.callable ref).resolve fresh arguments =
      match method.signature.accepts? fresh arguments with
      | some converted => .ok ⟨0, .native (.tableMethod ref method), converted⟩
      | none => .error (.argumentMismatch method.name (method.signature.misfit arguments)) := by
  simp only [Callable.resolve, TableMethod.callable, Callable.native, Callable.choose?,
    TableMethod.signature]
  cases Signature.accepts? ⟨method.arguments, method.returns⟩ fresh arguments <;> rfl

theorem call_method_eq (s : State) (room : s.depth < setting.options.maxCallDepth) {function : Nat}
    (bound : s.heap.function function = method.callable ref) (receiver : Option Nat)
    (location : Location) : callFunction setting function arguments receiver location s =
      match method.signature.accepts? s.heap.boxes arguments with
      | some converted =>
        endedIn s (.entered method.name s.depth :: s.journal) location
          (method.run ref converted { s.heap with boxes := s.heap.boxes + arguments.length })
      | none =>
        .error (.error ⟨.argumentMismatch method.name (method.signature.misfit arguments),
          location⟩) s := by
  rw [call_function_eq, if_neg (Nat.not_le.2 room), enter_eq]
  simp only [resolveCall, get_bind_apply, bound, resolve_method]
  cases method.signature.accepts? s.heap.boxes arguments with
  | none => rfl
  | some converted =>
    have shown : (s.heap.function function).displayName = method.name := by rw [bound]; rfl
    rw [← shown]
    change Exec.inCall _ (Exec.onHeap location (method.run ref converted)) _ = _
    simp only [Exec.inCall, Exec.onHeap]
    cases method.run ref converted { s.heap with boxes := s.heap.boxes + arguments.length } <;> rfl

theorem route_call {route : Route} (leads : route.Leads s.heap ref method) (location : Location) :
    ∃ functions function receiver,
      (s.withFunctions functions).heap.function function = method.callable ref ∧
      route.call setting location arguments s =
        callFunction setting function arguments receiver location (s.withFunctions functions) := by
  cases route with
  | member handle name =>
    obtain ⟨rfl, named, shows⟩ := leads
    have read : Exec.onHeap location (handle.value.getMember name) s =
        .ok (.function s.heap.functions.size)
        (s.withFunctions (s.heap.functions.push (method.callable handle.ref))) := by
      simp only [Exec.onHeap, get_member_method named shows]
      rfl
    refine ⟨_, s.heap.functions.size, handle.value.receiver?, ?_, bind_ran read⟩
    simp [State.withFunctions, Heap.function, Array.getD_eq_getD_getElem?]
  | value function receiver => exact ⟨s.heap.functions, function, receiver, leads, rfl⟩

theorem call_refused {route : Route} (leads : route.Leads s.heap ref method) (location : Location)
    (refused : setting.options.maxCallDepth ≤ s.depth ∨
      method.signature.accepts? s.heap.boxes arguments = none) :
    ∃ functions halt, route.call setting location arguments s =
      .error halt (s.withFunctions functions) := by
  obtain ⟨functions, function, receiver, bound, reached⟩ := route_call setting leads location
  refine ⟨functions, ?_⟩
  rw [reached]
  by_cases room : s.depth < setting.options.maxCallDepth
  · have unfit : method.signature.accepts? (s.withFunctions functions).heap.boxes arguments =
        none :=
      refused.resolve_left (Nat.not_le.2 room)
    rw [call_method_eq setting (s.withFunctions functions) room bound, unfit]
    exact ⟨_, rfl⟩
  · have full : setting.options.maxCallDepth ≤ (s.withFunctions functions).depth :=
      Nat.le_of_not_lt room
    rw [call_function_eq, if_pos full]
    exact ⟨_, rfl⟩

theorem call_accepted {route : Route} (leads : route.Leads s.heap ref method) (location : Location)
    (room : s.depth < setting.options.maxCallDepth) {converted : List Value}
    (accepted : method.signature.accepts? s.heap.boxes arguments = some converted) :
    ∃ functions boxes journal, route.call setting location arguments s =
      endedIn s journal location (method.run ref converted { s.heap with functions, boxes }) := by
  obtain ⟨functions, function, receiver, bound, reached⟩ := route_call setting leads location
  refine ⟨functions, s.heap.boxes + arguments.length, .entered method.name s.depth :: s.journal, ?_⟩
  have fit : method.signature.accepts? (s.withFunctions functions).heap.boxes arguments =
      some converted := accepted
  rw [reached, call_method_eq setting (s.withFunctions functions) room bound, fit]
  rfl

end Calls

section Steps

variable {h : Heap} {ref : Nat} {method : TableMethod} {arguments converted : List Value}

theorem coerce_table {fresh : Nat} {value : Value} {other : Nat}
    (coerced : coerce? fresh value .object = some (.table other)) : value = .table other := by
  cases value with
  | scalar s => cases s <;> cases coerced
  | object o => cases coerced; rfl
  | uninitialized | function ref | interface name o => cases coerced

theorem append_refuses (h : Heap) (ref : Nat) {value : Value}
    (different : ∀ other, value ≠ .table other) :
    TableMethod.append.update? h [value] = none ∧
      finalState (TableMethod.append.run ref [value] h) = h := by
  cases value with
  | object o =>
    cases o with
    | table other => exact absurd rfl (different other)
    | array ref | box mark content | component ref => exact ⟨rfl, rfl⟩
  | scalar s | uninitialized | function ref | interface name o => exact ⟨rfl, rfl⟩

theorem method_updates (h : Heap) (present : ref < h.tables.size) {fresh : Nat}
    (accepted : method.signature.accepts? fresh arguments = some converted) :
    h.Updated ref (method.update? h arguments) (finalState (method.run ref converted h)) := by
  cases method with
  | count | isEmpty =>
    obtain ⟨rfl, rfl⟩ := accepts_nothing.1 accepted
    exact Heap.updated_none present (.refl _ h)
  | keys =>
    obtain ⟨rfl, rfl⟩ := accepts_nothing.1 accepted
    exact Heap.updated_none present (Heap.new_array_kept h _)
  | items =>
    obtain ⟨rfl, rfl⟩ := accepts_nothing.1 accepted
    exact Heap.updated_none present ((Heap.new_items_kept h _).trans (Heap.new_array_kept _ _))
  | doesExist | lookup =>
    obtain ⟨key, text, rfl, found, rfl⟩ := accepts_key.1 accepted
    exact Heap.updated_none present (.refl _ h)
  | clear =>
    obtain ⟨rfl, rfl⟩ := accepts_nothing.1 accepted
    exact Heap.updated_modify present rfl
  | delete =>
    obtain ⟨key, text, rfl, found, rfl⟩ := accepts_key.1 accepted
    simp only [TableMethod.update?, found, Option.map_some]
    exact Heap.updated_modify present (Table.contents_erase _ text)
  | addReplace =>
    obtain ⟨key, value, text, rfl, found, rfl⟩ := accepts_key_and_value.1 accepted
    simp only [TableMethod.update?, found, Option.map_some]
    exact Heap.updated_modify present (Table.contents_insert _ text value)
  | append =>
    obtain ⟨value, object, rfl, coerced, rfl⟩ := (accepts_one rfl).1 accepted
    by_cases whole : ∃ other, value = .table other
    · obtain ⟨other, rfl⟩ := whole
      cases coerced
      exact Heap.updated_modify present (Table.contents_absorb _ (h.table other))
    · have different : ∀ other, value ≠ .table other := fun other same => whole ⟨other, same⟩
      have differentObject : ∀ other, object ≠ .table other := by
        intro other same
        exact different other (coerce_table (same ▸ coerced))
      rw [(append_refuses h ref different).1, (append_refuses h ref differentObject).2]
      exact Heap.updated_none present (.refl _ h)

theorem refused_updates_nothing {fresh : Nat}
    (refused : method.signature.accepts? fresh arguments = none) :
    method.update? h arguments = none := by
  cases asked : method.update? h arguments with
  | none => rfl
  | some update =>
    have accepted : ∃ converted, method.signature.accepts? fresh arguments = some converted := by
      unfold TableMethod.update? at asked
      split at asked
      · obtain ⟨text, found, -⟩ := Option.map_eq_some_iff.1 asked
        exact ⟨_, accepts_key_and_value.2 ⟨_, _, text, rfl, found, rfl⟩⟩
      · obtain ⟨text, found, -⟩ := Option.map_eq_some_iff.1 asked
        exact ⟨_, accepts_key.2 ⟨_, text, rfl, found, rfl⟩⟩
      · exact ⟨_, accepts_nothing.2 ⟨rfl, rfl⟩⟩
      · exact ⟨_, (accepts_one rfl).2 ⟨_, _, rfl, rfl, rfl⟩⟩
      · cases asked
    obtain ⟨converted, taken⟩ := accepted
    rw [refused] at taken
    cases taken

theorem final_ended_in (s : State) (journal : List Event) (location : Location)
    (outcome : EStateM.Result Fault Heap Value) :
    (finalState (endedIn s journal location outcome)).heap = finalState outcome := by
  cases outcome <;> rfl

variable (setting : Setting) {s : State}

theorem call_updates {route : Route} (leads : route.Leads s.heap ref method)
    (present : ref < s.heap.tables.size) (location : Location) :
    s.heap.Updated ref ((Operation.call route method arguments).update? setting s)
      (finalState (route.call setting location arguments s)).heap := by
  simp only [Operation.update?]
  by_cases room : s.depth < setting.options.maxCallDepth
  · rw [if_pos room]
    cases accepted : method.signature.accepts? s.heap.boxes arguments with
    | none =>
      obtain ⟨functions, halt, refused⟩ := call_refused setting leads location (.inr accepted)
      rw [refused, refused_updates_nothing accepted]
      exact Heap.updated_none present (.of_same rfl rfl)
    | some converted =>
      obtain ⟨functions, boxes, journal, ended⟩ :=
        call_accepted setting leads location room accepted
      rw [ended, final_ended_in]
      have kept : s.heap.Kept Heap.nothing { s.heap with functions, boxes } := .of_same rfl rfl
      exact Heap.updated_after_kept present kept
        (method_updates { s.heap with functions, boxes } present accepted)
  · rw [if_neg room]
    obtain ⟨functions, halt, refused⟩ :=
      call_refused setting leads location (.inl (Nat.le_of_not_lt room))
    rw [refused]
    exact Heap.updated_none present (.of_same rfl rfl)

theorem set_index_eq (handle : Handle) (index value : Value) (h : Heap) :
    handle.value.setIndex index value h =
      match index.text? with
      | some key => .ok () (h.modifyTable handle.ref (·.insert key value))
      | none => .error (.typeMismatch "roAssociativeArray[]" .object (some index.kind)) h := by
  cases handle <;> simp only [Handle.value, Value.table, Value.setIndex, Object.setIndex,
    Value.text?] <;>
    cases index.scalar? with
    | none => rfl
    | some content => cases content <;> rfl

theorem get_index_eq (handle : Handle) (index : Value) (h : Heap) :
    handle.value.getIndex index h =
      match index.text? with
      | some key => .ok ((h.contents handle.ref (fold key)).getD .invalid) h
      | none => .error (.typeMismatch "roAssociativeArray[]" .object (some index.kind)) h := by
  cases handle <;> simp only [Handle.value, Value.table, Value.getIndex, Object.getIndex,
    Value.text?] <;>
    cases index.scalar? with
    | none => rfl
    | some content => cases content <;> rfl

theorem get_member_kept (handle : Handle) (name : String) (h : Heap) :
    h.Kept Heap.nothing (finalState (handle.value.getMember name h)) := by
  cases handle with
  | object ref =>
    rw [object_member_eq]
    split
    · exact .refl _ h
    · split
      · exact .of_same rfl rfl
      · exact .refl _ h
  | interface shown ref =>
    rw [interface_member_eq]
    split
    · exact .of_same rfl rfl
    · exact .refl _ h

theorem final_on_heap {α : Type} (location : Location) (access : Access α) (s : State) :
    (finalState (Exec.onHeap location access s)).heap = finalState (access s.heap) := by
  simp only [Exec.onHeap]
  cases access s.heap <;> rfl

theorem final_on_heap_unit (location : Location) (access : Access Unit) (s : State) :
    (finalState ((do Exec.onHeap location access; pure .invalid : Exec Value) s)).heap =
      finalState (access s.heap) := by
  simp only [bind, EStateM.bind, Exec.onHeap]
  cases access s.heap <;> rfl

theorem operation_updates {operation : Operation} (on : operation.On s.heap ref)
    (present : ref < s.heap.tables.size) (location : Location) :
    s.heap.Updated ref (operation.update? setting s)
      (finalState (operation.run setting location s)).heap := by
  cases operation with
  | setMember handle name value =>
    cases on
    rw [Operation.run, final_on_heap_unit]
    cases handle with
    | object ref => exact Heap.updated_modify present (Table.contents_insert _ name value)
    | interface shown ref => exact Heap.updated_none present (.refl _ s.heap)
  | setIndex handle index value =>
    cases on
    rw [Operation.run, final_on_heap_unit, set_index_eq]
    simp only [Operation.update?]
    cases index.text? with
    | some key => exact Heap.updated_modify present (Table.contents_insert _ key value)
    | none => exact Heap.updated_none present (.refl _ s.heap)
  | getMember handle name =>
    rw [Operation.run, final_on_heap]
    exact Heap.updated_none present (get_member_kept handle name s.heap)
  | getIndex handle index =>
    rw [Operation.run, final_on_heap, get_index_eq]
    cases index.text? <;> exact Heap.updated_none present (.refl _ s.heap)
  | call route method arguments => exact call_updates setting on present location

end Steps

-- A run of operations, each with the table it is on and the update it asks for. An operation that
-- fails ends as it fails, and the run goes on from there; between operations anything may happen
-- that leaves tables and arrays alone.
inductive Performs (setting : Setting) : State → List (Nat × Option Update) → State → Prop
  | done (s : State) : Performs setting s [] s
  | elsewhere {s later t : State} {steps : List (Nat × Option Update)}
      (kept : s.heap.Kept Heap.nothing later.heap) (rest : Performs setting later steps t) :
      Performs setting s steps t
  | operation {s t : State} {steps : List (Nat × Option Update)} {ref : Nat} (operation : Operation)
      (location : Location) (on : operation.On s.heap ref) (present : ref < s.heap.tables.size)
      (rest : Performs setting (finalState (operation.run setting location s)) steps t) :
      Performs setting s ((ref, operation.update? setting s) :: steps) t

def updatesOf (ref : Nat) (steps : List (Nat × Option Update)) : List Update :=
  steps.flatMap fun step => if step.1 = ref then step.2.toList else []

section Runs

variable {setting : Setting} {s t : State} {steps : List (Nat × Option Update)}

theorem performs_kept (run : Performs setting s steps t) :
    s.heap.Kept (· ∈ steps.map Prod.fst) t.heap := by
  induction run with
  | done s => exact .refl _ s.heap
  | elsewhere kept _ ih => exact (kept.imp fun _ => False.elim).trans ih
  | operation operation location on present _ ih =>
    have step := (operation_updates setting on present location).kept
    refine (step.imp ?_).trans (ih.imp fun _ member => List.mem_cons_of_mem _ member)
    intro other same
    exact same ▸ List.mem_cons_self

theorem performs_contents (run : Performs setting s steps t) {ref : Nat}
    (present : ref < s.heap.tables.size) :
    t.heap.contents ref = (updatesOf ref steps).foldl Update.apply (s.heap.contents ref) := by
  induction run with
  | done s => rfl
  | elsewhere kept _ ih =>
    rw [ih (Nat.lt_of_lt_of_le present kept.tablesRemain)]
    simp only [Heap.contents, kept.tables ref present id]
  | @operation s t steps target operation location on reached _ ih =>
    have step := operation_updates setting on reached location
    rw [ih (Nat.lt_of_lt_of_le present step.kept.tablesRemain)]
    by_cases same : target = ref
    · cases same
      simp only [updatesOf, List.flatMap_cons, if_true, List.foldl_append, step.contents]
    · simp only [updatesOf, List.flatMap_cons, if_neg same, List.nil_append, Heap.contents,
        step.kept.tables ref present (Ne.symm same)]

end Runs

def Operation.Gives (setting : Setting) (s : State) (ref : Nat) (operation : Operation)
    (value : Value) : Prop :=
  operation.On s.heap ref → ∀ location, ∃ t, operation.run setting location s = .ok value t

-- What reading the table at `ref` and going through it shows, for every spelling of a key.
structure ReadsAs (setting : Setting) (s : State) (ref : Nat) (contents : Contents)
    (listing : List String) : Prop where
  indexed : ∀ (handle : Handle) (index : Value) (key : String), index.text? = some key →
    (Operation.getIndex handle index).Gives setting s ref ((contents (fold key)).getD .invalid)
  dotted : ∀ name value, contents (fold name) = some value →
    (Operation.getMember (.object ref) name).Gives setting s ref value
  visited : ∀ handle : Handle, handle.ref = ref → ∀ call item target body place before,
    evaluate call target before = .ok handle.value s →
      execute setting call (.forEach item target body place) before =
        forEachLoop item (executeBlock setting call body) (listing.map Value.string) s

structure AnswersAs (setting : Setting) (s : State) (ref : Nat) (contents : Contents)
    (listing : List String) : Prop where
  lookup : ∀ route key text, key.text? = some text →
    (Operation.call route .lookup [key]).Gives setting s ref ((contents (fold text)).getD .invalid)
  doesExist : ∀ route key text, key.text? = some text →
    (Operation.call route .doesExist [key]).Gives setting s ref
      (.boolean (contents (fold text)).isSome)
  count : ∀ route, (Operation.call route .count []).Gives setting s ref
    (.integer (Int32.ofNat (min listing.length (Nat.pow 2 31 - 1))))
  keys : ∀ route, (Operation.call route .keys []).On s.heap ref → ∀ location,
    ∃ array t, (Operation.call route .keys []).run setting location s = .ok (.array array) t ∧
      (t.heap.array array).toList = listing.map Value.string
  items : ∀ route, (Operation.call route .items []).On s.heap ref → ∀ location,
    ∃ array t, (Operation.call route .items []).run setting location s = .ok (.array array) t ∧
      t.heap.Itemized contents listing (t.heap.array array).toList

section Views

variable (setting : Setting) (s : State) (ref : Nat)

theorem table_reads : ReadsAs setting s ref (s.heap.contents ref) (s.heap.table ref).keys where
  indexed handle index key text on location := by
    cases on
    refine ⟨s, ?_⟩
    simp only [Operation.run, Exec.onHeap, get_index_eq, text]
  dotted name value found _ location := by
    refine ⟨s, ?_⟩
    simp only [Operation.run, Exec.onHeap, object_member_eq, found]
  visited handle on call item target body place before evaluated := by
    cases on
    have elements : s.heap.visited? handle.value =
        some ((s.heap.table handle.ref).keys.map Value.string) := by
      cases handle <;> rfl
    rw [execute, bind_ran evaluated, get_bind_apply, elements]
    rfl

theorem keys_run (h : Heap) :
    ∃ array later, TableMethod.keys.run ref [] h = .ok (.array array) later ∧
      (later.array array).toList = (h.table ref).keys.map Value.string :=
  ⟨h.arrays.size, _, rfl, congrArg Array.toList (Heap.new_array_array h _)⟩

theorem items_run (h : Heap) :
    ∃ array later, TableMethod.items.run ref [] h = .ok (.array array) later ∧
      later.Itemized (h.contents ref) (h.table ref).keys (later.array array).toList := by
  have made := Heap.new_items_itemized h (h.table ref)
  refine ⟨_, ((h.newItems (h.table ref).entries).2.newArray
    (h.newItems (h.table ref).entries).1.toArray).2, rfl, ?_⟩
  rw [Heap.new_array_array]
  exact ⟨made.length, made.each⟩

theorem table_answers (room : s.depth < setting.options.maxCallDepth) :
    AnswersAs setting s ref (s.heap.contents ref) (s.heap.table ref).keys where
  lookup route key text found on location := by
    obtain ⟨functions, boxes, journal, ended⟩ :=
      call_accepted setting on location room (accepts_key.2 ⟨key, text, rfl, found, rfl⟩)
    exact ⟨_, ended⟩
  doesExist route key text found on location := by
    obtain ⟨functions, boxes, journal, ended⟩ :=
      call_accepted setting on location room (accepts_key.2 ⟨key, text, rfl, found, rfl⟩)
    exact ⟨_, ended⟩
  count route on location := by
    obtain ⟨functions, boxes, journal, ended⟩ :=
      call_accepted setting on location room (accepts_nothing.2 ⟨rfl, rfl⟩)
    have length : (s.heap.table ref).keys.length = (s.heap.table ref).size := List.length_map _
    rw [length]
    exact ⟨_, ended⟩
  keys route on location := by
    obtain ⟨functions, boxes, journal, ended⟩ :=
      call_accepted setting on location room (accepts_nothing.2 ⟨rfl, rfl⟩)
    obtain ⟨array, later, run, elements⟩ := keys_run ref { s.heap with functions, boxes }
    rw [run] at ended
    exact ⟨array, _, ended, elements⟩
  items route on location := by
    obtain ⟨functions, boxes, journal, ended⟩ :=
      call_accepted setting on location room (accepts_nothing.2 ⟨rfl, rfl⟩)
    obtain ⟨array, later, run, elements⟩ := items_run ref { s.heap with functions, boxes }
    rw [run] at ended
    exact ⟨array, _, ended, elements⟩

end Views

section Literals

theorem evaluate_members_names (call : Call) {members : List Member} {pairs : List (String × Value)}
    {s t : State} (evaluated : evaluateMembers call members s = .ok pairs t) :
    pairs.map Prod.fst = members.map Member.name := by
  induction members generalizing pairs s t with
  | nil =>
    cases evaluated
    rfl
  | cons member rest ih =>
    obtain ⟨name, value, place⟩ := member
    rw [evaluateMembers] at evaluated
    simp only [bind, EStateM.bind] at evaluated
    split at evaluated
    · rename_i first later _
      split at evaluated
      · rename_i others last behind
        cases evaluated
        simp only [List.map_cons, ih behind]
      · cases evaluated
    · cases evaluated

theorem literal_made (call : Call) {members : List Member} {pairs : List (String × Value)}
    {s t : State} (evaluated : evaluateMembers call members s = .ok pairs t) (place : Location) :
    evaluate call (.table members place) s =
      .ok (.table t.heap.tables.size) { t with heap := (t.heap.newTable (.ofList pairs)).2 } := by
  rw [evaluate, bind_ran evaluated]
  rfl

theorem literal_contents (h : Heap) (pairs : List (String × Value)) :
    (h.newTable (.ofList pairs)).2.contents h.tables.size =
      (pairs.map fun pair => Update.store pair.1 pair.2).foldl Update.apply fun _ => none := by
  rw [Heap.contents, Heap.new_table_table, Table.ofList, Table.contents_insert_all,
    Table.contents_empty]

end Literals

/-- In every run of operations the contents of a table become what the updates asked of it make of
them; every way of reading shows these contents, under every spelling of a key and in the order of
the keys' bytes; and the arrays, and the tables that no operation was on, are unchanged. A literal
makes a table of its own, with its members stored in order. -/
theorem associative_array_refines_map (setting : Setting) :
    (∀ s steps t, Performs setting s steps t → ∀ ref < s.heap.tables.size,
      ∃ contents listing, contents =
        (updatesOf ref steps).foldl Update.apply (s.heap.contents ref) ∧
        t.heap.contents ref = contents ∧ Lists listing contents ∧
        ReadsAs setting t ref contents listing ∧
        (t.depth < setting.options.maxCallDepth → AnswersAs setting t ref contents listing) ∧
        s.heap.Kept (· ∈ steps.map Prod.fst) t.heap) ∧
    ∀ call members place s pairs t, evaluateMembers call members s = .ok pairs t →
      ∃ later, evaluate call (.table members place) s = .ok (.table t.heap.tables.size) later ∧
        pairs.map Prod.fst = members.map Member.name ∧ t.heap.tables.size < later.heap.tables.size ∧
        later.heap.contents t.heap.tables.size =
          (pairs.map fun pair => Update.store pair.1 pair.2).foldl Update.apply (fun _ => none) ∧
        t.heap.Kept Heap.nothing later.heap := by
  constructor
  · intro s steps t run ref present
    have reached := performs_contents run present
    exact ⟨t.heap.contents ref, (t.heap.table ref).keys, reached, rfl,
      (t.heap.table ref).lists_keys, table_reads setting t ref, table_answers setting t ref,
        performs_kept run⟩
  · intro call members place s pairs t evaluated
    refine ⟨_, literal_made call evaluated place, evaluate_members_names call evaluated, ?_,
      literal_contents t.heap pairs, Heap.new_table_kept t.heap _⟩
    simp [Heap.newTable]

theorem recased_member_replaced :
    let setting : Setting := ⟨{}, .empty⟩
    let place := Location.internal
    let member : Member := ⟨"Key", .literal (.integer 1) place, place⟩
    ∃ made t listing,
      evaluate (callFunction setting) (.table [member] place) (State.initial none) =
      .ok (.table 1) made ∧
      1 < made.heap.tables.size ∧
      Performs setting made [(1, some (.store "KEY" (.integer 2))), (1, some (.remove "b"))] t ∧
      t.heap.contents 1 "key" = some (.integer 2) ∧
        ReadsAs setting t 1 (t.heap.contents 1) listing := by
  intro setting place member
  have members : evaluateMembers (callFunction setting) [member] (State.initial none) =
      .ok [("Key", .integer 1)] (State.initial none) := rfl
  obtain ⟨made, evaluated, -, present, -⟩ :=
    (associative_array_refines_map setting).2 _ _ place _ _ _ members
  let replace := Operation.setIndex (.interface "ifAssociativeArray" 1)
      (.object (.box 0 (.string "KEY"))) (.integer 2)
  let delete := Operation.call (.member (.object 1) "Delete") .delete [.string "b"]
  have run : Performs setting made [(1, some (.store "KEY" (.integer 2))), (1, some (.remove "b"))]
      (finalState (delete.run setting place (finalState (replace.run setting place made)))) := by
    have known := (literal_made (callFunction setting) members place).symm.trans evaluated
    injection known with _ same
    subst same
    exact .operation replace place rfl present
      (.operation delete place ⟨rfl, by decide, rfl⟩ (by decide) (.done _))
  obtain ⟨_, listing, mapped, same, -, reads, -⟩ :=
    (associative_array_refines_map setting).1 _ _ _ run 1 present
  refine ⟨made, _, listing, evaluated, present, run, ?_, same ▸ reads⟩
  rw [same, mapped]
  rfl

end BrightScript
