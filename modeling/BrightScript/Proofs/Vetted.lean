import BrightScript.Machine.Call
import BrightScript.Proofs.Agreement
import BrightScript.Proofs.Functions
set_option autoImplicit false

namespace BrightScript

-- Every fault but those that a limit on calls or a signal nobody took gives rise to.
def Fault.isOrdinary : Fault → Bool
  | .stackOverflow _ | .labelNotFound _ | .exitOutsideLoop _ => false
  | _ => true

variable (check : Function → Bool) (faults : Fault → Prop)

def Native.Vetted : Native → Prop
  | .fail cause => faults cause
  | _ => True

def Code.Vetted : Code → Prop
  | .native own => own.Vetted faults
  | .user function => function.everyFunction check = true

def Callable.Vetted (c : Callable) : Prop :=
  ∀ overload ∈ c.overloads, overload.code.Vetted check faults

def ComponentClass.Vetted (c : ComponentClass) : Prop :=
  ∀ member ∈ c.members, ∀ cause, member.method = .fail cause → faults cause

structure Heap.Vetted (h : Heap) : Prop where
  functions : ∀ callable ∈ h.functions, callable.Vetted check faults
  components : ∀ component ∈ h.components, component.class_.Vetted faults

def ClassesVetted (classes : Table ComponentClass) : Prop :=
  ∀ name class_, classes.get? name = some class_ → class_.Vetted faults

abbrev Safe {α : Type} (gives : α → Prop) (x : Access α) : Prop :=
  Keeps (Heap.Vetted check faults) faults gives x

variable {check faults} {α : Type}

namespace Heap

variable {h : Heap}

theorem vetted_function (vetted : h.Vetted check faults) (ref : Nat) :
    (h.function ref).Vetted check faults := by
  unfold function
  by_cases inside : ref < h.functions.size
  · rw [Array.getD_eq_getD_getElem?, Array.getElem?_eq_getElem inside]
    exact vetted.functions _ (Array.getElem_mem inside)
  · rw [Array.getD_eq_getD_getElem?, Array.getElem?_eq_none (Nat.le_of_not_lt inside)]
    intro overload member
    cases member

theorem vetted_component (vetted : h.Vetted check faults) (ref : Nat) :
    (h.component ref).class_.Vetted faults := by
  unfold component
  by_cases inside : ref < h.components.size
  · rw [Array.getD_eq_getD_getElem?, Array.getElem?_eq_getElem inside]
    exact vetted.components _ (Array.getElem_mem inside)
  · rw [Array.getD_eq_getD_getElem?, Array.getElem?_eq_none (Nat.le_of_not_lt inside)]
    intro member present
    cases present

theorem vetted_new_function (vetted : h.Vetted check faults) (callable : Callable)
    (passed : callable.Vetted check faults) : (h.newFunction callable).2.Vetted check faults := by
  refine ⟨?_, vetted.components⟩
  intro other member
  rcases Array.mem_push.1 member with old | new
  · exact vetted.functions other old
  · exact new ▸ passed

theorem vetted_new_component (vetted : h.Vetted check faults) (component : Component)
    (passed : component.class_.Vetted faults) :
    (h.newComponent component).2.Vetted check faults := by
  refine ⟨vetted.functions, ?_⟩
  intro other member
  rcases Array.mem_push.1 member with old | new
  · exact vetted.components other old
  · exact new ▸ passed

theorem vetted_modify_component (vetted : h.Vetted check faults) (ref : Nat)
    (f : Component → Component) (sameClass : ∀ c, (f c).class_ = c.class_) :
    (h.modifyComponent ref f).Vetted check faults := by
  refine ⟨vetted.functions, ?_⟩
  intro component member
  obtain ⟨place, inside, found⟩ := Array.getElem_of_mem member
  simp only [modifyComponent, Array.size_modify] at inside
  simp only [modifyComponent, Array.getElem_modify] at found
  have old := vetted.components _ (Array.getElem_mem inside)
  split at found
  · rw [← found, sameClass]
    exact old
  · exact found ▸ old

theorem vetted_new_items (entries : List (String × Value)) (vetted : h.Vetted check faults) :
    (h.newItems entries).2.Vetted check faults := by
  induction entries generalizing h with
  | nil => exact vetted
  | cons entry rest ih => exact ih ⟨vetted.functions, vetted.components⟩

theorem vetted_new_many (make : Heap → Value × Heap)
    (kept : ∀ h : Heap, h.Vetted check faults → (make h).2.Vetted check faults) (count : Nat)
    (made : Array Value) (vetted : h.Vetted check faults) :
    (newMany make count made h).2.Vetted check faults := by
  induction count generalizing made h with
  | zero => exact vetted
  | succ count ih => exact ih _ (kept h vetted)

theorem vetted_new_grid (lengths : List Nat) (vetted : h.Vetted check faults) :
    (newGrid lengths h).2.Vetted check faults := by
  induction lengths generalizing h with
  | nil => exact vetted
  | cons length rest ih =>
    have made := vetted_new_many (newGrid rest) (fun _ => ih) length #[] vetted
    exact ⟨made.functions, made.components⟩

theorem vetted_native (name : String) (arguments : List Argument) (returns : Kind)
    (native : Native) (passed : native.Vetted faults) :
    (Callable.native name arguments returns native).Vetted check faults := by
  intro overload member
  rw [List.mem_singleton.1 member]
  exact passed

theorem vetted_box_method (content : Scalar) (name : String) (callable : Callable)
    (found : content.boxMethod? name = some callable) : callable.Vetted check faults := by
  unfold Scalar.boxMethod? Scalar.getter at found
  split at found <;> cases found <;> exact vetted_native _ _ _ _ trivial

theorem vetted_method (vetted : h.Vetted check faults) (object : Object) (name : String)
    (callable : Callable) (found : h.method? object name = some callable) :
    callable.Vetted check faults := by
  cases object with
  | array ref =>
    obtain ⟨method, _, rfl⟩ := Option.map_eq_some_iff.1 found
    exact vetted_native _ _ _ _ trivial
  | table ref =>
    obtain ⟨method, _, rfl⟩ := Option.map_eq_some_iff.1 found
    exact vetted_native _ _ _ _ trivial
  | box mark content => exact vetted_box_method content _ callable found
  | component ref =>
    obtain ⟨member, present, rfl⟩ := Option.map_eq_some_iff.1 found
    apply vetted_native
    cases same : member.method with
    | size => trivial
    | fail cause =>
      exact vetted_component vetted ref member (List.mem_of_find?_eq_some present) cause same

end Heap

section

variable (ordinary : ∀ fault : Fault, fault.isOrdinary = true → faults fault)

theorem safe_modify (f : Heap → Heap)
    (kept : ∀ h, h.Vetted check faults → (f h).Vetted check faults) :
    Safe check faults Any (modify f : Access PUnit) :=
  keeps_modify f kept

theorem safe_new_function (callable : Callable) (passed : callable.Vetted check faults) :
    Safe check faults Any (newFunction callable) :=
  keeps_modify_get _ fun _ vetted => ⟨Heap.vetted_new_function vetted callable passed, trivial⟩

include ordinary

theorem safe_throw (fault : Fault) (plain : fault.isOrdinary = true) {gives : α → Prop} :
    Safe check faults gives (throw fault : Access α) :=
  keeps_throw fault (ordinary fault plain)

namespace Object

theorem safe_index_mismatch (object : Object) (index : Value) {gives : α → Prop} :
    Safe check faults gives (indexMismatch object index : Access α) :=
  agree_get_bind fun _ _ => safe_throw ordinary _ rfl

theorem safe_member_missing (object : Object) (name : String) {gives : α → Prop} :
    Safe check faults gives (memberMissing object name : Access α) :=
  agree_get_bind fun _ _ => safe_throw ordinary _ rfl

theorem safe_method_value (object : Object) (name : String) :
    Safe check faults Any (methodValue object name) := by
  refine agree_get_bind fun h vetted => ?_
  split
  · rename_i callable found
    exact safe_new_function callable (Heap.vetted_method vetted object name callable found)
  · exact safe_member_missing ordinary object name

theorem safe_get_member (object : Object) (name : String) :
    Safe check faults Any (getMember object name) := by
  cases object with
  | table ref =>
    refine agree_get_bind fun h vetted => ?_
    split
    · exact keeps_pure _ trivial
    · refine agree_get_bind fun h vetted => ?_
      split
      · rename_i callable found
        exact safe_new_function callable (Heap.vetted_method vetted _ name callable found)
      · exact keeps_pure _ trivial
  | component ref =>
    refine agree_get_bind fun h vetted => ?_
    split
    · exact keeps_pure _ trivial
    · exact safe_method_value ordinary _ name
  | array ref => exact safe_method_value ordinary _ name
  | box mark content => exact safe_method_value ordinary _ name

theorem safe_set_field (ref : Nat) (name : String) (value : Value) :
    Safe check faults Any (setField ref name value) := by
  refine agree_get_bind fun h vetted => ?_
  dsimp only
  split
  · exact safe_throw ordinary _ rfl
  · exact safe_modify _ fun h vetted => Heap.vetted_modify_component vetted ref _ fun _ => rfl

theorem safe_set_member (object : Object) (name : String) (value : Value) :
    Safe check faults Any (setMember object name value) := by
  cases object with
  | table ref => exact safe_modify _ fun h vetted => ⟨vetted.functions, vetted.components⟩
  | component ref => exact safe_set_field ordinary ref name value
  | array ref => exact safe_member_missing ordinary _ name
  | box mark content => exact safe_member_missing ordinary _ name

theorem safe_get_index (object : Object) (index : Value) :
    Safe check faults Any (getIndex object index) := by
  cases object with
  | array ref =>
    unfold getIndex
    dsimp only
    split
    · exact agree_get_bind fun _ _ => keeps_pure _ trivial
    · exact safe_index_mismatch ordinary _ index
  | table ref =>
    unfold getIndex
    dsimp only
    split
    · exact agree_get_bind fun _ _ => keeps_pure _ trivial
    · exact safe_index_mismatch ordinary _ index
  | component ref =>
    unfold getIndex
    dsimp only
    split
    · refine agree_get_bind fun _ _ => ?_
      split
      · exact keeps_pure _ trivial
      · exact safe_throw ordinary _ rfl
    · exact safe_throw ordinary _ rfl
  | box mark content => exact safe_throw ordinary _ rfl

theorem safe_set_index (object : Object) (index value : Value) :
    Safe check faults Any (setIndex object index value) := by
  cases object with
  | array ref =>
    unfold setIndex
    dsimp only
    split
    · split
      · exact safe_modify _ fun h vetted => ⟨vetted.functions, vetted.components⟩
      · exact safe_throw ordinary _ rfl
    · exact safe_index_mismatch ordinary _ index
  | table ref =>
    unfold setIndex
    dsimp only
    split
    · exact safe_modify _ fun h vetted => ⟨vetted.functions, vetted.components⟩
    · exact safe_index_mismatch ordinary _ index
  | component ref =>
    refine agree_get_bind fun _ _ => ?_
    split
    · exact safe_throw ordinary _ rfl
    · split
      · exact safe_set_field ordinary ref _ value
      · exact safe_throw ordinary _ rfl
  | box mark content => exact safe_throw ordinary _ rfl

end Object

namespace Value

theorem safe_get_member (target : Value) (name : String) :
    Safe check faults Any (target.getMember name) := by
  unfold getMember
  split
  · exact Object.safe_get_member ordinary _ name
  · refine agree_get_bind fun h vetted => ?_
    split
    · rename_i callable found
      exact safe_new_function callable (Heap.vetted_method vetted _ name callable found)
    · exact safe_throw ordinary _ rfl
  · exact safe_throw ordinary _ rfl
  · exact safe_throw ordinary _ rfl
  · exact safe_throw ordinary _ rfl
  · exact Object.safe_get_member ordinary _ name

theorem safe_set_member (target : Value) (name : String) (value : Value) :
    Safe check faults Any (target.setMember name value) := by
  unfold setMember
  split
  · exact Object.safe_set_member ordinary _ name value
  · exact safe_throw ordinary _ rfl

theorem safe_get_index (target index : Value) :
    Safe check faults Any (target.getIndex index) := by
  unfold getIndex
  split
  · exact Object.safe_get_index ordinary _ index
  · exact Object.safe_get_index ordinary _ index
  · exact safe_throw ordinary _ rfl

theorem safe_set_index (target index value : Value) :
    Safe check faults Any (target.setIndex index value) := by
  unfold setIndex
  split
  · exact Object.safe_set_index ordinary _ index value
  · exact Object.safe_set_index ordinary _ index value
  · exact safe_throw ordinary _ rfl

end Value

theorem safe_array_method (ref : Nat) (method : ArrayMethod) (arguments : List Value) :
    Safe check faults Any (method.run ref arguments) := by
  have stored : ∀ (f : Array Value → Array Value) (value : Value),
      Safe check faults Any (do modify fun h => h.modifyArray ref f; pure value : Access Value) :=
    fun f value => agree_bind (safe_modify _ fun h vetted => ⟨vetted.functions, vetted.components⟩)
      fun _ _ => keeps_pure value trivial
  cases method with
  | count => exact agree_get_bind fun _ _ => keeps_pure _ trivial
  | peek => exact agree_get_bind fun _ _ => keeps_pure _ trivial
  | isEmpty => exact agree_get_bind fun _ _ => keeps_pure _ trivial
  | push => exact stored _ _
  | unshift => exact stored _ _
  | clear => exact stored _ _
  | pop => exact agree_get_bind fun _ _ => stored _ _
  | shift => exact agree_get_bind fun _ _ => stored _ _
  | append =>
    unfold ArrayMethod.run
    dsimp only
    split
    · exact agree_get_bind fun _ _ => stored _ _
    · exact agree_get_bind fun _ _ => safe_throw ordinary _ rfl

theorem safe_table_method (ref : Nat) (method : TableMethod) (arguments : List Value) :
    Safe check faults Any (method.run ref arguments) := by
  have stored : ∀ (f : Table Value → Table Value) (value : Value),
      Safe check faults Any (do modify fun h => h.modifyTable ref f; pure value : Access Value) :=
    fun f value => agree_bind (safe_modify _ fun h vetted => ⟨vetted.functions, vetted.components⟩)
      fun _ _ => keeps_pure value trivial
  cases method with
  | count => exact agree_get_bind fun _ _ => keeps_pure _ trivial
  | isEmpty => exact agree_get_bind fun _ _ => keeps_pure _ trivial
  | doesExist => exact agree_get_bind fun _ _ => keeps_pure _ trivial
  | lookup => exact agree_get_bind fun _ _ => keeps_pure _ trivial
  | clear => exact stored _ _
  | delete => exact agree_get_bind fun _ _ => stored _ _
  | addReplace => exact agree_get_bind fun _ _ => stored _ _
  | keys =>
    exact keeps_modify_get _ fun h vetted => ⟨⟨vetted.functions, vetted.components⟩, trivial⟩
  | items =>
    refine keeps_modify_get _ fun h vetted => ⟨?_, trivial⟩
    have made := Heap.vetted_new_items (h.table ref).entries vetted
    exact ⟨made.functions, made.components⟩
  | append =>
    unfold TableMethod.run
    dsimp only
    split
    · exact agree_get_bind fun _ _ => stored _ _
    · exact agree_get_bind fun _ _ => safe_throw ordinary _ rfl

omit ordinary in
theorem safe_create (components : Table ComponentClass)
    (classes : ClassesVetted faults components) (name : String) :
    Safe check faults Any (Builtin.create components name) := by
  unfold Builtin.create
  split
  · exact keeps_modify_get _ fun h vetted => ⟨⟨vetted.functions, vetted.components⟩, trivial⟩
  · exact keeps_modify_get _ fun h vetted => ⟨⟨vetted.functions, vetted.components⟩, trivial⟩
  · split
    · exact keeps_modify_get _ fun h vetted => ⟨⟨vetted.functions, vetted.components⟩, trivial⟩
    · split
      · rename_i class_ found
        exact keeps_modify_get _ fun h vetted =>
          ⟨Heap.vetted_new_component vetted _ (classes name class_ found), trivial⟩
      · exact keeps_pure _ trivial

theorem safe_number (function : Builtin) (value : Value) :
    Safe check faults Any (function.number value) := by
  unfold Builtin.number
  split
  · exact keeps_pure _ trivial
  · exact safe_throw ordinary _ rfl

theorem safe_str_of (value : Value) : Safe check faults Any (Builtin.strOf value) := by
  unfold Builtin.strOf
  split
  · exact keeps_pure _ trivial
  · exact keeps_pure _ trivial
  · exact keeps_pure _ trivial
  · exact keeps_pure _ trivial
  · exact safe_throw ordinary _ rfl

theorem safe_abs_of (value : Value) : Safe check faults Any (Builtin.absOf value) := by
  unfold Builtin.absOf
  split
  · exact keeps_pure _ trivial
  · exact keeps_pure _ trivial
  · exact keeps_pure _ trivial
  · exact keeps_pure _ trivial
  · exact safe_throw ordinary _ rfl

theorem safe_builtin (around : Surroundings) (classes : ClassesVetted faults around.components)
    (function : Builtin) (arguments : List Value) :
    Safe check faults Any (function.run around arguments) := by
  cases function with
  | type => exact agree_get_bind fun _ _ => keeps_pure _ trivial
  | str => exact safe_str_of ordinary _
  | strI => exact agree_get_bind fun _ _ => keeps_pure _ trivial
  | val => exact agree_get_bind fun _ _ => keeps_pure _ trivial
  | valRadix => exact agree_get_bind fun _ _ => keeps_pure _ trivial
  | len => exact agree_get_bind fun _ _ => keeps_pure _ trivial
  | uCase => exact agree_get_bind fun _ _ => keeps_pure _ trivial
  | lCase => exact agree_get_bind fun _ _ => keeps_pure _ trivial
  | abs => exact safe_abs_of ordinary _
  | int => exact agree_bind (safe_number ordinary _ _) fun _ _ => keeps_pure _ trivial
  | fix => exact agree_bind (safe_number ordinary _ _) fun _ _ => keeps_pure _ trivial
  | sqr => exact agree_bind (safe_number ordinary _ _) fun _ _ => keeps_pure _ trivial
  | createObject => exact agree_get_bind fun _ _ => safe_create _ classes _
  | box =>
    exact keeps_modify_get _ fun h vetted => ⟨⟨vetted.functions, vetted.components⟩, trivial⟩
  | getGlobalAA => exact keeps_pure _ trivial
  | getInterface => exact agree_get_bind fun _ _ => keeps_pure _ trivial

theorem safe_native (around : Surroundings) (classes : ClassesVetted faults around.components)
    (native : Native) (passed : native.Vetted faults) (arguments : List Value) :
    Safe check faults Any (native.run around arguments) := by
  cases native with
  | builtin function => exact safe_builtin ordinary around classes function arguments
  | arrayMethod ref method => exact safe_array_method ordinary ref method arguments
  | tableMethod ref method => exact safe_table_method ordinary ref method arguments
  | fieldCount ref => exact agree_get_bind fun _ _ => keeps_pure _ trivial
  | constant value => exact keeps_pure _ trivial
  | collect =>
    exact keeps_modify_get _ fun h vetted => ⟨⟨vetted.functions, vetted.components⟩, trivial⟩
  | fail cause => exact keeps_throw cause passed

omit ordinary in
theorem choose_vetted {fresh : Nat} {values : List Value} {index : Nat} {overloads : List Overload}
    {choice : Callable.Choice}
    (chosen : Callable.choose? fresh values index overloads = some choice)
    (passed : ∀ overload ∈ overloads, overload.code.Vetted check faults) :
    choice.code.Vetted check faults := by
  induction overloads generalizing index with
  | nil => cases chosen
  | cons overload rest ih =>
    unfold Callable.choose? at chosen
    split at chosen
    · cases chosen
      exact passed overload List.mem_cons_self
    · exact ih chosen fun other member => passed other (List.mem_cons_of_mem _ member)

theorem safe_resolve_call (ref : Nat) (arguments : List Value) :
    Safe check faults (fun choice => choice.code.Vetted check faults)
      (resolveCall ref arguments) := by
  refine agree_get_bind fun h vetted => ?_
  dsimp only
  unfold Callable.resolve
  cases chosen : Callable.choose? h.boxes arguments 0 (h.function ref).overloads with
  | none => exact safe_throw ordinary _ rfl
  | some choice =>
    refine agree_bind (safe_modify _ fun h vetted => ⟨vetted.functions, vetted.components⟩)
      fun _ _ => ?_
    exact keeps_pure choice (choose_vetted chosen (Heap.vetted_function vetted ref))

end

end BrightScript
