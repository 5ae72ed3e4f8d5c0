import BrightScript.Machine.Call
import BrightScript.Proofs.Agreement
set_option autoImplicit false

namespace BrightScript

def Stays {ε σ α : Type} (kept : σ → σ → Prop) (x : EStateM ε σ α) : Prop :=
  ∀ s, kept s (finalState (x s))

inductive Callable.Arises : Callable → Prop
  | user (function : Function) : Arises (.user function)
  | method {h : Heap} {object : Object} {name : String} {callable : Callable}
    (found : h.method? object name = some callable) : Arises callable

-- The functions in `later` were in `h` or have come up since.
def Heap.Gains (h later : Heap) : Prop :=
  ∀ callable ∈ later.functions, callable ∈ h.functions ∨ callable.Arises

theorem gains_of_same {h later : Heap} (same : later.functions = h.functions) : h.Gains later :=
  fun _ member => .inl (same ▸ member)

theorem gains_new_function (h : Heap) {callable : Callable} (arises : callable.Arises) :
    h.Gains (h.newFunction callable).2 := by
  intro other member
  rcases Array.mem_push.1 member with old | new
  · exact .inl old
  · exact .inr (new ▸ arises)

section Reading

variable {kept : Heap → Heap → Prop} (refl : ∀ h, kept h h)
  (grown : ∀ h callable, callable.Arises → kept h (h.newFunction callable).2)
include refl grown

theorem method_value_stays (object : Object) (name : String) :
    Stays kept (object.methodValue name) := by
  intro h
  simp only [Object.methodValue, get_bind_apply]
  cases found : h.method? object name with
  | some callable => exact grown h callable (.method found)
  | none => exact refl h

theorem Value.get_member_stays (target : Value) (name : String) :
    Stays kept (target.getMember name) := by
  cases target with
  | object o =>
    cases o with
    | array ref | box mark content => exact method_value_stays refl grown _ name
    | component ref =>
      intro h
      simp only [Value.getMember, Object.getMember, get_bind_apply]
      cases (h.component ref).fields.get? name with
      | some value => exact refl h
      | none => exact method_value_stays refl grown _ name h
    | table ref =>
      intro h
      simp only [Value.getMember, Object.getMember, get_bind_apply]
      cases (h.table ref).get? name with
      | some value => exact refl h
      | none =>
        simp only [get_bind_apply]
        cases found : h.method? (.table ref) name with
        | some callable => exact grown h callable (.method found)
        | none => exact refl h
  | interface shown o =>
    intro h
    simp only [Value.getMember, get_bind_apply]
    cases found : h.method? o name with
    | some callable => exact grown h callable (.method found)
    | none => exact refl h
  | scalar s =>
    cases s with
    | invalid => exact refl
    | boolean | string | integer | longInteger | float | double =>
      exact method_value_stays refl grown _ name
  | uninitialized | function ref => exact refl

omit grown

theorem Value.get_index_stays (target index : Value) : Stays kept (target.getIndex index) := by
  have reads (object : Object) : Stays kept (object.getIndex index) := by
    intro h
    cases object with
    | array ref =>
      simp only [Object.getIndex]
      cases index.toInt64? <;> exact refl h
    | table ref =>
      simp only [Object.getIndex]
      rcases index.scalar? with _ | _ | _ <;> exact refl h
    | component ref =>
      simp only [Object.getIndex]
      split
      · rename_i key
        simp only [get_bind_apply]
        cases (h.component ref).fields.get? key <;> exact refl h
      · exact refl h
    | box mark content => exact refl h
  cases target with
  | object o | interface shown o => exact reads o
  | scalar s | uninitialized | function ref => exact refl

end Reading

theorem Value.get_member_gains (target : Value) (name : String) :
    Stays Heap.Gains (target.getMember name) :=
  target.get_member_stays (fun _ => gains_of_same rfl)
    (fun h _ arises => gains_new_function h arises) name

theorem Value.get_index_gains (target index : Value) : Stays Heap.Gains (target.getIndex index) :=
  target.get_index_stays (fun _ => gains_of_same rfl) index

section Changing

theorem set_field_gains (ref : Nat) (name : String) (value : Value) :
    Stays Heap.Gains (Object.setField ref name value) := by
  intro h
  simp only [Object.setField, get_bind_apply]
  split <;> exact gains_of_same rfl

theorem Value.set_member_gains (target : Value) (name : String) (value : Value) :
    Stays Heap.Gains (target.setMember name value) := by
  cases target with
  | object o =>
    cases o with
    | component ref => exact set_field_gains ref name value
    | array | table | box => exact fun _ => gains_of_same rfl
  | scalar | uninitialized | function | interface => exact fun _ => gains_of_same rfl

theorem Value.set_index_gains (target index value : Value) :
    Stays Heap.Gains (target.setIndex index value) := by
  have stores (object : Object) : Stays Heap.Gains (object.setIndex index value) := by
    intro h
    cases object with
    | array ref =>
      simp only [Object.setIndex]
      rcases index.toInt64? with _ | i
      · exact gains_of_same rfl
      · dsimp only
        cases arrayPlace? i <;> exact gains_of_same rfl
    | table ref =>
      simp only [Object.setIndex]
      rcases index.scalar? with _ | _ | _ <;> exact gains_of_same rfl
    | component ref =>
      simp only [Object.setIndex, get_bind_apply]
      split
      · exact gains_of_same rfl
      · split
        · exact set_field_gains ref _ value h
        · exact gains_of_same rfl
    | box mark content => exact gains_of_same rfl
  cases target with
  | object o | interface shown o => exact stores o
  | scalar s | uninitialized | function ref => exact fun _ => gains_of_same rfl

theorem new_items_functions (entries : List (String × Value)) (h : Heap) :
    (h.newItems entries).2.functions = h.functions := by
  induction entries generalizing h with
  | nil => rfl
  | cons entry rest ih => exact ih _

theorem new_many_functions {make : Heap → Value × Heap}
    (same : ∀ h, (make h).2.functions = h.functions) (count : Nat) (made : Array Value) (h : Heap) :
    (h.newMany make count made).2.functions = h.functions := by
  induction count generalizing made h with
  | zero => rfl
  | succ count ih => exact (ih _ _).trans (same h)

theorem new_grid_functions (lengths : List Nat) (h : Heap) :
    (h.newGrid lengths).2.functions = h.functions := by
  induction lengths generalizing h with
  | nil => rfl
  | cons length rest ih => exact new_many_functions ih length #[] h

theorem array_method_gains (ref : Nat) (method : ArrayMethod) (arguments : List Value) :
    Stays Heap.Gains (method.run ref arguments) := by
  cases method with
  | append =>
    simp only [ArrayMethod.run]
    split <;> exact fun _ => gains_of_same rfl
  | count | push | pop | peek | shift | unshift | clear | isEmpty =>
    exact fun _ => gains_of_same rfl

theorem table_method_gains (ref : Nat) (method : TableMethod) (arguments : List Value) :
    Stays Heap.Gains (method.run ref arguments) := by
  cases method with
  | append =>
    simp only [TableMethod.run]
    split <;> exact fun _ => gains_of_same rfl
  | items => exact fun h => gains_of_same (new_items_functions (h.table ref).entries h)
  | count | clear | isEmpty | doesExist | delete | lookup | addReplace | keys =>
    exact fun _ => gains_of_same rfl

theorem create_gains (components : Table ComponentClass) (name : String) :
    Stays Heap.Gains (Builtin.create components name) := by
  unfold Builtin.create
  repeat' split
  all_goals exact fun _ => gains_of_same rfl

theorem builtin_gains (around : Surroundings) (function : Builtin) (arguments : List Value) :
    Stays Heap.Gains (function.run around arguments) := by
  cases function with
  | str =>
    simp only [Builtin.run, Builtin.strOf]
    split <;> exact fun _ => gains_of_same rfl
  | abs =>
    simp only [Builtin.run, Builtin.absOf]
    split <;> exact fun _ => gains_of_same rfl
  | int | fix | sqr =>
    simp only [Builtin.run, Builtin.number]
    split <;> exact fun _ => gains_of_same rfl
  | createObject => exact fun h => create_gains around.components (h.keyText _) h
  | type | strI | val | valRadix | len | uCase | lCase | box | getGlobalAA | getInterface =>
    exact fun _ => gains_of_same rfl

theorem native_gains (around : Surroundings) (native : Native) (arguments : List Value) :
    Stays Heap.Gains (native.run around arguments) := by
  cases native with
  | builtin function => exact builtin_gains around function arguments
  | arrayMethod ref method => exact array_method_gains ref method arguments
  | tableMethod ref method => exact table_method_gains ref method arguments
  | fieldCount | constant | collect | fail => exact fun _ => gains_of_same rfl

theorem resolve_call_gains (ref : Nat) (arguments : List Value) :
    Stays Heap.Gains (resolveCall ref arguments) := by
  intro h
  simp only [resolveCall, get_bind_apply]
  cases (h.function ref).resolve h.boxes arguments <;> exact gains_of_same rfl

end Changing

end BrightScript
