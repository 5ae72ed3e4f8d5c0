import BrightScript.Machine.Call
import BrightScript.Proofs.Agreement
set_option autoImplicit false

namespace BrightScript

section

variable {ε σ α β : Type}

def mapOutcome (onState : σ → σ) (onFailure : ε → ε) (f : α → α) :
    EStateM.Result ε σ α → EStateM.Result ε σ α
  | .ok a s => .ok (f a) (onState s)
  | .error e s => .error (onFailure e) (onState s)

theorem outcomes_matched {onState : σ → σ} {read onFailure : ε → ε} {f : α → α}
    {outcome twin : EStateM.Result ε σ α}
    (same : mapOutcome id read id twin = mapOutcome onState onFailure f outcome) :
    (∃ a s, outcome = .ok a s ∧ twin = .ok (f a) (onState s)) ∨
      ∃ e d s, outcome = .error e s ∧ twin = .error d (onState s) ∧ read d = onFailure e := by
  cases outcome with
  | ok a s =>
    cases twin with
    | ok b t =>
      injection same with value state
      exact .inl ⟨a, s, rfl, congr (congrArg EStateM.Result.ok value) state⟩
    | error d t => cases same
  | error e s =>
    cases twin with
    | ok b t => cases same
    | error d t =>
      injection same with failure state
      exact .inr ⟨e, d, s, rfl, congrArg (EStateM.Result.error d) state, failure⟩

def Mirrors (onState : σ → σ) (onFailure : ε → ε) (f : α → α) (x y : EStateM ε σ α) : Prop :=
  ∀ s, y (onState s) = mapOutcome onState onFailure f (x s)

variable {onState : σ → σ} {onFailure : ε → ε} {f : α → α} {g : β → β}

theorem mirrors_bind {x y : EStateM ε σ α} {next twin : α → EStateM ε σ β}
    (first : Mirrors onState onFailure f x y)
    (later : ∀ a, Mirrors onState onFailure g (next a) (twin (f a))) :
    Mirrors onState onFailure g (x >>= next) (y >>= twin) := by
  intro s
  change EStateM.bind y twin (onState s) = mapOutcome _ _ _ (EStateM.bind x next s)
  unfold EStateM.bind
  rw [first s]
  cases x s with
  | ok a t => exact later a t
  | error e t => rfl

theorem mirrors_get_bind {next twin : σ → EStateM ε σ β}
    (later : ∀ s, Mirrors onState onFailure g (next s) (twin (onState s))) :
    Mirrors onState onFailure g (get >>= next) (get >>= twin) :=
  fun s => later s s

end

-- A change to functions that leaves their names as they are, and whatever is none of the program's.
structure Restyle where
  apply : Callable → Callable
  named : ∀ c, (apply c).displayName = c.displayName
  missing : apply default = default
  native : ∀ name arguments returns own,
    apply (.native name arguments returns own) = .native name arguments returns own

def Heap.restyled (g : Restyle) (h : Heap) : Heap :=
  { h with functions := h.functions.map g.apply }

abbrev Blind {α : Type} (g : Restyle) (x : Access α) : Prop :=
  Mirrors (Heap.restyled g) id id x x

variable {g : Restyle}

namespace Heap

theorem function_restyled (h : Heap) (ref : Nat) :
    (h.restyled g).function ref = g.apply (h.function ref) := by
  simp only [function, restyled, Array.getD_eq_getD_getElem?, Array.getElem?_map]
  cases h.functions[ref]? with
  | some callable => rfl
  | none => exact g.missing.symm

theorem listed_restyled (h : Heap) (value : Value) :
    (h.restyled g).listed value = h.listed value := by
  cases value with
  | function ref => simp only [listed, function_restyled, g.named]
  | object object => cases object <;> rfl
  | scalar | uninitialized | interface => rfl

theorem text_restyled (h : Heap) (value : Value) : (h.restyled g).text value = h.text value := by
  cases value with
  | object object =>
    cases object with
    | array ref => simp only [text, objectText, funext h.listed_restyled]; rfl
    | table ref => simp only [text, objectText, listed_restyled]; rfl
    | box | component => rfl
  | function ref => exact h.listed_restyled (.function ref)
  | scalar | uninitialized | interface => rfl

theorem key_text_restyled (h : Heap) (value : Value) :
    (h.restyled g).keyText value = h.keyText value := by
  unfold keyText
  split
  · rfl
  · exact h.text_restyled _

theorem new_items_restyled (entries : List (String × Value)) (h : Heap) :
    (h.restyled g).newItems entries =
      ((h.newItems entries).1, (h.newItems entries).2.restyled g) := by
  induction entries generalizing h with
  | nil => rfl
  | cons entry rest ih =>
    have later := ih (h.newTable (itemTable entry.1 entry.2)).2
    exact congrArg (fun made : List Value × Heap => (.table h.tables.size :: made.1, made.2)) later

theorem new_many_restyled (make : Heap → Value × Heap)
    (same : ∀ h : Heap, make (h.restyled g) = ((make h).1, (make h).2.restyled g)) (count : Nat)
    (made : Array Value) (h : Heap) :
    newMany make count made (h.restyled g) =
      ((newMany make count made h).1, (newMany make count made h).2.restyled g) := by
  induction count generalizing made h with
  | zero => rfl
  | succ count ih =>
    unfold newMany
    rw [same h]
    exact ih _ _

theorem new_grid_restyled (lengths : List Nat) (h : Heap) :
    newGrid lengths (h.restyled g) = ((newGrid lengths h).1, (newGrid lengths h).2.restyled g) := by
  induction lengths generalizing h with
  | nil => rfl
  | cons length rest ih =>
    unfold newGrid
    rw [new_many_restyled (newGrid rest) ih]
    rfl

theorem method_restyled (h : Heap) (object : Object) (name : String) (callable : Callable)
    (found : h.method? object name = some callable) : g.apply callable = callable := by
  cases object with
  | array ref | table ref | component ref =>
    obtain ⟨method, _, rfl⟩ := Option.map_eq_some_iff.1 found
    exact g.native _ _ _ _
  | box mark content =>
    simp only [method?, Scalar.boxMethod?, Scalar.getter] at found
    split at found <;> cases found <;> exact g.native _ _ _ _

end Heap

theorem blind_new_function (callable : Callable) (bare : g.apply callable = callable) :
    Blind g (newFunction callable) := by
  intro h
  change EStateM.Result.ok _ _ = EStateM.Result.ok _ _
  simp [Heap.restyled, bare]

namespace Object

theorem blind_method_value (object : Object) (name : String) :
    Blind g (methodValue object name) := by
  refine mirrors_get_bind fun h => ?_
  change Blind g _
  split
  · rename_i callable found
    exact blind_new_function callable (h.method_restyled object name callable found)
  · exact fun _ => rfl

theorem blind_get_member (object : Object) (name : String) : Blind g (getMember object name) := by
  cases object with
  | table ref =>
    refine mirrors_get_bind fun h => ?_
    change Blind g _
    split
    · exact fun _ => rfl
    · refine mirrors_get_bind fun h => ?_
      change Blind g _
      split
      · rename_i callable found
        exact blind_new_function callable (h.method_restyled _ name callable found)
      · exact fun _ => rfl
  | component ref =>
    refine mirrors_get_bind fun h => ?_
    change Blind g _
    split
    · exact fun _ => rfl
    · exact blind_method_value _ name
  | array ref | box mark content => exact blind_method_value _ name

theorem blind_set_field (ref : Nat) (name : String) (value : Value) :
    Blind g (setField ref name value) := by
  refine mirrors_get_bind fun h => ?_
  change Blind g (if _ then _ else _)
  split <;> exact fun _ => rfl

theorem blind_set_member (object : Object) (name : String) (value : Value) :
    Blind g (setMember object name value) := by
  cases object with
  | component ref => exact blind_set_field ref name value
  | table ref | array ref | box mark content => exact fun _ => rfl

theorem blind_get_index (object : Object) (index : Value) : Blind g (getIndex object index) := by
  cases object with
  | array ref =>
    unfold getIndex
    dsimp only
    split <;> exact fun _ => rfl
  | table ref =>
    unfold getIndex
    dsimp only
    split <;> exact fun _ => rfl
  | component ref =>
    unfold getIndex
    dsimp only
    split
    · refine mirrors_get_bind fun h => ?_
      change Blind g _
      split <;> exact fun _ => rfl
    · exact fun _ => rfl
  | box mark content => exact fun _ => rfl

theorem blind_set_index (object : Object) (index value : Value) :
    Blind g (setIndex object index value) := by
  cases object with
  | array ref =>
    unfold setIndex
    dsimp only
    split
    · split <;> exact fun _ => rfl
    · exact fun _ => rfl
  | table ref =>
    unfold setIndex
    dsimp only
    split <;> exact fun _ => rfl
  | component ref =>
    refine mirrors_get_bind fun h => ?_
    change Blind g _
    split
    · exact fun _ => rfl
    · split
      · exact blind_set_field ref _ value
      · exact fun _ => rfl
  | box mark content => exact fun _ => rfl

end Object

namespace Value

theorem blind_get_member (target : Value) (name : String) : Blind g (target.getMember name) := by
  unfold getMember
  split
  · exact Object.blind_get_member _ name
  · refine mirrors_get_bind fun h => ?_
    change Blind g _
    split
    · rename_i callable found
      exact blind_new_function callable (h.method_restyled _ name callable found)
    · exact fun _ => rfl
  · exact fun _ => rfl
  · exact fun _ => rfl
  · exact fun _ => rfl
  · exact Object.blind_get_member _ name

theorem blind_set_member (target : Value) (name : String) (value : Value) :
    Blind g (target.setMember name value) := by
  unfold setMember
  split
  · exact Object.blind_set_member _ name value
  · exact fun _ => rfl

theorem blind_get_index (target index : Value) : Blind g (target.getIndex index) := by
  unfold getIndex
  split
  · exact Object.blind_get_index _ index
  · exact Object.blind_get_index _ index
  · exact fun _ => rfl

theorem blind_set_index (target index value : Value) : Blind g (target.setIndex index value) := by
  unfold setIndex
  split
  · exact Object.blind_set_index _ index value
  · exact Object.blind_set_index _ index value
  · exact fun _ => rfl

end Value

theorem blind_array_method (ref : Nat) (method : ArrayMethod) (arguments : List Value) :
    Blind g (method.run ref arguments) := by
  cases method with
  | append =>
    unfold ArrayMethod.run
    dsimp only
    split
    · exact fun _ => rfl
    · exact fun _ => rfl
  | count | push | pop | peek | shift | unshift | clear | isEmpty => exact fun _ => rfl

theorem blind_table_method (ref : Nat) (method : TableMethod) (arguments : List Value) :
    Blind g (method.run ref arguments) := by
  cases method with
  | count | clear | isEmpty | keys => exact fun _ => rfl
  | doesExist | lookup | delete | addReplace =>
    refine mirrors_get_bind fun h => ?_
    rw [h.key_text_restyled]
    exact fun _ => rfl
  | items =>
    intro h
    have made := h.new_items_restyled (g := g) (h.table ref).entries
    exact congrArg (fun made : List Value × Heap =>
      (EStateM.Result.ok (made.2.newArray made.1.toArray).1 (made.2.newArray made.1.toArray).2 :
        EStateM.Result Fault Heap Value)) made
  | append =>
    unfold TableMethod.run
    dsimp only
    split
    · exact fun _ => rfl
    · exact fun _ => rfl

theorem blind_create (components : Table ComponentClass) (name : String) :
    Blind g (Builtin.create components name) := by
  unfold Builtin.create
  split
  · exact fun _ => rfl
  · exact fun _ => rfl
  · split
    · exact fun _ => rfl
    · split <;> exact fun _ => rfl

theorem blind_number (function : Builtin) (value : Value) : Blind g (function.number value) := by
  unfold Builtin.number
  split <;> exact fun _ => rfl

theorem blind_str_of (value : Value) : Blind g (Builtin.strOf value) := by
  unfold Builtin.strOf
  split <;> exact fun _ => rfl

theorem blind_abs_of (value : Value) : Blind g (Builtin.absOf value) := by
  unfold Builtin.absOf
  split <;> exact fun _ => rfl

theorem str_i_restyled (h : Heap) (value : Value) (radix : Option Value) :
    Builtin.strIOf (h.restyled g) value radix = Builtin.strIOf h value radix := by
  unfold Builtin.strIOf
  split
  · rfl
  · exact h.text_restyled _

theorem blind_builtin (around : Surroundings) (function : Builtin) (arguments : List Value) :
    Blind g (function.run around arguments) := by
  cases function with
  | type | box | getGlobalAA => exact fun _ => rfl
  | str => exact blind_str_of _
  | abs => exact blind_abs_of _
  | int | fix | sqr => exact mirrors_bind (blind_number _ _) fun _ _ => rfl
  | strI =>
    refine mirrors_get_bind fun h => ?_
    rw [str_i_restyled]
    exact fun _ => rfl
  | val | valRadix | len | uCase | lCase | getInterface =>
    refine mirrors_get_bind fun h => ?_
    rw [h.key_text_restyled]
    exact fun _ => rfl
  | createObject =>
    refine mirrors_get_bind fun h => ?_
    rw [h.key_text_restyled]
    exact blind_create _ _

theorem blind_native (around : Surroundings) (native : Native) (arguments : List Value) :
    Blind g (native.run around arguments) := by
  cases native with
  | builtin function => exact blind_builtin around function arguments
  | arrayMethod ref method => exact blind_array_method ref method arguments
  | tableMethod ref method => exact blind_table_method ref method arguments
  | fieldCount ref | constant value | collect | fail cause => exact fun _ => rfl

end BrightScript
