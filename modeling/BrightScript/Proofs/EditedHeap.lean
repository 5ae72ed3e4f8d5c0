import BrightScript.Proofs.Edits
import BrightScript.Proofs.RestyledHeap
set_option autoImplicit false

namespace BrightScript

def Argument.edited (edit : Edit) (a : Argument) : Argument :=
  { a with name := edit.name a.name }

def Signature.edited (edit : Edit) (s : Signature) : Signature :=
  { s with arguments := s.arguments.map (Argument.edited edit) }

def Code.edited (edit : Edit) : Code → Code
  | .native own => .native own
  | .user function => .user (function.edited edit)

def Overload.edited (edit : Edit) (o : Overload) : Overload :=
  match o.code with
  | .native _ => o
  | .user function => ⟨o.signature.edited edit, .user (function.edited edit)⟩

def Callable.edited (edit : Edit) (c : Callable) : Callable :=
  { c with overloads := c.overloads.map (Overload.edited edit) }

def Callable.Choice.edited (edit : Edit) (c : Callable.Choice) : Callable.Choice :=
  { c with code := c.code.edited edit }

def Edit.restyle (edit : Edit) : Restyle where
  apply := Callable.edited edit
  named _ := rfl
  missing := rfl
  native _ _ _ _ := rfl

def Fault.edited (edit : Edit) : Fault → Fault
  | .undefinedFunction name => .undefinedFunction (edit.name name)
  | .memberNotFound component name => .memberNotFound component (edit.name name)
  | .assignmentMismatch name found => .assignmentMismatch (edit.name name) found
  | .labelNotFound label => .labelNotFound (edit.name label)
  | .argumentMismatch function detail => .argumentMismatch function (edit.name detail)
  | other => other

variable {α : Type} {f : α → α} {edit : Edit}

theorem Fault.edited_again (fault : Fault) :
    (fault.edited edit).edited edit = fault.edited edit := by
  cases fault <;> simp only [Fault.edited, edit.again]

def Edit.KeepsNames (edit : Edit) : Prop :=
  ∀ n, edit.name n = n

theorem Fault.edited_kept (kept : edit.KeepsNames) (fault : Fault) : fault.edited edit = fault := by
  cases fault <;> simp only [Fault.edited, kept _]

-- What is done to the edited heap echoes what is done to the heap, but for the spelling in faults.
def Echoes (edit : Edit) (f : α → α) (access twin : Access α) : Prop :=
  ∀ h : Heap, mapOutcome id (Fault.edited edit) id (twin (h.restyled edit.restyle)) =
    mapOutcome (Heap.restyled edit.restyle) (Fault.edited edit) f (access h)

theorem echoes_of_blind {access : Access α} (blind : Blind edit.restyle access) :
    Echoes edit id access access := by
  intro h
  rw [blind h]
  cases access h <;> rfl

theorem echoes_respelled {access twin : Access α} (blind : Blind edit.restyle access)
    (same : ∀ h, mapOutcome id (Fault.edited edit) id (twin h) =
      mapOutcome id (Fault.edited edit) id (access h)) :
    Echoes edit id access twin :=
  fun h => (same _).trans (echoes_of_blind blind h)

theorem Table.get_edited (t : Table α) (name : String) : t.get? (edit.name name) = t.get? name := by
  unfold Table.get?
  rw [edit.same]

theorem Table.insert_edited (t : Table α) (name : String) (value : α) :
    t.insert (edit.name name) value = t.insert name value := by
  simp only [Table.insert, edit.same]

theorem same_name_edited (a b : String) : sameName a (edit.name b) = sameName a b := by
  unfold sameName
  rw [edit.same]

theorem edited_same_name (a b : String) : sameName (edit.name a) b = sameName a b := by
  unfold sameName
  rw [edit.same]

theorem Heap.method_edited (h : Heap) (object : Object) (name : String) :
    h.method? object (edit.name name) = h.method? object name := by
  cases object <;> simp only [Heap.method?, same_name_edited, edit.same]

theorem Fault.member_not_found_edited (component name : String) :
    (Fault.memberNotFound component (edit.name name)).edited edit =
      (Fault.memberNotFound component name).edited edit :=
  congrArg (Fault.memberNotFound component) (edit.again name)

namespace Object

theorem member_missing_edited (object : Object) (name : String) (h : Heap) :
    mapOutcome id (Fault.edited edit) id
      (memberMissing object (edit.name name) h : EStateM.Result _ _ α) =
      mapOutcome id (Fault.edited edit) id (memberMissing object name h) :=
  congrArg (EStateM.Result.error · h) (Fault.member_not_found_edited _ name)

theorem method_value_edited (object : Object) (name : String) (h : Heap) :
    mapOutcome id (Fault.edited edit) id (methodValue object (edit.name name) h) =
      mapOutcome id (Fault.edited edit) id (methodValue object name h) := by
  simp only [methodValue, get_bind_apply, h.method_edited]
  cases h.method? object name with
  | some callable => rfl
  | none => exact member_missing_edited object name h

theorem get_member_edited (object : Object) (name : String) (h : Heap) :
    mapOutcome id (Fault.edited edit) id (getMember object (edit.name name) h) =
      mapOutcome id (Fault.edited edit) id (getMember object name h) := by
  cases object with
  | table ref => simp only [getMember, Table.get_edited, Heap.method_edited]
  | component ref =>
    simp only [getMember, Table.get_edited, get_bind_apply]
    cases (h.component ref).fields.get? name with
    | some value => rfl
    | none => exact method_value_edited _ name h
  | array ref | box mark content => exact method_value_edited _ name h

theorem set_member_edited (object : Object) (name : String) (value : Value) (h : Heap) :
    mapOutcome id (Fault.edited edit) id (setMember object (edit.name name) value h) =
      mapOutcome id (Fault.edited edit) id (setMember object name value h) := by
  cases object with
  | table ref => simp only [setMember, Table.insert_edited]
  | component ref =>
    have locked : sameName (edit.name name) = sameName name := funext (edited_same_name name)
    simp only [setMember, setField, Table.insert_edited, locked]
    change mapOutcome _ _ _ ((if _ then _ else _ : Access Unit) h) =
      mapOutcome _ _ _ ((if _ then _ else _ : Access Unit) h)
    split
    · exact congrArg (EStateM.Result.error · h) (Fault.member_not_found_edited _ name)
    · rfl
  | array ref | box mark content => exact member_missing_edited _ name h

end Object

namespace Value

theorem echoes_get_member (target : Value) (name : String) :
    Echoes edit id (target.getMember name) (target.getMember (edit.name name)) := by
  refine echoes_respelled (target.blind_get_member name) fun h => ?_
  unfold getMember
  split
  · exact Object.get_member_edited _ name h
  · next shown object =>
    simp only [get_bind_apply, Heap.method_edited]
    cases h.method? object name with
    | some callable => rfl
    | none => exact congrArg (EStateM.Result.error · h) (Fault.member_not_found_edited _ name)
  · rfl
  · rfl
  · rfl
  · exact Object.get_member_edited _ name h

theorem echoes_set_member (target : Value) (name : String) (value : Value) :
    Echoes edit id (target.setMember name value) (target.setMember (edit.name name) value) := by
  refine echoes_respelled (target.blind_set_member name value) fun h => ?_
  unfold setMember
  split
  · exact Object.set_member_edited _ name value h
  · rfl

end Value

theorem Edit.empty (edit : Edit) : edit.name "" = "" := by
  have twice : edit.name "" = edit.name "" ++ edit.name "" := edit.append "" ""
  have lengths := congrArg String.length twice
  rw [String.length_append] at lengths
  exact String.length_eq_zero_iff.1 (by omega)

theorem Edit.intercalate (edit : Edit) (separator : String) (texts : List String) :
    edit.name (separator.intercalate texts) =
      (edit.name separator).intercalate (texts.map edit.name) := by
  match texts with
  | [] => exact edit.empty
  | [_] => simp only [List.map_cons, List.map_nil, String.intercalate_singleton]
  | first :: second :: rest =>
    have later := edit.intercalate separator (second :: rest)
    simp only [List.map_cons] at later ⊢
    rw [String.intercalate_cons_cons, String.intercalate_cons_cons, edit.append, edit.append, later]

namespace Signature

theorem argument_text_edited (a : Argument) :
    edit.name (argumentText (a.edited edit)) = edit.name (argumentText a) := by
  unfold argumentText Argument.edited
  split <;> simp only [toString, edit.append, edit.again]

theorem text_edited (s : Signature) : edit.name (s.edited edit).text = edit.name s.text := by
  simp only [text, edited, toString, edit.append, edit.intercalate, List.map_map]
  congr 4
  exact List.map_congr_left fun a _ => argument_text_edited a

theorem required_edited (s : Signature) : (s.edited edit).required = s.required := by
  unfold required edited
  rw [List.filter_map, List.length_map]
  rfl

theorem admits_edited (s : Signature) (count : Nat) :
    (s.edited edit).admits count = s.admits count := by
  unfold admits
  rw [required_edited, edited, List.length_map]

theorem convert_edited (fresh : Nat) (values : List Value) (arguments : List Argument) :
    convert? fresh values (arguments.map (Argument.edited edit)) =
      convert? fresh values arguments := by
  induction values generalizing fresh arguments with
  | nil => cases arguments <;> rfl
  | cons value values ih =>
    cases arguments with
    | nil => rfl
    | cons argument arguments =>
      rw [List.map_cons, convert?, convert?, ih]
      rfl

theorem accepts_edited (s : Signature) (fresh : Nat) (values : List Value) :
    (s.edited edit).accepts? fresh values = s.accepts? fresh values := by
  unfold accepts?
  rw [admits_edited, edited, convert_edited]

theorem first_misfit_edited (values : List Value) (arguments : List Argument) :
    firstMisfit? values (arguments.map (Argument.edited edit)) =
      (firstMisfit? values arguments).map fun (value, argument) =>
        (value, argument.edited edit) := by
  induction values generalizing arguments with
  | nil => cases arguments <;> rfl
  | cons value values ih =>
    cases arguments with
    | nil => rfl
    | cons argument arguments =>
      rw [List.map_cons, firstMisfit?, firstMisfit?, ih]
      change (if (coerce? 0 value argument.kind).isNone then _ else _) = _
      split <;> rfl

theorem misfit_edited (s : Signature) (values : List Value) :
    edit.name ((s.edited edit).misfit values) = edit.name (s.misfit values) := by
  unfold misfit
  simp only [required_edited, admits_edited]
  have most : (s.edited edit).arguments.length = s.arguments.length := by
    rw [edited, List.length_map]
  have misfit : firstMisfit? values (s.edited edit).arguments = _ :=
    first_misfit_edited values s.arguments
  rw [most, misfit]
  split
  · rfl
  · cases firstMisfit? values s.arguments with
    | none => rfl
    | some pair => simp only [Option.map_some, Argument.edited, toString, edit.append, edit.again]

end Signature

namespace Overload

theorem code_edited (o : Overload) : (o.edited edit).code = o.code.edited edit := by
  unfold edited
  cases code : o.code with
  | native own => exact code
  | user function => rfl

theorem accepts_edited (o : Overload) (fresh : Nat) (values : List Value) :
    (o.edited edit).signature.accepts? fresh values = o.signature.accepts? fresh values := by
  unfold edited
  cases o.code with
  | native own => rfl
  | user function => exact o.signature.accepts_edited fresh values

theorem misfit_edited (o : Overload) (values : List Value) :
    edit.name ((o.edited edit).signature.misfit values) =
      edit.name (o.signature.misfit values) := by
  unfold edited
  cases o.code with
  | native own => rfl
  | user function => exact o.signature.misfit_edited values

theorem text_edited (o : Overload) :
    edit.name (o.edited edit).signature.text = edit.name o.signature.text := by
  unfold edited
  cases o.code with
  | native own => rfl
  | user function => exact o.signature.text_edited

end Overload

namespace Callable

theorem choose_edited (fresh : Nat) (values : List Value) (index : Nat)
    (overloads : List Overload) :
    choose? fresh values index (overloads.map (Overload.edited edit)) =
      (choose? fresh values index overloads).map (Choice.edited edit) := by
  induction overloads generalizing index with
  | nil => rfl
  | cons overload rest ih =>
    rw [List.map_cons, choose?, choose?, overload.accepts_edited, overload.code_edited]
    cases overload.signature.accepts? fresh values with
    | some arguments => rfl
    | none => exact ih (index + 1)

theorem misfit_edited (c : Callable) (values : List Value) :
    edit.name ((c.edited edit).misfit values) = edit.name (c.misfit values) := by
  obtain ⟨name, overloads⟩ := c
  match overloads with
  | [] => rfl
  | [only] => exact only.misfit_edited values
  | first :: second :: rest =>
    simp only [misfit, edited, List.map_cons, toString, edit.append, edit.intercalate, List.map_map,
      Overload.text_edited]
    congr 5
    exact funext fun o : Overload => o.text_edited

end Callable

theorem echoes_resolve_call (ref : Nat) (arguments : List Value) :
    Echoes edit (Callable.Choice.edited edit) (resolveCall ref arguments)
      (resolveCall ref arguments) := by
  intro h
  have boxes : (h.restyled edit.restyle).boxes = h.boxes := rfl
  have found : (h.restyled edit.restyle).function ref = (h.function ref).edited edit :=
    h.function_restyled ref
  simp only [resolveCall, get_bind_apply, boxes, found, Callable.resolve]
  have chosen : Callable.choose? h.boxes arguments 0 ((h.function ref).edited edit).overloads = _ :=
    Callable.choose_edited h.boxes arguments 0 (h.function ref).overloads
  rw [chosen]
  cases Callable.choose? h.boxes arguments 0 (h.function ref).overloads with
  | some choice => rfl
  | none =>
    have detail : edit.name (((h.function ref).edited edit).misfit arguments) =
      edit.name ((h.function ref).misfit arguments) := (h.function ref).misfit_edited arguments
    exact congrArg (fun text => EStateM.Result.error
      (Fault.argumentMismatch (h.function ref).displayName text) _) detail

end BrightScript
