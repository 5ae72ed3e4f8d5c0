import BrightScript.Proofs.FunctionOrigins
import BrightScript.Proofs.Vetted
set_option autoImplicit false

namespace BrightScript

-- An invariant that outlasts whatever an expression does by itself, with the faults and halts that
-- are expected meanwhile.
structure Durable (inv : State → Prop) (faults : Fault → Prop) (halts : Halt → Prop)
    (check : Function → Bool) : Prop where
  vetted : ∀ s, inv s → s.heap.Vetted check faults
  heap : ∀ s h, inv s → h.Vetted check faults → s.heap.Gains h → inv { s with heap := h }
  ordinary : ∀ fault : Fault, fault.isOrdinary = true → faults fault
  fault : ∀ error : RuntimeError, faults error.cause → halts (.error error)

def CallsAgree (inv : State → Prop) (halts : Halt → Prop) (call other : Call) : Prop :=
  ∀ ref arguments receiver location,
    Agree inv halts Any (call ref arguments receiver location)
      (other ref arguments receiver location)

variable {α : Type} {inv : State → Prop} {faults : Fault → Prop} {halts : Halt → Prop}
  {check : Function → Bool} {gives : α → Prop}

def FailsPlainly (result : Except Fault α) : Prop :=
  ∀ fault, result = .error fault → fault.isOrdinary = true

theorem plain_ok (a : α) : FailsPlainly (.ok a) :=
  fun _ failed => nomatch failed

theorem plain_error (fault : Fault) (plain : fault.isOrdinary = true) :
    FailsPlainly (.error fault : Except Fault α) := by
  intro other failed
  cases failed
  exact plain

theorem plain_map {β : Type} (f : α → β) (result : Except Fault α) (plain : FailsPlainly result) :
    FailsPlainly (f <$> result) := by
  cases result with
  | ok a => exact plain_ok (f a)
  | error fault => exact plain_error fault (plain fault rfl)

theorem plain_if {c : Prop} [Decidable c] (fault : Fault) (a : α)
    (plain : fault.isOrdinary = true) : FailsPlainly (if c then .error fault else .ok a) := by
  split
  · exact plain_error fault plain
  · exact plain_ok a

theorem plain_integer_divide (pair : Operands) : FailsPlainly pair.integerDivide := by
  cases pair with
  | integer a b | longInteger a b | float a b | double a b => exact plain_if _ _ rfl

theorem plain_modulo (pair : Operands) : FailsPlainly pair.modulo := by
  cases pair with
  | integer a b | longInteger a b => exact plain_if _ _ rfl
  | float a b | double a b => exact plain_ok _

theorem plain_or_mismatch (op : BinaryOp) (left right : Value) (result : Option Scalar) :
    FailsPlainly (orMismatch op left right result) := by
  cases result with
  | some scalar => exact plain_ok scalar
  | none => exact plain_error _ rfl

theorem plain_arithmetic (op : BinaryOp) (left right : Value) :
    FailsPlainly (arithmetic op left right) := by
  unfold arithmetic
  split
  · exact plain_error _ rfl
  · rename_i pair _
    cases op with
    | integerDivide => exact plain_integer_divide pair
    | modulo => exact plain_modulo pair
    | leftShift | rightShift => exact plain_or_mismatch _ _ _ _
    | add | subtract | multiply | divide | power => exact plain_ok _
    | equal | notEqual | less | lessEqual | greater | greaterEqual | and | or =>
      exact plain_error _ rfl

theorem plain_addition (left right : Value) : FailsPlainly (addition left right) := by
  unfold addition
  split
  · exact plain_ok _
  · exact plain_arithmetic _ _ _

theorem plain_logical (op : BinaryOp) (ofBool : Bool → Bool → Bool)
    (ofInteger : Int32 → Int32 → Int32) (ofLong : Int64 → Int64 → Int64) (left right : Value) :
    FailsPlainly (logical op ofBool ofInteger ofLong left right) := by
  unfold logical
  split
  · exact plain_ok _
  · split
    · exact plain_ok _
    · exact plain_ok _
    · exact plain_error _ rfl

theorem plain_apply_binary (op : BinaryOp) (left right : Value) :
    FailsPlainly (applyBinary op left right) := by
  apply plain_map
  cases op with
  | equal | notEqual | less | lessEqual | greater | greaterEqual => exact plain_ok _
  | and | or => exact plain_logical _ _ _ _ _ _
  | add => exact plain_addition _ _
  | subtract | multiply | divide | integerDivide | modulo | power | leftShift | rightShift =>
    exact plain_arithmetic _ _ _

theorem plain_apply_unary (op : UnaryOp) (operand : Value) :
    FailsPlainly (applyUnary op operand) := by
  unfold applyUnary
  dsimp only
  split
  · exact plain_ok _
  · exact plain_error _ rfl

namespace Durable

variable (durable : Durable inv faults halts check)
include durable

theorem on_heap (location : Location) (access : Access α) (safe : Safe check faults gives access)
    (gains : Stays Heap.Gains access) : Keeps inv halts gives (Exec.onHeap location access) := by
  refine keeps_of_ends fun s holds => ?_
  have ends := (safe s.heap (durable.vetted s holds)).2
  have gained := gains s.heap
  unfold Exec.onHeap
  dsimp only
  cases outcome : access s.heap with
  | ok a h =>
    rw [outcome] at ends gained
    exact ⟨durable.heap s h holds ends.1 gained, ends.2⟩
  | error fault h =>
    rw [outcome] at ends gained
    exact ⟨durable.heap s h holds ends.1 gained, durable.fault _ ends.2⟩

theorem allocate (make : Heap → α × Heap)
    (kept : ∀ h, h.Vetted check faults → (make h).2.Vetted check faults)
    (gains : ∀ h : Heap, h.Gains (make h).2) : Keeps inv halts Any (Exec.allocate make) :=
  keeps_of_ends fun s holds =>
    ⟨durable.heap s _ holds (kept s.heap (durable.vetted s holds)) (gains s.heap), trivial⟩

theorem fail (fault : Fault) (location : Location) (plain : fault.isOrdinary = true) :
    Keeps inv halts gives (Exec.fail fault location) :=
  keeps_throw _ (durable.fault _ (durable.ordinary fault plain))

theorem or_fail (result : Option α) (fault : Fault) (location : Location)
    (plain : fault.isOrdinary = true) :
    Keeps inv halts Any (Exec.orFail result fault location) := by
  cases result with
  | some a => exact keeps_pure a trivial
  | none => exact durable.fail fault location plain

theorem of_except (location : Location) (result : Except Fault α)
    (plain : FailsPlainly result) : Keeps inv halts Any (Exec.ofExcept location result) := by
  cases result with
  | ok a => exact keeps_pure a trivial
  | error fault => exact durable.fail fault location (plain fault rfl)

theorem convert (value : Value) (kind : Kind) : Keeps inv halts Any (Exec.convert? value kind) :=
  durable.allocate _ (fun _ vetted => ⟨vetted.functions, vetted.components⟩) fun _ =>
    gains_of_same rfl

omit durable in
theorem lookup (name : String) : Keeps inv halts Any (Exec.lookup name) :=
  agree_get_bind fun _ _ => keeps_pure _ trivial

theorem new_function (function : Function) (passed : function.everyFunction check = true) :
    Keeps inv halts Any (Exec.allocate (·.newFunction (.user function))) := by
  refine durable.allocate _ (fun _ vetted => Heap.vetted_new_function vetted _ ?_)
    fun h => gains_new_function h (.user function)
  intro overload member
  rw [List.mem_singleton.1 member]
  exact passed

end Durable

variable {call other : Call}

theorem invoke_agree (durable : Durable inv faults halts check)
    (calls : CallsAgree inv halts call other) (function : Value) (name : String)
    (arguments : List Value) (receiver : Option Nat) (location : Location) :
    Agree inv halts Any (invoke call function name arguments receiver location)
      (invoke other function name arguments receiver location) := by
  cases function with
  | function ref => exact calls ref arguments receiver location
  | uninitialized => exact durable.fail _ _ rfl
  | scalar _ | interface _ _ | object _ => exact durable.fail _ _ rfl

mutual

theorem evaluate_agree (durable : Durable inv faults halts check)
    (calls : CallsAgree inv halts call other) : (e : Expr) → e.everyFunction check = true →
    Agree inv halts Any (evaluate call e) (evaluate other e)
  | .literal value _, _ => keeps_pure _ trivial
  | .variable name _, _ => Durable.lookup name
  | .grouping inner _, passed => evaluate_agree durable calls inner passed
  | .function function, passed => durable.new_function function passed
  | .unary op operand location, passed =>
    agree_bind (evaluate_agree durable calls operand passed) fun _ _ =>
      durable.of_except location _ (plain_apply_unary op _)
  | .binary left op right location, passed => by
    have parts := Bool.and_eq_true_iff.1 passed
    refine agree_bind (evaluate_agree durable calls left parts.1) fun leftValue _ => ?_
    split
    · exact keeps_pure _ trivial
    · exact agree_bind (evaluate_agree durable calls right parts.2) fun _ _ =>
        durable.of_except location _ (plain_apply_binary op _ _)
  | .member object name location, passed =>
    agree_bind (evaluate_agree durable calls object passed) fun target _ =>
      durable.on_heap location _ (Value.safe_get_member durable.ordinary target name)
        (target.get_member_gains name)
  | .index object index location, passed => by
    have parts := Bool.and_eq_true_iff.1 passed
    exact agree_bind (evaluate_agree durable calls object parts.1) fun target _ =>
      agree_bind (evaluate_agree durable calls index parts.2) fun indexValue _ =>
        durable.on_heap location _ (Value.safe_get_index durable.ordinary target indexValue)
          (target.get_index_gains indexValue)
  | .array elements _, passed =>
    agree_bind (evaluate_all_agree durable calls elements passed) fun _ _ =>
      durable.allocate _ (fun _ vetted => ⟨vetted.functions, vetted.components⟩) fun _ =>
        gains_of_same rfl
  | .table members _, passed =>
    agree_bind (evaluate_members_agree durable calls members passed) fun _ _ =>
      durable.allocate _ (fun _ vetted => ⟨vetted.functions, vetted.components⟩) fun _ =>
        gains_of_same rfl
  | .call callee arguments location, passed => by
    have parts := Bool.and_eq_true_iff.1 passed
    have whole : Agree inv halts Any
        (do
          let function ← evaluate call callee
          let values ← evaluateAll call arguments
          invoke call function callee.calledName values none location)
        (do
          let function ← evaluate other callee
          let values ← evaluateAll other arguments
          invoke other function callee.calledName values none location) :=
      agree_bind (evaluate_agree durable calls callee parts.1) fun function _ =>
        agree_bind (evaluate_all_agree durable calls arguments parts.2) fun values _ =>
          invoke_agree durable calls function _ values none location
    cases callee with
    | member object name memberLocation =>
      refine agree_bind (evaluate_agree durable calls object parts.1) fun target _ => ?_
      refine agree_bind (durable.on_heap memberLocation _
        (Value.safe_get_member durable.ordinary target name) (target.get_member_gains name))
          fun function _ => ?_
      exact agree_bind (evaluate_all_agree durable calls arguments parts.2) fun values _ =>
        invoke_agree durable calls function name values _ location
    | literal | binary | unary | grouping | «variable» | call | index | array | table | function =>
      exact whole

theorem evaluate_all_agree (durable : Durable inv faults halts check)
    (calls : CallsAgree inv halts call other) : (es : List Expr) → everyFunctionIn check es = true →
    Agree inv halts Any (evaluateAll call es) (evaluateAll other es)
  | [], _ => keeps_pure _ trivial
  | first :: rest, passed => by
    have parts := Bool.and_eq_true_iff.1 passed
    exact agree_bind (evaluate_agree durable calls first parts.1) fun _ _ =>
      agree_bind (evaluate_all_agree durable calls rest parts.2) fun _ _ => keeps_pure _ trivial

theorem evaluate_members_agree (durable : Durable inv faults halts check)
    (calls : CallsAgree inv halts call other) :
    (ms : List Member) → everyMemberFunction check ms = true →
    Agree inv halts Any (evaluateMembers call ms) (evaluateMembers other ms)
  | [], _ => keeps_pure _ trivial
  | ⟨_, value, _⟩ :: rest, passed => by
    have parts := Bool.and_eq_true_iff.1 passed
    exact agree_bind (evaluate_agree durable calls value parts.1) fun _ _ =>
      agree_bind (evaluate_members_agree durable calls rest parts.2) fun _ _ => keeps_pure _ trivial

end

theorem evaluate_condition_agree (durable : Durable inv faults halts check)
    (calls : CallsAgree inv halts call other) (condition : Expr)
    (passed : condition.everyFunction check = true) :
    Agree inv halts Any (evaluateCondition call condition) (evaluateCondition other condition) :=
  agree_bind (evaluate_agree durable calls condition passed) fun _ _ => durable.or_fail _ _ _ rfl

end BrightScript
