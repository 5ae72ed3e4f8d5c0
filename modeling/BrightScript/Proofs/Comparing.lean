import Mathlib
import BrightScript.Proofs.Integers
set_option autoImplicit false

namespace BrightScript

section Floats

open Float.Model Float.Model.UnpackedFloat

theorem magnitudes_swap (e f : Int) (m n : Nat) :
    (compare f e).then (compare n m) = ((compare e f).then (compare m n)).swap := by
  rw [Ordering.swap_then, Std.OrientedOrd.eq_swap (a := f), Std.OrientedOrd.eq_swap (a := n)]

theorem unpacked_swap (x y : UnpackedFloat) : y.compare x = (x.compare y).map Ordering.swap := by
  cases x with
  | notANumber => cases y <;> rfl
  | infinity s => cases s <;> rcases y with s | _ | s | s <;> first | rfl | (cases s <;> rfl)
  | zero s => rcases y with s | _ | s | s <;> first | rfl | (cases s <;> rfl)
  | finite s m e positive =>
    cases y with
    | notANumber => cases s <;> rfl
    | infinity t | zero t => cases s <;> cases t <;> rfl
    | finite t n f other =>
      have magnitudes := magnitudes_swap e f m n
      cases s <;> cases t
      · exact congrArg (some ∘ Ordering.swap) magnitudes
      · rfl
      · rfl
      · exact congrArg some magnitudes

theorem unpacked_ordered (x y : UnpackedFloat) : (x.compare y).isSome = (!x.isNaN && !y.isNaN) := by
  cases x with
  | notANumber => cases y <;> rfl
  | infinity s => cases s <;> cases y <;> rfl
  | zero s => rcases y with t | _ | t | t <;> first | rfl | (cases t <;> rfl)
  | finite s m e positive =>
    cases s <;> rcases y with t | _ | t | t <;> first | rfl | (cases t <;> rfl)

theorem unpacked_number {b : BitVec Format.binary64.numBits} (finite : unpackExponent b ≠ -1#_) :
    (unpack .binary64 b).isNaN = false := by
  unfold UnpackedFloat.unpack
  rw [if_neg finite]
  split
  · split <;> rfl
  · rfl

theorem packed_nan (x : UnpackedFloat) : (Float.Model.pack x).unpack.isNaN = x.isNaN := by
  have packed : (Float.Model.pack x).unpack = unpack .binary64 (UnpackedFloat.pack .binary64 x) :=
    rfl
  rw [packed]
  cases x with
  | notANumber => rfl
  | infinity s => cases s <;> rfl
  | zero s => cases s <;> rfl
  | finite s m e positive =>
    unfold UnpackedFloat.pack
    dsimp only
    split
    · cases s <;> rfl
    · rename_i small
      -- An exponent below the largest one is that of a number.
      split
      · refine unpacked_number ?_
        rw [unpackExponent_packComponents]
        intro same
        have bits := congrArg BitVec.toNat same
        rw [BitVec.toNat_ofNat, Nat.mod_eq_of_lt (by omega)] at bits
        exact small (Nat.le_of_eq (congrArg Nat.succ bits.symm))
      · exact unpacked_number (by rw [unpackExponent_packComponents]; decide)

theorem float_order_compare (a b : Float) :
    floatOrder a b = a.toModel.unpack.compare b.toModel.unpack := by
  have back := unpacked_swap a.toModel.unpack b.toModel.unpack
  have less (x y : Float) : x < y ↔ x.toModel.unpack.compare y.toModel.unpack = some .lt :=
    decide_eq_true_iff.trans beq_iff_eq
  have same : (a == b) = (a.toModel.unpack.compare b.toModel.unpack == some .eq) := rfl
  unfold floatOrder
  simp only [less, back, same]
  cases a.toModel.unpack.compare b.toModel.unpack with
  | none => rfl
  | some order => cases order <;> rfl

theorem rounded_number (spec : Format) (s : Sign) (m : Nat) (e : Int) (accuracy : Accuracy) :
    (roundWithAccuracy spec s m e accuracy).isNaN = false := by
  unfold roundWithAccuracy
  dsimp only
  split <;> rfl

theorem normalized_number (spec : Format) (m e : Int) (s : Sign) :
    (UnpackedFloat.normalize spec m e s).isNaN = false := by
  unfold UnpackedFloat.normalize
  split
  · exact rounded_number ..
  · rfl
  · exact rounded_number ..

theorem product_number (spec : Format) {x : UnpackedFloat} (number : x.isNaN = false)
    (s : Sign) (m : Nat) (e : Int) (positive : 0 < m) :
    (UnpackedFloat.mul spec x (.finite s m e positive)).isNaN = false := by
  cases x with
  | notANumber => cases number
  | infinity | zero => rfl
  | finite => exact rounded_number ..

theorem unpacked_one : ∃ m e, ∃ positive : 0 < m,
    (Float.exactlyRepresentablePowersOfTen[0]).toModel.unpack = .finite .positive m e positive :=
  ⟨_, _, _, rfl⟩

theorem scientific_number (spec : Format) (m : Nat) :
    (UnpackedFloat.ofScientific spec m 0).isNaN = false := by
  unfold UnpackedFloat.ofScientific
  split
  · rfl
  split
  · rfl
  split
  · rfl
  rw [if_pos (Int.le_refl 0)]
  exact product_number spec rfl _ _ _ _

theorem negated_number (x : UnpackedFloat) : x.neg.isNaN = x.isNaN := by
  cases x <;> rfl

theorem natural_number (n : Nat) : (Float.ofNat n).isNaN = false := by
  change (Float.ofScientific n false 0).isNaN = false
  unfold Float.ofScientific
  split
  · obtain ⟨m, e, positive, one⟩ := unpacked_one
    rw [if_neg Bool.false_ne_true]
    change (Float.Model.pack _).unpack.isNaN = false
    rw [packed_nan, one]
    refine product_number _ ?_ _ _ _ positive
    change (Float.Model.pack _).unpack.isNaN = false
    rw [packed_nan]
    exact normalized_number ..
  · change (Float.Model.pack _).unpack.isNaN = false
    rw [packed_nan]
    exact scientific_number _ n

theorem integer_number (n : Int) : (Float.ofInt n).isNaN = false := by
  cases n with
  | ofNat n => exact natural_number n
  | negSucc n =>
    change (Float.Model.pack _).unpack.isNaN = false
    rw [packed_nan, negated_number]
    exact natural_number (n + 1)

end Floats

theorem float_order_swap (a b : Float) : floatOrder b a = (floatOrder a b).map Ordering.swap := by
  rw [float_order_compare, float_order_compare, unpacked_swap]

theorem float_ordered (a b : Float) : (floatOrder a b).isSome = (!a.isNaN && !b.isNaN) := by
  rw [float_order_compare, unpacked_ordered]
  rfl

section Orders

theorem apart_of_lt {α : Type} [LT α] [Std.Asymm (α := α) (· < ·)] {a b : α} (less : a < b) :
    a ≠ b := by
  rintro rfl
  exact Std.Asymm.asymm a a less less

variable {α : Type} [LT α] [DecidableEq α] [DecidableLT α]

theorem order_of_lt (a b : α) : orderOf a b = .lt ↔ a < b := by
  unfold orderOf
  by_cases less : a < b
  · simp [less]
  · by_cases same : a = b <;> simp [less, same]

variable [Std.Asymm (α := α) (· < ·)]

theorem order_of_eq (a b : α) : orderOf a b = .eq ↔ a = b := by
  unfold orderOf
  by_cases same : a = b
  · have still : ¬a < b := fun less => apart_of_lt less same
    rw [if_neg still, if_pos same]
    exact iff_of_true rfl same
  · by_cases less : a < b <;> simp [less, same]

variable [Std.Trichotomous (α := α) (· < ·)]

theorem order_of_gt (a b : α) : orderOf a b = .gt ↔ b < a := by
  constructor
  · intro order
    rcases Std.lt_trichotomy a b with less | same | more
    · rw [(order_of_lt a b).2 less] at order
      cases order
    · rw [(order_of_eq a b).2 same] at order
      cases order
    · exact more
  · intro more
    simp [orderOf, Std.Asymm.asymm b a more, (apart_of_lt more).symm]

theorem order_of_swap (a b : α) : orderOf b a = (orderOf a b).swap := by
  cases order : orderOf a b with
  | lt => exact (order_of_gt b a).2 ((order_of_lt a b).1 order)
  | eq => exact (order_of_eq b a).2 ((order_of_eq a b).1 order).symm
  | gt => exact (order_of_lt b a).2 ((order_of_gt a b).1 order)

end Orders

def Comparison.swap : Comparison → Comparison
  | .ordered order => .ordered (order.map Ordering.swap)
  | .equality equal => .equality equal

def BinaryOp.turned : BinaryOp → BinaryOp
  | .less => .greater
  | .greater => .less
  | .lessEqual => .greaterEqual
  | .greaterEqual => .lessEqual
  | op => op

theorem holds_turned (c : Comparison) (op : BinaryOp) : c.swap.holds op.turned = c.holds op := by
  cases c with
  | ordered order =>
    cases order with
    | none => cases op <;> rfl
    | some order => cases order <;> cases op <;> rfl
  | equality equal => cases op <;> rfl

theorem scalar_comparison_swap (s t : Scalar) :
    comparison (.scalar t) (.scalar s) = (comparison (.scalar s) (.scalar t)).swap := by
  cases s <;> cases t <;>
  first
  | rfl
  | exact congrArg Comparison.ordered (float_order_swap _ _)
  | exact congrArg (Comparison.ordered ∘ some) (order_of_swap _ _)
  | exact congrArg Comparison.equality Bool.beq_comm

theorem object_same_swap (x y : Object) : y.same x = x.same y := by
  cases x <;> cases y <;> first | rfl | exact Bool.beq_comm

theorem identical_swap (left right : Value) : identical right left = identical left right := by
  cases left with
  | scalar s =>
    cases right with
    | scalar t => cases s <;> cases t <;> rfl
    | _ => cases s <;> rfl
  | uninitialized =>
    cases right with
    | scalar t => cases t <;> rfl
    | _ => rfl
  | function ref =>
    cases right with
    | scalar t => cases t <;> rfl
    | function other => exact Bool.beq_comm
    | _ => rfl
  | interface name object =>
    cases right with
    | scalar t => cases t <;> rfl
    | interface otherName other =>
      exact congrArg₂ and Bool.beq_comm (object_same_swap object other)
    | _ => rfl
  | object object =>
    cases right with
    | scalar t => cases t <;> rfl
    | object other => exact object_same_swap object other
    | _ => rfl

theorem comparison_apart {left right : Value}
    (apart : ∀ s t, left = .scalar s → right ≠ .scalar t) :
    comparison left right = .equality (identical left right) := by
  cases left with
  | scalar s =>
    cases right with
    | scalar t => exact absurd rfl (apart s t rfl)
    | _ => cases s <;> rfl
  | _ => rfl

theorem comparison_swap (left right : Value) :
    comparison right left = (comparison left right).swap := by
  by_cases scalars : ∃ s t, left = .scalar s ∧ right = .scalar t
  · obtain ⟨s, t, rfl, rfl⟩ := scalars
    exact scalar_comparison_swap s t
  · rw [comparison_apart fun s t first second => scalars ⟨s, t, first, second⟩,
      comparison_apart fun s t first second => scalars ⟨t, s, second, first⟩, identical_swap]
    rfl

theorem compare_turned (op : BinaryOp) (left right : Value) :
    compareValues op.turned right left = compareValues op left right := by
  unfold compareValues
  rw [comparison_swap, holds_turned]

theorem not_equal_holds (c : Comparison) : c.holds .notEqual = !c.holds .equal := by
  cases c with
  | ordered order => rcases order with _ | order <;> rfl
  | equality equal => rfl

theorem compare_unboxed (op : BinaryOp) (left right : Value) :
    compareValues op left.unboxed right.unboxed = compareValues op left right := by
  have once (v : Value) : v.unboxed.unboxed = v.unboxed := by
    cases v with
    | object o => cases o <;> rfl
    | scalar | uninitialized | function | interface => rfl
  rw [compareValues, compareValues, once, once]

def Scalar.isString : Scalar → Bool
  | .string _ => true
  | _ => false

def Scalar.isNumber : Scalar → Bool
  | .integer _ | .longInteger _ => true
  | .float v => !v.toFloat.isNaN
  | .double v => !v.isNaN
  | _ => false

def comparable (left right : Value) : Bool :=
  match left.scalar?, right.scalar? with
  | some s, some t => (s.isString && t.isString) || (s.isNumber && t.isNumber)
  | _, _ => false

def Comparison.isOrdered : Comparison → Bool
  | .ordered order => order.isSome
  | .equality _ => false

theorem scalars_ordered (s t : Scalar) : (comparison (.scalar s) (.scalar t)).isOrdered =
    ((s.isString && t.isString) || (s.isNumber && t.isNumber)) := by
  cases s <;> cases t <;>
  first
  | rfl
  | exact (Bool.and_false _).symm
  | (refine (float_ordered _ _).trans ?_
     simp only [Scalar.isString, Scalar.isNumber, integer_number, Bool.false_and, Bool.false_or,
       Bool.not_false])

theorem unboxed_scalar {v : Value} {s : Scalar} : v.scalar? = some s ↔ v.unboxed = .scalar s := by
  cases v with
  | scalar t => simp [Value.scalar?, Value.unboxed]
  | object o => cases o <;> simp [Value.scalar?, Value.unboxed]
  | uninitialized | function | interface => simp [Value.scalar?, Value.unboxed]

theorem values_ordered (left right : Value) :
    (comparison left.unboxed right.unboxed).isOrdered = comparable left right := by
  unfold comparable
  cases first : left.scalar? with
  | none =>
    rw [comparison_apart fun s _ scalar => by simp [unboxed_scalar.2 scalar] at first]
    rfl
  | some s =>
    cases second : right.scalar? with
    | none =>
      rw [comparison_apart fun _ t _ scalar => by simp [unboxed_scalar.2 scalar] at second]
      rfl
    | some t => rw [unboxed_scalar.1 first, unboxed_scalar.1 second, scalars_ordered]

theorem ordered_trichotomy {c : Comparison} (ordered : c.isOrdered = true) :
    (∃! op, op ∈ [BinaryOp.less, .equal, .greater] ∧ c.holds op = true) ∧
      c.holds .lessEqual = (c.holds .less || c.holds .equal) := by
  cases c with
  | equality equal => cases ordered
  | ordered order =>
    cases order with
    | none => cases ordered
    | some order =>
      have single : ∃ op ∈ [BinaryOp.less, .equal, .greater],
          (Comparison.ordered (some order)).holds op = true ∧
            ∀ other ∈ [BinaryOp.less, .equal, .greater],
              (Comparison.ordered (some order)).holds other = true → other = op := by
        cases order <;> decide
      obtain ⟨op, among, holds, only⟩ := single
      refine ⟨⟨op, ⟨among, holds⟩, fun other own => only other own.1 own.2⟩, ?_⟩
      cases order <;> rfl

theorem unordered_none {c : Comparison} (unordered : c.isOrdered = false) :
    ∀ op ∈ [BinaryOp.less, .lessEqual, .greater, .greaterEqual], c.holds op = false := by
  cases c with
  | ordered order =>
    cases order with
    | none => decide
    | some order => cases unordered
  | equality equal => cases equal <;> decide

structure OrderedBy {α : Type} [LT α] (denotes : Value → α → Prop) : Prop where
  equal : ∀ {left right a b}, denotes left a → denotes right b →
    (compareValues .equal left right = true ↔ a = b)
  less : ∀ {left right a b}, denotes left a → denotes right b →
    (compareValues .less left right = true ↔ a < b)
  less_trans : ∀ {x y z a b c}, denotes x a → denotes y b → denotes z c →
    compareValues .less x y = true → compareValues .less y z = true → compareValues .less x z = true
  equal_refl : ∀ {x a}, denotes x a → compareValues .equal x x = true
  equal_trans : ∀ {x y z a b c}, denotes x a → denotes y b → denotes z c →
    compareValues .equal x y = true → compareValues .equal y z = true →
      compareValues .equal x z = true

section Orders

variable {α : Type} [LT α] [DecidableEq α] [DecidableLT α] [Std.Asymm (α := α) (· < ·)]

theorem ordered_by {denotes : Value → α → Prop} (trans : ∀ {a b c : α}, a < b → b < c → a < c)
    (compared : ∀ {left right a b}, denotes left a → denotes right b →
      comparison left.unboxed right.unboxed = .ordered (some (orderOf a b))) :
      OrderedBy denotes := by
  have equal {left right a b} (first : denotes left a) (second : denotes right b) :
      compareValues .equal left right = true ↔ a = b := by
    rw [compareValues, compared first second]
    exact beq_iff_eq.trans (order_of_eq a b)
  have less {left right a b} (first : denotes left a) (second : denotes right b) :
      compareValues .less left right = true ↔ a < b := by
    rw [compareValues, compared first second]
    exact beq_iff_eq.trans (order_of_lt a b)
  refine ⟨equal, less, ?_, ?_, ?_⟩
  · intro x y z a b c first second third below above
    exact (less first third).2 (trans ((less first second).1 below) ((less second third).1 above))
  · intro x a own
    exact (equal own own).2 rfl
  · intro x y z a b c first second third same again
    exact (equal first third).2 (((equal first second).1 same).trans ((equal second third).1 again))

end Orders

def Value.IsText (v : Value) (text : String) : Prop :=
  v.scalar? = some (.string text)

def Value.IsInteger (v : Value) (n : Int) : Prop :=
  ∃ width, v.Holds width n

theorem strings_ordered : OrderedBy Value.IsText :=
  ordered_by String.lt_trans fun first second => by
    rw [unboxed_scalar.1 first, unboxed_scalar.1 second]
    rfl

theorem order_of_iff {α β : Type} [LT α] [DecidableEq α] [DecidableLT α] [LT β] [DecidableEq β]
    [DecidableLT β] {a b : α} {c d : β} (less : a < b ↔ c < d) (same : a = b ↔ c = d) :
    orderOf a b = orderOf c d := by
  simp only [orderOf, less, same]

theorem short_order (x y : Int32) : orderOf x y = orderOf x.toInt y.toInt :=
  order_of_iff Int32.lt_iff_toInt_lt Int32.toInt_inj.symm

theorem long_order (x y : Int64) : orderOf x y = orderOf x.toInt y.toInt :=
  order_of_iff Int64.lt_iff_toInt_lt Int64.toInt_inj.symm

theorem integers_ordered : OrderedBy Value.IsInteger := by
  refine ordered_by Int.lt_trans ?_
  rintro left right m n ⟨u, s, first, own⟩ ⟨v, t, second, other⟩
  rw [unboxed_scalar.1 first, unboxed_scalar.1 second]
  cases own with
  | short x =>
    cases other with
    | short y => exact congrArg (Comparison.ordered ∘ some) (short_order x y)
    | long y =>
      rw [← x.toInt_toInt64]
      exact congrArg (Comparison.ordered ∘ some) (long_order x.toInt64 y)
  | long x =>
    cases other with
    | short y =>
      rw [← y.toInt_toInt64]
      exact congrArg (Comparison.ordered ∘ some) (long_order x y.toInt64)
    | long y => exact congrArg (Comparison.ordered ∘ some) (long_order x y)

/-- Any two values can be compared. `<>` is the opposite of `=`, `=` is symmetric, and `<` and `<=`
are `>` and `>=` turned round. Of two strings, and of two numbers, exactly one of `<`, `=` and `>`
holds, and `<=` is `<` or `=`; of no other two values one is less or greater. Strings are ordered by
their characters, and integers of either width by the numbers they are. -/
theorem comparison_coherent :
    (∀ left right : Value,
      (∀ op ∈ [BinaryOp.equal, .notEqual, .less, .lessEqual, .greater, .greaterEqual],
        applyBinary op left right = .ok (.boolean (compareValues op left right))) ∧
      compareValues .notEqual left right = !compareValues .equal left right ∧
      compareValues .equal left right = compareValues .equal right left ∧
      compareValues .less left right = compareValues .greater right left ∧
      compareValues .lessEqual left right = compareValues .greaterEqual right left ∧
      (comparable left right = true →
        (∃! op, op ∈ [BinaryOp.less, .equal, .greater] ∧ compareValues op left right = true) ∧
        compareValues .lessEqual left right =
          (compareValues .less left right || compareValues .equal left right)) ∧
      (comparable left right = false →
        ∀ op ∈ [BinaryOp.less, .lessEqual, .greater, .greaterEqual],
          compareValues op left right = false)) ∧
      OrderedBy Value.IsText ∧ OrderedBy Value.IsInteger := by
  refine ⟨fun left right => ⟨?_, ?_, ?_, ?_, ?_, ?_, ?_⟩, strings_ordered, integers_ordered⟩
  · intro op among
    rw [← compare_unboxed op left right]
    simp only [List.mem_cons, List.not_mem_nil, or_false] at among
    rcases among with rfl | rfl | rfl | rfl | rfl | rfl <;> rfl
  · exact not_equal_holds _
  · exact (compare_turned .equal left right).symm
  · exact (compare_turned .less left right).symm
  · exact (compare_turned .lessEqual left right).symm
  · intro values
    rw [← values_ordered] at values
    exact ordered_trichotomy values
  · intro values
    rw [← values_ordered] at values
    exact unordered_none values

theorem mixed_values_compared :
    let three : Value := .object (.box 0 (.longInteger 3))
    (comparable three (.integer 5) = true ∧
        ∃! op, op ∈ [BinaryOp.less, .equal, .greater] ∧
          compareValues op three (.integer 5) = true) ∧
      (comparable (.string "5") (.integer 5) = false ∧
        ∀ op ∈ [BinaryOp.less, .lessEqual, .greater, .greaterEqual],
          compareValues op (.string "5") (.integer 5) = false) ∧
      compareValues .less three (.integer 5) = true ∧
      compareValues .less (.string "B") (.string "a") = true := by
  intro three
  obtain ⟨all, strings, integers⟩ := comparison_coherent
  have numbers := (all three (.integer 5)).2.2.2.2.2.1 rfl
  have apart := (all (.string "5") (.integer 5)).2.2.2.2.2.2 rfl
  have long : three.IsInteger (3 : Int64).toInt := ⟨.long, _, rfl, .long 3⟩
  have upper : (Value.string "B").IsText "B" := rfl
  have lower : (Value.string "a").IsText "a" := rfl
  have short : (Value.integer 5).IsInteger (5 : Int32).toInt := ⟨.short, _, rfl, .short 5⟩
  exact ⟨⟨rfl, numbers.1⟩, ⟨rfl, apart⟩, (integers.less long short).2 (by decide),
    (strings.less upper lower).2 (by decide)⟩

end BrightScript
