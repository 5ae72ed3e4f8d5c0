import Mathlib.Algebra.Group.Nat.Defs
import BrightScript.Proofs.Binding
set_option autoImplicit false

namespace BrightScript

-- What the conversion of a value depends on: its kind, and for a box the kind of its content.
structure Shape where
  kind : Kind
  content : Option Kind

def Value.shape : Value → Shape
  | .object (.box _ content) => ⟨.object, some content.kind⟩
  | value => ⟨value.kind, none⟩

def Kind.isScalar : Kind → Bool
  | .invalid | .boolean | .string | .integer | .longInteger | .float | .double => true
  | _ => false

def Kind.converts (source target : Kind) : Bool :=
  source == target || source.isNumeric && target.isNumeric

def Shape.converts (shape : Shape) (target : Kind) : Bool :=
  target == .dynamic || shape.kind == target ||
    match shape.content with
    | some inside => inside.converts target
    | none => shape.kind.isScalar && (target == .object || shape.kind.converts target)

theorem Scalar.kind_is_scalar (s : Scalar) : s.kind.isScalar = true := by
  cases s <;> rfl

theorem Scalar.kind_not_dynamic (s : Scalar) : s.kind ≠ .dynamic ∧ s.kind ≠ .object := by
  cases s <;> exact ⟨Kind.noConfusion, Kind.noConfusion⟩

theorem Scalar.convert_isSome (s : Scalar) (kind : Kind) :
    (s.convert? kind).isSome = s.kind.converts kind := by
  cases s <;> cases kind <;> rfl

theorem Scalar.convert_own (s : Scalar) : s.convert? s.kind = some s :=
  if_pos rfl

theorem coerce_same {fresh : Nat} {value : Value} {kind : Kind}
    (same : kind = .dynamic ∨ value.kind = kind) : coerce? fresh value kind = some value :=
  if_pos same

theorem coerce_invalid (fresh : Nat) : coerce? fresh .invalid .object = some .invalid :=
  rfl

theorem coerce_boxes {s : Scalar} (fresh : Nat) (valid : s ≠ .invalid) :
    coerce? fresh (.scalar s) .object = some (.object (.box fresh s)) := by
  have other : ¬ ((Kind.object = .dynamic) ∨ (Value.scalar s).kind = .object) := by
    rintro (dynamic | object)
    · cases dynamic
    · exact s.kind_not_dynamic.2 object
  simp only [coerce?, if_neg other, if_neg valid, if_true]

theorem coerce_scalar {kind : Kind} (fresh : Nat) (s : Scalar) (static : kind ≠ .dynamic)
    (unboxed : kind ≠ .object) :
    coerce? fresh (.scalar s) kind = (s.convert? kind).map .scalar := by
  by_cases same : s.kind = kind
  · subst same
    rw [s.convert_own]
    exact coerce_same (.inr rfl)
  · have other : ¬ (kind = .dynamic ∨ (Value.scalar s).kind = kind) :=
      fun either => either.elim static same
    simp only [coerce?, if_neg other, if_neg unboxed]

theorem coerce_box {kind : Kind} (fresh mark : Nat) (content : Scalar) (static : kind ≠ .dynamic)
    (unboxed : kind ≠ .object) :
    coerce? fresh (.object (.box mark content)) kind = (content.convert? kind).map .scalar := by
  have other : ¬ (kind = .dynamic ∨ (Value.object (.box mark content)).kind = kind) :=
    fun either => either.elim static fun same => unboxed same.symm
  simp only [coerce?, if_neg other]

theorem coerce_isSome (fresh : Nat) (value : Value) (kind : Kind) :
    (coerce? fresh value kind).isSome = value.shape.converts kind := by
  by_cases dynamic : kind = .dynamic
  · rw [coerce_same (.inl dynamic), dynamic]
    rfl
  cases value with
  | scalar s =>
    by_cases object : kind = .object
    · subst object
      by_cases invalid : s = .invalid
      · subst invalid
        rfl
      · rw [coerce_boxes fresh invalid]
        simp [Shape.converts, Value.shape, Value.kind, s.kind_is_scalar]
    · rw [coerce_scalar fresh s dynamic object, Option.isSome_map, s.convert_isSome]
      have same : (kind == .dynamic) = false ∧ (kind == .object) = false :=
        ⟨beq_false_of_ne dynamic, beq_false_of_ne object⟩
      simp [Shape.converts, Value.shape, Value.kind, s.kind_is_scalar, same, Kind.converts,
        ← Bool.or_assoc]
  | object o =>
    by_cases object : kind = .object
    · subst object
      have kept : coerce? fresh (.object o) .object = some (.object o) := coerce_same (.inr rfl)
      rw [kept]
      cases o <;> rfl
    · cases o with
      | box mark content =>
        rw [coerce_box fresh mark content dynamic object, Option.isSome_map, content.convert_isSome]
        have unboxed : (Kind.object == kind) = false := beq_false_of_ne fun same => object same.symm
        simp [Shape.converts, Value.shape, dynamic, unboxed]
      | array | table | component => cases kind <;> rfl
  | uninitialized | function | interface => cases kind <;> rfl

theorem coerce_object {fresh : Nat} {value converted : Value}
    (converts : coerce? fresh value .object = some converted) :
    converted = .invalid ∨ ∃ object, converted = .object object := by
  rcases coerce_admits converts with dynamic | kind | ⟨_, invalid⟩
  · cases dynamic
  · cases converted with
    | object object => exact .inr ⟨object, rfl⟩
    | scalar s => exact absurd kind s.kind_not_dynamic.2
    | uninitialized | function | interface => cases kind
  · exact .inl invalid

theorem coerce_again {fresh : Nat} {value converted : Value} {kind : Kind}
    (converts : coerce? fresh value kind = some converted) (later : Nat) :
    coerce? later converted kind = some converted := by
  rcases coerce_admits converts with dynamic | same | ⟨rfl, rfl⟩
  · exact coerce_same (.inl dynamic)
  · exact coerce_same (.inr same)
  · exact coerce_invalid later

/-- Coercion is a projection directed by kinds. Whether it succeeds is a matter of the kind asked
for and of the shape of the value. What it gives is the value itself for a dynamic kind, `invalid`
or an object for an object, and of the very kind otherwise, and is given again, with no new box,
when it is coerced once more. Except to an object or a dynamic kind a box converts as its content
does; a scalar that is not `invalid`, put into a box, comes back out of it; an integer made a long
integer keeps its value, and a long integer made an integer keeps it modulo 2 ^ 32. -/
theorem coercion_projects (fresh : Nat) (value : Value) (kind : Kind) :
    (coerce? fresh value kind).isSome = value.shape.converts kind ∧
    (∀ converted, coerce? fresh value kind = some converted →
      (kind = .dynamic → converted = value) ∧
      (kind = .object → converted = .invalid ∨ ∃ object, converted = .object object) ∧
      (kind ≠ .dynamic → kind ≠ .object → converted.kind = kind) ∧
      ∀ later, coerce? later converted kind = some converted) ∧
    (kind ≠ .dynamic → kind ≠ .object → ∀ mark content, value = .object (.box mark content) →
      coerce? fresh value kind = coerce? fresh (.scalar content) kind) ∧
    (∀ s : Scalar, value = .scalar s → s ≠ .invalid →
      coerce? fresh value .object = some (.object (.box fresh s)) ∧
      ∀ later, coerce? later (.object (.box fresh s)) value.kind = some value) ∧
    (∀ i : Int32, value = .scalar (.integer i) →
      ∃ j : Int64, coerce? fresh value .longInteger = some (.scalar (.longInteger j)) ∧
        j.toInt = i.toInt) ∧
    ∀ j : Int64, value = .scalar (.longInteger j) →
      ∃ i : Int32, coerce? fresh value .integer = some (.scalar (.integer i)) ∧
        i.toInt = j.toInt.bmod (2 ^ 32) := by
  refine ⟨coerce_isSome fresh value kind, ?_, ?_, ?_, ?_, ?_⟩
  · intro converted converts
    refine ⟨?_, ?_, ?_, coerce_again converts⟩
    · intro dynamic
      rw [coerce_same (.inl dynamic)] at converts
      exact (Option.some.inj converts).symm
    · rintro rfl
      exact coerce_object converts
    · exact fun static unboxed => coerce_kind static unboxed converts
  · rintro static unboxed mark content rfl
    rw [coerce_box fresh mark content static unboxed, coerce_scalar fresh content static unboxed]
  · rintro s rfl valid
    refine ⟨coerce_boxes fresh valid, fun later => ?_⟩
    obtain ⟨static, unboxed⟩ := s.kind_not_dynamic
    rw [Value.kind, coerce_box later fresh s static unboxed, s.convert_own]
    rfl
  · rintro i rfl
    exact ⟨i.toInt64, rfl, i.toInt_toInt64⟩
  · rintro j rfl
    exact ⟨j.toInt32, rfl, j.toInt_toInt32⟩

end BrightScript
