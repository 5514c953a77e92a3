import JvmSchema.Proofs.Basic
import JvmSchema.TypeInfo.Format
import Mathlib.Logic.Function.Basic

/-!
# The components of a record

A record decoder changes a value one field at a time. `Record.Components` splits a record type into
its fields, each with a type of its own, and says that decoding a field sets that field and leaves
the others alone. Constructors, methods and type descriptions are of this kind in every format.
-/

set_option autoImplicit false
set_option relaxedAutoImplicit false

namespace JvmSchema

/-- A record type is the product of its fields: decoding a field sets that field and leaves the
others alone. -/
structure Record.Components {field α : Type} {D : Type → Type} [Functor D]
    (record : Record field α) (decode : field → α → D α) where
  type : field → Type
  get : (index : field) → α → type index
  set : (index : field) → α → type index → α
  read : (index : field) → D (type index)
  decode_eq (index : field) (value : α) : decode index value = set index value <$> read index
  get_set (index : field) (value : α) (part : type index) :
    get index (set index value part) = part
  get_set_of_ne {index other : field} (h : other ≠ index) (value : α) (part : type index) :
    get other (set index value part) = get other value
  ext {first second : α} (h : ∀ index, get index first = get index second) : first = second
  mem_fields (index : field) : index ∈ record.fields
  nodup_fields : record.fields.Nodup
  label_injective : Function.Injective record.label

namespace Record

variable {field α : Type} {record : Record field α}

/-- The names of all fields in order. -/
def labels (record : Record field α) : List String :=
  record.fields.map record.label

theorem field?_eq_none_iff {name : String} : record.field? name = none ↔ name ∉ record.labels := by
  simp [field?, labels]

theorem label_of_field? {name : String} {index : field} (h : record.field? name = some index) :
    record.label index = name := by
  simpa using List.find?_some h

theorem enter_eq_ok_iff [DecidableEq field] {seen : List field} {name : String} {index : field} :
    record.enter seen name = .ok index ↔ record.field? name = some index ∧ index ∉ seen := by
  rw [enter]
  cases record.field? name with
  | none => simp
  | some found =>
    by_cases h : found ∈ seen
    · simp only [if_pos h, reduceCtorEq, Option.some.injEq, false_iff, not_and, not_not]
      exact fun heq ↦ heq ▸ h
    · simp only [if_neg h, Except.ok.injEq, Option.some.injEq]
      exact ⟨fun heq ↦ ⟨heq, heq ▸ h⟩, And.left⟩

theorem complete_eq_ok_iff [DecidableEq field] {seen : List field} {done : Unit} :
    record.complete seen = .ok done ↔
      ∀ index ∈ record.fields, record.required index → index ∈ seen := by
  rw [complete]
  split
  next index hfind =>
    have hindex := List.find?_some hfind
    simp only [Bool.decide_and, Bool.decide_eq_true, Bool.and_eq_true, decide_eq_true_eq] at hindex
    simp only [reduceCtorEq, false_iff, not_forall]
    exact ⟨index, List.mem_of_find?_eq_some hfind, hindex.1, hindex.2⟩
  next hnone =>
    simpa using hnone

theorem completeFrom_eq_ok_iff {missing : List field} {done : Unit} :
    record.completeFrom missing = .ok done ↔ ∀ index ∈ missing, record.required index = false := by
  rw [completeFrom]
  split
  next position hposition =>
    obtain ⟨hlt, hrequired, -⟩ := List.findIdx?_eq_some_iff_getElem.1 hposition
    simp only [reduceCtorEq, false_iff, not_forall]
    exact ⟨missing[position], List.getElem_mem hlt, by simpa using hrequired⟩
  next hnone => simpa using hnone

end Record

/-! ### The records of a type description -/

variable {D : Type → Type} [Functor D] [Format D]

def Constructor.components :
    Constructor.record.Components (Constructor.decodeField (D := D)) where
  type
    | .params => List Descriptor
    | .visibility => Visibility
  get
    | .params => Constructor.params
    | .visibility => Constructor.visibility
  set
    | .params => fun value params ↦ { value with params }
    | .visibility => fun value visibility ↦ { value with visibility }
  read
    | .params => Format.list Descriptor.decoder
    | .visibility => Visibility.decoder
  decode_eq index _ := by cases index <;> rfl
  get_set index _ _ := by cases index <;> rfl
  get_set_of_ne {index other} _ _ _ := by cases index <;> cases other <;> trivial
  ext {first second} h := by
    cases first
    cases second
    cases h .params
    cases h .visibility
    rfl
  mem_fields index := by cases index <;> decide
  nodup_fields := by decide
  label_injective index other := by cases index <;> cases other <;> decide

def Method.components : Method.record.Components (Method.decodeField (D := D)) where
  type
    | .name => String
    | .params => List Descriptor
    | .static => Bool
    | .visibility => Visibility
  get
    | .name => Method.name
    | .params => Method.params
    | .static => Method.isStatic
    | .visibility => Method.visibility
  set
    | .name => fun value name ↦ { value with name }
    | .params => fun value params ↦ { value with params }
    | .static => fun value isStatic ↦ { value with isStatic }
    | .visibility => fun value visibility ↦ { value with visibility }
  read
    | .name => Format.text .text
    | .params => Format.list Descriptor.decoder
    | .static => Format.boolean
    | .visibility => Visibility.decoder
  decode_eq index _ := by cases index <;> rfl
  get_set index _ _ := by cases index <;> rfl
  get_set_of_ne {index other} _ _ _ := by cases index <;> cases other <;> trivial
  ext {first second} h := by
    cases first
    cases second
    cases h .name
    cases h .params
    cases h .static
    cases h .visibility
    rfl
  mem_fields index := by cases index <;> decide
  nodup_fields := by decide
  label_injective index other := by cases index <;> cases other <;> decide

def TypeInfo.components : TypeInfo.record.Components (TypeInfo.decodeField (D := D)) where
  type
    | .descriptor => Descriptor
    | .enum => Bool
    | .constructors => List Constructor
    | .methods => List Method
  get
    | .descriptor => TypeInfo.descriptor
    | .enum => TypeInfo.isEnum
    | .constructors => TypeInfo.constructors
    | .methods => TypeInfo.methods
  set
    | .descriptor => fun value descriptor ↦ { value with descriptor }
    | .enum => fun value isEnum ↦ { value with isEnum }
    | .constructors => fun value constructors ↦ { value with constructors }
    | .methods => fun value methods ↦ { value with methods }
  read
    | .descriptor => Descriptor.decoder
    | .enum => Format.boolean
    | .constructors => Format.list Constructor.decoder
    | .methods => Format.list Method.decoder
  decode_eq index _ := by cases index <;> rfl
  get_set index _ _ := by cases index <;> rfl
  get_set_of_ne {index other} _ _ _ := by cases index <;> cases other <;> trivial
  ext {first second} h := by
    cases first
    cases second
    cases h .descriptor
    cases h .enum
    cases h .constructors
    cases h .methods
    rfl
  mem_fields index := by cases index <;> decide
  nodup_fields := by decide
  label_injective index other := by cases index <;> cases other <;> decide

end JvmSchema
