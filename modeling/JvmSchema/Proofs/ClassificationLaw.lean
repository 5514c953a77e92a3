import JvmSchema.TypeTable
import Mathlib.Tactic.SplitIfs

/-!
# Which kind a descriptor has

Classification against a table, said without its searches. A well-known descriptor has the kind of
the first family that holds it. Any other descriptor is a string when the table describes a type
that can be made from a string (`TypeInfo.MadeFromString`), and an object otherwise.

Constructors and methods count differently. Any public constructor from one string is enough
(`hasStringConstructor_iff`). Of the methods with the name and the parameters of a factory only the
first one counts, and it must be static (`hasStringFactory_iff`). `kind_classify` is the whole law.
-/

set_option autoImplicit false
set_option relaxedAutoImplicit false

namespace JvmSchema

/-! ### Types made from a string -/

/-- The method has the name and takes one `string` and nothing else. -/
def Method.FromString (name : String) (string : Descriptor) (method : Method) : Prop :=
  method.name = name ∧ method.params = [string]

instance (name : String) (string : Descriptor) (method : Method) :
    Decidable (method.FromString name string) :=
  inferInstanceAs (Decidable (_ ∧ _))

namespace TypeInfo

/-- The first of the methods `name(string)` is static. -/
def DeclaresFactory (info : TypeInfo) (name : String) (string : Descriptor) : Prop :=
  ∃ (index : Nat) (h : index < info.methods.length),
    info.methods[index].isStatic ∧ info.methods[index].FromString name string ∧
      ∀ (earlier : Nat) (hlt : earlier < index),
        ¬ info.methods[earlier].FromString name string

/-- The grounds on which a type counts as made from a string. -/
def MadeFromString (info : TypeInfo) (string : Descriptor) : Prop :=
  info.isEnum ∨
    (∃ constructor ∈ info.constructors,
      constructor.visibility = .public ∧ constructor.params = [string]) ∨
    ∃ name ∈ ["valueOf", "fromString"], info.DeclaresFactory name string

theorem hasStringConstructor_iff {info : TypeInfo} {string : Descriptor} :
    info.hasStringConstructor string ↔
      ∃ constructor ∈ info.constructors,
        constructor.visibility = .public ∧ constructor.params = [string] := by
  simp [hasStringConstructor]

theorem hasStringFactory_eq (info : TypeInfo) (name : String) (string : Descriptor) :
    info.hasStringFactory name string =
      match info.methods.find? fun method ↦ method.FromString name string with
      | some method => method.isStatic
      | none => false := rfl

theorem hasStringFactory_iff {info : TypeInfo} {name : String} {string : Descriptor} :
    info.hasStringFactory name string ↔ info.DeclaresFactory name string := by
  rw [hasStringFactory_eq]
  constructor
  · intro h
    split at h
    next method hfind =>
      obtain ⟨hmethod, index, hindex, rfl, hearlier⟩ := List.find?_eq_some_iff_getElem.1 hfind
      refine ⟨index, hindex, h, by simpa using hmethod, fun earlier hlt ↦ ?_⟩
      simpa using hearlier earlier hlt
    next => exact absurd h Bool.false_ne_true
  · rintro ⟨index, hindex, hstatic, hmethod, hearlier⟩
    have hfind : (info.methods.find? fun method ↦ method.FromString name string) =
        some info.methods[index] := by
      refine List.find?_eq_some_iff_getElem.2 ⟨by simpa using hmethod, index, hindex, rfl, ?_⟩
      intro earlier hlt
      simpa using hearlier earlier hlt
    rw [hfind]
    exact hstatic

/-- Whether a type can be made from a string, as one answer. -/
def fromString (info : TypeInfo) (string : Descriptor) : Bool :=
  info.isEnum || info.hasStringConstructor string ||
    stringFactories.any fun name ↦ info.hasStringFactory name string

theorem fromString_iff {info : TypeInfo} {string : Descriptor} :
    info.fromString string ↔ info.MadeFromString string := by
  simp only [fromString, stringFactories, MadeFromString, Bool.or_eq_true, List.any_eq_true,
    hasStringConstructor_iff, hasStringFactory_iff, or_assoc]

instance (info : TypeInfo) (string : Descriptor) : Decidable (info.MadeFromString string) :=
  decidable_of_iff _ fromString_iff

end TypeInfo

/-! ### Classification against a table -/

theorem Identities.isString_iff {known : Identities} {descriptor : Descriptor} :
    known.isString descriptor ↔ descriptor = known.string := by
  simp [isString, eq_comm]

theorem run_anyTrue_map_pure (answers : List Bool) :
    Id.run (anyTrue (answers.map pure)) = answers.any id := by
  induction answers with
  | nil => rfl
  | cons answer rest ih =>
    cases answer with
    | true => rfl
    | false => exact ih

namespace TypeInfo

theorem run_fromString_shape (info : TypeInfo) (string : Descriptor) :
    Id.run (info.shape.fromString string) = info.fromString string := by
  have hquestions : (info.shape : Shape Id).questions string =
      (info.isEnum :: info.hasStringConstructor string ::
        stringFactories.map fun name ↦ info.hasStringFactory name string).map pure := by
    simp [Shape.questions, shape]
  rw [Shape.fromString, hquestions, run_anyTrue_map_pure]
  simp [fromString, Bool.or_assoc]

end TypeInfo

namespace TypeTable

theorem run_classify (table : TypeTable) (known : Identities) (descriptor : Descriptor) :
    Id.run (table.resolver.classify known descriptor) =
      match known.kind? descriptor, table.get? descriptor with
      | some kind, _ => .known kind
      | none, some info => .resolved (info.fromString known.string)
      | none, none => .unresolved := by
  rw [Resolver.classify]
  cases known.kind? descriptor with
  | some kind => rfl
  | none =>
    cases hget : table.get? descriptor with
    | none => simp [resolver, hget]
    | some info =>
      simp [resolver, hget, ← TypeInfo.run_fromString_shape]

/-- Every descriptor is classified on its own, in order. -/
theorem classifyAll_eq_map (table : TypeTable) (known : Identities)
    (descriptors : List Descriptor) :
    table.classifyAll known descriptors = descriptors.map fun descriptor ↦
      (descriptor, Id.run (table.resolver.classify known descriptor)) := by
  rw [classifyAll, Resolver.classifyAll, List.idRun_mapM]
  rfl

/-- The kind of a descriptor: the well-known families in their order, then what the table says of
the type, and an object where neither knows it. -/
theorem kind_classify (table : TypeTable) (known : Identities) (descriptor : Descriptor) :
    (Id.run (table.resolver.classify known descriptor)).kind =
      if descriptor = known.string then .string
      else if descriptor ∈ known.booleans then .boolean
      else if descriptor ∈ known.integers then .integer
      else if descriptor ∈ known.floats then .number
      else
        match table.get? descriptor with
        | some info => if info.MadeFromString known.string then .string else .object
        | none => .object := by
  rw [run_classify, Identities.kind?]
  simp only [Identities.isString_iff, Identities.isBoolean, Identities.isInteger,
    Identities.isFloat, decide_eq_true_eq]
  split_ifs
  · rfl
  · rfl
  · rfl
  · rfl
  · cases table.get? descriptor with
    | none => rfl
    | some info => simp only [Verdict.kind, Kind.ofFromString, TypeInfo.fromString_iff]

end TypeTable

end JvmSchema
