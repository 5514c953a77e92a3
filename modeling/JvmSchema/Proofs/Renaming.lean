import JvmSchema.Proofs.ClassificationLaw
import JvmSchema.Proofs.TableEntries
import JvmSchema.TypeTable.Jdk
import Mathlib.Data.List.Basic
import Mathlib.Logic.Function.Basic

/-!
# Descriptors are opaque

Classification compares descriptors and does nothing else with them: no spelling of a descriptor is
special, neither that of a well-known type nor a bracket in front. So descriptors may be renamed,
in any way that keeps different ones apart, as long as the well-known identities, the table and the
descriptors asked for are renamed alike (`kind_rename`). Names of methods are no descriptors and
stay as they are.

The renamed table is built from the renamed entries (`mem_entries_rename`). These need not come in
the order of the old ones, so the two tables are compared by look-up (`get?_rename`).
-/

set_option autoImplicit false
set_option relaxedAutoImplicit false

namespace JvmSchema

variable {respell : String → String}

/-! ### Renaming in descriptors, identities and types -/

/-- The descriptor with another text. -/
def Descriptor.rename (respell : String → String) (descriptor : Descriptor) : Descriptor :=
  ⟨respell descriptor.text⟩

theorem Descriptor.rename_injective (h : Function.Injective respell) :
    Function.Injective (Descriptor.rename respell) := by
  rintro ⟨first⟩ ⟨second⟩ heq
  exact congrArg Descriptor.mk (h (Descriptor.mk.inj heq))

/-- The same families of other descriptors. -/
def Identities.rename (respell : String → String) (known : Identities) : Identities where
  string := known.string.rename respell
  booleans := known.booleans.map (Descriptor.rename respell)
  integers := known.integers.map (Descriptor.rename respell)
  floats := known.floats.map (Descriptor.rename respell)

/-- The constructor with its parameters renamed. -/
def Constructor.rename (respell : String → String) (constructor : Constructor) : Constructor :=
  { constructor with params := constructor.params.map (Descriptor.rename respell) }

/-- The method with its parameters renamed; it keeps its name. -/
def Method.rename (respell : String → String) (method : Method) : Method :=
  { method with params := method.params.map (Descriptor.rename respell) }

/-- The type with its descriptor and the parameters of its members renamed. -/
def TypeInfo.rename (respell : String → String) (info : TypeInfo) : TypeInfo where
  descriptor := info.descriptor.rename respell
  isEnum := info.isEnum
  constructors := info.constructors.map (Constructor.rename respell)
  methods := info.methods.map (Method.rename respell)

theorem Identities.kind?_rename (h : Function.Injective respell) (known : Identities)
    (descriptor : Descriptor) :
    (known.rename respell).kind? (descriptor.rename respell) = known.kind? descriptor := by
  have hrename := Descriptor.rename_injective h
  have hstring : (known.rename respell).isString (descriptor.rename respell) =
      known.isString descriptor := decide_eq_decide.2 hrename.eq_iff
  have hboolean : (known.rename respell).isBoolean (descriptor.rename respell) =
      known.isBoolean descriptor := decide_eq_decide.2 (List.mem_map_of_injective hrename)
  have hinteger : (known.rename respell).isInteger (descriptor.rename respell) =
      known.isInteger descriptor := decide_eq_decide.2 (List.mem_map_of_injective hrename)
  have hfloat : (known.rename respell).isFloat (descriptor.rename respell) =
      known.isFloat descriptor := decide_eq_decide.2 (List.mem_map_of_injective hrename)
  simp only [kind?, hstring, hboolean, hinteger, hfloat]

/-! ### What is asked of a type -/

theorem map_rename_eq_singleton_iff (h : Function.Injective respell) {params : List Descriptor}
    {string : Descriptor} :
    params.map (Descriptor.rename respell) = [string.rename respell] ↔ params = [string] := by
  rw [← List.map_singleton, (List.map_injective_iff.2 (Descriptor.rename_injective h)).eq_iff]

theorem Method.fromString_rename_iff (h : Function.Injective respell) {name : String}
    {string : Descriptor} {method : Method} :
    (method.rename respell).FromString name (string.rename respell) ↔
      method.FromString name string :=
  and_congr_right fun _ ↦ map_rename_eq_singleton_iff h

namespace TypeInfo

theorem hasStringConstructor_rename (h : Function.Injective respell) (info : TypeInfo)
    (string : Descriptor) :
    (info.rename respell).hasStringConstructor (string.rename respell) =
      info.hasStringConstructor string := by
  rw [hasStringConstructor, TypeInfo.rename, List.any_map]
  simp only [Function.comp_def, Constructor.rename, map_rename_eq_singleton_iff h]
  rfl

theorem hasStringFactory_rename (h : Function.Injective respell) (info : TypeInfo) (name : String)
    (string : Descriptor) :
    (info.rename respell).hasStringFactory name (string.rename respell) =
      info.hasStringFactory name string := by
  -- The search stops at the same method, and renaming leaves alone whether it is static.
  have hfind : ((info.rename respell).methods.find? fun method ↦
        method.FromString name (string.rename respell)) =
      (info.methods.find? fun method ↦ method.FromString name string).map
        (Method.rename respell) := by
    rw [TypeInfo.rename, List.find?_map]
    simp only [Function.comp_def, Method.fromString_rename_iff h]
  rw [hasStringFactory_eq, hasStringFactory_eq, hfind]
  cases info.methods.find? fun method ↦ method.FromString name string <;> rfl

theorem fromString_rename (h : Function.Injective respell) (info : TypeInfo)
    (string : Descriptor) :
    (info.rename respell).fromString (string.rename respell) = info.fromString string := by
  simp only [fromString, hasStringConstructor_rename h, hasStringFactory_rename h]
  rfl

end TypeInfo

/-! ### Renamed tables -/

namespace TypeTable

/-- The table of the renamed entries. -/
def rename (respell : String → String) (table : TypeTable) : TypeTable :=
  empty.insertAll (table.entries.map (TypeInfo.rename respell))

theorem nodup_map_rename (h : Function.Injective respell) (table : TypeTable) :
    ((table.entries.map (TypeInfo.rename respell)).map TypeInfo.descriptor).Nodup := by
  have hmap : (table.entries.map (TypeInfo.rename respell)).map TypeInfo.descriptor =
      (table.entries.map TypeInfo.descriptor).map (Descriptor.rename respell) := by
    simp [TypeInfo.rename]
  rw [hmap]
  exact (nodup_map_descriptor table.increasing).map (Descriptor.rename_injective h)

theorem mem_entries_rename (h : Function.Injective respell) {table : TypeTable} {info : TypeInfo} :
    info ∈ (table.rename respell).entries ↔
      ∃ entry ∈ table.entries, entry.rename respell = info := by
  rw [TypeTable.rename, mem_entries_insertAll (nodup_map_rename h table), List.mem_map]

theorem get?_rename (h : Function.Injective respell) (table : TypeTable)
    (descriptor : Descriptor) :
    (table.rename respell).get? (descriptor.rename respell) =
      (table.get? descriptor).map (TypeInfo.rename respell) := by
  apply Option.ext
  intro info
  rw [get?_eq_some_iff, mem_entries_rename h, Option.map_eq_some_iff]
  constructor
  · rintro ⟨⟨entry, hentry, rfl⟩, hdescriptor⟩
    have heq : entry.descriptor = descriptor := Descriptor.rename_injective h hdescriptor
    exact ⟨entry, get?_eq_some_iff.2 ⟨hentry, heq⟩, rfl⟩
  · rintro ⟨entry, hget, rfl⟩
    obtain ⟨hentry, rfl⟩ := get?_eq_some_iff.1 hget
    exact ⟨⟨entry, hentry, rfl⟩, rfl⟩

theorem run_classify_rename (h : Function.Injective respell) (table : TypeTable)
    (known : Identities) (descriptor : Descriptor) :
    Id.run ((table.rename respell).resolver.classify (known.rename respell)
        (descriptor.rename respell)) =
      Id.run (table.resolver.classify known descriptor) := by
  rw [run_classify, run_classify, Identities.kind?_rename h, get?_rename h]
  cases known.kind? descriptor with
  | some kind => rfl
  | none =>
    cases table.get? descriptor with
    | none => rfl
    | some info => exact congrArg Verdict.resolved (TypeInfo.fromString_rename h info known.string)

/-- Renaming descriptors alike in the identities, in a table and in what is asked keeps every kind,
of one descriptor and row by row of many. -/
theorem kind_rename (h : Function.Injective respell) (table : TypeTable) (known : Identities)
    (descriptor : Descriptor) (descriptors : List Descriptor) :
    (∀ info, info ∈ (table.rename respell).entries ↔
      ∃ entry ∈ table.entries, entry.rename respell = info) ∧
    (Id.run ((table.rename respell).resolver.classify (known.rename respell)
        (descriptor.rename respell))).kind =
      (Id.run (table.resolver.classify known descriptor)).kind ∧
    (table.rename respell).classifyAll (known.rename respell)
        (descriptors.map (Descriptor.rename respell)) =
      (table.classifyAll known descriptors).map fun (descriptor, verdict) ↦
        (descriptor.rename respell, verdict) := by
  refine ⟨fun info ↦ mem_entries_rename h, ?_, ?_⟩
  · rw [run_classify_rename h]
  · rw [classifyAll_eq_map, classifyAll_eq_map, List.map_map, List.map_map]
    refine List.map_congr_left fun other _ ↦ ?_
    exact congrArg (Prod.mk (other.rename respell)) (run_classify_rename h table known other)

/-- A bracket in front of every descriptor, which makes each look like that of an array. -/
def bracketed (text : String) : String :=
  "[" ++ text

theorem bracketed_injective : Function.Injective bracketed :=
  fun _ _ h ↦ (String.append_right_inj "[").1 h

theorem kind_rename_bracketed :
    Function.Injective bracketed ∧
    (∀ info, info ∈ (jdk.rename bracketed).entries ↔
      ∃ entry ∈ jdk.entries, entry.rename bracketed = info) ∧
    (Id.run ((jdk.rename bracketed).resolver.classify (Identities.jvm.rename bracketed)
        ⟨"[Ljava/util/UUID;"⟩)).kind =
      (Id.run (jdk.resolver.classify .jvm ⟨"Ljava/util/UUID;"⟩)).kind ∧
    (jdk.rename bracketed).classifyAll (Identities.jvm.rename bracketed)
        [⟨"[Ljava/util/UUID;"⟩, ⟨"[I"⟩, ⟨"[[I"⟩] =
      (jdk.classifyAll .jvm [⟨"Ljava/util/UUID;"⟩, ⟨"I"⟩, ⟨"[I"⟩]).map
        fun (descriptor, verdict) ↦ (descriptor.rename bracketed, verdict) :=
  ⟨bracketed_injective, kind_rename bracketed_injective jdk .jvm ⟨"Ljava/util/UUID;"⟩
    [⟨"Ljava/util/UUID;"⟩, ⟨"I"⟩, ⟨"[I"⟩]⟩

-- Where a renaming makes two descriptors the same, an object can become a string.
example :
    let known : Identities := ⟨⟨"S"⟩, [], [], []⟩
    (Id.run ((empty.rename fun _ ↦ "S").resolver.classify (known.rename fun _ ↦ "S")
        (Descriptor.rename (fun _ ↦ "S") ⟨"O"⟩))).kind = .string ∧
      (Id.run (empty.resolver.classify known ⟨"O"⟩)).kind = .object := by
  decide

end TypeTable

end JvmSchema
