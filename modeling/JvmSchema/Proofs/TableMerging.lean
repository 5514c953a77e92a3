import JvmSchema.Proofs.LayeredTables
import Mathlib.Data.List.Dedup

/-!
# The algebra of merging

Merging tables is associative and idempotent, the empty table is neutral, and a table that is merged
in again counts only where it comes last (`extend_extend_self`). The order of two tables matters
exactly when they describe some type in two ways (`extend_comm_iff`), and the size of the merged
table falls short of the sizes of both by the number of types that both describe
(`size_extend_add_card_inter`).

For a list of layers this means that only the last occurrence of a layer counts, however far the
others are from it. A layer that occurs is absorbed by the merged table (`extend_merge_of_mem`),
because it can be moved past the layers in between to where it occurs. `extend_algebra` has all laws
together, and says that the layers of a configuration are merged in this way.
-/

set_option autoImplicit false
set_option relaxedAutoImplicit false

namespace JvmSchema.TypeTable

instance : DecidableEq TypeTable := fun first second ↦
  decidable_of_iff (first.entries = second.entries)
    ⟨fun h ↦ by cases first; cases second; congr, congrArg entries⟩

/-! ### Two and three tables -/

theorem eq_iff_get?_eq {first second : TypeTable} :
    first = second ↔ ∀ descriptor, first.get? descriptor = second.get? descriptor :=
  ⟨fun h _ ↦ h ▸ rfl, ext_get?⟩

theorem extend_assoc (first second third : TypeTable) :
    (first.extend second).extend third = first.extend (second.extend third) :=
  ext_get? fun descriptor ↦ by
    simp only [get?_extend, Option.or_assoc]

@[simp] theorem extend_empty (table : TypeTable) : table.extend empty = table := rfl

@[simp] theorem empty_extend (table : TypeTable) : empty.extend table = table :=
  ext_get? fun descriptor ↦ by
    rw [get?_extend, get?_empty, Option.or_none]

@[simp] theorem extend_self (table : TypeTable) : table.extend table = table :=
  ext_get? fun descriptor ↦ by
    rw [get?_extend, Option.or_self]

/-- Of two occurrences of a table the earlier one has no effect. -/
theorem extend_extend_self (first second : TypeTable) :
    (first.extend second).extend first = second.extend first := by
  refine ext_get? fun descriptor ↦ ?_
  simp only [get?_extend]
  cases first.get? descriptor with
  | none => rw [Option.none_or, Option.none_or, Option.or_none]
  | some info => rw [Option.some_or, Option.some_or]

/-- A type that both tables describe has the same description in both. -/
def Compatible (first second : TypeTable) : Prop :=
  ∀ descriptor info info', first.get? descriptor = some info →
    second.get? descriptor = some info' → info = info'

/-- The order of two tables does not matter exactly when they agree on what both describe. -/
theorem extend_comm_iff {first second : TypeTable} :
    first.extend second = second.extend first ↔ Compatible first second := by
  simp only [eq_iff_get?_eq, get?_extend]
  constructor
  · intro h descriptor info info' hfirst hsecond
    have hor := h descriptor
    rw [hfirst, hsecond, Option.some_or, Option.some_or] at hor
    exact (Option.some.inj hor).symm
  · intro h descriptor
    cases hfirst : first.get? descriptor with
    | none => rw [Option.or_none, Option.none_or]
    | some info =>
      cases hsecond : second.get? descriptor with
      | none => rw [Option.or_none, Option.none_or]
      | some info' => rw [h descriptor info info' hfirst hsecond]

theorem compatible_of_disjoint {first second : TypeTable}
    (h : Disjoint first.descriptors second.descriptors) : Compatible first second := by
  intro descriptor info info' hfirst hsecond
  have hmem : descriptor ∈ first.descriptors := by simp [hfirst]
  have hmem' : descriptor ∈ second.descriptors := by simp [hsecond]
  exact absurd hmem' (Finset.disjoint_left.1 h hmem)

/-- The order of two tables does not matter if they share no type. -/
theorem extend_comm {first second : TypeTable}
    (h : Disjoint first.descriptors second.descriptors) :
    first.extend second = second.extend first :=
  extend_comm_iff.2 (compatible_of_disjoint h)

/-- The types that both tables describe are counted once in the merged table. -/
theorem size_extend_add_card_inter (first second : TypeTable) :
    (first.extend second).size + (first.descriptors ∩ second.descriptors).card =
      first.size + second.size := by
  rw [← card_descriptors, descriptors_extend, Finset.card_union_add_card_inter, card_descriptors,
    card_descriptors]

/-! ### Lists of layers -/

/-- The layers in one table, each merged into those before it. -/
def merge (layers : List TypeTable) : TypeTable :=
  layers.foldl extend empty

theorem foldl_extend (table : TypeTable) (layers : List TypeTable) :
    layers.foldl extend table = table.extend (merge layers) := by
  have : Std.Associative extend := ⟨extend_assoc⟩
  calc layers.foldl extend table
      = layers.foldl extend (table.extend empty) := by rw [extend_empty]
    _ = table.extend (merge layers) := List.foldl_assoc

@[simp] theorem merge_nil : merge [] = empty := rfl

@[simp] theorem merge_cons (layer : TypeTable) (rest : List TypeTable) :
    merge (layer :: rest) = layer.extend (merge rest) := by
  rw [merge, List.foldl_cons, empty_extend, foldl_extend]

theorem merge_append (lower upper : List TypeTable) :
    merge (lower ++ upper) = (merge lower).extend (merge upper) := by
  rw [merge, List.foldl_append, ← merge, foldl_extend]

/-- A layer that occurs anywhere adds nothing when it is put below all layers. -/
theorem extend_merge_of_mem {layer : TypeTable} {layers : List TypeTable} (h : layer ∈ layers) :
    layer.extend (merge layers) = merge layers := by
  induction layers with
  | nil => exact absurd h List.not_mem_nil
  | cons first rest ih =>
    rw [merge_cons]
    rcases List.mem_cons.1 h with rfl | hrest
    · rw [← extend_assoc, extend_self]
    · -- The occurrence in the rest absorbs the layer that is put below the first one.
      calc layer.extend (first.extend (merge rest))
          = (layer.extend first).extend (layer.extend (merge rest)) := by
            rw [ih hrest, extend_assoc]
        _ = ((layer.extend first).extend layer).extend (merge rest) := by
            rw [extend_assoc (layer.extend first)]
        _ = first.extend (layer.extend (merge rest)) := by
            rw [extend_extend_self, extend_assoc]
        _ = first.extend (merge rest) := by
            rw [ih hrest]

/-- Only the last occurrence of every layer counts. -/
theorem merge_dedup (layers : List TypeTable) : merge layers.dedup = merge layers := by
  induction layers with
  | nil => rfl
  | cons layer rest ih =>
    by_cases hmem : layer ∈ rest
    · rw [List.dedup_cons_of_mem hmem, ih, merge_cons, extend_merge_of_mem hmem]
    · rw [List.dedup_cons_of_notMem hmem, merge_cons, merge_cons, ih]

/-- The occurrences of a layer before another one of it can be deleted. -/
theorem merge_filter_append (layer : TypeTable) (earlier later : List TypeTable) :
    merge (earlier.filter (· ≠ layer) ++ layer :: later) = merge (earlier ++ layer :: later) := by
  induction earlier with
  | nil => rfl
  | cons first rest ih =>
    by_cases heq : first = layer
    · have hmem : layer ∈ rest ++ layer :: later := List.mem_append_right _ List.mem_cons_self
      rw [List.filter_cons_of_neg (by simpa using heq), ih, List.cons_append, merge_cons, heq,
        extend_merge_of_mem hmem]
    · rw [List.filter_cons_of_pos (by simpa using heq), List.cons_append, List.cons_append,
        merge_cons, merge_cons, ih]

/-- Neighbouring layers can be exchanged if they agree on what both describe. -/
theorem merge_swap {first second : TypeTable} (h : Compatible first second)
    (earlier later : List TypeTable) :
    merge (earlier ++ first :: second :: later) = merge (earlier ++ second :: first :: later) := by
  simp only [merge_append, merge_cons]
  rw [← extend_assoc first, ← extend_assoc second, extend_comm_iff.2 h]

/-! ### The layers of a configuration -/

theorem result_build_of_loads {files : FileSystem} {config : Config} {extra : List String}
    {tables : List TypeTable} (h : List.Forall₂ (Loads files) (config.types ++ extra) tables)
    (noJdk : Bool) :
    (build files config extra noJdk).result = .ok (merge (builtIn config noJdk ++ tables)) := by
  have hbase : (if config.jdk ∧ !noJdk then jdk else empty) = merge (builtIn config noJdk) := by
    by_cases hjdk : config.jdk ∧ !noJdk
    · rw [if_pos hjdk, builtIn, if_pos hjdk, merge_cons, merge_nil, extend_empty]
    · rw [if_neg hjdk, builtIn, if_neg hjdk, merge_nil]
  rw [build, Logged.result_bind_of_ok (result_extendByFiles_of_loads h _), hbase, foldl_extend,
    ← merge_append]
  rfl

/-- Merging is associative and idempotent with the empty table as its neutral element, a table
counts only where it comes last, and the order of two tables matters exactly when they describe a
type in two ways. The types that both describe are what the merged table is smaller by. So the
layers of a configuration make the same table without the earlier occurrences of one layer, or of
all, and with two neighbours exchanged that agree on what both describe. -/
theorem extend_algebra (first second third : TypeTable) :
    (first = second ↔ ∀ descriptor, first.get? descriptor = second.get? descriptor) ∧
    (first.extend second).extend third = first.extend (second.extend third) ∧
    (first.extend empty = first ∧ empty.extend first = first) ∧
    first.extend first = first ∧
    (first.extend second).extend first = second.extend first ∧
    (first.extend second = second.extend first ↔ Compatible first second) ∧
    (first.extend second).size + (first.descriptors ∩ second.descriptors).card =
      first.size + second.size ∧
    (∀ layers, merge (List.dedup layers) = merge layers) ∧
    (∀ earlier later, merge (earlier.filter (· ≠ first) ++ first :: later) =
      merge (earlier ++ first :: later)) ∧
    (Compatible first second → ∀ earlier later,
      merge (earlier ++ first :: second :: later) = merge (earlier ++ second :: first :: later)) ∧
    ∀ (files : FileSystem) (config : Config) (extra : List String) (noJdk : Bool)
      (tables : List TypeTable), List.Forall₂ (Loads files) (config.types ++ extra) tables →
        (build files config extra noJdk).result = .ok (merge (builtIn config noJdk ++ tables)) :=
  ⟨eq_iff_get?_eq, extend_assoc first second third, ⟨extend_empty first, empty_extend first⟩,
    extend_self first, extend_extend_self first second, extend_comm_iff,
    size_extend_add_card_inter first second, merge_dedup, merge_filter_append first, merge_swap,
    fun _ _ _ noJdk _ htables ↦ result_build_of_loads htables noJdk⟩

/-- A table with two types. -/
def lowerLayer : TypeTable :=
  empty.insertAll [{ descriptor := ⟨"LA;"⟩, isEnum := true }, { descriptor := ⟨"LB;"⟩ }]

/-- A table that describes one of the two types alike, and another one. -/
def upperLayer : TypeTable :=
  empty.insertAll [{ descriptor := ⟨"LB;"⟩ }, { descriptor := ⟨"LC;"⟩, isEnum := true }]

theorem extend_algebra_overlapping :
    Compatible lowerLayer upperLayer ∧
    merge [jdk, lowerLayer, upperLayer, jdk] = merge [jdk, upperLayer, lowerLayer, jdk] ∧
    ∃ tables, List.Forall₂ (Loads overlappingFiles) ["a.toml", "b.toml", "a.toml"] tables ∧
      (build overlappingFiles { types := ["a.toml", "b.toml"] } ["a.toml"] false).result =
        .ok (merge (builtIn { types := ["a.toml", "b.toml"] } false ++ tables)) := by
  obtain ⟨-, -, -, -, -, hcomm, -, -, -, hswap, hbuild⟩ :=
    extend_algebra lowerLayer upperLayer jdk
  have hcompatible : Compatible lowerLayer upperLayer := hcomm.1 (by decide)
  have ha : ∃ table, Loads overlappingFiles "a.toml" table :=
    exists_loads_iff.2 (by decide +kernel)
  have hb : ∃ table, Loads overlappingFiles "b.toml" table :=
    exists_loads_iff.2 (by decide +kernel)
  obtain ⟨tables, htables⟩ : ∃ tables,
      List.Forall₂ (Loads overlappingFiles) ["a.toml", "b.toml", "a.toml"] tables :=
    exists_forall₂ (by simp [ha, hb])
  exact ⟨hcompatible, hswap hcompatible [jdk] [jdk], tables, htables,
    hbuild _ _ _ false tables htables⟩

end JvmSchema.TypeTable
