import JvmSchema.Proofs.Basic
import JvmSchema.Proofs.TableEntries
import JvmSchema.Run

/-!
# Layers of tables

A run merges the built-in table, if it applies, with the tables in files. `Overlays` says what
comes of the layers: every descriptor has the description that the last layer listing it gives, as a
whole, and no layer adds to what another one says. `overlays_foldl_extend` is the loop invariant.

The files are read in order up to the first that does not load. `result_extendByFiles_of_loads` and
`result_extendByFiles_of_fails` are the two ways this ends, and `build_merges_layers` puts them
together for a whole configuration.
-/

set_option autoImplicit false
set_option relaxedAutoImplicit false

namespace JvmSchema

/-! ### Results of logged computations -/

namespace Logged

variable {ε ε' α β : Type}

theorem result_bind_of_ok {first : Logged ε α} {value : α} (h : first.result = .ok value)
    (next : α → Logged ε β) : (first >>= next).result = (next value).result := by
  change (andThen first next).result = _
  simp [andThen, h]

theorem result_bind_of_error {first : Logged ε α} {error : ε} (h : first.result = .error error)
    (next : α → Logged ε β) : (first >>= next).result = .error error := by
  change (andThen first next).result = _
  simp [andThen, h]

theorem toOption_result_bind (first : Logged ε α) (next : α → Logged ε β) :
    (first >>= next).result.toOption =
      first.result.toOption.bind fun value ↦ (next value).result.toOption := by
  cases h : first.result with
  | ok value =>
    rw [result_bind_of_ok h]
    rfl
  | error error =>
    rw [result_bind_of_error h]
    rfl

theorem result_mapError_of_ok {logged : Logged ε α} {value : α} (change : ε → ε')
    (h : logged.result = .ok value) : (logged.mapError change).result = .ok value := by
  simp [mapError, h, Except.mapError]

theorem result_mapError_of_error {logged : Logged ε α} {error : ε} (change : ε → ε')
    (h : logged.result = .error error) :
    (logged.mapError change).result = .error (change error) := by
  simp [mapError, h, Except.mapError]

end Logged

namespace TypeTable

/-! ### The last layer that lists a descriptor -/

/-- The last of the layers that list a descriptor gives it this description. -/
def LastListed (layers : List TypeTable) (descriptor : Descriptor) (info : TypeInfo) : Prop :=
  ∃ earlier layer later, layers = earlier ++ layer :: later ∧
    layer.get? descriptor = some info ∧ ∀ other ∈ later, other.get? descriptor = none

/-- The descriptors that some layer lists. -/
def listed (layers : List TypeTable) : Finset Descriptor :=
  (layers.flatMap fun layer ↦ layer.entries.map TypeInfo.descriptor).toFinset

theorem mem_listed {layers : List TypeTable} {descriptor : Descriptor} :
    descriptor ∈ listed layers ↔ ∃ layer ∈ layers, descriptor ∈ layer.descriptors := by
  simp [listed, descriptors]

theorem lastListed_cons {layer : TypeTable} {rest : List TypeTable} {descriptor : Descriptor}
    {info : TypeInfo} : LastListed (layer :: rest) descriptor info ↔
      LastListed rest descriptor info ∨
        layer.get? descriptor = some info ∧ ∀ other ∈ rest, other.get? descriptor = none := by
  constructor
  · rintro ⟨earlier, found, later, hlayers, hfound, hlater⟩
    cases earlier with
    | nil =>
      obtain ⟨rfl, rfl⟩ := List.cons.inj hlayers
      exact .inr ⟨hfound, hlater⟩
    | cons first earlier =>
      obtain ⟨-, hrest⟩ := List.cons.inj hlayers
      exact .inl ⟨earlier, found, later, hrest, hfound, hlater⟩
  · rintro (⟨earlier, found, later, rfl, hfound, hlater⟩ | ⟨hlayer, hrest⟩)
    · exact ⟨layer :: earlier, found, later, rfl, hfound, hlater⟩
    · exact ⟨[], layer, rest, rfl, hlayer, hrest⟩

theorem not_lastListed_nil (descriptor : Descriptor) (info : TypeInfo) :
    ¬ LastListed [] descriptor info := by
  rintro ⟨earlier, found, later, hlayers, -, -⟩
  exact absurd hlayers (by simp)

/-! ### Layers in one table -/

/-- The table holds for every descriptor what the last layer listing it says, and no more. -/
structure Overlays (layers : List TypeTable) (merged : TypeTable) : Prop where
  get?_eq_some_iff (descriptor : Descriptor) (info : TypeInfo) :
    merged.get? descriptor = some info ↔ LastListed layers descriptor info
  get?_eq_none_iff (descriptor : Descriptor) :
    merged.get? descriptor = none ↔ ∀ layer ∈ layers, layer.get? descriptor = none
  size_eq : merged.size = (listed layers).card

theorem overlays_singleton (table : TypeTable) : Overlays [table] table where
  get?_eq_some_iff descriptor info := by
    simp [lastListed_cons, not_lastListed_nil]
  get?_eq_none_iff descriptor := by simp
  size_eq := by
    rw [← card_descriptors]
    simp [listed, descriptors]

/-- Merging a layer into the one before it leaves open nothing that the two say. -/
theorem overlays_of_extend {table layer merged : TypeTable} {rest : List TypeTable}
    (h : Overlays (table.extend layer :: rest) merged) :
    Overlays (table :: layer :: rest) merged where
  get?_eq_some_iff descriptor info := by
    rw [h.get?_eq_some_iff, lastListed_cons, lastListed_cons, lastListed_cons, get?_extend,
      Option.or_eq_some_iff, List.forall_mem_cons]
    tauto
  get?_eq_none_iff descriptor := by
    simp only [h.get?_eq_none_iff, List.forall_mem_cons, get?_extend, Option.or_eq_none_iff]
    tauto
  size_eq := by
    rw [h.size_eq]
    congr 1
    ext descriptor
    simp only [mem_listed, List.exists_mem_cons_iff, descriptors_extend, Finset.mem_union,
      or_assoc]

theorem overlays_foldl_extend (table : TypeTable) (layers : List TypeTable) :
    Overlays (table :: layers) (layers.foldl extend table) := by
  induction layers generalizing table with
  | nil => exact overlays_singleton table
  | cons layer rest ih => exact overlays_of_extend (ih (table.extend layer))

/-- A first layer without entries may be left out. -/
theorem overlays_of_empty_cons {layers : List TypeTable} {merged : TypeTable}
    (h : Overlays (empty :: layers) merged) : Overlays layers merged where
  get?_eq_some_iff descriptor info := by
    simp [h.get?_eq_some_iff, lastListed_cons]
  get?_eq_none_iff descriptor := by
    simp [h.get?_eq_none_iff]
  size_eq := by
    rw [h.size_eq]
    rfl

/-! ### Reading the layers from files -/

/-- A path leads to a table. -/
def Loads (files : FileSystem) (path : String) (table : TypeTable) : Prop :=
  (load files path).result = .ok table

theorem result_extendByFiles_cons {files : FileSystem} {path : String} {layer : TypeTable}
    (h : Loads files path layer) (table : TypeTable) (rest : List String) :
    (table.extendByFiles files (path :: rest)).result =
      ((table.extend layer).extendByFiles files rest).result := by
  have hlayer : ((load files path).mapError (Failure.table path)).result = .ok layer :=
    Logged.result_mapError_of_ok _ h
  rw [extendByFiles, Logged.result_bind_of_ok hlayer]

theorem result_extendByFiles_of_loads {files : FileSystem} {paths : List String}
    {tables : List TypeTable} (h : List.Forall₂ (Loads files) paths tables) (table : TypeTable) :
    (table.extendByFiles files paths).result = .ok (tables.foldl extend table) := by
  induction h generalizing table with
  | nil => rfl
  | @cons path layer _ _ hload _ ih =>
    rw [result_extendByFiles_cons hload]
    exact ih (table.extend layer)

theorem result_extendByFiles_of_fails {files : FileSystem} {earlier later : List String}
    {path : String} {cause : TableError}
    (hearlier : ∀ other ∈ earlier, ∃ loaded, Loads files other loaded)
    (hpath : (load files path).result = .error cause) (table : TypeTable) :
    (table.extendByFiles files (earlier ++ path :: later)).result = .error (.table path cause) := by
  induction earlier generalizing table with
  | nil =>
    have hfailure : ((load files path).mapError (Failure.table path)).result =
        .error (.table path cause) := Logged.result_mapError_of_error _ hpath
    rw [List.nil_append, extendByFiles]
    exact Logged.result_bind_of_error hfailure _
  | cons first rest ih =>
    obtain ⟨⟨loaded, hfirst⟩, hrest⟩ := List.forall_mem_cons.1 hearlier
    rw [List.cons_append, result_extendByFiles_cons hfirst]
    exact ih hrest (table.extend loaded)

theorem exists_first_failure {files : FileSystem} {paths : List String}
    (h : ∃ path ∈ paths, ∀ table, ¬ Loads files path table) :
    ∃ earlier path later cause, paths = earlier ++ path :: later ∧
      (∀ other ∈ earlier, ∃ table, Loads files other table) ∧
      (load files path).result = .error cause := by
  induction paths with
  | nil => simp at h
  | cons first rest ih =>
    cases hfirst : (load files first).result with
    | error cause => exact ⟨[], first, rest, cause, rfl, by simp, hfirst⟩
    | ok table =>
      have hrest : ∃ path ∈ rest, ∀ table, ¬ Loads files path table := by
        obtain ⟨path, hmem, hpath⟩ := h
        rcases List.mem_cons.1 hmem with rfl | hmem
        · exact absurd hfirst (hpath table)
        · exact ⟨path, hmem, hpath⟩
      obtain ⟨earlier, path, later, cause, rfl, hearlier, hcause⟩ := ih hrest
      exact ⟨first :: earlier, path, later, cause, rfl,
        List.forall_mem_cons.2 ⟨⟨table, hfirst⟩, hearlier⟩, hcause⟩

/-! ### The table of a configuration -/

/-- The built-in layer, where it applies. -/
def builtIn (config : Config) (noJdk : Bool) : List TypeTable :=
  if config.jdk ∧ !noJdk then [jdk] else []

theorem overlays_builtIn (config : Config) (noJdk : Bool) (tables : List TypeTable) :
    Overlays (builtIn config noJdk ++ tables)
      (tables.foldl extend (if config.jdk ∧ !noJdk then jdk else empty)) := by
  by_cases h : config.jdk ∧ !noJdk
  · simp only [builtIn, if_pos h]
    exact overlays_foldl_extend jdk tables
  · simp only [builtIn, if_neg h]
    exact overlays_of_empty_cons (overlays_foldl_extend empty tables)

/-- Where every path leads to a table, the layers are merged and the last one listing a descriptor
decides; otherwise the first path that leads to none is named. -/
theorem build_merges_layers (files : FileSystem) (config : Config) (extra : List String)
    (noJdk : Bool) :
    ((∀ path ∈ config.types ++ extra, ∃ table, Loads files path table) →
      ∃ tables merged, List.Forall₂ (Loads files) (config.types ++ extra) tables ∧
        (build files config extra noJdk).result = .ok merged ∧
        Overlays (builtIn config noJdk ++ tables) merged) ∧
    ((∃ path ∈ config.types ++ extra, ∀ table, ¬ Loads files path table) →
      ∃ earlier path later cause, config.types ++ extra = earlier ++ path :: later ∧
        (∀ other ∈ earlier, ∃ table, Loads files other table) ∧
        (load files path).result = .error cause ∧
        (build files config extra noJdk).result = .error (.table path cause) ∧
        (Failure.table path cause).chain = ("loading " ++ path) :: cause.chain) := by
  constructor
  · intro hload
    obtain ⟨tables, htables⟩ := exists_forall₂ hload
    have hbuild : (build files config extra noJdk).result =
        .ok (tables.foldl extend (if config.jdk ∧ !noJdk then jdk else empty)) := by
      rw [build, Logged.result_bind_of_ok (result_extendByFiles_of_loads htables _)]
      rfl
    exact ⟨tables, _, htables, hbuild, overlays_builtIn config noJdk tables⟩
  · intro hfail
    obtain ⟨earlier, path, later, cause, hpaths, hearlier, hcause⟩ := exists_first_failure hfail
    have hbuild : (build files config extra noJdk).result = .error (.table path cause) := by
      rw [build, hpaths]
      exact Logged.result_bind_of_error (result_extendByFiles_of_fails hearlier hcause _) _
    exact ⟨earlier, path, later, cause, hpaths, hearlier, hcause, hbuild, rfl⟩

theorem exists_loads_iff {files : FileSystem} {path : String} :
    (∃ table, Loads files path table) ↔ (load files path).result.toOption.isSome := by
  unfold Loads
  cases (load files path).result <;> simp [Except.toOption]

/-- Two files that list one descriptor in two ways, and no others. -/
def overlappingFiles : FileSystem where
  read path :=
    if path = "a.toml" then
      .ok "[[types]]\ndescriptor = \"LA;\"\nenum = true\n[[types]]\ndescriptor = \"LB;\"\n".toUTF8
    else if path = "b.toml" then .ok "[[types]]\ndescriptor = \"LA;\"\nmethods = []\n".toUTF8
    else .error .missing
  isFile path := path = "a.toml" ∨ path = "b.toml"

theorem build_merges_layers_overlapping :
    (∃ tables merged, List.Forall₂ (Loads overlappingFiles) ["a.toml", "b.toml", "a.toml"] tables ∧
      (build overlappingFiles { types := ["a.toml", "b.toml"] } ["a.toml"] false).result =
        .ok merged ∧ Overlays (jdk :: tables) merged) ∧
    (∃ earlier path later cause, ["a.toml", "c.toml", "d.toml"] = earlier ++ path :: later ∧
      (∀ other ∈ earlier, ∃ table, Loads overlappingFiles other table) ∧
      (load overlappingFiles path).result = .error cause ∧
      (build overlappingFiles { types := ["a.toml"] } ["c.toml", "d.toml"] true).result =
        .error (.table path cause) ∧
      (Failure.table path cause).chain = ("loading " ++ path) :: cause.chain) := by
  have ha : ∃ table, Loads overlappingFiles "a.toml" table :=
    exists_loads_iff.2 (by decide +kernel)
  have hb : ∃ table, Loads overlappingFiles "b.toml" table :=
    exists_loads_iff.2 (by decide +kernel)
  have hc : ∀ table, ¬ Loads overlappingFiles "c.toml" table :=
    not_exists.1 (mt exists_loads_iff.1 (by decide +kernel))
  constructor
  · exact (build_merges_layers overlappingFiles { types := ["a.toml", "b.toml"] } ["a.toml"]
      false).1 (by simp [ha, hb])
  · exact (build_merges_layers overlappingFiles { types := ["a.toml"] } ["c.toml", "d.toml"]
      true).2 ⟨"c.toml", by simp, hc⟩

end TypeTable

end JvmSchema
