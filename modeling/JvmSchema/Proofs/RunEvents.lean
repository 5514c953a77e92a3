import JvmSchema.CommandLine
import JvmSchema.Proofs.ClassificationLaw
import JvmSchema.Proofs.LayeredTables
import JvmSchema.Proofs.TypeFileFormat
import Mathlib.Algebra.GroupWithZero.Nat

/-!
# What a run reports and in which order

A run goes through four stages: it finds its configuration, reads the table files one after the
other, merges them, and classifies. Each stage has its events, and the first fault ends the run.
Nothing follows it, neither an event nor any part of the answer.

`run_reports` gives the whole sequence of events and the result for each of the three ways in which
a run can end. The numbers in the events are those of the files: what a file lists
(`loads_iff_lists`), and the size of the merged table, which is at most the sum of the layers and
reaches it exactly when no two layers describe the same type (`card_listed_eq_iff`).
-/

set_option autoImplicit false
set_option relaxedAutoImplicit false

namespace JvmSchema

/-! ### Logged computations as wholes -/

namespace Logged

variable {ε α β : Type}

theorem ok_bind (events : List Event) (value : α) (next : α → Logged ε β) :
    (⟨events, .ok value⟩ : Logged ε α) >>= next =
      ⟨events ++ (next value).events, (next value).result⟩ := rfl

theorem error_bind (events : List Event) (error : ε) (next : α → Logged ε β) :
    (⟨events, .error error⟩ : Logged ε α) >>= next = ⟨events, .error error⟩ := rfl

end Logged

/-! ### Finding the configuration -/

namespace Config

/-- Where a configuration is looked for when none is named. -/
def candidate (directory : String) : String :=
  FilePath.join directory fileName

/-- The configuration that applies: the one named, else the one in the directory, else the
default. -/
def applying (files : FileSystem) (path? : Option String) (directory : String) :
    Except ConfigError Config :=
  match path? with
  | some path => load files path
  | none => if files.isFile (candidate directory) then load files (candidate directory) else .ok {}

/-- What is reported of the search: the file in the directory, if none was named and it exists. -/
def searchEvents (files : FileSystem) (path? : Option String) (directory : String) : List Event :=
  if path? = none ∧ files.isFile (candidate directory) then [.usingConfig (candidate directory)]
  else []

theorem discover_eq (files : FileSystem) (path? : Option String) (directory : String) :
    discover files path? directory =
      ⟨searchEvents files path? directory, applying files path? directory⟩ := by
  cases path? with
  | some path => rfl
  | none =>
    cases h : files.isFile (candidate directory) with
    | true =>
      rw [candidate] at h
      simp only [discover, searchEvents, applying, candidate, h, true_and, if_true]
      rfl
    | false =>
      rw [candidate] at h
      simp only [discover, searchEvents, applying, candidate, h, Bool.false_eq_true, and_false,
        if_false]
      rfl

end Config

namespace TypeTable

/-! ### What a file lists -/

/-- The file at a path is a table file that lists these descriptions, all of different types. -/
def Lists (files : FileSystem) (path : String) (infos : List TypeInfo) : Prop :=
  ∃ text document, files.readText path = .ok text ∧ Toml.parse text = .ok document ∧
    FileForm (.table document) infos ∧ (infos.map TypeInfo.descriptor).Nodup

theorem load_eq (files : FileSystem) (path : String) :
    load files path =
      match (files.readText path).mapError (TableError.unreadable path) >>= ofToml with
      | .ok table => ⟨[.loadedTable path table.size], .ok table⟩
      | .error cause => ⟨[], .error cause⟩ := by
  rw [load]
  cases (files.readText path).mapError (TableError.unreadable path) with
  | error cause => rfl
  | ok text =>
    change Logged.ofExcept (ofToml text) >>= _ = match ofToml text with | .ok _ => _ | .error _ => _
    cases ofToml text with
    | error cause => rfl
    | ok table => rfl

theorem load_eq_of_loads {files : FileSystem} {path : String} {table : TypeTable}
    (h : Loads files path table) :
    load files path = ⟨[.loadedTable path table.size], .ok table⟩ := by
  rw [Loads, load_eq] at h
  rw [load_eq]
  split at h
  next loaded _ =>
    cases h
    rfl
  next => cases h

theorem load_eq_of_error {files : FileSystem} {path : String} {cause : TableError}
    (h : (load files path).result = .error cause) : load files path = ⟨[], .error cause⟩ := by
  rw [load_eq] at h ⊢
  split at h
  next => cases h
  next =>
    cases h
    rfl

theorem loads_iff_lists {files : FileSystem} {path : String} {table : TypeTable} :
    Loads files path table ↔ ∃ infos, Lists files path infos ∧ empty.insertAll infos = table := by
  have hresult : Loads files path table ↔
      (files.readText path).mapError (TableError.unreadable path) >>= ofToml = .ok table := by
    rw [Loads, load_eq]
    split
    next loaded hloaded => rw [hloaded]
    next cause hcause => simp [hcause]
  simp only [hresult, bind_eq_ok_iff, mapError_eq_ok_iff, ofToml_eq_ok_iff,
    ofDocument_eq_ok_iff, ← ofDistinct_eq_ok_iff_holds, ofDistinct_eq_ok_iff]
  constructor
  · rintro ⟨text, htext, document, hdocument, infos, hform, hnodup, htable⟩
    exact ⟨infos, ⟨text, document, htext, hdocument, hform, hnodup⟩, htable⟩
  · rintro ⟨infos, ⟨text, document, htext, hdocument, hform, hnodup⟩, htable⟩
    exact ⟨text, htext, document, hdocument, infos, hform, hnodup, htable⟩

theorem size_of_lists {files : FileSystem} {path : String} {infos : List TypeInfo}
    (h : Lists files path infos) : (empty.insertAll infos).size = infos.length := by
  obtain ⟨-, -, -, -, -, hnodup⟩ := h
  exact size_insertAll hnodup

theorem load_eq_of_lists {files : FileSystem} {path : String} {infos : List TypeInfo}
    (h : Lists files path infos) :
    load files path = ⟨[.loadedTable path infos.length], .ok (empty.insertAll infos)⟩ := by
  rw [load_eq_of_loads (loads_iff_lists.2 ⟨infos, h, rfl⟩), size_of_lists h]

theorem exists_loads_iff_exists_lists {files : FileSystem} {path : String} :
    (∃ table, Loads files path table) ↔ ∃ infos, Lists files path infos := by
  simp only [loads_iff_lists]
  constructor
  · rintro ⟨table, infos, h, -⟩
    exact ⟨infos, h⟩
  · rintro ⟨infos, h⟩
    exact ⟨_, infos, h, rfl⟩

/-! ### Reading the files in order -/

/-- The reports on files that were read: each path with how many types the file lists. -/
def loadedEvents (paths : List String) (listings : List (List TypeInfo)) : List Event :=
  List.zipWith (fun path infos ↦ .loadedTable path infos.length) paths listings

/-- The tables of files, from what they list. -/
def tablesOf (listings : List (List TypeInfo)) : List TypeTable :=
  listings.map empty.insertAll

/-- Files that are read leave their reports and their merged tables, and reading goes on. -/
theorem extendByFiles_append {files : FileSystem} {earlier : List String}
    {listings : List (List TypeInfo)} (h : List.Forall₂ (Lists files) earlier listings)
    (table : TypeTable) (later : List String) :
    table.extendByFiles files (earlier ++ later) =
      ⟨loadedEvents earlier listings ++
          (((tablesOf listings).foldl extend table).extendByFiles files later).events,
        (((tablesOf listings).foldl extend table).extendByFiles files later).result⟩ := by
  induction h generalizing table with
  | nil => rfl
  | @cons path infos _ _ hpath _ ih =>
    have hload : (load files path).mapError (Failure.table path) =
        ⟨[.loadedTable path infos.length], .ok (empty.insertAll infos)⟩ := by
      rw [load_eq_of_lists hpath]
      rfl
    rw [List.cons_append, extendByFiles, hload, Logged.ok_bind, ih]
    rfl

theorem extendByFiles_of_lists {files : FileSystem} {paths : List String}
    {listings : List (List TypeInfo)} (h : List.Forall₂ (Lists files) paths listings)
    (table : TypeTable) :
    table.extendByFiles files paths =
      ⟨loadedEvents paths listings, .ok ((tablesOf listings).foldl extend table)⟩ := by
  have happend := extendByFiles_append h table []
  rw [List.append_nil] at happend
  rw [happend]
  exact congrArg (Logged.mk · _) (List.append_nil _)

theorem extendByFiles_of_error {files : FileSystem} {earlier later : List String}
    {path : String} {listings : List (List TypeInfo)} {cause : TableError}
    (hearlier : List.Forall₂ (Lists files) earlier listings)
    (hpath : (load files path).result = .error cause) (table : TypeTable) :
    table.extendByFiles files (earlier ++ path :: later) =
      ⟨loadedEvents earlier listings, .error (.table path cause)⟩ := by
  have hload : (load files path).mapError (Failure.table path) =
      ⟨[], .error (.table path cause)⟩ := by
    rw [load_eq_of_error hpath]
    rfl
  rw [extendByFiles_append hearlier, extendByFiles, hload, Logged.error_bind]
  exact congrArg (Logged.mk · _) (List.append_nil _)

/-! ### Counting entries -/

theorem listed_cons (layer : TypeTable) (rest : List TypeTable) :
    listed (layer :: rest) = layer.descriptors ∪ listed rest := by
  ext descriptor
  simp only [mem_listed, List.exists_mem_cons_iff, Finset.mem_union]

theorem disjoint_listed_iff {layer : TypeTable} {rest : List TypeTable} :
    Disjoint layer.descriptors (listed rest) ↔
      ∀ other ∈ rest, Disjoint layer.descriptors other.descriptors := by
  simp only [Finset.disjoint_right, mem_listed]
  constructor
  · intro h other hother descriptor hmem
    exact h ⟨other, hother, hmem⟩
  · rintro h descriptor ⟨other, hother, hmem⟩
    exact h other hother hmem

/-- Layers list at most as many types as they have entries together. -/
theorem card_listed_le (layers : List TypeTable) :
    (listed layers).card ≤ (layers.map size).sum := by
  induction layers with
  | nil => exact le_rfl
  | cons layer rest ih =>
    calc (listed (layer :: rest)).card
        ≤ layer.descriptors.card + (listed rest).card := by
          rw [listed_cons]
          exact Finset.card_union_le _ _
      _ ≤ layer.size + (rest.map size).sum := by
          rw [card_descriptors]
          exact Nat.add_le_add_left ih _
      _ = ((layer :: rest).map size).sum := by
          rw [List.map_cons, List.sum_cons]

/-- Layers list as many types as they have entries together exactly when no two of them describe
the same type. -/
theorem card_listed_eq_iff {layers : List TypeTable} :
    (listed layers).card = (layers.map size).sum ↔
      layers.Pairwise fun first second ↦ Disjoint first.descriptors second.descriptors := by
  induction layers with
  | nil => simp [listed]
  | cons layer rest ih =>
    have hrest := card_listed_le rest
    have hunion := Finset.card_union_le layer.descriptors (listed rest)
    have hdisjoint : (layer.descriptors ∪ listed rest).card =
        layer.descriptors.card + (listed rest).card ↔ _ := Finset.card_union_eq_card_add_card
    rw [List.pairwise_cons, ← ih, ← disjoint_listed_iff, ← hdisjoint, listed_cons, List.map_cons,
      List.sum_cons]
    rw [card_descriptors] at hunion ⊢
    omega

/-- A merged table is at most as large as its layers together, and as large exactly when no two of
them describe the same type. -/
theorem size_le_of_overlays {layers : List TypeTable} {merged : TypeTable}
    (h : Overlays layers merged) :
    merged.size ≤ (layers.map size).sum ∧
      (merged.size = (layers.map size).sum ↔
        layers.Pairwise fun first second ↦ Disjoint first.descriptors second.descriptors) := by
  rw [h.size_eq]
  exact ⟨card_listed_le layers, card_listed_eq_iff⟩

theorem map_size_tablesOf {files : FileSystem} {paths : List String}
    {listings : List (List TypeInfo)} (h : List.Forall₂ (Lists files) paths listings) :
    (tablesOf listings).map size = listings.map List.length := by
  induction h with
  | nil => rfl
  | cons hpath _ ih => exact congrArg₂ List.cons (size_of_lists hpath) ih

theorem sum_size_layers {files : FileSystem} {paths : List String}
    {listings : List (List TypeInfo)} (h : List.Forall₂ (Lists files) paths listings)
    (config : Config) (noJdk : Bool) :
    ((builtIn config noJdk ++ tablesOf listings).map size).sum =
      (if config.jdk ∧ !noJdk then jdk.size else 0) + (listings.map List.length).sum := by
  rw [List.map_append, List.sum_append, map_size_tablesOf h]
  by_cases hjdk : config.jdk ∧ !noJdk
  · rw [builtIn, if_pos hjdk, if_pos hjdk, List.map_singleton, List.sum_singleton]
  · rw [builtIn, if_neg hjdk, if_neg hjdk, List.map_nil, List.sum_nil]

/-! ### Descriptors that do not resolve -/

/-- The descriptor is neither well known nor in the table. -/
def Unresolved (table : TypeTable) (known : Identities) (descriptor : Descriptor) : Prop :=
  (known.string ≠ descriptor ∧ descriptor ∉ known.booleans ∧ descriptor ∉ known.integers ∧
    descriptor ∉ known.floats) ∧ table.get? descriptor = none

instance (table : TypeTable) (known : Identities) (descriptor : Descriptor) :
    Decidable (table.Unresolved known descriptor) :=
  inferInstanceAs (Decidable (_ ∧ _))

theorem unresolved_iff {table : TypeTable} {known : Identities} {descriptor : Descriptor} :
    table.Unresolved known descriptor ↔
      Id.run (table.resolver.classify known descriptor) = .unresolved := by
  rw [Unresolved, ← Identities.kind?_eq_none_iff, run_classify]
  cases known.kind? descriptor with
  | some kind => simp
  | none => cases table.get? descriptor <;> simp

theorem kind_of_unresolved {table : TypeTable} {known : Identities} {descriptor : Descriptor}
    (h : table.Unresolved known descriptor) :
    (Id.run (table.resolver.classify known descriptor)).kind = .object := by
  rw [unresolved_iff.1 h]
  rfl

/-- There is an event for every descriptor that does not resolve, as often as it is asked for. -/
theorem ofVerdicts_classifyAll (table : TypeTable) (known : Identities)
    (descriptors : List Descriptor) :
    Event.ofVerdicts (table.classifyAll known descriptors) =
      (descriptors.filter fun descriptor ↦ table.Unresolved known descriptor).map
        .unresolved := by
  rw [classifyAll_eq_map, Event.ofVerdicts]
  induction descriptors with
  | nil => rfl
  | cons descriptor rest ih =>
    rw [List.map_cons, List.filterMap_cons, ih, List.filter_cons]
    by_cases h : table.Unresolved known descriptor
    · simp only [if_pos (unresolved_iff.1 h), decide_eq_true h, if_true, List.map_cons]
    · simp only [if_neg (mt unresolved_iff.2 h), decide_eq_false h, Bool.false_eq_true, if_false]

/-- The rows of an answer: every descriptor with its kind, in order. -/
def rows (table : TypeTable) (known : Identities) (descriptors : List Descriptor) : Report :=
  descriptors.map fun descriptor ↦
    (descriptor, (Id.run (table.resolver.classify known descriptor)).kind)

theorem ofTable_eq (table : TypeTable) (descriptors : List Descriptor) :
    Report.ofTable table descriptors =
      ⟨(descriptors.filter fun descriptor ↦ table.Unresolved .jvm descriptor).map .unresolved,
        .ok (table.rows .jvm descriptors)⟩ := by
  rw [Report.ofTable, ofVerdicts_classifyAll, Report.ofVerdicts, classifyAll_eq_map, List.map_map]
  rfl

end TypeTable

/-! ### Whole runs -/

open TypeTable

/-- What a run reports and answers when its configuration and all its files can be read. -/
structure Completes (options : Options) (files : FileSystem) (directory : String) (config : Config)
    (listings : List (List TypeInfo)) (merged : TypeTable) : Prop where
  lists : List.Forall₂ (Lists files) (config.types ++ options.types) listings
  overlays : Overlays (builtIn config options.noJdk ++ tablesOf listings) merged
  events_eq : (options.run files directory).events =
    Config.searchEvents files options.config directory ++
      loadedEvents (config.types ++ options.types) listings ++ [.tableReady merged.size] ++
      ((options.descriptors.map Descriptor.mk).filter fun descriptor ↦
        merged.Unresolved .jvm descriptor).map .unresolved
  result_eq : (options.run files directory).result =
    .ok ((merged.rows .jvm (options.descriptors.map Descriptor.mk)).render options.form)
  kind_of_unresolved (descriptor : Descriptor) (h : merged.Unresolved .jvm descriptor) :
    (Id.run (merged.resolver.classify .jvm descriptor)).kind = .object
  size_le : merged.size ≤
    (if config.jdk ∧ !options.noJdk then jdk.size else 0) + (listings.map List.length).sum
  size_eq_iff : merged.size =
      (if config.jdk ∧ !options.noJdk then jdk.size else 0) + (listings.map List.length).sum ↔
    (builtIn config options.noJdk ++ tablesOf listings).Pairwise fun first second ↦
      Disjoint first.descriptors second.descriptors

namespace Options

theorem run_eq_of_config_error {options : Options} {files : FileSystem} {directory : String}
    {cause : ConfigError} (h : Config.applying files options.config directory = .error cause) :
    options.run files directory =
      ⟨Config.searchEvents files options.config directory, .error (.config cause)⟩ := by
  rw [run, Config.discover_eq, h]
  rfl

theorem run_eq_of_config {options : Options} {files : FileSystem} {directory : String}
    {config : Config} (h : Config.applying files options.config directory = .ok config) :
    options.run files directory =
      ⟨Config.searchEvents files options.config directory, .ok config⟩ >>= fun found ↦ do
        let table ← TypeTable.build files found options.types options.noJdk
        let report ← Report.ofTable table (options.descriptors.map Descriptor.mk)
        return report.render options.form := by
  rw [run, Config.discover_eq, h]
  rfl

theorem run_eq_of_table_error {options : Options} {files : FileSystem} {directory : String}
    {config : Config} {earlier later : List String} {path : String}
    {listings : List (List TypeInfo)} {cause : TableError}
    (h : Config.applying files options.config directory = .ok config)
    (hpaths : config.types ++ options.types = earlier ++ path :: later)
    (hearlier : List.Forall₂ (Lists files) earlier listings)
    (hpath : (load files path).result = .error cause) :
    options.run files directory =
      ⟨Config.searchEvents files options.config directory ++ loadedEvents earlier listings,
        .error (.table path cause)⟩ := by
  have hbuild : TypeTable.build files config options.types options.noJdk =
      ⟨loadedEvents earlier listings, .error (.table path cause)⟩ := by
    rw [TypeTable.build, hpaths, extendByFiles_of_error hearlier hpath]
    rfl
  rw [run_eq_of_config h, Logged.ok_bind, hbuild, Logged.error_bind]

theorem completes_of_lists {options : Options} {files : FileSystem} {directory : String}
    {config : Config} {listings : List (List TypeInfo)}
    (h : Config.applying files options.config directory = .ok config)
    (hlists : List.Forall₂ (Lists files) (config.types ++ options.types) listings) :
    Completes options files directory config listings
      ((tablesOf listings).foldl extend
        (if config.jdk ∧ !options.noJdk then jdk else empty)) := by
  generalize hmerged : (tablesOf listings).foldl extend
    (if config.jdk ∧ !options.noJdk then jdk else empty) = merged
  have hoverlays : Overlays (builtIn config options.noJdk ++ tablesOf listings) merged :=
    hmerged ▸ overlays_builtIn config options.noJdk (tablesOf listings)
  have hbuild : TypeTable.build files config options.types options.noJdk =
      ⟨loadedEvents (config.types ++ options.types) listings ++ [.tableReady merged.size],
        .ok merged⟩ := by
    rw [TypeTable.build, extendByFiles_of_lists hlists, hmerged]
    rfl
  have hrun : options.run files directory =
      ⟨Config.searchEvents files options.config directory ++
          (loadedEvents (config.types ++ options.types) listings ++ [.tableReady merged.size] ++
            (((options.descriptors.map Descriptor.mk).filter fun descriptor ↦
              merged.Unresolved .jvm descriptor).map .unresolved ++ [])),
        .ok ((merged.rows .jvm (options.descriptors.map Descriptor.mk)).render options.form)⟩ := by
    rw [run_eq_of_config h, Logged.ok_bind, hbuild, Logged.ok_bind, ofTable_eq, Logged.ok_bind]
    rfl
  obtain ⟨hle, heq⟩ := size_le_of_overlays hoverlays
  rw [sum_size_layers hlists] at hle heq
  exact
    { lists := hlists
      overlays := hoverlays
      events_eq := by rw [hrun, List.append_nil, ← List.append_assoc, ← List.append_assoc]
      result_eq := by rw [hrun]
      kind_of_unresolved := fun descriptor ↦ TypeTable.kind_of_unresolved
      size_le := hle
      size_eq_iff := heq }

end Options

/-- A run ends in one of three ways: the configuration cannot be loaded, or the first of the table
files that cannot be loaded is named, or the answer is complete. The events are those of the stages
that were passed. The process writes the answer, whole, or an error and no part of an answer. -/
theorem run_reports (options : Options) (files : FileSystem) (directory : String) :
    (∀ cause, Config.applying files options.config directory = .error cause →
      options.run files directory =
        ⟨Config.searchEvents files options.config directory, .error (.config cause)⟩) ∧
    (∀ config, Config.applying files options.config directory = .ok config →
      ((∃ path ∈ config.types ++ options.types, ∀ infos, ¬ Lists files path infos) →
        ∃ earlier path later listings cause,
          config.types ++ options.types = earlier ++ path :: later ∧
          List.Forall₂ (Lists files) earlier listings ∧
          (load files path).result = .error cause ∧
          options.run files directory =
            ⟨Config.searchEvents files options.config directory ++ loadedEvents earlier listings,
              .error (.table path cause)⟩ ∧
          (Failure.table path cause).chain = ("loading " ++ path) :: cause.chain) ∧
      ((∀ path ∈ config.types ++ options.types, ∃ infos, Lists files path infos) →
        ∃ listings merged, Completes options files directory config listings merged)) ∧
    ∀ arguments, CommandLine.parse arguments = .ok options →
      (∃ output, (options.run files directory).result = .ok output ∧
        CommandLine.execute files directory arguments = ⟨0, output, ""⟩) ∨
      ∃ failure, (options.run files directory).result = .error failure ∧
        CommandLine.execute files directory arguments =
          ⟨1, "", "error: " ++ ": ".intercalate failure.chain ++ "\n"⟩ := by
  refine ⟨fun cause ↦ Options.run_eq_of_config_error, fun config hconfig ↦ ⟨?_, ?_⟩, ?_⟩
  · intro hfail
    simp only [← not_exists, ← exists_loads_iff_exists_lists] at hfail
    obtain ⟨earlier, path, later, cause, hpaths, hearlier, hcause⟩ :=
      exists_first_failure (by simpa only [not_exists] using hfail)
    obtain ⟨listings, hlistings⟩ := exists_forall₂ fun other hother ↦
      exists_loads_iff_exists_lists.1 (hearlier other hother)
    exact ⟨earlier, path, later, listings, cause, hpaths, hlistings, hcause,
      Options.run_eq_of_table_error hconfig hpaths hlistings hcause, rfl⟩
  · intro hlist
    obtain ⟨listings, hlistings⟩ := exists_forall₂ hlist
    exact ⟨listings, _, Options.completes_of_lists hconfig hlistings⟩
  · intro arguments harguments
    rw [CommandLine.execute, harguments]
    cases hresult : (options.run files directory).result with
    | ok output => exact .inl ⟨output, rfl, by simp only [hresult]; rfl⟩
    | error failure => exact .inr ⟨failure, rfl, by simp only [hresult]; rfl⟩

/-- A directory with a configuration that names one of two table files. -/
def workspace : FileSystem where
  read path :=
    if path = "/w/schemakind.toml" then .ok "types = [\"a.toml\"]\n".toUTF8
    else if path = "/w/a.toml" then .ok "[[types]]\ndescriptor = \"LA;\"\nenum = true\n".toUTF8
    else if path = "b.toml" then
      .ok "[[types]]\ndescriptor = \"LA;\"\n[[types]]\ndescriptor = \"LB;\"\n".toUTF8
    else .error .missing
  isFile path := path ∈ ["/w/schemakind.toml", "/w/a.toml", "b.toml"]

theorem run_reports_workspace :
    (∃ cause, Config.applying workspace (some "b.toml") "/w" = .error cause ∧
      Options.run { descriptors := ["LA;"], config := some "b.toml" } workspace "/w" =
        ⟨Config.searchEvents workspace (some "b.toml") "/w", .error (.config cause)⟩) ∧
    (∃ earlier path later listings cause,
      ["/w/a.toml", "c.toml", "b.toml"] = earlier ++ path :: later ∧
      List.Forall₂ (Lists workspace) earlier listings ∧
      (load workspace path).result = .error cause ∧
      Options.run { descriptors := ["LA;"], types := ["c.toml", "b.toml"] } workspace "/w" =
        ⟨Config.searchEvents workspace none "/w" ++ loadedEvents earlier listings,
          .error (.table path cause)⟩ ∧
      (Failure.table path cause).chain = ("loading " ++ path) :: cause.chain) ∧
    (∃ listings merged,
      Completes { descriptors := ["LA;", "LX;", "I", "LX;"], types := ["b.toml"] } workspace "/w"
        { types := ["/w/a.toml"] } listings merged) ∧
    ((∃ output,
        (Options.run { descriptors := ["LA;", "LX;", "I", "LX;"], types := ["b.toml"] }
          workspace "/w").result = .ok output ∧
        CommandLine.execute workspace "/w"
          ["classify", "LA;", "--types", "b.toml", "LX;", "I", "LX;"] = ⟨0, output, ""⟩) ∨
      ∃ failure,
        (Options.run { descriptors := ["LA;", "LX;", "I", "LX;"], types := ["b.toml"] }
          workspace "/w").result = .error failure ∧
        CommandLine.execute workspace "/w"
            ["classify", "LA;", "--types", "b.toml", "LX;", "I", "LX;"] =
          ⟨1, "", "error: " ++ ": ".intercalate failure.chain ++ "\n"⟩) := by
  have hconfig : Config.applying workspace none "/w" = .ok { types := ["/w/a.toml"] } :=
    toOption_eq_some_iff.1 (by decide +kernel)
  have ha : ∃ infos, Lists workspace "/w/a.toml" infos :=
    exists_loads_iff_exists_lists.1 (exists_loads_iff.2 (by decide +kernel))
  have hb : ∃ infos, Lists workspace "b.toml" infos :=
    exists_loads_iff_exists_lists.1 (exists_loads_iff.2 (by decide +kernel))
  have hc : ∀ infos, ¬ Lists workspace "c.toml" infos :=
    not_exists.1 (mt exists_loads_iff_exists_lists.2 (mt exists_loads_iff.1 (by decide +kernel)))
  refine ⟨?_, ?_, ?_, ?_⟩
  · cases hcause : Config.applying workspace (some "b.toml") "/w" with
    | ok config =>
      have hnone : (Config.applying workspace (some "b.toml") "/w").toOption = none := by
        decide +kernel
      rw [hcause] at hnone
      cases hnone
    | error cause =>
      exact ⟨cause, rfl, (run_reports { descriptors := ["LA;"], config := some "b.toml" }
        workspace "/w").1 cause hcause⟩
  · exact ((run_reports { descriptors := ["LA;"], types := ["c.toml", "b.toml"] } workspace
      "/w").2.1 _ hconfig).1 ⟨"c.toml", by simp, hc⟩
  · exact ((run_reports { descriptors := ["LA;", "LX;", "I", "LX;"], types := ["b.toml"] }
      workspace "/w").2.1 _ hconfig).2 (by simp [ha, hb])
  · exact (run_reports { descriptors := ["LA;", "LX;", "I", "LX;"], types := ["b.toml"] }
      workspace "/w").2.2 _ (toOption_eq_some_iff.1 (by decide +kernel))

-- Two files describe one type, so the merged table is smaller than the files together.
example :
    (Options.run { descriptors := ["LA;", "LX;", "I", "LX;"], types := ["b.toml"], noJdk := true }
        workspace "/w").events =
      [.usingConfig "/w/schemakind.toml", .loadedTable "/w/a.toml" 1, .loadedTable "b.toml" 2,
        .tableReady 2, .unresolved ⟨"LX;"⟩, .unresolved ⟨"LX;"⟩] := by
  decide +kernel

end JvmSchema
