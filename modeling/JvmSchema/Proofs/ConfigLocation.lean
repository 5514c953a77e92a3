import JvmSchema.Proofs.Locality
import JvmSchema.Proofs.WorkingDirectory

/-!
# Where a configuration is named from

A configuration in a file means the same whether the file is named relatively to the working
directory or by the path that this is opened by. What can be loaded by one of the two paths can be
loaded by the other. A path without a parent leads to a directory, so a configuration that could be
read has one (`names_ne_nil_of_readText`), and every relative path in it is taken from there.

The two parents make two paths of one entry. They go through the same components from the root
(`RebasedAlike`), whatever the files are. If the files follow the names of the paths that are opened
for the configuration (`Opens`), the two lead to the same text, and tables merged from files depend
on the texts alone (`toOption_result_extendByFiles_congr`). `load_join_directory` follows this up to
whole runs.
-/

set_option autoImplicit false
set_option relaxedAutoImplicit false

namespace JvmSchema

open FilePath (components endsInName isAbsolute join names parent?)

/-! ### Tables from files with the same texts -/

/-- Two paths lead to the same text or to none. -/
def FileSystem.SameText (files : FileSystem) (path path' : String) : Prop :=
  (files.readText path).toOption = (files.readText path').toOption

namespace TypeTable

theorem toOption_result_load (files : FileSystem) (path : String) :
    (load files path).result.toOption =
      (files.readText path).toOption.bind fun text ↦ (ofToml text).toOption := by
  rw [← toOption_mapError (TableError.unreadable path), ← toOption_bind, load_eq]
  cases (files.readText path).mapError (TableError.unreadable path) >>= ofToml <;> rfl

/-- What files make of a table depends on their texts alone. -/
theorem toOption_result_extendByFiles_congr {files : FileSystem} {paths paths' : List String}
    (h : List.Forall₂ files.SameText paths paths') (table : TypeTable) :
    (table.extendByFiles files paths).result.toOption =
      (table.extendByFiles files paths').result.toOption := by
  induction h generalizing table with
  | nil => rfl
  | @cons path path' rest rest' hpath _ ih =>
    have hload : (load files path).result.toOption = (load files path').result.toOption := by
      rw [toOption_result_load, toOption_result_load, hpath]
    rw [extendByFiles, extendByFiles, Logged.toOption_result_bind, Logged.toOption_result_bind,
      Logged.mapError, Logged.mapError, toOption_mapError, toOption_mapError, hload]
    exact congrArg _ (funext fun loaded ↦ ih (table.extend loaded))

theorem toOption_result_build (files : FileSystem) (config : Config) (extra : List String)
    (noJdk : Bool) : (build files config extra noJdk).result.toOption =
      ((if config.jdk ∧ !noJdk then jdk else empty).extendByFiles files
        (config.types ++ extra)).result.toOption := by
  rw [build, Logged.toOption_result_bind]
  exact Option.bind_fun_some _

end TypeTable

namespace Config

/-! ### Configurations before and after their paths are taken from a directory -/

/-- The configuration as it is written in a file. -/
def written? (files : FileSystem) (path : String) : Option Config :=
  (files.readText path).toOption.bind fun text ↦ (ofToml text).toOption

theorem toOption_load (files : FileSystem) (path : String) :
    (load files path).toOption = (written? files path).map (rebase · path) := by
  rw [load, toOption_bind, toOption_mapError, written?]
  cases (files.readText path).toOption with
  | none => rfl
  | some text =>
    change Except.toOption (_ >>= _) = (ofToml text).toOption.map (rebase · path)
    rw [toOption_bind, toOption_mapError]
    cases (ofToml text).toOption <;> rfl

theorem load_eq_ok_iff {files : FileSystem} {path : String} {config : Config} :
    load files path = .ok config ↔
      ∃ written, written? files path = some written ∧ written.rebase path = config := by
  rw [← toOption_eq_some_iff, toOption_load, Option.map_eq_some_iff]

theorem rebase_of_parent? {path base : String} (h : parent? path = some base) (config : Config) :
    config.rebase path = { config with types := config.types.map (join base) } := by
  rw [rebase, h]

/-- A configuration as it is written, with its paths taken from two directories. An absolute path
stays as it is. A relative one leads through the same components from the root, whether it is taken
from the first directory and opened from the working directory, or taken from the second. -/
structure RebasedAlike (directory base base' : String) (written config config' : Config) :
    Prop where
  eq_left : config = { written with types := written.types.map (join base) }
  eq_right : config' = { written with types := written.types.map (join base') }
  join_of_isAbsolute (entry : String) (hmem : entry ∈ written.types) (h : isAbsolute entry) :
    join base entry = entry ∧ join base' entry = entry
  isAbsolute_join (entry : String) (hmem : entry ∈ written.types) : isAbsolute (join base' entry)
  components_join (entry : String) (hmem : entry ∈ written.types) (h : ¬ isAbsolute entry) :
    components (join base' entry) = components (join directory (join base entry))
  endsInName_join (entry : String) (hmem : entry ∈ written.types) (h : ¬ isAbsolute entry) :
    endsInName (join base' entry) = endsInName (join directory (join base entry))

/-- Files that follow the names of the paths in the two configurations have the same texts by
them. -/
theorem RebasedAlike.forall₂_sameText {disk : FileSystem} {directory base base' : String}
    {written config config' : Config}
    (h : RebasedAlike directory base base' written config config')
    (hdirectory : isAbsolute directory) {among : String → Prop} (hnames : disk.FollowsNames among)
    (hleft : ∀ path ∈ config.types, among (join directory path))
    (hright : ∀ path ∈ config'.types, among (join directory path)) :
    List.Forall₂ (disk.seenFrom directory).SameText config.types config'.types := by
  obtain ⟨rfl, rfl, hentries, hrooted, hcomponents, hends⟩ := h
  rw [List.forall₂_map_left_iff, List.forall₂_map_right_iff, List.forall₂_same]
  intro entry hmem
  by_cases hentry : isAbsolute entry
  · obtain ⟨hbase, hbase'⟩ := hentries entry hmem hentry
    rw [hbase, hbase']
    rfl
  · have hroot : join directory (join base' entry) = join base' entry :=
      FilePath.join_of_isAbsolute (hrooted entry hmem) directory
    have hread : (disk.read (join directory (join base entry))).toOption =
        (disk.read (join directory (join base' entry))).toOption := by
      refine hnames _ _ (hleft _ (List.mem_map_of_mem hmem)) (hright _ (List.mem_map_of_mem hmem))
        (FilePath.isAbsolute_join hdirectory _) (FilePath.isAbsolute_join hdirectory _) ?_ ?_
      · rw [hroot, hcomponents entry hmem hentry]
      · rw [hroot, hends entry hmem hentry]
    rw [FileSystem.SameText, FileSystem.toOption_readText, FileSystem.toOption_readText]
    exact congrArg (Option.bind · String.fromUTF8?) hread

/-- Of a configuration only the flag and the texts of the files count. -/
theorem toOption_build_congr {files : FileSystem} {config config' : Config}
    (hjdk : config.jdk = config'.jdk)
    (htypes : List.Forall₂ files.SameText config.types config'.types) (extra : List String)
    (noJdk : Bool) :
    (TypeTable.build files config extra noJdk).result.toOption =
      (TypeTable.build files config' extra noJdk).result.toOption := by
  have hpaths : List.Forall₂ files.SameText (config.types ++ extra) (config'.types ++ extra) :=
    List.rel_append htypes (List.forall₂_same.2 fun _ _ ↦ rfl)
  rw [TypeTable.toOption_result_build, TypeTable.toOption_result_build, hjdk,
    TypeTable.toOption_result_extendByFiles_congr hpaths]

/-- The paths by which table files are opened for the configuration in a file, whether the file is
named by a path or by what this is opened by. -/
def Opens (disk : FileSystem) (directory path opened : String) : Prop :=
  ∃ config, (load (disk.seenFrom directory) path = .ok config ∨
    load (disk.seenFrom directory) (join directory path) = .ok config) ∧
    ∃ entry ∈ config.types, opened = join directory entry

/-! ### One file by two paths -/

section Located

variable {disk : FileSystem} {directory path base base' : String}

theorem written?_join (hdirectory : isAbsolute directory) (path : String) :
    written? (disk.seenFrom directory) (join directory path) =
      written? (disk.seenFrom directory) path := by
  rw [written?, FileSystem.readText_join hdirectory, written?]

/-- A path without a name leads to the directory that it is opened from, and not to a text. -/
theorem names_ne_nil_of_readText (hdirectory : disk.IsDirectory directory)
    (hpath : ¬ isAbsolute path) {text : String}
    (h : ((disk.seenFrom directory).readText path).toOption = some text) : names path ≠ [] := by
  intro hnil
  have habsolute := FilePath.isAbsolute_join hdirectory.isAbsolute path
  have hcomponents : components (join directory path) = components directory := by
    rw [FilePath.components_of_isAbsolute habsolute,
      FilePath.components_of_isAbsolute hdirectory.isAbsolute, FilePath.names_join _ hpath, hnil,
      List.append_nil]
  have hread : ((disk.seenFrom directory).read path).toOption = none :=
    hdirectory.toOption_read _ habsolute hcomponents
  rw [FileSystem.toOption_readText, hread] at h
  cases h

theorem exists_rebasedAlike (hdirectory : disk.IsDirectory directory) (hpath : ¬ isAbsolute path)
    {written : Config} (h : written? (disk.seenFrom directory) path = some written) :
    ∃ base base', parent? path = some base ∧ parent? (join directory path) = some base' ∧
      RebasedAlike directory base base' written (written.rebase path)
        (written.rebase (join directory path)) := by
  obtain ⟨text, htext, -⟩ := Option.bind_eq_some_iff.1 h
  have hne : names path ≠ [] := names_ne_nil_of_readText hdirectory hpath htext
  have hne' : names (join directory path) ≠ [] := by
    simp [FilePath.names_join _ hpath, hne]
  obtain ⟨base, hbase⟩ := FilePath.exists_parent? hne
  obtain ⟨base', hbase'⟩ := FilePath.exists_parent? hne'
  have habsolute : isAbsolute base' := (FilePath.isAbsolute_iff_of_parent? hbase').2
    (FilePath.isAbsolute_join hdirectory.isAbsolute path)
  have hjoin (entry : String) (hentry : ¬ isAbsolute entry) :=
    FilePath.components_join_parent? hdirectory.isAbsolute hpath hne hbase hbase' hentry
  exact ⟨base, base', hbase, hbase',
    { eq_left := rebase_of_parent? hbase written
      eq_right := rebase_of_parent? hbase' written
      join_of_isAbsolute := fun entry _ hentry ↦
        ⟨FilePath.join_of_isAbsolute hentry base, FilePath.join_of_isAbsolute hentry base'⟩
      isAbsolute_join := fun entry _ ↦ FilePath.isAbsolute_join habsolute entry
      components_join := fun entry _ hentry ↦ (hjoin entry hentry).1
      endsInName_join := fun entry _ hentry ↦ (hjoin entry hentry).2 }⟩

theorem forall₂_sameText_of_load (hdirectory : disk.IsDirectory directory)
    (hpath : ¬ isAbsolute path) (hnames : disk.FollowsNames (Opens disk directory path))
    {config config' : Config} (hload : load (disk.seenFrom directory) path = .ok config)
    (hload' : load (disk.seenFrom directory) (join directory path) = .ok config') :
    config.jdk = config'.jdk ∧
      List.Forall₂ (disk.seenFrom directory).SameText config.types config'.types := by
  obtain ⟨written, h, rfl⟩ := load_eq_ok_iff.1 hload
  obtain ⟨written', h', rfl⟩ := load_eq_ok_iff.1 hload'
  rw [written?_join hdirectory.isAbsolute, h] at h'
  obtain rfl := Option.some.inj h'
  obtain ⟨base, base', -, -, halike⟩ := exists_rebasedAlike hdirectory hpath h
  constructor
  · rw [halike.eq_left, halike.eq_right]
  · exact halike.forall₂_sameText hdirectory.isAbsolute hnames
      (fun entry hentry ↦ ⟨_, .inl hload, entry, hentry, rfl⟩)
      (fun entry hentry ↦ ⟨_, .inr hload', entry, hentry, rfl⟩)

/-- The table is the same for both paths, or there is none for either. -/
theorem bind_build_load_join (hdirectory : disk.IsDirectory directory) (hpath : ¬ isAbsolute path)
    (hnames : disk.FollowsNames (Opens disk directory path)) (extra : List String)
    (noJdk : Bool) :
    ((load (disk.seenFrom directory) path).toOption.bind fun config ↦
        (TypeTable.build (disk.seenFrom directory) config extra noJdk).result.toOption) =
      (load (disk.seenFrom directory) (join directory path)).toOption.bind fun config ↦
        (TypeTable.build (disk.seenFrom directory) config extra noJdk).result.toOption := by
  have hwritten : written? (disk.seenFrom directory) (join directory path) =
      written? (disk.seenFrom directory) path := written?_join hdirectory.isAbsolute path
  cases h : written? (disk.seenFrom directory) path with
  | none => rw [toOption_load, toOption_load, hwritten, h]; rfl
  | some written =>
    have hload : load (disk.seenFrom directory) path = .ok (written.rebase path) :=
      load_eq_ok_iff.2 ⟨written, h, rfl⟩
    have hload' : load (disk.seenFrom directory) (join directory path) =
        .ok (written.rebase (join directory path)) :=
      load_eq_ok_iff.2 ⟨written, hwritten.trans h, rfl⟩
    obtain ⟨hjdk, htypes⟩ := forall₂_sameText_of_load hdirectory hpath hnames hload hload'
    rw [hload, hload']
    exact toOption_build_congr hjdk htypes extra noJdk

end Located

end Config

/-! ### Runs -/

namespace Options

theorem toOption_result_run (options : Options) (files : FileSystem) (directory : String) :
    (options.run files directory).result.toOption =
      ((Config.applying files options.config directory).toOption.bind fun config ↦
        (TypeTable.build files config options.types options.noJdk).result.toOption).map
          fun merged ↦ (merged.rows .jvm (options.descriptors.map Descriptor.mk)).render
            options.form := by
  have htable : (options.table files directory).toOption =
      (Config.applying files options.config directory).toOption.bind fun config ↦
        (TypeTable.build files config options.types options.noJdk).result.toOption := by
    rw [table, toOption_bind, toOption_mapError]
  ext output
  rw [← htable, Option.map_eq_some_iff, toOption_eq_some_iff, result_run_eq_ok_iff]
  simp only [toOption_eq_some_iff]

theorem toOption_result_run_congr {options : Options} {files : FileSystem} {directory : String}
    {config? : Option String}
    (h : ((Config.applying files options.config directory).toOption.bind fun config ↦
        (TypeTable.build files config options.types options.noJdk).result.toOption) =
      (Config.applying files config? directory).toOption.bind fun config ↦
        (TypeTable.build files config options.types options.noJdk).result.toOption) :
    (options.run files directory).result.toOption =
      (run { options with config := config? } files directory).result.toOption := by
  rw [toOption_result_run, toOption_result_run, h]

end Options

open Config in
/-- A file that is named relatively to a directory holds a configuration exactly when it does by the
path that it is opened by. It then has a parent by both, from which the relative paths in it are
taken. Each of them becomes two paths that lead through the same components from the root. Where
files follow the names of the paths that are opened, these lead to the same texts, so the same table
is built or none. Then runs that are given the one path or the other answer the same, or both fail,
and so do a run that finds the configuration in its directory and one that is given its name. -/
theorem load_join_directory {disk : FileSystem} {directory path : String}
    (hdirectory : disk.IsDirectory directory) (hpath : ¬ isAbsolute path) :
    let files := disk.seenFrom directory
    let located := join directory path
    ((∃ config, load files path = .ok config) ↔ ∃ config, load files located = .ok config) ∧
    (∀ config config', load files path = .ok config → load files located = .ok config' →
      (∃ base base' written, parent? path = some base ∧ parent? located = some base' ∧
        written? files path = some written ∧ written? files located = some written ∧
        RebasedAlike directory base base' written config config') ∧
      (disk.FollowsNames (Opens disk directory path) →
        List.Forall₂ files.SameText config.types config'.types ∧
        ∀ extra noJdk, (TypeTable.build files config extra noJdk).result.toOption =
          (TypeTable.build files config' extra noJdk).result.toOption)) ∧
    (disk.FollowsNames (Opens disk directory path) →
      ∀ options : Options, options.config = some path →
        (options.run files directory).result.toOption =
          (Options.run { options with config := some located } files directory).result.toOption) ∧
    (disk.FollowsNames (Opens disk directory fileName) →
      ∀ options : Options, options.config = none → files.isFile (candidate directory) →
        (options.run files directory).result.toOption =
          (Options.run { options with config := some fileName } files
            directory).result.toOption) := by
  intro files located
  have hwritten : written? files located = written? files path :=
    written?_join hdirectory.isAbsolute path
  refine ⟨?_, ?_, ?_, ?_⟩
  · simp only [load_eq_ok_iff, hwritten]
    constructor
    · rintro ⟨-, written, h, -⟩
      exact ⟨_, written, h, rfl⟩
    · rintro ⟨-, written, h, -⟩
      exact ⟨_, written, h, rfl⟩
  · intro config config' hload hload'
    constructor
    · obtain ⟨written, h, rfl⟩ := load_eq_ok_iff.1 hload
      obtain ⟨written', h', rfl⟩ := load_eq_ok_iff.1 hload'
      obtain rfl : written = written' := Option.some.inj (h.symm.trans (hwritten.symm.trans h'))
      obtain ⟨base, base', hbase, hbase', halike⟩ := exists_rebasedAlike hdirectory hpath h
      exact ⟨base, base', written, hbase, hbase', h, h', halike⟩
    · intro hnames
      obtain ⟨hjdk, htypes⟩ := forall₂_sameText_of_load hdirectory hpath hnames hload hload'
      exact ⟨htypes, toOption_build_congr hjdk htypes⟩
  · intro hnames options hconfig
    refine Options.toOption_result_run_congr ?_
    rw [hconfig]
    exact bind_build_load_join hdirectory hpath hnames options.types options.noJdk
  · intro hnames options hconfig hfile
    refine Options.toOption_result_run_congr ?_
    have happlying :
        applying files options.config directory = load files (candidate directory) := by
      rw [hconfig, applying, if_pos hfile]
    rw [happlying]
    exact (bind_build_load_join hdirectory (by decide) hnames options.types options.noJdk).symm

open Config in
/-- A tree follows the names of the paths that are opened for a configuration, if these are not too
long. -/
theorem FileTree.followsNames_opens {tree : FileTree} {directory path : String}
    {config config' : Config}
    (hload : load (tree.fileSystem.seenFrom directory) path = .ok config)
    (hload' : load (tree.fileSystem.seenFrom directory) (join directory path) = .ok config')
    (hlength : ∀ entry ∈ config.types ++ config'.types,
      (join directory entry).utf8ByteSize < pathLimit) :
    tree.fileSystem.FollowsNames (Opens tree.fileSystem directory path) := by
  refine tree.followsNames_fileSystem.mono ?_
  rintro _ ⟨loaded, hloaded | hloaded, entry, hentry, rfl⟩
  · obtain rfl : loaded = config := Except.ok.inj (hloaded.symm.trans hload)
    exact hlength entry (List.mem_append_left _ hentry)
  · obtain rfl : loaded = config' := Except.ok.inj (hloaded.symm.trans hload')
    exact hlength entry (List.mem_append_right _ hentry)

/-- A working directory with two configurations, and table files in it, below it and at the root. -/
def nestedTree : FileTree where
  workingDirectory := ["w"]
  nodes := [
    (["w", "schemakind.toml"], .file "types = [\"d.toml\"]".toUTF8),
    (["w", "c.toml"],
      .file "types = [\"types//a.toml\", \"../b.toml\", \"/w/d.toml\"]".toUTF8),
    (["w", "types", "a.toml"], .file "types = [[\"LA;\", true]]".toUTF8),
    (["w", "d.toml"], .file "types = [[\"LB;\"]]".toUTF8),
    (["b.toml"], .file "types = [[\"LB;\", true]]".toUTF8)]

/-- The files of the tree as they are seen from its working directory. -/
def nestedFiles : FileSystem :=
  nestedTree.fileSystem.seenFrom "/w"

/-- A configuration as it is loaded by a path that starts with a dot. -/
def dottedConfig : Config where
  types := ["./types//a.toml", "./../b.toml", "/w/d.toml"]

/-- The same configuration as it is loaded from the root. -/
def rootedConfig : Config where
  types := ["/w/types//a.toml", "/w/../b.toml", "/w/d.toml"]

open Config in
theorem load_join_directory_nested :
    (load nestedFiles "./c.toml" = .ok dottedConfig ∧
      load nestedFiles (join "/w" "./c.toml") = .ok rootedConfig ∧
      (∃ base base' written, parent? "./c.toml" = some base ∧
        parent? (join "/w" "./c.toml") = some base' ∧
        written? nestedFiles "./c.toml" = some written ∧
        RebasedAlike "/w" base base' written dottedConfig rootedConfig) ∧
      List.Forall₂ nestedFiles.SameText dottedConfig.types rootedConfig.types ∧
      (TypeTable.build nestedFiles dottedConfig [] true).result.toOption =
        (TypeTable.build nestedFiles rootedConfig [] true).result.toOption) ∧
    (Options.run { descriptors := ["LB;"], config := some "./c.toml" } nestedFiles
        "/w").result.toOption =
      (Options.run { descriptors := ["LB;"], config := some (join "/w" "./c.toml") } nestedFiles
        "/w").result.toOption ∧
    (Options.run { descriptors := ["LB;"] } nestedFiles "/w").result.toOption =
      (Options.run { descriptors := ["LB;"], config := some "schemakind.toml" } nestedFiles
        "/w").result.toOption := by
  have hdirectory : nestedTree.fileSystem.IsDirectory "/w" :=
    FileTree.isDirectory_fileSystem (by decide) rfl
  have hpath : ¬ isAbsolute "./c.toml" := by decide
  obtain ⟨-, hloads, hnamed, hfound⟩ := load_join_directory hdirectory hpath
  have hdotted : load nestedFiles "./c.toml" = .ok dottedConfig :=
    toOption_eq_some_iff.1 (by decide +kernel)
  have hrooted : load nestedFiles (join "/w" "./c.toml") = .ok rootedConfig :=
    toOption_eq_some_iff.1 (by decide +kernel)
  have hnames : nestedTree.fileSystem.FollowsNames (Opens nestedTree.fileSystem "/w" "./c.toml") :=
    FileTree.followsNames_opens hdotted hrooted (by decide)
  have hfoundNames :
      nestedTree.fileSystem.FollowsNames (Opens nestedTree.fileSystem "/w" fileName) := by
    have hload : load nestedFiles fileName = .ok { types := ["d.toml"] } :=
      toOption_eq_some_iff.1 (by decide +kernel)
    have hload' : load nestedFiles (join "/w" fileName) = .ok { types := ["/w/d.toml"] } :=
      toOption_eq_some_iff.1 (by decide +kernel)
    exact FileTree.followsNames_opens hload hload' (by decide)
  obtain ⟨⟨base, base', written, hbase, hbase', hwritten, -, halike⟩, htables⟩ :=
    hloads _ _ hdotted hrooted
  obtain ⟨htypes, hbuild⟩ := htables hnames
  exact ⟨⟨hdotted, hrooted, ⟨base, base', written, hbase, hbase', hwritten, halike⟩, htypes,
    hbuild [] true⟩, hnamed hnames _ rfl, hfound hfoundNames _ rfl (by decide +kernel)⟩

end JvmSchema
