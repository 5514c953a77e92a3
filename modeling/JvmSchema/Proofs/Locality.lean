import JvmSchema.Proofs.RunEvents
import Mathlib.Data.List.ReduceOption

/-!
# A descriptor and its own entry

The kind of a descriptor depends on a table only through the entry for that descriptor, and not even
on this entry when the descriptor is well known. Two tables that agree at a descriptor (`AgreeAt`)
give it the same kind and the same event wherever it is asked for (`Alike`), whatever else the
tables describe and whatever else is asked.

What happens to other entries is therefore without effect. A `Change` adds a description or merges a
table in, and an entry goes unchanged through any number of changes that do not write it
(`get?_changeAll_of_notMem`). `kind_depends_on_own_entry` says all this of tables, and of two whole
runs by way of the tables that they merge (`Options.table`).
-/

set_option autoImplicit false
set_option relaxedAutoImplicit false

namespace JvmSchema

/-! ### Well-known descriptors -/

namespace Identities

variable {known : Identities} {descriptor : Descriptor}

/-- The descriptor has its kind by identity. -/
def WellKnown (known : Identities) (descriptor : Descriptor) : Prop :=
  descriptor = known.string ∨ descriptor ∈ known.booleans ∨ descriptor ∈ known.integers ∨
    descriptor ∈ known.floats

theorem exists_kind?_of_wellKnown (h : known.WellKnown descriptor) :
    ∃ kind, known.kind? descriptor = some kind := by
  rw [← Option.isSome_iff_exists, ← Option.ne_none_iff_isSome, Ne, kind?_eq_none_iff]
  rintro ⟨hstring, hboolean, hinteger, hfloat⟩
  rcases h with rfl | h | h | h
  · exact hstring rfl
  · exact hboolean h
  · exact hinteger h
  · exact hfloat h

end Identities

/-- The event that a classified descriptor brings with it, if any. -/
def Event.ofRow (row : Descriptor × Verdict) : Option Event :=
  if row.2 = .unresolved then some (.unresolved row.1) else none

namespace TypeTable

variable {known : Identities} {first second table : TypeTable} {descriptor : Descriptor}
  {descriptors : List Descriptor} {place : Nat}

/-! ### What is reported at a place -/

/-- A batch has this row at this place, and this event or none. -/
def ReportsAt (table : TypeTable) (known : Identities) (descriptors : List Descriptor)
    (place : Nat) (row : Descriptor × Kind) (event? : Option Event) : Prop :=
  (Report.ofVerdicts (table.classifyAll known descriptors))[place]? = some row ∧
    ((table.classifyAll known descriptors).map Event.ofRow)[place]? = some event?

theorem reportsAt_of_getElem? (h : descriptors[place]? = some descriptor) :
    let verdict := Id.run (table.resolver.classify known descriptor)
    table.ReportsAt known descriptors place (descriptor, verdict.kind)
      (Event.ofRow (descriptor, verdict)) := by
  intro verdict
  have hrow : (table.classifyAll known descriptors)[place]? = some (descriptor, verdict) := by
    rw [classifyAll_eq_map, List.getElem?_map, h]
    rfl
  constructor
  · rw [Report.ofVerdicts, List.getElem?_map, hrow]
    rfl
  · rw [List.getElem?_map, hrow]
    rfl

/-- Wherever the descriptor is asked for, both tables give it one kind and one event or none. -/
def Alike (known : Identities) (first second : TypeTable) (descriptor : Descriptor) : Prop :=
  ∀ descriptors descriptors' : List Descriptor, ∀ place place' : Nat,
    descriptors[place]? = some descriptor → descriptors'[place']? = some descriptor →
      ∃ kind event?, first.ReportsAt known descriptors place (descriptor, kind) event? ∧
        second.ReportsAt known descriptors' place' (descriptor, kind) event?

/-! ### Tables that agree at a descriptor -/

/-- The descriptor is well known, or neither table lists it, or both describe it alike. -/
def AgreeAt (known : Identities) (first second : TypeTable) (descriptor : Descriptor) : Prop :=
  known.WellKnown descriptor ∨
    first.get? descriptor = none ∧ second.get? descriptor = none ∨
    ∃ info, first.get? descriptor = some info ∧ second.get? descriptor = some info

theorem agreeAt_of_get?_eq (h : first.get? descriptor = second.get? descriptor) :
    AgreeAt known first second descriptor := by
  cases hsecond : second.get? descriptor with
  | none => exact .inr (.inl ⟨h.trans hsecond, hsecond⟩)
  | some info => exact .inr (.inr ⟨info, h.trans hsecond, hsecond⟩)

theorem run_classify_of_agreeAt (h : AgreeAt known first second descriptor) :
    Id.run (first.resolver.classify known descriptor) =
      Id.run (second.resolver.classify known descriptor) := by
  rw [run_classify, run_classify]
  rcases h with h | ⟨hfirst, hsecond⟩ | ⟨info, hfirst, hsecond⟩
  · obtain ⟨kind, hkind⟩ := Identities.exists_kind?_of_wellKnown h
    simp only [hkind]
  · rw [hfirst, hsecond]
  · rw [hfirst, hsecond]

theorem alike_of_agreeAt (h : AgreeAt known first second descriptor) :
    Alike known first second descriptor := by
  intro descriptors descriptors' place place' hplace hplace'
  have hfirst : first.ReportsAt known descriptors place _ _ := reportsAt_of_getElem? hplace
  have hsecond : second.ReportsAt known descriptors' place' _ _ := reportsAt_of_getElem? hplace'
  rw [← run_classify_of_agreeAt h] at hsecond
  exact ⟨_, _, hfirst, hsecond⟩

/-! ### Changes to a table -/

/-- A change to a table: a description is added, or another table is merged in. -/
inductive Change
  | insert (info : TypeInfo)
  | extend (other : TypeTable)

/-- The descriptors for which a change writes an entry. -/
def Change.written : Change → Finset Descriptor
  | .insert info => {info.descriptor}
  | .extend other => other.descriptors

/-- The table after a change. -/
def change (table : TypeTable) : Change → TypeTable
  | .insert info => table.insert info
  | .extend other => table.extend other

/-- The table after changes one after the other. -/
def changeAll (table : TypeTable) (changes : List Change) : TypeTable :=
  changes.foldl change table

theorem get?_change_of_notMem {change : Change} (h : descriptor ∉ change.written) :
    (table.change change).get? descriptor = table.get? descriptor := by
  cases change with
  | insert info =>
    have hne : info.descriptor ≠ descriptor := fun heq ↦ h (Finset.mem_singleton.2 heq.symm)
    rw [TypeTable.change, get?_insert, if_neg hne]
  | extend other =>
    have hnone : other.get? descriptor = none := by
      rw [← Option.not_isSome_iff_eq_none, ← mem_descriptors]
      exact h
    rw [TypeTable.change, get?_extend, hnone, Option.none_or]

theorem get?_changeAll_of_notMem {changes : List Change}
    (h : ∀ change ∈ changes, descriptor ∉ change.written) :
    (table.changeAll changes).get? descriptor = table.get? descriptor := by
  induction changes generalizing table with
  | nil => rfl
  | cons change rest ih =>
    obtain ⟨hchange, hrest⟩ := List.forall_mem_cons.1 h
    calc ((table.change change).changeAll rest).get? descriptor
        = (table.change change).get? descriptor := ih hrest
      _ = table.get? descriptor := get?_change_of_notMem hchange

/-- Changes to other entries, and to those of well-known descriptors, keep the agreement. -/
theorem agreeAt_changeAll {changes : List Change}
    (h : ∀ change ∈ changes, ∀ other ∈ change.written,
      other ≠ descriptor ∨ known.WellKnown other) :
    AgreeAt known table (table.changeAll changes) descriptor := by
  by_cases hknown : known.WellKnown descriptor
  · exact .inl hknown
  · have hnotMem : ∀ change ∈ changes, descriptor ∉ change.written := by
      intro change hchange hwritten
      rcases h change hchange descriptor hwritten with hne | hother
      · exact hne rfl
      · exact hknown hother
    exact agreeAt_of_get?_eq (get?_changeAll_of_notMem hnotMem).symm

end TypeTable

/-! ### The table of a run -/

namespace Options

/-- The merged table against which a run classifies. -/
def table (options : Options) (files : FileSystem) (directory : String) :
    Except Failure TypeTable := do
  let config ← (Config.applying files options.config directory).mapError .config
  (TypeTable.build files config options.types options.noJdk).result

theorem result_run_eq_ok_iff {options : Options} {files : FileSystem} {directory output : String} :
    (options.run files directory).result = .ok output ↔
      ∃ merged, options.table files directory = .ok merged ∧
        (merged.rows .jvm (options.descriptors.map Descriptor.mk)).render options.form =
          output := by
  cases hconfig : Config.applying files options.config directory with
  | error cause =>
    have htable : options.table files directory = .error (.config cause) := by
      rw [table, hconfig]
      rfl
    rw [run_eq_of_config_error hconfig, htable]
    simp
  | ok config =>
    have htable : options.table files directory =
        (TypeTable.build files config options.types options.noJdk).result := by
      rw [table, hconfig]
      rfl
    rw [run_eq_of_config hconfig, Logged.ok_bind, htable]
    cases hbuild : (TypeTable.build files config options.types options.noJdk).result with
    | error failure =>
      rw [Logged.result_bind_of_error hbuild]
      simp
    | ok merged =>
      rw [Logged.result_bind_of_ok hbuild, TypeTable.ofTable_eq, Logged.ok_bind]
      simp [pure, Logged.ofExcept]

end Options

open TypeTable

/-- Each row of the answer of a run is a place of its batch. -/
theorem TypeTable.eq_kind_of_mem_rows {table : TypeTable} {known : Identities}
    {descriptors : List Descriptor} {descriptor : Descriptor} {kind : Kind}
    (h : (descriptor, kind) ∈ table.rows known descriptors) :
    kind = (Id.run (table.resolver.classify known descriptor)).kind := by
  obtain ⟨other, -, heq⟩ := List.mem_map.1 h
  obtain ⟨rfl, rfl⟩ := Prod.mk.inj heq
  rfl

/-- The kind of a descriptor and its event hang on its own entry alone: tables that agree at it are
alike there in any two batches, and so are a table before and after changes to other entries or to
those of well-known descriptors. Resolving nothing is the same as the empty table. Two runs that end
well give a descriptor the same kind when their merged tables agree at it. -/
theorem kind_depends_on_own_entry (known : Identities) :
    (∀ descriptors, Id.run ((Resolver.empty : Resolver Id).classifyAll known descriptors) =
      empty.classifyAll known descriptors) ∧
    (∀ table descriptors, Event.ofVerdicts (classifyAll table known descriptors) =
      ((classifyAll table known descriptors).map Event.ofRow).reduceOption) ∧
    (∀ first second descriptor, AgreeAt known first second descriptor →
      Alike known first second descriptor) ∧
    (∀ table changes descriptor,
      (∀ change ∈ changes, ∀ other ∈ Change.written change,
        other ≠ descriptor ∨ known.WellKnown other) →
      Alike known table (table.changeAll changes) descriptor) ∧
    ∀ (options options' : Options) (files files' : FileSystem)
      (directory directory' output output' : String),
      (options.run files directory).result = .ok output →
      (options'.run files' directory').result = .ok output' →
      ∃ merged merged' report report',
        options.table files directory = .ok merged ∧
        options'.table files' directory' = .ok merged' ∧
        Report.render report options.form = output ∧
        Report.render report' options'.form = output' ∧
        report.map Prod.fst = options.descriptors.map Descriptor.mk ∧
        report'.map Prod.fst = options'.descriptors.map Descriptor.mk ∧
        ∀ descriptor kind kind', AgreeAt .jvm merged merged' descriptor →
          (descriptor, kind) ∈ report → (descriptor, kind') ∈ report' → kind = kind' := by
  refine ⟨fun _ ↦ rfl, fun table descriptors ↦ ?_, fun _ _ _ ↦ alike_of_agreeAt,
    fun _ _ _ h ↦ alike_of_agreeAt (agreeAt_changeAll h), ?_⟩
  · rw [List.reduceOption, List.filterMap_map]
    rfl
  · intro options options' files files' directory directory' output output' hrun hrun'
    obtain ⟨merged, hmerged, houtput⟩ := Options.result_run_eq_ok_iff.1 hrun
    obtain ⟨merged', hmerged', houtput'⟩ := Options.result_run_eq_ok_iff.1 hrun'
    have hfst (table : TypeTable) (descriptors : List Descriptor) :
        (table.rows .jvm descriptors).map Prod.fst = descriptors := by
      rw [rows, List.map_map]
      exact List.map_id descriptors
    refine ⟨merged, merged', _, _, hmerged, hmerged', houtput, houtput', hfst _ _, hfst _ _, ?_⟩
    intro descriptor kind kind' hagree hmem hmem'
    rw [eq_kind_of_mem_rows hmem, eq_kind_of_mem_rows hmem', run_classify_of_agreeAt hagree]

/-- Changes that leave out the descriptor `LX;`. -/
def otherChanges : List Change :=
  [.insert { descriptor := ⟨"LA;"⟩, isEnum := true },
    .insert { descriptor := ⟨"I"⟩, isEnum := true }, .extend jdk]

/-- A run that asks for one type alone. -/
def narrowRun : Options where
  descriptors := ["LA;"]

/-- A run that asks for another type as well and reads further files, without the built-in types. -/
def wideRun : Options where
  descriptors := ["LX;", "LA;"]
  types := ["b.toml", "/w/a.toml"]
  noJdk := true

theorem kind_depends_on_own_entry_workspace :
    AgreeAt .jvm jdk empty ⟨"LX;"⟩ ∧ Alike .jvm jdk empty ⟨"LX;"⟩ ∧
    Alike .jvm empty (empty.changeAll otherChanges) ⟨"LX;"⟩ ∧
    ∃ output output',
      (narrowRun.run workspace "/w").result = .ok output ∧
      (wideRun.run workspace "/w").result = .ok output' ∧
      ∃ report report', Report.render report .text = output ∧
        Report.render report' .text = output' ∧
        ∀ kind kind', (⟨"LA;"⟩, kind) ∈ report → (⟨"LA;"⟩, kind') ∈ report' → kind = kind' := by
  have hjdk : jdk.get? ⟨"LX;"⟩ = none := by decide +kernel
  have hagree : AgreeAt .jvm jdk empty ⟨"LX;"⟩ := .inr (.inl ⟨hjdk, rfl⟩)
  have hother : ∀ change ∈ otherChanges, ∀ other ∈ Change.written change,
      other ≠ ⟨"LX;"⟩ ∨ Identities.jvm.WellKnown other := by
    intro change hchange other hwritten
    refine .inl fun heq ↦ ?_
    subst heq
    simp only [otherChanges, List.mem_cons, List.not_mem_nil, or_false] at hchange
    rcases hchange with rfl | rfl | rfl
    · simp [Change.written] at hwritten
    · simp [Change.written] at hwritten
    · simp [Change.written, hjdk] at hwritten
  have hrun : (narrowRun.run workspace "/w").result = .ok "LA;\tstring\n" :=
    toOption_eq_some_iff.1 (by decide +kernel)
  have hrun' : (wideRun.run workspace "/w").result = .ok "LX;\tobject\nLA;\tstring\n" :=
    toOption_eq_some_iff.1 (by decide +kernel)
  obtain ⟨-, -, halike, hchanged, hruns⟩ := kind_depends_on_own_entry .jvm
  obtain ⟨merged, merged', report, report', hmerged, hmerged', houtput, houtput', -, -, hkinds⟩ :=
    hruns _ _ _ _ _ _ _ _ hrun hrun'
  have hentry : AgreeAt .jvm merged merged' ⟨"LA;"⟩ := by
    have hget : (narrowRun.table workspace "/w").toOption.map (·.get? ⟨"LA;"⟩) =
        (wideRun.table workspace "/w").toOption.map (·.get? ⟨"LA;"⟩) := by
      decide +kernel
    rw [hmerged, hmerged'] at hget
    exact agreeAt_of_get?_eq (Option.some.inj hget)
  exact ⟨hagree, halike _ _ _ hagree, hchanged _ _ _ hother, _, _, hrun, hrun', report, report',
    houtput, houtput', fun kind kind' ↦ hkinds _ _ _ hentry⟩

end JvmSchema
