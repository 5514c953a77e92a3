import JvmSchema.Config
import JvmSchema.Report
import JvmSchema.TypeTable.File
import JvmSchema.TypeTable.Jdk

/-!
# Runs

A run finds its configuration, merges the tables that apply (the built-in one, those of the
configuration, then those named for this run; later ones win) and classifies descriptors against the
result. The first fault ends it, and then nothing is reported but the fault.
-/

set_option autoImplicit false
set_option relaxedAutoImplicit false

namespace JvmSchema

/-- Why a run failed. -/
inductive Failure
  | config (cause : ConfigError)
  | table (path : String) (cause : TableError)

/-- The wording of a failure and of what lies behind it, outermost first. -/
def Failure.chain : Failure → List String
  | .config cause => cause.chain
  | .table path cause => ("loading " ++ path) :: cause.chain

/-- What a run is asked for. -/
structure Options where
  descriptors : List String
  types : List String := []
  noJdk : Bool := false
  config : Option String := none
  form : ReportForm := .text
  deriving DecidableEq, Repr

namespace TypeTable

/-- Merges the tables in files into a table, one after the other. -/
def extendByFiles (files : FileSystem) (table : TypeTable) :
    List String → Logged Failure TypeTable
  | [] => return table
  | path :: rest => do
    let loaded ← (load files path).mapError (.table path)
    (table.extend loaded).extendByFiles files rest

/-- The table that a configuration and further paths give. -/
def build (files : FileSystem) (config : Config) (extra : List String) (noJdk : Bool) :
    Logged Failure TypeTable := do
  let base := if config.jdk ∧ !noJdk then jdk else empty
  let table ← base.extendByFiles files (config.types ++ extra)
  Logged.report (.tableReady table.size)
  return table

end TypeTable

/-- The events of classified descriptors: one for each that did not resolve. -/
def Event.ofVerdicts (verdicts : List (Descriptor × Verdict)) : List Event :=
  verdicts.filterMap fun (descriptor, verdict) ↦
    if verdict = .unresolved then some (.unresolved descriptor) else none

/-- The report on classified descriptors. -/
def Report.ofVerdicts (verdicts : List (Descriptor × Verdict)) : Report :=
  verdicts.map fun (descriptor, verdict) ↦ (descriptor, verdict.kind)

/-- Classifies descriptors against a table, with an event for each that does not resolve. -/
def Report.ofTable (table : TypeTable) (descriptors : List Descriptor) :
    Logged Failure Report :=
  let verdicts := table.classifyAll .jvm descriptors
  ⟨Event.ofVerdicts verdicts, .ok (Report.ofVerdicts verdicts)⟩

/-- A whole run in a working directory. -/
def Options.run (options : Options) (files : FileSystem) (directory : String) :
    Logged Failure String := do
  let config ← (Config.discover files options.config directory).mapError .config
  let table ← TypeTable.build files config options.types options.noJdk
  let report ← Report.ofTable table (options.descriptors.map Descriptor.mk)
  return report.render options.form

end JvmSchema
