import JvmSchema.Classification
import JvmSchema.TypeInfo.Json

/-!
# Reports of classified descriptors

A report has a row per descriptor: in text a line with a tab between descriptor and keyword, in JSON
an object with the members `descriptor` and `type`.
-/

set_option autoImplicit false
set_option relaxedAutoImplicit false

namespace JvmSchema

/-- The two forms of a report. -/
inductive ReportForm
  | text
  | json
  deriving DecidableEq, Repr

/-- The rows of a report in order. -/
abbrev Report : Type := List (Descriptor × Kind)

namespace Report

/-- A row as a line of text. -/
def line (row : Descriptor × Kind) : String :=
  row.1.text ++ "\t" ++ row.2.keyword ++ "\n"

/-- A row as a JSON object. -/
def rowJson (row : Descriptor × Kind) : Json.Value :=
  .object [("descriptor", row.1.toJson), ("type", row.2.toJson)]

/-- A report as a JSON array. -/
def toJson (report : Report) : Json.Value :=
  .array (report.map rowJson)

/-- The text of a report. -/
def render (report : Report) : ReportForm → String
  | .text => String.join (report.map line)
  | .json => report.toJson.pretty ++ "\n"

end Report

end JvmSchema
