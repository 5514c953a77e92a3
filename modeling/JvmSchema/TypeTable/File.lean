import JvmSchema.Event
import JvmSchema.FileSystem
import JvmSchema.Toml.Reading
import JvmSchema.TypeInfo.Format
import JvmSchema.TypeTable

/-!
# Type tables in files

A table file is a TOML document whose only key is `types`, a list of type descriptions with distinct
descriptors. A document that does not fit the format is refused before repetitions are looked for.
-/

set_option autoImplicit false
set_option relaxedAutoImplicit false

namespace JvmSchema

/-- Why a type table could not be loaded. -/
inductive TableError
  | unreadable (path : String) (cause : FileError)
  | invalid (cause : Toml.Error)
  | repeated (descriptor : Descriptor)

namespace TableError

/-- The wording of an error. -/
def message : TableError → String
  | .unreadable path _ => "failed to read type table " ++ path
  | .invalid cause => "invalid type table: " ++ cause.message
  | .repeated descriptor => "type " ++ descriptor.text ++ " is listed more than once"

/-- The wording of an error and of what lies behind it. -/
def chain (error : TableError) : List String :=
  match error with
  | .unreadable _ cause => [error.message, cause.message]
  | .invalid cause => [error.message, cause.message]
  | .repeated _ => [error.message]

end TableError

namespace TypeTable

/-- The only field of a table file. -/
inductive Field
  | types
  deriving DecidableEq, Repr

def fileRecord : Record Field (List TypeInfo) where
  name := "TableFile"
  fields := [.types]
  label _ := "types"
  required _ := false
  blank := []

/-- The descriptions in a table file. -/
def fileDecoder : Toml.Decoder (List TypeInfo) :=
  Format.record fileRecord fun _ _ ↦ Format.list TypeInfo.decoder

/-- Descriptions with distinct descriptors as a table. -/
def ofInfos (infos : List TypeInfo) : Except TableError TypeTable :=
  (ofDistinct infos).mapError .repeated

/-- The table that a document describes. -/
def ofDocument (document : Toml.Table) : Except TableError TypeTable := do
  ofInfos (← (Toml.decode fileDecoder document).mapError .invalid)

/-- The table that the text of a document describes. -/
def ofToml (text : String) : Except TableError TypeTable := do
  ofDocument (← (Toml.parse text).mapError .invalid)

/-- The table in a file. -/
def load (files : FileSystem) (path : String) : Logged TableError TypeTable := do
  let document ← Logged.ofExcept ((files.readText path).mapError (.unreadable path))
  let table ← Logged.ofExcept (ofToml document)
  Logged.report (.loadedTable path table.size)
  return table

end TypeTable

end JvmSchema
