import JvmSchema.Event
import JvmSchema.FilePath
import JvmSchema.FileSystem
import JvmSchema.Toml.Reading

/-!
# Configuration

A configuration says whether the built-in table is used and which table files are read besides. It
is a TOML document; relative paths in it are taken from the directory that holds it.
-/

set_option autoImplicit false
set_option relaxedAutoImplicit false

namespace JvmSchema

/-- The tables that a run starts from. -/
structure Config where
  jdk : Bool := true
  types : List String := []
  deriving DecidableEq, Repr

/-- Why a configuration could not be loaded. -/
inductive ConfigError
  | unreadable (path : String) (cause : FileError)
  | invalid (path : String) (cause : Toml.Error)

namespace ConfigError

/-- The wording of an error. -/
def message : ConfigError → String
  | .unreadable path _ => "failed to read config " ++ path
  | .invalid path _ => "invalid config " ++ path

/-- The wording of an error and of what lies behind it. -/
def chain (error : ConfigError) : List String :=
  match error with
  | .unreadable _ cause => [error.message, cause.message]
  | .invalid _ cause => [error.message, cause.message]

end ConfigError

namespace Config

/-- The name under which a configuration is looked for. -/
def fileName : String := "schemakind.toml"

/-- The fields of a configuration. -/
inductive Field
  | jdk
  | types
  deriving DecidableEq, Repr

def Field.label : Field → String
  | .jdk => "jdk"
  | .types => "types"

def record : Record Field Config where
  name := "Config"
  fields := [.jdk, .types]
  label := Field.label
  required _ := false
  blank := {}

/-- Reads one field into a configuration. -/
def decodeField (field : Field) (value : Config) : Toml.Decoder Config :=
  match field with
  | .jdk => (fun jdk ↦ { value with jdk }) <$> Format.boolean
  | .types => (fun types ↦ { value with types }) <$> Format.list (Format.text .path)

def decoder : Toml.Decoder Config :=
  Format.record record decodeField

/-- The configuration with its paths taken from the directory of the file at `path`. -/
def rebase (config : Config) (path : String) : Config :=
  match FilePath.parent? path with
  | none => config
  | some base => { config with types := config.types.map (FilePath.join base) }

/-- The configuration that the text of a document describes, its paths as they are written. -/
def ofToml (text : String) : Except Toml.Error Config := do
  Toml.decode decoder (← Toml.parse text)

/-- The configuration in a file. -/
def load (files : FileSystem) (path : String) : Except ConfigError Config := do
  let text ← (files.readText path).mapError (.unreadable path)
  let config ← (ofToml text).mapError (.invalid path)
  return config.rebase path

/-- The configuration at `path?`, else that in `directory`, else the default. -/
def discover (files : FileSystem) (path? : Option String) (directory : String) :
    Logged ConfigError Config :=
  match path? with
  | some path => Logged.ofExcept (load files path)
  | none =>
    let candidate := FilePath.join directory fileName
    if files.isFile candidate then do
      Logged.report (.usingConfig candidate)
      Logged.ofExcept (load files candidate)
    else return {}

end Config

end JvmSchema
