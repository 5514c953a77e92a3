import JvmSchema.Decimal.Float
import JvmSchema.Text.Quoted

/-!
# Decoding of structured values

`Format` lists the ways in which a structured value is read: texts, booleans, lists, records and
choices of a name. A type of the domain is described by one decoder for every format; a text format
supplies an instance. The causes of failure are `DecodingError`s, which share their wording.

A record has named fields in a fixed order. It is read field by field, by name or by position; a
repeated, unknown or missing name is an error (`Record.enter`, `Record.complete`).
-/

set_option autoImplicit false
set_option relaxedAutoImplicit false

namespace JvmSchema

/-- What was met in place of the value asked for. -/
inductive Found
  | null
  | boolean (value : Bool)
  | integer (value : Int)
  | float (value : Float)
  | text (value : String)
  | sequence
  | map

/-- What was asked for. -/
inductive Expected
  | text
  | path
  | boolean
  | sequence
  | record (name : String)
  | unit
  deriving DecidableEq, Repr

/-- Why a structured value could not be decoded. -/
inductive DecodingError
  | wrongType (found : Found) (expected : Expected)
  | unknownField (name : String) (known : List String)
  | duplicateField (name : String)
  | missingField (name : String)
  | tooShort (length : Nat) (record : String) (size : Nat)
  | unknownVariant (name : String) (known : List String)
  | notTextOrTable
  | noVariant
  | severalVariants
  | nonemptyTable
  | nonemptyArray
  | notTable (found : String)

/-- The words for a value in a message, floating-point numbers in the given notation. -/
def Found.describe (style : FloatText) : Found → String
  | .null => "null"
  | .boolean value => "boolean \x60" ++ (if value then "true" else "false") ++ "\x60"
  | .integer value => "integer \x60" ++ toString value ++ "\x60"
  | .float value => "floating point \x60" ++ style.write value ++ "\x60"
  | .text value => "string " ++ Text.quoted value
  | .sequence => "sequence"
  | .map => "map"

/-- The words for what was asked for. -/
def Expected.describe : Expected → String
  | .text => "a string"
  | .path => "path string"
  | .boolean => "a boolean"
  | .sequence => "a sequence"
  | .record name => "struct " ++ name
  | .unit => "unit"

namespace DecodingError

/-- A name between grave accents. -/
def named (name : String) : String :=
  "\x60" ++ name ++ "\x60"

/-- A choice of names: one alone, two with `or`, more as a list. -/
def choice : List String → String
  | [name] => named name
  | [first, second] => named first ++ " or " ++ named second
  | names => "one of " ++ ", ".intercalate (names.map named)

/-- The wording of an error. -/
def message (style : FloatText) : DecodingError → String
  | .wrongType found expected =>
    "invalid type: " ++ found.describe style ++ ", expected " ++ expected.describe
  | .unknownField name known => "unknown field " ++ named name ++ ", expected " ++ choice known
  | .duplicateField name => "duplicate field " ++ named name
  | .missingField name => "missing field " ++ named name
  | .tooShort length record size =>
    "invalid length " ++ toString length ++ ", expected struct " ++ record ++ " with " ++
      toString size ++ " elements"
  | .unknownVariant name known => "unknown variant " ++ named name ++ ", expected " ++ choice known
  | .notTextOrTable => "wanted string or table"
  | .noVariant => "wanted exactly 1 element, found 0 elements"
  | .severalVariants => "wanted exactly 1 element, more than 1 element"
  | .nonemptyTable => "expected empty table"
  | .nonemptyArray => "expected empty array"
  | .notTable found => "expected table, found " ++ found

end DecodingError

/-- Why a text could not be decoded: it is not in its format, or a value in it is not what was asked
for. -/
inductive ReadingError
  | malformed
  | data (cause : DecodingError)

/-- The value with the given name among those that may be chosen. -/
def chosen {α : Type} (all : List α) (name : α → String) (text : String) :
    Except DecodingError α :=
  match all.find? fun value ↦ name value = text with
  | some value => .ok value
  | none => .error (.unknownVariant text (all.map name))

/-- A record type: its fields in order, which of them must be given, and the value from which
reading starts. -/
structure Record (field α : Type) where
  name : String
  fields : List field
  label : field → String
  required : field → Bool
  blank : α

namespace Record

variable {field α : Type}

/-- The field with the given label. -/
def field? (record : Record field α) (name : String) : Option field :=
  record.fields.find? fun field ↦ record.label field = name

/-- The field that a name stands for, when it is a new one. -/
def enter [DecidableEq field] (record : Record field α) (seen : List field) (name : String) :
    Except DecodingError field :=
  match record.field? name with
  | none => .error (.unknownField name (record.fields.map record.label))
  | some field =>
    if field ∈ seen then .error (.duplicateField name) else .ok field

/-- Checks that every field that must be given has been. -/
def complete [DecidableEq field] (record : Record field α) (seen : List field) :
    Except DecodingError Unit :=
  match record.fields.find? fun field ↦ record.required field ∧ field ∉ seen with
  | some field => .error (.missingField (record.label field))
  | none => .ok ()

/-- Checks that no field that must be given is among those left over by position. -/
def completeFrom (record : Record field α) (missing : List field) : Except DecodingError Unit :=
  match missing.findIdx? record.required with
  | some index =>
    let size := record.fields.length
    .error (.tooShort (size - missing.length + index) record.name size)
  | none => .ok ()

end Record

/-- The ways of reading structured values with decoders `D`. -/
class Format (D : Type → Type) where
  text : Expected → D String
  boolean : D Bool
  list : {α : Type} → D α → D (List α)
  record : {field α : Type} → [DecidableEq field] → Record field α → (field → α → D α) → D α
  variant : {α : Type} → List α → (α → String) → D α

end JvmSchema
