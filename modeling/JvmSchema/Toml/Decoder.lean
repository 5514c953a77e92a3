import JvmSchema.Decoding
import JvmSchema.Toml.Value

/-!
# Decoding TOML values

A decoder reads a domain value off a TOML value. The entries of a table are visited in their order,
and the first fault ends the reading. A record may be given as an array of its fields; further items
are ignored.
-/

set_option autoImplicit false
set_option relaxedAutoImplicit false

namespace JvmSchema.Toml

/-- Numbers are always written positionally; a tie goes up. -/
def floatText : FloatText where
  bounds := none
  tie := .up

/-- A value as a message names it. -/
def Value.found : Value → Found
  | .text value => .text value
  | .integer value => .integer value
  | .float value => .float value
  | .boolean value => .boolean value
  | .datetime _ => .map
  | .array _ => .sequence
  | .table _ => .map
  | .sections _ => .sequence

/-- The single key under which a date or a time shows its text to a reader of records. -/
def datetimeKey : String := "$__toml_private_datetime"

/-- A reader of a domain value from a TOML value. -/
abbrev Decoder : Type → Type := ReaderT Value (Except DecodingError)

namespace Decoder

variable {α : Type}

def text (expected : Expected) : Decoder String
  | .text value => .ok value
  | value => .error (.wrongType value.found expected)

def boolean : Decoder Bool
  | .boolean value => .ok value
  | value => .error (.wrongType value.found .boolean)

def list (item : Decoder α) : Decoder (List α)
  | .array items => items.mapM item
  | .sections tables => tables.mapM fun entries ↦ item (.table entries)
  | value => .error (.wrongType value.found .sequence)

/-- The fields of a record from the entries of a table. -/
def byName {field : Type} [DecidableEq field] (record : Record field α)
    (decode : field → α → Decoder α) (seen : List field) (value : α) :
    Table → Except DecodingError α
  | [] => do
    record.complete seen
    return value
  | (name, given) :: rest => do
    let field ← record.enter seen name
    byName record decode (field :: seen) (← decode field value given) rest

/-- The fields of a record by position. -/
def byPosition {field : Type} (record : Record field α) (decode : field → α → Decoder α)
    (value : α) : List field → List Value → Except DecodingError α
  | [], _ => .ok value
  | field :: fields, [] => do
    record.completeFrom (field :: fields)
    return value
  | field :: fields, given :: items => do
    byPosition record decode (← decode field value given) fields items

def record {field : Type} [DecidableEq field] (record : Record field α)
    (decode : field → α → Decoder α) : Decoder α
  | .table entries => byName record decode [] record.blank entries
  | .array items => byPosition record decode record.blank record.fields items
  | .sections tables => byPosition record decode record.blank record.fields (tables.map .table)
  | .datetime written => byName record decode [] record.blank [(datetimeKey, .text written)]
  | value => .error (.wrongType value.found (.record record.name))

/-- Checks that a value beside the name of a choice holds nothing. -/
def nothing : Decoder Unit
  | .table [] => .ok ()
  | .table _ => .error .nonemptyTable
  | .array [] => .ok ()
  | .array _ => .error .nonemptyTable
  | .sections [] => .ok ()
  | .sections _ => .error .nonemptyArray
  | .text _ => .error (.notTable "string")
  | .integer _ => .error (.notTable "integer")
  | .float _ => .error (.notTable "float")
  | .boolean _ => .error (.notTable "boolean")
  | .datetime _ => .error (.notTable "datetime")

/-- A choice as its name, or as a table with the name for its only key and nothing for value. -/
def variant (all : List α) (name : α → String) : Decoder α
  | .text text => chosen all name text
  | .table [] => .error .noVariant
  | .table [(text, given)] => do
    let value ← chosen all name text
    nothing given
    return value
  | .table _ => .error .severalVariants
  | _ => .error .notTextOrTable

instance : Format Decoder where
  text := text
  boolean := boolean
  list := list
  record := record
  variant := variant

end Decoder

end JvmSchema.Toml
