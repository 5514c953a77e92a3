import JvmSchema.Json.Token

/-!
# Decoding JSON text

A decoder takes the tokens of a value from the front of a token list. It stops at the first fault,
so that of two faults in a text the earlier one is reported, whether the text is malformed there or
a well-formed value is of the wrong kind. A value of the wrong kind is not read beyond its first
token.
-/

set_option autoImplicit false
set_option relaxedAutoImplicit false

namespace JvmSchema.Json

abbrev Error : Type := ReadingError

/-- A reader of one value from a list of tokens. -/
abbrev Decoder : Type → Type := StateT (List Token) (Except Error)

namespace Decoder

variable {α : Type}

/-- Stops with the given cause. -/
def fail (cause : DecodingError) : Decoder α :=
  throw (.data cause)

/-- Takes the next token. -/
def next : Decoder Token := do
  match ← get with
  | [] => throw .malformed
  | token :: rest =>
    set rest
    return token

/-- The next token, left in place. -/
def peek : Decoder Token := do
  match ← get with
  | [] => throw .malformed
  | token :: _ => return token

/-- Stops at a token that starts no value of the kind asked for. -/
def mismatch (token : Token) (expected : Expected) : Decoder α :=
  match token.found? with
  | some found => fail (.wrongType found expected)
  | none => throw .malformed

/-- Takes the given token. -/
def expect (token : Token) : Decoder Unit := do
  if (← next) = token then return ()
  throw .malformed

def colon : Decoder Unit :=
  expect .colon

def comma : Decoder Unit :=
  expect .comma

/-- The key of a member. Nothing but a text is well formed there. -/
def key : Decoder String := do
  match ← next with
  | .scalar (.text name) => return name
  | _ => throw .malformed

def text (expected : Expected) : Decoder String := do
  match ← next with
  | .scalar (.text value) => return value
  | token => mismatch token expected

def boolean : Decoder Bool := do
  match ← next with
  | .scalar (.boolean value) => return value
  | token => mismatch token .boolean

/-- The items of an array from the next one on, `fuel` of them at most. -/
def items (item : Decoder α) : Nat → Decoder (List α)
  | 0 => throw .malformed
  | fuel + 1 => do
    let value ← item
    match ← next with
    | .comma => return value :: (← items item fuel)
    | .endArray => return [value]
    | _ => throw .malformed

def list (item : Decoder α) : Decoder (List α) := do
  match ← next with
  | .beginArray =>
    match ← peek with
    | .endArray =>
      let _ ← next
      return []
    | _ => items item (← get).length
  | token => mismatch token .sequence

/-- The next field of a record by position, or the end of the array. -/
def position (first : Bool) : Decoder Bool := do
  match ← peek with
  | .endArray => return false
  | _ =>
    if first then return true
    comma
    return true

/-- The fields of a record by position, up to the end of the array. -/
def byPosition {field : Type} (record : Record field α) (decode : field → α → Decoder α)
    (first : Bool) (value : α) : List field → Decoder α
  | [] => do
    match ← next with
    | .endArray => return value
    | _ => throw .malformed
  | field :: rest => do
    if ← position first then
      byPosition record decode false (← decode field value) rest
    else
      match record.completeFrom (field :: rest) with
      | .error cause => fail cause
      | .ok () =>
        let _ ← next
        return value

/-- The members of an object from the next one on, `fuel` of them at most. -/
def members {field : Type} [DecidableEq field] (record : Record field α)
    (decode : field → α → Decoder α) (seen : List field) (value : α) : Nat → Decoder α
  | 0 => throw .malformed
  | fuel + 1 => do
    match record.enter seen (← key) with
    | .error cause => fail cause
    | .ok field =>
      colon
      let value ← decode field value
      match ← next with
      | .comma => members record decode (field :: seen) value fuel
      | .endObject =>
        match record.complete (field :: seen) with
        | .error cause => fail cause
        | .ok () => return value
      | _ => throw .malformed

/-- A record as an object of its fields, or as an array of them in order. -/
def record {field : Type} [DecidableEq field] (record : Record field α)
    (decode : field → α → Decoder α) : Decoder α := do
  match ← next with
  | .beginArray => byPosition record decode true record.blank record.fields
  | .beginObject =>
    match ← peek with
    | .endObject =>
      match record.complete [] with
      | .error cause => fail cause
      | .ok () =>
        let _ ← next
        return record.blank
    | _ => members record decode [] record.blank (← get).length
  | token => mismatch token (.record record.name)

/-- The value with the given name. -/
def named (all : List α) (name : α → String) (text : String) : Decoder α :=
  match chosen all name text with
  | .error cause => fail cause
  | .ok value => return value

/-- A choice as its name, or as an object with the name for its only key and nothing for value. -/
def variant (all : List α) (name : α → String) : Decoder α := do
  match ← next with
  | .scalar (.text text) => named all name text
  | .beginObject =>
    let value ← named all name (← key)
    colon
    match ← next with
    | .scalar .null =>
      match ← next with
      | .endObject => return value
      | _ => throw .malformed
    | token => mismatch token .unit
  | _ => throw .malformed

instance : Format Decoder where
  text := text
  boolean := boolean
  list := list
  record := record
  variant := variant

end Decoder

/-- Decodes a whole text. -/
def decode {α : Type} (decoder : Decoder α) (text : String) : Except Error α :=
  match decoder.run (tokens text) with
  | .error error => .error error
  | .ok (value, []) => .ok value
  | .ok (_, _ :: _) => .error .malformed

end JvmSchema.Json
