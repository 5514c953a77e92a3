import JvmSchema.Toml.Decoder
import JvmSchema.Toml.Document

/-!
# Decoding TOML documents

A document is read as a whole before any of it is decoded, so a fault in its form anywhere comes
before a fault in its content.
-/

set_option autoImplicit false
set_option relaxedAutoImplicit false

namespace JvmSchema.Toml

abbrev Error : Type := ReadingError

/-- The wording of an error; the place is given only in general terms. -/
def Error.message : Error → String
  | .malformed => "TOML parse error at a line of the document\n"
  | .data cause =>
    "TOML parse error at a value of the document\n" ++ cause.message floatText ++ "\n"

/-- Reads a document. -/
def parse (document : String) : Except Error Table :=
  match parse? document with
  | some table => .ok table
  | none => .error .malformed

/-- Decodes a document that has been read. -/
def decode {α : Type} (decoder : Decoder α) (document : Table) : Except Error α :=
  (decoder.run (.table document)).mapError .data

end JvmSchema.Toml
