import JvmSchema.Decoding
import JvmSchema.Json.Number
import JvmSchema.Text.Hexadecimal

/-!
# JSON tokens

A text is cut into tokens up to its end or to the first place where no token starts; that place is
the token `invalid`. A reader that stops at the first token it cannot use thus meets the faults of a
text in their order.
-/

set_option autoImplicit false
set_option relaxedAutoImplicit false

namespace JvmSchema.Json

open Text (prepend)

/-- A token of JSON text. -/
inductive Token
  | beginObject
  | endObject
  | beginArray
  | endArray
  | colon
  | comma
  | scalar (value : Scalar)
  | invalid
  deriving DecidableEq

/-- The character that a letter after a backslash stands for. -/
def unescaped? : Char → Option Char
  | '"' => some '"'
  | '\\' => some '\\'
  | '/' => some '/'
  | 'b' => some '\x08'
  | 'f' => some '\x0c'
  | 'n' => some '\n'
  | 'r' => some '\r'
  | 't' => some '\t'
  | _ => none

/-- The string whose opening quote has been read: its characters, and what follows its closing
quote. A character outside the basic plane may be escaped as a pair of surrogates; a surrogate
without its partner is refused, as are raw controls. -/
def scanText : List Char → Option (List Char × List Char)
  | [] => none
  | '"' :: rest => some ([], rest)
  | '\\' :: 'u' :: a :: b :: c :: d :: rest =>
    match Text.hexValue? [a, b, c, d] with
    | none => none
    | some unit =>
      if 0xdc00 ≤ unit ∧ unit < 0xe000 then none
      else if 0xd800 ≤ unit ∧ unit < 0xdc00 then
        match rest with
        | '\\' :: 'u' :: a :: b :: c :: d :: rest =>
          match Text.hexValue? [a, b, c, d] with
          | none => none
          | some low =>
            if 0xdc00 ≤ low ∧ low < 0xe000 then
              prepend (Char.ofNat (0x10000 + (unit - 0xd800) * 0x400 + (low - 0xdc00)))
                (scanText rest)
            else none
        | _ => none
      else prepend (Char.ofNat unit) (scanText rest)
  | '\\' :: letter :: rest =>
    match unescaped? letter with
    | none => none
    | some char => prepend char (scanText rest)
  | char :: rest => if char = '\\' ∨ char.toNat < 0x20 then none else prepend char (scanText rest)

/-- A blank between tokens. -/
def isBlank (char : Char) : Bool :=
  char = ' ' ∨ char = '\n' ∨ char = '\t' ∨ char = '\r'

/-- The token at the start of a text, and what follows it. -/
def Token.scan : List Char → Option (Token × List Char)
  | '\x7b' :: rest => some (.beginObject, rest)
  | '\x7d' :: rest => some (.endObject, rest)
  | '[' :: rest => some (.beginArray, rest)
  | ']' :: rest => some (.endArray, rest)
  | ':' :: rest => some (.colon, rest)
  | ',' :: rest => some (.comma, rest)
  | 'n' :: 'u' :: 'l' :: 'l' :: rest => some (.scalar .null, rest)
  | 't' :: 'r' :: 'u' :: 'e' :: rest => some (.scalar (.boolean true), rest)
  | 'f' :: 'a' :: 'l' :: 's' :: 'e' :: rest => some (.scalar (.boolean false), rest)
  | '"' :: rest =>
    (scanText rest).map fun (chars, rest) ↦ (.scalar (.text (String.ofList chars)), rest)
  | '-' :: rest => (scanNumber true rest).map fun (number, rest) ↦ (.scalar number, rest)
  | chars => (scanNumber false chars).map fun (number, rest) ↦ (.scalar number, rest)

/-- The tokens of a text, `fuel` of them at most. -/
def scanAll (text : List Char) : Nat → List Token
  | 0 => []
  | fuel + 1 =>
    match text.dropWhile isBlank with
    | [] => []
    | rest =>
      match Token.scan rest with
      | none => [.invalid]
      | some (token, rest) => token :: scanAll rest fuel

/-- The tokens of a text; every token takes a character. -/
def tokens (text : String) : List Token :=
  scanAll text.toList text.toList.length

/-- A scalar as a message names it. -/
def Scalar.found : Scalar → Found
  | .null => .null
  | .boolean value => .boolean value
  | .integer value => .integer value
  | .float value => .float value
  | .text value => .text value

/-- The value that starts with a token, as a message names it. -/
def Token.found? : Token → Option Found
  | .scalar value => some value.found
  | .beginArray => some .sequence
  | .beginObject => some .map
  | _ => none

end JvmSchema.Json
