import JvmSchema.Decimal.Float
import JvmSchema.Text.Hexadecimal

/-!
# JSON documents

A document is a tree of values; an object keeps its members in order. It is written either on one
line (`compact`) or with one element or member per line, two blanks deeper at each level (`pretty`).
-/

set_option autoImplicit false
set_option relaxedAutoImplicit false

namespace JvmSchema.Json

/-- A value without parts. -/
inductive Scalar
  | null
  | boolean (value : Bool)
  | integer (value : Int)
  | float (value : Float)
  | text (value : String)
  deriving DecidableEq

/-- A JSON value. -/
inductive Value
  | scalar (value : Scalar)
  | array (items : List Value)
  | object (members : List (String × Value))

/-- A text as a value. -/
def Value.text (value : String) : Value :=
  .scalar (.text value)

/-- A truth value as a value. -/
def Value.boolean (value : Bool) : Value :=
  .scalar (.boolean value)

/-- Numbers are positional from `1e-5` to below `1e16`; a tie goes to the even digit. -/
def floatText : FloatText where
  bounds := some (-5, 15)
  tie := .even

/-- The four hexadecimal digits of a control character. -/
def controlDigits (char : Char) : List Char :=
  let digits := Text.hexadecimal char.toNat
  List.replicate (4 - digits.length) '0' ++ digits

/-- A character as it stands in a string: only quotes, backslashes and controls are escaped. -/
def escaped (char : Char) : List Char :=
  match char with
  | '"' => ['\\', '"']
  | '\\' => ['\\', '\\']
  | '\x08' => ['\\', 'b']
  | '\x0c' => ['\\', 'f']
  | '\n' => ['\\', 'n']
  | '\r' => ['\\', 'r']
  | '\t' => ['\\', 't']
  | _ => if char.toNat < 0x20 then '\\' :: 'u' :: controlDigits char else [char]

/-- A text as a JSON string. -/
def quoted (text : String) : List Char :=
  '"' :: text.toList.flatMap escaped ++ ['"']

/-- A scalar as it stands in a document. -/
def Scalar.chars : Scalar → List Char
  | .null => "null".toList
  | .boolean value => (if value then "true" else "false").toList
  | .integer value => (toString value).toList
  | .float value => (floatText.write value).toList
  | .text value => quoted value

mutual

/-- A value on one line, without blanks. -/
def Value.compactChars : Value → List Char
  | .scalar value => value.chars
  | .array items => '[' :: compactItems items
  | .object members => '\x7b' :: compactMembers members

/-- The items of an array and its end. -/
def compactItems : List Value → List Char
  | [] => [']']
  | [item] => item.compactChars ++ [']']
  | item :: rest => item.compactChars ++ ',' :: compactItems rest

/-- The members of an object and its end. -/
def compactMembers : List (String × Value) → List Char
  | [] => ['\x7d']
  | [(name, value)] => quoted name ++ ':' :: value.compactChars ++ ['\x7d']
  | (name, value) :: rest =>
    quoted name ++ ':' :: value.compactChars ++ ',' :: compactMembers rest

end

/-- A new line indented by two blanks per level. -/
def newLine (level : Nat) : List Char :=
  '\n' :: List.replicate (2 * level) ' '

mutual

/-- A value over several lines, its own brackets at the given level. -/
def Value.prettyChars (level : Nat) : Value → List Char
  | .scalar value => value.chars
  | .array [] => ['[', ']']
  | .array (item :: rest) =>
    '[' :: newLine (level + 1) ++ item.prettyChars (level + 1) ++ prettyItems level rest
  | .object [] => ['\x7b', '\x7d']
  | .object ((name, value) :: rest) =>
    '\x7b' :: newLine (level + 1) ++ quoted name ++ ':' :: ' ' :: value.prettyChars (level + 1) ++
      prettyMembers level rest

/-- The further items of an array and its end. -/
def prettyItems (level : Nat) : List Value → List Char
  | [] => newLine level ++ [']']
  | item :: rest =>
    ',' :: newLine (level + 1) ++ item.prettyChars (level + 1) ++ prettyItems level rest

/-- The further members of an object and its end. -/
def prettyMembers (level : Nat) : List (String × Value) → List Char
  | [] => newLine level ++ ['\x7d']
  | (name, value) :: rest =>
    ',' :: newLine (level + 1) ++ quoted name ++ ':' :: ' ' :: value.prettyChars (level + 1) ++
      prettyMembers level rest

end

/-- The text of a value on one line. -/
def Value.compact (value : Value) : String :=
  String.ofList value.compactChars

/-- The text of a value with one item or member per line. -/
def Value.pretty (value : Value) : String :=
  String.ofList (value.prettyChars 0)

end JvmSchema.Json
