import JvmSchema.Text.Hexadecimal
import JvmSchema.Text.Hidden

/-!
# Quoted text in messages

A message shows a text between double quotes. A quote, a backslash and the common controls are
escaped by one letter, every other character that does not show by its code point in braces.
-/

set_option autoImplicit false
set_option relaxedAutoImplicit false

namespace JvmSchema.Text

/-- A character as it stands between quotes. -/
def escaped (char : Char) : String :=
  match char with
  | '"' => "\\\""
  | '\\' => "\\\\"
  | '\n' => "\\n"
  | '\r' => "\\r"
  | '\t' => "\\t"
  | '\x00' => "\\0"
  | _ =>
    if isHidden char then "\\u\x7b" ++ String.ofList (hexadecimal char.toNat) ++ "\x7d"
    else char.toString

/-- A text between double quotes. -/
def quoted (text : String) : String :=
  "\"" ++ String.join (text.toList.map escaped) ++ "\""

end JvmSchema.Text
