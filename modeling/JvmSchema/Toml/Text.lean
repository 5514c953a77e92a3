import JvmSchema.Text.Hexadecimal
import JvmSchema.Text.Pieces
import JvmSchema.Toml.Line

/-!
# TOML strings

A string stands between one or three quotes. Double quotes allow escapes, single quotes do not.
Three quotes allow line ends, which read as line feeds, and one or two quotes within the text or
right before its end.
-/

set_option autoImplicit false
set_option relaxedAutoImplicit false

namespace JvmSchema.Toml

open Text (hexValue? prepend)

/-- The character whose code is written in the first `count` digits. -/
def codePoint? (count : Nat) (text : List Char) : Option (Char × List Char) := do
  let code ← hexValue? (text.take count)
  if (text.take count).length = count ∧ code.isValidChar then
    return (Char.ofNat code, text.drop count)
  else none

/-- The character that an escape stands for; its backslash has been read. -/
def escape? : List Char → Option (Char × List Char)
  | 'u' :: rest => codePoint? 4 rest
  | 'U' :: rest => codePoint? 8 rest
  | '"' :: rest => some ('"', rest)
  | '\\' :: rest => some ('\\', rest)
  | 'b' :: rest => some ('\x08', rest)
  | 'f' :: rest => some ('\x0c', rest)
  | 'n' :: rest => some ('\n', rest)
  | 'r' :: rest => some ('\r', rest)
  | 't' :: rest => some ('\t', rest)
  | _ => none

/-- The text up to the quote that ends a string on one line, of `fuel` characters at most. -/
def lineText (quote : Char) (escapes : Bool) (text : List Char) : Nat →
    Option (List Char × List Char)
  | 0 => none
  | fuel + 1 =>
    match text with
    | [] => none
    | char :: rest =>
      if char = quote then some ([], rest)
      else if escapes ∧ char = '\\' then do
        let (char, rest) ← escape? rest
        prepend char (lineText quote escapes rest fuel)
      else if isPlain char then prepend char (lineText quote escapes rest fuel)
      else none

/-- The end of a string in three quotes: up to two more quotes belong to the text. -/
def closing? (quote : Char) (text : List Char) : Option (List Char × List Char) :=
  let run := (text.takeWhile (· = quote)).length
  if run < 3 then none
  else
    let extra := min (run - 3) 2
    some (List.replicate extra quote, text.drop (extra + 3))

/-- What follows a backslash at the end of a line and the space after it. -/
def continuation? (text : List Char) : Option (List Char) :=
  (lineEnd? (skipBlanks text)).map skipSpace

/-- The text up to the three quotes that end a string, of `fuel` characters at most. -/
def blockText (quote : Char) (escapes : Bool) (text : List Char) : Nat →
    Option (List Char × List Char)
  | 0 => none
  | fuel + 1 =>
    match closing? quote text, lineEnd? text, text with
    | some closed, _, _ => some closed
    | none, some rest, _ => prepend '\n' (blockText quote escapes rest fuel)
    | none, none, [] => none
    | none, none, char :: rest =>
      if escapes ∧ char = '\\' then
        match continuation? rest with
        | some rest => blockText quote escapes rest fuel
        | none => do
          let (char, rest) ← escape? rest
          prepend char (blockText quote escapes rest fuel)
      else if isPlain char then prepend char (blockText quote escapes rest fuel)
      else none

/-- The text after three opening quotes; a line end right after them is left out. -/
def block? (quote : Char) (escapes : Bool) (text : List Char) : Option (List Char × List Char) :=
  let text := (lineEnd? text).getD text
  blockText quote escapes text (text.length + 1)

/-- The string on one line that starts with the given quote. -/
def line? (quote : Char) (escapes : Bool) (text : List Char) : Option (List Char × List Char) :=
  lineText quote escapes text (text.length + 1)

/-- The string at the start of a text. -/
def string? : List Char → Option (List Char × List Char)
  | '"' :: '"' :: '"' :: rest => block? '"' true rest
  | '\'' :: '\'' :: '\'' :: rest => block? '\'' false rest
  | '"' :: rest => line? '"' true rest
  | '\'' :: rest => line? '\'' false rest
  | _ => none

end JvmSchema.Toml
