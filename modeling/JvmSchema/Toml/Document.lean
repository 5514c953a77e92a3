import JvmSchema.Toml.Datetime
import JvmSchema.Toml.Draft
import JvmSchema.Toml.Number
import JvmSchema.Toml.Text

/-!
# Reading TOML documents

A document is a list of lines: entries, headers, and lines with nothing but a comment. Arrays may go
over several lines, inline tables may not. Nesting and dotted keys are bounded: eighty arrays or
inline tables within each other, or eighty parts of a key, are too many.
-/

set_option autoImplicit false
set_option relaxedAutoImplicit false

namespace JvmSchema.Toml

/-- The nesting of arrays and inline tables, and the parts of a key, stay below this. -/
def depthLimit : Nat := 80

/-- A character of a key without quotes. -/
def isBareKey (char : Char) : Bool :=
  char.isAlphanum ∨ char = '_' ∨ char = '-'

/-- One part of a key. -/
def keyPart? : List Char → Option (String × List Char)
  | '"' :: rest => (line? '"' true rest).map fun (chars, rest) ↦ (String.ofList chars, rest)
  | '\'' :: rest => (line? '\'' false rest).map fun (chars, rest) ↦ (String.ofList chars, rest)
  | text =>
    let chars := text.takeWhile isBareKey
    if chars.isEmpty then none else some (String.ofList chars, text.dropWhile isBareKey)

/-- The parts of a dotted key, `fuel` of them at most, and the blanks around them. -/
def keyParts (text : List Char) : Nat → Option (List String × List Char)
  | 0 => none
  | fuel + 1 => do
    let (part, rest) ← keyPart? (skipBlanks text)
    match skipBlanks rest with
    | '.' :: rest =>
      let (parts, rest) ← keyParts rest fuel
      return (part :: parts, rest)
    | rest => return ([part], rest)

/-- The key at the start of a text: the parts before the last, and the last. -/
def key? (text : List Char) : Option ((List String × String) × List Char) := do
  let (parts, rest) ← keyParts text (depthLimit - 1)
  return ((parts.dropLast, ← parts.getLast?), rest)

/-- The items of an array whose bracket has been read, `fuel` of them at most. -/
def arrayItems (item : List Char → Option (Value × List Char)) (text : List Char) : Nat →
    Option (List Value × List Char)
  | 0 => none
  | fuel + 1 =>
    match skipGap text with
    | ']' :: rest => some ([], rest)
    | text => do
      let (value, rest) ← item text
      match skipGap rest with
      | ',' :: rest =>
        let (values, rest) ← arrayItems item rest fuel
        return (value :: values, rest)
      | ']' :: rest => return ([value], rest)
      | _ => none

/-- An entry up to the end of its value. -/
def keyValue? (item : List Char → Option (Value × List Char)) (text : List Char) :
    Option (Entry × List Char) := do
  let ((path, key), rest) ← key? text
  let (value, rest) ← item (skipBlanks (← skip? '=' rest))
  return (⟨path, key, value⟩, rest)

/-- The entries of an inline table from the next one on, `fuel` of them at most. -/
def inlineEntries (item : List Char → Option (Value × List Char)) (text : List Char) : Nat →
    Option (List Entry × List Char)
  | 0 => none
  | fuel + 1 => do
    let (entry, rest) ← keyValue? item text
    match skipBlanks rest with
    | ',' :: rest =>
      let (entries, rest) ← inlineEntries item rest fuel
      return (entry :: entries, rest)
    | '\x7d' :: rest => return ([entry], rest)
    | _ => none

/-- An inline table whose brace has been read. -/
def inlineTable? (item : List Char → Option (Value × List Char)) (text : List Char) :
    Option (Value × List Char) :=
  match skipBlanks text with
  | '\x7d' :: rest => some (.table [], rest)
  | text => do
    let (entries, rest) ← inlineEntries item text text.length
    return (.table (finish (← Draft.insertAll [] entries)), rest)

/-- A value that is no array and no inline table. -/
def scalar? : List Char → Option (Value × List Char)
  | 't' :: 'r' :: 'u' :: 'e' :: rest => some (.boolean true, rest)
  | 'f' :: 'a' :: 'l' :: 's' :: 'e' :: rest => some (.boolean false, rest)
  | text =>
    if startsDatetime text then
      (datetime? text).map fun (written, rest) ↦ (.datetime (String.ofList written), rest)
    else
      ((string? text).map fun (chars, rest) ↦ (.text (String.ofList chars), rest)).or
        (number? text)

/-- The value at the start of a text, nested to the given depth at most. -/
def value? : Nat → List Char → Option (Value × List Char)
  | 0, '[' :: _ => none
  | 0, '\x7b' :: _ => none
  | depth + 1, '[' :: rest =>
    (arrayItems (value? depth) rest (rest.length + 1)).map fun (items, rest) ↦ (.array items, rest)
  | depth + 1, '\x7b' :: rest => inlineTable? (value? depth) rest
  | _, text => scalar? text

/-- A line with content. -/
inductive Line
  | entry (entry : Entry)
  | header (repeated : Bool) (path : List String) (key : String)

/-- The content of a line. -/
def line (text : List Char) : Option (Line × List Char) :=
  match text with
  | '[' :: '[' :: rest => do
    let ((path, key), rest) ← key? rest
    let rest ← skip? ']' (← skip? ']' rest)
    return (.header true path key, rest)
  | '[' :: rest => do
    let ((path, key), rest) ← key? rest
    return (.header false path key, ← skip? ']' rest)
  | text => do
    let (entry, rest) ← keyValue? (value? (depthLimit - 1)) text
    return (.entry entry, rest)

/-- The lines of a document that have content, `fuel` lines at most. -/
def lines (text : List Char) : Nat → Option (List Line)
  | 0 => some []
  | fuel + 1 =>
    match nextLine? text with
    | some [] => some []
    | some rest => lines rest fuel
    | none => do
      let (first, rest) ← line (skipBlanks text)
      return first :: (← lines (← nextLine? rest) fuel)

/-- The entries before the first header, and the headers with the entries below them. -/
def parts (lines : List Line) : List Entry × List Section :=
  lines.foldr (fun line (entries, sections) ↦
    match line with
    | .entry entry => (entry :: entries, sections)
    | .header repeated path key => ([], ⟨repeated, path, key, entries⟩ :: sections)) ([], [])

/-- A byte order mark, which may stand before a document. -/
def byteOrderMark : Char := '\ufeff'

/-- The text after a byte order mark, if there is one. -/
def skipMark : List Char → List Char
  | [] => []
  | first :: rest => if first = byteOrderMark then rest else first :: rest

/-- Reads a whole document. -/
def parse? (document : String) : Option Table := do
  let text := skipMark document.toList
  let (entries, sections) := parts (← lines text (text.length + 1))
  let draft ← Draft.insertAll [] entries
  return finish (← sections.foldlM Draft.place draft)

end JvmSchema.Toml
