/-!
# Blanks, comments and line ends

The layout of TOML text. A line ends with a line feed, a carriage return before it or not; a
carriage return alone ends nothing.
-/

set_option autoImplicit false
set_option relaxedAutoImplicit false

namespace JvmSchema.Toml

/-- A blank within a line. -/
def isBlank (char : Char) : Bool :=
  char = ' ' ∨ char = '\t'

/-- A character that may stand as it is in a comment or between quotes: no control but the tab. -/
def isPlain (char : Char) : Bool :=
  char = '\t' ∨ 0x20 ≤ char.toNat ∧ char.toNat ≠ 0x7f

def skipBlanks (text : List Char) : List Char :=
  text.dropWhile isBlank

/-- What follows the line end at the start of a text. -/
def lineEnd? : List Char → Option (List Char)
  | '\n' :: rest => some rest
  | '\r' :: '\n' :: rest => some rest
  | _ => none

/-- Skips a comment, if one starts here. -/
def skipComment : List Char → List Char
  | '#' :: rest => rest.dropWhile isPlain
  | text => text

/-- What follows a line of which only blanks and a comment are left. -/
def nextLine? (text : List Char) : Option (List Char) :=
  match skipComment (skipBlanks text) with
  | [] => some []
  | text => lineEnd? text

/-- Skips blanks and line ends. -/
def skipSpace : List Char → List Char
  | '\r' :: '\n' :: rest => skipSpace rest
  | char :: rest => if char = '\n' ∨ isBlank char then skipSpace rest else char :: rest
  | [] => []

/-- Skips blanks, line ends and comments; `inComment` tells whether the text starts within one. -/
def skipGapFrom (inComment : Bool) : List Char → List Char
  | [] => []
  | '\r' :: '\n' :: rest => skipGapFrom false rest
  | char :: rest =>
    if char = '\n' then skipGapFrom false rest
    else if inComment then if isPlain char then skipGapFrom true rest else char :: rest
    else if isBlank char then skipGapFrom false rest
    else if char = '#' then skipGapFrom true rest
    else char :: rest

/-- Skips blanks, line ends and comments. -/
def skipGap (text : List Char) : List Char :=
  skipGapFrom false text

end JvmSchema.Toml
