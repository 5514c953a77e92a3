/-!
# Pieces at the start of a text

A reader takes a piece from the start of a text and gives it together with what follows. These are
the pieces that formats share: a character in front of further text, a sign, and the exponent of a
number, whose digits each format reads in its own way.
-/

set_option autoImplicit false
set_option relaxedAutoImplicit false

namespace JvmSchema.Text

/-- Puts a character in front of the text read after it. -/
def prepend (char : Char) (read : Option (List Char × List Char)) :
    Option (List Char × List Char) :=
  read.map fun (text, rest) ↦ (char :: text, rest)

/-- The sign at the start of a text: whether it is negative, and what follows. -/
def sign : List Char → Bool × List Char
  | '+' :: rest => (false, rest)
  | '-' :: rest => (true, rest)
  | text => (false, text)

/-- Whether the mark of an exponent stands here. -/
def startsExponent (text : List Char) : Bool :=
  text.head? = some 'e' ∨ text.head? = some 'E'

/-- The exponent at the start of a text, zero if there is none. -/
def exponent? (someDigits : List Char → Option (List Char × List Char)) (text : List Char) :
    Option (Int × List Char) :=
  if startsExponent text then do
    let (negative, rest) := sign (text.drop 1)
    let (digits, rest) ← someDigits rest
    let magnitude : Nat := Nat.ofDigitChars 10 digits 0
    return (if negative then -magnitude else magnitude, rest)
  else some (0, text)

end JvmSchema.Text
