import JvmSchema.Decimal.Float
import JvmSchema.Text.Hexadecimal
import JvmSchema.Text.Pieces
import JvmSchema.Toml.Value

/-!
# TOML numbers

Integers fit 64 bits with sign. A float is read as the nearest double, and one too large for that is
refused; so an infinite value is written `inf`. Single underscores may separate digits.
-/

set_option autoImplicit false
set_option relaxedAutoImplicit false

namespace JvmSchema.Toml

open Text (exponent? hexDigit? prepend sign startsExponent)

/-- The digits at the start of a text after a first one, without the underscores between them. An
underscore that no digit follows is refused. -/
def moreDigits (isDigit : Char → Bool) : List Char → Option (List Char × List Char)
  | [] => some ([], [])
  | '_' :: char :: rest =>
    if isDigit char then prepend char (moreDigits isDigit rest)
    else none
  | char :: rest =>
    if isDigit char then prepend char (moreDigits isDigit rest)
    else if char = '_' then none
    else some ([], char :: rest)

/-- The digits at the start of a text, one at least. -/
def someDigits (isDigit : Char → Bool) : List Char → Option (List Char × List Char)
  | [] => none
  | char :: rest =>
    if isDigit char then prepend char (moreDigits isDigit rest)
    else none

/-- The digits before the point: a zero stands alone. -/
def wholeDigits : List Char → Option (List Char × List Char)
  | '0' :: rest => some (['0'], rest)
  | text => someDigits Char.isDigit text

/-- A float from its parts, unless it is above all doubles. -/
def floatOf? (negative : Bool) (whole fraction : List Char) (exponent : Int) : Option Value :=
  let decimal : Decimal := ⟨Nat.ofDigitChars 10 (whole ++ fraction) 0, exponent - fraction.length⟩
  let magnitude := decimal.toFloat
  if negative then some (.float (-magnitude))
  else if magnitude.isInf then none
  else some (.float magnitude)

/-- An integer that fits 64 bits with sign. -/
def integerOf? (value : Int) : Option Value :=
  if -Int.pow 2 63 ≤ value ∧ value < Int.pow 2 63 then some (.integer value) else none

/-- A number in decimal digits. -/
def decimalNumber? (text : List Char) : Option (Value × List Char) := do
  let (negative, rest) := sign text
  let (whole, rest) ← wholeDigits rest
  match rest with
  | '.' :: rest =>
    let (fraction, rest) ← someDigits Char.isDigit rest
    let (exponent, rest) ← exponent? (someDigits Char.isDigit) rest
    return (← floatOf? negative whole fraction exponent, rest)
  | rest =>
    if startsExponent rest then
      let (exponent, rest) ← exponent? (someDigits Char.isDigit) rest
      return (← floatOf? negative whole [] exponent, rest)
    else
      let magnitude : Nat := Nat.ofDigitChars 10 whole 0
      return (← integerOf? (if negative then -magnitude else magnitude), rest)

/-- An integer in the digits of another base, after its mark. -/
def basedInteger? (base : Nat) (text : List Char) : Option (Value × List Char) := do
  let isDigit (char : Char) : Bool := (hexDigit? char).any (· < base)
  let (digits, rest) ← someDigits isDigit text
  let magnitude := digits.foldl (fun value digit ↦ value * base + (hexDigit? digit).getD 0) 0
  return (← integerOf? magnitude, rest)

/-- A value written in letters, with or without sign. -/
def specialFloat? (text : List Char) : Option (Value × List Char) :=
  match sign text with
  | (negative, 'i' :: 'n' :: 'f' :: rest) =>
    let infinity : Float := 1.0 / 0.0
    some (.float (if negative then -infinity else infinity), rest)
  | (_, 'n' :: 'a' :: 'n' :: rest) => some (.float (0.0 / 0.0), rest)
  | _ => none

/-- The number at the start of a text. -/
def number? : List Char → Option (Value × List Char)
  | '0' :: 'x' :: rest => basedInteger? 16 rest
  | '0' :: 'o' :: rest => basedInteger? 8 rest
  | '0' :: 'b' :: rest => basedInteger? 2 rest
  | text => (specialFloat? text).or (decimalNumber? text)

end JvmSchema.Toml
