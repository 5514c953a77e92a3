import JvmSchema.Json.Value
import JvmSchema.Text.Pieces

/-!
# Reading JSON numbers

An integer that fits 64 bits, signed or unsigned, is kept exactly. Any other number becomes a
double: the digits that fit an unsigned 64-bit integer are scaled by a power of ten, in steps that
each round. Digits beyond these count for their place only.
-/

set_option autoImplicit false
set_option relaxedAutoImplicit false

namespace JvmSchema.Json

open Text (exponent? startsExponent)

/-- Leading digits that fit 64 bits, and how many were left out after them. -/
structure Significand where
  value : Nat
  taken : Nat
  dropped : Nat
  deriving DecidableEq, Repr

namespace Significand

/-- Takes one more digit, unless one was left out before or the value would not fit. -/
def push (significand : Significand) (digit : Char) : Significand :=
  let larger := significand.value * 10 + (digit.toNat - '0'.toNat)
  if significand.dropped = 0 ∧ larger < Nat.pow 2 64 then
    { significand with value := larger, taken := significand.taken + 1 }
  else { significand with dropped := significand.dropped + 1 }

/-- Takes further digits after a given value. -/
def extend (value : Nat) (digits : List Char) : Significand :=
  digits.foldl push ⟨value, 0, 0⟩

end Significand

/-- A power of ten; the exponent is at most 308. -/
def powerOfTen (exponent : Nat) : Float :=
  Float.ofScientific 1 false exponent

/-- `value * 10 ^ exponent`, unless it is too large. A small exponent takes several steps. -/
def scale (value : Float) (exponent : Int) : Nat → Option Float
  | 0 => some value
  | fuel + 1 =>
    if exponent.natAbs ≤ 308 then
      if 0 ≤ exponent then
        let scaled := value * powerOfTen exponent.natAbs
        if scaled.isInf then none else some scaled
      else some (value / powerOfTen exponent.natAbs)
    else if value == 0.0 then some value
    else if 0 ≤ exponent then none
    else scale (value / powerOfTen 308) (exponent + 308) fuel

/-- The digits at the start of a text, one at least, and what follows. -/
def someDigits (text : List Char) : Option (List Char × List Char) :=
  match text.takeWhile Char.isDigit with
  | [] => none
  | digits => some (digits, text.dropWhile Char.isDigit)

/-- The largest exponent that is not taken for infinite. -/
def greatestExponent : Nat := Nat.pow 2 31 - 1

/-- A double from its parts, unless it is too large. -/
def float? (negative : Bool) (significand : Nat) (written shift : Int) : Option Float :=
  let signed (value : Float) := if negative then -value else value
  if greatestExponent < written.natAbs then
    if significand ≠ 0 ∧ 0 < written then none else some (signed 0.0)
  else
    let exponent := written + shift
    (scale significand.toUInt64.toFloat exponent (exponent.natAbs / 308 + 1)).map signed

/-- An integer that fits 64 bits; minus zero and negative values below the range are doubles. -/
def ofInteger (negative : Bool) (value : Nat) : Scalar :=
  if negative then
    if 0 < value ∧ value ≤ Nat.pow 2 63 then .integer (-value) else .float (-value.toUInt64.toFloat)
  else .integer value

/-- The number with the given sign at the start of a text, and what follows. A leading zero stands
alone before the point. -/
def scanNumber (negative : Bool) (text : List Char) : Option (Scalar × List Char) := do
  match ← someDigits text with
  | ('0' :: _ :: _, _) => none
  | (whole, rest) =>
    let significand := Significand.extend 0 whole
    match rest with
    | '.' :: rest =>
      let (fraction, rest) ← someDigits rest
      let all := Significand.extend significand.value fraction
      let (written, rest) ← exponent? someDigits rest
      let value ← float? negative all.value written (significand.dropped - all.taken)
      return (.float value, rest)
    | rest =>
      if startsExponent rest ∨ significand.dropped ≠ 0 then
        let (written, rest) ← exponent? someDigits rest
        let value ← float? negative significand.value written significand.dropped
        return (.float value, rest)
      else return (ofInteger negative significand.value, rest)

end JvmSchema.Json
