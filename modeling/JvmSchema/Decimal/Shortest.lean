/-!
# Shortest decimals

A binary floating-point number stands for every real that rounds to it. `Dyadic.shortest` gives the
decimal with the fewest digits among these reals, and of several with that many digits the nearest
to the number itself. All arithmetic is on natural numbers and exact.
-/

set_option autoImplicit false
set_option relaxedAutoImplicit false

namespace JvmSchema

/-- A positive floating-point number `mantissa * 2 ^ exponent`. Its lower neighbour is at half the
distance of its upper one when `atBoundary` holds, and otherwise at the same distance. -/
structure Dyadic where
  mantissa : Nat
  exponent : Int
  atBoundary : Bool
  deriving DecidableEq, Repr

/-- The number `digits * 10 ^ exponent`. -/
structure Decimal where
  digits : Nat
  exponent : Int
  deriving DecidableEq, Repr

/-- Which of two equally near decimals is taken. -/
inductive Tie
  | up
  | even
  deriving DecidableEq, Repr

namespace Decimal

/-- Moves trailing zeros into the exponent, `fuel` of them at most. -/
def stripZeros (decimal : Decimal) : Nat → Decimal
  | 0 => decimal
  | fuel + 1 =>
    if decimal.digits ≠ 0 ∧ decimal.digits % 10 = 0 then
      stripZeros ⟨decimal.digits / 10, decimal.exponent + 1⟩ fuel
    else decimal

end Decimal

namespace Dyadic

/-- A number scaled to `numerator / denominator`, with the ends of the reals that round to it over
the same denominator. -/
structure Scaled where
  low : Nat
  numerator : Nat
  high : Nat
  denominator : Nat
  closed : Bool

/-- The number in quarters of its last place. The ends round to an even mantissa. -/
def scaled (x : Dyadic) : Scaled :=
  let up := Nat.pow 2 (x.exponent - 2).toNat
  { low := (4 * x.mantissa - if x.atBoundary then 1 else 2) * up
    numerator := 4 * x.mantissa * up
    high := (4 * x.mantissa + 2) * up
    denominator := Nat.pow 2 (2 - x.exponent).toNat
    closed := x.mantissa % 2 = 0 }

/-- The same number in units of `10 ^ exponent`. -/
def Scaled.inUnits (x : Scaled) (exponent : Int) : Scaled :=
  let up := Nat.pow 10 (-exponent).toNat
  { x with
    low := x.low * up
    numerator := x.numerator * up
    high := x.high * up
    denominator := x.denominator * Nat.pow 10 exponent.toNat }

/-- Whether `count` units round to the number. -/
def Scaled.contains (x : Scaled) (count : Nat) : Bool :=
  let point := count * x.denominator
  if x.closed then x.low ≤ point ∧ point ≤ x.high else x.low < point ∧ point < x.high

/-- The count of units nearest to the number, if it rounds to the number: one of the two counts on
either side of it. -/
def Scaled.nearest? (x : Scaled) (tie : Tie) : Option Nat :=
  let below := x.numerator / x.denominator
  let twice := 2 * (x.numerator % x.denominator)
  let roundUp := x.denominator < twice ∨
    x.denominator = twice ∧ (tie = .up ∨ below % 2 = 1)
  match x.contains below, x.contains (below + 1) with
  | true, true => some (if roundUp then below + 1 else below)
  | true, false => some below
  | false, true => some (below + 1)
  | false, false => none

/-- A power of ten that brings every double above one. -/
def scaleDigits : Nat := 400

/-- The exponent of the first decimal digit. -/
def leadingExponent (x : Scaled) : Int :=
  (Nat.toDigits 10 (x.numerator * Nat.pow 10 scaleDigits / x.denominator)).length - 1 - scaleDigits

/-- The shortest decimal that reads back as the number. Seventeen digits always suffice. -/
def shortest (x : Dyadic) (tie : Tie) : Decimal :=
  let exact := x.scaled
  let first := leadingExponent exact
  let found := (List.range 17).findSome? fun (count : Nat) ↦
    let exponent := first - count
    ((exact.inUnits exponent).nearest? tie).map fun digits ↦ (⟨digits, exponent⟩ : Decimal)
  (found.getD ⟨0, 0⟩).stripZeros 17

end Dyadic

end JvmSchema
