import JvmSchema.Decimal.Shortest

/-!
# Floating-point numbers as decimal text

`FloatText.write` writes a double with its shortest digits, in the notation of a `FloatText` record:
which exponents are written positionally, which way ties go. `Decimal.toFloat` reads a decimal as
the nearest double.
-/

set_option autoImplicit false
set_option relaxedAutoImplicit false

namespace JvmSchema

/-- The decisions of a notation for floating-point numbers. A number whose first digit has an
exponent between `least` and `greatest` is written positionally, without a bound always so. -/
structure FloatText where
  bounds : Option (Int × Int)
  tie : Tie

/-- A double taken apart. -/
inductive FloatClass
  | notNumber
  | infinite (negative : Bool)
  | zero (negative : Bool)
  | finite (negative : Bool) (magnitude : Dyadic)

/-- Takes a double apart by its bits. -/
def FloatClass.ofFloat (x : Float) : FloatClass :=
  let bits := x.toBits.toNat
  let negative : Bool := bits / Nat.pow 2 63 = 1
  let exponent : Nat := bits / Nat.pow 2 52 % Nat.pow 2 11
  let fraction : Nat := bits % Nat.pow 2 52
  if exponent = 2047 then
    if fraction = 0 then .infinite negative else .notNumber
  else if exponent = 0 then
    if fraction = 0 then .zero negative else .finite negative ⟨fraction, -1074, false⟩
  else
    .finite negative
      ⟨Nat.pow 2 52 + fraction, (exponent : Int) - 1075, fraction = 0 ∧ 1 < exponent⟩

namespace FloatText

/-- A text of zeros. -/
def zeros (count : Nat) : String :=
  String.ofList (List.replicate count '0')

/-- A decimal written out, with a fraction of one digit at least. -/
def positional (digits : List Char) (exponent : Int) : String :=
  let count := digits.length
  let point := count + exponent
  if 0 ≤ exponent then String.ofList digits ++ zeros exponent.toNat ++ ".0"
  else if 0 < point then
    String.ofList (digits.take point.toNat) ++ "." ++ String.ofList (digits.drop point.toNat)
  else "0." ++ zeros (-point).toNat ++ String.ofList digits

/-- A decimal with one digit before the point and a signed exponent. -/
def scientific (digits : List Char) (exponent : Int) : String :=
  let first := String.ofList (digits.take 1)
  let rest := String.ofList (digits.drop 1)
  let fraction := if rest.isEmpty then "" else "." ++ rest
  let leading := exponent + digits.length - 1
  let sign := if leading < 0 then "-" else "+"
  first ++ fraction ++ "e" ++ sign ++ String.ofList (Nat.toDigits 10 leading.natAbs)

/-- A decimal in the given notation. -/
def writeDecimal (style : FloatText) (decimal : Decimal) : String :=
  let digits := Nat.toDigits 10 decimal.digits
  let leading := decimal.exponent + digits.length - 1
  match style.bounds with
  | none => positional digits decimal.exponent
  | some (least, greatest) =>
    if least ≤ leading ∧ leading ≤ greatest then positional digits decimal.exponent
    else scientific digits decimal.exponent

/-- A double in the given notation. -/
def write (style : FloatText) (x : Float) : String :=
  let sign (negative : Bool) := if negative then "-" else ""
  match FloatClass.ofFloat x with
  | .notNumber => "NaN"
  | .infinite negative => sign negative ++ "inf"
  | .zero negative => sign negative ++ "0.0"
  | .finite negative magnitude =>
    sign negative ++ style.writeDecimal (magnitude.shortest style.tie)

end FloatText

/-- The double nearest to a decimal; infinite where it is too large. Every decimal below `10 ^ -326`
is nearest to zero, and every decimal from `10 ^ 310` on is too large. -/
def Decimal.toFloat (decimal : Decimal) : Float :=
  let leading := decimal.exponent + (Nat.toDigits 10 decimal.digits).length
  if decimal.digits = 0 ∨ leading < -326 then 0.0
  else if 310 < leading then 1.0 / 0.0
  else Float.ofScientific decimal.digits (decimal.exponent < 0) decimal.exponent.natAbs

end JvmSchema
