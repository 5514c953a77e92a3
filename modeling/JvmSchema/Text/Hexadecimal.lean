/-!
# Hexadecimal digits
-/

set_option autoImplicit false
set_option relaxedAutoImplicit false

namespace JvmSchema.Text

/-- A number in lower-case hexadecimal digits. -/
def hexadecimal (number : Nat) : List Char :=
  Nat.toDigits 16 number

/-- The value of a hexadecimal digit in either case. -/
def hexDigit? (char : Char) : Option Nat :=
  if '0' ≤ char ∧ char ≤ '9' then some (char.toNat - '0'.toNat)
  else if 'a' ≤ char ∧ char ≤ 'f' then some (char.toNat - 'a'.toNat + 10)
  else if 'A' ≤ char ∧ char ≤ 'F' then some (char.toNat - 'A'.toNat + 10)
  else none

/-- The number written in hexadecimal digits. -/
def hexValue? (digits : List Char) : Option Nat :=
  digits.foldlM (fun value digit ↦ (hexDigit? digit).map (value * 16 + ·)) 0

end JvmSchema.Text
