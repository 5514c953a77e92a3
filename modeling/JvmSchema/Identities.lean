import JvmSchema.Descriptor
import JvmSchema.Kind

/-!
# Well-known identities

Some descriptors have their kind by identity, whatever else is known of the type. `Identities` is
plain data: the string type and three families. The families may overlap; `kind?` then takes the
first that matches, in the order string, boolean, integer, number.
-/

set_option autoImplicit false
set_option relaxedAutoImplicit false

namespace JvmSchema

/-- The descriptors classified by exact match. -/
structure Identities where
  string : Descriptor
  booleans : List Descriptor
  integers : List Descriptor
  floats : List Descriptor
  deriving DecidableEq, Repr

namespace Identities

/-- The identities of the Java platform. -/
def jvm : Identities where
  string := ⟨"Ljava/lang/String;"⟩
  booleans := [⟨"Z"⟩, ⟨"Ljava/lang/Boolean;"⟩]
  integers := [⟨"B"⟩, ⟨"S"⟩, ⟨"I"⟩, ⟨"J"⟩, ⟨"Ljava/lang/Byte;"⟩, ⟨"Ljava/lang/Short;"⟩,
    ⟨"Ljava/lang/Integer;"⟩, ⟨"Ljava/lang/Long;"⟩, ⟨"Ljava/math/BigInteger;"⟩]
  floats := [⟨"F"⟩, ⟨"D"⟩, ⟨"Ljava/lang/Float;"⟩, ⟨"Ljava/lang/Double;"⟩,
    ⟨"Ljava/math/BigDecimal;"⟩]

def isString (known : Identities) (descriptor : Descriptor) : Bool :=
  known.string = descriptor

def isBoolean (known : Identities) (descriptor : Descriptor) : Bool :=
  descriptor ∈ known.booleans

def isInteger (known : Identities) (descriptor : Descriptor) : Bool :=
  descriptor ∈ known.integers

def isFloat (known : Identities) (descriptor : Descriptor) : Bool :=
  descriptor ∈ known.floats

/-- The kind of a well-known descriptor. -/
def kind? (known : Identities) (descriptor : Descriptor) : Option Kind :=
  if known.isString descriptor then some .string
  else if known.isBoolean descriptor then some .boolean
  else if known.isInteger descriptor then some .integer
  else if known.isFloat descriptor then some .number
  else none

theorem kind?_eq_none_iff {known : Identities} {descriptor : Descriptor} :
    known.kind? descriptor = none ↔
      known.string ≠ descriptor ∧ descriptor ∉ known.booleans ∧ descriptor ∉ known.integers ∧
        descriptor ∉ known.floats := by
  grind [kind?, isString, isBoolean, isInteger, isFloat]

end Identities

end JvmSchema
