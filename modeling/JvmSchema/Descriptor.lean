/-!
# Type descriptors

A descriptor is the string by which a JVM type is known, such as `I` or `Ljava/lang/String;`. It is
opaque: it is compared, never taken apart. Descriptors are ordered by their UTF-8 bytes, and the
order is a strict total one (`lt_irrefl`, `lt_trans`, `lt_trichotomy`).
-/

set_option autoImplicit false
set_option relaxedAutoImplicit false

namespace JvmSchema

/-- The string-encoded identity of a type. -/
structure Descriptor where
  text : String
  deriving DecidableEq, Repr

namespace Descriptor

/-- Whether the descriptor is that of an array type, which starts with a bracket. -/
def isArray (descriptor : Descriptor) : Bool :=
  descriptor.text.toList.head? = some '['

/-- The UTF-8 bytes of a descriptor. -/
def bytes (descriptor : Descriptor) : List UInt8 :=
  descriptor.text.toByteArray.data.toList

/-- Descriptors are compared byte by byte, a proper initial part first. -/
instance : LT Descriptor := ⟨fun first second ↦ first.bytes < second.bytes⟩

instance (first second : Descriptor) : Decidable (first < second) :=
  inferInstanceAs (Decidable (first.bytes < second.bytes))

theorem bytes_injective {first second : Descriptor} (h : first.bytes = second.bytes) :
    first = second := by
  have htext : first.text = second.text :=
    String.toByteArray_inj.1 (ByteArray.ext (Array.toList_inj.1 h))
  cases first
  cases second
  exact congrArg Descriptor.mk htext

theorem lt_irrefl (descriptor : Descriptor) : ¬ descriptor < descriptor :=
  List.lt_irrefl descriptor.bytes

theorem lt_trans {first second third : Descriptor} (h : first < second) (h' : second < third) :
    first < third :=
  List.lt_trans (α := UInt8) h h'

theorem lt_asymm {first second : Descriptor} (h : first < second) : ¬ second < first :=
  fun h' ↦ lt_irrefl first (lt_trans h h')

theorem ne_of_lt {first second : Descriptor} (h : first < second) : first ≠ second := by
  rintro rfl
  exact lt_irrefl first h

theorem lt_trichotomy (first second : Descriptor) :
    first < second ∨ first = second ∨ second < first := by
  by_cases h : first < second
  · exact .inl h
  by_cases h' : second < first
  · exact .inr (.inr h')
  · exact .inr (.inl (bytes_injective
      (List.le_antisymm (List.not_lt.1 h') (List.not_lt.1 h))))

/-- Descriptors in increasing order, repetitions kept. -/
def sort (descriptors : List Descriptor) : List Descriptor :=
  descriptors.mergeSort fun first second ↦ ¬ second < first

end Descriptor

end JvmSchema
