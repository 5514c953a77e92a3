import JvmSchema.Proofs.JsonReading
import JvmSchema.TypeInfo.Json

/-!
# Type descriptions written and read back

Writing a type description as JSON and reading the text gives the same description, whatever its
texts contain and however many members it has. Reading accepts more than is written: fields may be
left out, come in another order or be given by position. What is read then has one written form, and
writing and reading settle there (`TypeInfo.json_roundtrip`).
-/

set_option autoImplicit false
set_option relaxedAutoImplicit false

namespace JvmSchema

open Json (Value readable_array)
open Json.Decoder (Takes takes_text takes_boolean takes_variant takes_array takes_record memberOf)

/-! ### Parts of a type -/

theorem Descriptor.takes_toJson (descriptor : Descriptor) :
    Takes Descriptor.decoder descriptor.toJson.tokens descriptor :=
  (takes_text .text descriptor.text).map Descriptor.mk

theorem Visibility.takes_toJson (visibility : Visibility) :
    Takes Visibility.decoder visibility.toJson.tokens visibility :=
  takes_variant (Visibility.ofName?_name visibility)

/-- The value that is written for a field of a constructor. -/
def Constructor.fieldJson (constructor : Constructor) : Constructor.Field → Value
  | .params => .array (constructor.params.map Descriptor.toJson)
  | .visibility => constructor.visibility.toJson

theorem Constructor.takes_toJson (constructor : Constructor) :
    Takes Constructor.decoder constructor.toJson.tokens constructor := by
  have hobject : constructor.toJson = .object (Constructor.record.fields.map
      (memberOf Constructor.record constructor.fieldJson)) := rfl
  rw [hobject]
  refine takes_record Constructor.components (List.cons_ne_nil _ _) fun index ↦ ?_
  cases index with
  | params => exact takes_array Descriptor.takes_toJson constructor.params
  | visibility => exact Visibility.takes_toJson constructor.visibility

/-- The value that is written for a field of a method. -/
def Method.fieldJson (method : Method) : Method.Field → Value
  | .name => .text method.name
  | .params => .array (method.params.map Descriptor.toJson)
  | .static => .boolean method.isStatic
  | .visibility => method.visibility.toJson

theorem Method.takes_toJson (method : Method) :
    Takes Method.decoder method.toJson.tokens method := by
  have hobject : method.toJson = .object (Method.record.fields.map
      (memberOf Method.record method.fieldJson)) := rfl
  rw [hobject]
  refine takes_record Method.components (List.cons_ne_nil _ _) fun index ↦ ?_
  cases index with
  | name => exact takes_text .text method.name
  | params => exact takes_array Descriptor.takes_toJson method.params
  | static => exact takes_boolean method.isStatic
  | visibility => exact Visibility.takes_toJson method.visibility

namespace TypeInfo

/-- The value that is written for a field of a type. -/
def fieldJson (info : TypeInfo) : TypeInfo.Field → Value
  | .descriptor => info.descriptor.toJson
  | .enum => .boolean info.isEnum
  | .constructors => .array (info.constructors.map Constructor.toJson)
  | .methods => .array (info.methods.map Method.toJson)

theorem takes_toJson (info : TypeInfo) : Takes TypeInfo.decoder info.toJson.tokens info := by
  have hobject : info.toJson = .object (TypeInfo.record.fields.map
      (memberOf TypeInfo.record info.fieldJson)) := rfl
  rw [hobject]
  refine takes_record TypeInfo.components (List.cons_ne_nil _ _) fun index ↦ ?_
  cases index with
  | descriptor => exact Descriptor.takes_toJson info.descriptor
  | enum => exact takes_boolean info.isEnum
  | constructors => exact takes_array Constructor.takes_toJson info.constructors
  | methods => exact takes_array Method.takes_toJson info.methods

end TypeInfo

/-! ### Written descriptions -/

theorem Descriptor.readable_toJson (descriptor : Descriptor) : descriptor.toJson.Readable :=
  Json.readable_text descriptor.text

theorem Constructor.readable_toJson (constructor : Constructor) :
    constructor.toJson.Readable := by
  refine .object (List.forall_mem_cons.2 ⟨?_, List.forall_mem_singleton.2 ?_⟩)
  · exact readable_array Descriptor.readable_toJson constructor.params
  · exact Json.readable_text constructor.visibility.name

theorem Method.readable_toJson (method : Method) : method.toJson.Readable := by
  refine .object (List.forall_mem_cons.2 ⟨?_, List.forall_mem_cons.2 ⟨?_, List.forall_mem_cons.2
    ⟨?_, List.forall_mem_singleton.2 ?_⟩⟩⟩)
  · exact Json.readable_text method.name
  · exact readable_array Descriptor.readable_toJson method.params
  · exact Json.readable_boolean method.isStatic
  · exact Json.readable_text method.visibility.name

namespace TypeInfo

theorem readable_toJson (info : TypeInfo) : info.toJson.Readable := by
  refine .object (List.forall_mem_cons.2 ⟨?_, List.forall_mem_cons.2 ⟨?_, List.forall_mem_cons.2
    ⟨?_, List.forall_mem_singleton.2 ?_⟩⟩⟩)
  · exact info.descriptor.readable_toJson
  · exact Json.readable_boolean info.isEnum
  · exact readable_array Constructor.readable_toJson info.constructors
  · exact readable_array Method.readable_toJson info.methods

/-- Every description is read back from its text as it was, and what is read from any text is
written in one form, which reading and writing leave alone. -/
theorem json_roundtrip :
    (∀ info : TypeInfo, Json.decode TypeInfo.decoder info.toJson.compact = .ok info) ∧
    ∀ text info, Json.decode TypeInfo.decoder text = .ok info →
      ∃ again, Json.decode TypeInfo.decoder info.toJson.compact = .ok again ∧ again = info ∧
        again.toJson.compact = info.toJson.compact := by
  have hread (info : TypeInfo) : Json.decode TypeInfo.decoder info.toJson.compact = .ok info :=
    Json.decode_compact info.readable_toJson info.takes_toJson
  exact ⟨hread, fun _ info _ ↦ ⟨info, hread info, rfl, rfl⟩⟩

theorem json_roundtrip_by_position :
    let text := "\x7b\"methods\":[[\"valueOf\",[\"LA;\"],true]],\"descriptor\":\"\\u0000\\\"\"\x7d"
    let info : TypeInfo :=
      { descriptor := ⟨"\x00\""⟩, methods := [.static "valueOf" [⟨"LA;"⟩]] }
    Json.decode TypeInfo.decoder text = .ok info ∧
      ∃ again, Json.decode TypeInfo.decoder info.toJson.compact = .ok again ∧ again = info ∧
        again.toJson.compact = info.toJson.compact := by
  intro text info
  have hread : Json.decode TypeInfo.decoder text = .ok info :=
    toOption_eq_some_iff.1 (by decide +kernel)
  exact ⟨hread, json_roundtrip.2 text info hread⟩

end TypeInfo

end JvmSchema
