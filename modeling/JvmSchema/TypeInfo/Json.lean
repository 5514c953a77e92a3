import JvmSchema.Json.Value
import JvmSchema.Kind
import JvmSchema.TypeInfo

/-!
# Type descriptions as JSON

Every field is written, in its order, whether or not it has its default.
-/

set_option autoImplicit false
set_option relaxedAutoImplicit false

namespace JvmSchema

open Json (Value)

def Kind.toJson (kind : Kind) : Value :=
  .text kind.dataName

def Descriptor.toJson (descriptor : Descriptor) : Value :=
  .text descriptor.text

def Visibility.toJson (visibility : Visibility) : Value :=
  .text visibility.name

def Constructor.toJson (constructor : Constructor) : Value :=
  .object [("params", .array (constructor.params.map Descriptor.toJson)),
    ("visibility", constructor.visibility.toJson)]

def Method.toJson (method : Method) : Value :=
  .object [("name", .text method.name), ("params", .array (method.params.map Descriptor.toJson)),
    ("static", .boolean method.isStatic), ("visibility", method.visibility.toJson)]

def TypeInfo.toJson (info : TypeInfo) : Value :=
  .object [("descriptor", info.descriptor.toJson), ("enum", .boolean info.isEnum),
    ("constructors", .array (info.constructors.map Constructor.toJson)),
    ("methods", .array (info.methods.map Method.toJson))]

end JvmSchema
