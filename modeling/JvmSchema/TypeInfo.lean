import JvmSchema.Descriptor

/-!
# Descriptions of types

A `TypeInfo` says of one type whether it is an enumeration and which constructors and methods it
declares. Three facts about it matter for its schema: being an enumeration, a public constructor
from one string (`hasStringConstructor`) and a static factory from one string
(`hasStringFactory`).
-/

set_option autoImplicit false
set_option relaxedAutoImplicit false

namespace JvmSchema

/-- The access level of a member. -/
inductive Visibility
  | «public»
  | «protected»
  | package
  | «private»
  deriving DecidableEq, Repr

namespace Visibility

/-- All access levels, from the widest to the narrowest. -/
def all : List Visibility := [.public, .protected, .package, .private]

/-- The lower-case name of an access level. -/
def name : Visibility → String
  | .public => "public"
  | .protected => "protected"
  | .package => "package"
  | .private => "private"

/-- The access level with the given name. -/
def ofName? (text : String) : Option Visibility :=
  all.find? fun visibility ↦ visibility.name = text

theorem ofName?_name (visibility : Visibility) : ofName? visibility.name = some visibility := by
  cases visibility <;> rfl

end Visibility

/-- A declared constructor. -/
structure Constructor where
  params : List Descriptor := []
  visibility : Visibility := .public
  deriving DecidableEq, Repr

/-- A declared method; inherited methods are not listed. -/
structure Method where
  name : String
  params : List Descriptor := []
  isStatic : Bool := false
  visibility : Visibility := .public
  deriving DecidableEq, Repr

/-- A public static method. -/
def Method.static (name : String) (params : List Descriptor) : Method where
  name := name
  params := params
  isStatic := true

/-- What is known of one type. -/
structure TypeInfo where
  descriptor : Descriptor
  isEnum : Bool := false
  constructors : List Constructor := []
  methods : List Method := []
  deriving DecidableEq, Repr

namespace TypeInfo

/-- The same type as an enumeration. -/
def asEnum (info : TypeInfo) : TypeInfo :=
  { info with isEnum := true }

/-- The type with one more constructor, listed last. -/
def addConstructor (info : TypeInfo) (constructor : Constructor) : TypeInfo :=
  { info with constructors := info.constructors ++ [constructor] }

/-- The type with one more method, listed last. -/
def addMethod (info : TypeInfo) (method : Method) : TypeInfo :=
  { info with methods := info.methods ++ [method] }

/-- Whether a public constructor takes one `string` and nothing else. -/
def hasStringConstructor (info : TypeInfo) (string : Descriptor) : Bool :=
  info.constructors.any fun constructor ↦
    constructor.visibility = .public ∧ constructor.params = [string]

/-- Whether the method `name(string)` is static. A type cannot declare it twice, so the first one
listed decides; its visibility does not matter. -/
def hasStringFactory (info : TypeInfo) (name : String) (string : Descriptor) : Bool :=
  match info.methods.find? fun method ↦ method.name = name ∧ method.params = [string] with
  | some method => method.isStatic
  | none => false

end TypeInfo

end JvmSchema
