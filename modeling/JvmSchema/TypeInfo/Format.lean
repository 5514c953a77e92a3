import JvmSchema.Decoding
import JvmSchema.Kind
import JvmSchema.TypeInfo

/-!
# The structured form of type descriptions

A `TypeInfo` is a record of `descriptor`, `enum`, `constructors` and `methods`; constructors and
methods are records too, and descriptors, kinds and access levels are texts. Only the descriptor of
a type and the name of a method must be given.
-/

set_option autoImplicit false
set_option relaxedAutoImplicit false

namespace JvmSchema

variable {D : Type → Type} [Functor D] [Format D]

def Descriptor.decoder : D Descriptor :=
  Descriptor.mk <$> Format.text .text

def Kind.decoder : D Kind :=
  Format.variant Kind.all Kind.dataName

def Visibility.decoder : D Visibility :=
  Format.variant Visibility.all Visibility.name

namespace Constructor

/-- The fields of a constructor. -/
inductive Field
  | params
  | visibility
  deriving DecidableEq, Repr

def Field.label : Field → String
  | .params => "params"
  | .visibility => "visibility"

def record : Record Field Constructor where
  name := "Constructor"
  fields := [.params, .visibility]
  label := Field.label
  required _ := false
  blank := {}

/-- Reads one field into a constructor. -/
def decodeField (field : Field) (value : Constructor) : D Constructor :=
  match field with
  | .params => (fun params ↦ { value with params }) <$> Format.list Descriptor.decoder
  | .visibility => (fun visibility ↦ { value with visibility }) <$> Visibility.decoder

def decoder : D Constructor :=
  Format.record record decodeField

end Constructor

namespace Method

/-- The fields of a method. -/
inductive Field
  | name
  | params
  | static
  | visibility
  deriving DecidableEq, Repr

def Field.label : Field → String
  | .name => "name"
  | .params => "params"
  | .static => "static"
  | .visibility => "visibility"

def record : Record Field Method where
  name := "Method"
  fields := [.name, .params, .static, .visibility]
  label := Field.label
  required field := field = .name
  blank := { name := "" }

/-- Reads one field into a method. -/
def decodeField (field : Field) (value : Method) : D Method :=
  match field with
  | .name => (fun name ↦ { value with name }) <$> Format.text .text
  | .params => (fun params ↦ { value with params }) <$> Format.list Descriptor.decoder
  | .static => (fun isStatic ↦ { value with isStatic }) <$> Format.boolean
  | .visibility => (fun visibility ↦ { value with visibility }) <$> Visibility.decoder

def decoder : D Method :=
  Format.record record decodeField

end Method

namespace TypeInfo

/-- The fields of a type description. -/
inductive Field
  | descriptor
  | enum
  | constructors
  | methods
  deriving DecidableEq, Repr

def Field.label : Field → String
  | .descriptor => "descriptor"
  | .enum => "enum"
  | .constructors => "constructors"
  | .methods => "methods"

def record : Record Field TypeInfo where
  name := "TypeInfo"
  fields := [.descriptor, .enum, .constructors, .methods]
  label := Field.label
  required field := field = .descriptor
  blank := { descriptor := ⟨""⟩ }

/-- Reads one field into a type description. -/
def decodeField (field : Field) (value : TypeInfo) : D TypeInfo :=
  match field with
  | .descriptor => (fun descriptor ↦ { value with descriptor }) <$> Descriptor.decoder
  | .enum => (fun isEnum ↦ { value with isEnum }) <$> Format.boolean
  | .constructors =>
    (fun constructors ↦ { value with constructors }) <$> Format.list Constructor.decoder
  | .methods => (fun methods ↦ { value with methods }) <$> Format.list Method.decoder

def decoder : D TypeInfo :=
  Format.record record decodeField

end TypeInfo

end JvmSchema
