import JvmSchema.Identities
import JvmSchema.TypeInfo

/-!
# Classification of descriptors

A well-known descriptor has its kind by identity. Any other is resolved: a type that can be made
from a string is a string in the schema, every other type is an object, and so is a descriptor that
does not resolve. Arrays have no rule of their own.

Resolution and the questions about a resolved type are actions in a monad `m`, so that one
definition serves a fixed table, a resolver that counts its calls and one that records them. The
questions are asked in the order of `Shape.questions`, and none after the first that holds.
-/

set_option autoImplicit false
set_option relaxedAutoImplicit false

namespace JvmSchema

/-- What can be asked of a resolved type. -/
structure Shape (m : Type → Type) where
  isEnum : m Bool
  hasStringConstructor : Descriptor → m Bool
  hasStringFactory : String → Descriptor → m Bool

/-- A source of types: the shape of the type with a given descriptor, if there is one. -/
structure Resolver (m : Type → Type) where
  resolve : Descriptor → m (Option (Shape m))

/-- How a descriptor came by its kind. -/
inductive Verdict
  | known (kind : Kind)
  | resolved (fromString : Bool)
  | unresolved
  deriving DecidableEq, Repr

/-- A type that can be made from a string is a string, any other an object. -/
def Kind.ofFromString (fromString : Bool) : Kind :=
  if fromString then .string else .object

/-- The kind that a verdict stands for. -/
def Verdict.kind : Verdict → Kind
  | .known kind => kind
  | .resolved fromString => .ofFromString fromString
  | .unresolved => .object

/-- Static factories recognised as making a value from a string, in the order of the search. -/
def stringFactories : List String := ["valueOf", "fromString"]

/-- Runs actions up to the first that answers true. -/
def anyTrue {m : Type → Type} [Monad m] : List (m Bool) → m Bool
  | [] => pure false
  | action :: rest => do
    if ← action then pure true else anyTrue rest

namespace Shape

variable {m : Type → Type}

/-- The grounds on which a type can be made from a string, in the order of the search. -/
def questions (shape : Shape m) (string : Descriptor) : List (m Bool) :=
  shape.isEnum :: shape.hasStringConstructor string ::
    stringFactories.map fun name ↦ shape.hasStringFactory name string

/-- Whether values of the type can be made from a string. -/
def fromString [Monad m] (shape : Shape m) (string : Descriptor) : m Bool :=
  anyTrue (shape.questions string)

end Shape

namespace Resolver

variable {m : Type → Type} [Monad m]

/-- The resolver that knows no type. -/
def empty : Resolver m where
  resolve _ := pure none

/-- Classifies one descriptor. -/
def classify (resolver : Resolver m) (known : Identities) (descriptor : Descriptor) : m Verdict :=
  match known.kind? descriptor with
  | some kind => pure (.known kind)
  | none => do
    match ← resolver.resolve descriptor with
    | some shape => return .resolved (← shape.fromString known.string)
    | none => pure .unresolved

/-- Classifies each descriptor afresh, in order. -/
def classifyAll (resolver : Resolver m) (known : Identities) (descriptors : List Descriptor) :
    m (List (Descriptor × Verdict)) :=
  descriptors.mapM fun descriptor ↦ return (descriptor, ← resolver.classify known descriptor)

end Resolver

/-- The kind of a type that has been resolved already; without a type it is an object. -/
def Shape.kind {m : Type → Type} [Monad m] (shape? : Option (Shape m)) (known : Identities) :
    m Kind :=
  match shape? with
  | some shape => return .ofFromString (← shape.fromString known.string)
  | none => pure .object

/-- The shape that a description gives a type. -/
def TypeInfo.shape {m : Type → Type} [Pure m] (info : TypeInfo) : Shape m where
  isEnum := pure info.isEnum
  hasStringConstructor string := pure (info.hasStringConstructor string)
  hasStringFactory name string := pure (info.hasStringFactory name string)

end JvmSchema
