import JvmSchema.Classification

/-!
# Recorded probes

`Resolver.recorded` passes every call on to a given resolver and writes down what was asked, in
order. The answers are those of the given resolver.
-/

set_option autoImplicit false
set_option relaxedAutoImplicit false

namespace JvmSchema

/-- A question put to a resolver or to a shape. -/
inductive Probe
  | resolve (descriptor : Descriptor)
  | isEnum
  | hasStringConstructor (string : Descriptor)
  | hasStringFactory (name : String) (string : Descriptor)
  deriving DecidableEq, Repr

variable {m : Type → Type} [Monad m]

/-- Writes down a probe, then runs the action that answers it. -/
def Probe.record {α : Type} (probe : Probe) (action : m α) : StateT (List Probe) m α := do
  modify (· ++ [probe])
  action

/-- The same shape with its questions recorded. -/
def Shape.recorded (shape : Shape m) : Shape (StateT (List Probe) m) where
  isEnum := Probe.isEnum.record shape.isEnum
  hasStringConstructor string :=
    (Probe.hasStringConstructor string).record (shape.hasStringConstructor string)
  hasStringFactory name string :=
    (Probe.hasStringFactory name string).record (shape.hasStringFactory name string)

/-- The same resolver with its calls, and the questions to the types it finds, recorded. -/
def Resolver.recorded (resolver : Resolver m) : Resolver (StateT (List Probe) m) where
  resolve descriptor := do
    let shape? ← (Probe.resolve descriptor).record (resolver.resolve descriptor)
    return shape?.map Shape.recorded

end JvmSchema
