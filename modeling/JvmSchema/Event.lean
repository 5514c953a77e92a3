import JvmSchema.Descriptor

/-!
# Events of a run

A run reports what it does as events. `Logged` pairs the events of a computation with its result; a
computation that fails keeps the events from before the failure.
-/

set_option autoImplicit false
set_option relaxedAutoImplicit false

namespace JvmSchema

/-- Something that happened during a run. -/
inductive Event
  | usingConfig (path : String)
  | loadedTable (path : String) (types : Nat)
  | tableReady (types : Nat)
  | unresolved (descriptor : Descriptor)
  deriving DecidableEq, Repr

namespace Event

/-- The part of the program that reports the event. -/
def target : Event → String
  | .usingConfig _ => "schemakind::config"
  | .loadedTable _ _ => "schemakind_core::table"
  | .tableReady _ => "schemakind::commands"
  | .unresolved _ => "schemakind::classify"

/-- The wording of the event. -/
def message : Event → String
  | .usingConfig _ => "using config"
  | .loadedTable _ _ => "loaded type table"
  | .tableReady _ => "type table ready"
  | .unresolved _ => "unresolved type, defaulting to object"

end Event

/-- A result with the events on the way to it. -/
structure Logged (ε α : Type) where
  events : List Event
  result : Except ε α

namespace Logged

variable {ε α β : Type}

/-- Reports an event. -/
def report (event : Event) : Logged ε Unit where
  events := [event]
  result := .ok ()

/-- A result without events. -/
def ofExcept (result : Except ε α) : Logged ε α where
  events := []
  result := result

/-- Goes on with a result, unless it is a failure. -/
def andThen (first : Logged ε α) (next : α → Logged ε β) : Logged ε β :=
  match first.result with
  | .ok value => ⟨first.events ++ (next value).events, (next value).result⟩
  | .error error => ⟨first.events, .error error⟩

instance : Monad (Logged ε) where
  pure value := ofExcept (.ok value)
  bind := andThen

/-- Rewords a failure. -/
def mapError {ε' : Type} (change : ε → ε') (logged : Logged ε α) : Logged ε' α where
  events := logged.events
  result := logged.result.mapError change

end Logged

end JvmSchema
