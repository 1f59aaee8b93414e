import ContextualLifecycle.Contextual

namespace ContextualLifecycle

/-- A place in a component that an instance is injected into. -/
structure InjectionPoint where
  /-- The bean that declares it, if there is one. -/
  bean : Option ContextualId := none
  /-- The field, parameter or setter. -/
  member : String
  qualifiers : List String := []
  /-- Whether a decorator receives its delegate here. -/
  delegate : Bool := false
deriving DecidableEq, Repr, Inhabited

/-- The event for whose observer instances are created. -/
structure EventMetadata where
  eventType : String
  qualifiers : List String := []
  /-- The injection point of the handle that fired the event. -/
  injectionPoint : Option InjectionPoint := none
deriving DecidableEq, Repr, Inhabited

end ContextualLifecycle
