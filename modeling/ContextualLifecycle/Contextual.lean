import ContextualLifecycle.ScopeKind

namespace ContextualLifecycle

/-- The logical identity of a definition. -/
structure ContextualId where
  text : String
deriving DecidableEq, Repr, Inhabited

instance : Ord ContextualId := ⟨fun a b => compare a.text b.text⟩

/-- An instance made by some definition. The container only ever asks whether two are one. -/
structure Instance where
  token : Nat
deriving DecidableEq, Repr, Inhabited

/-- What a definition is besides its id. Only beans have a scope of their own. -/
inductive Variety where
  | bean (scope : ScopeKind) (passivationId : Option String)
  | interceptor
  | decorator
  | plain
deriving DecidableEq, Repr, Inhabited

/-- A definition of instances, which the surroundings create and destroy on demand. -/
structure Contextual where
  /-- Which object the definition is; others may have the same id. -/
  object : Nat
  id : ContextualId
  variety : Variety
  /-- Whether the state of its instances can be captured and restored. -/
  keepsState : Bool := false
  /-- Whether the destruction of an instance takes more than forgetting it. -/
  hasDestroy : Bool := true
deriving DecidableEq, Repr, Inhabited

namespace Contextual

def isBean (unit : Contextual) : Bool :=
  match unit.variety with
  | .bean .. => true
  | _ => false

def asBean? (unit : Contextual) : Option Contextual :=
  if unit.isBean then some unit else none

/-- The declared scope; all but beans are dependent on whatever they were made for. -/
def scope (unit : Contextual) : ScopeKind :=
  match unit.variety with
  | .bean scope _ => scope
  | _ => .dependent

/-- The id under which a bean is known in every process, if it supports passivation. -/
def passivationId (unit : Contextual) : Option String :=
  match unit.variety with
  | .bean _ id => id
  | _ => none

def isPassivationCapable (unit : Contextual) : Bool := unit.passivationId.isSome

def kindName (unit : Contextual) : String :=
  match unit.variety with
  | .bean .. => "bean"
  | .interceptor => "interceptor"
  | .decorator => "decorator"
  | .plain => "contextual"

def isSame (a b : Contextual) : Bool := a.object == b.object

/-- Both are the same definition to storage. -/
def agrees (a b : Contextual) : Bool := a.id == b.id

end Contextual

/-- A bean that is put together from functions; the one that destroys may be missing. -/
structure FactoryBean where
  id : ContextualId
  scope : ScopeKind
  passivationId : Option String := none
  hasDestroy : Bool := false
deriving DecidableEq, Repr, Inhabited

namespace FactoryBean

def isPassivationCapable (bean : FactoryBean) : Bool := bean.passivationId.isSome

def toContextual (bean : FactoryBean) (object : Nat) : Contextual where
  object
  id := bean.id
  variety := .bean bean.scope bean.passivationId
  hasDestroy := bean.hasDestroy

end FactoryBean

end ContextualLifecycle
