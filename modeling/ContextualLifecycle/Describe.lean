import ContextualLifecycle.Container.Basic
import ContextualLifecycle.Text.Quoted

namespace ContextualLifecycle

variable {σ : Type}

namespace Describe

def field (name value : String) : String := name ++ ": " ++ value

def structureOf (name : String) (fields : List String) : String :=
  name ++ " \x7b " ++ ", ".intercalate fields ++ " \x7d"

/-- A structure of which only some fields are shown. -/
def partOf (name : String) (fields : List String) : String :=
  structureOf name (fields ++ [".."])

def list (items : List String) : String := "[" ++ ", ".intercalate items ++ "]"

def option : Option String → String
  | some value => "Some(" ++ value ++ ")"
  | none => "None"

end Describe

open Describe

def ScopeKind.describe : ScopeKind → String
  | request => "Request"
  | session => "Session"
  | conversation => "Conversation"
  | singleton => "Singleton"
  | dependent => "Dependent"
  | application => "Application"

def RestartPolicy.describe : RestartPolicy → String
  | abandon => "Abandon"
  | destroyPrevious => "DestroyPrevious"

def ContextualId.describe (id : ContextualId) : String := "ContextualId(" ++ id.text ++ ")"

def Contextual.describe (unit : Contextual) : String :=
  structureOf "ContextualUnit" [field "kind" (Text.quote unit.kindName),
    field "id" unit.id.describe, field "scope" unit.scope.describe]

def FactoryBean.describe (bean : FactoryBean) : String :=
  structureOf "FactoryBean" [field "id" bean.id.describe, field "scope" bean.scope.describe,
    field "passivation_id" (option (bean.passivationId.map Text.quote))]

def Dependent.describe (d : Dependent) : String :=
  partOf "DependentInstance" [field "contextual" d.contextual.id.describe]

def Episode.describe (e : Episode) (s : Store σ) : String :=
  let r := s.episode e
  structureOf "CreationalContext" [field "episode" (toString e.number),
    field "contextual" (option (r.contextual.map (·.id.describe))),
    field "dependents" (toString r.dependents.length),
    field "wrapped" (toString r.outer.isSome)]

def Episode.describeDependents (e : Episode) (s : Store σ) : String :=
  list ((s.episode e).dependents.map Dependent.describe)

def ScopeContext.describe (c : ScopeContext) (s : Store σ) : String :=
  let r := s.context c
  structureOf "ScopeContext" [field "id" (toString c.number), field "kind" r.kind.describe,
    field "active" (toString r.active), field "entries" (toString r.size)]

def Bag.describe (bag : Bag) (s : Store σ) : String :=
  partOf "BeanInstanceBag" [field "contextual" bag.contextual.id.describe,
    field "creational_context" (bag.episode.describe s)]

def ScopeContext.describeEntry (c : ScopeContext) (unit : Contextual) (s : Store σ) : String :=
  option (((s.context c).bag? unit).map (·.describe s))

def Conversation.describe (v : Conversation) (s : Store σ) : String :=
  let r := s.conversation v
  structureOf "Conversation" [field "id" (Text.quote r.id),
    field "transient" (toString r.transient), field "busy" (toString r.busy),
    field "context" (toString v.context.number)]

def ScopeContext.describeConversations (c : ScopeContext) (s : Store σ) : String :=
  structureOf "ConversationStore"
    [field "conversations" (list ((s.context c).conversations.keys.map Text.quote))]

def Config.describe (config : Config) : String :=
  structureOf "ContainerConfig" [field "teardown_factor" (toString config.teardownFactor.toNat),
    field "restart_policy" config.restartPolicy.describe,
    field "conversation_timeout_ms" (toString config.conversationTimeoutMs.toNat)]

namespace Container

def describeObservers (m : Container) (s : Store σ) : String :=
  structureOf "ScopeObservers"
    [field "observers" (toString (s.container m).observers.length)]

def describeScopes (m : Container) (s : Store σ) : String :=
  structureOf "ContextsService" [field "id" (toString m.number),
    field "config" (s.container m).config.describe, field "observers" (m.describeObservers s)]

def describe (m : Container) (s : Store σ) : String :=
  structureOf "BeanManager" [field "contexts" (m.describeScopes s),
    field "beans" (toString (s.container m).beans.size),
    field "proxies" (toString (s.container m).proxying)]

def describeFactory (m : Container) (s : Store σ) : String :=
  structureOf "CreationalContextFactory"
    [field "teardown_factor" (toString (m.teardownFactor s).toNat)]

end Container

end ContextualLifecycle
