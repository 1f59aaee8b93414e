import ContextualLifecycle.Contextual
import ContextualLifecycle.Error

namespace ContextualLifecycle

/-- A creation episode, the bookkeeping record of one request for an instance, by its number. -/
structure Episode where
  number : Nat
deriving DecidableEq, Repr, Inhabited

/-- The instance storage of one scope instance, by its number. -/
structure ScopeContext where
  number : Nat
deriving DecidableEq, Repr, Inhabited

/-- A conversation. Its scope context belongs to no other one and tells conversations apart, also
those with the same id. -/
structure Conversation where
  context : ScopeContext
deriving DecidableEq, Repr, Inhabited

structure Container where
  number : Nat
deriving DecidableEq, Repr, Inhabited

/-- A creational context of the surroundings that an episode was wrapped around. -/
structure Foreign where
  token : Nat
deriving DecidableEq, Repr, Inhabited

/-- An observer of scopes in the surroundings. -/
structure Listener where
  token : Nat
deriving DecidableEq, Repr, Inhabited

structure Thread where
  name : String
deriving DecidableEq, Repr, Inhabited

/-- The two moments at which observers hear of a scope context. -/
inductive Phase where
  | initialized
  | destroyed
deriving DecidableEq, Repr, Inhabited

def Phase.name : Phase → String
  | initialized => "initialized"
  | destroyed => "destroyed"

/-- A condition that is worth a report, but does not change the course of an operation. -/
inductive Report where
  /-- The budget of a teardown is used up. -/
  | teardownDiverged (episode : Episode) (bean : String) (limit : Nat)
  | dependentFailed (episode : Episode) (contextual : ContextualId) (error : LifecycleError)
  /-- What a failed creation left behind could not be destroyed. -/
  | cleanupFailed (contextual : ContextualId) (error : LifecycleError)
  | entryFailed (scope : ScopeKind) (contextual : ContextualId) (error : LifecycleError)
  /-- A scope was started again, and the instances of its context are lost. -/
  | contextAbandoned (scope : ScopeKind) (context : ScopeContext) (entries : Nat)
  | sessionMissing
  | propagationFailed (error : LifecycleError)
  | conversationExpired (id : String)
  /-- What a logging observer heard, under its label. -/
  | observed (label : String) (phase : Phase) (scope : ScopeKind) (context : ScopeContext)

inductive Event where
  | creating (unit : Contextual) (episode : Episode)
  | created (unit : Contextual) (episode : Episode) (inst : Instance)
  | destroying (unit : Contextual) (inst : Instance) (episode : Episode)
  | restored (unit : Contextual) (inst : Instance)
  | pushing (outer : Foreign) (inst : Instance)
  | releasing (outer : Foreign)
  | notified (phase : Phase) (container : Container) (scope : ScopeKind) (context : ScopeContext)
  | report (content : Report)

inductive LogLevel where
  | debug
  | info
  | warn
  | error
deriving DecidableEq, Repr, Inhabited

def LogLevel.name : LogLevel → String
  | debug => "debug"
  | info => "info"
  | warn => "warn"
  | error => "error"

inductive LogField where
  | text (value : String)
  | count (value : Nat)
deriving DecidableEq, Repr, Inhabited

/-- A report in the form in which it is logged. -/
structure LogRecord where
  level : LogLevel
  message : String
  fields : List (String × LogField)
deriving DecidableEq, Repr, Inhabited

namespace Report

/-- Request and dependent contexts come and go often, so they are observed at a lower level. -/
def observationLevel : ScopeKind → LogLevel
  | .request | .dependent => .debug
  | _ => .info

def record : Report → LogRecord
  | teardownDiverged episode bean limit =>
    ⟨.error, "dependent teardown did not converge",
      [("episode", .count episode.number), ("bean", .text bean), ("limit", .count limit)]⟩
  | dependentFailed episode contextual error =>
    ⟨.warn, "dependent destroy failed",
      [("episode", .count episode.number), ("contextual", .text contextual.text),
        ("error", .text error.message)]⟩
  | cleanupFailed contextual error =>
    ⟨.warn, "partial cleanup after failed creation failed",
      [("contextual", .text contextual.text), ("error", .text error.message)]⟩
  | entryFailed scope contextual error =>
    ⟨.warn, "failed to destroy contextual instance",
      [("scope", .text scope.name), ("contextual", .text contextual.text),
        ("error", .text error.message)]⟩
  | contextAbandoned scope context entries =>
    ⟨.warn, "scope restarted; previous context abandoned without destroying its instances",
      [("scope", .text scope.name), ("context", .count context.number),
        ("entries", .count entries)]⟩
  | sessionMissing => ⟨.warn, "conversation scope started without an active session", []⟩
  | propagationFailed error =>
    ⟨.warn, "conversation propagation failed", [("error", .text error.message)]⟩
  | conversationExpired id => ⟨.warn, "conversation timed out", [("conversation", .text id)]⟩
  | observed label phase scope context =>
    ⟨observationLevel scope, "scope " ++ phase.name,
      [("prefix", .text label), ("scope", .text scope.name), ("context", .count context.number)]⟩

end Report

end ContextualLifecycle
