import ContextualLifecycle.ScopeKind

namespace ContextualLifecycle

/-- The cause of a failed lifecycle operation. -/
inductive LifecycleError where
  /-- Releasing the dependents of `bean` took more than `limit` destroy attempts. -/
  | teardownLoop (bean : String) (limit : Nat)
  /-- An instance or an episode cannot be captured. -/
  | notPassivationCapable (bean : String)
  /-- Captured state names a contextual that is not registered here. -/
  | unknownPassivationId (id : String)
  /-- The caller expected an entry that the scope context does not hold. -/
  | missingEntry (scope : ScopeKind) (contextual : String)
  /-- A contextual was asked for while it was being created in the same context. -/
  | circular (path : List String)
  | config (text : String)
  | contextNotActive (scope : ScopeKind)
  /-- The propagated id names no long-running conversation. -/
  | nonexistentConversation (propagatedId transientId : String)
  /-- The propagated conversation is held by another request. -/
  | busyConversation (propagatedId transientId : String)
  | creation (contextual reason : String)
  | destruction (contextual reason : String)
  /-- The failures collected while a batch was torn down, in the order in which they arose. -/
  | teardown (owner : String) (failures : List LifecycleError)
  /-- A failure raised while a scope was started or ended. -/
  | context (scope : ScopeKind) (source : LifecycleError)
  /-- A captured state or a configuration is not well-formed text. -/
  | serialization
deriving Inhabited

namespace LifecycleError

def message : LifecycleError → String
  | teardownLoop bean limit =>
    s!"teardown of {bean} exceeded {limit} destroy attempts: destruction cycle in dependent graph"
  | notPassivationCapable bean => s!"{bean} is not passivation capable"
  | unknownPassivationId id => s!"no contextual registered for passivation id {id}"
  | missingEntry scope contextual => s!"no {scope.name} instance of {contextual}"
  | circular path => "circular creation: " ++ " -> ".intercalate path
  | config text => s!"invalid configuration: {text}"
  | contextNotActive scope => s!"{scope.name} context is not active"
  | nonexistentConversation propagatedId transientId =>
    s!"conversation {propagatedId} does not exist, started transient conversation {transientId}"
  | busyConversation propagatedId transientId =>
    s!"conversation {propagatedId} is busy, started transient conversation {transientId}"
  | creation contextual reason => s!"failed to create {contextual}: {reason}"
  | destruction contextual reason => s!"failed to destroy {contextual}: {reason}"
  | teardown owner failures => s!"{failures.length} failure(s) while destroying {owner}"
  | context scope source => s!"{scope.name} context failure: {source.message}"
  | serialization => "serialization failed"

mutual

/-- A defect of the component graph or its configuration, which must not be retried. -/
def isFatal : LifecycleError → Bool
  | teardownLoop .. | notPassivationCapable .. | unknownPassivationId .. | missingEntry ..
  | circular .. | config .. => true
  | context _ source => source.isFatal
  | teardown _ failures => anyFatal failures
  | contextNotActive .. | nonexistentConversation .. | busyConversation .. | creation ..
  | destruction .. | serialization => false

def anyFatal : List LifecycleError → Bool
  | [] => false
  | e :: es => e.isFatal || anyFatal es

end

/-- The recoverable signals: a fresh transient conversation stands in for the propagated one. -/
def isConversationFailure : LifecycleError → Bool
  | nonexistentConversation .. | busyConversation .. => true
  | context _ source => source.isConversationFailure
  | _ => false

/-- Marks an error as a failure of the given scope, unless it is marked already. -/
def intoContext (scope : ScopeKind) : LifecycleError → LifecycleError
  | context inner source => context inner source
  | e => context scope e

mutual

/-- The single failures of an error: what is left when aggregates and scope marks are opened. -/
def leaves : LifecycleError → List LifecycleError
  | teardown _ failures => allLeaves failures
  | context _ source => source.leaves
  | e => [e]

def allLeaves : List LifecycleError → List LifecycleError
  | [] => []
  | e :: es => e.leaves ++ allLeaves es

end

theorem isFatal_teardown (owner : String) (failures : List LifecycleError) :
    (teardown owner failures).isFatal = failures.any isFatal := by
  have hany : ∀ es, anyFatal es = es.any isFatal := by
    intro es
    induction es with
    | nil => rfl
    | cons e es ih => rw [anyFatal, ih, List.any_cons]
  rw [isFatal, hany]

theorem leaves_teardown (owner : String) (failures : List LifecycleError) :
    (teardown owner failures).leaves = failures.flatMap leaves := by
  have hall : ∀ es, allLeaves es = es.flatMap leaves := by
    intro es
    induction es with
    | nil => rfl
    | cons e es ih => rw [allLeaves, ih, List.flatMap_cons]
  rw [leaves, hall]

theorem isFatal_intoContext (e : LifecycleError) (scope : ScopeKind) :
    (e.intoContext scope).isFatal = e.isFatal := by
  cases e <;> simp [intoContext, isFatal]

theorem leaves_intoContext (e : LifecycleError) (scope : ScopeKind) :
    (e.intoContext scope).leaves = e.leaves := by
  cases e <;> simp [intoContext, leaves]

end LifecycleError

end ContextualLifecycle
