namespace ContextualLifecycle

/-- A lifetime and visibility boundary for contextual instances. -/
inductive ScopeKind where
  | request
  | session
  | conversation
  | singleton
  | dependent
  | application
deriving DecidableEq, Repr, Inhabited

namespace ScopeKind

/-- All kinds, shorter-lived scopes first: the order of a global teardown. -/
def teardownOrder : List ScopeKind :=
  [request, session, conversation, singleton, dependent, application]

def name : ScopeKind → String
  | request => "request"
  | session => "session"
  | conversation => "conversation"
  | singleton => "singleton"
  | dependent => "dependent"
  | application => "application"

/-- The kind with the given name, if the text is exactly one of the six names. -/
def ofName? (text : String) : Option ScopeKind :=
  teardownOrder.find? (·.name == text)

/-- Normal scopes hand out client proxies, the two pseudo-scopes raw instances. -/
def isNormal : ScopeKind → Bool
  | singleton | dependent => false
  | _ => true

/-- A thread sees only the contexts of these scopes that it started itself. -/
def isThreadConfined (kind : ScopeKind) : Bool := kind != application

/-- Scopes whose state may be captured and restored elsewhere. -/
def isPassivating : ScopeKind → Bool
  | session | conversation => true
  | _ => false

def teardownIndex (kind : ScopeKind) : Nat := teardownOrder.idxOf kind

theorem mem_teardownOrder (kind : ScopeKind) : kind ∈ teardownOrder := by
  cases kind <;> decide

theorem teardownOrder_nodup : teardownOrder.Nodup := by decide

@[simp]
theorem ofName?_name (kind : ScopeKind) : ofName? kind.name = some kind := by
  cases kind <;> decide

end ScopeKind

end ContextualLifecycle
