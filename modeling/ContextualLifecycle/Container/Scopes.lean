import ContextualLifecycle.Container.Basic

namespace ContextualLifecycle

variable {σ : Type}

/-- What a scope is started with. -/
structure ScopeParams where
  /-- The id of a conversation to resume. -/
  conversationId : Option String := none
  /-- A session to attach again, in place of a new one. -/
  session : Option ScopeContext := none
deriving DecidableEq, Repr, Inhabited

/-- Marks the failures of an action as failures of a scope. -/
def Act.inScope {α : Type} (kind : ScopeKind) (action : Act σ α) : Act σ α := do
  match ← Act.attempt action with
  | .ok a => return a
  | .error e => throw (e.intoContext kind)

namespace Container

def tell (host : Host σ) (m : Container) (phase : Phase) (kind : ScopeKind) (c : ScopeContext) :
    Observer → Run σ Unit
  | .listener l => host.notify l phase m kind c
  | .logging label => modify (·.report (.observed label phase kind c))

/-- Has all observers hear of a context, one after the other. -/
def announce (host : Host σ) (m : Container) (phase : Phase) (kind : ScopeKind)
    (c : ScopeContext) : Run σ Unit := do
  modify (·.note (.notified phase m kind c))
  ((← get).container m).observers.forM (m.tell host phase kind c)

/-- Tears a context down and announces that, whatever failed. -/
def destroyContext (host : Host σ) (m : Container) (kind : ScopeKind) (c : ScopeContext) :
    Run σ (List LifecycleError) := do
  let outcome ← (c.destroyAll host).run
  m.announce host .destroyed kind c
  match outcome with
  | .ok () => return []
  | .error e => return [e]

/-- Fails with a single failure as it is, and with several as those of a context. -/
def failWith (owner : String) : List LifecycleError → Act σ Unit
  | [] => pure ()
  | [e] => throw e
  | failures => throw (.teardown owner failures)

def teardownConversation (host : Host σ) (m : Container) (v : Conversation) : Act σ Unit := do
  failWith (v.context.ownerName .conversation)
    (← m.destroyContext host .conversation v.context)

/-- Tears the context of a scope down; a session's conversations go first, unless they were torn
down before. -/
def teardown (host : Host σ) (m : Container) (kind : ScopeKind) (c : ScopeContext) :
    Act σ Unit := do
  let inner ← if kind = .session then do
      let conversations ← modifyGet c.takeConversations
      collectFailures (fun v : Conversation => do
        unless v.isDestroyed (← get) do m.teardownConversation host v) conversations
    else pure []
  let own ← m.destroyContext host kind c
  failWith (c.ownerName kind) (inner ++ own)

def retire (host : Host σ) (m : Container) (kind : ScopeKind) (c : ScopeContext) :
    Act σ Unit := do
  match ((← get).container m).config.restartPolicy with
  | .abandon =>
    let r := (← get).context c
    unless r.isEmpty do modify (·.report (.contextAbandoned kind c r.size))
  | .destroyPrevious => m.teardown host kind c

/-- Lets go of a conversation. A long-running one stays with its session, a transient one is torn
down. -/
def finishConversation (host : Host σ) (m : Container) (v : Conversation)
    (session : ScopeContext) : Act σ Unit := do
  modify v.release
  let r := (← get).conversation v
  if r.transient then
    let _ ← modifyGet (session.removeConversation r.id)
    unless v.isDestroyed (← get) do m.teardownConversation host v

def finishSlot (host : Host σ) (m : Container) : ConversationSlot → Act σ Unit
  | .active v session => m.finishConversation host v session
  | _ => pure ()

def startApplication (host : Host σ) (m : Container) : Act σ Unit := do
  if (m.application (← get)).isNone then
    let c ← modifyGet (ScopeContext.newActive .application)
    let _ ← modifyGet (m.swapApplication (some c))
    m.announce host .initialized .application c

def startConversation (host : Host σ) (m : Container) (propagatedId : Option String) :
    Act σ Unit := do
  let previous ← modifyGet (m.swapConversation host.thread (.pending propagatedId))
  m.finishSlot host previous

/-- The context that a started scope gets: a session that is attached again, or else a new one. -/
def contextToStart (kind : ScopeKind) (session : Option ScopeContext) (s : Store σ) :
    ScopeContext × Store σ :=
  match kind, session with
  | .session, some c => (c, s)
  | _, _ => ScopeContext.new kind s

/-- Puts a context into the slot of its scope, deals with the one that was there, and announces the
new one unless that failed. -/
def startSlot (host : Host σ) (m : Container) (kind : ScopeKind)
    (session : Option ScopeContext) : Act σ Unit := do
  let c ← modifyGet (contextToStart kind session)
  modify (c.setActive true)
  let previous ← modifyGet (m.fillSlot host.thread kind c)
  if let some p := previous then
    if p ≠ c then m.retire host kind p
  m.announce host .initialized kind c

/-- Starts a scope. An application scope that is active stays as it is. A conversation is resolved
only when it is asked for. -/
def start (host : Host σ) (m : Container) (kind : ScopeKind) (params : ScopeParams) :
    Act σ Unit :=
  Act.inScope kind <|
    match kind with
    | .application => m.startApplication host
    | .conversation => m.startConversation host params.conversationId
    | _ => m.startSlot host kind params.session

/-- Ends a scope and tears its context down; a scope that is not active is left alone. -/
def stop (host : Host σ) (m : Container) (kind : ScopeKind) : Act σ Unit :=
  Act.inScope kind do
    match kind with
    | .application =>
      if let some c ← modifyGet (m.swapApplication none) then m.teardown host kind c
    | .conversation =>
      m.finishSlot host (← modifyGet (m.swapConversation host.thread .notStarted))
    | _ =>
      if let some c ← modifyGet (m.clearSlot host.thread kind) then m.teardown host kind c

/-- Adds a transient conversation to a session, held by this thread. -/
def beginTransient (host : Host σ) (m : Container) (session : ScopeContext) :
    Run σ Conversation := do
  let r := (← get).container m
  let (v, next) ← modifyGet
    (session.addTransient toString r.nextConversation r.config.conversationTimeout)
  modify (m.update fun r => { r with nextConversation := next })
  let _ ← modifyGet v.tryAcquire
  m.announce host .initialized .conversation v.context
  return v

/-- The conversation for a propagated id: the long-running one of the session if nobody holds it,
or else a new transient one, with an error that says why. -/
def chooseConversation (host : Host σ) (m : Container) (session : ScopeContext) :
    Option String → Run σ (Conversation × Option LifecycleError)
  | none => return (← m.beginTransient host session, none)
  | some id => do
    let s ← get
    match (session.conversation? id s).filter fun v => !(s.conversation v).transient with
    | some v =>
      if ← modifyGet v.tryAcquire then return (v, none)
      let fresh ← m.beginTransient host session
      return (fresh, some (.busyConversation id ((← get).conversation fresh).id))
    | none =>
      let fresh ← m.beginTransient host session
      return (fresh, some (.nonexistentConversation id ((← get).conversation fresh).id))

/-- The context of the conversation scope. A pending slot is resolved against the current session;
if the propagated conversation is not to be had, the error is reported once. -/
def conversationContext (host : Host σ) (m : Container) : Act σ (Option ScopeContext) := do
  match m.conversationSlot host.thread (← get) with
  | .notStarted => return none
  | .active v _ => return some v.context
  | .pending propagatedId =>
    match m.slot host.thread .session (← get) with
    | none =>
      modify (·.report .sessionMissing)
      return none
    | some session =>
      let (v, failure) ← m.chooseConversation host session propagatedId
      let _ ← modifyGet (m.swapConversation host.thread (.active v session))
      match failure with
      | none => return some v.context
      | some e =>
        modify (·.report (.propagationFailed e))
        throw e

def current (host : Host σ) (m : Container) (kind : ScopeKind) : Act σ (Option ScopeContext) := do
  match kind with
  | .application => return m.application (← get)
  | .conversation => m.conversationContext host
  | _ => return m.slot host.thread kind (← get)

def activeContext (host : Host σ) (m : Container) (kind : ScopeKind) : Act σ ScopeContext := do
  match ← m.current host kind with
  | some c => return c
  | none => throw (.contextNotActive kind)

/-- Takes a context off the thread without destroying it. A conversation is let go of; the
application scope belongs to no thread. -/
def detach (m : Container) (t : Thread) (kind : ScopeKind) (s : Store σ) :
    Option ScopeContext × Store σ :=
  match kind with
  | .application => (none, s)
  | .conversation =>
    match m.swapConversation t .notStarted s with
    | (.active v _, s) => (some v.context, v.release s)
    | (_, s) => (none, s)
  | _ => m.clearSlot t kind s

/-- Tears the conversations of the current session down that nobody is going to miss; their
number. -/
def destroyExpired (host : Host σ) (m : Container) : Act σ Nat := do
  match ← m.current host .session with
  | none => return 0
  | some session =>
    let expired ← modifyGet session.takeExpired
    let failures ← collectFailures (m.teardownConversation host) expired
    failIfAny "expired conversations" failures
    return expired.length

/-- Ends every scope of the thread and the application scope, shorter-lived ones first. -/
def shutdown (host : Host σ) (m : Container) : Act σ Unit := do
  let failures ← collectFailures (m.stop host) ScopeKind.teardownOrder
  modify (m.forgetScopes host.thread)
  failIfAny "contexts service" failures

end Container

end ContextualLifecycle
