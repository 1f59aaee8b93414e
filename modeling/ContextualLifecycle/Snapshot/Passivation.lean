import ContextualLifecycle.Container.Scopes
import ContextualLifecycle.Snapshot.Basic

namespace ContextualLifecycle

variable {σ : Type}

namespace Container

def portableId (m : Container) (contextual : Contextual) : Act σ String := do
  liftExcept (Beans.portableId ((← get).container m).beans contextual)

def resolve (m : Container) (id : String) : Act σ Contextual := do
  liftExcept (Beans.resolve ((← get).container m).beans id)

def captureDependent (host : Host σ) (m : Container) (d : Dependent) : Act σ DependentSnapshot :=
  return { contextual := ← m.portableId d.contextual, state := ← d.contextual.capture host d.inst }

/-- Captures an episode; fails at the first contextual or instance that cannot be captured. -/
def captureEpisode (host : Host σ) (m : Container) (e : Episode) : Act σ EpisodeSnapshot := do
  let contextual ← match ((← get).episode e).contextual with
    | some contextual => pure (some (← m.portableId contextual))
    | none => pure none
  let dependents ← ((← get).episode e).dependents.mapM (m.captureDependent host)
  return { contextual, dependents }

def restoreDependent (host : Host σ) (m : Container) (e : Episode) (d : DependentSnapshot) :
    Act σ Unit := do
  let unit ← m.resolve d.contextual
  let inst ← unit.restore host d.state
  modify (e.addDependent unit (some inst))

/-- Restores an episode, its dependents one after the other. -/
def restoreEpisode (host : Host σ) (m : Container) (snapshot : EpisodeSnapshot) :
    Act σ Episode := do
  let contextual ← match snapshot.contextual with
    | some id => pure (some (← m.resolve id))
    | none => pure none
  let e ← modifyGet (m.newEpisode contextual)
  snapshot.dependents.forM (m.restoreDependent host e)
  return e

def episodeText (host : Host σ) (m : Container) (e : Episode) : Act σ String :=
  return (← m.captureEpisode host e).toJson.print

def episodeOfText (host : Host σ) (m : Container) (text : String) : Act σ Episode := do
  m.restoreEpisode host (← liftExcept (readSnapshot EpisodeSnapshot.ofTree? text))

def captureEntry (host : Host σ) (m : Container) (bag : Bag) : Act σ EntrySnapshot := do
  let contextual ← m.portableId bag.contextual
  let state ← bag.contextual.capture host bag.inst
  let episode ← m.captureEpisode host bag.episode
  return { contextual, state, episode }

/-- Captures a context with its long-running conversations. Only sessions and conversations can be
captured. The first number bounds how deep conversations are nested. -/
def captureNested (host : Host σ) (m : Container) : Nat → ScopeContext → Act σ ContextSnapshot
  | 0, _ => ExceptT.lift Run.never
  | depth + 1, c => do
    let r := (← get).context c
    unless r.kind.isPassivating do throw (.notPassivationCapable s!"{r.kind.name} context")
    let entries ← r.bags.mapM (m.captureEntry host)
    let ids := ((← get).context c).conversations.keys
    let conversations ← ids.filterMapM fun id => do
      let s ← get
      match c.conversation? id s with
      | none => return none
      | some v =>
        if (s.conversation v).transient || v.isDestroyed s then return none
        let timeoutMs := (s.conversation v).timeout.cappedMillis
        return some { id, timeoutMs, context := ← captureNested host m depth v.context }
    return { kind := r.kind, entries, conversations }

def captureContext (host : Host σ) (m : Container) (c : ScopeContext) : Act σ ContextSnapshot :=
  m.captureNested host UInt64.size c

def restoreEntry (host : Host σ) (m : Container) (c : ScopeContext) (entry : EntrySnapshot) :
    Act σ Unit := do
  let unit ← m.resolve entry.contextual
  let episode ← m.restoreEpisode host entry.episode
  let inst ← unit.restore host entry.state
  let serial := (← get).nextCell
  modify fun s => { s with nextCell := serial + 1 }
  modify (c.setCell unit.id ⟨serial, .live ⟨unit, inst, episode⟩⟩)

mutual

/-- Restores a context, which is inactive until a thread attaches it. -/
def restoreContext (host : Host σ) (m : Container) : ContextSnapshot → Act σ ScopeContext
  | ⟨kind, entries, conversations⟩ => do
    let c ← modifyGet (ScopeContext.new kind)
    entries.forM (m.restoreEntry host c)
    restoreConversations host m c conversations
    return c

def restoreConversations (host : Host σ) (m : Container) (c : ScopeContext) :
    List ConversationSnapshot → Act σ Unit
  | [] => pure ()
  | v :: vs => do
    restoreConversation host m c v
    restoreConversations host m c vs

def restoreConversation (host : Host σ) (m : Container) (c : ScopeContext) :
    ConversationSnapshot → Act σ Unit
  | ⟨id, timeoutMs, context⟩ => do
    let nested ← restoreContext host m context
    modify (nested.setActive true)
    let v ← modifyGet (Conversation.around nested id (.ofMillis timeoutMs.toNat))
    modify v.promote
    c.addConversation v

end

def contextText (host : Host σ) (m : Container) (c : ScopeContext) : Act σ String :=
  return (← m.captureContext host c).toJson.print

def contextOfText (host : Host σ) (m : Container) (text : String) : Act σ ScopeContext := do
  m.restoreContext host (← liftExcept (readSnapshot ContextSnapshot.ofTree? text))

def captureSession (host : Host σ) (m : Container) : Act σ ContextSnapshot := do
  m.captureContext host (← m.activeContext host .session)

/-- Restores a session and starts the session scope of the thread with it. -/
def restoreSession (host : Host σ) (m : Container) (snapshot : ContextSnapshot) :
    Act σ ScopeContext := do
  if snapshot.kind ≠ .session then
    throw (.config s!"cannot activate a {snapshot.kind.name} context as a session")
  let session ← restoreContext host m snapshot
  m.start host .session { session := some session }
  return session

end Container

end ContextualLifecycle
