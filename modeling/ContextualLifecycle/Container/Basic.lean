import ContextualLifecycle.Conversation

namespace ContextualLifecycle

variable {σ : Type}

namespace Container

def update (m : Container) (f : Container.Record → Container.Record) (s : Store σ) : Store σ :=
  s.setContainer m (f (s.container m))

def new (config : Config) (observers : List Observer) (proxying : Bool) (s : Store σ) :
    Container × Store σ :=
  let m : Container := ⟨s.nextContainer⟩
  (m, { s.setContainer m { config, observers, proxying } with
    nextContainer := s.nextContainer + 1 })

def teardownFactor (m : Container) (s : Store σ) : UInt64 := (s.container m).config.teardownFactor

def newEpisode (m : Container) (contextual : Option Contextual) (s : Store σ) :
    Episode × Store σ :=
  Episode.new contextual none (m.teardownFactor s) s

/-- What an episode may be wrapped around. -/
inductive Outer where
  | episode (e : Episode)
  | foreign (f : Foreign)
deriving DecidableEq, Repr, Inhabited

/-- An episode around an outer one. An episode of a container is taken as it is; a foreign one gets
an episode that tracks its own dependents and hands pushes and releases on. -/
def wrap (m : Container) (outer : Outer) (contextual : Contextual) (s : Store σ) :
    Episode × Store σ :=
  match outer with
  | .episode e => (e, s)
  | .foreign f => Episode.new (some contextual) (some f) (m.teardownFactor s) s

def registerAs (m : Container) (id : String) (contextual : Contextual) : Store σ → Store σ :=
  m.update fun r => { r with beans := r.beans.insert id contextual }

/-- Registers a bean under its passivation id, if it has one, and gives that id. -/
def register (m : Container) (contextual : Contextual) (s : Store σ) :
    Option String × Store σ :=
  match contextual.passivationId with
  | some id => (some id, m.registerAs id contextual s)
  | none => (none, s)

end Container

abbrev Beans := Table String Contextual

namespace Beans

/-- The portable id of a contextual: its passivation id, or else an id that this very object is
registered under. -/
def idOf? (beans : Beans) (contextual : Contextual) : Option String :=
  match contextual.passivationId with
  | some id => some id
  | none => beans.findKey? (·.isSame contextual)

def portableId (beans : Beans) (contextual : Contextual) : Except LifecycleError String :=
  match beans.idOf? contextual with
  | some id => .ok id
  | none => .error (.notPassivationCapable contextual.id.text)

def resolve (beans : Beans) (id : String) : Except LifecycleError Contextual :=
  match beans.get? id with
  | some contextual => .ok contextual
  | none => .error (.unknownPassivationId id)

end Beans

namespace Container

def updateScopes (m : Container) (t : Thread) (f : ThreadScopes → ThreadScopes) (s : Store σ) :
    Store σ :=
  s.setThreadScopes m t (f (s.threadScopes m t))

def slot (m : Container) (t : Thread) (kind : ScopeKind) (s : Store σ) : Option ScopeContext :=
  (s.threadScopes m t).contexts.get? kind

theorem slot_congr {s t : Store σ} (h : t.scopes = s.scopes) (m : Container) (thread : Thread)
    (kind : ScopeKind) : m.slot thread kind t = m.slot thread kind s := by
  rw [slot, Store.threadScopes_congr h, slot]

def fillSlot (m : Container) (t : Thread) (kind : ScopeKind) (c : ScopeContext) (s : Store σ) :
    Option ScopeContext × Store σ :=
  (m.slot t kind s,
    m.updateScopes t (fun r => { r with contexts := r.contexts.insert kind c }) s)

def clearSlot (m : Container) (t : Thread) (kind : ScopeKind) (s : Store σ) :
    Option ScopeContext × Store σ :=
  (m.slot t kind s, m.updateScopes t (fun r => { r with contexts := r.contexts.erase kind }) s)

def conversationSlot (m : Container) (t : Thread) (s : Store σ) : ConversationSlot :=
  (s.threadScopes m t).conversation

theorem conversationSlot_congr {s t : Store σ} (h : t.scopes = s.scopes) (m : Container)
    (thread : Thread) : m.conversationSlot thread t = m.conversationSlot thread s := by
  rw [conversationSlot, Store.threadScopes_congr h, conversationSlot]

def swapConversation (m : Container) (t : Thread) (slot : ConversationSlot) (s : Store σ) :
    ConversationSlot × Store σ :=
  (m.conversationSlot t s, m.updateScopes t (fun r => { r with conversation := slot }) s)

def currentConversation (m : Container) (t : Thread) (s : Store σ) : Option Conversation :=
  match m.conversationSlot t s with
  | .active v _ => some v
  | _ => none

def application (m : Container) (s : Store σ) : Option ScopeContext := (s.container m).application

theorem application_congr {s t : Store σ} (h : t.containers = s.containers) (m : Container) :
    m.application t = m.application s := by
  rw [application, Store.container_congr h, application]

def swapApplication (m : Container) (c : Option ScopeContext) (s : Store σ) :
    Option ScopeContext × Store σ :=
  (m.application s, m.update (fun r => { r with application := c }) s)

def forgetScopes (m : Container) (t : Thread) (s : Store σ) : Store σ :=
  { s with scopes := s.scopes.erase (m, t) }

end Container

end ContextualLifecycle
