import ContextualLifecycle.Config
import ContextualLifecycle.Injection
import ContextualLifecycle.Journal
import ContextualLifecycle.Table

namespace ContextualLifecycle

/-- A dependent instance that an episode owns. -/
structure Dependent where
  contextual : Contextual
  inst : Instance
deriving DecidableEq, Repr, Inhabited

def Dependent.isFor (d : Dependent) (contextual : Contextual) (inst : Instance) : Bool :=
  d.contextual.agrees contextual && d.inst == inst

structure Episode.Record where
  contextual : Option Contextual := none
  /-- The definition whose own records go to the front of the dependents. -/
  bean : Option Contextual := none
  /-- The instance that a decorator delegates to. -/
  delegate : Option Instance := none
  /-- The instance under construction, for circular references. -/
  incomplete : Option Instance := none
  /-- The innermost injection point comes first. -/
  injectionPoints : List InjectionPoint := []
  /-- The innermost event comes first. -/
  events : List EventMetadata := []
  /-- In the order in which a teardown destroys them. -/
  dependents : List Dependent := []
  /-- Whether a teardown is running. -/
  destroying : Bool := false
  outer : Option Foreign := none
  teardownFactor : UInt64 := 1
deriving Inhabited

/-- A stored instance with the episode that built it. -/
structure Bag where
  contextual : Contextual
  inst : Instance
  episode : Episode
deriving DecidableEq, Repr, Inhabited

inductive Cell.Content where
  | empty
  /-- The instance is being created. -/
  | filling
  | live (bag : Bag)
deriving DecidableEq, Repr, Inhabited

/-- The place of an instance in a scope context. The serial number tells it from a later place for
the same id. -/
structure Cell where
  serial : Nat
  content : Cell.Content
deriving DecidableEq, Repr, Inhabited

def Cell.bag? (cell : Cell) : Option Bag :=
  match cell.content with
  | .live bag => some bag
  | _ => none

structure ScopeContext.Record where
  kind : ScopeKind
  active : Bool := false
  entries : Table ContextualId Cell := ∅
  /-- The conversations of a session, by id. -/
  conversations : Table String Conversation := ∅
deriving Inhabited

structure Conversation.Record where
  id : String
  /-- A transient conversation lives for one request, any other one until it is ended. -/
  transient : Bool := true
  /-- Whether a request holds it. -/
  busy : Bool := false
  lastAccess : Duration
  timeout : Duration
deriving DecidableEq, Repr, Inhabited

/-- An observer of the scopes of a container. -/
inductive Observer where
  | listener (listener : Listener)
  /-- Reports what it hears, under a label. -/
  | logging (label : String)
deriving DecidableEq, Repr, Inhabited

def Observer.defaultLabel : String := "ferrous-cdi"

structure Container.Record where
  config : Config := {}
  observers : List Observer := []
  /-- Whether instances of normal scopes are handed out in client proxies. -/
  proxying : Bool := false
  /-- The application context, which all threads share. -/
  application : Option ScopeContext := none
  /-- The number that the next conversation id starts from. -/
  nextConversation : Nat := 1
  /-- Registered contextuals by portable id. -/
  beans : Table String Contextual := ∅
deriving Inhabited

/-- The conversation scope of a thread. Starting it only notes the propagated id, which is resolved
when somebody asks for the conversation. -/
inductive ConversationSlot where
  | notStarted
  | pending (propagatedId : Option String)
  | active (conversation : Conversation) (session : ScopeContext)
deriving DecidableEq, Repr, Inhabited

structure ThreadScopes where
  contexts : Table ScopeKind ScopeContext := ∅
  conversation : ConversationSlot := .notStarted
deriving Inhabited

/-- All objects of all containers, with data `σ` of the surroundings. Numbers count from one. -/
structure Store (σ : Type) where
  episodes : Table Episode Episode.Record := ∅
  contexts : Table ScopeContext ScopeContext.Record := ∅
  conversations : Table Conversation Conversation.Record := ∅
  containers : Table Container Container.Record := ∅
  scopes : Table (Container × Thread) ThreadScopes := ∅
  /-- What each thread is creating in which context, the innermost creation first. -/
  creating : Table Thread (List (ScopeContext × ContextualId)) := ∅
  nextEpisode : Nat := 1
  nextContext : Nat := 1
  nextContainer : Nat := 1
  nextCell : Nat := 1
  /-- The present moment. -/
  clock : Duration := ⟨0⟩
  journal : Array Event := #[]
  surroundings : σ
deriving Inhabited

/-- A step that always succeeds, if it returns at all. One without an outcome never returns, because
some call to the surroundings does not. -/
abbrev Run (σ α : Type) := StateT (Store σ) Option α

/-- A step that may fail. What it changed until then stays. -/
abbrev Act (σ α : Type) := ExceptT LifecycleError (StateT (Store σ) Option) α

/-- The surroundings of an operation: the thread it runs on, and what the container calls there. -/
structure Host (σ : Type) where
  thread : Thread
  create : Contextual → Episode → Act σ Instance
  destroy : Contextual → Instance → Episode → Act σ Unit
  /-- The state of an instance, for another process. -/
  capture : Contextual → Instance → Act σ Json
  /-- An instance with a captured state. -/
  restore : Contextual → Json → Act σ Instance
  /-- A client proxy around an instance of a normal scope. -/
  proxy : Contextual → ScopeKind → Instance → Run σ Instance
  notify : Listener → Phase → Container → ScopeKind → ScopeContext → Run σ Unit
  push : Foreign → Instance → Run σ Unit
  release : Foreign → Act σ Unit

variable {σ : Type}

/-- Waits for something that never happens. -/
def Run.never {α : Type} : Run σ α := fun _ => none

namespace Store

def episode (s : Store σ) (e : Episode) : Episode.Record := (s.episodes.get? e).getD {}

def context (s : Store σ) (c : ScopeContext) : ScopeContext.Record :=
  (s.contexts.get? c).getD default

def conversation (s : Store σ) (v : Conversation) : Conversation.Record :=
  (s.conversations.get? v).getD default

def container (s : Store σ) (m : Container) : Container.Record := (s.containers.get? m).getD {}

def threadScopes (s : Store σ) (m : Container) (t : Thread) : ThreadScopes :=
  (s.scopes.get? (m, t)).getD {}

def stack (s : Store σ) (t : Thread) : List (ScopeContext × ContextualId) :=
  (s.creating.get? t).getD []

section Tables

variable {s t : Store σ}

theorem episode_congr (h : t.episodes = s.episodes) (e : Episode) : t.episode e = s.episode e := by
  rw [episode, h, episode]

theorem context_congr (h : t.contexts = s.contexts) (c : ScopeContext) :
    t.context c = s.context c := by
  rw [context, h, context]

theorem conversation_congr (h : t.conversations = s.conversations) (v : Conversation) :
    t.conversation v = s.conversation v := by
  rw [conversation, h, conversation]

theorem container_congr (h : t.containers = s.containers) (m : Container) :
    t.container m = s.container m := by
  rw [container, h, container]

theorem threadScopes_congr (h : t.scopes = s.scopes) (m : Container) (thread : Thread) :
    t.threadScopes m thread = s.threadScopes m thread := by
  rw [threadScopes, h, threadScopes]

end Tables

def setEpisode (s : Store σ) (e : Episode) (r : Episode.Record) : Store σ :=
  { s with episodes := s.episodes.insert e r }

def setContext (s : Store σ) (c : ScopeContext) (r : ScopeContext.Record) : Store σ :=
  { s with contexts := s.contexts.insert c r }

def setConversation (s : Store σ) (v : Conversation) (r : Conversation.Record) : Store σ :=
  { s with conversations := s.conversations.insert v r }

def setContainer (s : Store σ) (m : Container) (r : Container.Record) : Store σ :=
  { s with containers := s.containers.insert m r }

def setThreadScopes (s : Store σ) (m : Container) (t : Thread) (r : ThreadScopes) : Store σ :=
  { s with scopes := s.scopes.insert (m, t) r }

def setStack (s : Store σ) (t : Thread) (stack : List (ScopeContext × ContextualId)) : Store σ :=
  { s with creating := s.creating.insert t stack }

def note (event : Event) (s : Store σ) : Store σ :=
  { s with journal := s.journal.push event }

def report (content : Report) (s : Store σ) : Store σ := s.note (.report content)

/-- The store after some time in which nothing else happens. -/
def wait (s : Store σ) (span : Duration) : Store σ :=
  { s with clock := ⟨s.clock.nanos + span.nanos⟩ }

end Store

/-- Runs an action and gives its outcome, whether it failed or not. -/
def Act.attempt {α : Type} (action : Act σ α) : Act σ (Except LifecycleError α) :=
  ExceptT.lift action.run

/-- Runs an action on each item, whether the ones before failed or not; the failures in order. -/
def collectFailures {α : Type} (action : α → Act σ Unit) : List α → Run σ (List LifecycleError)
  | [] => pure []
  | x :: xs => do
    match ← (action x).run with
    | .ok () => collectFailures action xs
    | .error e => return e :: (← collectFailures action xs)

def failIfAny (owner : String) (failures : List LifecycleError) : Act σ Unit :=
  if failures.isEmpty then pure () else throw (.teardown owner failures)

namespace Contextual

def create (host : Host σ) (unit : Contextual) (e : Episode) : Act σ Instance := do
  modify (·.note (.creating unit e))
  let inst ← host.create unit e
  modify (·.note (.created unit e inst))
  return inst

def destroy (host : Host σ) (unit : Contextual) (inst : Instance) (e : Episode) : Act σ Unit := do
  modify (·.note (.destroying unit inst e))
  if unit.hasDestroy then host.destroy unit inst e

/-- The state of an instance, if instances of this definition keep one. -/
def capture (host : Host σ) (unit : Contextual) (inst : Instance) : Act σ Json :=
  if unit.keepsState then host.capture unit inst else throw (.notPassivationCapable unit.id.text)

def restore (host : Host σ) (unit : Contextual) (state : Json) : Act σ Instance := do
  if unit.keepsState then
    let inst ← host.restore unit state
    modify (·.note (.restored unit inst))
    return inst
  else throw (.notPassivationCapable unit.id.text)

end Contextual

end ContextualLifecycle
