import ContextualLifecycle.ScopeContext

namespace ContextualLifecycle

variable {σ : Type}

namespace Conversation

def update (v : Conversation) (f : Conversation.Record → Conversation.Record) (s : Store σ) :
    Store σ :=
  s.setConversation v (f (s.conversation v))

def around (context : ScopeContext) (id : String) (timeout : Duration) (s : Store σ) :
    Conversation × Store σ :=
  let v : Conversation := ⟨context⟩
  (v, s.setConversation v { id, timeout, lastAccess := s.clock })

def newTransient (id : String) (timeout : Duration) (s : Store σ) : Conversation × Store σ :=
  let (context, s) := ScopeContext.newActive .conversation s
  around context id timeout s

def promote (v : Conversation) : Store σ → Store σ :=
  v.update fun r => { r with transient := false }

/-- Makes a conversation transient, so that it ends with its request. -/
def demote (v : Conversation) : Store σ → Store σ :=
  v.update fun r => { r with transient := true }

def setTimeout (v : Conversation) (timeout : Duration) : Store σ → Store σ :=
  v.update fun r => { r with timeout }

def touch (v : Conversation) (s : Store σ) : Store σ :=
  v.update (fun r => { r with lastAccess := s.clock }) s

def tryAcquire (v : Conversation) (s : Store σ) : Bool × Store σ :=
  if (s.conversation v).busy then (false, s)
  else (true, v.touch (v.update (fun r => { r with busy := true }) s))

def release (v : Conversation) (s : Store σ) : Store σ :=
  v.update (fun r => { r with busy := false }) (v.touch s)

def idleTime (v : Conversation) (s : Store σ) : Duration :=
  ⟨s.clock.nanos - (s.conversation v).lastAccess.nanos⟩

def isExpired (v : Conversation) (s : Store σ) : Bool :=
  (s.conversation v).timeout < v.idleTime s

def isDestroyed (v : Conversation) (s : Store σ) : Bool := !(s.context v.context).active

/-- Whether nobody is going to miss the conversation: it is long-running, not held, and expired. -/
def isAbandoned (v : Conversation) (s : Store σ) : Bool :=
  !(s.conversation v).transient && !(s.conversation v).busy && v.isExpired s

end Conversation

namespace ScopeContext

def conversation? (c : ScopeContext) (id : String) (s : Store σ) : Option Conversation :=
  (s.context c).conversations.get? id

theorem conversation?_congr {s t : Store σ} (h : t.contexts = s.contexts) (c : ScopeContext)
    (id : String) : c.conversation? id t = c.conversation? id s := by
  rw [conversation?, Store.context_congr h, conversation?]

def putConversation (c : ScopeContext) (id : String) (v : Conversation) : Store σ → Store σ :=
  c.update fun r => { r with conversations := r.conversations.insert id v }

def removeConversation (c : ScopeContext) (id : String) (s : Store σ) :
    Option Conversation × Store σ :=
  (c.conversation? id s, c.update (fun r => { r with conversations := r.conversations.erase id }) s)

def addConversation (c : ScopeContext) (v : Conversation) : Act σ Unit := do
  let id := ((← get).conversation v).id
  if (c.conversation? id (← get)).isSome then
    throw (.config s!"conversation id {id} is already in use")
  modify (c.putConversation id v)

/-- The first number from which an id is drawn that is free, if `tries` ids at most are taken. -/
def firstFree (taken : String → Bool) (draw : Nat → String) : (tries : Nat) → Nat → Nat
  | 0, n => n
  | tries + 1, n => if taken (draw n) then firstFree taken draw tries (n + 1) else n

/-- Adds a new transient conversation under the first free id of those drawn from a number on, and
gives the number of the next draw. -/
def addTransient (c : ScopeContext) (draw : Nat → String) (start : Nat) (timeout : Duration)
    (s : Store σ) : (Conversation × Nat) × Store σ :=
  let held := (s.context c).conversations
  let n := firstFree held.contains draw held.size start
  let (v, s) := Conversation.newTransient (draw n) timeout s
  ((v, n + 1), c.putConversation (draw n) v s)

def takeExpired (c : ScopeContext) (s : Store σ) : List Conversation × Store σ :=
  let expired := (s.context c).conversations.rows.filter fun (_, v) => v.isAbandoned s
  (expired.map Prod.snd, expired.foldl (fun s (id, _) =>
    (c.removeConversation id (s.report (.conversationExpired id))).2) s)

end ScopeContext

end ContextualLifecycle
