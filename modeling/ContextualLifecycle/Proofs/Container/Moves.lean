import ContextualLifecycle.Proofs.Container.Reviving
import ContextualLifecycle.Proofs.Container.Quiet

namespace ContextualLifecycle

variable {σ : Type}

def Call.container? : Call → Option Container
  | .register m .. | .newEpisode m _ | .wrap m .. | .restoreContext m _ | .start m .. | .current m _
  | .stop m _ | .detach m _ | .destroyExpired m | .restoreSession m _ | .shutdown m => some m
  | _ => none

def Call.ends (m : Container) (kind : ScopeKind) : Call → Prop
  | .stop m' kind' => m' = m ∧ kind' = kind
  | .shutdown m' => m' = m
  | _ => False

/-- Observers may hear from the request that a scope has a new context. -/
def Call.begins (m : Container) (kind : ScopeKind) : Call → Prop
  | .start m' kind' _ => m' = m ∧ kind' = kind
  | .current m' .conversation => m' = m ∧ kind = .conversation
  | .restoreSession m' _ => m' = m ∧ kind = .session
  | _ => False

/-- The request ends the conversation scope of the thread or starts it again, and leaves this in
the slot. -/
def Call.finishes (m : Container) (slot : ConversationSlot) : Call → Prop
  | .start m' .conversation params => m' = m ∧ slot = .pending params.conversationId
  | .stop m' .conversation | .shutdown m' => m' = m ∧ slot = .notStarted
  | _ => False

/-- The request has the thread let go of its conversation, and leaves this in the slot. -/
def Call.leaves (m : Container) (slot : ConversationSlot) (call : Call) : Prop :=
  call.finishes m slot ∨ call = .detach m .conversation ∧ slot = .notStarted

section Leaving

variable {call : Call} {m : Container} {slot : ConversationSlot} {v : Conversation}
  {session : ScopeContext}

theorem Call.finishes.ne_active (h : call.finishes m slot) : slot ≠ .active v session := by
  unfold Call.finishes at h
  split at h <;> first | exact h.elim | rw [h.2]; exact fun heq => nomatch heq

theorem Call.leaves.ne_active (h : call.leaves m slot) : slot ≠ .active v session := by
  rcases h with hfinishes | ⟨_, rfl⟩
  · exact hfinishes.ne_active
  · exact fun heq => nomatch heq

end Leaving

def Call.asksOf? : Call → Option ScopeContext
  | .getOrCreate c .. | .destroy c _ | .destroyExisting c _ => some c
  | _ => none

def Call.marks? : Call → Option Conversation
  | .promote v | .demote v | .setTimeout v _ | .touch v => some v
  | _ => none

def Call.snapshot? : Call → Option ContextSnapshot
  | .restoreContext _ snapshot | .restoreSession _ snapshot => some snapshot
  | _ => none

mutual

/-- The kinds of the contexts that a snapshot keeps as conversations, at any depth. -/
def ContextSnapshot.nestedKinds : ContextSnapshot → List ScopeKind
  | ⟨_, _, conversations⟩ => ContextSnapshot.kindsIn conversations

def ContextSnapshot.kindsIn : List ConversationSnapshot → List ScopeKind
  | [] => []
  | v :: vs => ConversationSnapshot.kinds v ++ ContextSnapshot.kindsIn vs

def ConversationSnapshot.kinds : ConversationSnapshot → List ScopeKind
  | ⟨_, _, context⟩ => context.kind :: context.nestedKinds

end

def Call.nests (kind : ScopeKind) (call : Call) : Prop :=
  ∃ snapshot, call.snapshot? = some snapshot ∧ kind ∈ snapshot.nestedKinds

/-- What a request in progress has in hand. -/
structure Hand where
  /-- Contexts that it is going to tear down, the next one first. -/
  doomed : List ScopeContext := []
  /-- Contexts that it is tearing down, the innermost first. -/
  falling : List ScopeContext := []
  /-- Conversations that it has begun for the slot of the thread, with their sessions. -/
  begun : List (Conversation × ScopeContext) := []
  /-- Contexts that it is restoring, and their kinds, the innermost first. -/
  restoring : List (ScopeContext × ScopeKind) := []

namespace Hand

def doom (γ : Hand) (contexts : List ScopeContext) : Hand :=
  { γ with doomed := contexts ++ γ.doomed }

def restore (γ : Hand) (c : ScopeContext) (kind : ScopeKind) : Hand :=
  { γ with restoring := (c, kind) :: γ.restoring }

def Enters (γ : Hand) (request : Request) (c : ScopeContext) : Prop :=
  request.call.asksOf? = some c ∨ c ∈ γ.falling ∨ c ∈ γ.restoring.map Prod.fst

end Hand

/-- Of a context, only entries change. -/
structure ScopeContext.Record.Within (r r' : ScopeContext.Record) : Prop where
  kind : r'.kind = r.kind
  active : r'.active = r.active
  conversations : r'.conversations = r.conversations

/-- Neither contexts nor conversations nor scopes change. -/
structure Store.Aside (s t : Store σ) : Prop where
  contexts : t.contexts = s.contexts
  conversations : t.conversations = s.conversations
  scopes : t.scopes = s.scopes
  nextContext : t.nextContext = s.nextContext
  application : ∀ m : Container, m.application t = m.application s
  notices : t.notices = s.notices
  surroundings : t.surroundings = s.surroundings

namespace Container

/-- The context of a scope that is started again, if it is going to be torn down. -/
def replaced (m : Container) (thread : Thread) (kind : ScopeKind) (c : ScopeContext)
    (s : Store σ) : List ScopeContext :=
  match (s.container m).config.restartPolicy with
  | .abandon => []
  | .destroyPrevious => (m.slot thread kind s).toList.filter (· ≠ c)

section Scopes

variable (m m' : Container) (thread thread' : Thread) (kind kind' : ScopeKind)

theorem slot_place (opened : ScopeContext × Store σ) :
    m'.slot thread' kind' (m.place thread kind opened) =
      if (m', thread') = (m, thread) ∧ kind' = kind then some opened.1
      else m'.slot thread' kind' opened.2 := by
  rw [place, fillSlot, slot, threadScopes_update]
  by_cases hdesk : (m', thread') = (m, thread)
  · cases hdesk
    rw [if_pos rfl, Table.get?_insert]
    simp only [true_and]
    rfl
  · rw [if_neg hdesk, if_neg fun h => hdesk h.1]
    rfl

theorem conversationSlot_place (opened : ScopeContext × Store σ) :
    m'.conversationSlot thread' (m.place thread kind opened) =
      m'.conversationSlot thread' opened.2 := by
  rw [place, fillSlot, conversationSlot, threadScopes_update]
  split
  · rename_i hdesk
    cases hdesk
    rfl
  · rfl

theorem slot_clear (s : Store σ) : m'.slot thread' kind' (m.clearSlot thread kind s).2 =
    if (m', thread') = (m, thread) ∧ kind' = kind then none else m'.slot thread' kind' s := by
  rw [clearSlot, slot, threadScopes_update]
  by_cases hdesk : (m', thread') = (m, thread)
  · cases hdesk
    rw [if_pos rfl, Table.get?_erase]
    simp only [true_and]
    rfl
  · rw [if_neg hdesk, if_neg fun h => hdesk h.1]
    rfl

theorem conversationSlot_clear (s : Store σ) :
    m'.conversationSlot thread' (m.clearSlot thread kind s).2 = m'.conversationSlot thread' s := by
  rw [clearSlot, conversationSlot, threadScopes_update]
  split
  · rename_i hdesk
    cases hdesk
    rfl
  · rfl

theorem slot_forget (s : Store σ) : m'.slot thread' kind (m.forgetScopes thread s) =
    if (m', thread') = (m, thread) then none else m'.slot thread' kind s := by
  rw [slot, threadScopes_forget]
  split <;> rfl

theorem conversationSlot_forget (s : Store σ) :
    m'.conversationSlot thread' (m.forgetScopes thread s) =
      if (m', thread') = (m, thread) then .notStarted else m'.conversationSlot thread' s := by
  rw [conversationSlot, threadScopes_forget]
  split <;> rfl

end Scopes

end Container

namespace ScopeContext

theorem context_new_eq (kind : ScopeKind) (x : ScopeContext) (s : Store σ) :
    (new kind s).2.context x = if x = ⟨s.nextContext⟩ then { kind } else s.context x := by
  simp only [new, Store.context, Store.setContext, Table.get?_insert]
  split <;> rfl

end ScopeContext

theorem Conversation.conversation_tryAcquire (v w : Conversation) (s : Store σ)
    (hfree : (s.conversation v).busy = false) :
    (v.tryAcquire s).2.conversation w = if w = v then
      { s.conversation v with busy := true, lastAccess := s.clock } else s.conversation w := by
  simp only [tryAcquire, hfree, Bool.false_eq_true, ↓reduceIte, touch, conversation_update]
  split <;> rfl

/-- The moves of a request. Whether a session may be attached again is up to its callers. -/
inductive Move (fair : Container → Thread → ScopeContext → Store Unit → Prop) (request : Request) :
    Hand → Store σ → Hand → Store σ → Prop where
  | aside {γ s t} (h : s.Aside t) : Move fair request γ s γ t
  | founded {γ s config observers proxying}
      (h : request.call = .newContainer config observers proxying) :
      Move fair request γ s γ (Container.new config observers proxying s).2
  | noted {γ s phase} {m : Container} {kind c}
      (h : request.call.container? = some m ∧ phase = .destroyed ∨ request.call.begins m kind) :
      Move fair request γ s γ (s.note (.notified phase m kind c))
  /-- Entries of a context come and go. -/
  | entered {γ s} {c : ScopeContext} {f} (hc : γ.Enters request c)
      (hf : ∀ r, ScopeContext.Record.Within r (f r)) : Move fair request γ s γ (c.update f s)
  | opened {γ s kind} (h : request.call = .newContext kind) :
      Move fair request γ s γ (ScopeContext.new kind s).2
  | switched {γ s} {c : ScopeContext} {active} (h : request.call = .setActive c active) :
      Move fair request γ s γ (c.setActive active s)
  | marked {γ s} {v : Conversation} {f} (h : request.call.marks? = some v)
      (hid : ∀ r, (f r).id = r.id) (hbusy : ∀ r, (f r).busy = r.busy)
      (hlasting : request.call ≠ .demote v → ∀ r, r.transient = false → (f r).transient = false) :
      Move fair request γ s γ (v.update f s)
  | removed {γ s} {c : ScopeContext} {id} (h : request.call = .removeConversation c id) :
      Move fair request γ s γ (c.removeConversation id s).2
  -- Contexts are torn down.
  | doomed {γ : Hand} {s c} (h : request.call = .destroyAll c) :
      Move fair request γ s (γ.doom [c]) s
  | deactivated {γ : Hand} {s} {c : ScopeContext} :
      Move fair request (γ.doom [c]) s { γ with falling := c :: γ.falling } (c.setActive false s)
  | emptied {γ : Hand} {s} {c : ScopeContext} (h : c ∈ γ.doomed ∨ c ∈ γ.falling) :
      Move fair request γ s (γ.doom ((c.takeConversations s).1.map (·.context)))
        (c.takeConversations s).2
  | fallen {γ : Hand} {s c} : Move fair request { γ with falling := c :: γ.falling } s γ s
  /-- A conversation that was torn down before is left alone. -/
  | spared {γ : Hand} {s} {c : ScopeContext} (h : (s.context c).active = false) :
      Move fair request (γ.doom [c]) s γ s
  -- Threads enter scopes and leave them.
  | started {γ : Hand} {s} {m : Container} {kind params} (h : request.call = .start m kind params)
      (hkind : kind ≠ .application ∧ kind ≠ .conversation)
      (hsession : kind = .session → params.session = none) :
      Move fair request γ s
        (γ.doom (m.replaced request.thread kind (ScopeContext.new kind s).1 s))
        (m.place request.thread kind (ScopeContext.new kind s))
  | reattached {s} {m : Container} {params c} (h : request.call = .start m .session params)
      (hsession : params.session = some c) (hfair : fair m request.thread c s.bare) :
      Move fair request {} s (({} : Hand).doom (m.replaced request.thread .session c s))
        (m.place request.thread .session (c, s))
  | installed {γ : Hand} {s} {m : Container} {snapshot c}
      (h : request.call = .restoreSession m snapshot) :
      Move fair request (γ.restore c .session) s
        (γ.doom (m.replaced request.thread .session c s))
        (m.place request.thread .session (c, s))
  | shared {γ s} {m : Container} {params} (h : request.call = .start m .application params)
      (hnone : m.application s = none) :
      Move fair request γ s γ (m.swapApplication (some (ScopeContext.newActive .application s).1)
        (ScopeContext.newActive .application s).2).2
  | vacated {γ : Hand} {s} {m : Container} {kind} (h : request.call.ends m kind) :
      Move fair request γ s (γ.doom (m.slot request.thread kind s).toList)
        (m.clearSlot request.thread kind s).2
  | unshared {γ : Hand} {s} {m : Container} (h : request.call.ends m .application) :
      Move fair request γ s (γ.doom (m.application s).toList) (m.swapApplication none s).2
  | detached {γ s} {m : Container} {kind} (h : request.call = .detach m kind) :
      Move fair request γ s γ (m.clearSlot request.thread kind s).2
  | forgotten {γ s} {m : Container} (h : request.call = .shutdown m) :
      Move fair request γ s γ (m.forgetScopes request.thread s)
  -- Threads take conversations and let go of them.
  | turned {γ s} {m : Container} {slot} (h : request.call.leaves m slot)
      (hfree : ∀ v session, m.conversationSlot request.thread s ≠ .active v session) :
      Move fair request γ s γ (m.swapConversation request.thread slot s).2
  | released {γ s} {m : Container} {slot v session} (h : request.call.leaves m slot)
      (hheld : m.conversationSlot request.thread s = .active v session) :
      Move fair request γ s γ (v.release (m.swapConversation request.thread slot s).2)
  | finished {γ : Hand} {s} {m : Container} {slot v session} (h : request.call.finishes m slot)
      (hheld : m.conversationSlot request.thread s = .active v session)
      (htransient : (s.conversation v).transient = true) :
      Move fair request γ s (γ.doom [v.context])
        (session.removeConversation (s.conversation v).id
          (v.release (m.swapConversation request.thread slot s).2)).2
  | expired {γ : Hand} {s} {m : Container} {session} (h : request.call = .destroyExpired m)
      (hsession : m.slot request.thread .session s = some session) :
      Move fair request γ s (γ.doom ((session.takeExpired s).1.map (·.context)))
        (session.takeExpired s).2
  | begun {γ : Hand} {s} {m : Container} {session propagatedId}
      (h : request.call = .current m .conversation)
      (hsession : m.slot request.thread .session s = some session)
      (hpending : m.conversationSlot request.thread s = .pending propagatedId) :
      Move fair request γ s { γ with begun := ((m.beginning session s).1, session) :: γ.begun }
        (m.beginning session s).2
  | seated {γ : Hand} {s} {m : Container} {v session}
      (h : request.call = .current m .conversation) :
      Move fair request { γ with begun := (v, session) :: γ.begun } s γ
        (m.swapConversation request.thread (.active v session) s).2
  | resumed {γ s} {m : Container} {session} {v : Conversation} {id}
      (h : request.call = .current m .conversation)
      (hsession : m.slot request.thread .session s = some session)
      (hpending : m.conversationSlot request.thread s = .pending (some id))
      (hlisted : session.conversation? id s = some v)
      (hlasting : (s.conversation v).transient = false) (hfree : (s.conversation v).busy = false) :
      Move fair request γ s γ
        (m.swapConversation request.thread (.active v session) (v.tryAcquire s).2).2
  -- Contexts are restored.
  | reviving {γ : Hand} {s kind} (h : request.call.snapshot?.isSome = true) :
      Move fair request γ s (γ.restore (ScopeContext.new kind s).1 kind)
        (ScopeContext.new kind s).2
  | revived {γ : Hand} {s c kind} : Move fair request (γ.restore c kind) s γ s
  | conversed {γ : Hand} {s} {c : ScopeContext} {kind id timeout} (h : request.call.nests kind) :
      Move fair request (γ.restore c kind) s γ (c.converse id timeout s)
  | listed {γ : Hand} {s} {c session : ScopeContext} {kind id timeout}
      (h : request.call.nests kind) (hsession : session ∈ γ.restoring.map Prod.fst)
      (hnone : session.conversation? id s = none) :
      Move fair request (γ.restore c kind) s γ
        (session.putConversation id ⟨c⟩ (c.converse id timeout s))

end ContextualLifecycle
