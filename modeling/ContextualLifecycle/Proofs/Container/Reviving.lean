import ContextualLifecycle.Proofs.ScopeContext.Handling

namespace ContextualLifecycle

variable {σ : Type}

/-- The transient conversation around a restored context becomes a long-running one. -/
def ScopeContext.converse (c : ScopeContext) (id : String) (timeout : Duration) (s : Store σ) :
    Store σ :=
  Conversation.promote ⟨c⟩ (Conversation.around c id timeout (c.setActive true s)).2

theorem ScopeContext.conversation_converse (c : ScopeContext) (id : String) (timeout : Duration)
    (s : Store σ) (v : Conversation) : (c.converse id timeout s).conversation v =
      if v = ⟨c⟩ then { id, transient := false, timeout, lastAccess := s.clock }
      else s.conversation v := by
  simp only [converse, Conversation.promote, Conversation.update, Conversation.around,
    Store.setConversation, Store.conversation, Table.get?_insert]
  split <;> rfl

/-- A restored context becomes a conversation of another one, if its id is not taken there. -/
theorem ScopeContext.wp_converse {stuck : Prop} (session c : ScopeContext) (id : String)
    (timeout : Duration) {Q : Except LifecycleError Unit → Store σ → Prop} {s : Store σ}
    (htaken : (session.conversation? id (c.converse id timeout s)).isSome = true →
      ∀ message, Q (.error (.config message)) (c.converse id timeout s))
    (hfree : session.conversation? id (c.converse id timeout s) = none →
      Q (.ok ()) (session.putConversation id ⟨c⟩ (c.converse id timeout s))) :
    Act.wp stuck (do
      modify (c.setActive true)
      let v ← modifyGet (Conversation.around c id timeout)
      modify v.promote
      session.addConversation v) Q s := by
  have hid : ((c.converse id timeout s).conversation ⟨c⟩).id = id := by
    rw [conversation_converse, if_pos rfl]
  change Act.wp stuck (session.addConversation ⟨c⟩) Q (c.converse id timeout s)
  simp only [addConversation, Act.wp_bind, Act.wp_get, hid]
  split
  · rename_i h
    exact htaken h _
  · rename_i h
    exact hfree (by simpa using h)

/-- The steps in which contexts are restored keep a family of invariants, one for each list of
contexts that are being restored. -/
structure Host.Rebuilds (host : Host σ) (Inv : List ScopeContext → Store σ → Prop) : Prop where
  entry : ∀ (c : ScopeContext) restoring (m : Container) entry,
    Act.Keeps True (Inv (c :: restoring)) (m.restoreEntry host c entry)
  begun : ∀ restoring kind s, Inv restoring s →
    Inv ((ScopeContext.new kind s).1 :: restoring) (ScopeContext.new kind s).2
  done : ∀ c restoring s, Inv (c :: restoring) s → Inv restoring s
  converse : ∀ c restoring id timeout s, Inv (c :: restoring) s →
    Inv restoring (c.converse id timeout s)
  listed : ∀ c restoring id timeout (session : ScopeContext) s, Inv (c :: restoring) s →
    session.conversation? id (c.converse id timeout s) = none →
    Inv restoring (session.putConversation id ⟨c⟩ (c.converse id timeout s))

namespace Host.Rebuilds

variable {host : Host σ} {Inv : List ScopeContext → Store σ → Prop}

def Revived (Inv : List ScopeContext → Store σ → Prop) (restoring : List ScopeContext) :
    Except LifecycleError ScopeContext → Store σ → Prop
  | .ok c, t => Inv (c :: restoring) t
  | .error _, t => Inv restoring t

mutual

theorem restoreContext (h : host.Rebuilds Inv) (m : Container) :
    (snapshot : ContextSnapshot) → ∀ restoring s, Inv restoring s →
      Act.wp True (m.restoreContext host snapshot) (Revived Inv restoring) s
  | ⟨kind, entries, conversations⟩ => by
    intro restoring s hs
    simp only [Container.restoreContext, Act.wp_bind, Act.wp_modifyGet, Act.wp_pure]
    let c := (ScopeContext.new kind s).1
    have hbegun := h.begun restoring kind s hs
    apply (Act.Keeps.forM (h.entry c restoring m) entries _ hbegun).mono
    intro r t ht
    cases r with
    | error error => exact h.done c restoring t ht
    | ok _ =>
      apply (restoreConversations h m c conversations (c :: restoring) t ht).mono
      intro r u hu
      cases r with
      | error error => exact h.done c restoring u hu
      | ok _ => exact hu

theorem restoreConversations (h : host.Rebuilds Inv) (m : Container) (c : ScopeContext) :
    (vs : List ConversationSnapshot) → ∀ restoring,
      Act.Keeps True (Inv restoring) (m.restoreConversations host c vs)
  | [] => by
    intro restoring s hs
    simp only [Container.restoreConversations, Act.wp_pure]
    exact hs
  | v :: vs => by
    intro restoring s hs
    simp only [Container.restoreConversations, Act.wp_bind]
    apply (restoreConversation h m c v restoring s hs).mono
    intro r t ht
    cases r with
    | error error => exact ht
    | ok _ => exact restoreConversations h m c vs restoring t ht

theorem restoreConversation (h : host.Rebuilds Inv) (m : Container) (c : ScopeContext) :
    (v : ConversationSnapshot) → ∀ restoring,
      Act.Keeps True (Inv restoring) (m.restoreConversation host c v)
  | ⟨id, timeoutMs, context⟩ => by
    intro restoring s hs
    simp only [Container.restoreConversation, Act.wp_bind, Act.wp_modify, Act.wp_modifyGet]
    apply (restoreContext h m context restoring s hs).mono
    intro r t ht
    cases r with
    | error error => exact ht
    | ok nested =>
      have hmade := h.converse nested restoring id (.ofMillis timeoutMs.toNat) t ht
      have hadded : Act.wp True (do
          modify (nested.setActive true)
          let v ← modifyGet (Conversation.around nested id (.ofMillis timeoutMs.toNat))
          modify v.promote
          c.addConversation v) (fun _ u => Inv restoring u) t := by
        apply ScopeContext.wp_converse
        · exact fun _ _ => hmade
        · exact h.listed nested restoring id _ c t ht
      simpa only [Act.wp_bind, Act.wp_modify, Act.wp_modifyGet] using hadded

end

theorem restoreContext_keeps (h : host.Rebuilds Inv) (m : Container) (snapshot : ContextSnapshot)
    (restoring : List ScopeContext) :
    Act.Keeps True (Inv restoring) (m.restoreContext host snapshot) := by
  intro s hs
  apply (h.restoreContext m snapshot restoring s hs).mono
  intro r t ht
  cases r with
  | error error => exact ht
  | ok c => exact h.done c restoring t ht

end Host.Rebuilds

/-- The same where instances are handled, with a family for each list of instances in hand. -/
structure Host.Revives (host : Host σ) (Inv : List ScopeContext → List Bag → Store σ → Prop) :
    Prop where
  handles : ∀ restoring, host.Handles (Inv restoring)
  begun : ∀ restoring hand kind s, Inv restoring hand s →
    Inv ((ScopeContext.new kind s).1 :: restoring) hand (ScopeContext.new kind s).2
  done : ∀ c restoring hand s, Inv (c :: restoring) hand s → Inv restoring hand s
  converse : ∀ c restoring hand id timeout s, Inv (c :: restoring) hand s →
    Inv restoring hand (c.converse id timeout s)
  listed : ∀ c restoring hand id timeout (session : ScopeContext) s, Inv (c :: restoring) hand s →
    session.conversation? id (c.converse id timeout s) = none →
    Inv restoring hand (session.putConversation id ⟨c⟩ (c.converse id timeout s))

theorem Host.Revives.rebuilds {host : Host σ}
    {Inv : List ScopeContext → List Bag → Store σ → Prop} (h : host.Revives Inv)
    (hand : List Bag) : host.Rebuilds fun restoring => Inv restoring hand where
  entry c restoring m := (h.handles (c :: restoring)).restoreEntry hand m c
  begun restoring := h.begun restoring hand
  done c restoring := h.done c restoring hand
  converse c restoring := h.converse c restoring hand
  listed c restoring := h.listed c restoring hand

end ContextualLifecycle
