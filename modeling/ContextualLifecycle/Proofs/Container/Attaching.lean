import ContextualLifecycle.Proofs.Container.Paths
import ContextualLifecycle.Proofs.Conversation.Handover

namespace ContextualLifecycle

variable {σ : Type} {fair : Container → Thread → ScopeContext → Store Unit → Prop}
  {request : Request} {γ γ' : Hand} {s s' : Store (Watched library σ)} {m : Container}
  {thread : Thread} {kind : ScopeKind} {c session : ScopeContext} {v : Conversation}

theorem Move.next (h : Move fair request γ s γ' s') : s.nextContext ≤ s'.nextContext := by
  cases h with
  | aside h => exact Nat.le_of_eq h.nextContext.symm
  | opened | started | shared | reviving => exact Nat.le_succ _
  | expired => exact (Store.Quiet.takeExpired _ s).nextContext
  | begun =>
    rw [Container.beginning, Conversation.tryAcquire]
    split <;> exact Nat.le_succ _
  | resumed =>
    rw [Conversation.tryAcquire]
    split <;> exact Nat.le_refl _
  | _ => exact Nat.le_refl _

theorem Steps.next {rule : Rule} {a b : Situation σ} (h : Steps rule fair a b) :
    a.store.nextContext ≤ b.store.nextContext := by
  refine h.keeps (P := fun b => a.store.nextContext ≤ b.store.nextContext)
    (fun c d hstep hc => Nat.le_trans hc ?_) (Nat.le_refl _)
  cases hstep with
  | moved hmove => exact hmove.next
  | asked | answered | noticed | kept => exact Nat.le_refl _

/-- How a context gets into the slot of a scope. -/
inductive Move.Attaches (fair : Container → Thread → ScopeContext → Store Unit → Prop)
    (request : Request) (γ γ' : Hand) (s s' : Store (Watched library σ)) (m : Container) :
    ScopeKind → ScopeContext → Prop
  | started {kind params} (h : request.call = .start m kind params)
      (hkind : kind ≠ .application ∧ kind ≠ .conversation)
      (hsession : kind = .session → params.session = none)
      (hplaced : s' = m.place request.thread kind (ScopeContext.new kind s)) :
      Attaches fair request γ γ' s s' m kind (ScopeContext.new kind s).1
  | reattached {params c} (h : request.call = .start m .session params)
      (hsession : params.session = some c) (hfair : fair m request.thread c s.bare)
      (hhand : γ = {}) (hplaced : s' = m.place request.thread .session (c, s)) :
      Attaches fair request γ γ' s s' m .session c
  | installed {snapshot c} (h : request.call = .restoreSession m snapshot)
      (hcontext : γ.restoring = (c, .session) :: γ'.restoring)
      (hplaced : s' = m.place request.thread .session (c, s)) :
      Attaches fair request γ γ' s s' m .session c

/-- Where the slot of a scope has a context, it had that before, or gets it in the move. -/
theorem Move.slot_or (h : Move fair request γ s γ' s') (hc : m.slot thread kind s' = some c) :
    m.slot thread kind s = some c ∨
      thread = request.thread ∧ Move.Attaches fair request γ γ' s s' m kind c := by
  cases h with
  | aside h =>
    rw [Container.slot_congr h.scopes] at hc
    exact .inl hc
  | started hcall hkind hsession =>
    rw [Container.slot_place] at hc
    split at hc
    · rename_i hplace
      obtain ⟨hdesk, rfl⟩ := hplace
      cases hdesk
      cases hc
      exact .inr ⟨rfl, .started hcall hkind hsession rfl⟩
    · exact .inl hc
  | reattached hcall hsession hfair =>
    rw [Container.slot_place] at hc
    split at hc
    · rename_i hplace
      obtain ⟨hdesk, rfl⟩ := hplace
      cases hdesk
      cases hc
      exact .inr ⟨rfl, .reattached hcall hsession hfair rfl rfl⟩
    · exact .inl hc
  | installed hcall =>
    rw [Container.slot_place] at hc
    split at hc
    · rename_i hplace
      obtain ⟨hdesk, rfl⟩ := hplace
      cases hdesk
      cases hc
      exact .inr ⟨rfl, .installed hcall rfl rfl⟩
    · exact .inl hc
  | vacated | detached =>
    rw [Container.slot_clear] at hc
    split at hc
    · cases hc
    · exact .inl hc
  | forgotten =>
    rw [Container.slot_forget] at hc
    split at hc
    · cases hc
    · exact .inl hc
  | turned | seated =>
    rw [Conversation.slot_swapConversation] at hc
    exact .inl hc
  | released | finished =>
    left
    rwa [← Conversation.slot_swapConversation]
  | expired =>
    rw [Container.slot_congr (Store.Quiet.takeExpired _ s).scopes] at hc
    exact .inl hc
  | begun =>
    rw [Container.beginning, Conversation.tryAcquire] at hc
    split at hc <;> exact .inl hc
  | resumed =>
    rw [Conversation.slot_swapConversation, Conversation.tryAcquire] at hc
    split at hc <;> exact .inl hc
  | _ => exact .inl hc

/-- How a conversation gets into the slot of the thread. -/
inductive Move.Seats (request : Request) (γ γ' : Hand) (s s' : Store (Watched library σ))
    (m : Container) (v : Conversation) (session : ScopeContext) : Prop
  | begun (h : request.call = .current m .conversation)
      (hbegun : γ.begun = (v, session) :: γ'.begun)
      (hseated : s' = (m.swapConversation request.thread (.active v session) s).2)
  | resumed {id} (h : request.call = .current m .conversation)
      (hsession : m.slot request.thread .session s = some session)
      (hlisted : session.conversation? id s = some v)
      (hlasting : (s.conversation v).transient = false) (hfree : (s.conversation v).busy = false)
      (hseated : s' =
        (m.swapConversation request.thread (.active v session) (v.tryAcquire s).2).2)

/-- Where the slot has a conversation, it had that before, or gets it in the move. -/
theorem Move.held_or (h : Move fair request γ s γ' s')
    (hv : m.conversationSlot thread s' = .active v session) :
    m.conversationSlot thread s = .active v session ∨
      thread = request.thread ∧ Move.Seats request γ γ' s s' m v session := by
  have hswapped : ∀ {m' : Container} {slot} {u : Store (Watched library σ)},
      slot ≠ .active v session →
      m.conversationSlot thread (m'.swapConversation request.thread slot u).2 =
        .active v session → m.conversationSlot thread u = .active v session := by
    intro m' slot u hslot hv
    rw [conversationSlot_swap] at hv
    split at hv
    · exact absurd hv hslot
    · exact hv
  cases h with
  | aside h =>
    rw [Container.conversationSlot_congr h.scopes] at hv
    exact .inl hv
  | started | reattached | installed =>
    rw [Container.conversationSlot_place] at hv
    exact .inl hv
  | vacated | detached =>
    rw [Container.conversationSlot_clear] at hv
    exact .inl hv
  | forgotten =>
    rw [Container.conversationSlot_forget] at hv
    split at hv
    · cases hv
    · exact .inl hv
  | turned hslot => exact .inl (hswapped hslot.ne_active hv)
  | released hslot => exact .inl (hswapped hslot.ne_active hv)
  | finished hslot => exact .inl (hswapped hslot.ne_active hv)
  | expired =>
    rw [Container.conversationSlot_congr (Store.Quiet.takeExpired _ s).scopes] at hv
    exact .inl hv
  | begun =>
    rw [Container.beginning, Conversation.tryAcquire] at hv
    split at hv <;> exact .inl hv
  | seated hcall =>
    rw [conversationSlot_swap] at hv
    split at hv
    · rename_i hdesk
      cases hdesk
      cases hv
      exact .inr ⟨rfl, .begun hcall rfl rfl⟩
    · exact .inl hv
  | resumed hcall hsession hpending hlisted hlasting hfree =>
    rw [conversationSlot_swap] at hv
    split at hv
    · rename_i hdesk
      cases hdesk
      cases hv
      exact .inr ⟨rfl, .resumed hcall hsession hlisted hlasting hfree rfl⟩
    · left
      rw [Conversation.tryAcquire] at hv
      split at hv <;> exact hv
  | _ => exact .inl hv

end ContextualLifecycle
