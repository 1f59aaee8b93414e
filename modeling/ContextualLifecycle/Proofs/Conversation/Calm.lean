import ContextualLifecycle.Proofs.Container.Quiet
import ContextualLifecycle.Proofs.Container.Sustained
import ContextualLifecycle.Proofs.Conversation.Tally

namespace ContextualLifecycle

variable {σ : Type} {s t : Store (Watched library σ)}

theorem Store.Quiet.calm (h : s.Quiet t) : s.Calm t where
  busy := h.busy
  slots := Container.conversationSlot_congr h.scopes
  next := h.nextContext
  listed c id v hv := ⟨c, id, h.listed c id v hv⟩
  seen := congrArg (·.seen) h.surroundings

variable {host : Host (Watched library σ)} {Inv : Store (Watched library σ) → Prop}

/-- Calm steps, and the surroundings, keep an invariant. -/
structure CalmKeeps (host : Host (Watched library σ)) (Inv : Store (Watched library σ) → Prop) :
    Prop where
  calm : ∀ s t, s.Calm t → Inv s → Inv t
  host : host.Keeps True Inv

namespace CalmKeeps

variable (h : CalmKeeps host Inv)

include h

theorem quiet (s t : Store (Watched library σ)) (hquiet : s.Quiet t) : Inv s → Inv t :=
  h.calm s t hquiet.calm

theorem sustains : host.Sustains fun _ => Inv where
  toHandles := h.host.tends.handles h.quiet
  notify _ := h.host.notify
  notified _ _ _ _ _ s := h.calm _ _ (calm_note _ s)
  opened _ kind s := h.quiet _ _ (.newContext kind s)
  switched _ c active s := h.calm _ _ (calm_setActive c active s)
  emptied _ c s := h.quiet _ _ (.takeConversations c s)
  removed _ c id s := h.quiet _ _ (.removeConversation c id s)
  vacated _ m x kind s := h.calm _ _ (calm_scopes m x
    (f := fun r => { r with contexts := r.contexts.erase kind }) (fun _ => rfl) s)
  occupied _ m x kind c s := h.calm _ _ (calm_scopes m x
    (f := fun r => { r with contexts := r.contexts.insert kind c }) (fun _ => rfl) s)
  shared _ m c s := h.calm _ _ (calm_container m (fun r => { r with application := c }) s)

end CalmKeeps

end ContextualLifecycle
