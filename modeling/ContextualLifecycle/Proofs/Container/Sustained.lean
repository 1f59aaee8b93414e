import ContextualLifecycle.Proofs.Container.Stop
import ContextualLifecycle.Proofs.ScopeContext.Handling

namespace ContextualLifecycle

variable {σ : Type}

/-- The steps in which scopes begin and end keep an invariant. -/
structure Host.Cycles (host : Host σ) (Inv : Store σ → Prop) : Prop where
  reported : ∀ content s, Inv s → Inv (s.report content)
  entry : ∀ (c : ScopeContext) id, Act.Keeps True Inv (c.destroyEntry host id)
  notify : ∀ listener phase m kind c, Run.Keeps True Inv (host.notify listener phase m kind c)
  notified : ∀ phase m kind c s, Inv s → Inv (s.note (.notified phase m kind c))
  opened : ∀ kind s, Inv s → Inv (ScopeContext.new kind s).2
  switched : ∀ (c : ScopeContext) active s, Inv s → Inv (c.setActive active s)
  emptied : ∀ (c : ScopeContext) s, Inv s → Inv (c.takeConversations s).2
  removed : ∀ (c : ScopeContext) id s, Inv s → Inv (c.removeConversation id s).2
  vacated : ∀ (m : Container) thread kind s, Inv s → Inv (m.clearSlot thread kind s).2
  occupied : ∀ (m : Container) thread kind c s, Inv s → Inv (m.fillSlot thread kind c s).2
  shared : ∀ (m : Container) c s, Inv s → Inv (m.swapApplication c s).2

namespace Host.Cycles

variable {host : Host σ} {Inv : Store σ → Prop} {m : Container} (h : host.Cycles Inv)

include h

theorem closes : host.Closes True Inv fun _ => True where
  ascending := .inl trivial
  reported := h.reported
  entry c id _ := h.entry c id
  ended l := h.notify l .destroyed
  mourned := h.notified .destroyed
  deactivated c s _ := h.switched c false s
  emptied c s _ hs := ⟨h.emptied c s hs, fun _ _ => trivial⟩

theorem destroyAll (c : ScopeContext) : Act.Keeps True Inv (c.destroyAll host) :=
  h.closes.destroyAll trivial

theorem announce (m : Container) (phase : Phase) (kind : ScopeKind) (c : ScopeContext) :
    Run.Keeps True Inv (m.announce host phase kind c) :=
  Container.announce_keeps (h.notified phase m kind c) h.reported fun l => h.notify l phase m kind c

theorem expired (c : ScopeContext) {s : Store σ} (hs : Inv s) : Inv (c.takeExpired s).2 :=
  c.takeExpired_keeps (fun _ => h.reported _) (h.removed c) hs

theorem destroyExpired : Act.Keeps True Inv (m.destroyExpired host) := by
  intro s hs
  apply Container.wp_destroyExpired (fun _ => hs)
  exact fun session _ => Run.Keeps.collectFailures
    (fun v => h.closes.teardownConversation trivial) _ _ (h.expired session hs)

theorem contextToStart (kind : ScopeKind) (session : Option ScopeContext) {s : Store σ}
    (hs : Inv s) : Inv (Container.contextToStart kind session s).2 := by
  have hnew := h.opened kind s hs
  cases kind with
  | session =>
    cases session with
    | none => exact hnew
    | some c => exact hs
  | _ => exact hnew

theorem startSlot (kind : ScopeKind) (session : Option ScopeContext) :
    Act.Keeps True Inv (m.startSlot host kind session) := by
  intro s hs
  let c := (Container.contextToStart kind session s).1
  have hactive := h.switched c true _ (h.contextToStart kind session hs)
  have hoccupied := h.occupied m host.thread kind c _ hactive
  have hannounce := h.announce m .initialized kind c
  apply Container.wp_startSlot rfl
  · intro p _ _
    apply (h.closes.retire kind trivial _ hoccupied).mono
    exact fun _ t ht => ⟨ht, hannounce t ht⟩
  · exact fun _ => hannounce _ hoccupied

theorem startApplication : Act.Keeps True Inv (m.startApplication host) := by
  intro s hs
  have hactive := h.switched (ScopeContext.new .application s).1 true _ (h.opened .application s hs)
  exact Container.wp_startApplication (fun _ => h.announce m _ _ _ _ (h.shared m _ _ hactive))
    fun _ => hs

end Host.Cycles

/-- The steps in which scopes end keep a family of invariants, one for each list of instances in
hand, as long as only contexts are torn down that may be. -/
structure Host.Buries (host : Host σ) (Inv : List Bag → Store σ → Prop)
    (May : ScopeContext → Prop) : Prop extends host.Handles Inv where
  ended : ∀ hand listener m kind c,
    Run.Keeps True (Inv hand) (host.notify listener .destroyed m kind c)
  mourned : ∀ hand m kind c s, Inv hand s → Inv hand (s.note (.notified .destroyed m kind c))
  deactivated : ∀ hand (c : ScopeContext) s, May c → Inv hand s → Inv hand (c.setActive false s)
  emptied : ∀ hand (c : ScopeContext) s, May c → Inv hand s →
    Inv hand (c.takeConversations s).2 ∧ ∀ v ∈ (c.takeConversations s).1, May v.context

theorem Host.Buries.closes {host : Host σ} {Inv : List Bag → Store σ → Prop}
    {May : ScopeContext → Prop} (h : host.Buries Inv May) (hand : List Bag) :
    host.Closes True (Inv hand) May where
  ascending := .inl trivial
  reported content _ := h.toHandles.reported content
  entry c id _ := h.toHandles.destroyEntry hand c id
  ended := h.ended hand
  mourned := h.mourned hand
  deactivated := h.deactivated hand
  emptied := h.emptied hand

/-- The steps in which scopes begin and end keep a family of invariants, one for each list of
instances in hand. -/
structure Host.Sustains (host : Host σ) (Inv : List Bag → Store σ → Prop) : Prop extends
    host.Handles Inv where
  notify : ∀ hand listener phase m kind c,
    Run.Keeps True (Inv hand) (host.notify listener phase m kind c)
  notified : ∀ hand phase m kind c s, Inv hand s → Inv hand (s.note (.notified phase m kind c))
  opened : ∀ hand kind s, Inv hand s → Inv hand (ScopeContext.new kind s).2
  switched : ∀ hand (c : ScopeContext) active s, Inv hand s → Inv hand (c.setActive active s)
  emptied : ∀ hand (c : ScopeContext) s, Inv hand s → Inv hand (c.takeConversations s).2
  removed : ∀ hand (c : ScopeContext) id s, Inv hand s → Inv hand (c.removeConversation id s).2
  vacated : ∀ hand (m : Container) thread kind s, Inv hand s →
    Inv hand (m.clearSlot thread kind s).2
  occupied : ∀ hand (m : Container) thread kind c s, Inv hand s →
    Inv hand (m.fillSlot thread kind c s).2
  shared : ∀ hand (m : Container) c s, Inv hand s → Inv hand (m.swapApplication c s).2

theorem Host.Sustains.cycles {host : Host σ} {Inv : List Bag → Store σ → Prop}
    (h : host.Sustains Inv) (hand : List Bag) : host.Cycles (Inv hand) where
  reported content _ := h.toHandles.reported content
  entry := h.toHandles.destroyEntry hand
  notify := h.notify hand
  notified := h.notified hand
  opened := h.opened hand
  switched := h.switched hand
  emptied := h.emptied hand
  removed := h.removed hand
  vacated := h.vacated hand
  occupied := h.occupied hand
  shared := h.shared hand

end ContextualLifecycle
