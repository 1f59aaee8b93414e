import ContextualLifecycle.Proofs.Container.Reviving
import ContextualLifecycle.Proofs.Container.Sustained
import ContextualLifecycle.Proofs.Library

namespace ContextualLifecycle

variable {σ : Type}

/-- The steps of requests to scopes keep an invariant. -/
structure Host.Attends (host : Host σ) (Inv : Store σ → Prop) : Prop extends host.Cycles Inv where
  added : ∀ (session : ScopeContext) draw start timeout s, Inv s →
    Inv (session.addTransient draw start timeout s).2
  conversed : ∀ (v : Conversation) f s, (∀ r, (f r).id = r.id) → Inv s → Inv (v.update f s)
  container : ∀ m r s, Inv s → Inv (s.setContainer m r)
  rescoped : ∀ (m : Container) thread f s, Inv s → Inv (m.updateScopes thread f s)
  forgotten : ∀ (m : Container) thread s, Inv s → Inv (m.forgetScopes thread s)

namespace Host.Attends

variable {host : Host σ} {Inv : Store σ → Prop} {m : Container} (h : host.Attends Inv)

include h

theorem acquired (v : Conversation) {s : Store σ} (hs : Inv s) : Inv (v.tryAcquire s).2 := by
  rw [Conversation.tryAcquire]
  split
  · exact hs
  · have hbusy := h.conversed v (fun r => { r with busy := true }) s (fun _ => rfl) hs
    exact h.conversed v (fun r => { r with lastAccess := s.clock }) _ (fun _ => rfl) hbusy

theorem released (v : Conversation) {s : Store σ} (hs : Inv s) : Inv (v.release s) := by
  have htouched := h.conversed v (fun r => { r with lastAccess := s.clock }) s (fun _ => rfl) hs
  exact h.conversed v (fun r => { r with busy := false }) _ (fun _ => rfl) htouched

theorem swapped (thread : Thread) (slot : ConversationSlot) {s : Store σ} (hs : Inv s) :
    Inv (m.swapConversation thread slot s).2 :=
  h.rescoped m thread (fun r => { r with conversation := slot }) s hs

theorem resolveKeeps (m : Container) : m.ResolveKeeps True host Inv where
  notified phase := h.notified phase m
  reported := h.reported
  notify listener phase := h.notify listener phase m
  added := h.added
  numbered _ s := h.container m _ s
  acquired v _ := h.acquired v
  swapped slot _ := h.swapped host.thread slot

theorem exits : host.Exits True Inv where
  toCloses := h.closes
  removed := h.removed
  released v _ hs := h.released v hs
  vacated m kind s hs := by
    rw [Container.vacate]
    split
    · exact h.shared m none s hs
    · exact h.vacated m host.thread kind s hs
  swapped _ slot _ hs := h.swapped host.thread slot hs
  forgotten m := h.forgotten m host.thread

theorem start (kind : ScopeKind) (params : ScopeParams) :
    Act.Keeps True Inv (m.start host kind params) := by
  intro s hs
  apply Container.wp_start
  · exact fun _ => h.startApplication s hs
  · intro _
    rw [Container.wp_startConversation]
    exact h.exits.finishSlot _ _ (h.swapped host.thread _ hs)
  · exact fun _ _ => h.startSlot kind params.session s hs

theorem detached (kind : ScopeKind) {s : Store σ} (hs : Inv s) :
    Inv (m.detach host.thread kind s).2 := by
  have hswapped := h.swapped (m := m) host.thread .notStarted hs
  exact Container.detach_cases (fun _ => hs) (fun v _ _ _ => h.released v hswapped)
    (fun _ _ => hswapped) fun _ _ => h.vacated m host.thread kind s hs

theorem restoreSession {snapshot : ContextSnapshot}
    (hrestore : Act.Keeps True Inv (m.restoreContext host snapshot)) :
    Act.Keeps True Inv (m.restoreSession host snapshot) := by
  intro s hs
  have hrest : Act.wp True (do
      let session ← m.restoreContext host snapshot
      m.start host .session { session := some session }
      return session) (fun _ t => Inv t) s := by
    rw [Act.wp_bind]
    apply (hrestore s hs).mono
    intro r t ht
    cases r with
    | error error => exact ht
    | ok session =>
      simp only [Act.wp_bind, Act.wp_pure]
      apply (h.start .session _ t ht).mono
      intro r u hu
      cases r <;> exact hu
  simp only [Container.restoreSession]
  split
  · exact hs
  · exact hrest

end Host.Attends

/-- A request to scopes keeps an invariant that its steps keep and the restoration of contexts. -/
theorem Call.perform_attended {host : Host σ} {Inv : Store σ → Prop} (call : Call)
    (hscopes : call.entersScopes = true) (h : host.Attends Inv)
    (hrestore : ∀ (m : Container) snapshot, Act.Keeps True Inv (m.restoreContext host snapshot)) :
    Act.Keeps True Inv (call.perform host) := by
  cases call with
  | start m kind params => exact h.start kind params
  | current m kind => exact (h.resolveKeeps m).current kind
  | stop m kind => exact h.exits.stop kind
  | detach m kind => exact fun s hs => h.detached kind hs
  | destroyExpired m => exact h.destroyExpired
  | restoreSession m snapshot => exact h.restoreSession (hrestore m snapshot)
  | shutdown m => exact h.exits.shutdown
  | _ => cases hscopes

/-- All steps keep a family of invariants, one for each list of contexts that are being restored and
each list of instances in hand. -/
structure Host.Upholds (host : Host σ) (Inv : List ScopeContext → List Bag → Store σ → Prop) :
    Prop extends host.Revives Inv where
  sustains : ∀ restoring, host.Sustains (Inv restoring)
  added : ∀ restoring hand (session : ScopeContext) draw start timeout s, Inv restoring hand s →
    Inv restoring hand (session.addTransient draw start timeout s).2
  conversed : ∀ restoring hand (v : Conversation) f s, (∀ r, (f r).id = r.id) →
    Inv restoring hand s → Inv restoring hand (v.update f s)
  container : ∀ restoring hand m r s, Inv restoring hand s → Inv restoring hand (s.setContainer m r)
  counted : ∀ restoring hand n s, Inv restoring hand s →
    Inv restoring hand { s with nextContainer := n }
  waited : ∀ restoring hand span s, Inv restoring hand s → Inv restoring hand (s.wait span)
  rescoped : ∀ restoring hand (m : Container) thread f s, Inv restoring hand s →
    Inv restoring hand (m.updateScopes thread f s)
  forgotten : ∀ restoring hand (m : Container) thread s, Inv restoring hand s →
    Inv restoring hand (m.forgetScopes thread s)

theorem Host.Upholds.attends {host : Host σ}
    {Inv : List ScopeContext → List Bag → Store σ → Prop} (h : host.Upholds Inv)
    (restoring : List ScopeContext) (hand : List Bag) : host.Attends (Inv restoring hand) where
  toCycles := (h.sustains restoring).cycles hand
  added := h.added restoring hand
  conversed := h.conversed restoring hand
  container := h.container restoring hand
  rescoped := h.rescoped restoring hand
  forgotten := h.forgotten restoring hand

section Journal

variable {host : Host σ} {Inv : Store σ → Prop} (h : host.Keeps True Inv)
  (hjournal : ∀ s t : Store σ, t.journal = s.journal → Inv s → Inv t)
  (hnote : ∀ event s, (∀ unit e inst, event ≠ .created unit e inst) → Inv s → Inv (s.note event))
  (hcreate : ∀ (unit : Contextual) e, Act.Keeps True Inv (unit.create host e))

include h hjournal hnote hcreate

theorem Host.handles_of_journal : host.Handles fun _ => Inv where
  remarked _ event s hevent := by
    refine hnote event s ?_
    rintro unit e inst rfl
    cases hevent
  destroying _ _ s := hnote _ s fun _ _ _ heq => by cases heq
  create _ unit e s hs := (hcreate unit e s hs).mono fun r t ht => by cases r <;> exact ht
  restored _ _ s := hnote _ s fun _ _ _ heq => by cases heq
  described _ _ _ s _ _ := hjournal s _ rfl
  begun _ _ _ _ s := hjournal s _ rfl
  registered _ _ s := hjournal s _ rfl
  unlisted _ _ _ _ _ s _ := hjournal s _ rfl
  stacked _ _ _ s := hjournal s _ rfl
  claimed _ c id s := by
    apply hjournal s
    obtain ⟨_, _, heq⟩ := ScopeContext.claimCell_aside c id s
    rw [heq]
  filling _ _ _ _ s := hjournal s _ rfl
  filled _ _ _ _ s := hjournal s _ rfl
  dropped _ _ _ _ s := hjournal s _ rfl
  discarded _ _ _ _ s := hjournal s _ rfl
  placed _ _ _ s := hjournal s _ rfl
  taken _ _ _ s := hjournal s _ rfl
  tends _ := h.tends

theorem Host.sustains_of_journal : host.Sustains fun _ => Inv where
  toHandles := Host.handles_of_journal h hjournal hnote hcreate
  notify _ := h.notify
  notified _ _ _ _ _ s := hnote _ s fun _ _ _ heq => by cases heq
  opened _ _ s := hjournal s _ rfl
  switched _ _ _ s := hjournal s _ rfl
  emptied _ _ s := hjournal s _ rfl
  removed _ _ _ s := hjournal s _ rfl
  vacated _ _ _ _ s := hjournal s _ rfl
  occupied _ _ _ _ _ s := hjournal s _ rfl
  shared _ _ _ s := hjournal s _ rfl

/-- What depends on the journal alone survives every request, if it survives creations and all other
events. -/
theorem Host.upholds_of_journal : host.Upholds fun _ _ => Inv where
  handles _ := Host.handles_of_journal h hjournal hnote hcreate
  sustains _ := Host.sustains_of_journal h hjournal hnote hcreate
  added _ _ _ _ _ _ s := hjournal s _ rfl
  conversed _ _ _ _ s _ := hjournal s _ rfl
  container _ _ _ _ s := hjournal s _ rfl
  counted _ _ _ s := hjournal s _ rfl
  waited _ _ _ s := hjournal s _ rfl
  rescoped _ _ _ _ _ s := hjournal s _ rfl
  forgotten _ _ _ _ s := hjournal s _ rfl
  begun _ _ _ s := hjournal s _ rfl
  done _ _ _ _ hs := hs
  converse _ _ _ _ _ s := hjournal s _ rfl
  listed _ _ _ _ _ _ s hs _ := hjournal s _ rfl hs

end Journal

def Call.registered? : Call → Option Bag
  | .addDependent e unit (some inst) => some ⟨unit, inst, e⟩
  | _ => none

/-- A request keeps the invariant, but to register an instance is another matter. -/
theorem Call.perform_upheld {host : Host σ} {Inv : List ScopeContext → List Bag → Store σ → Prop}
    (call : Call) (h : host.Upholds Inv) (restoring : List ScopeContext) (hand : List Bag)
    (hregistered : ∀ b s, call.registered? = some b → Inv restoring hand s →
      Inv restoring hand (b.episode.update (·.register b.contextual b.inst) s)) :
    Act.Keeps True (Inv restoring hand) (call.perform host) := by
  have hscopes := h.attends restoring hand
  have hinstances := (h.sustains restoring).toHandles
  have hrestore := fun (m : Container) snapshot =>
    (h.toRevives.rebuilds hand).restoreContext_keeps m snapshot restoring
  cases call with
  | newContainer config observers proxying =>
    intro s hs
    exact h.counted restoring hand _ _ (h.container restoring hand _ _ s hs)
  | register m id unit => exact fun s => h.container restoring hand m _ s
  | wait span => exact h.waited restoring hand span
  | newEpisode m contextual => exact fun s => hinstances.begun hand contextual none _ s
  | wrap m outer unit =>
    cases outer with
    | episode e => exact fun s hs => hs
    | foreign f => exact fun s => hinstances.begun hand (some unit) (some f) _ s
  | describe e change => exact fun s => hinstances.described hand e _ s rfl rfl
  | addDependent e unit inst =>
    cases inst with
    | none => exact fun s hs => hs
    | some inst => exact fun s => hregistered ⟨unit, inst, e⟩ s rfl
  | push e inst => exact fun s hs => (Act.wp_lift _).2 (hinstances.push hand e inst s hs)
  | destroyDependent e inst =>
    exact (hinstances.releaseKeeps e hand).toDrainKeeps.destroyDependent inst
  | removeAllDependents e => exact (hinstances.releaseKeeps e hand).removeAllDependents
  | release e => exact (hinstances.releaseKeeps e hand).release_keeps
  | newContext kind => exact hscopes.opened kind
  | setActive c active => exact hscopes.switched c active
  | getOrCreate c unit e => exact hinstances.getOrCreate hand c unit e
  | destroy c unit => exact hinstances.destroyUnit hand c unit
  | destroyExisting c unit => exact hinstances.destroyExisting hand c unit
  | destroyAll c => exact hscopes.destroyAll c
  | removeConversation c id => exact hscopes.removed c id
  | promote v => exact fun s => h.conversed restoring hand v _ s fun _ => rfl
  | demote v => exact fun s => h.conversed restoring hand v _ s fun _ => rfl
  | setTimeout v timeout => exact fun s => h.conversed restoring hand v _ s fun _ => rfl
  | touch v =>
    exact fun s => h.conversed restoring hand v (fun r => { r with lastAccess := s.clock }) s
      fun _ => rfl
  | restoreContext m snapshot => exact hrestore m snapshot
  | _ => exact Call.perform_attended _ rfl hscopes hrestore

end ContextualLifecycle
