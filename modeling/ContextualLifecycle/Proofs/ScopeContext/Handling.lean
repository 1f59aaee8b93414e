import ContextualLifecycle.Proofs.Container.Current
import ContextualLifecycle.Proofs.Episode.Teardown
import ContextualLifecycle.Proofs.Library
import ContextualLifecycle.Proofs.ScopeContext.Cells

namespace ContextualLifecycle

variable {σ : Type}

/-- Events that neither bring up nor destroy an instance, and no notification. -/
def Event.IsRemark : Event → Prop
  | .creating .. | .pushing .. | .releasing .. | .report .. => True
  | _ => False

def Contextual.Gives (Inv : List Bag → Store σ → Prop) (hand : List Bag) (unit : Contextual)
    (e : Episode) : Except LifecycleError Instance → Store σ → Prop
  | .ok inst, t => Inv (⟨unit, inst, e⟩ :: hand) t
  | .error _, t => Inv hand t

theorem Host.Tends.gives {host : Host σ} {Inv : List Bag → Store σ → Prop} {hand : List Bag}
    (h : host.Tends True (Inv hand))
    (hcreating : ∀ unit e s, Inv hand s → Inv hand (s.note (.creating unit e)))
    (hcreated : ∀ unit e inst s, Inv hand s →
      Inv (⟨unit, inst, e⟩ :: hand) (s.note (.created unit e inst)))
    (unit : Contextual) (e : Episode) {s : Store σ} (hs : Inv hand s) :
    Act.wp True (unit.create host e) (unit.Gives Inv hand e) s := by
  apply Contextual.wp_create (h.create unit e _ (hcreating unit e s hs))
  · exact fun inst t ht => hcreated unit e inst t ht
  · exact fun error t ht => ht

/-- The steps in which instances are handled keep a family of invariants, one for each list of
instances in hand. -/
structure Host.Handles (host : Host σ) (Inv : List Bag → Store σ → Prop) : Prop where
  remarked : ∀ hand event s, event.IsRemark → Inv hand s → Inv hand (s.note event)
  destroying : ∀ hand b s, Inv (b :: hand) s →
    Inv hand (s.note (.destroying b.contextual b.inst b.episode))
  create : ∀ hand (unit : Contextual) e s, Inv hand s →
    Act.wp True (unit.create host e) (unit.Gives Inv hand e) s
  restored : ∀ hand b s, Inv hand s → Inv (b :: hand) (s.note (.restored b.contextual b.inst))
  /-- An episode changes, but none of its dependents and not its budget. -/
  described : ∀ hand (e : Episode) f s, (f (s.episode e)).dependents = (s.episode e).dependents →
    (f (s.episode e)).teardownFactor = (s.episode e).teardownFactor →
    Inv hand s → Inv hand (e.update f s)
  begun : ∀ hand contextual outer factor s, Inv hand s →
    Inv hand (Episode.new contextual outer factor s).2
  registered : ∀ hand b s, Inv (b :: hand) s →
    Inv hand (b.episode.update (·.register b.contextual b.inst) s)
  unlisted : ∀ hand (e : Episode) front d back s, (s.episode e).dependents = front ++ d :: back →
    Inv hand s → Inv (⟨d.contextual, d.inst, e⟩ :: hand) (e.relist (front ++ back) s)
  stacked : ∀ hand thread stack s, Inv hand s → Inv hand (s.setStack thread stack)
  claimed : ∀ hand (c : ScopeContext) id s, Inv hand s → Inv hand (c.claimCell id s).2
  filling : ∀ hand (c : ScopeContext) id n s, Inv hand s → Inv hand (c.fillCell id n .filling s)
  filled : ∀ hand (c : ScopeContext) n b s, Inv (b :: hand) s →
    Inv hand (c.fillCell b.contextual.id n (.live b) s)
  dropped : ∀ hand (c : ScopeContext) id n s, Inv hand s → Inv hand (c.dropCell id n s)
  /-- An instance that has lost its place stays in hand. -/
  discarded : ∀ hand (c : ScopeContext) n b s, Inv hand s →
    Inv hand (c.dropCell b.contextual.id n (c.fillCell b.contextual.id n (.live b) s))
  placed : ∀ hand (c : ScopeContext) b s, Inv (b :: hand) s → Inv hand
    (c.setCell b.contextual.id ⟨s.nextCell, .live b⟩ { s with nextCell := s.nextCell + 1 })
  taken : ∀ hand (c : ScopeContext) id s, Inv hand s →
    Inv ((c.live s id).toList ++ hand) (c.takeEntry id s).2
  tends : ∀ hand, host.Tends True (Inv hand)

/-- The same where entries are handled in some contexts only. -/
structure Host.HandlesIn (host : Host σ) (May : ScopeContext → Prop)
    (Inv : List Bag → Store σ → Prop) : Prop where
  remarked : ∀ hand event s, event.IsRemark → Inv hand s → Inv hand (s.note event)
  destroying : ∀ hand b s, Inv (b :: hand) s →
    Inv hand (s.note (.destroying b.contextual b.inst b.episode))
  create : ∀ hand (unit : Contextual) e s, Inv hand s →
    Act.wp True (unit.create host e) (unit.Gives Inv hand e) s
  restored : ∀ hand b s, Inv hand s → Inv (b :: hand) (s.note (.restored b.contextual b.inst))
  described : ∀ hand (e : Episode) f s, (f (s.episode e)).dependents = (s.episode e).dependents →
    (f (s.episode e)).teardownFactor = (s.episode e).teardownFactor →
    Inv hand s → Inv hand (e.update f s)
  begun : ∀ hand contextual outer factor s, Inv hand s →
    Inv hand (Episode.new contextual outer factor s).2
  registered : ∀ hand b s, Inv (b :: hand) s →
    Inv hand (b.episode.update (·.register b.contextual b.inst) s)
  unlisted : ∀ hand (e : Episode) front d back s, (s.episode e).dependents = front ++ d :: back →
    Inv hand s → Inv (⟨d.contextual, d.inst, e⟩ :: hand) (e.relist (front ++ back) s)
  stacked : ∀ hand thread stack s, Inv hand s → Inv hand (s.setStack thread stack)
  claimed : ∀ hand (c : ScopeContext) id s, May c → Inv hand s → Inv hand (c.claimCell id s).2
  filling : ∀ hand (c : ScopeContext) id n s, May c → Inv hand s →
    Inv hand (c.fillCell id n .filling s)
  filled : ∀ hand (c : ScopeContext) n b s, May c → Inv (b :: hand) s →
    Inv hand (c.fillCell b.contextual.id n (.live b) s)
  dropped : ∀ hand (c : ScopeContext) id n s, May c → Inv hand s → Inv hand (c.dropCell id n s)
  discarded : ∀ hand (c : ScopeContext) n b s, May c → Inv hand s →
    Inv hand (c.dropCell b.contextual.id n (c.fillCell b.contextual.id n (.live b) s))
  placed : ∀ hand (c : ScopeContext) b s, May c → Inv (b :: hand) s → Inv hand
    (c.setCell b.contextual.id ⟨s.nextCell, .live b⟩ { s with nextCell := s.nextCell + 1 })
  taken : ∀ hand (c : ScopeContext) id s, May c → Inv hand s →
    Inv ((c.live s id).toList ++ hand) (c.takeEntry id s).2
  tends : ∀ hand, host.Tends True (Inv hand)

/-- The steps in which instances are restored keep a family of invariants, one for each list of
instances in hand, in the contexts where entries may be placed. -/
structure Host.Restores (host : Host σ) (May : ScopeContext → Prop)
    (Inv : List Bag → Store σ → Prop) : Prop where
  restore : ∀ hand unit state, Act.Keeps True (Inv hand) (host.restore unit state)
  restored : ∀ hand b s, Inv hand s → Inv (b :: hand) (s.note (.restored b.contextual b.inst))
  begun : ∀ hand contextual outer factor s, Inv hand s →
    Inv hand (Episode.new contextual outer factor s).2
  registered : ∀ hand b s, Inv (b :: hand) s →
    Inv hand (b.episode.update (·.register b.contextual b.inst) s)
  placed : ∀ hand (c : ScopeContext) b s, May c → Inv (b :: hand) s → Inv hand
    (c.setCell b.contextual.id ⟨s.nextCell, .live b⟩ { s with nextCell := s.nextCell + 1 })

namespace Host.Restores

variable {host : Host σ} {May : ScopeContext → Prop} {Inv : List Bag → Store σ → Prop}
  {hand : List Bag} (h : host.Restores May Inv)

include h

theorem restoreInstance (unit : Contextual) (e : Episode) (state : Json) {s : Store σ}
    (hs : Inv hand s) : Act.wp True (unit.restore host state) (unit.Gives Inv hand e) s := by
  simp only [Contextual.restore]
  split
  · simp only [Act.wp_bind, Act.wp_modify, Act.wp_pure]
    apply (h.restore hand unit state s hs).mono
    intro r t ht
    cases r with
    | ok inst => exact h.restored hand ⟨unit, inst, e⟩ t ht
    | error error => exact ht
  · exact hs

theorem restoreDependent (hand : List Bag) (m : Container) (e : Episode) (d : DependentSnapshot) :
    Act.Keeps True (Inv hand) (m.restoreDependent host e d) := by
  intro s hs
  simp only [Container.restoreDependent, Container.resolve, Act.wp_bind, Act.wp_get,
    Act.wp_liftExcept]
  split
  · rename_i unit _
    simp only [Act.wp_modify]
    apply (h.restoreInstance unit e d.state hs).mono
    intro r t ht
    cases r with
    | ok inst => exact h.registered hand ⟨unit, inst, e⟩ t ht
    | error error => exact ht
  · exact hs

theorem restoreEpisode (hand : List Bag) (m : Container) (snapshot : EpisodeSnapshot) :
    Act.Keeps True (Inv hand) (m.restoreEpisode host snapshot) := by
  have hrest : ∀ contextual, Act.Keeps True (Inv hand) (do
      let e ← modifyGet (m.newEpisode contextual)
      snapshot.dependents.forM (m.restoreDependent host e)
      return e) := by
    intro contextual s hs
    simp only [Act.wp_bind, Act.wp_modifyGet, Act.wp_pure]
    apply (Act.Keeps.forM (h.restoreDependent hand m _) _ _ (h.begun hand _ _ _ s hs)).mono
    intro r t ht
    cases r <;> exact ht
  intro s hs
  simp only [Container.restoreEpisode]
  split
  · simp only [Act.wp_bind, Container.resolve, Act.wp_get, Act.wp_liftExcept]
    split
    · simpa only [Act.wp_bind, Act.wp_pure] using hrest _ s hs
    · exact hs
  · simpa only [Act.wp_bind, Act.wp_pure] using hrest none s hs

theorem restoreEntry (hand : List Bag) (m : Container) {c : ScopeContext} (hc : May c)
    (entry : EntrySnapshot) :
    Act.Keeps True (Inv hand) (m.restoreEntry host c entry) := by
  intro s hs
  simp only [Container.restoreEntry, Container.resolve, Act.wp_bind, Act.wp_get,
    Act.wp_liftExcept]
  split
  · rename_i unit _
    apply (h.restoreEpisode hand m entry.episode s hs).mono
    intro r t ht
    cases r with
    | error error => exact ht
    | ok episode =>
      apply (h.restoreInstance unit episode entry.state ht).mono
      intro r u hu
      cases r with
      | error error => exact hu
      | ok inst => exact h.placed hand c ⟨unit, inst, episode⟩ u hc hu
  · exact hs

end Host.Restores

/-- The steps in which instances are created, taken out and destroyed keep a family of invariants,
one for each list of instances in hand. They say nothing of how a context fills its cells. -/
structure Host.Treats (host : Host σ) (May : ScopeContext → Prop)
    (Inv : List Bag → Store σ → Prop) : Prop where
  remarked : ∀ hand event s, event.IsRemark → Inv hand s → Inv hand (s.note event)
  destroying : ∀ hand b s, Inv (b :: hand) s →
    Inv hand (s.note (.destroying b.contextual b.inst b.episode))
  create : ∀ hand (unit : Contextual) e s, Inv hand s →
    Act.wp True (unit.create host e) (unit.Gives Inv hand e) s
  described : ∀ hand (e : Episode) f s, (f (s.episode e)).dependents = (s.episode e).dependents →
    (f (s.episode e)).teardownFactor = (s.episode e).teardownFactor →
    Inv hand s → Inv hand (e.update f s)
  registered : ∀ hand b s, Inv (b :: hand) s →
    Inv hand (b.episode.update (·.register b.contextual b.inst) s)
  unlisted : ∀ hand (e : Episode) front d back s, (s.episode e).dependents = front ++ d :: back →
    Inv hand s → Inv (⟨d.contextual, d.inst, e⟩ :: hand) (e.relist (front ++ back) s)
  taken : ∀ hand (c : ScopeContext) id s, May c → Inv hand s →
    Inv ((c.live s id).toList ++ hand) (c.takeEntry id s).2
  tends : ∀ hand, host.Tends True (Inv hand)

namespace Host.Treats

variable {host : Host σ} {May : ScopeContext → Prop} {Inv : List Bag → Store σ → Prop}
  {hand : List Bag} (h : host.Treats May Inv)

include h

theorem reported (content : Report) {s : Store σ} (hs : Inv hand s) : Inv hand (s.report content) :=
  h.remarked hand (.report content) s trivial hs

theorem releaseKeeps (e : Episode) (hand : List Bag) :
    Episode.ReleaseKeeps True host e (Inv hand) where
  taken s front d back hs hd :=
    h.destroying hand ⟨d.contextual, d.inst, e⟩ _ (h.unlisted hand e front d back s hd hs)
  reported _ content hs := h.reported content hs
  destroy unit inst := (h.tends hand).destroy unit inst e
  flagged s _ hs := h.described hand e _ s rfl rfl hs
  released s _ hs := h.remarked hand _ s trivial hs
  release outer := (h.tends hand).release outer

theorem destroyBag (b : Bag) {s : Store σ} (hs : Inv (b :: hand) s) :
    Act.wp True (b.destroy host) (fun _ t => Inv hand t) s :=
  Bag.wp_destroy_of (h.releaseKeeps b.episode hand) (h.destroying hand b s hs)

theorem createDependent (hand : List Bag) (unit : Contextual) (e : Episode) :
    Act.Keeps True (Inv hand) (unit.createDependent host e) := by
  intro s hs
  apply Contextual.wp_createDependent (h.create hand unit e s hs)
  · exact fun inst t ht => h.registered hand ⟨unit, inst, e⟩ t ht
  · exact fun error t ht => ht

theorem push (hand : List Bag) (e : Episode) (inst : Instance) :
    Run.Keeps True (Inv hand) (e.push host inst) := by
  apply Episode.push_keeps
  · exact fun s hs => h.described hand e (fun r => { r with incomplete := some inst }) s rfl rfl hs
  · exact fun s _ hs => h.remarked hand _ s trivial hs
  · exact fun outer => (h.tends hand).push outer inst

theorem destroyEntry (hand : List Bag) {c : ScopeContext} (hc : May c) (id : ContextualId) :
    Act.Keeps True (Inv hand) (c.destroyEntry host id) := by
  apply ScopeContext.destroyEntry_keeps
  · exact fun content s hs => h.reported content hs
  · intro s hs hlive
    simpa only [hlive, Option.toList_none, List.nil_append] using h.taken hand c id s hc hs
  · intro bag s hs hlive
    have htaken := h.taken hand c id s hc hs
    simp only [hlive, Option.toList_some, List.singleton_append] at htaken
    exact h.destroyBag bag htaken

theorem destroyUnit (hand : List Bag) {c : ScopeContext} (hc : May c) (unit : Contextual) :
    Act.Keeps True (Inv hand) (c.destroy host unit) := by
  intro s hs
  have htaken := h.taken hand c unit.id s hc hs
  cases hlive : c.live s unit.id with
  | none =>
    rw [ScopeContext.wp_destroy_of_absent hlive]
    simpa only [hlive, Option.toList_none, List.nil_append] using htaken
  | some bag =>
    simp only [hlive, Option.toList_some, List.singleton_append] at htaken
    apply ScopeContext.wp_destroy_of_live hlive
    exact (h.destroyBag bag htaken).mono fun _ t ht => ⟨ht, fun _ => ht⟩

theorem destroyExisting (hand : List Bag) {c : ScopeContext} (hc : May c) (unit : Contextual) :
    Act.Keeps True (Inv hand) (c.destroyExisting host unit) := by
  intro s hs
  simp only [ScopeContext.destroyExisting, Act.wp_bind]
  apply (h.destroyUnit hand hc unit s hs).mono
  intro r t ht
  rcases r with error | found
  · exact ht
  · cases found <;> exact ht

end Host.Treats

namespace Host.HandlesIn

variable {host : Host σ} {May : ScopeContext → Prop} {Inv : List Bag → Store σ → Prop}
  {hand : List Bag} (h : host.HandlesIn May Inv)

include h

theorem treats : host.Treats May Inv := { h with }

theorem restores : host.Restores May Inv where
  restore hand := (h.tends hand).restore
  restored := h.restored
  begun := h.begun
  registered := h.registered
  placed := h.placed

theorem reported (content : Report) {s : Store σ} (hs : Inv hand s) : Inv hand (s.report content) :=
  h.treats.reported content hs

theorem releaseKeeps (e : Episode) (hand : List Bag) :
    Episode.ReleaseKeeps True host e (Inv hand) :=
  h.treats.releaseKeeps e hand

theorem createDependent (hand : List Bag) (unit : Contextual) (e : Episode) :
    Act.Keeps True (Inv hand) (unit.createDependent host e) :=
  h.treats.createDependent hand unit e

theorem push (hand : List Bag) (e : Episode) (inst : Instance) :
    Run.Keeps True (Inv hand) (e.push host inst) :=
  h.treats.push hand e inst

theorem restoreEntry (hand : List Bag) (m : Container) {c : ScopeContext} (hc : May c)
    (entry : EntrySnapshot) :
    Act.Keeps True (Inv hand) (m.restoreEntry host c entry) :=
  h.restores.restoreEntry hand m hc entry

theorem getOrCreate (hand : List Bag) {c : ScopeContext} (hc : May c) (unit : Contextual)
    (e : Episode) : Act.Keeps True (Inv hand) (c.getOrCreate host unit e) := by
  intro s hs
  cases hactive : (s.context c).active with
  | false =>
    rw [ScopeContext.wp_getOrCreate_of_inactive hactive]
    exact hs
  | true =>
    by_cases hkind : (s.context c).kind = .dependent
    · rw [ScopeContext.wp_getOrCreate_of_dependent hactive hkind]
      exact h.createDependent hand unit e s hs
    cases hlive : c.live s unit.id with
    | some bag =>
      rw [ScopeContext.wp_getOrCreate_of_live hactive hkind hlive]
      exact hs
    | none =>
      have hclaimed := h.claimed hand c unit.id s hc hs
      apply ScopeContext.wp_getOrCreate_of_absent hactive hkind hlive
      · exact fun _ _ => hclaimed
      · exact fun _ _ => trivial
      intro _ _
      have hleave : ∀ t, Inv hand t → Inv hand (ScopeContext.leaveCreation host.thread t) :=
        fun t ht => h.stacked hand _ _ t ht
      have hentered := h.stacked hand host.thread ((c, unit.id) :: s.stack host.thread) _ hclaimed
      apply ScopeContext.wp_createInto (h.create hand unit e _ (h.filling hand c _ _ _ hc hentered))
      · intro error t ht
        apply ((h.releaseKeeps e hand).release_keeps t ht).mono
        intro _ u hu
        exact ⟨hleave _ (h.dropped hand c _ _ u hc hu),
          fun left => hleave _ (h.dropped hand c _ _ _ hc (h.reported _ hu))⟩
      · exact fun inst t ht _ _ => hleave _ (h.filled hand c _ ⟨unit, inst, e⟩ t hc ht)
      · intro inst t ht _
        have hdiscarded := h.discarded (⟨unit, inst, e⟩ :: hand) c (c.claimCell unit.id s).1.serial
          ⟨unit, inst, e⟩ t hc ht
        apply (h.treats.destroyBag _ hdiscarded).mono
        exact fun _ u hu error => hleave u hu

theorem destroyEntry (hand : List Bag) {c : ScopeContext} (hc : May c) (id : ContextualId) :
    Act.Keeps True (Inv hand) (c.destroyEntry host id) :=
  h.treats.destroyEntry hand hc id

theorem destroyUnit (hand : List Bag) {c : ScopeContext} (hc : May c) (unit : Contextual) :
    Act.Keeps True (Inv hand) (c.destroy host unit) :=
  h.treats.destroyUnit hand hc unit

theorem destroyExisting (hand : List Bag) {c : ScopeContext} (hc : May c) (unit : Contextual) :
    Act.Keeps True (Inv hand) (c.destroyExisting host unit) :=
  h.treats.destroyExisting hand hc unit

end Host.HandlesIn

namespace Host.Handles

variable {host : Host σ} {Inv : List Bag → Store σ → Prop} {hand : List Bag}
  (h : host.Handles Inv)

include h

theorem within : host.HandlesIn (fun _ => True) Inv :=
  { h with
    claimed := fun hand c id s _ => h.claimed hand c id s
    filling := fun hand c id n s _ => h.filling hand c id n s
    filled := fun hand c n b s _ => h.filled hand c n b s
    dropped := fun hand c id n s _ => h.dropped hand c id n s
    discarded := fun hand c n b s _ => h.discarded hand c n b s
    placed := fun hand c b s _ => h.placed hand c b s
    taken := fun hand c id s _ => h.taken hand c id s }

theorem reported (content : Report) {s : Store σ} (hs : Inv hand s) : Inv hand (s.report content) :=
  h.within.reported content hs

theorem releaseKeeps (e : Episode) (hand : List Bag) :
    Episode.ReleaseKeeps True host e (Inv hand) :=
  h.within.releaseKeeps e hand

theorem push (hand : List Bag) (e : Episode) (inst : Instance) :
    Run.Keeps True (Inv hand) (e.push host inst) :=
  h.within.push hand e inst

theorem restoreEntry (hand : List Bag) (m : Container) (c : ScopeContext)
    (entry : EntrySnapshot) : Act.Keeps True (Inv hand) (m.restoreEntry host c entry) :=
  h.within.restoreEntry hand m trivial entry

theorem getOrCreate (hand : List Bag) (c : ScopeContext) (unit : Contextual) (e : Episode) :
    Act.Keeps True (Inv hand) (c.getOrCreate host unit e) :=
  h.within.getOrCreate hand trivial unit e

theorem destroyEntry (hand : List Bag) (c : ScopeContext) (id : ContextualId) :
    Act.Keeps True (Inv hand) (c.destroyEntry host id) :=
  h.within.destroyEntry hand trivial id

theorem destroyUnit (hand : List Bag) (c : ScopeContext) (unit : Contextual) :
    Act.Keeps True (Inv hand) (c.destroy host unit) :=
  h.within.destroyUnit hand trivial unit

theorem destroyExisting (hand : List Bag) (c : ScopeContext) (unit : Contextual) :
    Act.Keeps True (Inv hand) (c.destroyExisting host unit) :=
  h.within.destroyExisting hand trivial unit

end Host.Handles

end ContextualLifecycle
