import ContextualLifecycle.Proofs.Closing.Operations

namespace ContextualLifecycle.Closing

variable {σ : Type} {w : Closing σ} {host : Host (Watched library σ)}
  {s t u : Store (Watched library σ)} {c : ScopeContext}

namespace Serves

variable (h : w.Serves host) (m : Container)

include h

theorem restoreDependent (e : Episode) (d : DependentSnapshot) :
    Act.Settles w (m.restoreDependent host e d) := by
  intro s hs
  simp only [Container.restoreDependent, Container.resolve, Act.wp_bind, Act.wp_get,
    Act.wp_liftExcept]
  split
  · rename_i unit _
    simp only [Act.wp_modify]
    apply (h.restored unit d.state hs).mono
    intro r t ht
    cases r with
    | error error => exact ht
    | ok inst =>
      obtain ⟨u, hu, rfl⟩ := ht
      apply hu.trans
      refine ebbs_registered rfl rfl rfl rfl (precedes_note _ u) ?_
        (Store.since_self_note (.restored unit inst) u)
        (Store.since_self_note (.restored unit inst) u) fun _ _ _ _ h => h
      rintro ⟨_, _, _⟩ rfl rfl rfl
      exact anew_of_note (.restored _ _) ⟨rfl, rfl⟩
        ⟨List.prefix_refl _, List.suffix_refl _⟩
  · exact .refl _ s

theorem restoreEpisode (snapshot : EpisodeSnapshot) :
    Act.Settles w (m.restoreEpisode host snapshot) := by
  have hrest : ∀ contextual, Act.Settles w (do
      let e ← modifyGet (m.newEpisode contextual)
      snapshot.dependents.forM (m.restoreDependent host e)
      return e) := by
    intro contextual s hs
    simp only [Act.wp_bind, Act.wp_modifyGet, Act.wp_pure]
    have hnew : w.Settles s (m.newEpisode contextual s).2 :=
      ebbs_newEpisode contextual none (m.teardownFactor s) s
    apply (Act.Keeps.forM (fun d => (h.restoreDependent m _ d).keeps s) _ _ ⟨hs, hnew⟩).mono
    intro r t ht
    cases r <;> exact ht.ebbs
  intro s hs
  simp only [Container.restoreEpisode]
  split
  · simp only [Act.wp_bind, Container.resolve, Act.wp_get, Act.wp_liftExcept]
    split
    · simpa only [Act.wp_bind, Act.wp_pure] using hrest _ s hs
    · exact .refl _ s
  · simpa only [Act.wp_bind, Act.wp_pure] using hrest none s hs

theorem restoreEntry (entry : EntrySnapshot) (hs : w.Sound s) (hnew : w.known ≤ c.number)
    (hissued : c.number < s.nextContext) :
    Act.wp True (m.restoreEntry host c entry) (fun _ t => w.Settles s t) s := by
  simp only [Container.restoreEntry, Container.resolve, Act.wp_bind, Act.wp_get,
    Act.wp_liftExcept]
  split
  · rename_i unit _
    apply (h.restoreEpisode m entry.episode s hs).mono
    intro r t ht
    cases r with
    | error error => exact ht
    | ok episode =>
      apply (h.restored unit entry.state (ht.sound hs)).mono
      intro r u hu
      cases r with
      | error error => exact ht.trans hu
      | ok inst =>
        obtain ⟨u, hu, rfl⟩ := hu
        simp only [Act.wp_modify]
        exact (ht.trans hu).trans (ebbs_entryRestored unit inst episode hnew
          (Nat.lt_of_lt_of_le hissued (ht.trans hu).contexts))
  · exact .refl _ s

theorem restoreEntries (entries : List EntrySnapshot) (hs : w.Sound s) (hnew : w.known ≤ c.number)
    (hissued : c.number < s.nextContext) :
    Act.wp True (entries.forM (m.restoreEntry host c)) (fun _ t => w.Settles s t) s := by
  let Inv : Store (Watched library σ) → Prop := w.Ebbed s
  have hentry : ∀ entry, Act.Keeps True Inv (m.restoreEntry host c entry) := by
    intro entry t ht
    exact (h.restoreEntry m entry ht.now hnew (Nat.lt_of_lt_of_le hissued ht.ebbs.contexts)).mono
      fun _ u hu => ht.step hu
  exact (Act.Keeps.forM hentry entries s (.here hs)).mono fun _ t ht => ht.ebbs

end Serves

def RestoredContext (w : Closing σ) (s : Store (Watched library σ)) :
    Except LifecycleError ScopeContext → Store (Watched library σ) → Prop
  | .ok c, t => w.Settles s t ∧ w.known ≤ c.number ∧ c.number < t.nextContext
  | .error _, t => w.Settles s t

namespace Serves

mutual

theorem restoreContext (h : w.Serves host) (m : Container) : (snapshot : ContextSnapshot) →
    ∀ s, w.Sound s → Act.wp True (m.restoreContext host snapshot) (w.RestoredContext s) s
  | ⟨kind, entries, conversations⟩ => by
    intro s hs
    simp only [Container.restoreContext, Act.wp_bind, Act.wp_modifyGet, Act.wp_pure]
    let c := (ScopeContext.new kind s).1
    let made := (ScopeContext.new kind s).2
    have hnew : w.Settles s made := ebbs_new kind hs.known
    have hissued : c.number < made.nextContext := Nat.lt_succ_self _
    apply (h.restoreEntries m entries (hnew.sound hs) hs.known hissued).mono
    intro r t ht
    have hentries := hnew.trans ht
    cases r with
    | error error => exact hentries
    | ok _ =>
      apply (restoreConversations h m c hs.known conversations t (hentries.sound hs)).mono
      intro r u hu
      cases r with
      | error error => exact hentries.trans hu
      | ok _ =>
        exact ⟨hentries.trans hu, hs.known, Nat.lt_of_lt_of_le hissued (ht.trans hu).contexts⟩

theorem restoreConversations (h : w.Serves host) (m : Container) (c : ScopeContext)
    (hnew : w.known ≤ c.number) :
    (vs : List ConversationSnapshot) → Act.Settles w (m.restoreConversations host c vs)
  | [] => by
    intro s _
    simp only [Container.restoreConversations, Act.wp_pure]
    exact .refl _ s
  | v :: vs => by
    intro s hs
    simp only [Container.restoreConversations, Act.wp_bind]
    apply (restoreConversation h m c hnew v s hs).mono
    intro r t ht
    cases r with
    | error error => exact ht
    | ok _ =>
      apply (restoreConversations h m c hnew vs t (ht.sound hs)).mono
      exact fun _ u hu => ht.trans hu

theorem restoreConversation (h : w.Serves host) (m : Container) (c : ScopeContext)
    (hnew : w.known ≤ c.number) :
    (v : ConversationSnapshot) → Act.Settles w (m.restoreConversation host c v)
  | ⟨id, timeoutMs, context⟩ => by
    intro s hs
    simp only [Container.restoreConversation, Act.wp_bind, Act.wp_modify, Act.wp_modifyGet]
    apply (restoreContext h m context s hs).mono
    intro r t ht
    cases r with
    | error error => exact ht
    | ok nested =>
      obtain ⟨hsettles, hnested, hissued⟩ := ht
      let v : Conversation := ⟨nested⟩
      have hactive : w.Settles t (nested.setActive true t) := ebbs_activated hnested hissued
      have haround : w.Settles (nested.setActive true t) (Conversation.around nested id
          (.ofMillis timeoutMs.toNat) (nested.setActive true t)).2 :=
        ebbs_conversation v
          (fun _ => { id, timeout := .ofMillis timeoutMs.toNat, lastAccess := t.clock })
          (nested.setActive true t)
      have hready := ((hsettles.trans hactive).trans haround).trans
        (ebbs_conversation v (fun r => { r with transient := false }) _)
      simp only [ScopeContext.addConversation, Act.wp_bind, Act.wp_get]
      split
      · exact hready
      · simp only [Act.wp_modify]
        exact hready.trans (ebbs_putConversation hnew hnested _)

end

end Serves

end ContextualLifecycle.Closing
