import ContextualLifecycle.Proofs.Container.Moves
import ContextualLifecycle.Proofs.Container.Sustained
import ContextualLifecycle.Proofs.Snapshot.Safekeeping
import ContextualLifecycle.Proofs.Snapshot.Session

namespace ContextualLifecycle

variable {σ : Type} {host : Host σ} {m : Container} {thread : Thread} {s₀ s t u v : Store σ}
  {c : ScopeContext}

theorem ScopeContext.retains_setActive (active : Bool) :
    c.Retains (c.setActive active s) s := by
  have hrecord : (c.setActive active s).context c = { s.context c with active } :=
    context_update c _ s
  exact ⟨fun id b hb => by rwa [live, hrecord] at hb,
    fun id w hw => by rwa [conversation?, hrecord] at hw⟩

theorem ScopeContext.retains_takeEntry (id : ContextualId) : c.Retains (c.takeEntry id s).2 s where
  live x b hb := by
    rw [live_takeEntry] at hb
    split at hb
    · cases hb
    · exact hb
  conversation x w hw := by
    rwa [takeEntry, conversation?, context_update] at hw

theorem ScopeContext.retains_takeConversations : c.Retains (c.takeConversations s).2 s where
  live id b hb := by rwa [takeConversations, live, context_update] at hb
  conversation id w hw := by
    rw [takeConversations, conversation?, context_update] at hw
    cases hw

/-- Since a store, nothing was lost that was made after a moment, and what was there at that moment
lists nothing that came later. -/
def Store.Retires (v : Store σ) (m : Container) (thread : Thread) (s₀ t : Store σ) : Prop :=
  v.Preserves m thread s₀ t ∧ s₀.Dated t

namespace Store.Preserves

theorem refl (s : Store σ) (m : Container) (thread : Thread) (s₀ : Store σ) :
    s.Preserves m thread s₀ s where
  toConserves := .refl s s₀
  restored := List.Subset.refl _
  slot := rfl

theorem trans (h : s.Preserves m thread s₀ t) (h' : t.Preserves m thread s₀ u) :
    s.Preserves m thread s₀ u where
  toConserves := h.toConserves.trans h'.toConserves
  restored := List.Subset.trans h'.restored h.restored
  slot := h'.slot.trans h.slot

theorem noted (h : v.Preserves m thread s₀ t) (hv : s₀.Follows v) {event : Event}
    (hevent : event.restored? = none) : v.Preserves m thread s₀ (t.note event) :=
  { h with
    toFollows := h.toFollows.trans (t.follows_note event)
    retains := fun c hnew hissued => (h.retains c hnew hissued).trans (.of_eq rfl)
    restored := by
      rw [restoredSince, Store.since_note (hv.trans h.toFollows).journal, hevent,
        Option.toList_none, List.append_nil]
      exact h.restored }

end Store.Preserves

namespace Store.Retires

variable (h : v.Retires m thread s₀ t)

include h

theorem trans (hu : t.Preserves m thread s₀ u ∧ s₀.Dated u) : v.Retires m thread s₀ u :=
  ⟨h.1.trans hu.1, hu.2⟩

theorem noted (hv : s₀.Follows v) {event : Event} (hevent : event.restored? = none) :
    v.Retires m thread s₀ (t.note event) :=
  ⟨h.1.noted hv hevent, h.2.of_contexts rfl⟩

theorem reduced (hc : c.number < s₀.nextContext)
    {f : ScopeContext.Record → ScopeContext.Record} (hf : c.Retains (c.update f t) t) :
    v.Retires m thread s₀ (c.update f t) := by
  have hother : ∀ x : ScopeContext, x ≠ c → (c.update f t).context x = t.context x :=
    fun x hx => ScopeContext.context_update_of_ne hx f t
  refine ⟨{ h.1 with retains := fun x hnew hissued => ?_ }, h.2.of_retains fun x _ => ?_⟩
  · refine (h.1.retains x hnew hissued).trans (.of_eq (hother x ?_))
    rintro rfl
    exact Nat.not_lt_of_le hnew hc
  · by_cases hx : x = c
    · exact hx ▸ hf
    · exact .of_eq (hother x hx).symm

theorem entryTaken (hc : c.number < s₀.nextContext) (id : ContextualId) :
    v.Retires m thread s₀ (c.takeEntry id t).2 :=
  h.reduced (f := fun r => { r with entries := r.entries.erase id }) hc
    (ScopeContext.retains_takeEntry id)

theorem conversationsTaken (hc : c.number < s₀.nextContext) :
    v.Retires m thread s₀ (c.takeConversations t).2 :=
  h.reduced (f := fun r => { r with conversations := ∅ }) hc
    ScopeContext.retains_takeConversations

theorem described {e : Episode} (he : e.number < s₀.nextEpisode)
    (f : Episode.Record → Episode.Record) : v.Retires m thread s₀ (e.update f t) := by
  refine ⟨{ h.1 with retains := ?_, owns := ?_ }, h.2.of_contexts rfl⟩
  · exact fun x hnew hissued => (h.1.retains x hnew hissued).trans (.of_eq rfl)
  · intro x hnew hissued unit inst hd
    have hne : x ≠ e := by
      rintro rfl
      exact Nat.not_lt_of_le hnew he
    rw [Episode.episode_update, if_neg hne]
    exact h.1.owns x hnew hissued unit inst hd

end Store.Retires

namespace Host.Respects

variable (h : host.Respects m s₀) (hv : s₀.Follows v)

include h hv

theorem releaseKeeps {e : Episode} (he : e.number < s₀.nextEpisode) :
    e.ReleaseKeeps True host (v.Retires m host.thread s₀) where
  taken _ _ _ _ ht _ := (ht.described he _).noted hv rfl
  reported _ _ ht := ht.noted hv rfl
  destroy unit inst t ht := (h.destroy unit inst e t (hv.trans ht.1.toFollows) ht.2).mono
    fun _ _ => ht.trans
  flagged _ _ ht := ht.described he _
  released _ _ ht := ht.noted hv rfl
  release outer t ht := (h.release outer t (hv.trans ht.1.toFollows) ht.2).mono fun _ _ => ht.trans

theorem destroyBag {b : Bag} (hb : b.episode.number < s₀.nextEpisode) :
    Act.Keeps True (v.Retires m host.thread s₀) (b.destroy host) :=
  fun _ ht => Bag.wp_destroy_of (h.releaseKeeps hv hb) (ht.noted hv rfl)

theorem closes :
    host.Closes True (v.Retires m host.thread s₀) (·.number < s₀.nextContext) where
  ascending := .inl trivial
  reported _ _ ht := ht.noted hv rfl
  entry c id hc := by
    apply ScopeContext.destroyEntry_keeps
    · exact fun _ _ ht => ht.noted hv rfl
    · exact fun t ht _ => ht.entryTaken hc id
    · intro b t ht hb
      exact h.destroyBag hv (ht.2.episode c id b hc hb) _ (ht.entryTaken hc id)
  ended listener m' kind c t ht :=
    (h.ended listener m' kind c t (hv.trans ht.1.toFollows) ht.2).mono fun _ _ => ht.trans
  mourned _ _ _ _ ht := ht.noted hv rfl
  deactivated _ _ hc ht := ht.reduced hc (ScopeContext.retains_setActive false)
  emptied c t hc ht := by
    refine ⟨ht.conversationsTaken hc, fun w hw => ?_⟩
    obtain ⟨row, hrow, rfl⟩ := List.mem_map.1 hw
    exact ht.2.conversation c row.1 row.2 hc (Table.get?_eq_some_iff.2 hrow)

theorem announce (c : ScopeContext) : Run.Keeps True (v.Preserves m host.thread s₀)
    (m.announce host .initialized .session c) :=
  Container.announce_keeps (fun _ ht => ht.noted hv rfl) (fun _ _ ht => ht.noted hv rfl)
    fun l t ht => (h.initialized l c t (hv.trans ht.toFollows)).mono fun _ _ => ht.trans

end Host.Respects

theorem Store.Spares.placed {kept : ScopeContext → Prop} (h : s.Spares m s₀ kept u)
    (hc : s₀.nextContext ≤ c.number) (hkept : kept c → s.nextContext ≤ c.number)
    (m' : Container) (thread : Thread) (kind : ScopeKind) :
    s.Spares m s₀ kept (m'.place thread kind (c, u)) :=
  let hactive := h.updated hc hkept fun r => { r with active := true }
  { hactive with dated := fun hs => (hactive.dated hs).of_contexts rfl }

theorem ScopeContext.retains_place (m' : Container) (thread : Thread) (kind : ScopeKind) :
    c.Retains u (m'.place thread kind (c, u)) := by
  have hrecord : (m'.place thread kind (c, u)).context c = { u.context c with active := true } :=
    context_update c (fun r => { r with active := true }) u
  exact ⟨fun id b hb => by rwa [live, hrecord], fun id w hw => by rwa [conversation?, hrecord]⟩

theorem Store.Preserves.holds {m' : Container} {kind : ScopeKind}
    (h : (m'.place thread kind (c, u)).Preserves m thread s₀ t)
    (hnew : s₀.nextContext ≤ c.number) (hissued : c.number < u.nextContext)
    (hsecured : ∀ p ∈ s₀.restoredSince u, c.Secures u s₀ p) :
    ∀ p ∈ s₀.restoredSince t, c.Holds t p := by
  intro p hp
  have huv : u.Spares m s₀ (· ≠ c) (m'.place thread kind (c, u)) :=
    (Store.Spares.refl m s₀ _ u).placed hnew (fun hne => absurd rfl hne) m' thread kind
  have hkept := ScopeContext.retains_place (c := c) (u := u) m' thread kind
  have hplaced := huv.conserves_but hkept
  have hlater := h.retains c hnew (Nat.lt_of_lt_of_le hissued huv.contexts)
  have hv := (hsecured p (h.restored hp)).conserved hplaced hkept
  exact (hv.conserved h.toConserves hlater).holds

namespace Container

theorem attach_respects (h : host.Respects m s₀) (hu : s₀.Follows u) (hdated : s₀.Dated u)
    (hc : s₀.nextContext ≤ c.number)
    (hprevious : ∀ p, m.slot host.thread .session u = some p → p.number < s₀.nextContext) :
    Act.wp True (m.start host .session { session := some c }) (fun _ t =>
      (m.place host.thread .session (c, u)).Preserves m host.thread s₀ t) u := by
  let v := m.place host.thread .session (c, u)
  have huv : u.Spares m s₀ (· ≠ c) v :=
    (Store.Spares.refl m s₀ _ u).placed hc (fun hne => absurd rfl hne) m host.thread .session
  have hv : s₀.Follows v := hu.trans huv.toFollows
  have hstart : v.Preserves m host.thread s₀ v := .refl v m host.thread s₀
  have hannounce := h.announce hv c
  simp only [start, Act.wp_inScope, startSlot, Act.wp_bind, Act.wp_modifyGet, Act.wp_modify]
  split
  · rename_i p hp
    split
    · have hretire := (h.closes hv).retire (m := m) .session (hprevious p hp)
      simp only [Act.wp_bind, Act.wp_liftM]
      apply (hretire v ⟨hstart, huv.dated hdated⟩).mono
      intro r t ht
      cases r with
      | ok _ => exact hannounce t ht.1
      | error error => exact ht.1
    · rw [Act.wp_liftM]
      exact hannounce v hstart
  · rw [Act.wp_liftM]
    exact hannounce v hstart

/-- What depends only on the journal and on the slots of threads is kept while a context is being
restored. -/
theorem restoreContext_keeps {Inv : Store σ → Prop}
    (hrestore : ∀ unit state, Act.Keeps True Inv (host.restore unit state))
    (hrestored : ∀ unit inst s, Inv s → Inv (s.note (.restored unit inst)))
    (hmade : ∀ s t : Store σ, s.Follows t → t.journal = s.journal → t.scopes = s.scopes →
      Inv s → Inv t) (x : ContextSnapshot) :
    Act.Keeps True Inv (m.restoreContext host x) := by
  have hsame : ∀ s t : Store σ, t.nextContext = s.nextContext → t.nextEpisode = s.nextEpisode →
      t.journal = s.journal → t.scopes = s.scopes → Inv s → Inv t :=
    fun s t hcontext hepisode hjournal => hmade s t
      ⟨Nat.le_of_eq hcontext.symm, Nat.le_of_eq hepisode.symm,
        Nat.le_of_eq (by rw [hjournal])⟩ hjournal
  have hrestores : host.Restores (fun _ => True) fun _ => Inv := {
    restore _ := hrestore
    restored _ b := hrestored b.contextual b.inst
    begun _ _ _ _ s := hmade s _ ⟨Nat.le_refl _, Nat.le_succ _, Nat.le_refl _⟩ rfl rfl
    registered _ _ s := hsame s _ rfl rfl rfl rfl
    placed _ _ _ s _ := hsame s _ rfl rfl rfl rfl }
  have hrebuilds : host.Rebuilds fun _ => Inv := {
    entry c _ m' entry := hrestores.restoreEntry [] m' trivial entry
    begun _ _ s := hmade s _ ⟨Nat.le_succ _, Nat.le_refl _, Nat.le_refl _⟩ rfl rfl
    done _ _ _ := id
    converse _ _ _ _ s := hsame s _ rfl rfl rfl rfl
    listed _ _ _ _ _ s hs _ := hsame s _ rfl rfl rfl rfl hs }
  exact hrebuilds.restoreContext_keeps m x []

variable {x : ContextSnapshot}

/-- How the restoration of a session ends. Either the snapshot is not one of a session; or restoring
failed, then the session of the thread is the one before, and nothing was destroyed, whatever had
been restored by then; or the session of the thread has everything that was restored, even if the
answer is an error. -/
inductive SessionRestored (host : Host σ) (m : Container) (x : ContextSnapshot) (s : Store σ) :
    Except LifecycleError ScopeContext → Store σ → Prop where
  | refused (hkind : x.kind ≠ .session) : SessionRestored host m x s
      (.error (.config s!"cannot activate a {x.kind.name} context as a session")) s
  | failed {error t} (hrun : (m.restoreContext host x).run.run s = some (.error error, t))
      (hslot : m.slot host.thread .session t = m.slot host.thread .session s)
      (hnone : (∀ unit state, Act.Keeps True
          (fun t => t.since Event.destruction? s.journal.size = []) (host.restore unit state)) →
        t.since Event.destruction? s.journal.size = []) :
      SessionRestored host m x s (.error error) t
  | attached {answer c t} (hnew : s.nextContext ≤ c.number) (hanswer : ∀ d, answer = .ok d → d = c)
      (hslot : m.slot host.thread .session t = some c)
      (hall : ∀ p ∈ s.restoredSince t, c.Holds t p) : SessionRestored host m x s answer t

section Restored

variable (hhost : host.Respects m s)

include hhost

theorem restoreContext_slot : Act.wp True (m.restoreContext host x) (fun _ t =>
    m.slot host.thread .session t = m.slot host.thread .session s) s := by
  let Inv : Store σ → Prop := fun t => s.Follows t ∧
    m.slot host.thread .session t = m.slot host.thread .session s
  have hkeeps : Act.Keeps True Inv (m.restoreContext host x) := by
    apply restoreContext_keeps
    · exact fun unit state t ht => (hhost.restore unit state t ht.1).mono
        fun _ _ hu => ⟨ht.1.trans hu.toFollows, hu.slot.trans ht.2⟩
    · exact fun _ _ t ht => ⟨ht.1.trans (t.follows_note _), ht.2⟩
    · intro t u hfollows _ hscopes ht
      refine ⟨ht.1.trans hfollows, Eq.trans ?_ ht.2⟩
      exact slot_congr hscopes m host.thread .session
  exact (hkeeps s ⟨.refl s, rfl⟩).mono fun _ _ ht => ht.2

/-- Restoring destroys nothing, whatever fails, unless callbacks do. -/
theorem restoreContext_destroys_nothing (hrestore : ∀ unit state, Act.Keeps True
      (fun t => t.since Event.destruction? s.journal.size = []) (host.restore unit state)) :
    Act.wp True (m.restoreContext host x)
      (fun _ t => t.since Event.destruction? s.journal.size = []) s := by
  let Inv : Store σ → Prop := fun t => s.Follows t ∧
    t.since Event.destruction? s.journal.size = []
  have hkeeps : Act.Keeps True Inv (m.restoreContext host x) := by
    apply restoreContext_keeps
    · exact fun unit state t ht => ((hhost.restore unit state t ht.1).and
        (hrestore unit state t ht.2)).mono fun _ _ hu => ⟨ht.1.trans hu.1.toFollows, hu.2⟩
    · intro unit inst t ht
      refine ⟨ht.1.trans (t.follows_note _), ?_⟩
      rw [Store.since_note ht.1.journal, ht.2]
      rfl
    · intro t u hfollows hjournal _ ht
      refine ⟨ht.1.trans hfollows, ?_⟩
      rw [Store.since, hjournal]
      exact ht.2
  exact (hkeeps s ⟨.refl s, Store.since_size _ s⟩).mono fun _ _ ht => ht.2

/-- If the entries of each context are of different ids, then a session that can be restored has
all that was restored when the request returns. -/
theorem restoreSession_secures (hdated : s.Dated s)
    (hprevious : ∀ p, m.slot host.thread .session s = some p → p.number < s.nextContext)
    (hapart : x.Apart (s.container m).beans) {answer : Except LifecycleError ScopeContext}
    (hrun : (m.restoreSession host x).run.run s = some (answer, t)) :
    SessionRestored host m x s answer t := by
  suffices h : Act.wp True (m.restoreSession host x) (SessionRestored host m x s) s from
    (Act.wp_of_run hrun).1 h
  have hgoal : Act.wp True (do
      let session ← m.restoreContext host x
      m.start host .session { session := some session }
      return session) (SessionRestored host m x s) s := by
    rw [Act.wp_bind]
    apply (Act.wp_outcome (m.restoreContext host x) s).mono
    intro r u hrestored
    have hslot := (Act.wp_of_run hrestored).1 (restoreContext_slot hhost)
    cases r with
    | error error =>
      refine .failed hrestored hslot fun hrestore => ?_
      exact (Act.wp_of_run hrestored).1 (restoreContext_destroys_nothing hhost hrestore)
    | ok c =>
      have hachieved := restoreContext_achieves hhost x s (.refl s) hapart
      obtain ⟨hnew, hissued, hsu, hall⟩ := (Act.wp_of_run hrestored).1 hachieved c rfl
      have hattached := attach_respects hhost hsu.toFollows (hsu.dated hdated) hnew
        fun p hp => hprevious p (hslot.symm.trans hp)
      have hsecured : ∀ p ∈ s.restoredSince u, c.Secures u s p := by
        intro p hp
        rcases hall p hp with hp | hp
        · rw [Store.restoredSince, Store.since_size] at hp
          cases hp
        · exact hp
      simp only [Act.wp_bind, Act.wp_pure]
      apply hattached.mono
      intro r t ht
      have hholds := ht.holds hnew hissued hsecured
      have hslot' := slot_place m m host.thread host.thread .session .session (c, u)
      have hplaced := ht.slot.trans (hslot'.trans (if_pos ⟨rfl, rfl⟩))
      cases r with
      | ok _ => exact .attached hnew (fun _ hd => (Except.ok.inj hd).symm) hplaced hholds
      | error error => exact .attached hnew (fun _ hd => by cases hd) hplaced hholds
  simp only [restoreSession]
  split
  · rename_i hkind
    exact .refused hkind
  · exact hgoal

end Restored

theorem keeping_respects (thread : Thread) (m : Container) (s₀ : Store States) :
    (Host.keeping thread).Respects m s₀ where
  restore _ _ s _ := {
    Store.Spares.refl m s₀ _ s with
    dated := fun hs => hs.of_contexts rfl
    restored := List.Subset.refl _
    slot := rfl }
  destroy _ _ _ s _ hs := ⟨.refl s m thread s₀, hs⟩
  release _ s _ hs := ⟨.refl s m thread s₀, hs⟩
  ended _ _ _ _ s _ hs := ⟨.refl s m thread s₀, hs⟩
  initialized _ _ s _ := .refl s m thread s₀

theorem dated_of_rows (h : ∀ row ∈ s.contexts.rows,
      (∀ entry ∈ row.2.entries.rows, ∀ b ∈ entry.2.bag?, b.episode.number < s₀.nextEpisode) ∧
      ∀ listed ∈ row.2.conversations.rows, listed.2.context.number < s₀.nextContext) :
    s₀.Dated s where
  episode c id b _ hb := by
    obtain ⟨cell, hcell, hlive⟩ := Option.bind_eq_some_iff.1 hb
    obtain hnone | ⟨row, hrow, hsame⟩ := s.context_cases c
    · rw [hnone] at hcell
      cases hcell
    · rw [hsame] at hcell
      exact (h row hrow).1 (id, cell) (Table.get?_eq_some_iff.1 hcell) b hlive
  conversation c id w _ hw := by
    obtain hnone | ⟨row, hrow, hsame⟩ := s.context_cases c
    · rw [ScopeContext.conversation?, hnone] at hw
      cases hw
    · rw [ScopeContext.conversation?, hsame] at hw
      exact (h row hrow).2 (id, w) (Table.get?_eq_some_iff.1 hw)

/-- A session with a cart is restored while another one with a cart is torn down. -/
theorem restoreSession_secures_carts :
    let cart : Contextual := ⟨1, ⟨"cart"⟩, .bean .session (some "cart"), true, true⟩
    let item : Contextual := ⟨2, ⟨"item"⟩, .plain, true, true⟩
    let host : Host States := .keeping ⟨"main"⟩
    let m : Container := ⟨1⟩
    let s₀ : Store States :=
      (new { restartPolicy := .destroyPrevious } [] false { surroundings := ∅ }).2
    let s₁ := m.registerAs "item" item (m.registerAs "cart" cart s₀)
    let begun := m.newEpisode (some cart) s₁
    let opened := ScopeContext.new .session begun.2
    let b : Bag := ⟨cart, ⟨7⟩, begun.1⟩
    let s := m.place host.thread .session (opened.1, opened.1.setCell cart.id ⟨0, .live b⟩ opened.2)
    let entry : EntrySnapshot := ⟨"cart", .null, ⟨some "cart", [⟨"item", .null⟩]⟩⟩
    let x : ContextSnapshot := ⟨.session, [entry], [⟨"1", 1, ⟨.conversation, [entry], []⟩⟩]⟩
    ∃ c t, (m.restoreSession host x).run.run s = some (.ok c, t) ∧
      (s.restoredSince t).map (·.1) = [item, cart, item, cart] ∧
      t.since Event.destruction? s.journal.size = [b] ∧
      SessionRestored host m x s (.ok c) t := by
  intro cart item host m s₀ s₁ begun opened b s entry x
  have hseen : ((m.restoreSession host x).answer? s).map (fun o =>
      ((s.restoredSince o.2).map (·.1), o.2.since Event.destruction? s.journal.size)) =
      some ([item, cart, item, cart], [b]) := by
    decide +kernel
  obtain ⟨⟨c, t⟩, hrun, hall⟩ := Option.map_eq_some_iff.1 hseen
  obtain ⟨hrestored, hdestroyed⟩ := Prod.mk.inj hall
  rw [Act.answer?_eq_some_iff] at hrun
  have hdated : s.Dated s := dated_of_rows (by decide +kernel)
  have hprevious : ∀ p, m.slot host.thread .session s = some p → p.number < s.nextContext := by
    rintro _ ⟨⟩
    decide +kernel
  have hapart : x.Apart (s.container m).beans :=
    ⟨by decide +kernel, ⟨by decide +kernel, trivial⟩, trivial⟩
  exact ⟨c, t, hrun, hrestored, hdestroyed,
    restoreSession_secures (keeping_respects _ m s) hdated hprevious hapart hrun⟩

/-- The second entry is of an unknown definition: the cart that was restored before it is neither in
a session nor destroyed. -/
theorem restoreSession_drops :
    let cart : Contextual := ⟨1, ⟨"cart"⟩, .bean .session (some "cart"), true, true⟩
    let host : Host States := .keeping ⟨"main"⟩
    let m : Container := ⟨1⟩
    let s : Store States := m.registerAs "cart" cart (new {} [] false { surroundings := ∅ }).2
    let x : ContextSnapshot := ⟨.session,
      [⟨"cart", .null, ⟨none, []⟩⟩, ⟨"log", .null, ⟨none, []⟩⟩], []⟩
    ∃ error t, (m.restoreSession host x).run.run s = some (.error error, t) ∧
      s.restoredSince t = [(cart, ⟨1⟩)] ∧ m.slot host.thread .session t = none ∧
      t.since Event.destruction? s.journal.size = [] := by
  intro cart host m s x
  have hseen : ((m.restoreSession host x).run.run s).map (fun o =>
      (o.1.toOption, s.restoredSince o.2, m.slot host.thread .session o.2,
        o.2.since Event.destruction? s.journal.size)) =
      some (none, [(cart, ⟨1⟩)], none, []) := by
    decide +kernel
  obtain ⟨⟨answer, t⟩, hrun, hall⟩ := Option.map_eq_some_iff.1 hseen
  simp only [Prod.mk.injEq] at hall
  obtain ⟨hanswer, hrestored, hslot, hdestroyed⟩ := hall
  cases answer with
  | ok c => cases hanswer
  | error error => exact ⟨error, t, hrun, hrestored, hslot, hdestroyed⟩

/-- Of two entries with one id the later one takes the place of the other, which is destroyed by
nobody. -/
example :
    let cart : Contextual := ⟨1, ⟨"cart"⟩, .bean .session (some "cart"), true, true⟩
    let host : Host States := .keeping ⟨"main"⟩
    let m : Container := ⟨1⟩
    let s : Store States := m.registerAs "cart" cart (new {} [] false { surroundings := ∅ }).2
    let entry : EntrySnapshot := ⟨"cart", .null, ⟨none, []⟩⟩
    ((m.restoreSession host ⟨.session, [entry, entry], []⟩).answer? s).map (fun o =>
      ((o.2.context o.1).bags.map (·.inst), (s.restoredSince o.2).map (·.2),
        (o.2.since Event.destruction? s.journal.size).map (·.inst))) =
      some ([⟨2⟩], [⟨1⟩, ⟨2⟩], []) := by
  decide +kernel

end Container

end ContextualLifecycle
