import ContextualLifecycle.Proofs.Snapshot.Sparing

namespace ContextualLifecycle

variable {σ : Type}

def Store.restoredSince (s₀ s : Store σ) : List (Contextual × Instance) :=
  s.since Event.restored? s₀.journal.size

/-- What was made since a moment is left alone. Nothing else is restored, and the session of a
thread stays. -/
structure Store.Respects (s : Store σ) (m : Container) (thread : Thread) (s₀ t : Store σ) :
    Prop extends s.Spares m s₀ (fun _ => True) t where
  restored : s₀.restoredSince t ⊆ s₀.restoredSince s
  slot : m.slot thread .session t = m.slot thread .session s

/-- What was made since a moment loses nothing, though it may get more. Nothing is restored, and the
session of a thread stays. -/
structure Store.Preserves (s : Store σ) (m : Container) (thread : Thread) (s₀ t : Store σ) :
    Prop extends s.Conserves s₀ t where
  restored : s₀.restoredSince t ⊆ s₀.restoredSince s
  slot : m.slot thread .session t = m.slot thread .session s

/-- From a moment on, callbacks that restore instances leave alone what is made for a session, and
others take nothing away from it. Until the session is announced, what was there before gets nothing
that came later. -/
structure Host.Respects (host : Host σ) (m : Container) (s₀ : Store σ) : Prop where
  restore : ∀ unit state s, s₀.Follows s → Act.wp True (host.restore unit state)
    (fun _ t => s.Respects m host.thread s₀ t) s
  destroy : ∀ unit inst e s, s₀.Follows s → s₀.Dated s → Act.wp True (host.destroy unit inst e)
    (fun _ t => s.Preserves m host.thread s₀ t ∧ s₀.Dated t) s
  release : ∀ outer s, s₀.Follows s → s₀.Dated s → Act.wp True (host.release outer)
    (fun _ t => s.Preserves m host.thread s₀ t ∧ s₀.Dated t) s
  ended : ∀ listener m' kind c s, s₀.Follows s → s₀.Dated s →
    Run.wp True (host.notify listener .destroyed m' kind c)
      (fun _ t => s.Preserves m host.thread s₀ t ∧ s₀.Dated t) s
  initialized : ∀ listener c s, s₀.Follows s →
    Run.wp True (host.notify listener .initialized m .session c)
      (fun _ t => s.Preserves m host.thread s₀ t) s

variable {host : Host σ} {m : Container} {s₀ s t u : Store σ} {c : ScopeContext}

theorem Contextual.restore_achieves (hhost : host.Respects m s₀) (hs : s₀.Follows s)
    (unit : Contextual) (state : Json) : (unit.restore host state).Achieves (fun inst t =>
      s.Spares m s₀ (fun _ => True) t ∧
        ∀ p ∈ s₀.restoredSince t, p ∈ s₀.restoredSince s ∨ p = (unit, inst)) s := by
  rw [restore]
  split
  · apply Act.Achieves.bind
    apply (hhost.restore unit state s hs).mono
    rintro _ t ht inst rfl
    refine .bind (.modify (.pure ⟨ht.toSpares.noted _, fun p hp => ?_⟩))
    rw [Store.restoredSince, Store.since_note (hs.trans ht.toFollows).journal,
      List.mem_append] at hp
    rcases hp with hp | hp
    · exact .inl (ht.restored hp)
    · exact .inr (by simpa [Event.restored?] using hp)
  · rintro _ ⟨⟩

theorem Episode.Record.owns_register (r : Episode.Record) (unit : Contextual) (inst : Instance)
    {p : Contextual × Instance} (h : r.owns p.1 p.2 = true ∨ p = (unit, inst)) :
    (r.register unit inst).owns p.1 p.2 = true := by
  rw [owns_iff] at h ⊢
  obtain ⟨⟨d, hd, htwin⟩, hsame⟩ | ⟨_, hplace⟩ := r.register_cases unit inst
  · rw [hsame]
    rcases h with h | rfl
    · exact h
    · exact ⟨d, hd, htwin⟩
  · have hmem : ∀ d, d ∈ (r.register unit inst).dependents ↔
        d = ⟨unit, inst⟩ ∨ d ∈ r.dependents := by
      intro d
      rcases hplace with hplace | hplace <;> rw [hplace] <;> simp [or_comm]
    rcases h with ⟨d, hd, htwin⟩ | rfl
    · exact ⟨d, (hmem d).2 (.inr hd), htwin⟩
    · exact ⟨_, (hmem _).2 (.inl rfl), rfl, rfl⟩

/-- An episode was begun, and it has what was restored since. -/
structure Store.Begets (s : Store σ) (m : Container) (s₀ : Store σ) (e : Episode) (t : Store σ) :
    Prop where
  spares : s.Spares m s₀ (fun _ => True) t
  new : s.nextEpisode ≤ e.number
  issued : e.number < t.nextEpisode
  restored : ∀ p ∈ s₀.restoredSince t,
    p ∈ s₀.restoredSince s ∨ (t.episode e).owns p.1 p.2 = true

namespace Container

theorem resolve_achieves {Q : Contextual → Store σ → Prop} {id : String}
    (h : ∀ unit, (s.container m).beans.get? id = some unit → Q unit s) :
    (m.resolve id).Achieves Q s := by
  rw [Act.Achieves]
  simp only [resolve, Beans.resolve, Act.wp_bind, Act.wp_get, Act.wp_liftExcept]
  cases hunit : (s.container m).beans.get? id with
  | none => rintro _ ⟨⟩
  | some unit =>
    rintro _ ⟨⟩
    exact h unit hunit

variable (hhost : host.Respects m s₀) (hs : s₀.Follows s)

include hhost hs

theorem restoreDependent_achieves {e : Episode} (d : DependentSnapshot)
    (ht : s.Begets m s₀ e t) :
    (m.restoreDependent host e d).Achieves (fun _ u => s.Begets m s₀ e u) t := by
  have hfollows := hs.trans ht.spares.toFollows
  refine .bind (resolve_achieves fun unit _ => .bind ?_)
  apply (unit.restore_achieves hhost hfollows d.state).mono
  intro inst u hu
  apply Act.Achieves.modify
  have hsame : u.episode e = t.episode e :=
    hu.1.episode e (Nat.le_trans hs.episodes ht.new) ht.issued
  have hrecord : (e.update (·.register unit inst) u).episode e =
      (t.episode e).register unit inst := by
    rw [Episode.episode_update_self, hsame]
  have hspares := (ht.spares.trans hu.1).described (fun _ => ht.new) (·.register unit inst)
  refine ⟨hspares, ht.new, Nat.lt_of_lt_of_le ht.issued hu.1.episodes, fun p hp => ?_⟩
  change (p ∈ s₀.restoredSince s) ∨
    ((e.update (·.register unit inst) u).episode e).owns p.1 p.2 = true
  rw [hrecord]
  rcases hu.2 p hp with hp | hp
  · exact (ht.restored p hp).imp_right fun hd => Episode.Record.owns_register _ _ _ (.inl hd)
  · exact .inr (Episode.Record.owns_register _ _ _ (.inr hp))

theorem restoreEpisode_achieves (x : EpisodeSnapshot) :
    (m.restoreEpisode host x).Achieves (fun e t => s.Begets m s₀ e t) s := by
  have hrest : ∀ owner, (do
      let e ← modifyGet (m.newEpisode owner)
      x.dependents.forM (m.restoreDependent host e)
      return e : Act σ Episode).Achieves (fun e t => s.Begets m s₀ e t) s := by
    intro owner
    refine .bind (.modifyGet (.bind ?_))
    let e : Episode := ⟨s.nextEpisode⟩
    have hbegun : s.Begets m s₀ e (Episode.new owner none (m.teardownFactor s) s).2 :=
      ⟨(Store.Spares.refl m s₀ _ s).begun owner none _, Nat.le_refl _, Nat.lt_succ_self _,
        fun p hp => .inl hp⟩
    have hall := Act.Achieves.forM (f := m.restoreDependent host e) (fun _ t => s.Begets m s₀ e t)
      (fun d _ t ht => restoreDependent_achieves hhost hs d ht) x.dependents hbegun
    exact hall.mono fun _ t ht => .pure ht
  rw [restoreEpisode]
  cases x.contextual with
  | none => exact .bind (.pure (hrest none))
  | some id => exact .bind (resolve_achieves fun unit _ => .bind (.pure (hrest (some unit))))

end Container

def EntrySnapshot.key? (beans : Beans) (x : EntrySnapshot) : Option ContextualId :=
  (beans.get? x.contextual).map (·.id)

mutual

/-- No two entries of one context are of definitions with one id. -/
def ContextSnapshot.Apart (beans : Beans) : ContextSnapshot → Prop
  | ⟨_, entries, conversations⟩ => (entries.filterMap (·.key? beans)).Nodup ∧
      ConversationSnapshot.AllApart beans conversations

def ConversationSnapshot.AllApart (beans : Beans) : List ConversationSnapshot → Prop
  | [] => True
  | v :: vs => v.Apart beans ∧ ConversationSnapshot.AllApart beans vs

def ConversationSnapshot.Apart (beans : Beans) : ConversationSnapshot → Prop
  | ⟨_, _, context⟩ => context.Apart beans

end

/-- A context loses nothing, and what was restored has its place in it. -/
structure ScopeContext.Gathers (c : ScopeContext) (m : Container) (s₀ s t : Store σ) : Prop where
  spares : s.Spares m s₀ (· ≠ c) t
  retains : c.Retains s t
  restored : ∀ p ∈ s₀.restoredSince t, p ∈ s₀.restoredSince s ∨ c.Secures t s₀ p

theorem ScopeContext.Gathers.refl (c : ScopeContext) (m : Container) (s₀ s : Store σ) :
    c.Gathers m s₀ s s where
  spares := .refl m s₀ _ s
  retains := .of_eq rfl
  restored _ := .inl

theorem ScopeContext.Gathers.trans (h : c.Gathers m s₀ s t) (h' : c.Gathers m s₀ t u) :
    c.Gathers m s₀ s u where
  spares := h.spares.trans h'.spares
  retains := h.retains.trans h'.retains
  restored p hp := by
    have hconserves : t.Conserves s₀ u := h'.spares.conserves_but h'.retains
    rcases h'.restored p hp with hp | hp
    · exact (h.restored p hp).imp_right fun hsecures => hsecures.conserved hconserves h'.retains
    · exact .inr hp

namespace Container

variable (hhost : host.Respects m s₀)

include hhost

theorem restoreEntry_achieves (hs : s₀.Follows s) (hc : s₀.nextContext ≤ c.number)
    (hissued : c.number < s.nextContext) (x : EntrySnapshot)
    (hfree : ∀ id, x.key? (s.container m).beans = some id → (s.context c).entries.get? id = none) :
    (m.restoreEntry host c x).Achieves (fun _ t => c.Gathers m s₀ s t ∧
      ∀ id, (s.context c).entries.get? id = none → x.key? (s.container m).beans ≠ some id →
        (t.context c).entries.get? id = none) s := by
  refine .bind (resolve_achieves fun unit hunit => .bind ?_)
  have hkey : x.key? (s.container m).beans = some unit.id := by
    rw [EntrySnapshot.key?, hunit]
    rfl
  apply (restoreEpisode_achieves hhost hs x.episode).mono
  intro e t ht
  refine .bind ((unit.restore_achieves hhost (hs.trans ht.spares.toFollows) x.state).mono ?_)
  rintro inst u ⟨htu, hrestored⟩
  refine .bind (.modifyGet (.bind (.modify (.modify ?_))))
  let b : Bag := ⟨unit, inst, e⟩
  let v := c.setCell unit.id ⟨u.nextCell, .live b⟩ { u with nextCell := u.nextCell + 1 }
  have hsu := ht.spares.trans htu
  have hsame : u.context c = s.context c := hsu.context c trivial hc hissued
  have hcell : ∀ id, (v.context c).entries.get? id =
      if id = unit.id then some ⟨u.nextCell, .live b⟩ else (s.context c).entries.get? id := by
    intro id
    rw [← hsame]
    simp only [v, ScopeContext.setCell, ScopeContext.context_update, Table.get?_insert]
    rfl
  have hlive : ∀ id, c.live v id = if id = unit.id then some b else c.live s id := by
    intro id
    rw [ScopeContext.live, hcell]
    split <;> rfl
  change c.Gathers m s₀ s v ∧ ∀ id, _ → _ → (v.context c).entries.get? id = none
  refine ⟨⟨?_, ⟨fun id b' hb' => ?_, fun id w hw => ?_⟩, fun p hp => ?_⟩, fun id hnone hne => ?_⟩
  · exact ((hsu.weaken fun _ _ _ => trivial).numbered _).updated hc (fun h => absurd rfl h) _
  · rw [hlive, if_neg]
    · exact hb'
    · rintro rfl
      rw [ScopeContext.live, hfree _ hkey] at hb'
      cases hb'
  · rw [ScopeContext.conversation?, ← hsame] at hw
    simp only [v, ScopeContext.conversation?, ScopeContext.setCell, ScopeContext.context_update]
    exact hw
  · have hplace : c.live v unit.id = some b := by rw [hlive, if_pos rfl]
    rcases hrestored p hp with hp | rfl
    · refine (ht.restored p hp).imp_right fun hd => ?_
      have hnew := Nat.le_trans hs.episodes ht.new
      refine .dependent hplace hnew (Nat.lt_of_lt_of_le ht.issued htu.episodes) ?_
      rw [← htu.episode e hnew ht.issued] at hd
      exact hd
    · exact .inr (.entry hplace)
  · rw [hcell, if_neg]
    · exact hnone
    · rintro rfl
      exact hne hkey

theorem restoreEntries_achieves (hs : s₀.Follows s) (hc : s₀.nextContext ≤ c.number)
    (hissued : c.number < s.nextContext) (hempty : (s.context c).entries = ∅)
    (xs : List EntrySnapshot) (hapart : (xs.filterMap (·.key? (s.container m).beans)).Nodup) :
    (xs.forM (m.restoreEntry host c)).Achieves (fun _ t => c.Gathers m s₀ s t) s := by
  let beans := (s.container m).beans
  let Inv : List EntrySnapshot → Store σ → Prop := fun left t => c.Gathers m s₀ s t ∧
    (left.filterMap (·.key? beans)).Nodup ∧
    ∀ id ∈ left.filterMap (·.key? beans), (t.context c).entries.get? id = none
  have hstart : Inv xs s := by
    refine ⟨.refl c m s₀ s, hapart, fun id _ => ?_⟩
    rw [hempty]
    rfl
  refine (Act.Achieves.forM Inv ?_ xs hstart).mono fun _ t ht => ht.1
  rintro x left t ⟨ht, hnodup, hfree⟩
  have hbeans : (t.container m).beans = beans := ht.spares.beans
  have hmem : ∀ id, x.key? beans = some id → id ∈ (x :: left).filterMap (·.key? beans) := by
    intro id hid
    rw [List.filterMap_cons_some hid]
    exact List.mem_cons_self
  have hleft : ∀ id ∈ left.filterMap (·.key? beans),
      id ∈ (x :: left).filterMap (·.key? beans) ∧ x.key? beans ≠ some id := by
    intro id hid
    cases hkey : x.key? beans with
    | none =>
      rw [List.filterMap_cons_none hkey]
      exact ⟨hid, nofun⟩
    | some own =>
      rw [List.filterMap_cons_some hkey] at hnodup ⊢
      refine ⟨List.mem_cons_of_mem _ hid, ?_⟩
      rintro ⟨⟩
      exact (List.nodup_cons.1 hnodup).1 hid
  apply (restoreEntry_achieves hhost (hs.trans ht.spares.toFollows) hc
    (Nat.lt_of_lt_of_le hissued ht.spares.contexts) x ?_).mono
  · rintro _ u ⟨hu, hrest⟩
    rw [hbeans] at hrest
    refine ⟨ht.trans hu, ?_, fun id hid => ?_⟩
    · exact hnodup.sublist ((List.sublist_cons_self x left).filterMap _)
    · exact hrest id (hfree id (hleft id hid).1) (hleft id hid).2
  · rw [hbeans]
    exact fun id hid => hfree id (hmem id hid)

omit hhost in
theorem addRestored_achieves {w : ScopeContext} {id : String} {timeout : Duration}
    (hst : s.Spares m s₀ (fun _ => True) t) (hc : s₀.nextContext ≤ c.number)
    (hissued : c.number < s.nextContext) (hw : s.nextContext ≤ w.number)
    (hissuedw : w.number < t.nextContext)
    (hrestored : ∀ p ∈ s₀.restoredSince t, p ∈ s₀.restoredSince s ∨ w.Secures t s₀ p) :
    (do
      modify (w.setActive true)
      let v ← modifyGet (Conversation.around w id timeout)
      modify v.promote
      c.addConversation v : Act σ Unit).Achieves (fun _ u => c.Gathers m s₀ s u) t := by
  have hcw : c.number < w.number := Nat.lt_of_lt_of_le hissued hw
  have hnew : s₀.nextContext ≤ w.number := Nat.le_of_lt (Nat.lt_of_le_of_lt hc hcw)
  have hne : c ≠ w := by
    rintro rfl
    exact Nat.lt_irrefl _ hcw
  let made := w.converse id timeout t
  have hmade : made.context c = s.context c :=
    (ScopeContext.context_update_of_ne hne (fun r => { r with active := true }) t).trans
      (hst.context c trivial hc hissued)
  apply ScopeContext.wp_converse
  · exact fun _ _ _ h => nomatch h
  intro hfree _ _
  let u := c.putConversation id ⟨w⟩ made
  have hrecord : u.context c =
      { s.context c with conversations := (s.context c).conversations.insert id ⟨w⟩ } := by
    rw [← hmade]
    exact ScopeContext.context_update c _ made
  have hsu : s.Spares m s₀ (· ≠ c) u :=
    ((hst.weaken fun _ _ _ => trivial).converse hnew (fun _ => hw) id timeout).updated hc
      (fun h => absurd rfl h) _
  have hretains : c.Retains s u := by
    refine ⟨fun _ _ hb => by rwa [ScopeContext.live, hrecord], fun id' v hv => ?_⟩
    rw [ScopeContext.conversation?, hrecord, Table.get?_insert, if_neg]
    · exact hv
    · rintro rfl
      rw [ScopeContext.conversation?, hmade] at hfree
      rw [ScopeContext.conversation?, hfree] at hv
      cases hv
  have hkept : w.Retains t u := by
    have hsame : u.context w = { t.context w with active := true } :=
      (ScopeContext.context_update_of_ne hne.symm _ made).trans
        (ScopeContext.context_update w (fun r => { r with active := true }) t)
    exact ⟨fun _ _ hb => by rwa [ScopeContext.live, hsame],
      fun _ _ hv => by rwa [ScopeContext.conversation?, hsame]⟩
  have htu : t.Spares m s₀ (fun y => y ≠ c ∧ y ≠ w) u :=
    ((Store.Spares.refl m s₀ _ t).converse hnew (fun h => absurd rfl h.2) id timeout).updated hc
      (fun h => absurd rfl h.1) _
  have hconserves : t.Conserves s₀ u := by
    refine htu.conserves fun y hy => ?_
    by_cases hyc : y = c
    · rw [hyc]
      exact (ScopeContext.Retains.of_eq (hst.context c trivial hc hissued).symm).trans hretains
    · by_cases hyw : y = w
      · exact hyw ▸ hkept
      · exact absurd ⟨hyc, hyw⟩ hy
  refine ⟨hsu, hretains, fun p hp => (hrestored p hp).imp_right fun hsecures => ?_⟩
  have hlisted : c.conversation? id u = some ⟨w⟩ := by
    rw [ScopeContext.conversation?, hrecord, Table.get?_insert, if_pos rfl]
  exact .nested hlisted hnew (Nat.lt_of_lt_of_le hissuedw htu.contexts)
    (hsecures.conserved hconserves hkept)

omit hhost

mutual

/-- A context that can be restored is a new one, and has all that was restored meanwhile. -/
theorem restoreContext_achieves (hhost : host.Respects m s₀) : (x : ContextSnapshot) →
    ∀ s : Store σ, s₀.Follows s → x.Apart (s.container m).beans →
      (m.restoreContext host x).Achieves (fun w t => s.nextContext ≤ w.number ∧
        w.number < t.nextContext ∧ s.Spares m s₀ (fun _ => True) t ∧
        ∀ p ∈ s₀.restoredSince t, p ∈ s₀.restoredSince s ∨ w.Secures t s₀ p) s
  | ⟨kind, entries, conversations⟩ => by
    rintro s hs ⟨hentries, hconversations⟩
    simp only [restoreContext]
    let c : ScopeContext := ⟨s.nextContext⟩
    let t := (ScopeContext.new kind s).2
    have hst : s.Spares m s₀ (fun _ => True) t := (Store.Spares.refl m s₀ _ s).opened kind
    have ht : t.context c = { kind } := ScopeContext.context_new kind s
    have hempty : (t.context c).entries = ∅ := by rw [ht]
    have hissued : c.number < t.nextContext := Nat.lt_succ_self _
    refine .bind (.modifyGet (.bind ?_))
    apply (restoreEntries_achieves hhost (hs.trans hst.toFollows) hs.contexts hissued hempty
      entries hentries).mono
    intro _ u htu
    have hbeans : (u.container m).beans = (s.container m).beans := htu.spares.beans
    refine .bind ((restoreConversations_achieves hhost c conversations u
      ((hs.trans hst.toFollows).trans htu.spares.toFollows) hs.contexts
      (Nat.lt_of_lt_of_le hissued htu.spares.contexts) (hbeans ▸ hconversations)).mono ?_)
    intro _ v huv
    have htv := htu.trans huv
    have hsv := (hst.weaken fun _ _ _ => trivial).trans htv.spares
    refine .pure ⟨Nat.le_refl _, Nat.lt_of_lt_of_le hissued htv.spares.contexts,
      hsv.weaken ?_, htv.restored⟩
    rintro _ hold - rfl
    exact Nat.lt_irrefl _ hold

theorem restoreConversations_achieves (hhost : host.Respects m s₀) (c : ScopeContext) :
    (vs : List ConversationSnapshot) → ∀ s : Store σ, s₀.Follows s →
      s₀.nextContext ≤ c.number → c.number < s.nextContext →
      ConversationSnapshot.AllApart (s.container m).beans vs →
      (m.restoreConversations host c vs).Achieves (fun _ t => c.Gathers m s₀ s t) s
  | [] => fun s _ _ _ _ => .pure (.refl c m s₀ s)
  | v :: vs => by
    rintro s hs hc hissued ⟨hv, hvs⟩
    rw [restoreConversations]
    refine .bind ((restoreConversation_achieves hhost c v s hs hc hissued hv).mono ?_)
    intro _ t hst
    have hbeans : (t.container m).beans = (s.container m).beans := hst.spares.beans
    apply (restoreConversations_achieves hhost c vs t (hs.trans hst.spares.toFollows) hc
      (Nat.lt_of_lt_of_le hissued hst.spares.contexts) (hbeans ▸ hvs)).mono
    exact fun _ u htu => hst.trans htu

theorem restoreConversation_achieves (hhost : host.Respects m s₀) (c : ScopeContext) :
    (v : ConversationSnapshot) → ∀ s : Store σ, s₀.Follows s →
      s₀.nextContext ≤ c.number → c.number < s.nextContext → v.Apart (s.container m).beans →
      (m.restoreConversation host c v).Achieves (fun _ t => c.Gathers m s₀ s t) s
  | ⟨id, timeoutMs, context⟩ => by
    intro s hs hc hissued hapart
    simp only [restoreConversation]
    refine .bind ((restoreContext_achieves hhost context s hs hapart).mono ?_)
    rintro w t ⟨hw, hissuedw, hst, hrestored⟩
    exact addRestored_achieves hst hc hissued hw hissuedw hrestored

end

end Container

end ContextualLifecycle
