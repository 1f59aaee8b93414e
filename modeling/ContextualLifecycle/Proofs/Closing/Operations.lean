import ContextualLifecycle.Proofs.Closing.Entries
import ContextualLifecycle.Proofs.Container.Stop

namespace ContextualLifecycle

variable {σ α : Type} {w : Closing σ} {host : Host (Watched library σ)}
  {s t u : Store (Watched library σ)} {c : ScopeContext}

namespace Closing

/-- Everything in use was issued, and the contexts that were there at first still count as such. -/
structure Sound (w : Closing σ) (s : Store (Watched library σ)) : Prop where
  issued : s.Issued
  known : w.known ≤ s.nextContext

theorem Ebbs.sound {owed : Debt → Prop} (h : w.Ebbs owed s t) (hs : w.Sound s) : w.Sound t :=
  ⟨h.issued hs.issued, Nat.le_trans hs.known h.contexts⟩

/-- Scopes only ended since a sound store. -/
structure Ebbed (w : Closing σ) (s t : Store (Watched library σ)) : Prop where
  sound : w.Sound s
  ebbs : w.Settles s t

theorem Ebbed.here (hs : w.Sound s) : w.Ebbed s s := ⟨hs, .refl _ s⟩

theorem Ebbed.now (h : w.Ebbed s t) : w.Sound t := h.ebbs.sound h.sound

theorem Ebbed.step (h : w.Ebbed s t) (h' : w.Settles t u) : w.Ebbed s u :=
  ⟨h.sound, h.ebbs.trans h'⟩

end Closing

def Act.Settles (w : Closing σ) (x : Act (Watched library σ) α) : Prop :=
  ∀ s, w.Sound s → Act.wp True x (fun _ t => w.Settles s t) s

def Run.Settles (w : Closing σ) (x : Run (Watched library σ) α) : Prop :=
  ∀ s, w.Sound s → Run.wp True x (fun _ t => w.Settles s t) s

theorem Act.settles_of_keeps {x : Act (Watched library σ) α}
    (h : ∀ s, Act.Keeps True (w.Ebbed s) x) : Act.Settles w x :=
  fun s hs => (h s s (.here hs)).mono fun _ _ ht => ht.ebbs

theorem Act.Settles.keeps {x : Act (Watched library σ) α} (h : Act.Settles w x)
    (s : Store (Watched library σ)) : Act.Keeps True (w.Ebbed s) x :=
  fun t ht => (h t ht.now).mono fun _ _ hu => ht.step hu

theorem Run.settles_of_keeps {x : Run (Watched library σ) α}
    (h : ∀ s, Run.Keeps True (w.Ebbed s) x) : Run.Settles w x :=
  fun s hs => (h s s (.here hs)).mono fun _ _ ht => ht.ebbs

namespace Closing

theorem get?_takeEntry {id : ContextualId} :
    ((c.takeEntry id s).2.context c).entries.get? id = none := by
  rw [ScopeContext.takeEntry, ScopeContext.context_update, Table.get?_erase, if_pos rfl]

/-- A host whose callbacks are programs that do no more than end scopes. -/
structure Serves (w : Closing σ) (host : Host (Watched library σ)) : Prop where
  program : ∃ thread meanwhile, host = w.host thread meanwhile
  keeps : ∀ s, host.Keeps True (w.Ebbed s)

namespace Serves

variable (h : w.Serves host)

include h

theorem releaseKeeps (e : Episode) (s : Store (Watched library σ)) :
    Episode.ReleaseKeeps True host e (w.Ebbed s) where
  taken _ _ _ _ ht hd := ht.step (ebbs_dependentTaken hd)
  reported t _ ht := ht.step (settles_note rfl rfl t)
  destroy unit inst := (h.keeps s).destroy unit inst e
  flagged t destroying ht :=
    ht.step (ebbs_episode e (f := fun r => { r with destroying }) (fun _ => rfl) t)
  released t _ ht := ht.step (settles_note rfl rfl t)
  release outer := (h.keeps s).release outer

theorem release (e : Episode) : Act.Settles w (e.release host) :=
  Act.settles_of_keeps fun s => (h.releaseKeeps e s).release_keeps

theorem push (e : Episode) (inst : Instance) : Run.Settles w (e.push host inst) := by
  intro s hs
  have hkeeps : Run.Keeps True (w.Ebbed s) (e.push host inst) := by
    apply Episode.push_keeps
    · intro t ht
      exact ht.step (ebbs_episode e (f := fun r => { r with incomplete := some inst })
        (fun _ => rfl) t)
    · exact fun t _ ht => ht.step (settles_note rfl rfl t)
    · exact fun outer => (h.keeps s).push outer inst
  exact (hkeeps s (.here hs)).mono fun _ _ ht => ht.ebbs

end Serves

/-- The last that happened in a creation is that it handed its instance out. -/
def Created (w : Closing σ) (unit : Contextual) (e : Episode) (s : Store (Watched library σ)) :
    Except LifecycleError Instance → Store (Watched library σ) → Prop
  | .ok inst, t => ∃ u, w.Settles s u ∧ t = u.note (.created unit e inst)
  | .error _, t => w.Settles s t

def Restored (w : Closing σ) (unit : Contextual) (s : Store (Watched library σ)) :
    Except LifecycleError Instance → Store (Watched library σ) → Prop
  | .ok inst, t => ∃ u, w.Settles s u ∧ t = u.note (.restored unit inst)
  | .error _, t => w.Settles s t

namespace Serves

variable (h : w.Serves host)

include h

theorem created (unit : Contextual) (e : Episode) (hs : w.Sound s) :
    Act.wp True (unit.create host e) (w.Created unit e s) s := by
  have hnoted : w.Ebbed s (s.note (.creating unit e)) := ⟨hs, settles_note rfl rfl s⟩
  apply Contextual.wp_create ((h.keeps s).create unit e _ hnoted)
  · exact fun inst t ht => ⟨t, ht.ebbs, rfl⟩
  · exact fun error t ht => ht.ebbs

theorem createdDependent (unit : Contextual) (e : Episode) :
    Act.Settles w (unit.createDependent host e) := by
  intro s hs
  apply Contextual.wp_createDependent (h.created unit e hs)
  · rintro inst _ ⟨u, hu, rfl⟩
    apply hu.trans
    refine ebbs_registered rfl rfl rfl rfl (precedes_note _ u) ?_
      (Store.since_self_note (.created unit e inst) u)
      (Store.since_self_note (.created unit e inst) u) fun _ _ _ _ h => h
    rintro ⟨_, _, _⟩ rfl rfl rfl
    exact anew_of_note (.created _ _ _) rfl ⟨List.prefix_refl _, List.suffix_refl _⟩
  · exact fun error t ht => ht

theorem restored (unit : Contextual) (state : Json) (hs : w.Sound s) :
    Act.wp True (unit.restore host state) (w.Restored unit s) s := by
  simp only [Contextual.restore]
  split
  · simp only [Act.wp_bind, Act.wp_modify, Act.wp_pure]
    apply ((h.keeps s).restore unit state s (.here hs)).mono
    intro r t ht
    cases r with
    | ok inst => exact ⟨t, ht.ebbs, rfl⟩
    | error error => exact ht.ebbs
  · exact Ebbs.refl _ s

theorem bagDestroyed (b : Bag)
    (hs : w.Sound (s.note (.destroying b.contextual b.inst b.episode))) :
    Act.wp True (b.destroy host) (fun _ t =>
      ∃ destroyed released between,
        (b.contextual.destroy host b.inst b.episode).run.run s = some (destroyed, between) ∧
        w.Settles (s.note (.destroying b.contextual b.inst b.episode)) between ∧
        (b.episode.release host).run.run between = some (released, t) ∧
        w.Settles between t) s := by
  let noted := s.note (.destroying b.contextual b.inst b.episode)
  have hdestroy : Act.wp True (b.contextual.destroy host b.inst b.episode)
      (fun _ t => w.Ebbed noted t) s :=
    Contextual.wp_destroy_of (.here hs) ((h.keeps noted).destroy _ _ _ _ (.here hs))
  simp only [Bag.destroy, Act.wp_bind, Act.wp_attempt]
  apply hdestroy.run.mono
  rintro destroyed between ⟨hrun, hbetween⟩
  apply (h.release b.episode between hbetween.now).run.mono
  rintro released t ⟨hrun', ht⟩
  have hdone := And.intro hrun (And.intro hbetween.ebbs (And.intro hrun' ht))
  rcases destroyed with error | _ <;> rcases released with error' | _ <;>
    exact ⟨_, _, between, hdone⟩

theorem entryDestroyed {id : ContextualId} {b : Bag} (hs : w.Sound s)
    (hlive : c.live s id = some b) :
    Act.wp True (b.destroy host) (fun _ t => w.Settles s t ∧
      (c.number < w.known → (s.context c).active = false →
        (t.context c).entries.get? id = none)) (c.takeEntry id s).2 := by
  have htaken : w.Ebbs (· = .entry c id) s
      ((c.takeEntry id s).2.note (.destroying b.contextual b.inst b.episode)) :=
    ebbs_entryTaken hs.issued hlive
  apply (h.bagDestroyed b (htaken.sound hs)).mono
  rintro _ t ⟨destroyed, released, between, hdestroyed, hbetween, hreleased, hlast⟩
  have ht := hbetween.trans hlast
  have hgone : c.number < w.known → (s.context c).active = false →
      (t.context c).entries.get? id = none :=
    fun hc hinactive => ht.refused c hc (htaken.inactive hc hinactive) id get?_takeEntry
  refine ⟨(htaken.trans ht.owing).settle ?_, hgone⟩
  rintro _ rfl _ n b' hb'
  obtain rfl : b' = b := by
    rw [ScopeContext.live, hb'] at hlive
    exact Option.some.inj hlive
  obtain ⟨thread, meanwhile, rfl⟩ := h.program
  exact ⟨thread, meanwhile, s, between, t, destroyed, released, .refl s, hb', hdestroyed,
    hbetween.toPrecedes, hreleased, hlast.toPrecedes, .refl t⟩

theorem createInto (unit : Contextual) (e : Episode) (n : Nat) (hs : w.Sound s)
    (hn : n < s.nextCell) (habsent : c.live s unit.id = none) :
    Act.wp True (c.createInto host unit e n)
      (fun _ t => w.Ebbs (fun d => d = .filling c unit.id ∨ d = .entry c unit.id) s t) s := by
  let owed : Debt → Prop := fun d => d = .filling c unit.id ∨ d = .entry c unit.id
  let filling := c.fillCell unit.id n .filling s
  have hfilling : w.Settles s filling := ebbs_filling hs.issued n habsent
  have hsound := hfilling.sound hs
  -- While the instance is being created, nobody else fills the place.
  have hstill : ∀ t, w.Settles filling t → (t.context c).holds unit.id n = true →
      c.live t unit.id = none := by
    intro t ht hholds
    rcases ht.cells c unit.id n hholds with hbefore | ⟨hge, _, _⟩
    · have hcell : (filling.context c).entries.get? unit.id = some ⟨n, .filling⟩ := by
        refine (ScopeContext.get?_fillCell unit.id unit.id n .filling s).trans ?_
        rw [ScopeContext.holds_fillCell] at hbefore
        exact if_pos ⟨rfl, hbefore⟩
      rw [ScopeContext.live, ht.filling c unit.id n (fun hd => hd) hn hcell hholds]
      rfl
    · exact absurd hn (Nat.not_lt_of_le hge)
  have hafter : ∀ t, w.Settles filling t → w.Ebbs owed s t :=
    fun t ht => (hfilling.trans ht).owing
  apply ScopeContext.wp_createInto (h.created unit e hsound)
  · intro error t ht
    apply (h.release e t (ht.sound hsound)).mono
    intro _ u hu
    have hdone := ht.trans hu
    have hreport : ∀ left, w.Settles filling (u.report (.cleanupFailed unit.id left)) :=
      fun left => hdone.trans (settles_note rfl rfl u)
    exact ⟨(hafter u hdone).trans (ebbs_dropped (hstill u hdone)),
      fun left => (hafter _ (hreport left)).trans (ebbs_dropped (hstill _ (hreport left)))⟩
  · rintro inst _ ⟨u, hu, rfl⟩ _ _
    exact (hafter u hu).trans
      (ebbs_installed (hu.sound hsound).issued unit inst e (.inl rfl) (hstill u hu))
  · rintro inst _ ⟨u, hu, rfl⟩ _
    have hdiscarded : w.Ebbs owed u _ :=
      ebbs_discarded (hu.sound hsound).issued unit inst e (.inl rfl) (.inr rfl) (hstill u hu)
    apply (h.bagDestroyed ⟨unit, inst, e⟩ (hdiscarded.sound (hu.sound hsound))).mono
    rintro _ t ⟨_, _, between, -, hbetween, -, hlast⟩ _
    exact ((hafter u hu).trans hdiscarded).trans (hbetween.trans hlast).owing

theorem getOrCreate (unit : Contextual) (e : Episode) :
    Act.Settles w (c.getOrCreate host unit e) := by
  intro s hs
  cases hactive : (s.context c).active with
  | false =>
    rw [ScopeContext.wp_getOrCreate_of_inactive hactive]
    exact Ebbs.refl _ s
  | true =>
    by_cases hkind : (s.context c).kind = .dependent
    · rw [ScopeContext.wp_getOrCreate_of_dependent hactive hkind]
      exact h.createdDependent unit e s hs
    cases hlive : c.live s unit.id with
    | some bag =>
      rw [ScopeContext.wp_getOrCreate_of_live hactive hkind hlive]
      exact Ebbs.refl _ s
    | none =>
      have hclaimed : w.Settles s (c.claimCell unit.id s).2 := ebbs_claimed hs.issued hactive hlive
      apply ScopeContext.wp_getOrCreate_of_absent hactive hkind hlive
      · exact fun _ _ => hclaimed
      · exact fun _ _ => trivial
      intro _ hcontent
      have hentered := hclaimed.trans (ebbs_stacked host.thread
        ((c, unit.id) :: s.stack host.thread) (c.claimCell unit.id s).2)
      have hserial := ((hclaimed.issued hs.issued).cell c unit.id _
        (ScopeContext.get?_claimCell c unit.id s)).1
      apply (h.createInto unit e _ (hentered.sound hs) hserial
        ((ScopeContext.live_claimCell unit.id unit.id s).trans hlive)).mono
      intro r t ht
      have hleft := (hentered.owing.trans ht).trans
        (ebbs_stacked host.thread (t.stack host.thread).tail t)
      refine hleft.settle ?_
      rintro _ (rfl | rfl)
      · intro n hn
        rw [ScopeContext.claimCell, hn] at hcontent
        exact absurd rfl hcontent
      · intro _ n b hb
        rw [ScopeContext.live, hb] at hlive
        cases hlive

theorem destroy (unit : Contextual) : Act.Settles w (c.destroy host unit) := by
  intro s hs
  cases hlive : c.live s unit.id with
  | none =>
    rw [ScopeContext.wp_destroy_of_absent hlive]
    exact ebbs_absentTaken hlive
  | some b =>
    apply ScopeContext.wp_destroy_of_live hlive
    exact (h.entryDestroyed hs hlive).mono fun _ t ht => ⟨ht.1, fun _ => ht.1⟩

theorem destroyExisting (unit : Contextual) : Act.Settles w (c.destroyExisting host unit) := by
  intro s hs
  simp only [ScopeContext.destroyExisting, Act.wp_bind]
  apply (h.destroy unit s hs).mono
  intro r t ht
  rcases r with error | found
  · exact ht
  · cases found <;> exact ht

theorem destroyEntry (id : ContextualId) (hs : w.Sound s) :
    Act.wp True (c.destroyEntry host id) (fun _ t => w.Settles s t ∧
      (c.number < w.known → (s.context c).active = false →
        (t.context c).entries.get? id = none)) s := by
  let Gone : Store (Watched library σ) → Prop := fun t => w.Settles s t ∧
    (c.number < w.known → (s.context c).active = false → (t.context c).entries.get? id = none)
  have hreported : ∀ t, Gone t → ∀ content, Gone (t.report content) :=
    fun t ht content => ⟨ht.1.trans (settles_note rfl rfl t), ht.2⟩
  have hdestroyed : Act.wp True (c.destroyEntry host id) (fun _ t => Gone t) s := by
    apply ScopeContext.wp_destroyEntry
    · intro hlive
      exact ⟨ebbs_absentTaken hlive, fun _ _ => get?_takeEntry⟩
    · intro b hlive
      exact (h.entryDestroyed hs hlive).mono fun _ t ht => ⟨ht, hreported t ht⟩
  exact hdestroyed

end Serves

end Closing

end ContextualLifecycle
