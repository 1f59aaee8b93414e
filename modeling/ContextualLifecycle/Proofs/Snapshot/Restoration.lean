import ContextualLifecycle.Proofs.Container.Keyed
import ContextualLifecycle.Proofs.Snapshot.Revival

namespace ContextualLifecycle

variable {σ : Type} {a : Archive σ} {s : Store σ}

namespace Container

variable {host : Host σ} {m : Container} {s₀ : Store σ} {c : ScopeContext}

theorem wp_resolve {stuck : Prop} {Q : Except LifecycleError Contextual → Store σ → Prop}
    {id : String} {unit : Contextual} (hbeans : (s.container m).beans = a.beans)
    (h : a.Names id unit) : Act.wp stuck (m.resolve id) Q s ↔ Q (.ok unit) s := by
  simp only [resolve, Beans.resolve, Act.wp_bind, Act.wp_get, Act.wp_liftExcept, hbeans,
    h.registered]

variable (hhost : a.Restores host)

include hhost

theorem restoreDependents {e : Episode} {contextual : Option String}
    {left : List DependentSnapshot} {ds : List Dependent}
    (hleft : List.Forall₂ (fun y d => a.Tells s₀ y.contextual y.state d.contextual d.inst) left ds)
    (he : s.nextEpisode ≤ e.number) (hbeans : (s.container m).beans = a.beans) :
    ∀ done u, s.Adds a u → EpisodeSnapshot.Replays a u ⟨contextual, done⟩ e →
      Act.wp False (left.forM (m.restoreDependent host e)) (fun r t => r = .ok ⟨⟩ ∧ s.Adds a t ∧
        EpisodeSnapshot.Replays a t ⟨contextual, done ++ left⟩ e) u := by
  induction hleft with
  | nil =>
    intro done u hu hdone
    rw [List.append_nil]
    exact ⟨rfl, hu, hdone⟩
  | @cons y d left ds hy _ ih =>
    intro done u hu hdone
    change Act.wp False (m.restoreDependent host e y >>= fun _ => _) _ u
    have hbeans' : (u.container m).beans = a.beans := by rw [hu.container, hbeans]
    simp only [restoreDependent, Act.wp_bind, wp_resolve hbeans' hy.named, Act.wp_modify]
    apply (hhost.restored hy).mono
    rintro _ w ⟨new, rfl, hw, hfresh, hnew⟩
    let t := e.update (·.register d.contextual new) w
    have hgrown : EpisodeSnapshot.Replays a t ⟨contextual, done ++ [y]⟩ e := by
      refine (hdone.grow hw).registered hnew fun d' hd' heq => ?_
      rw [hw.episode e hdone.issued] at hd'
      exact hfresh (.inr ⟨e, d', hd', heq⟩)
    have hst : s.Adds a t := (hu.trans hw).described he _
    have hrest := ih (done ++ [y]) t hst hgrown
    rw [List.append_assoc] at hrest
    exact hrest

theorem restoreEpisode_replays {x : EpisodeSnapshot} {e₀ : Episode} (hx : x.Depicts a s₀ e₀)
    (hbeans : (s.container m).beans = a.beans) :
    Act.wp False (m.restoreEpisode host x)
      (fun r t => ∃ e, r = .ok e ∧ s.Adds a t ∧ x.Replays a t e) s := by
  obtain ⟨contextual, dependents⟩ := x
  obtain ⟨hcontextual, ds, -, hall⟩ := hx
  have hrest : ∀ owner, Option.Rel a.Names contextual owner → Act.wp False (do
      let e ← modifyGet (m.newEpisode owner)
      dependents.forM (m.restoreDependent host e)
      return e) (fun r t => ∃ e, r = .ok e ∧ s.Adds a t ∧
        EpisodeSnapshot.Replays a t ⟨contextual, dependents⟩ e) s := by
    intro owner howner
    simp only [Act.wp_bind, Act.wp_modifyGet, Act.wp_pure, newEpisode]
    let e : Episode := ⟨s.nextEpisode⟩
    let t := (Episode.new owner none (m.teardownFactor s) s).2
    have he : t.episode e = _ := Episode.episode_new owner none (m.teardownFactor s) s
    have hbegun : EpisodeSnapshot.Replays a t ⟨contextual, []⟩ e := by
      refine ⟨Nat.lt_succ_self _, ?_, ?_, [], ?_, .nil⟩
      · rw [he]
        exact howner
      · rw [he]
      · rw [he]
        rfl
    have hst : s.Adds a t := (Store.Grows.refl a _ s).begun owner none _
    apply (restoreDependents hhost hall (Nat.le_refl _) hbeans [] t hst hbegun).mono
    rintro _ u ⟨rfl, hsu, hreplays⟩
    exact ⟨e, rfl, hsu, hreplays⟩
  generalize (s₀.episode e₀).contextual = owner at hcontextual
  cases hcontextual with
  | none => exact hrest none .none
  | some hnames =>
    simp only [restoreEpisode, Act.wp_bind, wp_resolve hbeans hnames, Act.wp_pure]
    simpa only [Act.wp_bind, Act.wp_pure] using hrest _ (.some hnames)

theorem restoreEntry_revives {x : EntrySnapshot} {b : Bag} (hx : x.Depicts a s₀ b)
    (hbeans : (s.container m).beans = a.beans) (hc : c.number < s.nextContext) :
    Act.wp False (m.restoreEntry host c x) (fun r t => r = .ok ⟨⟩ ∧ s.AddsTo a c t ∧
      ∃ cell, x.Revives a t (b.contextual.id, cell) ∧ t.context c =
        { s.context c with entries := (s.context c).entries.insert b.contextual.id cell }) s := by
  simp only [restoreEntry, Act.wp_bind, wp_resolve hbeans hx.instance_.named, Act.wp_get,
    Act.wp_modify]
  apply (restoreEpisode_replays hhost hx.episode hbeans).mono
  rintro _ t ⟨e, rfl, hst, hreplays⟩
  have hepisode := hreplays.revives
  apply (hhost.restored hx.instance_).mono
  rintro _ u ⟨new, rfl, htu, -, hinst⟩
  have hsu := hst.trans htu
  let b' : Bag := ⟨b.contextual, new, e⟩
  let cell : Cell := ⟨u.nextCell, .live b'⟩
  have hstep : u.AddsTo a c
      (c.setCell b.contextual.id cell { u with nextCell := u.nextCell + 1 }) :=
    ((Store.Grows.refl a _ u).numbered _).updated (fun h => absurd rfl h) _
  refine ⟨trivial, (hsu.weaken fun _ _ _ => trivial).trans hstep, cell, ?_, ?_⟩
  · have hrevived := (hepisode.grow htu).grow hstep
    exact EntrySnapshot.Revives.live (b := b') (hinst.recall hstep.toRecalls) hrevived
  · rw [← hsu.context c trivial hc]
    exact ScopeContext.context_update c _ _

theorem restoreEntries {kind : ScopeKind} {left : List EntrySnapshot} {bs : List Bag}
    (hleft : List.Forall₂ (EntrySnapshot.Depicts a s₀) left bs)
    (hdistinct : (bs.map (·.contextual.id)).Nodup) :
    ∀ done s, (s.container m).beans = a.beans →
      (∀ b ∈ bs, (s.context c).entries.get? b.contextual.id = none) →
      ContextSnapshot.Revives a s ⟨kind, done, []⟩ c →
      Act.wp False (left.forM (m.restoreEntry host c)) (fun r t => r = .ok ⟨⟩ ∧ s.AddsTo a c t ∧
        (t.context c).active = (s.context c).active ∧
        ContextSnapshot.Revives a t ⟨kind, done ++ left, []⟩ c) s := by
  induction hleft with
  | nil =>
    intro done s _ _ hdone
    rw [List.append_nil]
    exact ⟨rfl, .refl a _ s, rfl, hdone⟩
  | @cons x b left bs hx _ ih =>
    intro done s hbeans hfree hdone
    obtain ⟨hnew, hdistinct⟩ := List.nodup_cons.1 hdistinct
    change Act.wp False (m.restoreEntry host c x >>= fun _ => _) _ s
    rw [Act.wp_bind]
    apply (restoreEntry_revives hhost hx hbeans hdone.1).mono
    rintro _ t ⟨rfl, hst, cell, hcell, ht⟩
    have hgrown := hdone.entered hst hcell (hfree b List.mem_cons_self) ht
    have hbeans' : (t.container m).beans = a.beans := by rw [hst.container, hbeans]
    have hfree' : ∀ b' ∈ bs, (t.context c).entries.get? b'.contextual.id = none := by
      intro b' hb'
      have hne : b'.contextual.id ≠ b.contextual.id := by
        intro heq
        exact hnew (List.mem_map.2 ⟨b', hb', heq⟩)
      rw [ht, Table.get?_insert, if_neg hne]
      exact hfree b' (List.mem_cons_of_mem b hb')
    apply (ih hdistinct (done ++ [x]) t hbeans' hfree' hgrown).mono
    rintro _ u ⟨rfl, htu, hactive, hrevives⟩
    rw [List.append_assoc] at hrevives
    refine ⟨rfl, hst.trans htu, ?_, hrevives⟩
    rw [hactive, ht]

omit hhost in
theorem addRestored_revives {c w : ScopeContext} {id : String} {timeoutMs : UInt64}
    {x : ContextSnapshot} (hfree : c.conversation? id s = none) (hcw : c.number < w.number)
    (hx : x.Revives a s w) : Act.wp False (do
      modify (w.setActive true)
      let v ← modifyGet (Conversation.around w id (.ofMillis timeoutMs.toNat))
      modify v.promote
      c.addConversation v) (fun r t => r = .ok () ∧ s.Grows a (fun y => y ≠ c ∧ y ≠ w) t ∧
        ConversationSnapshot.Revives a t ⟨id, timeoutMs, x⟩ (id, ⟨w⟩) ∧ t.context c =
          { s.context c with conversations := (s.context c).conversations.insert id ⟨w⟩ }) s := by
  have hne : c ≠ w := by
    rintro rfl
    exact Nat.lt_irrefl _ hcw
  let made := w.converse id (.ofMillis timeoutMs.toNat) s
  have hmade : made.context c = s.context c :=
    ScopeContext.context_update_of_ne hne (fun r => { r with active := true }) s
  apply ScopeContext.wp_converse
  · intro htaken
    rw [ScopeContext.conversation?, hmade, ← ScopeContext.conversation?, hfree] at htaken
    cases htaken
  · intro _
    let t := c.putConversation id ⟨w⟩ made
    have hst : s.Grows a (fun y => y ≠ c ∧ y ≠ w) t := by
      have hconverse := (Store.Grows.refl a (fun y => y ≠ c ∧ y ≠ w) s).converse (c := w)
        (fun h => absurd rfl h.2) id (.ofMillis timeoutMs.toNat)
      exact hconverse.updated (fun h => absurd rfl h.1) _
    have hw : t.context w = { s.context w with active := true } :=
      (ScopeContext.context_update_of_ne hne.symm _ made).trans
        (ScopeContext.context_update w (fun r => { r with active := true }) s)
    refine ⟨rfl, hst, ⟨rfl, ⟨s.clock, ?_⟩, ?_, ?_⟩, ?_⟩
    · exact (ScopeContext.conversation_converse w id _ s ⟨w⟩).trans (if_pos rfl)
    · exact congrArg ScopeContext.Record.active hw
    · apply hx.grow hst
      · intro y hy
        refine ⟨?_, ?_⟩
        · rintro rfl
          exact Nat.lt_asymm hy hcw
        · rintro rfl
          exact Nat.lt_irrefl _ hy
      · rw [hw]
    · rw [← hmade]
      exact ScopeContext.context_update c _ made

omit hhost

mutual

/-- A snapshot that depicts some context is restored as a new one. -/
theorem restoreContext_revives (hhost : a.Restores host) (hkeyed : s₀.Keyed) :
    (x : ContextSnapshot) → ∀ c₀ : ScopeContext, x.Depicts a s₀ c₀ →
    ∀ s : Store σ, (s.container m).beans = a.beans →
      Act.wp False (m.restoreContext host x) (fun r t => ∃ c : ScopeContext, r = .ok c ∧
        c.number = s.nextContext ∧ s.Adds a t ∧ (t.context c).active = false ∧ x.Revives a t c) s
  | ⟨kind, entries, conversations⟩ => by
    rintro c₀ ⟨-, hpassivating, hentries, hconversations⟩ s hbeans
    simp only [restoreContext, Act.wp_bind, Act.wp_modifyGet, Act.wp_pure]
    let c : ScopeContext := ⟨s.nextContext⟩
    let t := (ScopeContext.new kind s).2
    have ht : t.context c = { kind } := ScopeContext.context_new kind s
    have hst : s.Adds a t := (Store.Grows.refl a _ s).opened kind
    have hnew : ContextSnapshot.Revives a t ⟨kind, [], []⟩ c := by
      rw [ContextSnapshot.Revives, ht]
      exact ⟨Nat.lt_succ_self _, rfl, hpassivating, .nil, List.forall_mem_nil _, rfl⟩
    have hempty : ∀ b ∈ (s₀.context c₀).bags,
        (t.context c).entries.get? b.contextual.id = none := by
      intro b _
      rw [ht]
      rfl
    apply (restoreEntries hhost hentries (hkeyed.nodup c₀) [] t hbeans hempty hnew).mono
    rintro _ u ⟨rfl, htu, hactive, hfilled⟩
    have hnone : (u.context c).conversations.rows = [] := hfilled.2.2.2.2.2
    have hfree : ∀ row ∈ c₀.lasting s₀, c.conversation? row.1 u = none := by
      intro row _
      rw [ScopeContext.conversation?, Table.get?, hnone]
      rfl
    have hdistinct : ((c₀.lasting s₀).map Prod.fst).Nodup :=
      (s₀.context c₀).conversations.nodup.sublist (List.filter_sublist.map Prod.fst)
    have hbeans' : (u.container m).beans = a.beans := by rw [htu.container]; exact hbeans
    apply (restoreConversations_revives hhost hkeyed c conversations _ hconversations hdistinct kind
      entries [] u hbeans' hfree hfilled).mono
    rintro _ w ⟨rfl, huw, hactive', hrevives⟩
    -- Until now the context was open to changes, but from without it is an addition as a whole.
    have hsw : s.AddsTo a c w := (hst.weaken fun _ _ _ => trivial).trans (htu.trans huw)
    refine ⟨c, rfl, rfl, hsw.weaken ?_, ?_, hrevives⟩
    · rintro _ hissued - rfl
      exact Nat.lt_irrefl _ hissued
    · rw [hactive', hactive, ht]

theorem restoreConversations_revives (hhost : a.Restores host) (hkeyed : s₀.Keyed)
    (c : ScopeContext) : (left : List ConversationSnapshot) →
    ∀ rows, ConversationSnapshot.DepictAll a s₀ left rows → (rows.map Prod.fst).Nodup →
    ∀ kind entries done (s : Store σ), (s.container m).beans = a.beans →
      (∀ row ∈ rows, c.conversation? row.1 s = none) →
      ContextSnapshot.Revives a s ⟨kind, entries, done⟩ c →
      Act.wp False (m.restoreConversations host c left) (fun r t => r = .ok () ∧ s.AddsTo a c t ∧
        (t.context c).active = (s.context c).active ∧
        ContextSnapshot.Revives a t ⟨kind, entries, done ++ left⟩ c) s
  | [] => by
    intro rows _ _ kind entries done s _ _ hdone
    rw [restoreConversations, Act.wp_pure, List.append_nil]
    exact ⟨rfl, .refl a _ s, rfl, hdone⟩
  | x :: left => by
    rintro _ ⟨row, rest, rfl, hx, hleft⟩ hdistinct kind entries done s hbeans hfree hdone
    obtain ⟨hnew, hdistinct⟩ := List.nodup_cons.1 hdistinct
    simp only [restoreConversations, Act.wp_bind]
    apply (restoreConversation_revives hhost hkeyed c x row hx s hbeans hdone.issued
      (hfree row List.mem_cons_self)).mono
    rintro _ t ⟨rfl, hst, v, hv, hxv, ht⟩
    have hgrown := hdone.conversed hst hxv hv (hfree row List.mem_cons_self) ht
    have hbeans' : (t.container m).beans = a.beans := by rw [hst.container, hbeans]
    have hfree' : ∀ row' ∈ rest, c.conversation? row'.1 t = none := by
      intro row' hrow'
      have hne : row'.1 ≠ row.1 := by
        intro heq
        exact hnew (List.mem_map.2 ⟨row', hrow', heq⟩)
      rw [ScopeContext.conversation?, ht, Table.get?_insert, if_neg hne]
      exact hfree row' (List.mem_cons_of_mem row hrow')
    apply (restoreConversations_revives hhost hkeyed c left rest hleft hdistinct kind entries
      (done ++ [x]) t hbeans' hfree' hgrown).mono
    rintro _ u ⟨rfl, htu, hactive, hrevives⟩
    rw [List.append_assoc] at hrevives
    refine ⟨rfl, hst.trans htu, ?_, hrevives⟩
    rw [hactive, ht]

theorem restoreConversation_revives (hhost : a.Restores host) (hkeyed : s₀.Keyed)
    (c : ScopeContext) : (x : ConversationSnapshot) → ∀ row, x.Depicts a s₀ row →
    ∀ s : Store σ, (s.container m).beans = a.beans →
      c.number < s.nextContext → c.conversation? row.1 s = none →
      Act.wp False (m.restoreConversation host c x) (fun r t => r = .ok () ∧ s.AddsTo a c t ∧
        ∃ v : Conversation, c.number < v.context.number ∧ x.Revives a t (row.1, v) ∧
          t.context c =
            { s.context c with conversations := (s.context c).conversations.insert row.1 v }) s
  | ⟨id, timeoutMs, context⟩ => by
    rintro row ⟨rfl, -, hcontext⟩ s hbeans hc hfree
    simp only [restoreConversation]
    rw [Act.wp_bind]
    apply (restoreContext_revives hhost hkeyed context _ hcontext s hbeans).mono
    rintro _ t ⟨w, rfl, hw, hst, -, hrevives⟩
    have hcw : c.number < w.number := hw ▸ hc
    have hfree' : c.conversation? row.1 t = none := by
      rw [ScopeContext.conversation?, hst.context c trivial hc]
      exact hfree
    apply (addRestored_revives hfree' hcw hrevives).mono
    rintro _ u ⟨rfl, htu, hrevived, hu⟩
    have hsu := (hst.weaken fun _ _ _ => trivial).trans htu
    refine ⟨rfl, hsu.weaken ?_, ⟨w⟩, hcw, hrevived, ?_⟩
    · refine fun y hissued hy => ⟨hy, ?_⟩
      rintro rfl
      exact Nat.lt_irrefl _ (hw ▸ hissued)
    · rw [hu, hst.context c trivial hc]

end

end Container

end ContextualLifecycle
