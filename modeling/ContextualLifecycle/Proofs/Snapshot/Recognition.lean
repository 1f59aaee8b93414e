import ContextualLifecycle.Proofs.Container.Registered
import ContextualLifecycle.Proofs.Snapshot.Naming
import ContextualLifecycle.Proofs.Snapshot.Safekeeping
import ContextualLifecycle.Proofs.Snapshot.Session

namespace ContextualLifecycle

variable {σ α β : Type}

/-- What is registered under one of some ids. -/
def Beans.Finds (beans : Beans) (ids : List String) (unit : Contextual) : Prop :=
  ∃ id ∈ ids, beans.get? id = some unit

/-- One of some ids under which nothing is registered. -/
def Beans.Misses (beans : Beans) (ids : List String) (id : String) : Prop :=
  id ∈ ids ∧ beans.get? id = none

/-- A step answers as said, or it fails. It fails because of an unknown id only for certain ids. -/
def Act.Resolves (missing : String → Prop) (x : Act σ α) (Q : α → Store σ → Prop) (s : Store σ) :
    Prop :=
  Act.wp True x (fun r t => (∀ a, r = .ok a → Q a t) ∧
    ∀ id, r = .error (.unknownPassivationId id) → missing id) s

namespace Act.Resolves

variable {missing : String → Prop} {Q : α → Store σ → Prop} {s : Store σ}

theorem mono {x : Act σ α} {P : α → Store σ → Prop} (h : x.Resolves missing P s)
    (hPQ : ∀ a t, P a t → Q a t) : x.Resolves missing Q s :=
  Act.wp.mono h fun _ t hr => ⟨fun a ha => hPQ a t (hr.1 a ha), hr.2⟩

theorem pure {a : α} (h : Q a s) : (pure a : Act σ α).Resolves missing Q s := by
  rw [Resolves, Act.wp_pure]
  refine ⟨?_, fun _ h => by cases h⟩
  rintro _ ⟨⟩
  exact h

theorem throw {error : LifecycleError} (h : ∀ id, error ≠ .unknownPassivationId id) :
    (throw error : Act σ α).Resolves missing Q s := by
  rw [Resolves, Act.wp_throw]
  refine ⟨(fun _ h => by cases h), fun id hid => ?_⟩
  exact absurd (Except.error.inj hid) (h id)

theorem bind {x : Act σ β} {f : β → Act σ α}
    (h : x.Resolves missing (fun b t => (f b).Resolves missing Q t) s) :
    (x >>= f).Resolves missing Q s := by
  rw [Resolves, Act.wp_bind]
  apply Act.wp.mono h
  intro r t hr
  cases r with
  | ok b => exact hr.1 b rfl
  | error error =>
    refine ⟨(fun _ h => by cases h), fun id hid => hr.2 id ?_⟩
    rw [Except.error.inj hid]

theorem modify {Q : PUnit → Store σ → Prop} {f : Store σ → Store σ} (h : Q ⟨⟩ (f s)) :
    (modify f : Act σ PUnit).Resolves missing Q s := by
  rw [Resolves, Act.wp_modify]
  exact ⟨fun _ _ => h, fun _ h => by cases h⟩

theorem modifyGet {f : Store σ → α × Store σ} (h : Q (f s).1 (f s).2) :
    (modifyGet f : Act σ α).Resolves missing Q s := by
  rw [Resolves, Act.wp_modifyGet]
  refine ⟨?_, fun _ h => by cases h⟩
  rintro _ ⟨⟩
  exact h

theorem forM {f : β → Act σ PUnit} (Inv : Store σ → Prop) {xs : List β}
    (hstep : ∀ x ∈ xs, ∀ s, Inv s → (f x).Resolves missing (fun _ t => Inv t) s) (h : Inv s) :
    (xs.forM f).Resolves missing (fun _ t => Inv t) s := by
  induction xs generalizing s with
  | nil => exact .pure h
  | cons x xs ih =>
    refine .bind ((hstep x List.mem_cons_self s h).mono fun _ t ht => ?_)
    exact ih (fun x hx => hstep x (List.mem_cons_of_mem _ hx)) ht

end Act.Resolves

variable {involved : Contextual → Prop} {s₀ s t u : Store σ} {m : Container} {e : Episode}
  {c : ScopeContext} {kept : ScopeContext → Prop}

theorem Episode.Involves.registered {unit own : Contextual} {inst : Instance}
    (h : e.Involves (e.addDependent unit (some inst) s) own) : e.Involves s own ∨ own = unit := by
  rw [Involves, addDependent, episode_update_self, Record.register_contextual] at h
  rcases h with howner | ⟨d, hd, rfl⟩
  · exact .inl (.inl howner)
  · obtain ⟨_, hsame⟩ | ⟨_, hfront | hback⟩ := (s.episode e).register_cases unit inst
    · exact .inl (.inr ⟨d, hsame ▸ hd, rfl⟩)
    · rw [hfront] at hd
      rcases List.mem_cons.1 hd with rfl | hd
      · exact .inr rfl
      · exact .inl (.inr ⟨d, hd, rfl⟩)
    · rw [hback] at hd
      rcases List.mem_append.1 hd with hd | hd
      · exact .inl (.inr ⟨d, hd, rfl⟩)
      · exact .inr (congrArg _ (List.mem_singleton.1 hd))

/-- An episode that began since a moment, with nothing but certain definitions. -/
structure Episode.Draws (involved : Contextual → Prop) (s₀ s : Store σ) (e : Episode) : Prop where
  new : s₀.nextEpisode ≤ e.number
  issued : e.number < s.nextEpisode
  involved : ∀ unit, e.Involves s unit → involved unit

/-- A context that was made since a moment, with all that is in it, and with nothing but certain
definitions. Its conversations are newer. -/
inductive ScopeContext.Draws (involved : Contextual → Prop) (s₀ s : Store σ) :
    ScopeContext → Prop where
  | intro {c : ScopeContext} (new : s₀.nextContext ≤ c.number) (issued : c.number < s.nextContext)
      (entry : ∀ id b, c.live s id = some b → involved b.contextual ∧ b.episode.Draws involved s₀ s)
      (newer : ∀ id v, c.conversation? id s = some v → c.number < v.context.number)
      (nested : ∀ id v, c.conversation? id s = some v → Draws involved s₀ s v.context) :
      Draws involved s₀ s c

theorem ScopeContext.Draws.made (h : c.Draws involved s₀ s) :
    s₀.nextContext ≤ c.number ∧ c.number < s.nextContext := by
  obtain ⟨new, issued, -⟩ := h
  exact ⟨new, issued⟩

theorem Episode.Draws.spared (h : e.Draws involved s₀ s) (hst : s.Spares m s₀ kept t) :
    e.Draws involved s₀ t where
  new := h.new
  issued := Nat.lt_of_lt_of_le h.issued hst.episodes
  involved unit hunit := by
    rw [Episode.Involves, hst.episode e h.new h.issued] at hunit
    exact h.involved unit hunit

theorem ScopeContext.Draws.spared (h : c.Draws involved s₀ s) (hst : s.Spares m s₀ kept t)
    (hkept : ∀ y : ScopeContext, c.number ≤ y.number → kept y) : c.Draws involved s₀ t := by
  induction h with
  | intro new issued entry newer nested ih =>
    have hsame := hst.context _ (hkept _ (Nat.le_refl _)) new issued
    refine .intro new (Nat.lt_of_lt_of_le issued hst.contexts) ?_ ?_ ?_
    · intro id b hb
      rw [live, hsame] at hb
      exact ⟨(entry id b hb).1, (entry id b hb).2.spared hst⟩
    · intro id v hv
      rw [conversation?, hsame] at hv
      exact newer id v hv
    · intro id v hv
      rw [conversation?, hsame] at hv
      exact ih id v hv fun y hy => hkept y (Nat.le_of_lt (Nat.lt_of_lt_of_le (newer id v hv) hy))

theorem ScopeContext.Draws.filled (h : c.Draws involved s₀ s) (hst : s.Spares m s₀ kept t)
    (hkept : ∀ y : ScopeContext, c.number < y.number → kept y)
    (hentry : ∀ id b, c.live t id = some b → c.live s id = some b ∨
      involved b.contextual ∧ b.episode.Draws involved s₀ t)
    (hnested : ∀ id v, c.conversation? id t = some v → c.conversation? id s = some v ∨
      c.number < v.context.number ∧ v.context.Draws involved s₀ t) : c.Draws involved s₀ t := by
  obtain ⟨new, issued, entry, newer, nested⟩ := h
  have hlater : ∀ id v, c.conversation? id t = some v →
      c.number < v.context.number ∧ v.context.Draws involved s₀ t := by
    intro id v hv
    rcases hnested id v hv with hv | hv
    · have hnewer := newer id v hv
      exact ⟨hnewer, (nested id v hv).spared hst fun y hy => hkept y (Nat.lt_of_lt_of_le hnewer hy)⟩
    · exact hv
  refine .intro new (Nat.lt_of_lt_of_le issued hst.contexts) ?_ (fun id v hv => (hlater id v hv).1)
    fun id v hv => (hlater id v hv).2
  intro id b hb
  rcases hentry id b hb with hb | hb
  · exact ⟨(entry id b hb).1, (entry id b hb).2.spared hst⟩
  · exact hb

theorem ScopeContext.Draws.involves (h : c.Draws involved s₀ s) {unit : Contextual}
    (hunit : c.Involves s unit) : involved unit := by
  induction hunit with
  | entry hb =>
    obtain ⟨_, _, entry, _, _⟩ := h
    obtain ⟨id, hlive⟩ := mem_bags.1 hb
    exact (entry id _ hlive).1
  | owner hb howner =>
    obtain ⟨_, _, entry, _, _⟩ := h
    obtain ⟨id, hlive⟩ := mem_bags.1 hb
    exact (entry id _ hlive).2.involved _ (.inl howner)
  | dependent hb hd =>
    obtain ⟨_, _, entry, _, _⟩ := h
    obtain ⟨id, hlive⟩ := mem_bags.1 hb
    exact (entry id _ hlive).2.involved _ (.inr ⟨_, hd, rfl⟩)
  | nested hrow _ ih =>
    obtain ⟨_, _, _, _, nested⟩ := h
    exact ih (nested _ _ (mem_lasting.1 hrow).1)

/-- What restores instances leaves alone what was made since a moment, and does not fail because of
an unknown id itself. -/
def Host.RestoresAside (host : Host σ) (m : Container) (s₀ : Store σ) : Prop :=
  ∀ unit state s, s₀.Follows s → Act.wp True (host.restore unit state) (fun r t =>
    s.Spares m s₀ (fun _ => True) t ∧ ∀ id, r ≠ .error (.unknownPassivationId id)) s

namespace Container

variable {host : Host σ} {beans : Beans} {ids : List String}

theorem resolve_resolves (hbeans : (s.container m).beans = beans) {id : String} (hid : id ∈ ids)
    {Q : Contextual → Store σ → Prop} (h : ∀ unit, beans.Finds ids unit → Q unit s) :
    (m.resolve id).Resolves (beans.Misses ids) Q s := by
  rw [Act.Resolves]
  simp only [resolve, Beans.resolve, Act.wp_bind, Act.wp_get, Act.wp_liftExcept, hbeans]
  cases hunit : beans.get? id with
  | none =>
    refine ⟨(fun _ h => by cases h), ?_⟩
    rintro _ ⟨⟩
    exact ⟨hid, hunit⟩
  | some unit =>
    refine ⟨?_, fun _ h => by cases h⟩
    rintro _ ⟨⟩
    exact h unit ⟨id, hid, hunit⟩

variable (hhost : host.RestoresAside m s₀)

include hhost

theorem restore_resolves {missing : String → Prop} (hs : s₀.Follows s) (unit : Contextual)
    (state : Json) : (unit.restore host state).Resolves missing
      (fun _ t => s.Spares m s₀ (fun _ => True) t) s := by
  rw [Contextual.restore]
  split
  · apply Act.Resolves.bind
    apply (hhost unit state s hs).mono
    rintro r t ⟨hst, hknown⟩
    exact ⟨fun inst _ => .bind (.modify (.pure (hst.noted _))),
      fun id hid => absurd hid (hknown id)⟩
  · exact .throw fun _ h => by cases h

theorem restoreEpisode_resolves (hs : s₀.Follows s) (hbeans : (s.container m).beans = beans)
    {x : EpisodeSnapshot} (hids : x.ids ⊆ ids) :
    (m.restoreEpisode host x).Resolves (beans.Misses ids) (fun e t =>
      s.Spares m s₀ (fun _ => True) t ∧ e.Draws (beans.Finds ids) s₀ t) s := by
  have hdependents : ∀ d ∈ x.dependents, d.contextual ∈ ids := fun d hd =>
    hids (List.mem_append_right _ (List.mem_map.2 ⟨d, hd, rfl⟩))
  have hrest : ∀ owner, (∀ unit, owner = some unit → beans.Finds ids unit) → (do
      let e ← modifyGet (m.newEpisode owner)
      x.dependents.forM (m.restoreDependent host e)
      return e : Act σ Episode).Resolves (beans.Misses ids) (fun e t =>
        s.Spares m s₀ (fun _ => True) t ∧ e.Draws (beans.Finds ids) s₀ t) s := by
    intro owner howner
    refine .bind (.modifyGet (.bind ?_))
    let e : Episode := ⟨s.nextEpisode⟩
    let Inv : Store σ → Prop := fun t =>
      s.Spares m s₀ (fun _ => True) t ∧ e.Draws (beans.Finds ids) s₀ t
    have hbegun : Inv (Episode.new owner none (m.teardownFactor s) s).2 := by
      refine ⟨(Store.Spares.refl m s₀ _ s).begun owner none _, hs.episodes, Nat.lt_succ_self _, ?_⟩
      intro unit hunit
      have hrecord := Episode.episode_new owner none (m.teardownFactor s) s
      rw [Episode.Involves, show e = (Episode.new owner none (m.teardownFactor s) s).1 from rfl,
        hrecord] at hunit
      rcases hunit with hunit | ⟨d, hd, _⟩
      · exact howner unit hunit
      · cases hd
    refine (Act.Resolves.forM Inv ?_ hbegun).mono fun _ t ht => .pure ht
    rintro d hd t ⟨ht, hdraws⟩
    refine .bind (resolve_resolves (ht.beans.trans hbeans) (hdependents d hd) fun unit hunit => ?_)
    refine .bind ((restore_resolves hhost (hs.trans ht.toFollows) unit d.state).mono ?_)
    intro inst u hu
    have hkept := hdraws.spared hu
    have hst := (ht.trans hu).described (fun _ => Nat.le_refl s.nextEpisode) (e := e)
      (·.register unit inst)
    refine .modify ⟨hst, hkept.new, hkept.issued, fun own hown => ?_⟩
    rcases Episode.Involves.registered hown with hown | rfl
    · exact hkept.involved own hown
    · exact hunit
  rw [restoreEpisode]
  cases howner : x.contextual with
  | none => exact .bind (.pure (hrest none fun _ h => by cases h))
  | some id =>
    have hid : id ∈ ids := hids (List.mem_append_left _ (by simp [howner]))
    refine .bind (resolve_resolves hbeans hid fun unit hunit => .bind (.pure ?_))
    refine hrest (some unit) fun _ h => ?_
    cases h
    exact hunit

theorem restoreEntry_resolves (hs : s₀.Follows s) (hbeans : (s.container m).beans = beans)
    (hc : c.Draws (beans.Finds ids) s₀ s) {x : EntrySnapshot} (hids : x.ids ⊆ ids) :
    (m.restoreEntry host c x).Resolves (beans.Misses ids) (fun _ t =>
      s.Spares m s₀ (· ≠ c) t ∧ c.Draws (beans.Finds ids) s₀ t) s := by
  have hentry : x.contextual ∈ ids := hids List.mem_cons_self
  have hepisode : x.episode.ids ⊆ ids := fun id hid => hids (List.mem_cons_of_mem _ hid)
  refine .bind (resolve_resolves hbeans hentry fun unit hunit => .bind ?_)
  apply (restoreEpisode_resolves hhost hs hbeans hepisode).mono
  rintro e t ⟨hst, he⟩
  refine .bind ((restore_resolves hhost (hs.trans hst.toFollows) unit x.state).mono ?_)
  intro inst u htu
  refine .bind (.modifyGet (.bind (.modify (.modify ?_))))
  let b : Bag := ⟨unit, inst, e⟩
  let v := c.setCell unit.id ⟨u.nextCell, .live b⟩ { u with nextCell := u.nextCell + 1 }
  have hsu := hst.trans htu
  obtain ⟨hnew, hissued⟩ := hc.made
  have huv : u.Spares m s₀ (fun y => y ≠ c) v :=
    ((Store.Spares.refl m s₀ _ u).numbered _).updated hnew (fun h => absurd rfl h) _
  have hrecord : v.context c = { s.context c with
      entries := (s.context c).entries.insert unit.id ⟨u.nextCell, .live b⟩ } := by
    rw [← hsu.context c trivial hnew hissued]
    exact ScopeContext.context_update c _ _
  have hsv : s.Spares m s₀ (· ≠ c) v := (hsu.weaken fun _ _ _ => trivial).trans huv
  refine ⟨hsv, hc.filled hsv ?_ ?_ ?_⟩
  · rintro y hy rfl
    exact Nat.lt_irrefl _ hy
  · intro id b' hb'
    rw [ScopeContext.live, hrecord, Table.get?_insert] at hb'
    split at hb'
    · obtain rfl : b = b' := Option.some_inj.1 hb'
      exact .inr ⟨hunit, (he.spared htu).spared huv⟩
    · exact .inl hb'
  · intro id w hw
    rw [ScopeContext.conversation?, hrecord] at hw
    exact .inl hw

omit hhost in
theorem addRestored_resolves {w : ScopeContext} {id : String} {timeout : Duration}
    {missing : String → Prop} {involved : Contextual → Prop} (hc : c.Draws involved s₀ s)
    (hst : s.Spares m s₀ (fun _ => True) t) (hw : s.nextContext ≤ w.number)
    (hdraws : w.Draws involved s₀ t) : (do
      modify (w.setActive true)
      let v ← modifyGet (Conversation.around w id timeout)
      modify v.promote
      c.addConversation v : Act σ Unit).Resolves missing (fun _ u =>
        s.Spares m s₀ (· ≠ c) u ∧ c.Draws involved s₀ u) t := by
  obtain ⟨hnew, hissued⟩ := hc.made
  have hcw : c.number < w.number := Nat.lt_of_lt_of_le hissued hw
  have hne : c ≠ w := by
    rintro rfl
    exact Nat.lt_irrefl _ hcw
  have hneww : s₀.nextContext ≤ w.number := Nat.le_of_lt (Nat.lt_of_le_of_lt hnew hcw)
  apply ScopeContext.wp_converse
  · exact fun _ _ => ⟨(fun _ h => by cases h), fun _ h => by cases h⟩
  intro _
  let made := w.converse id timeout t
  let u := c.putConversation id ⟨w⟩ made
  have hmade : made.context c = s.context c :=
    (ScopeContext.context_update_of_ne hne (fun r => { r with active := true }) t).trans
      (hst.context c trivial hnew hissued)
  have hrecord : u.context c =
      { s.context c with conversations := (s.context c).conversations.insert id ⟨w⟩ } := by
    rw [← hmade]
    exact ScopeContext.context_update c _ made
  have hrecordw : u.context w = { t.context w with active := true } :=
    (ScopeContext.context_update_of_ne hne.symm _ made).trans
      (ScopeContext.context_update w (fun r => { r with active := true }) t)
  have hsu : s.Spares m s₀ (· ≠ c) u :=
    ((hst.weaken fun _ _ _ => trivial).converse hneww (fun _ => hw) id timeout).updated hnew
      (fun h => absurd rfl h) _
  have htu : t.Spares m s₀ (fun y => y ≠ c ∧ y ≠ w) u :=
    ((Store.Spares.refl m s₀ _ t).converse hneww (fun h => absurd rfl h.2) id timeout).updated
      hnew (fun h => absurd rfl h.1) _
  have hdraws' : w.Draws involved s₀ u := by
    refine hdraws.filled htu ?_ ?_ ?_
    · refine fun y hy => ⟨?_, ?_⟩
      · rintro rfl
        exact Nat.lt_asymm hy hcw
      · rintro rfl
        exact Nat.lt_irrefl _ hy
    · intro id' b hb
      rw [ScopeContext.live, hrecordw] at hb
      exact .inl hb
    · intro id' v hv
      rw [ScopeContext.conversation?, hrecordw] at hv
      exact .inl hv
  refine ⟨(fun _ _ => ⟨hsu, hc.filled hsu ?_ ?_ ?_⟩), fun _ h => by cases h⟩
  · rintro y hy rfl
    exact Nat.lt_irrefl _ hy
  · intro id' b hb
    rw [ScopeContext.live, hrecord] at hb
    exact .inl hb
  · intro id' v hv
    rw [ScopeContext.conversation?, hrecord, Table.get?_insert] at hv
    split at hv
    · obtain rfl : (⟨w⟩ : Conversation) = v := Option.some_inj.1 hv
      exact .inr ⟨hcw, hdraws'⟩
    · exact .inl hv

omit hhost

mutual

/-- A context is restored with what is registered under its ids. -/
theorem restoreContext_resolves (hhost : host.RestoresAside m s₀) : (x : ContextSnapshot) →
    ∀ s : Store σ, s₀.Follows s → (s.container m).beans = beans → x.ids ⊆ ids →
      (m.restoreContext host x).Resolves (beans.Misses ids) (fun c t =>
        s.nextContext ≤ c.number ∧ s.Spares m s₀ (fun _ => True) t ∧
        c.Draws (beans.Finds ids) s₀ t) s
  | ⟨kind, entries, conversations⟩ => by
    intro s hs hbeans hids
    have hentries : ∀ x ∈ entries, x.ids ⊆ ids := fun x hx id hid =>
      hids (List.mem_append_left _ (List.mem_flatMap.2 ⟨x, hx, hid⟩))
    have hconversations : ConversationSnapshot.allIds conversations ⊆ ids := fun id hid =>
      hids (List.mem_append_right _ hid)
    simp only [restoreContext]
    let c : ScopeContext := ⟨s.nextContext⟩
    let t := (ScopeContext.new kind s).2
    have hst : s.Spares m s₀ (fun _ => True) t := (Store.Spares.refl m s₀ _ s).opened kind
    have ht : t.context c = { kind } := ScopeContext.context_new kind s
    have hempty : c.Draws (beans.Finds ids) s₀ t := by
      refine .intro hs.contexts (Nat.lt_succ_self _) ?_ ?_ ?_
      · intro id b hb
        rw [ScopeContext.live, ht] at hb
        cases hb
      · intro id v hv
        rw [ScopeContext.conversation?, ht] at hv
        cases hv
      · intro id v hv
        rw [ScopeContext.conversation?, ht] at hv
        cases hv
    let Inv : Store σ → Prop := fun u =>
      t.Spares m s₀ (· ≠ c) u ∧ c.Draws (beans.Finds ids) s₀ u
    have hentry : ∀ x ∈ entries, ∀ u, Inv u →
        (m.restoreEntry host c x).Resolves (beans.Misses ids) (fun _ v => Inv v) u := by
      rintro x hx u ⟨htu, hu⟩
      have hbeans' : (u.container m).beans = beans :=
        htu.beans.trans (hst.beans.trans hbeans)
      apply (restoreEntry_resolves hhost ((hs.trans hst.toFollows).trans htu.toFollows) hbeans' hu
        (hentries x hx)).mono
      rintro _ v ⟨huv, hv⟩
      exact ⟨htu.trans huv, hv⟩
    refine .bind (.modifyGet (.bind ?_))
    apply (Act.Resolves.forM Inv hentry ⟨.refl m s₀ _ t, hempty⟩).mono
    rintro _ u ⟨htu, hu⟩
    refine .bind ((restoreConversations_resolves hhost c conversations u
      ((hs.trans hst.toFollows).trans htu.toFollows) (htu.beans.trans (hst.beans.trans hbeans))
      hconversations hu).mono ?_)
    rintro _ v ⟨huv, hv⟩
    have hsv := (hst.weaken fun _ _ _ => trivial).trans (htu.trans huv)
    refine .pure ⟨Nat.le_refl _, hsv.weaken ?_, hv⟩
    rintro _ hold - rfl
    exact Nat.lt_irrefl _ hold

theorem restoreConversations_resolves (hhost : host.RestoresAside m s₀) (c : ScopeContext) :
    (vs : List ConversationSnapshot) → ∀ s : Store σ, s₀.Follows s →
      (s.container m).beans = beans → ConversationSnapshot.allIds vs ⊆ ids →
      c.Draws (beans.Finds ids) s₀ s →
      (m.restoreConversations host c vs).Resolves (beans.Misses ids) (fun _ t =>
        s.Spares m s₀ (· ≠ c) t ∧ c.Draws (beans.Finds ids) s₀ t) s
  | [] => fun s _ _ _ hc => .pure ⟨.refl m s₀ _ s, hc⟩
  | v :: vs => by
    intro s hs hbeans hids hc
    have hv : v.ids ⊆ ids := fun id hid => hids (List.mem_append_left _ hid)
    have hvs : ConversationSnapshot.allIds vs ⊆ ids := fun id hid =>
      hids (List.mem_append_right _ hid)
    rw [restoreConversations]
    refine .bind ((restoreConversation_resolves hhost c v s hs hbeans hv hc).mono ?_)
    rintro _ t ⟨hst, ht⟩
    apply (restoreConversations_resolves hhost c vs t (hs.trans hst.toFollows)
      (hst.beans.trans hbeans) hvs ht).mono
    rintro _ u ⟨htu, hu⟩
    exact ⟨hst.trans htu, hu⟩

theorem restoreConversation_resolves (hhost : host.RestoresAside m s₀) (c : ScopeContext) :
    (v : ConversationSnapshot) → ∀ s : Store σ, s₀.Follows s →
      (s.container m).beans = beans → v.ids ⊆ ids → c.Draws (beans.Finds ids) s₀ s →
      (m.restoreConversation host c v).Resolves (beans.Misses ids) (fun _ t =>
        s.Spares m s₀ (· ≠ c) t ∧ c.Draws (beans.Finds ids) s₀ t) s
  | ⟨id, timeoutMs, context⟩ => by
    intro s hs hbeans hids hc
    simp only [restoreConversation]
    refine .bind ((restoreContext_resolves hhost context s hs hbeans hids).mono ?_)
    rintro w t ⟨hw, hst, hdraws⟩
    exact addRestored_resolves hc hst hw hdraws

end

end Container

end ContextualLifecycle
