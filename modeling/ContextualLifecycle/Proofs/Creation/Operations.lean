import ContextualLifecycle.Proofs.Container.Requests
import ContextualLifecycle.Proofs.Creation.Attempt

namespace ContextualLifecycle

/-- No other thread asks the context for the id. -/
def ScopeContext.reserved (c : ScopeContext) (id : ContextualId) (thread : Thread) : Rule :=
  fun _ request => ∀ unit e, request.call = .getOrCreate c unit e → unit.id = id →
    request.thread = thread

namespace Attempt

variable {σ : Type} {a : Attempt} {g : Attempt.Stage} {host : Host σ}

section Operations

variable (h : ∀ g, host.Keeps True (a.At g))

include h

theorem drainKeeps (g : Stage) (e : Episode) : Episode.DrainKeeps True host e (a.At g) where
  taken _ _ _ _ hs hd := hs.taken e hd
  reported _ _ hs := hs.noted _
  destroy unit inst := (h g).destroy unit inst e

theorem removeAllDependents (g : Stage) (e : Episode) :
    Act.Keeps True (a.At g) (e.removeAllDependents host) := by
  by_cases he : e = a.episode
  · subst he
    intro s hs
    cases htorn : g.torn with
    | true =>
      have hskip : ((s.episode a.episode).destroying ||
          (s.episode a.episode).dependents.isEmpty) = true := by
        rw [hs.books.destroying, htorn, Bool.true_or]
      simp only [Episode.removeAllDependents, Act.wp_bind, Act.wp_get, hskip, ↓reduceIte,
        Act.wp_pure]
      exact hs
    | false =>
      by_cases hheld : (s.episode a.episode).dependents = []
      · exact (Episode.wp_removeAllDependents_of_nil hheld).2 hs
      · apply Episode.wp_removeAllDependents (hs.books.destroying.trans htorn) hheld
        have hraised := hs.flagged true
        apply ((drainKeeps h _ a.episode).drain _ _ hraised).mono
        intro o t ht
        have hlowered : ∀ u : Store σ, a.At { g with torn := true } u →
            a.At g (a.episode.setDestroying false u) := by
          intro u hu
          have hstage : g = { g with torn := false } := by rw [← htorn]
          rw [hstage]
          exact hu.flagged false
        exact ⟨fun _ => hlowered _ (ht.noted _), fun _ => hlowered _ ht⟩
  · exact Episode.ReleaseKeeps.removeAllDependents {
      drainKeeps h g e with
      flagged := fun s destroying hs => hs.record (hs.books.update e fun heq => absurd heq he)
      released := fun _ _ hs => hs.noted _
      release := (h g).release }

theorem release (g : Stage) (e : Episode) : Act.Keeps True (a.At g) (e.release host) :=
  fun s hs => Episode.wp_release_of (removeAllDependents h g e s hs) (fun _ _ ht => ht.noted _)
    (h g).release

theorem push (g : Stage) (e : Episode) (inst : Instance) :
    Run.Keeps True (a.At g) (e.push host inst) := by
  apply Episode.push_keeps
  · intro s hs
    exact hs.record (hs.books.update e fun _ =>
      ⟨{ s.episode a.episode with incomplete := some inst }, rfl⟩)
  · exact fun _ _ hs => hs.noted _
  · exact fun outer => (h g).push outer inst

theorem destroyInstance (g : Stage) (unit : Contextual) (inst : Instance) (e : Episode) :
    Act.Keeps True (a.At g) (unit.destroy host inst e) :=
  fun _ hs => Contextual.wp_destroy_of (hs.noted _) ((h g).destroy _ _ _ _ (hs.noted _))

theorem destroyBag (g : Stage) (bag : Bag) : Act.Keeps True (a.At g) (bag.destroy host) := by
  intro s hs
  apply Bag.wp_destroy (destroyInstance h g _ _ _ s hs)
  exact fun t ht => (release h g bag.episode t ht).mono fun _ u hu _ => hu

theorem create (g : Stage) (unit : Contextual) (e : Episode) :
    Act.Keeps True (a.At g) (unit.create host e) := by
  intro s hs
  apply Contextual.wp_create ((h g).create unit e _ (hs.noted _))
  · exact fun inst t ht => ht.noted _
  · exact fun error t ht => ht

theorem createDependent (g : Stage) (unit : Contextual) (e : Episode) :
    Act.Keeps True (a.At g) (unit.createDependent host e) := by
  intro s hs
  apply Contextual.wp_createDependent (create h g unit e s hs)
  · exact fun inst t ht => ht.record (ht.books.registered e unit inst)
  · exact fun error t ht => ht

/-- A creation for another id, or within another context, comes and goes on its own. -/
theorem createOther (g : Stage) {c : ScopeContext} {unit : Contextual} (e : Episode) (n : Nat)
    (hg : (a.context, a.id) ∈ g.stack) (hother : ¬ (c = a.context ∧ unit.id = a.id)) {s : Store σ}
    (hs : a.At (g.enter a host.thread c unit.id) s) :
    Act.wp True (c.createInto host unit e n)
      (fun _ t => a.At g (ScopeContext.leaveCreation host.thread t)) s := by
  apply ScopeContext.wp_createInto (create h _ unit e _ (hs.fillOther hother n .filling))
  · intro error t ht
    apply (release h _ e t ht).mono
    exact fun _ u hu => ⟨.leave hg (hu.dropCell c unit.id n),
      fun left => .leave hg ((hu.noted _).dropCell c unit.id n)⟩
  · exact fun inst t ht _ _ => .leave hg (ht.fillOther hother n _)
  · intro inst t ht _
    apply (destroyBag h _ _ _ ((ht.fillOther hother n _).dropCell c unit.id n)).mono
    exact fun _ u hu error => .leave hg hu

theorem getOrCreate (g : Stage) (c : ScopeContext) (unit : Contextual) (e : Episode)
    (halone : c = a.context → unit.id = a.id → host.thread = a.thread) :
    Act.Keeps True (a.At g) (c.getOrCreate host unit e) := by
  intro s hs
  cases hactive : (s.context c).active with
  | false =>
    rw [ScopeContext.wp_getOrCreate_of_inactive hactive]
    exact hs
  | true =>
    by_cases hkind : (s.context c).kind = .dependent
    · rw [ScopeContext.wp_getOrCreate_of_dependent hactive hkind]
      exact createDependent h g unit e s hs
    cases hlive : c.live s unit.id with
    | some bag =>
      rw [ScopeContext.wp_getOrCreate_of_live hactive hkind hlive]
      exact hs
    | none =>
      have hclaimed := hs.claimCell c unit.id
      apply ScopeContext.wp_getOrCreate_of_absent hactive hkind hlive
      · exact fun _ _ => hclaimed
      · exact fun _ _ => trivial
      intro hstack _
      have hentered := hclaimed.enter host.thread c unit.id
      rw [ScopeContext.stack_claimCell] at hentered
      refine createOther h g e _ hs.entered (fun hsame => hstack ?_) hentered
      -- The attempt itself is in progress, so asking for its id again is circular.
      rw [halone hsame.1 hsame.2, hs.stacked, hsame.1, hsame.2]
      exact hs.entered

theorem destroyEntry (g : Stage) (c : ScopeContext) (id : ContextualId) :
    Act.Keeps True (a.At g) (c.destroyEntry host id) := by
  apply ScopeContext.destroyEntry_keeps
  · exact fun content s hs => hs.noted _
  · exact fun s hs _ => hs.takeEntry c id
  · exact fun bag s hs _ => destroyBag h g bag _ (hs.takeEntry c id)

theorem destroyUnit (g : Stage) (c : ScopeContext) (unit : Contextual) :
    Act.Keeps True (a.At g) (c.destroy host unit) := by
  intro s hs
  have htaken := hs.takeEntry c unit.id
  cases hlive : c.live s unit.id with
  | none =>
    rw [ScopeContext.wp_destroy_of_absent hlive]
    exact htaken
  | some bag =>
    apply ScopeContext.wp_destroy_of_live hlive
    exact (destroyBag h g bag _ htaken).mono fun _ t ht => ⟨ht, fun _ => ht⟩

theorem destroyExisting (g : Stage) (c : ScopeContext) (unit : Contextual) :
    Act.Keeps True (a.At g) (c.destroyExisting host unit) := by
  intro s hs
  simp only [ScopeContext.destroyExisting, Act.wp_bind]
  apply (destroyUnit h g c unit s hs).mono
  intro r t ht
  rcases r with error | found
  · exact ht
  · cases found <;> exact ht

theorem attends (g : Stage) : host.Attends (a.At g) where
  reported _ _ hs := hs.noted _
  entry := destroyEntry h g
  notify := (h g).notify
  notified _ _ _ _ _ hs := hs.noted _
  opened kind _ hs := hs.new kind
  switched c _ _ hs := hs.recontext c (fun _ => rfl) fun _ => rfl
  emptied c _ hs :=
    hs.recontext c (f := fun r => { r with conversations := ∅ }) (fun _ => rfl) fun _ => rfl
  removed c id _ hs :=
    hs.recontext c (f := fun r => { r with conversations := r.conversations.erase id })
      (fun _ => rfl) fun _ => rfl
  vacated _ _ _ _ hs := hs.aside rfl rfl rfl rfl (Nat.le_refl _) (Nat.le_refl _)
  occupied _ _ _ _ _ hs := hs.aside rfl rfl rfl rfl (Nat.le_refl _) (Nat.le_refl _)
  shared _ _ _ hs := hs.aside rfl rfl rfl rfl (Nat.le_refl _) (Nat.le_refl _)
  added session draw start timeout s hs := by
    have hactive := (hs.new .conversation).recontext (ScopeContext.new .conversation s).1
      (f := fun r => { r with active := true }) (fun _ => rfl) fun _ => rfl
    have hmade : ∀ id, a.At g (Conversation.newTransient id timeout s).2 :=
      fun _ => hactive.aside rfl rfl rfl rfl (Nat.le_refl _) (Nat.le_refl _)
    have hlisted : ∀ id v (u : Store σ), a.At g u → a.At g (session.putConversation id v u) :=
      fun _ _ _ hu => hu.recontext session (fun _ => rfl) fun _ => rfl
    exact hlisted _ _ _ (hmade _)
  conversed _ _ _ _ hs := hs.aside rfl rfl rfl rfl (Nat.le_refl _) (Nat.le_refl _)
  container _ _ _ hs := hs.aside rfl rfl rfl rfl (Nat.le_refl _) (Nat.le_refl _)
  rescoped _ _ _ _ hs := hs.aside rfl rfl rfl rfl (Nat.le_refl _) (Nat.le_refl _)
  forgotten _ _ _ hs := hs.aside rfl rfl rfl rfl (Nat.le_refl _) (Nat.le_refl _)

theorem restores (g : Stage) : host.Restores (· ≠ a.context) fun _ => a.At g where
  restore _ := (h g).restore
  restored _ _ _ hs := hs.noted _
  begun _ contextual outer factor s hs :=
    ⟨hs.entered, hs.stacked, hs.place.congr rfl (Nat.le_refl _),
      hs.books.begun contextual outer factor⟩
  registered _ b _ hs := hs.record (hs.books.registered b.episode b.contextual b.inst)
  placed _ c b s hc hs := by
    have hnext : a.At g { s with nextCell := s.nextCell + 1 } :=
      hs.aside rfl rfl rfl rfl (Nat.le_refl _) (Nat.le_refl _)
    have hplace := hnext.place.setCell c b.contextual.id ⟨s.nextCell, .live b⟩
      fun heq => absurd heq hc
    exact hnext.elsewhere hplace rfl rfl rfl (Nat.le_refl _)

theorem rebuilds (g : Stage) :
    host.Rebuilds fun restoring s => a.At g s ∧ a.context ∉ restoring where
  entry c restoring m entry s hs := by
    have hc : c ≠ a.context := fun heq => hs.2 (heq ▸ List.mem_cons_self)
    exact ((restores h g).restoreEntry [] m hc entry s hs.1).mono fun _ t ht => ⟨ht, hs.2⟩
  begun restoring kind s hs := by
    refine ⟨hs.1.new kind, fun hin => ?_⟩
    rcases List.mem_cons.1 hin with heq | hin
    · have hissued := hs.1.place.issued
      rw [heq] at hissued
      exact Nat.lt_irrefl _ hissued
    · exact hs.2 hin
  done c restoring s hs := ⟨hs.1, fun hin => hs.2 (List.mem_cons_of_mem c hin)⟩
  converse c restoring id timeout s hs := by
    have hactive := (attends h g).switched c true s hs.1
    exact ⟨hactive.aside rfl rfl rfl rfl (Nat.le_refl _) (Nat.le_refl _),
      fun hin => hs.2 (List.mem_cons_of_mem c hin)⟩
  listed c restoring id timeout session s hs _ := by
    have hactive := (attends h g).switched c true s hs.1
    have hmade : a.At g (c.converse id timeout s) :=
      hactive.aside rfl rfl rfl rfl (Nat.le_refl _) (Nat.le_refl _)
    exact ⟨hmade.recontext session (fun _ => rfl) fun _ => rfl,
      fun hin => hs.2 (List.mem_cons_of_mem c hin)⟩

theorem restoreContext (g : Stage) (m : Container) (snapshot : ContextSnapshot) :
    Act.Keeps True (a.At g) (m.restoreContext host snapshot) := fun s hs =>
  ((rebuilds h g).restoreContext_keeps m snapshot [] s ⟨hs, List.not_mem_nil⟩).mono
    fun _ _ ht => ht.1

end Operations

/-- Every request leaves the attempt at its stage, if its callbacks do. -/
theorem perform (h : ∀ g, host.Keeps True (a.At g)) {within : List Request} {request : Request}
    (halone : a.context.reserved a.id a.thread within request)
    (hthread : host.thread = request.thread) (g : Stage) :
    Act.Keeps True (a.At g) (request.call.perform host) := by
  obtain ⟨thread, call⟩ := request
  cases call with
  | newContainer config observers proxying =>
    exact fun s hs => hs.aside rfl rfl rfl rfl (Nat.le_refl _) (Nat.le_refl _)
  | register m id unit => exact fun s hs => hs.aside rfl rfl rfl rfl (Nat.le_refl _) (Nat.le_refl _)
  | wait span => exact fun s hs => hs.aside rfl rfl rfl rfl (Nat.le_refl _) (Nat.le_refl _)
  | newEpisode m contextual => exact fun s => (restores h g).begun [] contextual none _ s
  | wrap m outer unit =>
    cases outer with
    | episode e => exact fun s hs => hs
    | foreign f => exact fun s => (restores h g).begun [] (some unit) (some f) _ s
  | describe e change => exact fun s hs => hs.record (hs.books.update e fun _ => ⟨_, rfl⟩)
  | addDependent e unit inst =>
    cases inst with
    | none => exact fun s hs => hs
    | some inst => exact fun s hs => hs.record (hs.books.registered e unit inst)
  | push e inst => exact fun s hs => (Act.wp_lift _).2 (push h g e inst s hs)
  | destroyDependent e inst => exact (drainKeeps h g e).destroyDependent inst
  | removeAllDependents e => exact removeAllDependents h g e
  | release e => exact release h g e
  | newContext kind => exact (attends h g).opened kind
  | setActive c active => exact (attends h g).switched c active
  | getOrCreate c unit e =>
    refine getOrCreate h g c unit e fun hc hid => hthread.trans (halone unit e ?_ hid)
    rw [hc]
  | destroy c unit => exact destroyUnit h g c unit
  | destroyExisting c unit => exact destroyExisting h g c unit
  | destroyAll c => exact (attends h g).destroyAll c
  | removeConversation c id => exact (attends h g).removed c id
  | promote v | demote v | setTimeout v timeout | touch v =>
    exact fun s hs => hs.aside rfl rfl rfl rfl (Nat.le_refl _) (Nat.le_refl _)
  | restoreContext m snapshot => exact restoreContext h g m snapshot
  | _ => exact Call.perform_attended _ rfl (attends h g) (restoreContext h g)

theorem run (a : Attempt) (supply : Supply σ) (p : Program library σ)
    (hp : p.Obeys (a.context.reserved a.id a.thread) []) (g : Stage) :
    Act.Keeps True (a.At g) (p.run supply) := by
  have hseen : ∀ {g : Stage} {s : Store (Watched library σ)} {surroundings : Watched library σ},
      a.At g s → a.At g { s with surroundings } := fun hs =>
    hs.aside rfl rfl rfl rfl (Nat.le_refl _) (Nat.le_refl _)
  refine Program.run_keeps_within (fun g _ => a.At g) supply (fun _ _ s hs => hseen hs)
    (fun _ _ own s hs => hseen hs) ?_ p [] hp g
  intro meanwhile within request halone hmeanwhile g s hs
  have hkeeps : ∀ g, ({ supply.hostOf meanwhile with thread := request.thread } :
      Host (Watched library σ)).Keeps True (a.At g) :=
    fun g => (supply.watched.host_keeps (hmeanwhile g)).on request.thread
  exact (perform hkeeps halone rfl g s hs).mono fun answer t ht => hseen ht

end Attempt

end ContextualLifecycle
