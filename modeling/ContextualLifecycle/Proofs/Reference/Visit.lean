import ContextualLifecycle.Container.Reference
import ContextualLifecycle.Proofs.Container.Current
import ContextualLifecycle.Proofs.Journal
import ContextualLifecycle.Proofs.Reference.Graph
import ContextualLifecycle.Proofs.ScopeContext.Filling

namespace ContextualLifecycle

variable {σ α : Type} {stuck : Prop}

/-- A step returns, and changes nothing but the data of the surroundings. -/
def Run.Aside (x : Run σ α) : Prop :=
  ∀ s, Run.wp False x (fun _ t => ∃ own, t = { s with surroundings := own }) s

theorem Store.stack_setStack (thread : Thread) (stack : List (ScopeContext × ContextualId))
    (s : Store σ) : (s.setStack thread stack).stack thread = stack :=
  (s.stack_setStack_eq thread thread stack).trans (if_pos rfl)

/-- The same contexts are in the scopes, and are active or not as before. -/
structure Store.Scoped (s t : Store σ) : Prop where
  scopes : t.scopes = s.scopes
  containers : t.containers = s.containers
  active : ∀ c, (t.context c).active = (s.context c).active
  kind : ∀ c, (t.context c).kind = (s.context c).kind

theorem Store.Scoped.refl (s : Store σ) : s.Scoped s := ⟨rfl, rfl, fun _ => rfl, fun _ => rfl⟩

theorem Store.Scoped.trans {s t u : Store σ} (h : s.Scoped t) (h' : t.Scoped u) : s.Scoped u where
  scopes := h'.scopes.trans h.scopes
  containers := h'.containers.trans h.containers
  active c := (h'.active c).trans (h.active c)
  kind c := (h'.kind c).trans (h.kind c)

theorem Store.Scoped.attached {s t : Store σ} (h : s.Scoped t) (m : Container) (thread : Thread)
    (kind : ScopeKind) : m.attached thread kind t = m.attached thread kind s := by
  simp only [Container.attached, Container.application, Container.slot, Store.container,
    Store.threadScopes, h.scopes, h.containers]

/-- At most the cell for one id of a context is another one than before. -/
structure ScopeContext.Recelled (c : ScopeContext) (id : ContextualId) (s t : Store σ) : Prop where
  fixed : s.Scoped t
  others : ∀ (x : ScopeContext) y, (x, y) ≠ (c, id) →
    (t.context x).entries.get? y = (s.context x).entries.get? y
  episodes : t.episodes = s.episodes
  next : t.nextEpisode = s.nextEpisode

namespace ScopeContext

variable {c : ScopeContext} {id : ContextualId} {s t u : Store σ}

theorem Recelled.trans (h : c.Recelled id s t) (h' : c.Recelled id t u) : c.Recelled id s u where
  fixed := h.fixed.trans h'.fixed
  others x y hne := (h'.others x y hne).trans (h.others x y hne)
  episodes := h'.episodes.trans h.episodes
  next := h'.next.trans h.next

theorem Recelled.stacked (h : c.Recelled id s t) (thread : Thread)
    (stack : List (ScopeContext × ContextualId)) : c.Recelled id s (t.setStack thread stack) where
  fixed := h.fixed.trans ⟨rfl, rfl, fun _ => rfl, fun _ => rfl⟩
  others := h.others
  episodes := h.episodes
  next := h.next

theorem Recelled.of_note {event : Event} (h : c.Recelled id (s.note event) t) :
    c.Recelled id s t where
  fixed := ⟨h.fixed.scopes, h.fixed.containers, h.fixed.active, h.fixed.kind⟩
  others := h.others
  episodes := h.episodes
  next := h.next

theorem recelled_update {f : ScopeContext.Record → ScopeContext.Record}
    (hactive : ∀ r, (f r).active = r.active) (hkind : ∀ r, (f r).kind = r.kind)
    (hentries : ∀ r y, y ≠ id → (f r).entries.get? y = r.entries.get? y) (c : ScopeContext)
    (s : Store σ) : c.Recelled id s (c.update f s) := by
  have hother : ∀ x, x ≠ c → (c.update f s).context x = s.context x := by
    intro x hx
    rw [update, Store.context, Store.setContext, Table.get?_insert, if_neg hx]
    rfl
  refine ⟨⟨rfl, rfl, fun x => ?_, fun x => ?_⟩, fun x y hne => ?_, rfl, rfl⟩
  · by_cases hx : x = c
    · rw [hx, context_update, hactive]
    · rw [hother x hx]
  · by_cases hx : x = c
    · rw [hx, context_update, hkind]
    · rw [hother x hx]
  · by_cases hx : x = c
    · rw [hx, context_update, hentries]
      rintro rfl
      exact hne (hx ▸ rfl)
    · rw [hother x hx]

theorem recelled_fillCell (c : ScopeContext) (id : ContextualId) (n : Nat)
    (content : Cell.Content) (s : Store σ) : c.Recelled id s (c.fillCell id n content s) := by
  apply recelled_update
  · intro r
    split <;> rfl
  · intro r
    split <;> rfl
  · intro r y hy
    split
    · rw [Table.get?_insert, if_neg hy]
    · rfl

theorem recelled_dropCell (c : ScopeContext) (id : ContextualId) (n : Nat) (s : Store σ) :
    c.Recelled id s (c.dropCell id n s) := by
  apply recelled_update
  · intro r
    split <;> rfl
  · intro r
    split <;> rfl
  · intro r y hy
    split
    · rw [Table.get?_erase, if_neg hy]
    · rfl

theorem recelled_claimCell (c : ScopeContext) (id : ContextualId) (s : Store σ) :
    c.Recelled id s (c.claimCell id s).2 := by
  obtain ⟨_, hs⟩ | ⟨_, _, hs⟩ := claimCell_cases c id s
  · rw [hs]
    exact ⟨.refl s, fun _ _ _ => rfl, rfl, rfl⟩
  · have hset : c.Recelled id s (c.setCell id ⟨s.nextCell, .empty⟩ s) := by
      apply recelled_update
      · exact fun _ => rfl
      · exact fun _ => rfl
      · intro r y hy
        rw [Table.get?_insert, if_neg hy]
    rw [hs]
    exact ⟨⟨rfl, rfl, hset.fixed.active, hset.fixed.kind⟩, hset.others, rfl, rfl⟩

end ScopeContext

/-- A graph of definitions whose instances one container creates. -/
structure Network (σ : Type) extends Graph where
  container : Container
  /-- The thread, and the calls besides creations. -/
  host : Host σ
  /-- The instance of a definition, once its successors are there. -/
  make : Contextual → Episode → Run σ Instance

/-- A creation of a definition in progress: the cell that it fills, and its episode. -/
structure Pending where
  unit : Contextual
  serial : Nat
  episode : Episode

namespace Network

variable {n : Network σ}

/-- Creations ask for the successors of their definition in order; the first failure is theirs. What
creations do that are nested deeper than a bound is left open. -/
def create (n : Network σ) (deeper : Contextual → Episode → Act σ Instance) :
    (depth : Nat) → Contextual → Episode → Act σ Instance
  | 0 => deeper
  | depth + 1 => fun unit e => do
    (n.successors unit).forM fun next => do
      let _ ← n.container.reference { n.host with create := n.create deeper depth } next e
    ExceptT.lift (n.make unit e)

def hostTo (n : Network σ) (deeper : Contextual → Episode → Act σ Instance) (depth : Nat) :
    Host σ :=
  { n.host with create := n.create deeper depth }

/-- Putting an instance together, and around it a proxy, does nothing to the container. -/
structure Quiet (n : Network σ) : Prop where
  make : ∀ unit e, (n.make unit e).Aside
  proxy : ∀ unit kind inst, (n.host.proxy unit kind inst).Aside

def cell (home : ScopeKind → ScopeContext) (unit : Contextual) (s : Store σ) : Option Cell :=
  (s.context (home unit.scope)).entries.get? unit.id

/-- The scopes of all definitions are active on the thread, and hold none of them. -/
structure Ready (n : Network σ) (home : ScopeKind → ScopeContext) (s : Store σ) : Prop where
  attached : ∀ u ∈ n.units, n.container.attached n.host.thread u.scope s = some (home u.scope)
  active : ∀ u ∈ n.units, (s.context (home u.scope)).active = true
  storing : ∀ u ∈ n.units, (s.context (home u.scope)).kind ≠ .dependent
  absent : ∀ u ∈ n.units, ∀ k, cell home u s = some k → k.content = .empty
  idle : ∀ u ∈ n.units, (home u.scope, u.id) ∉ s.stack n.host.thread

end Network

/-- Where a search from a store stands. -/
structure Visit (n : Network σ) (home : ScopeKind → ScopeContext) (s₀ : Store σ)
    (gray : List Pending) (done failed : List Contextual) (s : Store σ) : Prop where
  search : n.Search (gray.map (·.unit)) done failed
  fixed : s₀.Scoped s
  stack : s.stack n.host.thread =
    gray.map (fun p => (home p.unit.scope, p.unit.id)) ++ s₀.stack n.host.thread
  pending : ∀ p ∈ gray, Network.cell home p.unit s = some ⟨p.serial, .filling⟩
  unburdened : ∀ p ∈ gray, p.episode.number < s.nextEpisode ∧
    (s.episode p.episode).dependents = [] ∧ (s.episode p.episode).outer = none
  stored : ∀ u ∈ done, ∃ serial bag, Network.cell home u s = some ⟨serial, .live bag⟩
  absent : ∀ u ∈ n.units, u ∉ gray.map (·.unit) → u ∉ done →
    ∀ k, Network.cell home u s = some k → k.content = .empty
  grown : s₀.journal.size ≤ s.journal.size
  begun : (s.since Event.begun? s₀.journal.size).Perm (failed ++ gray.map (·.unit) ++ done)
  made : s.since Event.made? s₀.journal.size = done.reverse

namespace Visit

variable {n : Network σ} {home : ScopeKind → ScopeContext} {s₀ s t : Store σ}
  {gray : List Pending} {done failed : List Contextual} {u : Contextual}

theorem start (h : n.Ready home s₀) : Visit n home s₀ [] [] [] s₀ where
  search := .start n.toGraph
  fixed := .refl s₀
  stack := rfl
  pending := by simp
  unburdened := by simp
  stored := by simp
  absent u hu _ _ := h.absent u hu
  grown := Nat.le_refl _
  begun := by simp
  made := by simp

theorem frame (h : Visit n home s₀ gray done failed s) (hfixed : s.Scoped t)
    (hcontexts : t.contexts = s.contexts) (hstack : t.creating = s.creating)
    (hnext : s.nextEpisode ≤ t.nextEpisode)
    (hepisode : ∀ e : Episode, e.number < s.nextEpisode → t.episode e = s.episode e)
    (hjournal : t.journal = s.journal) : Visit n home s₀ gray done failed t := by
  have hcell : ∀ u, Network.cell home u t = Network.cell home u s := by
    intro u
    rw [Network.cell, Store.context_congr hcontexts, Network.cell]
  have hsince : ∀ {β : Type} (select : Event → Option β),
      t.since select s₀.journal.size = s.since select s₀.journal.size := by
    intro β select
    rw [Store.since, hjournal]
    rfl
  refine ⟨h.search, h.fixed.trans hfixed, ?_, ?_, ?_, ?_, ?_, ?_, ?_, ?_⟩
  · rw [Store.stack, hstack]
    exact h.stack
  · exact fun p hp => (hcell _).trans (h.pending p hp)
  · intro p hp
    obtain ⟨hissued, hrecord⟩ := h.unburdened p hp
    rw [hepisode _ hissued]
    exact ⟨Nat.lt_of_lt_of_le hissued hnext, hrecord⟩
  · intro u hu
    rw [hcell]
    exact h.stored u hu
  · intro u hu hgray hdone
    rw [hcell]
    exact h.absent u hu hgray hdone
  · rw [hjournal]
    exact h.grown
  · rw [hsince]
    exact h.begun
  · rw [hsince]
    exact h.made

theorem reported (h : Visit n home s₀ gray done failed s) (content : Report) :
    Visit n home s₀ gray done failed (s.report content) where
  search := h.search
  fixed := h.fixed.trans ⟨rfl, rfl, fun _ => rfl, fun _ => rfl⟩
  stack := h.stack
  pending := h.pending
  unburdened := h.unburdened
  stored := h.stored
  absent := h.absent
  grown := by
    change _ ≤ (s.journal.push _).size
    rw [Array.size_push]
    exact Nat.le_succ_of_le h.grown
  begun := by
    rw [Store.report, Store.since_note h.grown]
    exact (List.append_nil _).symm ▸ h.begun
  made := by
    rw [Store.report, Store.since_note h.grown]
    exact (List.append_nil _).trans h.made

theorem aside (h : Visit n home s₀ gray done failed s) {x : Run σ α} (hx : x.Aside) :
    Run.wp False x (fun _ t => Visit n home s₀ gray done failed t) s := by
  apply (hx s).mono
  rintro _ _ ⟨own, rfl⟩
  exact h.frame ⟨rfl, rfl, fun _ => rfl, fun _ => rfl⟩ rfl rfl (Nat.le_refl _) (fun _ _ => rfl) rfl

theorem issued (h : Visit n home s₀ gray done failed s) (contextual : Option Contextual) :
    Visit n home s₀ gray done failed (n.container.newEpisode contextual s).2 := by
  refine h.frame ⟨rfl, rfl, fun _ => rfl, fun _ => rfl⟩ rfl rfl (Nat.le_succ _) ?_ rfl
  intro e he
  have hne : e ≠ ⟨s.nextEpisode⟩ := by
    rintro rfl
    exact Nat.lt_irrefl _ he
  change ((s.episodes.insert ⟨s.nextEpisode⟩ _).get? e).getD {} = _
  rw [Table.get?_insert, if_neg hne]
  rfl

theorem cell_of_recelled (hr : (home u.scope).Recelled u.id s t) (hu : u ∈ n.units)
    {v : Contextual} (hv : v ∈ n.units) (hne : v ≠ u) :
    Network.cell home v t = Network.cell home v s := by
  apply hr.others
  intro heq
  exact hne (n.eq_of_id hv hu (congrArg Prod.snd heq))

theorem mem_units_of_pending (h : Visit n home s₀ gray done failed s) {p : Pending}
    (hp : p ∈ gray) : p.unit ∈ n.units :=
  h.search.known _ (List.mem_append_left _ (List.mem_append_right _ (List.mem_map_of_mem hp)))

theorem mem_units_of_done (h : Visit n home s₀ gray done failed s) (hu : u ∈ done) :
    u ∈ n.units :=
  h.search.known _ (List.mem_append_right _ hu)

theorem fresh_of_top {p : Pending} (h : Visit n home s₀ (p :: gray) done failed s) :
    p.unit ∉ gray.map (·.unit) ∧ p.unit ∉ done := by
  have hapart := h.search.apart
  rw [List.map_cons, List.append_assoc, List.cons_append] at hapart
  have htop := (List.nodup_cons.1 (List.nodup_append.1 hapart).2.1).1
  rw [List.mem_append, not_or] at htop
  exact htop

theorem cell_of_leave {p : Pending} (h : Visit n home s₀ (p :: gray) done failed s)
    (hr : (home p.unit.scope).Recelled p.unit.id s t) (hu : u ∈ n.units) (hne : u ≠ p.unit) :
    Network.cell home u t = Network.cell home u s :=
  cell_of_recelled hr (h.mem_units_of_pending List.mem_cons_self) hu hne

/-- The creation of a definition begins in a cell of its own. -/
theorem enter (h : Visit n home s₀ gray done [] s) (hu : u ∈ n.units)
    (hgray : u ∉ gray.map (·.unit)) (hdone : u ∉ done) {own : Episode} {serial : Nat}
    (hr : (home u.scope).Recelled u.id s t)
    (hcell : Network.cell home u t = some ⟨serial, .filling⟩)
    (hown : own.number < s.nextEpisode ∧ (s.episode own).dependents = [] ∧
      (s.episode own).outer = none)
    (hstack : t.stack n.host.thread = (home u.scope, u.id) :: s.stack n.host.thread)
    (hjournal : t.journal = s.journal) :
    Visit n home s₀ (⟨u, serial, own⟩ :: gray) done [] (t.note (.creating u own)) where
  search := h.search.enter hu hgray hdone
  fixed := h.fixed.trans ⟨hr.fixed.scopes, hr.fixed.containers, hr.fixed.active, hr.fixed.kind⟩
  stack := by
    change t.stack n.host.thread = _
    rw [hstack, h.stack]
    rfl
  pending p hp := by
    change Network.cell home p.unit t = _
    rcases List.mem_cons.1 hp with rfl | hold
    · exact hcell
    · rw [cell_of_recelled hr hu (h.mem_units_of_pending hold), h.pending p hold]
      rintro rfl
      exact hgray (List.mem_map_of_mem hold)
  unburdened p hp := by
    change _ < t.nextEpisode ∧ (t.episode _).dependents = [] ∧ (t.episode _).outer = none
    rw [hr.next, Store.episode_congr hr.episodes]
    rcases List.mem_cons.1 hp with rfl | hp
    · exact hown
    · exact h.unburdened p hp
  stored v hv := by
    change ∃ serial bag, Network.cell home v t = _
    rw [cell_of_recelled hr hu (h.mem_units_of_done hv)]
    · exact h.stored v hv
    · rintro rfl
      exact hdone hv
  absent v hv hvgray hvdone := by
    rw [List.map_cons, List.mem_cons, not_or] at hvgray
    change ∀ k, Network.cell home v t = some k → _
    rw [cell_of_recelled hr hu hv hvgray.1]
    exact h.absent v hv hvgray.2 hvdone
  grown := by
    change _ ≤ (t.journal.push _).size
    rw [Array.size_push, hjournal]
    exact Nat.le_succ_of_le h.grown
  begun := by
    have hsame : t.since Event.begun? s₀.journal.size =
        s.since Event.begun? s₀.journal.size := by
      rw [Store.since, hjournal, Store.since]
    rw [Store.since_note (by rw [hjournal]; exact h.grown), hsame]
    exact (List.perm_append_singleton u _).trans (h.begun.cons u)
  made := by
    rw [Store.since_note (by rw [hjournal]; exact h.grown), Store.since, hjournal]
    exact (List.append_nil _).trans h.made

/-- A creation whose successors are done is completed, and the instance is stored. -/
theorem finish {p : Pending} {inst : Instance} {bag : Bag}
    (h : Visit n home s₀ (p :: gray) done [] s)
    (hsuccessors : ∀ v ∈ n.successors p.unit, v ∈ done)
    (hr : (home p.unit.scope).Recelled p.unit.id s t)
    (hcell : Network.cell home p.unit t = some ⟨p.serial, .live bag⟩)
    (hstack : t.stack n.host.thread = (s.stack n.host.thread).tail)
    (hjournal : t.journal = (s.note (.created p.unit p.episode inst)).journal) :
    Visit n home s₀ gray (p.unit :: done) [] t where
  search := h.search.finish hsuccessors
  fixed := h.fixed.trans hr.fixed
  stack := by
    rw [hstack, h.stack]
    rfl
  pending q hq := by
    have hq' := List.mem_cons_of_mem p hq
    rw [h.cell_of_leave hr (h.mem_units_of_pending hq'), h.pending q hq']
    intro heq
    exact h.fresh_of_top.1 (heq ▸ List.mem_map_of_mem hq)
  unburdened q hq := by
    rw [hr.next, Store.episode_congr hr.episodes]
    exact h.unburdened q (List.mem_cons_of_mem p hq)
  stored v hv := by
    rcases List.mem_cons.1 hv with rfl | hv
    · exact ⟨_, _, hcell⟩
    · rw [h.cell_of_leave hr (h.mem_units_of_done hv)]
      · exact h.stored v hv
      · rintro rfl
        exact h.fresh_of_top.2 hv
  absent v hv hvgray hvdone := by
    rw [List.mem_cons, not_or] at hvdone
    rw [h.cell_of_leave hr hv hvdone.1]
    refine h.absent v hv ?_ hvdone.2
    rw [List.map_cons, List.mem_cons, not_or]
    exact ⟨hvdone.1, hvgray⟩
  grown := by
    rw [hjournal]
    change _ ≤ (s.journal.push _).size
    rw [Array.size_push]
    exact Nat.le_succ_of_le h.grown
  begun := by
    rw [Store.since, hjournal]
    change ((s.note _).since _ _).Perm _
    rw [Store.since_note h.grown]
    simp only [Event.begun?, Option.toList_none, List.append_nil]
    exact h.begun.trans List.perm_middle.symm
  made := by
    rw [Store.since, hjournal]
    change (s.note _).since _ _ = _
    rw [Store.since_note h.grown, h.made, List.reverse_cons]
    rfl

/-- A creation that fails gives its place up. -/
theorem fail {p : Pending} (h : Visit n home s₀ (p :: gray) done failed s)
    (hr : (home p.unit.scope).Recelled p.unit.id s t)
    (hcell : Network.cell home p.unit t = none)
    (hstack : t.stack n.host.thread = (s.stack n.host.thread).tail)
    (hjournal : t.journal = s.journal) :
    Visit n home s₀ gray done (p.unit :: failed) t where
  search := h.search.fail
  fixed := h.fixed.trans hr.fixed
  stack := by
    rw [hstack, h.stack]
    rfl
  pending q hq := by
    have hq' := List.mem_cons_of_mem p hq
    rw [h.cell_of_leave hr (h.mem_units_of_pending hq'), h.pending q hq']
    intro heq
    exact h.fresh_of_top.1 (heq ▸ List.mem_map_of_mem hq)
  unburdened q hq := by
    rw [hr.next, Store.episode_congr hr.episodes]
    exact h.unburdened q (List.mem_cons_of_mem p hq)
  stored v hv := by
    rw [h.cell_of_leave hr (h.mem_units_of_done hv)]
    · exact h.stored v hv
    · rintro rfl
      exact h.fresh_of_top.2 hv
  absent v hv hvgray hvdone := by
    by_cases hvp : v = p.unit
    · rw [hvp, hcell]
      exact fun _ hk => nomatch hk
    · rw [h.cell_of_leave hr hv hvp]
      refine h.absent v hv ?_ hvdone
      rw [List.map_cons, List.mem_cons, not_or]
      exact ⟨hvp, hvgray⟩
  grown := by
    rw [hjournal]
    exact h.grown
  begun := by
    have htop : (failed ++ p.unit :: gray.map (·.unit)).Perm
        (p.unit :: (failed ++ gray.map (·.unit))) := List.perm_middle
    rw [Store.since, hjournal]
    exact h.begun.trans (htop.append_right done)
  made := by
    rw [Store.since, hjournal]
    exact h.made

end Visit

end ContextualLifecycle
