import ContextualLifecycle.Proofs.Container.Moves
import ContextualLifecycle.Proofs.Container.Orderly
import ContextualLifecycle.Proofs.ScopeContext.Filling
import Mathlib.Data.List.Perm.Subperm

namespace ContextualLifecycle

open scoped List

variable {σ τ : Type}

/-- There is no entry for the id, and only the cell with the serial number may be being filled. -/
structure ScopeContext.Unborn (c : ScopeContext) (id : ContextualId) (n : Nat) (s : Store σ) :
    Prop where
  issued : c.number < s.nextContext
  stored : (s.context c).kind ≠ .dependent
  absent : c.live s id = none
  filling : ∀ m, (s.context c).entries.get? id = some ⟨m, .filling⟩ → m = n

namespace ScopeContext.Unborn

variable {c : ScopeContext} {id : ContextualId} {n : Nat} {s : Store σ} {t : Store τ}

theorem congr (h : c.Unborn id n s) (hcontext : t.context c = s.context c)
    (hnext : s.nextContext ≤ t.nextContext) : c.Unborn id n t where
  issued := Nat.lt_of_lt_of_le h.issued hnext
  stored := hcontext ▸ h.stored
  absent := by
    rw [live, hcontext]
    exact h.absent
  filling := hcontext ▸ h.filling

/-- A context may change, if the cell for the id stays, goes or becomes an empty one. -/
theorem update (h : c.Unborn id n s) (x : ScopeContext)
    {f : ScopeContext.Record → ScopeContext.Record} (hkind : ∀ r, (f r).kind = r.kind)
    (hcell : x = c → ∀ cell, (f (s.context c)).entries.get? id = some cell →
      cell.content = .empty ∨ (s.context c).entries.get? id = some cell) :
    c.Unborn id n (x.update f s) := by
  by_cases hx : x = c
  · subst hx
    refine ⟨h.issued, ?_, ?_, fun m hm => ?_⟩
    · rw [context_update, hkind]
      exact h.stored
    · rw [live, context_update]
      cases hget : (f (s.context x)).entries.get? id with
      | none => rfl
      | some cell =>
        rcases hcell rfl cell hget with hempty | hsame
        · simp only [Option.bind_some, Cell.bag?, hempty]
        · exact hsame ▸ h.absent
    · rw [context_update] at hm
      rcases hcell rfl _ hm with hempty | hsame
      · cases hempty
      · exact h.filling m hsame
  · exact h.congr (context_update_of_ne (Ne.symm hx) f s) (Nat.le_refl _)

theorem takeEntry (h : c.Unborn id n s) (x : ScopeContext) (y : ContextualId) :
    c.Unborn id n (x.takeEntry y s).2 := by
  refine h.update x (f := fun r => { r with entries := r.entries.erase y }) (fun _ => rfl) ?_
  intro _ cell hget
  rw [Table.get?_erase] at hget
  split at hget
  · cases hget
  · exact .inr hget

theorem dropCell (h : c.Unborn id n s) (x : ScopeContext) (y : ContextualId) (k : Nat) :
    c.Unborn id n (x.dropCell y k s) := by
  refine h.update x (fun r => by split <;> rfl) ?_
  intro _ cell hget
  split at hget
  · rw [Table.get?_erase] at hget
    split at hget
    · cases hget
    · exact .inr hget
  · exact .inr hget

theorem setCell (h : c.Unborn id n s) (x : ScopeContext) (y : ContextualId) (cell : Cell)
    (hcell : x = c → y = id → cell.content = .empty) : c.Unborn id n (x.setCell y cell s) := by
  refine h.update x (f := fun r => { r with entries := r.entries.insert y cell }) (fun _ => rfl) ?_
  intro hx new hget
  rw [Table.get?_insert] at hget
  split at hget
  · rename_i hid
    cases hget
    exact .inl (hcell hx hid.symm)
  · exact .inr hget

theorem claimCell (h : c.Unborn id n s) (x : ScopeContext) (y : ContextualId) :
    c.Unborn id n (x.claimCell y s).2 := by
  obtain ⟨_, heq⟩ | ⟨_, _, heq⟩ := claimCell_cases x y s
  · rwa [heq]
  · rw [heq]
    have hset : c.Unborn id n (x.setCell y ⟨s.nextCell, .empty⟩ s) :=
      h.setCell x y _ fun _ _ => rfl
    exact hset.congr rfl (Nat.le_refl _)

theorem fillOther (h : c.Unborn id n s) {x : ScopeContext} {y : ContextualId}
    (hother : ¬ (x = c ∧ y = id)) (k : Nat) (content : Cell.Content) :
    c.Unborn id n (x.fillCell y k content s) := by
  refine h.update x (fun r => by split <;> rfl) ?_
  intro hx cell hget
  split at hget
  · rw [Table.get?_insert, if_neg fun hid => hother ⟨hx, hid.symm⟩] at hget
    exact .inr hget
  · exact .inr hget

theorem new (h : c.Unborn id n s) (kind : ScopeKind) :
    c.Unborn id n (ScopeContext.new kind s).2 := by
  refine h.congr ?_ (Nat.le_succ _)
  rw [context_new_eq, if_neg]
  rintro rfl
  exact Nat.lt_irrefl _ h.issued

end ScopeContext.Unborn

namespace Episode

/-- The records that were destroyed after the first events of the journal, and those that are
listed. -/
def standing (e : Episode) (start : Nat) (s : Store σ) : List Dependent :=
  s.destroyedSince start e ++ (s.episode e).dependents

/-- The books of an episode that is not wrapped around another: it lists or destroyed all records
that it held when the journal had `start` events. -/
structure Ledger (e : Episode) (start : Nat) (held : List Dependent) (torn : Bool) (s : Store σ) :
    Prop where
  issued : e.number < s.nextEpisode
  unwrapped : (s.episode e).outer = none
  destroying : (s.episode e).destroying = torn
  orderly : (s.episode e).Orderly
  started : start ≤ s.journal.size
  accounted : held <+~ e.standing start s

variable {e : Episode} {start : Nat} {held : List Dependent} {torn : Bool} {s : Store σ}
  {t : Store τ}

theorem standing_taken (hs : start ≤ s.journal.size) {front back : List Dependent} {d : Dependent}
    (hd : (s.episode e).dependents = front ++ d :: back) :
    (e.standing start ((e.relist (front ++ back) s).note (.destroying d.contextual d.inst e))).Perm
      (e.standing start s) := by
  have hgone : ((e.relist (front ++ back) s).note
      (.destroying d.contextual d.inst e)).destroyedSince start e =
        s.destroyedSince start e ++ [d] :=
    Store.destroyedSince_destroying (by exact hs) ..
  have hlist : (((e.relist (front ++ back) s).note
      (.destroying d.contextual d.inst e)).episode e).dependents = front ++ back := by
    simp only [episode_note, episode_relist]
  rw [standing, standing, hgone, hlist, hd, List.append_assoc, List.singleton_append]
  exact List.Perm.append_left _ List.perm_middle.symm

theorem sublist_standing_note (hs : start ≤ s.journal.size) (event : Event) :
    (e.standing start s).Sublist (e.standing start (s.note event)) := by
  rw [standing, standing, Store.destroyedSince_note hs, episode_note]
  exact (List.sublist_append_left _ _).append_right _

namespace Ledger

theorem congr (h : e.Ledger start held torn s) (hepisode : t.episode e = s.episode e)
    (hissued : s.nextEpisode ≤ t.nextEpisode) (hjournal : t.journal = s.journal) :
    e.Ledger start held torn t where
  issued := Nat.lt_of_lt_of_le h.issued hissued
  unwrapped := hepisode ▸ h.unwrapped
  destroying := hepisode ▸ h.destroying
  orderly := hepisode ▸ h.orderly
  started := hjournal ▸ h.started
  accounted := by
    rw [standing, Store.destroyedSince, hjournal, hepisode]
    exact h.accounted

theorem noted (h : e.Ledger start held torn s) (event : Event) :
    e.Ledger start held torn (s.note event) :=
  { h with
    started := Nat.le_trans h.started (by simp [Store.note])
    accounted := h.accounted.trans (sublist_standing_note h.started event).subperm }

theorem revised (h : e.Ledger start held torn s) {listed : List Dependent} {raised : Bool}
    (hrecord : ∃ r : Episode.Record, t.episode e = { r with
      dependents := listed, destroying := raised,
      outer := (s.episode e).outer, teardownFactor := (s.episode e).teardownFactor })
    (hissued : t.nextEpisode = s.nextEpisode) (hstarted : s.journal.size ≤ t.journal.size)
    (hdistinct : Distinct listed) (haccounted : held <+~ t.destroyedSince start e ++ listed) :
    e.Ledger start held raised t := by
  obtain ⟨r, hrecord⟩ := hrecord
  refine ⟨hissued ▸ h.issued, ?_, ?_, ?_, Nat.le_trans h.started hstarted, ?_⟩
  · rw [hrecord]
    exact h.unwrapped
  · rw [hrecord]
  · rw [hrecord]
    exact ⟨hdistinct, h.orderly.factor⟩
  · rw [standing, hrecord]
    exact haccounted

theorem update (h : e.Ledger start held torn s) (x : Episode)
    {f : Episode.Record → Episode.Record}
    (hf : x = e → ∃ r : Episode.Record, f (s.episode e) = { r with
      dependents := (s.episode e).dependents, destroying := (s.episode e).destroying,
      outer := (s.episode e).outer, teardownFactor := (s.episode e).teardownFactor }) :
    e.Ledger start held torn (x.update f s) := by
  by_cases hx : x = e
  · subst hx
    obtain ⟨r, hr⟩ := hf rfl
    rw [h.destroying] at hr
    exact h.revised ⟨r, (episode_update_self x f s).trans hr⟩ rfl (Nat.le_refl _) h.orderly.distinct
      h.accounted
  · exact h.congr (by rw [episode_update, if_neg (Ne.symm hx)]) (Nat.le_refl _) rfl

theorem registered (h : e.Ledger start held torn s) (x : Episode) (unit : Contextual)
    (inst : Instance) : e.Ledger start held torn (x.update (·.register unit inst) s) := by
  by_cases hx : x = e
  · subst hx
    obtain ⟨hdistinct, hsub⟩ := (s.episode x).register_keeps unit inst
    refine h.revised ⟨s.episode x, ?_⟩ rfl (Nat.le_refl _) (hdistinct h.orderly.distinct)
      (h.accounted.trans (hsub.append_left _).subperm)
    rw [episode_update_self, Record.register, ← h.destroying]
    split <;> rfl
  · exact h.update x fun heq => absurd heq hx

theorem taken (h : e.Ledger start held torn s) (x : Episode) {front back : List Dependent}
    {d : Dependent} (hd : (s.episode x).dependents = front ++ d :: back) :
    e.Ledger start held torn
      ((x.relist (front ++ back) s).note (.destroying d.contextual d.inst x)) := by
  by_cases hx : x = e
  · subst hx
    have hsub : (front ++ back).Sublist (front ++ d :: back) :=
      (List.sublist_cons_self d back).append_left front
    have haccounted := h.accounted.trans (standing_taken h.started hd).symm.subperm
    rw [standing, episode_note, episode_relist] at haccounted
    refine h.revised ⟨s.episode x, ?_⟩ rfl ?_ ((hd ▸ h.orderly.distinct).sublist hsub) haccounted
    · rw [episode_note, episode_relist, ← h.destroying]
    · simp [Store.note, Episode.relist, Episode.update, Store.setEpisode]
  · exact (h.update x fun heq => absurd heq hx).noted _

theorem flagged (h : e.Ledger start held torn s) (raised : Bool) :
    e.Ledger start held raised (e.setDestroying raised s) :=
  h.revised ⟨s.episode e, episode_setDestroying raised s⟩ rfl (Nat.le_refl _) h.orderly.distinct
    h.accounted

theorem begun (h : e.Ledger start held torn s) (contextual : Option Contextual)
    (outer : Option Foreign) (factor : UInt64) :
    e.Ledger start held torn (Episode.new contextual outer factor s).2 := by
  refine h.congr ?_ (Nat.le_succ _) rfl
  have hne : e ≠ ⟨s.nextEpisode⟩ := by
    rintro rfl
    exact Nat.lt_irrefl _ h.issued
  simp only [Episode.new, Store.episode, Store.setEpisode, Table.get?_insert, if_neg hne]

end Ledger

end Episode

/-- A creation on a thread for an id of a context, into the cell with a serial number and an
episode, with the records that this held when the journal had `start` events. -/
structure Attempt where
  thread : Thread
  context : ScopeContext
  id : ContextualId
  serial : Nat
  episode : Episode
  start : Nat := 0
  held : List Dependent := []

namespace Attempt

/-- What changes from one callback to the next: the creations on the stack of the thread, and
whether the episode is being torn down. -/
structure Stage where
  stack : List (ScopeContext × ContextualId)
  torn : Bool := false

/-- The state of an attempt at a stage. -/
structure At (a : Attempt) (g : Stage) (s : Store σ) : Prop where
  entered : (a.context, a.id) ∈ g.stack
  stacked : s.stack a.thread = g.stack
  place : a.context.Unborn a.id a.serial s
  books : a.episode.Ledger a.start a.held g.torn s

def Stage.enter (g : Stage) (a : Attempt) (thread : Thread) (c : ScopeContext)
    (id : ContextualId) : Stage :=
  if thread = a.thread then { g with stack := (c, id) :: g.stack } else g

namespace At

variable {a : Attempt} {g : Stage} {s : Store σ} {t : Store τ}

theorem aside (h : a.At g s) (hstack : t.stack a.thread = s.stack a.thread)
    (hcontext : t.context a.context = s.context a.context)
    (hepisode : t.episode a.episode = s.episode a.episode) (hjournal : t.journal = s.journal)
    (hnext : s.nextContext ≤ t.nextContext) (hissued : s.nextEpisode ≤ t.nextEpisode) :
    a.At g t :=
  ⟨h.entered, hstack.trans h.stacked, h.place.congr hcontext hnext,
    h.books.congr hepisode hissued hjournal⟩

theorem noted (h : a.At g s) (event : Event) : a.At g (s.note event) :=
  ⟨h.entered, h.stacked, h.place.congr rfl (Nat.le_refl _), h.books.noted event⟩

theorem elsewhere (h : a.At g s) (hplace : a.context.Unborn a.id a.serial t)
    (hstack : t.stack a.thread = s.stack a.thread)
    (hepisode : t.episode a.episode = s.episode a.episode) (hjournal : t.journal = s.journal)
    (hissued : s.nextEpisode ≤ t.nextEpisode) : a.At g t :=
  ⟨h.entered, hstack.trans h.stacked, hplace, h.books.congr hepisode hissued hjournal⟩

theorem takeEntry (h : a.At g s) (c : ScopeContext) (id : ContextualId) :
    a.At g (c.takeEntry id s).2 :=
  h.elsewhere (h.place.takeEntry c id) rfl rfl rfl (Nat.le_refl _)

theorem dropCell (h : a.At g s) (c : ScopeContext) (id : ContextualId) (n : Nat) :
    a.At g (c.dropCell id n s) :=
  h.elsewhere (h.place.dropCell c id n) rfl rfl rfl (Nat.le_refl _)

theorem fillOther (h : a.At g s) {c : ScopeContext} {id : ContextualId}
    (hother : ¬ (c = a.context ∧ id = a.id)) (n : Nat) (content : Cell.Content) :
    a.At g (c.fillCell id n content s) :=
  h.elsewhere (h.place.fillOther hother n content) rfl rfl rfl (Nat.le_refl _)

theorem new (h : a.At g s) (kind : ScopeKind) : a.At g (ScopeContext.new kind s).2 :=
  h.elsewhere (h.place.new kind) rfl rfl rfl (Nat.le_refl _)

theorem recontext (h : a.At g s) (c : ScopeContext)
    {f : ScopeContext.Record → ScopeContext.Record} (hkind : ∀ r, (f r).kind = r.kind)
    (hentries : ∀ r, (f r).entries = r.entries) : a.At g (c.update f s) := by
  have hplace := h.place.update c hkind fun _ cell hget => .inr (by rwa [hentries] at hget)
  exact h.elsewhere hplace rfl rfl rfl (Nat.le_refl _)

theorem record (h : a.At g s) {e : Episode} {f : Episode.Record → Episode.Record}
    (hbooks : a.episode.Ledger a.start a.held g.torn (e.update f s)) : a.At g (e.update f s) :=
  ⟨h.entered, h.stacked, h.place.congr rfl (Nat.le_refl _), hbooks⟩

theorem taken (h : a.At g s) (e : Episode) {front back : List Dependent} {d : Dependent}
    (hd : (s.episode e).dependents = front ++ d :: back) :
    a.At g ((e.relist (front ++ back) s).note (.destroying d.contextual d.inst e)) :=
  ⟨h.entered, h.stacked, h.place.congr rfl (Nat.le_refl _), h.books.taken e hd⟩

theorem flagged (h : a.At g s) (raised : Bool) :
    a.At { g with torn := raised } (a.episode.setDestroying raised s) :=
  ⟨h.entered, h.stacked, h.place.congr rfl (Nat.le_refl _), h.books.flagged raised⟩

theorem claimCell (h : a.At g s) (c : ScopeContext) (id : ContextualId) :
    a.At g (c.claimCell id s).2 := by
  obtain ⟨_, heq⟩ | ⟨_, _, heq⟩ := ScopeContext.claimCell_cases c id s
  · rwa [heq]
  · have hplace := h.place.claimCell c id
    rw [heq] at hplace ⊢
    exact ⟨h.entered, h.stacked, hplace, h.books.congr rfl (Nat.le_refl _) rfl⟩

theorem enter (h : a.At g s) (thread : Thread) (c : ScopeContext) (id : ContextualId) :
    a.At (g.enter a thread c id) (s.setStack thread ((c, id) :: s.stack thread)) := by
  have hstack := s.stack_setStack_eq thread a.thread ((c, id) :: s.stack thread)
  have hplace : a.context.Unborn a.id a.serial
      (s.setStack thread ((c, id) :: s.stack thread)) := h.place.congr rfl (Nat.le_refl _)
  rw [Stage.enter]
  split
  · rename_i hthread
    refine ⟨List.mem_cons_of_mem _ h.entered, ?_, hplace, h.books.congr rfl (Nat.le_refl _) rfl⟩
    rw [hstack, if_pos hthread.symm, hthread, h.stacked]
  · rename_i hthread
    refine ⟨h.entered, ?_, hplace, h.books.congr rfl (Nat.le_refl _) rfl⟩
    rw [hstack, if_neg (Ne.symm hthread)]
    exact h.stacked

theorem leave {thread : Thread} {c : ScopeContext} {id : ContextualId}
    (hg : (a.context, a.id) ∈ g.stack) (h : a.At (g.enter a thread c id) s) :
    a.At g (ScopeContext.leaveCreation thread s) := by
  have hstack := ScopeContext.stack_leaveCreation_eq thread a.thread s
  have hplace : a.context.Unborn a.id a.serial (ScopeContext.leaveCreation thread s) :=
    h.place.congr rfl (Nat.le_refl _)
  obtain ⟨_, hstacked, _, hbooks⟩ := h
  rw [Stage.enter] at hstacked hbooks
  split at hstacked
  · rename_i hthread
    rw [if_pos hthread] at hbooks
    refine ⟨hg, ?_, hplace, hbooks.congr rfl (Nat.le_refl _) rfl⟩
    rw [hstack, if_pos hthread.symm, hthread, hstacked]
    rfl
  · rename_i hthread
    rw [if_neg hthread] at hbooks
    refine ⟨hg, ?_, hplace, hbooks.congr rfl (Nat.le_refl _) rfl⟩
    rw [hstack, if_neg (Ne.symm hthread)]
    exact hstacked

end At

end Attempt

end ContextualLifecycle
