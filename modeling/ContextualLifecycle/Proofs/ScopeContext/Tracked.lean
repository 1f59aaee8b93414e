import ContextualLifecycle.Proofs.ScopeContext.Fates
import ContextualLifecycle.Proofs.ScopeContext.Filling

namespace ContextualLifecycle

variable {σ τ : Type}

namespace ScopeContext

/-- What the surroundings may call on a context. -/
inductive Call where
  | getOrCreate (unit : Contextual) (e : Episode)
  | get (unit : Contextual)
  | bag (unit : Contextual)
  | contains (unit : Contextual)
  | size
  | destroy (unit : Contextual)
  | destroyExisting (unit : Contextual)
  | destroyAll
  | setActive (active : Bool)

def Call.Answer : Call → Type
  | getOrCreate .. => Instance
  | get _ => Option Instance
  | bag _ => Option Bag
  | contains _ => Bool
  | size => Nat
  | destroy _ => Bool
  | destroyExisting _ => Unit
  | destroyAll => Unit
  | setActive _ => Unit

def interface (c : ScopeContext) : Interface where
  Call := Call
  Answer := Call.Answer
  perform host
    | .getOrCreate unit e => c.getOrCreate host unit e
    | .get unit => return ((← get).context c).get? unit
    | .bag unit => return ((← get).context c).bag? unit
    | .contains unit => return ((← get).context c).contains unit
    | .size => return ((← get).context c).size
    | .destroy unit => c.destroy host unit
    | .destroyExisting unit => c.destroyExisting host unit
    | .destroyAll => c.destroyAll host
    | .setActive active => modify (c.setActive active)

/-- The next event after a store with a given journal destroys a bag. -/
def DestroysNext (before after : Store τ) (bag : Bag) : Prop :=
  before.journal.toList ++ [.destroying bag.contextual bag.inst bag.episode] <+:
    after.journal.toList

/-- How a call on a context is answered, in terms of its live entries before and after. -/
def Answered (c : ScopeContext) : (op : Call) → (before : Store τ) →
    Except LifecycleError op.Answer → (after : Store τ) → Prop
  | .getOrCreate unit _, before, answer, after =>
    (∀ inst, answer = .ok inst → ∃ bag, c.live after unit.id = some bag ∧ bag.inst = inst) ∧
      ∀ bag, (before.context c).active = true → c.live before unit.id = some bag →
        answer = .ok bag.inst ∧ after = before
  | .get unit, before, answer, after =>
    answer = .ok ((c.live before unit.id).map (·.inst)) ∧ after = before
  | .bag unit, before, answer, after => answer = .ok (c.live before unit.id) ∧ after = before
  | .contains unit, before, answer, after =>
    answer = .ok (c.live before unit.id).isSome ∧ after = before
  | .size, before, answer, after =>
    (∃ ids : List ContextualId, ids.Nodup ∧ (∀ id, id ∈ ids ↔ (c.live before id).isSome) ∧
      answer = .ok ids.length) ∧ after = before
  | .destroy unit, before, answer, after =>
    (∀ bag, c.live before unit.id = some bag →
      answer ≠ .ok false ∧ DestroysNext before after bag) ∧
      (c.live before unit.id = none → answer = .ok false ∧ after.journal = before.journal ∧
        ∀ id, c.live after id = c.live before id)
  | .destroyExisting unit, before, answer, after =>
    (∀ bag, c.live before unit.id = some bag → DestroysNext before after bag) ∧
      (c.live before unit.id = none →
        answer = .error (.missingEntry (before.context c).kind unit.id.text) ∧
        after.journal = before.journal ∧ ∀ id, c.live after id = c.live before id)
  | .destroyAll, _, _, _ => True
  | .setActive active, before, answer, after =>
    answer = .ok () ∧ (after.context c).active = active ∧ ∀ id, c.live after id = c.live before id

def Faithful (c : ScopeContext) (start : Nat) : Sighting c.interface → Prop
  | .moment m => c.Mapped start m
  | .call op before answer after =>
    c.Mapped start before ∧ c.Mapped start after ∧ c.Answered op before answer after

theorem started_note {start : Nat} {s : Store σ} (hs : start ≤ s.journal.size) (event : Event) :
    start ≤ (s.note event).journal.size := by
  rw [Store.note, Array.size_push]
  exact Nat.le_succ_of_le hs

theorem grown_note {old : List Event} {s : Store σ} (hs : old <+: s.journal.toList)
    (event : Event) : old <+: (s.note event).journal.toList := by
  rw [Store.note, Array.toList_push]
  exact hs.trans (List.prefix_append _ _)

/-- What a call runs its callbacks under: the creations in flight, and the journal so far. -/
structure Frame where
  pending : List ContextualId
  cells : List (ContextualId × Nat)
  old : List Event

def Frame.filling (f : Frame) (id : ContextualId) (n : Nat) : Frame :=
  ⟨id :: f.pending, (id, n) :: f.cells, f.old⟩

def Frame.placeless (f : Frame) (id : ContextualId) : Frame := ⟨id :: f.pending, f.cells, f.old⟩

/-- The state of a context in a run. -/
structure Tracked (c : ScopeContext) (start : Nat) (thread : Thread)
    (base : List (ScopeContext × ContextualId)) (f : Frame)
    (s : Store (Watched c.interface σ)) : Prop where
  started : start ≤ s.journal.size
  grown : f.old <+: s.journal.toList
  stored : (s.context c).kind ≠ .dependent
  alone : (s.context c).conversations.values = []
  mapped : c.Mapped start s
  filling : c.Filling thread base f.pending f.cells s
  faithful : ∀ sighting ∈ s.seen, c.Faithful start sighting

section Tracked

variable {c : ScopeContext} {start : Nat} {thread : Thread}
  {base : List (ScopeContext × ContextualId)} {f : Frame} {s : Store (Watched c.interface σ)}
  {stuck : Prop} {supply : Supply σ} {during : Callback → Act (Watched c.interface σ) Unit}

theorem Tracked.since {old : List Event} (h : c.Tracked start thread base { f with old } s)
    (hold : f.old <+: old) : c.Tracked start thread base f s :=
  { h with grown := hold.trans h.grown }

theorem Tracked.noted (h : c.Tracked start thread base f s) {event : Event}
    (hcreation : event.creation? = none) (hdestruction : event.destruction? = none) :
    c.Tracked start thread base f (s.note event) where
  started := started_note h.started event
  grown := grown_note h.grown event
  stored := h.stored
  alone := h.alone
  mapped := h.mapped.noted h.started hcreation hdestruction
  filling := h.filling.congr rfl fun _ => rfl
  faithful := h.faithful

/-- The release of an episode destroys what was not created in the context. -/
theorem Tracked.releaseKeeps
    (hduring : ∀ cb, Act.Keeps stuck (c.Tracked start thread base f) (during cb)) (e : Episode) :
    Episode.ReleaseKeeps stuck (supply.watched.host during) e (c.Tracked start thread base f) where
  taken s front d back h hd := by
    have hstarted : start ≤ (e.relist (front ++ back) s).journal.size := h.started
    have hgrown : f.old <+: (e.relist (front ++ back) s).journal.toList := h.grown
    exact ⟨started_note hstarted _, grown_note hgrown _, h.stored, h.alone,
      h.mapped.released h.started hd, h.filling.congr rfl fun _ => rfl, h.faithful⟩
  reported s content h := h.noted rfl rfl
  destroy _ _ := hduring _
  flagged s destroying h := by
    have howns : ∀ x, ((e.setDestroying destroying s).episode x).dependents =
        (s.episode x).dependents := by
      intro x
      rw [Episode.setDestroying, Episode.episode_update]
      split
      · rename_i hx
        rw [hx]
      · rfl
    exact ⟨h.started, h.grown, h.stored, h.alone, h.mapped.congr (fun _ => rfl) rfl howns,
      h.filling.congr rfl fun _ => rfl, h.faithful⟩
  released s outer h := h.noted rfl rfl
  release _ := hduring _

theorem Tracked.bagDestroyed {bag : Bag}
    (hduring : ∀ cb, Act.Keeps stuck (c.Tracked start thread base f) (during cb))
    (h : c.Tracked start thread base f
      (s.note (.destroying bag.contextual bag.inst bag.episode))) :
    Act.wp stuck (bag.destroy (supply.watched.host during))
      (fun _ t => c.Tracked start thread base f t) s :=
  Bag.wp_destroy_of (Tracked.releaseKeeps hduring bag.episode) h

/-- How a creation in a frame comes back: with an error, or with an instance that was unknown. -/
def Created (c : ScopeContext) (start : Nat) (thread : Thread)
    (base : List (ScopeContext × ContextualId)) (f : Frame) (unit : Contextual) (e : Episode)
    (r : Except LifecycleError Instance) (t : Store (Watched c.interface σ)) : Prop :=
  (∀ error, r = .error error → c.Tracked start thread base f t) ∧
    ∀ inst, r = .ok inst → ∃ u, c.Tracked start thread base f u ∧ ¬ u.Knows inst ∧
      t = u.note (.created unit e inst)

theorem Tracked.create {supply : Supply σ} (hfresh : supply.Fresh)
    (hduring : ∀ cb, Act.Keeps stuck (c.Tracked start thread base f) (during cb))
    (h : c.Tracked start thread base f s) (unit : Contextual) (e : Episode) :
    Act.wp stuck (unit.create (supply.watched.host during) e)
      (Created c start thread base f unit e) s := by
  simp only [Contextual.create, Act.wp_bind, Act.wp_modify, Act.wp_pure]
  apply Supply.wp_create (hduring (.create unit e) _ (h.noted rfl rfl))
  · intro t ht
    constructor
    · intro error herror
      cases herror
    · intro inst hinst
      cases hinst
      exact ⟨t, ht, hfresh unit e t.unwatched, rfl⟩
  · intro error t ht
    exact ⟨fun _ _ => ht, Act.of_failed⟩

theorem kind_dropCell (id : ContextualId) (n : Nat) (s : Store σ) :
    ((c.dropCell id n s).context c).kind = (s.context c).kind := by
  simp only [dropCell, context_update]
  split <;> rfl

theorem kind_fillCell (id : ContextualId) (n : Nat) (content : Cell.Content) (s : Store σ) :
    ((c.fillCell id n content s).context c).kind = (s.context c).kind := by
  simp only [fillCell, context_update]
  split <;> rfl

theorem conversations_dropCell (id : ContextualId) (n : Nat) (s : Store σ) :
    ((c.dropCell id n s).context c).conversations = (s.context c).conversations := by
  simp only [dropCell, context_update]
  split <;> rfl

theorem conversations_fillCell (id : ContextualId) (n : Nat) (content : Cell.Content)
    (s : Store σ) :
    ((c.fillCell id n content s).context c).conversations = (s.context c).conversations := by
  simp only [fillCell, context_update]
  split <;> rfl

theorem Tracked.entered {id : ContextualId} (h : c.Tracked start thread base f s) (n : Nat)
    (hlive : c.live s id = none) :
    c.Tracked start thread base (f.filling id n)
      (c.fillCell id n .filling (s.setStack thread ((c, id) :: s.stack thread))) where
  started := h.started
  grown := h.grown
  stored := by
    rw [kind_fillCell]
    exact h.stored
  alone := by
    rw [conversations_fillCell]
    exact h.alone
  mapped := by
    have hsame : ∀ x, c.live (c.fillCell id n .filling
        (s.setStack thread ((c, id) :: s.stack thread))) x = c.live s x := by
      intro x
      rw [live_fillCell]
      split
      · rename_i hx
        rw [hx.1, hlive]
        rfl
      · rfl
    exact h.mapped.congr hsame rfl fun _ => rfl
  filling := h.filling.enter hlive
  faithful := h.faithful

theorem Tracked.abandoned {id : ContextualId} {n : Nat}
    (h : c.Tracked start thread base (f.filling id n) s)
    (hcells : ∀ x m, (x, m) ∈ f.cells → x ∈ f.pending) :
    c.Tracked start thread base f (leaveCreation thread (c.dropCell id n s)) where
  started := h.started
  grown := h.grown
  stored := by
    change ((c.dropCell id n s).context c).kind ≠ _
    rw [kind_dropCell]
    exact h.stored
  alone := by
    change ((c.dropCell id n s).context c).conversations.values = _
    rw [conversations_dropCell]
    exact h.alone
  mapped := by
    have hlive : ∀ x, c.live (leaveCreation thread (c.dropCell id n s)) x = c.live s x := by
      intro x
      change c.live (c.dropCell id n s) x = c.live s x
      rw [live_dropCell]
      split
      · rename_i hx
        rw [hx.1, h.filling.unborn id List.mem_cons_self]
      · rfl
    exact h.mapped.congr hlive rfl fun _ => rfl
  filling := (h.filling.drop hcells).leave hcells
  faithful := h.faithful

theorem Tracked.installed {unit : Contextual} {e : Episode} {inst : Instance} {n : Nat}
    (h : c.Tracked start thread base (f.filling unit.id n) s)
    (hcells : ∀ x m, (x, m) ∈ f.cells → x ∈ f.pending) (hid : unit.id ∉ f.pending)
    (hunknown : ¬ s.Knows inst) (hholds : (s.context c).holds unit.id n = true) :
    c.Tracked start thread base f (leaveCreation thread
      (c.fillCell unit.id n (.live ⟨unit, inst, e⟩) (s.note (.created unit e inst)))) where
  started := started_note h.started _
  grown := grown_note h.grown _
  stored := by
    change ((c.fillCell unit.id n _ (s.note _)).context c).kind ≠ _
    rw [kind_fillCell]
    exact h.stored
  alone := by
    change ((c.fillCell unit.id n _ (s.note _)).context c).conversations.values = _
    rw [conversations_fillCell]
    exact h.alone
  mapped := (h.mapped.installed h.started hunknown
    (h.filling.unborn _ List.mem_cons_self) hholds).congr (fun _ => rfl) rfl fun _ => rfl
  filling := by
    have hnote : c.Filling thread base (unit.id :: f.pending) ((unit.id, n) :: f.cells)
        (s.note (.created unit e inst)) := h.filling.congr rfl fun _ => rfl
    exact hnote.finish hcells hid hholds
  faithful := h.faithful

theorem Tracked.discarded {unit : Contextual} {e : Episode} {inst : Instance} {n : Nat}
    (hduring : ∀ cb, Act.Keeps stuck
      (c.Tracked start thread base (f.placeless unit.id)) (during cb))
    (h : c.Tracked start thread base (f.filling unit.id n) s)
    (hcells : ∀ x m, (x, m) ∈ f.cells → x ∈ f.pending) (hunknown : ¬ s.Knows inst) :
    Act.wp stuck (Bag.destroy (supply.watched.host during) ⟨unit, inst, e⟩)
      (fun _ t => c.Tracked start thread base f (leaveCreation thread t))
      (c.dropCell unit.id n (c.fillCell unit.id n (.live ⟨unit, inst, e⟩)
        (s.note (.created unit e inst)))) := by
  have hdropped : c.Tracked start thread base (f.placeless unit.id)
      ((c.dropCell unit.id n (c.fillCell unit.id n (.live ⟨unit, inst, e⟩)
        (s.note (.created unit e inst)))).note (.destroying unit inst e)) := by
    constructor
    · exact started_note (started_note h.started _) _
    · exact grown_note (grown_note h.grown _) _
    · change ((c.dropCell unit.id n _).context c).kind ≠ _
      rw [kind_dropCell, kind_fillCell]
      exact h.stored
    · change ((c.dropCell unit.id n _).context c).conversations.values = _
      rw [conversations_dropCell, conversations_fillCell]
      exact h.alone
    · exact h.mapped.discarded h.started hunknown (h.filling.unborn _ List.mem_cons_self)
    · exact (h.filling.drop hcells).congr rfl fun x =>
        get?_dropCell_fillCell unit.id x n _ (s.note (.created unit e inst))
    · exact h.faithful
  apply (Tracked.bagDestroyed hduring hdropped).mono
  intro _ t ht
  exact ⟨ht.started, ht.grown, ht.stored, ht.alone,
    ht.mapped.congr (fun _ => rfl) rfl fun _ => rfl, ht.filling.leave hcells, ht.faithful⟩

theorem Tracked.createInto {unit : Contextual} {e : Episode} {n : Nat} (hfresh : supply.Fresh)
    (hduring : ∀ f cb, Act.Keeps stuck (c.Tracked start thread base f) (during cb))
    (h : c.Tracked start thread base (f.filling unit.id n)
      (c.fillCell unit.id n .filling s))
    (hcells : ∀ x m, (x, m) ∈ f.cells → x ∈ f.pending) (hid : unit.id ∉ f.pending) :
    Act.wp stuck (c.createInto (supply.watched.host during) unit e n)
      (fun r t => c.Tracked start thread base f (leaveCreation thread t) ∧
        ∀ inst, r = .ok inst → ∃ bag, c.live t unit.id = some bag ∧ bag.inst = inst) s := by
  apply wp_createInto (Tracked.create hfresh (hduring _) h unit e)
  · intro error t ht
    have hkeeps : Episode.ReleaseKeeps stuck (supply.watched.host during) e
        (c.Tracked start thread base (f.filling unit.id n)) := Tracked.releaseKeeps (hduring _) e
    apply (hkeeps.release_keeps t (ht.1 error rfl)).mono
    intro _ u hu
    exact ⟨⟨hu.abandoned hcells, Act.of_failed⟩,
      fun left => ⟨(hu.noted rfl rfl).abandoned hcells, Act.of_failed⟩⟩
  · intro inst t ht hactive hholds
    obtain ⟨u, hu, hunknown, rfl⟩ := ht.2 inst rfl
    refine ⟨hu.installed hcells hid hunknown hholds, ?_⟩
    intro inst' hinst
    cases hinst
    refine ⟨⟨unit, inst, e⟩, ?_, rfl⟩
    rw [live_fillCell, if_pos ⟨rfl, hholds⟩]
    rfl
  · intro inst t ht hlost
    obtain ⟨u, hu, hunknown, rfl⟩ := ht.2 inst rfl
    apply (Tracked.discarded (hduring _) hu hcells hunknown).mono
    intro _ v hv error
    exact ⟨hv, Act.of_failed⟩

end Tracked

end ScopeContext

end ContextualLifecycle
