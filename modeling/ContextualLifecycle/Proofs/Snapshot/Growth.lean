import ContextualLifecycle.Proofs.Container.Reviving
import ContextualLifecycle.Proofs.Snapshot.Depiction

namespace ContextualLifecycle

variable {σ : Type}

def Store.Met (s : Store σ) (inst : Instance) : Prop :=
  ∃ event ∈ s.journal.toList, event.instance? = some inst

/-- Instances that the journal tells of have the states that they had. -/
structure Store.Recalls (a : Archive σ) (s t : Store σ) : Prop where
  met : ∀ inst, s.Met inst → t.Met inst
  state : ∀ unit inst, a.covers unit → s.Met inst →
    a.state t.surroundings unit inst = a.state s.surroundings unit inst

/-- Objects are added; contexts that are to be kept stay as they are, with their conversations. -/
structure Store.Grows (a : Archive σ) (kept : ScopeContext → Prop) (s t : Store σ) : Prop extends
    s.Recalls a t where
  containers : t.containers = s.containers
  scopes : t.scopes = s.scopes
  contexts : s.nextContext ≤ t.nextContext
  episodes : s.nextEpisode ≤ t.nextEpisode
  context : ∀ c, kept c → c.number < s.nextContext → t.context c = s.context c
  conversation : ∀ v : Conversation, kept v.context → v.context.number < s.nextContext →
    t.conversation v = s.conversation v
  episode : ∀ e : Episode, e.number < s.nextEpisode → t.episode e = s.episode e

abbrev Store.Adds (a : Archive σ) (s t : Store σ) : Prop := s.Grows a (fun _ => True) t

/-- Objects are added, and to one context. -/
abbrev Store.AddsTo (a : Archive σ) (c : ScopeContext) (s t : Store σ) : Prop :=
  s.Grows a (· ≠ c) t

/-- Captured states can be restored: that makes a fresh instance with this very state, and adds to
the store at most. -/
def Archive.Restores (a : Archive σ) (host : Host σ) : Prop :=
  ∀ unit inst state own s, a.covers unit → unit.keepsState = true →
    a.state own unit inst = .ok state →
    Act.wp False (host.restore unit state) (fun r t => ∃ new, r = .ok new ∧ s.Adds a t ∧
      ¬ s.Knows new ∧ a.state t.surroundings unit new = .ok state) s

namespace Store.Grows

variable {a : Archive σ} {kept : ScopeContext → Prop} {s t u : Store σ}

theorem refl (a : Archive σ) (kept : ScopeContext → Prop) (s : Store σ) : s.Grows a kept s where
  containers := rfl
  scopes := rfl
  contexts := Nat.le_refl _
  episodes := Nat.le_refl _
  context _ _ _ := rfl
  conversation _ _ _ := rfl
  episode _ _ := rfl
  met _ := id
  state _ _ _ _ := rfl

theorem trans (h : s.Grows a kept t) (h' : t.Grows a kept u) : s.Grows a kept u where
  containers := h'.containers.trans h.containers
  scopes := h'.scopes.trans h.scopes
  contexts := Nat.le_trans h.contexts h'.contexts
  episodes := Nat.le_trans h.episodes h'.episodes
  context c hc hissued :=
    (h'.context c hc (Nat.lt_of_lt_of_le hissued h.contexts)).trans (h.context c hc hissued)
  conversation v hv hissued := by
    rw [h'.conversation v hv (Nat.lt_of_lt_of_le hissued h.contexts), h.conversation v hv hissued]
  episode e hissued := by
    rw [h'.episode e (Nat.lt_of_lt_of_le hissued h.episodes), h.episode e hissued]
  met inst hinst := h'.met inst (h.met inst hinst)
  state unit inst hunit hinst :=
    (h'.state unit inst hunit (h.met inst hinst)).trans (h.state unit inst hunit hinst)

theorem weaken {kept' : ScopeContext → Prop} (h : s.Grows a kept t)
    (hkept : ∀ c, c.number < s.nextContext → kept' c → kept c) : s.Grows a kept' t where
  containers := h.containers
  scopes := h.scopes
  contexts := h.contexts
  episodes := h.episodes
  context c hc hissued := h.context c (hkept c hissued hc) hissued
  conversation v hv hissued := h.conversation v (hkept _ hissued hv) hissued
  episode := h.episode
  met := h.met
  state := h.state

theorem container (h : s.Grows a kept t) (m : Container) : t.container m = s.container m :=
  Store.container_congr h.containers m

variable (h : s.Grows a kept t)

include h

theorem numbered (n : Nat) : s.Grows a kept { t with nextCell := n } where
  __ := h

theorem noted (event : Event) : s.Grows a kept (t.note event) where
  __ := h
  met inst hinst := by
    obtain ⟨event', hevent, hinst⟩ := h.met inst hinst
    exact ⟨event', by simp [Store.note, hevent], hinst⟩

theorem opened (kind : ScopeKind) : s.Grows a kept (ScopeContext.new kind t).2 where
  __ := h
  contexts := Nat.le_succ_of_le h.contexts
  context c hc hissued := by
    have hne : c ≠ ⟨t.nextContext⟩ := by
      rintro rfl
      exact Nat.not_le_of_lt hissued h.contexts
    rw [← h.context c hc hissued]
    simp only [ScopeContext.new, Store.context, Store.setContext, Table.get?_insert, if_neg hne]

theorem updated {c : ScopeContext} (hc : kept c → s.nextContext ≤ c.number)
    (f : ScopeContext.Record → ScopeContext.Record) : s.Grows a kept (c.update f t) where
  __ := h
  context x hx hissued := by
    have hne : x ≠ c := by
      rintro rfl
      exact Nat.not_le_of_lt hissued (hc hx)
    rw [ScopeContext.context_update_of_ne hne, h.context x hx hissued]

theorem converse {c : ScopeContext} (hc : kept c → s.nextContext ≤ c.number) (id : String)
    (timeout : Duration) : s.Grows a kept (c.converse id timeout t) where
  __ := h.updated hc fun r => { r with active := true }
  conversation v hv hissued := by
    have hne : v ≠ ⟨c⟩ := by
      rintro rfl
      exact Nat.not_le_of_lt hissued (hc hv)
    rw [ScopeContext.conversation_converse, if_neg hne, h.conversation v hv hissued]

theorem begun (contextual : Option Contextual) (outer : Option Foreign) (factor : UInt64) :
    s.Grows a kept (Episode.new contextual outer factor t).2 where
  __ := h
  episodes := Nat.le_succ_of_le h.episodes
  episode e hissued := by
    have hne : e ≠ ⟨t.nextEpisode⟩ := by
      rintro rfl
      exact Nat.not_le_of_lt hissued h.episodes
    rw [← h.episode e hissued]
    simp only [Episode.new, Store.episode, Store.setEpisode, Table.get?_insert, if_neg hne]

theorem described {e : Episode} (he : s.nextEpisode ≤ e.number)
    (f : Episode.Record → Episode.Record) : s.Grows a kept (e.update f t) where
  __ := h
  episode x hissued := by
    have hne : x ≠ e := by
      rintro rfl
      exact Nat.not_le_of_lt hissued he
    rw [Episode.episode_update, if_neg hne, h.episode x hissued]

end Store.Grows

/-- An instance that was restored in some state. -/
structure Archive.Revives (a : Archive σ) (s : Store σ) (id : String) (state : Json)
    (unit : Contextual) (inst : Instance) : Prop extends a.Tells s id state unit inst where
  met : s.Met inst

theorem Archive.Revives.recall {a : Archive σ} {s t : Store σ} {id : String} {state : Json}
    {unit : Contextual} {inst : Instance} (h : a.Revives s id state unit inst)
    (hst : s.Recalls a t) : a.Revives t id state unit inst where
  named := h.named
  kept := h.kept
  state := (hst.state unit inst h.named.covered h.met).trans h.state
  met := hst.met inst h.met

/-- What becomes of a captured instance when it is restored. -/
theorem Archive.Restores.restored {a : Archive σ} {host : Host σ} (hhost : a.Restores host)
    {s₀ s : Store σ} {id : String} {state : Json} {unit : Contextual} {inst : Instance}
    (h : a.Tells s₀ id state unit inst) : Act.wp False (unit.restore host state) (fun r t =>
      ∃ new, r = .ok new ∧ s.Adds a t ∧ ¬ s.Knows new ∧ a.Revives t id state unit new) s := by
  rw [Contextual.restore, if_pos h.kept]
  simp only [Act.wp_bind, Act.wp_modify, Act.wp_pure]
  apply (hhost unit inst state _ s h.named.covered h.kept h.state).mono
  rintro _ t ⟨new, rfl, hadds, hfresh, hstate⟩
  let event := Event.restored unit new
  have hmet : (t.note event).Met new := ⟨event, by simp [Store.note], rfl⟩
  exact ⟨new, rfl, hadds.noted event, hfresh, ⟨h.named, h.kept, hstate⟩, hmet⟩

end ContextualLifecycle
