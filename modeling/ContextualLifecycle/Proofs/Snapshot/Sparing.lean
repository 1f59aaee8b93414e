import ContextualLifecycle.Proofs.Container.Reviving
import ContextualLifecycle.Proofs.Episode.Conservation

namespace ContextualLifecycle

variable {σ : Type}

def Event.restored? : Event → Option (Contextual × Instance)
  | .restored unit inst => some (unit, inst)
  | _ => none

section Places

variable (s : Store σ)

/-- An instance has a place in a context: as an entry, as a dependent of an entry's episode, or in
one of its conversations. -/
inductive ScopeContext.Holds : ScopeContext → Contextual × Instance → Prop where
  | entry {c id b} (hb : c.live s id = some b) : Holds c (b.contextual, b.inst)
  | dependent {c id b unit inst} (hb : c.live s id = some b)
      (hd : (s.episode b.episode).owns unit inst = true) : Holds c (unit, inst)
  | nested {c id v p} (hv : c.conversation? id s = some v) (h : Holds v.context p) : Holds c p

/-- The same where all that the place depends on was made since a moment. -/
inductive ScopeContext.Secures (s₀ : Store σ) : ScopeContext → Contextual × Instance → Prop where
  | entry {c id b} (hb : c.live s id = some b) : Secures s₀ c (b.contextual, b.inst)
  | dependent {c id b unit inst} (hb : c.live s id = some b)
      (hnew : s₀.nextEpisode ≤ b.episode.number) (hissued : b.episode.number < s.nextEpisode)
      (hd : (s.episode b.episode).owns unit inst = true) : Secures s₀ c (unit, inst)
  | nested {c id v p} (hv : c.conversation? id s = some v)
      (hnew : s₀.nextContext ≤ v.context.number) (hissued : v.context.number < s.nextContext)
      (h : Secures s₀ v.context p) : Secures s₀ c p

end Places

variable {s₀ s t u : Store σ} {c : ScopeContext} {p : Contextual × Instance}

theorem ScopeContext.Secures.holds (h : c.Secures s s₀ p) : c.Holds s p := by
  induction h with
  | entry hb => exact .entry hb
  | dependent hb _ _ hd => exact .dependent hb hd
  | nested hv _ _ _ ih => exact .nested hv ih

/-- One store comes after another one. -/
structure Store.Follows (s t : Store σ) : Prop where
  contexts : s.nextContext ≤ t.nextContext
  episodes : s.nextEpisode ≤ t.nextEpisode
  journal : s.journal.size ≤ t.journal.size

theorem Store.Follows.refl (s : Store σ) : s.Follows s :=
  ⟨Nat.le_refl _, Nat.le_refl _, Nat.le_refl _⟩

theorem Store.Follows.trans (h : s.Follows t) (h' : t.Follows u) : s.Follows u :=
  ⟨Nat.le_trans h.contexts h'.contexts, Nat.le_trans h.episodes h'.episodes,
    Nat.le_trans h.journal h'.journal⟩

theorem Store.follows_note (event : Event) (s : Store σ) : s.Follows (s.note event) :=
  ⟨Nat.le_refl _, Nat.le_refl _, by simp [note]⟩

/-- What was there at a moment lists nothing that came later. -/
structure Store.Dated (s₀ s : Store σ) : Prop where
  episode : ∀ (c : ScopeContext) id b, c.number < s₀.nextContext → c.live s id = some b →
    b.episode.number < s₀.nextEpisode
  conversation : ∀ (c : ScopeContext) id v, c.number < s₀.nextContext →
    c.conversation? id s = some v → v.context.number < s₀.nextContext

/-- A context keeps its entries and conversations. -/
structure ScopeContext.Retains (c : ScopeContext) (s t : Store σ) : Prop where
  live : ∀ id b, c.live s id = some b → c.live t id = some b
  conversation : ∀ id v, c.conversation? id s = some v → c.conversation? id t = some v

theorem ScopeContext.Retains.of_eq (h : t.context c = s.context c) : c.Retains s t where
  live id b hb := by rwa [ScopeContext.live, h]
  conversation id v hv := by rwa [conversation?, h]

theorem ScopeContext.Retains.trans (h : c.Retains s t) (h' : c.Retains t u) : c.Retains s u where
  live id b hb := h'.live id b (h.live id b hb)
  conversation id v hv := h'.conversation id v (h.conversation id v hv)

theorem Store.Dated.of_retains (h : s₀.Dated s)
    (hst : ∀ c : ScopeContext, c.number < s₀.nextContext → c.Retains t s) : s₀.Dated t where
  episode c id b hc hb := h.episode c id b hc ((hst c hc).live id b hb)
  conversation c id v hc hv := h.conversation c id v hc ((hst c hc).conversation id v hv)

theorem Store.Dated.of_contexts (h : s₀.Dated s) (hst : t.contexts = s.contexts) : s₀.Dated t :=
  h.of_retains fun c _ => .of_eq (Store.context_congr hst c).symm

/-- What was made since a moment stays as it is, but for some contexts. Nothing is registered with a
container, and what was there at that moment gets nothing that came later. -/
structure Store.Spares (s : Store σ) (m : Container) (s₀ : Store σ) (kept : ScopeContext → Prop)
    (t : Store σ) : Prop extends s.Follows t where
  beans : (t.container m).beans = (s.container m).beans
  context : ∀ c, kept c → s₀.nextContext ≤ c.number → c.number < s.nextContext →
    t.context c = s.context c
  episode : ∀ e : Episode, s₀.nextEpisode ≤ e.number → e.number < s.nextEpisode →
    t.episode e = s.episode e
  dated : s₀.Dated s → s₀.Dated t

namespace Store.Spares

variable {m : Container} {kept : ScopeContext → Prop}

theorem refl (m : Container) (s₀ : Store σ) (kept : ScopeContext → Prop) (s : Store σ) :
    s.Spares m s₀ kept s where
  toFollows := .refl s
  beans := rfl
  context _ _ _ _ := rfl
  episode _ _ _ := rfl
  dated := id

theorem trans (h : s.Spares m s₀ kept t) (h' : t.Spares m s₀ kept u) : s.Spares m s₀ kept u where
  toFollows := h.toFollows.trans h'.toFollows
  beans := h'.beans.trans h.beans
  context c hc hnew hissued :=
    (h'.context c hc hnew (Nat.lt_of_lt_of_le hissued h.contexts)).trans
      (h.context c hc hnew hissued)
  episode e hnew hissued :=
    (h'.episode e hnew (Nat.lt_of_lt_of_le hissued h.episodes)).trans (h.episode e hnew hissued)
  dated hs := h'.dated (h.dated hs)

theorem weaken {kept' : ScopeContext → Prop} (h : s.Spares m s₀ kept t)
    (hkept : ∀ c, c.number < s.nextContext → kept' c → kept c) : s.Spares m s₀ kept' t :=
  { h with context := fun c hc hnew hissued => h.context c (hkept c hissued hc) hnew hissued }

variable (h : s.Spares m s₀ kept t)

include h

theorem noted (event : Event) : s.Spares m s₀ kept (t.note event) :=
  { h with
    toFollows := h.toFollows.trans (t.follows_note event)
    dated := fun hs => (h.dated hs).of_contexts rfl }

theorem numbered (n : Nat) : s.Spares m s₀ kept { t with nextCell := n } :=
  { h with dated := fun hs => (h.dated hs).of_contexts rfl }

theorem opened (kind : ScopeKind) : s.Spares m s₀ kept (ScopeContext.new kind t).2 :=
  { h with
    contexts := Nat.le_succ_of_le h.contexts
    context := by
      intro c hc hnew hissued
      have hne : c ≠ ⟨t.nextContext⟩ := by
        rintro rfl
        exact Nat.not_le_of_lt hissued h.contexts
      rw [← h.context c hc hnew hissued]
      simp only [ScopeContext.new, Store.context, Store.setContext, Table.get?_insert, if_neg hne]
    dated := by
      intro hs
      refine (h.dated hs).of_retains fun c _ => ⟨fun id b hb => ?_, fun id v hv => ?_⟩
      · rw [ScopeContext.live_new] at hb
        split at hb
        · cases hb
        · exact hb
      · simp only [ScopeContext.conversation?, ScopeContext.new, Store.context, Store.setContext,
          Table.get?_insert] at hv
        split at hv
        · cases hv
        · exact hv }

theorem updated {c : ScopeContext} (hc : s₀.nextContext ≤ c.number)
    (hkept : kept c → s.nextContext ≤ c.number)
    (f : ScopeContext.Record → ScopeContext.Record) : s.Spares m s₀ kept (c.update f t) :=
  { h with
    context := by
      intro x hx hnew hissued
      have hne : x ≠ c := by
        rintro rfl
        exact Nat.not_le_of_lt hissued (hkept hx)
      rw [ScopeContext.context_update_of_ne hne, h.context x hx hnew hissued]
    dated := by
      intro hs
      refine (h.dated hs).of_retains fun x hx => .of_eq ?_
      have hne : x ≠ c := by
        rintro rfl
        exact Nat.not_le_of_lt hx hc
      exact (ScopeContext.context_update_of_ne hne f t).symm }

theorem converse {c : ScopeContext} (hc : s₀.nextContext ≤ c.number)
    (hkept : kept c → s.nextContext ≤ c.number) (id : String) (timeout : Duration) :
    s.Spares m s₀ kept (c.converse id timeout t) :=
  let hactive := h.updated hc hkept fun r => { r with active := true }
  { hactive with dated := fun hs => (hactive.dated hs).of_contexts rfl }

theorem begun (contextual : Option Contextual) (outer : Option Foreign) (factor : UInt64) :
    s.Spares m s₀ kept (Episode.new contextual outer factor t).2 :=
  { h with
    episodes := Nat.le_succ_of_le h.episodes
    episode := by
      intro e hnew hissued
      have hne : e ≠ ⟨t.nextEpisode⟩ := by
        rintro rfl
        exact Nat.not_le_of_lt hissued h.episodes
      rw [← h.episode e hnew hissued]
      simp only [Episode.new, Store.episode, Store.setEpisode, Table.get?_insert, if_neg hne]
    dated := fun hs => (h.dated hs).of_contexts rfl }

theorem described {e : Episode} (he : s₀.nextEpisode ≤ e.number → s.nextEpisode ≤ e.number)
    (f : Episode.Record → Episode.Record) : s.Spares m s₀ kept (e.update f t) :=
  { h with
    episode := by
      intro x hnew hissued
      have hne : x ≠ e := by
        rintro rfl
        exact Nat.not_le_of_lt hissued (he hnew)
      rw [Episode.episode_update, if_neg hne, h.episode x hnew hissued]
    dated := fun hs => (h.dated hs).of_contexts rfl }

end Store.Spares

/-- What was made since a moment loses nothing. -/
structure Store.Conserves (s s₀ t : Store σ) : Prop extends s.Follows t where
  retains : ∀ c : ScopeContext, s₀.nextContext ≤ c.number → c.number < s.nextContext →
    c.Retains s t
  owns : ∀ e : Episode, s₀.nextEpisode ≤ e.number → e.number < s.nextEpisode →
    ∀ unit inst, (s.episode e).owns unit inst = true → (t.episode e).owns unit inst = true

theorem Store.Conserves.refl (s s₀ : Store σ) : s.Conserves s₀ s where
  toFollows := .refl s
  retains _ _ _ := .of_eq rfl
  owns _ _ _ _ _ := id

theorem Store.Conserves.trans (h : s.Conserves s₀ t) (h' : t.Conserves s₀ u) :
    s.Conserves s₀ u where
  toFollows := h.toFollows.trans h'.toFollows
  retains c hnew hissued := (h.retains c hnew hissued).trans
    (h'.retains c hnew (Nat.lt_of_lt_of_le hissued h.contexts))
  owns e hnew hissued unit inst hd := h'.owns e hnew (Nat.lt_of_lt_of_le hissued h.episodes) unit
    inst (h.owns e hnew hissued unit inst hd)

/-- It is enough that the contexts that are not left alone keep what they have. -/
theorem Store.Spares.conserves {m : Container} {kept : ScopeContext → Prop}
    (h : s.Spares m s₀ kept t) (hrest : ∀ c : ScopeContext, ¬ kept c → c.Retains s t) :
    s.Conserves s₀ t where
  toFollows := h.toFollows
  retains c hnew hissued := by
    by_cases hc : kept c
    · exact .of_eq (h.context c hc hnew hissued)
    · exact hrest c hc
  owns e hnew hissued unit inst hd := by rwa [h.episode e hnew hissued]

theorem Store.Spares.conserves_but {m : Container} (h : s.Spares m s₀ (· ≠ c) t)
    (hc : c.Retains s t) : s.Conserves s₀ t :=
  h.conserves fun _ hx => Classical.not_not.1 hx ▸ hc

theorem ScopeContext.Secures.conserved (h : c.Secures s s₀ p) (hst : s.Conserves s₀ t)
    (hc : c.Retains s t) : c.Secures t s₀ p := by
  induction h with
  | entry hb => exact .entry (hc.live _ _ hb)
  | dependent hb hnew hissued hd =>
    exact .dependent (hc.live _ _ hb) hnew (Nat.lt_of_lt_of_le hissued hst.episodes)
      (hst.owns _ hnew hissued _ _ hd)
  | nested hv hnew hissued _ ih =>
    exact .nested (hc.conversation _ _ hv) hnew (Nat.lt_of_lt_of_le hissued hst.contexts)
      (ih (hst.retains _ hnew hissued))

end ContextualLifecycle
