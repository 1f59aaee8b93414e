import ContextualLifecycle.Proofs.Container.Current
import ContextualLifecycle.Proofs.Library
import ContextualLifecycle.Proofs.ScopeContext.Holding

namespace ContextualLifecycle

variable {σ : Type}

/-- No session has the conversation. -/
def Conversation.Unclaimed (v : Conversation) (s : Store σ) : Prop :=
  ∀ (c : ScopeContext) id, c.conversation? id s ≠ some v

/-- The context holds no entries, not even places for some, and no conversations. -/
structure ScopeContext.Vacant (c : ScopeContext) (s : Store σ) : Prop where
  entries : ∀ id, (s.context c).entries.get? id = none
  conversations : ∀ id, c.conversation? id s = none

/-- All that is in use was issued before. -/
structure Store.Issued (s : Store σ) : Prop where
  cell : ∀ (c : ScopeContext) id cell, (s.context c).entries.get? id = some cell →
    cell.serial < s.nextCell ∧ c.number < s.nextContext
  active : ∀ c : ScopeContext, (s.context c).active = true → c.number < s.nextContext

section Watched

variable {s t u : Store (Watched library σ)}

/-- What was journaled and seen in one store was journaled and seen in another. -/
structure Store.Precedes (s t : Store (Watched library σ)) : Prop where
  journal : s.journal.toList <+: t.journal.toList
  seen : s.seen <:+ t.seen

theorem Store.Precedes.refl (s : Store (Watched library σ)) : s.Precedes s :=
  ⟨List.prefix_refl _, List.suffix_refl _⟩

theorem Store.Precedes.trans (h : s.Precedes u) (h' : u.Precedes t) : s.Precedes t :=
  ⟨h.journal.trans h'.journal, h.seen.trans h'.seen⟩

theorem Store.Precedes.size (h : s.Precedes t) : s.journal.size ≤ t.journal.size := by
  simpa using h.journal.length_le

/-- The event hands an instance out for the definition, and the episode, of a bag. -/
def Event.BringsUp (b : Bag) : Event → Prop
  | .created unit e inst => b = ⟨unit, inst, e⟩
  | .restored unit inst => b.contextual = unit ∧ b.inst = inst
  | _ => False

/-- A call was seen that registers a bag's instance as a dependent of its own episode. -/
def Sighting.Registers (b : Bag) : Sighting library → Prop
  | .call request _ _ _ => request.call = .addDependent b.episode b.contextual (some b.inst)
  | .moment _ => False

/-- From one store to another, the instance of a bag was handed out once more, or registered as a
dependent. -/
def Bag.Anew (b : Bag) (s t : Store (Watched library σ)) : Prop :=
  (∃ event ∈ t.journal.toList.drop s.journal.size, event.BringsUp b) ∨
    ∃ sighting ∈ t.seen.take (t.seen.length - s.seen.length), sighting.Registers b

theorem Bag.Anew.later {b : Bag} (h : b.Anew u t) (hsu : s.Precedes u) : b.Anew s t := by
  rcases h with ⟨event, hevent, hb⟩ | ⟨sighting, hsighting, hb⟩
  · refine .inl ⟨event, ?_, hb⟩
    rw [← Nat.add_sub_of_le hsu.size, ← List.drop_drop] at hevent
    exact List.mem_of_mem_drop hevent
  · refine .inr ⟨sighting, ?_, hb⟩
    have hle := hsu.seen.length_le
    rw [← Nat.min_eq_left (Nat.sub_le_sub_left hle t.seen.length), ← List.take_take] at hsighting
    exact List.mem_of_mem_take hsighting

theorem Bag.Anew.sooner {b : Bag} (h : b.Anew s u) (hsu : s.Precedes u) (hut : u.Precedes t) :
    b.Anew s t := by
  rcases h with ⟨event, hevent, hb⟩ | ⟨sighting, hsighting, hb⟩
  · refine .inl ⟨event, ?_, hb⟩
    obtain ⟨rest, hrest⟩ := hut.journal
    rw [← hrest, List.drop_append_of_le_length (by simpa using hsu.size)]
    exact List.mem_append_left _ hevent
  · refine .inr ⟨sighting, ?_, hb⟩
    obtain ⟨rest, hrest⟩ := hut.seen
    have hle := hsu.seen.length_le
    rw [← hrest, List.length_append, Nat.add_sub_assoc hle, List.take_length_add_append]
    exact List.mem_append_right _ hsighting

end Watched

/-- The end of scopes, where callbacks are programs with supplied values. Contexts with numbers
below `known` were there at first. -/
structure Closing (σ : Type) where
  supply : Supply σ
  known : Nat

/-- What an operation in progress still owes: the destruction of an entry that was taken out, the
removal of what is in a context that was deactivated, a place that it is filling, and the event to a
notification that was given. -/
inductive Debt where
  | entry (c : ScopeContext) (id : ContextualId)
  | context (c : ScopeContext)
  | filling (c : ScopeContext) (id : ContextualId)
  | notice (m : Container) (kind : ScopeKind) (c : ScopeContext)

namespace Closing

variable {w : Closing σ} {owed : Debt → Prop} {s t u : Store (Watched library σ)}

def host (w : Closing σ) (thread : Thread) (meanwhile : Callback → Program library σ) :
    Host (Watched library σ) :=
  { w.supply.hostOf meanwhile with thread }

/-- From one store to another, an entry was taken out of its place, its instance was destroyed, and
after that its episode was released, whatever came of it. -/
def Passed (w : Closing σ) (c : ScopeContext) (id : ContextualId) (serial : Nat) (b : Bag)
    (s t : Store (Watched library σ)) : Prop :=
  ∃ (thread : Thread) (meanwhile : Callback → Program library σ)
      (before between after : Store (Watched library σ))
      (destroyed released : Except LifecycleError Unit),
    s.Precedes before ∧ (before.context c).entries.get? id = some ⟨serial, .live b⟩ ∧
    (b.contextual.destroy (w.host thread meanwhile) b.inst b.episode).run.run
      (c.takeEntry id before).2 = some (destroyed, between) ∧
    ((c.takeEntry id before).2.note
      (.destroying b.contextual b.inst b.episode)).Precedes between ∧
    (b.episode.release (w.host thread meanwhile)).run.run between = some (released, after) ∧
    between.Precedes after ∧ after.Precedes t

theorem Passed.widen {c : ScopeContext} {id : ContextualId} {serial : Nat} {b : Bag}
    {s' t' : Store (Watched library σ)} (h : w.Passed c id serial b s t) (hs : s'.Precedes s)
    (ht : t.Precedes t') : w.Passed c id serial b s' t' := by
  obtain ⟨thread, meanwhile, before, between, after, destroyed, released, hbefore, hlive,
    hdestroyed, hnoted, hreleased, hbetween, hafter⟩ := h
  exact ⟨thread, meanwhile, before, between, after, destroyed, released, hs.trans hbefore, hlive,
    hdestroyed, hnoted, hreleased, hbetween, hafter.trans ht⟩

/-- Scopes only ended from one store to another, but for what is owed. -/
structure Ebbs (w : Closing σ) (owed : Debt → Prop) (s t : Store (Watched library σ)) : Prop
    extends s.Precedes t where
  contexts : s.nextContext ≤ t.nextContext
  serials : s.nextCell ≤ t.nextCell
  /-- Places are new or were there before. -/
  cells : ∀ (c : ScopeContext) id n, (t.context c).holds id n = true →
    (s.context c).holds id n = true ∨
      s.nextCell ≤ n ∧ n < t.nextCell ∧ c.number < t.nextContext
  filling : ∀ (c : ScopeContext) id n, ¬ owed (.filling c id) → n < s.nextCell →
    (s.context c).entries.get? id = some ⟨n, .filling⟩ → (t.context c).holds id n = true →
    (t.context c).entries.get? id = some ⟨n, .filling⟩
  active : ∀ c : ScopeContext, (t.context c).active = true → (s.context c).active = true ∨
    w.known ≤ c.number ∧ c.number < t.nextContext
  refused : ∀ c : ScopeContext, c.number < w.known → (s.context c).active = false → ∀ id,
    (s.context c).entries.get? id = none → (t.context c).entries.get? id = none
  conversations : ∀ (c : ScopeContext) id v, c.number < w.known →
    c.conversation? id t = some v → c.conversation? id s = some v
  unclaimed : ∀ v : Conversation, v.context.number < w.known → v.Unclaimed s → v.Unclaimed t
  emptied : ∀ c : ScopeContext, ¬ owed (.context c) → c.number < w.known →
    (s.context c).active = true → (t.context c).active = false → c.Vacant t
  entries : ∀ (c : ScopeContext) id n b, ¬ owed (.entry c id) → c.number < w.known →
    (s.context c).entries.get? id = some ⟨n, .live b⟩ →
    (t.context c).entries.get? id = some ⟨n, .live b⟩ ∨ w.Passed c id n b s t
  /-- No entry is lost without being destroyed. -/
  gone : ∀ b : Bag, b.held s w.known ≤ b.ended s t + b.held t w.known
  /-- Nothing is destroyed that was not held. -/
  once : ∀ b : Bag, ¬ b.Anew s t → b.ended s t + b.held t t.nextContext + b.listed t ≤
    b.held s s.nextContext + b.listed s
  attached : ∀ (m : Container) thread kind c, m.attached thread kind t = some c →
    m.attached thread kind s = some c
  /-- Observers hear of the end of a scope only if its context was taken from some thread. -/
  silent : ∀ (m : Container) kind c, kind ≠ .conversation → ¬ owed (.notice m kind c) →
    (∀ thread, m.attached thread kind s = some c → m.attached thread kind t = some c) →
    (m, kind, c) ∉ t.since Event.ended? s.journal.size
  heard : ∀ c : ScopeContext, (∀ m, ¬ owed (.notice m .conversation c)) → c.number < w.known →
    Conversation.Unclaimed ⟨c⟩ s → c.heard s t ≤ 1 ∧
      ((s.context c).active = false ∨ (t.context c).active = true → c.heard s t = 0)

abbrev Settles (w : Closing σ) : Store (Watched library σ) → Store (Watched library σ) → Prop :=
  w.Ebbs fun _ => False

theorem Ebbs.mono {more : Debt → Prop} (h : w.Ebbs owed s t) (hmore : ∀ d, owed d → more d) :
    w.Ebbs more s t :=
  { h with
    filling := fun c id n hd => h.filling c id n (mt (hmore _) hd)
    emptied := fun c hd => h.emptied c (mt (hmore _) hd)
    entries := fun c id n b hd => h.entries c id n b (mt (hmore _) hd)
    silent := fun m kind c hkind hd => h.silent m kind c hkind (mt (hmore _) hd)
    heard := fun c hd => h.heard c fun m => mt (hmore _) (hd m) }

theorem Ebbs.owing (h : w.Settles s t) : w.Ebbs owed s t := h.mono fun _ hd => hd.elim

theorem Ebbs.inactive {c : ScopeContext} (h : w.Ebbs owed s t) (hc : c.number < w.known)
    (hs : (s.context c).active = false) : (t.context c).active = false := by
  cases ht : (t.context c).active with
  | false => rfl
  | true =>
    rcases h.active c ht with hactive | ⟨hnew, _⟩
    · rw [hs] at hactive
      cases hactive
    · exact absurd hc (Nat.not_lt_of_le hnew)

theorem Ebbs.vacant {c : ScopeContext} (h : w.Ebbs owed s t) (hc : c.number < w.known)
    (hs : (s.context c).active = false) (hvacant : c.Vacant s) : c.Vacant t where
  entries id := h.refused c hc hs id (hvacant.entries id)
  conversations id := by
    cases ht : c.conversation? id t with
    | none => rfl
    | some v =>
      have hv := h.conversations c id v hc ht
      rw [hvacant.conversations id] at hv
      cases hv

theorem Ebbs.trans (h : w.Ebbs owed s u) (h' : w.Ebbs owed u t) : w.Ebbs owed s t where
  toPrecedes := h.toPrecedes.trans h'.toPrecedes
  contexts := Nat.le_trans h.contexts h'.contexts
  serials := Nat.le_trans h.serials h'.serials
  cells c id n ht := by
    rcases h'.cells c id n ht with hu | ⟨hge, hlt, hc⟩
    · rcases h.cells c id n hu with hs | ⟨hge, hlt, hc⟩
      · exact .inl hs
      · exact .inr ⟨hge, Nat.lt_of_lt_of_le hlt h'.serials, Nat.lt_of_lt_of_le hc h'.contexts⟩
    · exact .inr ⟨Nat.le_trans h.serials hge, hlt, hc⟩
  filling c id n hd hn hs ht := by
    have hnu := Nat.lt_of_lt_of_le hn h.serials
    rcases h'.cells c id n ht with hu | ⟨hge, _, _⟩
    · exact h'.filling c id n hd hnu (h.filling c id n hd hn hs hu) ht
    · exact absurd hnu (Nat.not_lt_of_le hge)
  active c ht := by
    rcases h'.active c ht with hu | hnew
    · rcases h.active c hu with hs | ⟨hge, hlt⟩
      · exact .inl hs
      · exact .inr ⟨hge, Nat.lt_of_lt_of_le hlt h'.contexts⟩
    · exact .inr hnew
  refused c hc hs id hid := h'.refused c hc (h.inactive hc hs) id (h.refused c hc hs id hid)
  conversations c id v hc hv := h.conversations c id v hc (h'.conversations c id v hc hv)
  unclaimed v hc hv := h'.unclaimed v hc (h.unclaimed v hc hv)
  emptied c hd hc hs ht := by
    cases hu : (u.context c).active with
    | true => exact h'.emptied c hd hc hu ht
    | false => exact h'.vacant hc hu (h.emptied c hd hc hs hu)
  entries c id n b hd hc hs := by
    rcases h.entries c id n b hd hc hs with hu | hpassed
    · rcases h'.entries c id n b hd hc hu with ht | hpassed
      · exact .inl ht
      · exact .inr (hpassed.widen h.toPrecedes (.refl t))
    · exact .inr (hpassed.widen (.refl s) h'.toPrecedes)
  gone b := by
    have hsu := h.gone b
    have hut := h'.gone b
    rw [b.ended_trans h.journal h'.journal]
    omega
  once b hb := by
    have hsu := h.once b fun hanew => hb (hanew.sooner h.toPrecedes h'.toPrecedes)
    have hut := h'.once b fun hanew => hb (hanew.later h.toPrecedes)
    rw [b.ended_trans h.journal h'.journal]
    omega
  attached m thread kind c ht := h.attached m thread kind c (h'.attached m thread kind c ht)
  silent m kind c hkind hd hkept := by
    rw [Store.since_append h.toPrecedes.size h'.journal, List.mem_append, not_or]
    refine ⟨h.silent m kind c hkind hd fun thread hs => ?_,
      h'.silent m kind c hkind hd fun thread hu => ?_⟩
    · exact h'.attached m thread kind c (hkept thread hs)
    · exact hkept thread (h.attached m thread kind c hu)
  heard c hd hc hs := by
    obtain ⟨hle, hzero⟩ := h.heard c hd hc hs
    obtain ⟨hle', hzero'⟩ := h'.heard c hd hc (h.unclaimed ⟨c⟩ hc hs)
    rw [c.heard_trans h.journal h'.journal]
    -- The one end that is told falls into the part in which the context is deactivated.
    cases hu : (u.context c).active with
    | true =>
      rw [hzero (.inr hu), Nat.zero_add]
      refine ⟨hle', ?_⟩
      rintro (hs | ht)
      · rw [h.inactive hc hs] at hu
        cases hu
      · exact hzero' (.inr ht)
    | false =>
      rw [hzero' (.inl hu), Nat.add_zero]
      refine ⟨hle, ?_⟩
      rintro (hs | ht)
      · exact hzero (.inl hs)
      · rw [h'.inactive hc hu] at ht
        cases ht

theorem Ebbs.issued (h : w.Ebbs owed s t) (hs : s.Issued) : t.Issued where
  cell c id cell hcell := by
    have hholds : (t.context c).holds id cell.serial = true := by
      simp [ScopeContext.Record.holds, hcell]
    rcases h.cells c id cell.serial hholds with hold | ⟨_, hlt, hc⟩
    · obtain ⟨old, hold, hserial⟩ := (Option.any_eq_true _ _).1 hold
      obtain ⟨hlt, hc⟩ := hs.cell c id old hold
      rw [← eq_of_beq hserial]
      exact ⟨Nat.lt_of_lt_of_le hlt h.serials, Nat.lt_of_lt_of_le hc h.contexts⟩
    · exact ⟨hlt, hc⟩
  active c hc := by
    rcases h.active c hc with hactive | ⟨_, hlt⟩
    · exact Nat.lt_of_lt_of_le (hs.active c hactive) h.contexts
    · exact hlt

/-- A debt was made good from one store to another. -/
def Paid (w : Closing σ) (s t : Store (Watched library σ)) : Debt → Prop
  | .entry c id => c.number < w.known → ∀ n b,
    (s.context c).entries.get? id = some ⟨n, .live b⟩ → w.Passed c id n b s t
  | .context c => c.number < w.known → (s.context c).active = true → c.Vacant t
  | .filling c id => ∀ n, (s.context c).entries.get? id = some ⟨n, .filling⟩ → n < s.nextCell →
    (t.context c).holds id n = true → (t.context c).entries.get? id = some ⟨n, .filling⟩
  | .notice m kind c =>
    (kind ≠ .conversation → (∀ thread, m.attached thread kind s = some c →
      m.attached thread kind t = some c) → (m, kind, c) ∉ t.since Event.ended? s.journal.size) ∧
    (kind = .conversation → c.number < w.known → Conversation.Unclaimed ⟨c⟩ s → c.heard s t ≤ 1 ∧
      ((s.context c).active = false ∨ (t.context c).active = true → c.heard s t = 0))

/-- What is owed may be made good in the end. -/
theorem Ebbs.settle (h : w.Ebbs owed s t) (hpaid : ∀ d, owed d → w.Paid s t d) : w.Settles s t :=
  { h with
    filling := fun c id n _ hn hs ht => by
      by_cases hd : owed (.filling c id)
      · exact hpaid _ hd n hs hn ht
      · exact h.filling c id n hd hn hs ht
    emptied := fun c _ hc hs ht => by
      by_cases hd : owed (.context c)
      · exact hpaid _ hd hc hs
      · exact h.emptied c hd hc hs ht
    entries := fun c id n b _ hc hs => by
      by_cases hd : owed (.entry c id)
      · exact .inr (hpaid _ hd hc n b hs)
      · exact h.entries c id n b hd hc hs
    silent := fun m kind c hkind _ hkept => by
      by_cases hd : owed (.notice m kind c)
      · exact (hpaid _ hd).1 hkind hkept
      · exact h.silent m kind c hkind hd hkept
    heard := fun c _ hc hs => by
      by_cases hd : ∃ m, owed (.notice m .conversation c)
      · obtain ⟨m, hm⟩ := hd
        exact (hpaid _ hm).2 rfl hc hs
      · exact h.heard c (fun m hm => hd ⟨m, hm⟩) hc hs }

end Closing

end ContextualLifecycle
