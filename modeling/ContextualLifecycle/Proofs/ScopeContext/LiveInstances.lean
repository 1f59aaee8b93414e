import ContextualLifecycle.Proofs.ScopeContext.Tracked

namespace ContextualLifecycle

variable {σ τ : Type} {stuck : Prop}

namespace ScopeContext

theorem size_cases (c : ScopeContext) (s : Store σ) : ∃ ids : List ContextualId, ids.Nodup ∧
    (∀ id, id ∈ ids ↔ (c.live s id).isSome) ∧ (s.context c).size = ids.length := by
  let rows := (s.context c).entries.rows
  refine ⟨(rows.filter fun row => row.2.bag?.isSome).map Prod.fst, ?_, ?_, ?_⟩
  · exact (s.context c).entries.nodup.sublist (List.filter_sublist.map Prod.fst)
  · intro id
    rw [live, List.mem_map]
    constructor
    · rintro ⟨row, hrow, rfl⟩
      rw [List.mem_filter] at hrow
      have hget : (s.context c).entries.get? row.1 = some row.2 :=
        Table.get?_eq_some_iff.2 hrow.1
      rw [hget]
      exact hrow.2
    · intro hlive
      cases hget : (s.context c).entries.get? id with
      | none =>
        rw [hget] at hlive
        cases hlive
      | some cell =>
        rw [hget] at hlive
        exact ⟨(id, cell), List.mem_filter.2 ⟨Table.get?_eq_some_iff.1 hget, hlive⟩, rfl⟩
  · have hlength : ∀ rows : List (ContextualId × Cell),
        ((rows.map Prod.snd).filterMap Cell.bag?).length =
          ((rows.filter fun row => row.2.bag?.isSome).map Prod.fst).length := by
      intro rows
      induction rows with
      | nil => rfl
      | cons row rows ih =>
        rw [List.map_cons]
        cases hbag : row.2.bag? with
        | none =>
          rw [List.filterMap_cons_none hbag, List.filter_cons_of_neg (by simp [hbag])]
          exact ih
        | some bag =>
          rw [List.filterMap_cons_some hbag, List.filter_cons_of_pos (by simp [hbag])]
          exact congrArg (· + 1) ih
    exact hlength rows

theorem DestroysNext.mem_destructions {before after : Store τ} {bag : Bag}
    (h : DestroysNext before after bag) : bag ∈ after.destructions := by
  obtain ⟨rest, hrest⟩ := h
  rw [Store.destructions, ← hrest, List.mem_filterMap]
  exact ⟨.destroying bag.contextual bag.inst bag.episode, by simp, rfl⟩

section Calls

variable {c : ScopeContext} {start : Nat} {supply : Supply σ}
  {base : List (ScopeContext × ContextualId)} {f : Frame} {s : Store (Watched c.interface σ)}
  {during : Callback → Act (Watched c.interface σ) Unit}

theorem Tracked.claimed (h : c.Tracked start supply.thread base f s) (id : ContextualId) :
    c.Tracked start supply.thread base f (c.claimCell id s).2 := by
  have hmapped : c.Mapped start (c.claimCell id s).2 := by
    obtain ⟨_, hs⟩ | ⟨_, _, hs⟩ := claimCell_cases c id s
    · rw [hs]
      exact h.mapped
    · have hlive : ∀ x, c.live (c.claimCell id s).2 x = c.live s x :=
        fun x => live_claimCell id x s
      rw [hs] at hlive ⊢
      exact h.mapped.congr hlive rfl fun _ => rfl
  have hfilling := h.filling.claimCell id
  obtain ⟨_, hs⟩ | ⟨_, _, hs⟩ := claimCell_cases c id s
  · rw [hs]
    exact h
  · rw [hs] at hmapped hfilling ⊢
    refine ⟨h.started, h.grown, ?_, ?_, hmapped, hfilling, h.faithful⟩
    · change ((c.setCell id _ s).context c).kind ≠ _
      rw [setCell, context_update]
      exact h.stored
    · change ((c.setCell id _ s).context c).conversations.values = _
      rw [setCell, context_update]
      exact h.alone

theorem live_setActive (active : Bool) (s : Store σ) (id : ContextualId) :
    c.live (c.setActive active s) id = c.live s id := by
  rw [live, setActive, context_update]
  rfl

theorem Tracked.setActive (h : c.Tracked start supply.thread base f s) (active : Bool) :
    c.Tracked start supply.thread base f (c.setActive active s) := by
  refine ⟨h.started, h.grown, ?_, ?_, h.mapped.congr (live_setActive active s) rfl fun _ => rfl,
    h.filling.congr rfl fun id => ?_, h.faithful⟩
  · rw [ScopeContext.setActive, context_update]
    exact h.stored
  · rw [ScopeContext.setActive, context_update]
    exact h.alone
  · rw [ScopeContext.setActive, context_update]

theorem Tracked.getOrCreate (hfresh : supply.Fresh)
    (hduring : ∀ f cb, Act.Keeps stuck (c.Tracked start supply.thread base f) (during cb))
    (h : c.Tracked start supply.thread base f s) (unit : Contextual) (e : Episode) :
    Act.wp stuck (c.getOrCreate (supply.watched.host during) unit e)
      (fun r t => c.Tracked start supply.thread base f t ∧
        c.Answered (.getOrCreate unit e) s.bare r t.bare) s := by
  cases hactive : (s.context c).active with
  | false =>
    rw [wp_getOrCreate_of_inactive hactive]
    refine ⟨h, Act.of_failed, ?_⟩
    intro bag hbefore
    cases hactive.symm.trans hbefore
  | true =>
    cases hlive : c.live s unit.id with
    | some bag =>
      rw [wp_getOrCreate_of_live hactive h.stored hlive]
      refine ⟨h, ?_, ?_⟩
      · intro inst hinst
        cases hinst
        exact ⟨bag, hlive, rfl⟩
      · intro bag' _ hbag
        obtain rfl : bag = bag' := Option.some.inj (hlive.symm.trans hbag)
        exact ⟨rfl, rfl⟩
    | none =>
      have habsent : ∀ bag, (s.bare.context c).active = true →
          c.live s.bare unit.id ≠ some bag := by
        intro bag _ hbag
        cases hlive.symm.trans hbag
      have hclaimed := h.claimed unit.id
      apply wp_getOrCreate_of_absent hactive h.stored hlive
      · intro path _
        exact ⟨hclaimed, Act.of_failed, fun bag hb hbag => absurd hbag (habsent bag hb)⟩
      · intro hout hfilling
        exact absurd (h.filling.claimed hfilling) hout
      · intro hout _
        have hid : unit.id ∉ f.pending := fun hmem => hout (h.filling.mem_stack hmem)
        have hstack : (c.claimCell unit.id s).2.stack supply.thread = s.stack supply.thread :=
          hclaimed.filling.stacked.trans h.filling.stacked.symm
        have hentered := hclaimed.entered (c.claimCell unit.id s).1.serial
          ((live_claimCell unit.id unit.id s).trans hlive)
        rw [hstack] at hentered
        apply (Tracked.createInto hfresh hduring hentered h.filling.inFlight hid).mono
        intro r t ht
        exact ⟨ht.1, ht.2, fun bag hb hbag => absurd hbag (habsent bag hb)⟩

theorem Tracked.removed {id : ContextualId} {bag : Bag}
    (hduring : ∀ f cb, Act.Keeps stuck (c.Tracked start supply.thread base f) (during cb))
    (h : c.Tracked start supply.thread base f s) (hbag : c.live s id = some bag) :
    Act.wp stuck (bag.destroy (supply.watched.host during))
      (fun _ t => c.Tracked start supply.thread base f t ∧ DestroysNext s.bare t.bare bag)
      (c.takeEntry id s).2 := by
  let event : Event := .destroying bag.contextual bag.inst bag.episode
  have hgrown : s.journal.toList ++ [event] <+:
      ((c.takeEntry id s).2.note event).journal.toList := by
    rw [Store.note, Array.toList_push]
    exact List.prefix_refl _
  have htaken : c.Tracked start supply.thread base
      { f with old := s.journal.toList ++ [event] } ((c.takeEntry id s).2.note event) := by
    refine ⟨started_note h.started _, hgrown, ?_, ?_, h.mapped.removed h.started hbag,
      (h.filling.takeEntry id).congr rfl fun _ => rfl, h.faithful⟩
    · change ((c.takeEntry id s).2.context c).kind ≠ _
      rw [takeEntry, context_update]
      exact h.stored
    · change ((c.takeEntry id s).2.context c).conversations.values = _
      rw [takeEntry, context_update]
      exact h.alone
  apply (Tracked.bagDestroyed (hduring _) htaken).mono
  intro _ t ht
  exact ⟨ht.since (h.grown.trans (List.prefix_append _ _)), ht.grown⟩

theorem Tracked.tookNothing {id : ContextualId} (h : c.Tracked start supply.thread base f s)
    (hnone : c.live s id = none) :
    c.Tracked start supply.thread base f (c.takeEntry id s).2 ∧
      ∀ x, c.live (c.takeEntry id s).2 x = c.live s x := by
  have hlive : ∀ x, c.live (c.takeEntry id s).2 x = c.live s x := by
    intro x
    rw [live_takeEntry]
    split
    · rename_i hx
      rw [hx, hnone]
    · rfl
  refine ⟨⟨h.started, h.grown, ?_, ?_, h.mapped.congr hlive rfl fun _ => rfl,
    h.filling.takeEntry id, h.faithful⟩, hlive⟩
  · rw [takeEntry, context_update]
    exact h.stored
  · rw [takeEntry, context_update]
    exact h.alone

theorem Tracked.destroy
    (hduring : ∀ f cb, Act.Keeps stuck (c.Tracked start supply.thread base f) (during cb))
    (h : c.Tracked start supply.thread base f s) (unit : Contextual) :
    Act.wp stuck (c.destroy (supply.watched.host during) unit)
      (fun r t => c.Tracked start supply.thread base f t ∧
        c.Answered (.destroy unit) s.bare r t.bare) s := by
  cases hlive : c.live s unit.id with
  | none =>
    rw [wp_destroy_of_absent hlive]
    obtain ⟨htracked, hsame⟩ := h.tookNothing hlive
    refine ⟨htracked, ?_, fun _ => ⟨rfl, rfl, hsame⟩⟩
    intro bag hbag
    cases hlive.symm.trans hbag
  | some bag =>
    apply wp_destroy_of_live hlive
    apply (Tracked.removed hduring h hlive).mono
    intro _ t ht
    obtain ⟨htracked, hnext⟩ := ht
    have hanswered : ∀ r : Except LifecycleError Bool, r ≠ .ok false →
        c.Answered (.destroy unit) s.bare r t.bare := by
      intro r hr
      constructor
      · intro bag' hbag
        obtain rfl : bag = bag' := Option.some.inj (hlive.symm.trans hbag)
        exact ⟨hr, hnext⟩
      · intro hnone
        cases hlive.symm.trans hnone
    have hok : (.ok true : Except LifecycleError Bool) ≠ .ok false := by
      intro hsame
      cases hsame
    have herror : ∀ error, (.error error : Except LifecycleError Bool) ≠ .ok false := by
      intro error hsame
      cases hsame
    exact ⟨⟨htracked, hanswered _ hok⟩, fun error => ⟨htracked, hanswered _ (herror error)⟩⟩

theorem Tracked.destroyExisting
    (hduring : ∀ f cb, Act.Keeps stuck (c.Tracked start supply.thread base f) (during cb))
    (h : c.Tracked start supply.thread base f s) (unit : Contextual) :
    Act.wp stuck (c.destroyExisting (supply.watched.host during) unit)
      (fun r t => c.Tracked start supply.thread base f t ∧
        c.Answered (.destroyExisting unit) s.bare r t.bare) s := by
  simp only [ScopeContext.destroyExisting, Act.wp_bind]
  cases hlive : c.live s unit.id with
  | none =>
    rw [wp_destroy_of_absent hlive]
    simp only [Bool.false_eq_true, ↓reduceIte, Act.wp_bind, Act.wp_get, Act.wp_throw]
    obtain ⟨htracked, hsame⟩ := h.tookNothing hlive
    refine ⟨htracked, ?_, fun _ => ⟨?_, rfl, hsame⟩⟩
    · intro bag hbag
      cases hlive.symm.trans hbag
    · rw [takeEntry, context_update]
      rfl
  | some bag =>
    have hanswered : ∀ (r : Except LifecycleError Unit) (t : Store (Watched c.interface σ)),
        DestroysNext s.bare t.bare bag →
        c.Answered (.destroyExisting unit) s.bare r t.bare := by
      intro r t hnext
      constructor
      · intro bag' hbag
        obtain rfl : bag = bag' := Option.some.inj (hlive.symm.trans hbag)
        exact hnext
      · intro hnone
        cases hlive.symm.trans hnone
    apply wp_destroy_of_live hlive
    apply (Tracked.removed hduring h hlive).mono
    intro _ t ht
    simp only [↓reduceIte, Act.wp_pure]
    exact ⟨⟨ht.1, hanswered _ t ht.2⟩, fun error => ⟨ht.1, hanswered _ t ht.2⟩⟩

theorem Tracked.destroyAll
    (hduring : ∀ f cb, Act.Keeps stuck (c.Tracked start supply.thread base f) (during cb)) :
    Act.Keeps stuck (c.Tracked start supply.thread base f)
      (c.destroyAll (supply.watched.host during)) := by
  have hdepth : c.destroyAll (supply.watched.host during) =
      c.destroyNested (supply.watched.host during) (UInt64.size - 1 + 1) := rfl
  rw [hdepth]
  apply destroyNested_keeps
  · intro s h
    exact h.setActive false
  · intro id
    apply destroyEntry_keeps (fun content s h => h.noted rfl rfl)
    · exact fun s h hnone => (h.tookNothing hnone).1
    · intro bag s h hbag
      exact (Tracked.removed hduring h hbag).mono fun _ t ht => ht.1
  · intro s h
    refine ⟨h.alone, ⟨h.started, h.grown, ?_, ?_, ?_, ?_, h.faithful⟩⟩
    · rw [takeConversations, context_update]
      exact h.stored
    · rw [takeConversations, context_update]
      rfl
    · refine h.mapped.congr (fun id => ?_) rfl fun _ => rfl
      rw [live, takeConversations, context_update]
      rfl
    · refine h.filling.congr rfl fun id => ?_
      rw [takeConversations, context_update]

theorem Tracked.sawMoment (h : c.Tracked start supply.thread base f s) :
    c.Tracked start supply.thread base f s.sawMoment := by
  refine ⟨h.started, h.grown, h.stored, h.alone, h.mapped.congr (fun _ => rfl) rfl fun _ => rfl,
    h.filling.congr rfl fun _ => rfl, ?_⟩
  intro sighting hmem
  rw [Store.sawMoment, Store.seen_saw, List.mem_cons] at hmem
  rcases hmem with rfl | hmem
  · exact h.mapped.congr (fun _ => rfl) rfl fun _ => rfl
  · exact h.faithful sighting hmem

theorem Tracked.sawCall {op : Call} {answer : Except LifecycleError op.Answer}
    {t : Store (Watched c.interface σ)} (hs : c.Tracked start supply.thread base f s)
    (ht : c.Tracked start supply.thread base f t) (hanswer : c.Answered op s.bare answer t.bare) :
    c.Tracked start supply.thread base f
      (t.saw (.call (op : c.interface.Call) s.bare answer t.bare)) := by
  refine ⟨ht.started, ht.grown, ht.stored, ht.alone,
    ht.mapped.congr (fun _ => rfl) rfl fun _ => rfl, ht.filling.congr rfl fun _ => rfl, ?_⟩
  intro sighting hmem
  rw [Store.seen_saw, List.mem_cons] at hmem
  rcases hmem with rfl | hmem
  · exact ⟨hs.mapped.congr (fun _ => rfl) rfl fun _ => rfl,
      ht.mapped.congr (fun _ => rfl) rfl fun _ => rfl, hanswer⟩
  · exact ht.faithful sighting hmem

/-- Every program leaves a context in order. -/
theorem Tracked.run (hfresh : supply.Fresh) (p : Program c.interface σ) (f : Frame) :
    Act.Keeps stuck (c.Tracked start supply.thread base f) (p.run supply) := by
  refine p.run_keeps_each supply (fun f s h => h.sawMoment) (fun f own s h => ?_)
    (fun during hduring f op s h => ?_) f
  · exact ⟨h.started, h.grown, h.stored, h.alone, h.mapped.congr (fun _ => rfl) rfl fun _ => rfl,
      h.filling.congr rfl fun _ => rfl, h.faithful⟩
  cases op with
  | getOrCreate unit e =>
    apply (h.getOrCreate hfresh hduring unit e).mono
    exact fun r t ht => h.sawCall ht.1 ht.2
  | get unit => exact h.sawCall h ⟨rfl, rfl⟩
  | bag unit => exact h.sawCall h ⟨rfl, rfl⟩
  | contains unit =>
    refine h.sawCall h ⟨congrArg Except.ok ?_, rfl⟩
    exact Option.isSome_map
  | size =>
    obtain ⟨ids, hnodup, hids, hsize⟩ := size_cases c s
    exact h.sawCall h ⟨⟨ids, hnodup, hids, congrArg Except.ok hsize⟩, rfl⟩
  | destroy unit =>
    apply (h.destroy hduring unit).mono
    exact fun r t ht => h.sawCall ht.1 ht.2
  | destroyExisting unit =>
    apply (h.destroyExisting hduring unit).mono
    exact fun r t ht => h.sawCall ht.1 ht.2
  | destroyAll =>
    apply (Tracked.destroyAll hduring s h).mono
    exact fun r t ht => h.sawCall ht trivial
  | setActive active =>
    refine h.sawCall (h.setActive active) ⟨rfl, ?_, live_setActive active s⟩
    change ((c.setActive active s).context c).active = active
    rw [ScopeContext.setActive, context_update]

end Calls

theorem Tracked.new (thread : Thread) {kind : ScopeKind} (hkind : kind ≠ .dependent)
    (s₀ : Store σ) :
    let c := (ScopeContext.new kind s₀).1
    let s := (ScopeContext.new kind s₀).2
    c.Tracked s.journal.size thread (s.stack thread) ⟨[], [], []⟩
      (s.watched : Store (Watched c.interface σ)) := by
  intro c s
  have hcontext : (s.watched : Store (Watched c.interface σ)).context c = { kind } :=
    context_new kind s₀
  have hlive : ∀ id, c.live (s.watched : Store (Watched c.interface σ)) id = none := by
    intro id
    rw [live, hcontext]
    rfl
  have hcreations : (s.watched : Store (Watched c.interface σ)).creations s.journal.size = [] := by
    change (s.journal.toList.drop s.journal.size).filterMap Event.creation? = []
    rw [List.drop_eq_nil_of_le (by simp), List.filterMap_nil]
  have hseen : (s.watched : Store (Watched c.interface σ)).seen = [] := rfl
  constructor
  · exact Nat.le_refl s.journal.size
  · exact List.nil_prefix
  · rw [hcontext]
    exact hkind
  · rw [hcontext]
    rfl
  · rw [Mapped, hcreations]
    constructor
    · intro id bag hbag
      cases (hlive id).symm.trans hbag
    · intro bag hbag
      cases hbag
    · intro bag hbag
      cases hbag
    · intro bag hbag
      cases hbag
  · constructor
    · rfl
    · intro id n hcell
      rw [hcontext] at hcell
      cases hcell
    · intro id n hid
      cases hid
    · intro id hid
      cases hid
  · intro sighting hmem
    rw [hseen] at hmem
    cases hmem

/-- What a run that began after `start` events and ended in `t` shows of a context. -/
structure LiveMap (c : ScopeContext) (start : Nat) (t : Store (Watched c.interface σ)) : Prop where
  /-- A live entry is one that was created here and not passed to its destruction. -/
  entries : ∀ m, .moment m ∈ t.seen → ∀ bag, c.live m bag.contextual.id = some bag ↔
    bag ∈ m.creations start ∧ endings m.destructions bag.inst = []
  /-- When a call returns, what was created until then is live or was destroyed. -/
  created : ∀ unit e before answer after,
    (.call (Call.getOrCreate unit e) before answer after : Sighting c.interface) ∈ t.seen →
    ∀ bag ∈ after.creations start,
      c.live after bag.contextual.id = some bag ∨ bag ∈ after.destructions
  once : ∀ bag ∈ t.creations start, (endings t.destructions bag.inst).length ≤ 1
  /-- Nothing is handed out whose destruction has begun. -/
  madeUndestroyed : ∀ unit e before inst after,
    (.call (Call.getOrCreate unit e) before (.ok inst) after : Sighting c.interface) ∈ t.seen →
    endings after.destructions inst = []
  gotUndestroyed : ∀ unit before inst after,
    (.call (Call.get unit) before (.ok (some inst)) after : Sighting c.interface) ∈ t.seen →
    endings after.destructions inst = []
  /-- A live entry is reused, and nothing else happens. -/
  reused : ∀ unit e before answer after,
    (.call (Call.getOrCreate unit e) before answer after : Sighting c.interface) ∈ t.seen →
    ∀ bag, (before.context c).active = true → c.live before unit.id = some bag →
      answer = .ok bag.inst ∧ after = before
  /-- A live entry is removed and destroyed at once, and anything else is left alone. -/
  destroyed : ∀ unit before answer after,
    (.call (Call.destroy unit) before answer after : Sighting c.interface) ∈ t.seen →
    (∀ bag, c.live before unit.id = some bag → (answer : Except LifecycleError Bool) ≠ .ok false ∧
      DestroysNext before after bag ∧ c.live after unit.id ≠ some bag) ∧
    (c.live before unit.id = none → (answer : Except LifecycleError Bool) = .ok false ∧
      after.journal = before.journal ∧ ∀ id, c.live after id = c.live before id)
  /-- Calls that look are answered by the live entries alone. -/
  looked : ∀ (op : Call) before answer after,
    (.call (op : c.interface.Call) before answer after : Sighting c.interface) ∈ t.seen →
    c.Answered op before answer after

/-- A context that does not belong to the dependent scope is a map of live instances, for all calls
on it, nested in callbacks to any depth, if creations give new instances. -/
theorem live_instances (supply : Supply σ) (hfresh : supply.Fresh) (kind : ScopeKind)
    (hkind : kind ≠ .dependent) (s₀ : Store σ) :
    let c := (ScopeContext.new kind s₀).1
    let s := (ScopeContext.new kind s₀).2
    ∀ p : Program c.interface σ, ∃ r t, (p.run supply).run.run s.watched = some (r, t) ∧
      c.LiveMap s.journal.size t := by
  intro c s p
  have hnew : c.Tracked s.journal.size supply.thread (s.stack supply.thread) ⟨[], [], []⟩
      (s.watched : Store (Watched c.interface σ)) := Tracked.new supply.thread hkind s₀
  obtain ⟨r, t, hrun, ht⟩ := Act.wp_false_iff.1 (Tracked.run hfresh p _ _ hnew)
  refine ⟨r, t, hrun, ?_⟩
  constructor
  · intro m hmem bag
    exact Fates.live_iff (ht.faithful _ hmem)
  · intro unit e before answer after hmem bag hbag
    obtain ⟨_, hafter, _⟩ := ht.faithful _ hmem
    rcases hafter.fate bag hbag with hlive | hdead
    · exact .inl hlive.1
    · exact .inr (mem_of_endings hdead.2)
  · intro bag hbag
    rcases ht.mapped.fate bag hbag with hlive | hdead
    · rw [hlive.2]
      exact Nat.zero_le 1
    · rw [hdead.2]
      exact Nat.le_refl 1
  · intro unit e before inst after hmem
    obtain ⟨_, hafter, hanswer⟩ := ht.faithful _ hmem
    obtain ⟨bag, hbag, rfl⟩ := hanswer.1 inst rfl
    exact hafter.undestroyed hbag
  · intro unit before inst after hmem
    obtain ⟨hbefore, _, hanswer⟩ := ht.faithful _ hmem
    obtain ⟨hget, rfl⟩ := hanswer
    obtain ⟨bag, hbag, hinst⟩ := Option.map_eq_some_iff.1 (Except.ok.inj hget).symm
    exact hinst ▸ hbefore.undestroyed hbag
  · intro unit e before answer after hmem bag hactive hbag
    exact (ht.faithful _ hmem).2.2.2 bag hactive hbag
  · intro unit before answer after hmem
    obtain ⟨hbefore, hafter, hlive, habsent⟩ := ht.faithful _ hmem
    refine ⟨fun bag hbag => ?_, habsent⟩
    obtain ⟨hanswer, hnext⟩ := hlive bag hbag
    refine ⟨hanswer, hnext, fun hstill => ?_⟩
    have hends := hafter.undestroyed hstill
    have hmem : bag ∈ endings after.destructions bag.inst :=
      List.mem_filter.2 ⟨hnext.mem_destructions, by simp⟩
    rw [hends] at hmem
    cases hmem
  · intro op before answer after hmem
    exact (ht.faithful _ hmem).2.2

/-- The hypotheses hold of a request context, whose creations here lose their places meanwhile. -/
theorem live_instances_request :
    let supply : Supply Unit := Supply.numbered ⟨"main"⟩
    let s₀ : Store Unit := { surroundings := () }
    let made := ScopeContext.new .request s₀
    let unit : Contextual := { object := 1, id := ⟨"a"⟩, variety := .bean .request none }
    let program : Program made.1.interface Unit :=
      .call (Call.setActive true) (fun _ => .done) fun _ =>
        .call (Call.getOrCreate unit ⟨1⟩)
          (fun _ => .call (Call.destroy unit) (fun _ => .done) fun _ => .done) fun _ => .done
    supply.Fresh ∧ ScopeKind.request ≠ .dependent ∧
      ∃ r t, (program.run supply).run.run made.2.watched = some (r, t) ∧
        made.1.LiveMap made.2.journal.size t := by
  intro supply s₀ made unit program
  have hfresh : supply.Fresh := Supply.numbered_fresh _
  have hkind : ScopeKind.request ≠ .dependent := by decide
  exact ⟨hfresh, hkind, live_instances supply hfresh .request hkind s₀ program⟩

end ScopeContext

end ContextualLifecycle
