import ContextualLifecycle.Proofs.Creation.Attempt

namespace ContextualLifecycle

variable {σ : Type} {stuck : Prop} {host : Host σ}

namespace ScopeContext

variable {c : ScopeContext} {id : ContextualId} {unit : Contextual} {e : Episode} {s : Store σ}
  {n : Nat}

/-- A context that stores, with no entry for the id, which the thread is not creating there, and
nobody else is. -/
structure Free (c : ScopeContext) (thread : Thread) (id : ContextualId) (s : Store σ) : Prop where
  issued : c.number < s.nextContext
  stored : (s.context c).kind ≠ .dependent
  absent : c.live s id = none
  apart : (c, id) ∉ s.stack thread
  unfilled : ∀ n, (s.context c).entries.get? id ≠ some ⟨n, .filling⟩

/-- The store in which the callback starts that creates an instance into a free place. -/
def opened (thread : Thread) (c : ScopeContext) (unit : Contextual) (e : Episode) (s : Store σ) :
    Store σ :=
  let claimed := c.claimCell unit.id s
  (c.fillCell unit.id claimed.1.serial .filling
    (claimed.2.setStack thread ((c, unit.id) :: s.stack thread))).note (.creating unit e)

/-- A place is given up, and its creation leaves the stack. -/
def abandoned (thread : Thread) (c : ScopeContext) (id : ContextualId) (n : Nat) (s : Store σ) :
    Store σ :=
  leaveCreation thread (c.dropCell id n s)

def createAnew (host : Host σ) (c : ScopeContext) (unit : Contextual) (e : Episode) :
    Act σ Instance := do
  let stack := (← get).stack host.thread
  let cell ← modifyGet (c.claimCell unit.id)
  modify (·.setStack host.thread ((c, unit.id) :: stack))
  let outcome ← Act.attempt (c.createInto host unit e cell.serial)
  modify (leaveCreation host.thread)
  liftExcept outcome

variable {thread : Thread}

theorem Free.claimed (h : c.Free thread id s) : (c.claimCell id s).1.content ≠ .filling := by
  intro hfilling
  obtain ⟨hcell, _⟩ | ⟨_, hcell, _⟩ := claimCell_cases c id s
  · exact h.unfilled (c.claimCell id s).1.serial (by rw [hcell, ← hfilling])
  · rw [hcell] at hfilling
    cases hfilling

theorem getOrCreate_of_free (hactive : (s.context c).active = true)
    (hfree : c.Free host.thread unit.id s) :
    (c.getOrCreate host unit e).run.run s = (c.createAnew host unit e).run.run s := by
  have hget : (s.context c).get? unit = none := by
    rw [Record.get?, Record.bag?]
    exact congrArg (Option.map (·.inst)) hfree.absent
  have hcycle : cycle? (s.stack host.thread) c unit.id = none := by
    rw [cycle?, if_neg (by simpa using hfree.apart)]
  apply Act.run_congr
  intro Q
  simp only [getOrCreate, createAnew, enterCreation, Act.wp_bind, Act.wp_get, Act.wp_modifyGet,
    Act.wp_modify, hactive, hfree.stored, hget, stack_claimCell, hcycle, hfree.claimed,
    Bool.not_true, Bool.false_eq_true, ↓reduceIte]

theorem Unborn.fill (h : c.Unborn id n s) : c.Unborn id n (c.fillCell id n .filling s) where
  issued := h.issued
  stored := by
    simp only [fillCell, context_update]
    split <;> exact h.stored
  absent := by
    rw [live_fillCell]
    split
    · rfl
    · exact h.absent
  filling m hm := by
    rw [get?_fillCell] at hm
    split at hm
    · cases hm
      rfl
    · exact h.filling m hm

theorem Unborn.abandoned (h : c.Unborn id n s) (hstack : (c, id) ∉ (s.stack thread).tail) :
    c.Free thread id (abandoned thread c id n s) := by
  obtain ⟨hissued, hstored, habsent, hfilling⟩ := h.dropCell c id n
  refine ⟨hissued, hstored, habsent, ?_, fun m hm => ?_⟩
  · rw [ScopeContext.abandoned, stack_leaveCreation]
    exact hstack
  · change ((c.dropCell id n s).context c).entries.get? id = some ⟨m, .filling⟩ at hm
    have hm' := hm
    rw [get?_dropCell] at hm'
    split at hm'
    · cases hm'
    · rename_i hkeep
      -- The cell would still be the one that was given up.
      have hsame : m = n := h.filling m hm'
      refine hkeep ⟨rfl, ?_⟩
      rw [Record.holds, hm', hsame]
      exact beq_self_eq_true n

theorem wp_getOrCreate_of_failed {error : LifecycleError} {t : Store σ} {Q : Store σ → Prop}
    (hactive : (s.context c).active = true) (hfree : c.Free host.thread unit.id s)
    (hcreate : (host.create unit e).run.run (c.opened host.thread unit e s) =
      some (.error error, t))
    (hrelease : Act.wp stuck (e.release host) (fun _ u =>
      Q (c.abandoned host.thread unit.id (c.claimCell unit.id s).1.serial u) ∧
        ∀ left, Q (c.abandoned host.thread unit.id (c.claimCell unit.id s).1.serial
          (u.report (.cleanupFailed unit.id left)))) t) :
    Act.wp stuck (c.getOrCreate host unit e) (fun r u => r = .error error ∧ Q u) s := by
  apply wp_getOrCreate_of_absent hactive hfree.stored hfree.absent
  · exact fun _ hin => absurd hin hfree.apart
  · exact fun _ hfilling => absurd hfilling hfree.claimed
  intro _ _
  have hfailed : ∀ entered, entered.note (.creating unit e) = c.opened host.thread unit e s →
      Act.wp stuck (unit.create host e) (fun r u => r = .error error ∧ u = t) entered := by
    intro entered hentered
    apply Contextual.wp_create (P := fun r u => r = .error error ∧ u = t)
    · rw [hentered, Act.wp_of_run hcreate]
      exact ⟨rfl, rfl⟩
    · exact fun _ _ h => nomatch h.1
    · exact fun _ _ h => h
  apply wp_createInto (hfailed _ rfl)
  · intro error' u hu
    obtain ⟨herror, rfl⟩ := hu
    cases herror
    exact hrelease.mono fun _ u hu => ⟨⟨rfl, hu.1⟩, fun left => ⟨rfl, hu.2 left⟩⟩
  · exact fun _ _ h => nomatch h.1
  · exact fun _ _ h => nomatch h.1

section Opened

variable {unit : Contextual}

def attempt (thread : Thread) (c : ScopeContext) (unit : Contextual) (e : Episode) (start : Nat)
    (held : List Dependent) (s : Store σ) : Attempt where
  thread := thread
  context := c
  id := unit.id
  serial := (c.claimCell unit.id s).1.serial
  episode := e
  start := start
  held := held

theorem Free.unborn (h : c.Free thread unit.id s) (n : Nat) : c.Unborn unit.id n s where
  issued := h.issued
  stored := h.stored
  absent := h.absent
  filling m hm := absurd hm (h.unfilled m)

theorem Free.opened (unit : Contextual) (h : c.Free thread unit.id s) {start : Nat}
    {held : List Dependent} (hbooks : e.Ledger start held false s) :
    (c.attempt thread unit e start held s).At ⟨(c, unit.id) :: s.stack thread, false⟩
      (c.opened thread unit e s) := by
  have hclaimed := (h.unborn (c.claimCell unit.id s).1.serial).claimCell c unit.id
  have hentered : c.Unborn unit.id (c.claimCell unit.id s).1.serial
      ((c.claimCell unit.id s).2.setStack thread ((c, unit.id) :: s.stack thread)) :=
    hclaimed.congr rfl (Nat.le_refl _)
  refine ⟨List.mem_cons_self, ?_, hentered.fill.congr rfl (Nat.le_refl _), ?_⟩
  · exact (Store.stack_setStack_eq thread thread _ _).trans (if_pos rfl)
  · have hframe : (c.claimCell unit.id s).2.episode e = s.episode e ∧
        s.nextEpisode ≤ (c.claimCell unit.id s).2.nextEpisode ∧
        (c.claimCell unit.id s).2.journal = s.journal := by
      obtain ⟨_, _, heq⟩ := claimCell_aside c unit.id s
      rw [heq]
      exact ⟨rfl, Nat.le_refl _, rfl⟩
    refine Episode.Ledger.noted ?_ (.creating unit e)
    exact hbooks.congr (t := c.fillCell unit.id _ .filling _) hframe.1 hframe.2.1 hframe.2.2

/-- No entry appears or goes before the callback starts. -/
theorem Free.live_opened (h : c.Free thread unit.id s) (x : ScopeContext) (id : ContextualId) :
    x.live (c.opened thread unit e s) id = x.live s id := by
  let entered := (c.claimCell unit.id s).2.setStack thread ((c, unit.id) :: s.stack thread)
  change x.live (c.fillCell unit.id _ .filling entered) id = _
  by_cases hx : x = c
  · subst hx
    rw [live_fillCell]
    split
    · rename_i hid
      rw [hid.1, h.absent]
      rfl
    · exact live_claimCell unit.id id s
  · rw [fillCell, live_update, if_neg hx]
    exact live_claimCell_eq c x unit.id id s

theorem Unborn.live_abandoned {n : Nat} (h : c.Unborn unit.id n s) (x : ScopeContext) :
    live x (c.abandoned thread unit.id n s) = live x s := by
  funext id
  change live x (ScopeContext.dropCell c unit.id n s) id = _
  by_cases hx : x = c
  · subst hx
    rw [live_dropCell]
    split
    · rename_i hid
      rw [hid.1, h.absent]
    · rfl
  · rw [ScopeContext.dropCell, live_update, if_neg hx]

end Opened

end ScopeContext

end ContextualLifecycle
