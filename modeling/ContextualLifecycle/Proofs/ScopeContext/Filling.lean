import ContextualLifecycle.Proofs.ScopeContext.Cells

namespace ContextualLifecycle.ScopeContext

variable {σ τ : Type}

/-- The creations that a thread has in flight in a context: the ids on its stack, the innermost one
first, and the cells that are being filled. -/
structure Filling (c : ScopeContext) (thread : Thread) (base : List (ScopeContext × ContextualId))
    (pending : List ContextualId) (cells : List (ContextualId × Nat)) (s : Store σ) : Prop where
  stacked : s.stack thread = pending.map (Prod.mk c) ++ base
  filling : ∀ id n, (s.context c).entries.get? id = some ⟨n, .filling⟩ → (id, n) ∈ cells
  inFlight : ∀ id n, (id, n) ∈ cells → id ∈ pending
  unborn : ∀ id ∈ pending, c.live s id = none

variable {c : ScopeContext} {thread : Thread} {base : List (ScopeContext × ContextualId)}
  {pending : List ContextualId} {cells : List (ContextualId × Nat)} {s : Store σ}
  {id : ContextualId} {n : Nat}

theorem Filling.congr {t : Store τ} (h : c.Filling thread base pending cells s)
    (hstack : t.stack thread = s.stack thread)
    (hentries : ∀ id, (t.context c).entries.get? id = (s.context c).entries.get? id) :
    c.Filling thread base pending cells t where
  stacked := hstack.trans h.stacked
  filling id n hid := h.filling id n ((hentries id).symm.trans hid)
  inFlight := h.inFlight
  unborn id hid := by
    rw [live, hentries]
    exact h.unborn id hid

theorem Filling.mem_stack (h : c.Filling thread base pending cells s) (hid : id ∈ pending) :
    (c, id) ∈ s.stack thread := by
  rw [h.stacked]
  exact List.mem_append_left base (List.mem_map_of_mem hid)

theorem Filling.takeEntry (h : c.Filling thread base pending cells s) (id : ContextualId) :
    c.Filling thread base pending cells (c.takeEntry id s).2 where
  stacked := h.stacked
  filling x m hx := by
    simp only [ScopeContext.takeEntry, context_update, Table.get?_erase] at hx
    split at hx
    · cases hx
    · exact h.filling x m hx
  inFlight := h.inFlight
  unborn x hx := by
    rw [live_takeEntry]
    split
    · rfl
    · exact h.unborn x hx

theorem Filling.claimCell (h : c.Filling thread base pending cells s) (id : ContextualId) :
    c.Filling thread base pending cells (c.claimCell id s).2 := by
  obtain ⟨_, hs⟩ | ⟨hnone, _, hs⟩ := claimCell_cases c id s
  · rw [hs]
    exact h
  · refine ⟨?_, ?_, h.inFlight, ?_⟩
    · rw [hs]
      exact h.stacked
    · intro x m hx
      rw [hs] at hx
      change ((c.setCell id ⟨s.nextCell, .empty⟩ s).context c).entries.get? x = _ at hx
      simp only [setCell, context_update, Table.get?_insert] at hx
      split at hx
      · cases hx
      · exact h.filling x m hx
    · intro x hx
      rw [live_claimCell]
      exact h.unborn x hx

/-- A cell that is being filled is claimed only by a creation that is on the stack already. -/
theorem Filling.claimed (h : c.Filling thread base pending cells s)
    (hfilling : (c.claimCell id s).1.content = .filling) : (c, id) ∈ s.stack thread := by
  obtain ⟨hcell, _⟩ | ⟨_, hcell, _⟩ := claimCell_cases c id s
  · have hclaimed : (c.claimCell id s).1 = ⟨(c.claimCell id s).1.serial, .filling⟩ := by
      rw [← hfilling]
    rw [hclaimed] at hcell
    exact h.mem_stack (h.inFlight id _ (h.filling id _ hcell))
  · rw [hcell] at hfilling
    cases hfilling

theorem get?_dropCell_fillCell (id x : ContextualId) (n : Nat) (content : Cell.Content)
    (s : Store σ) :
    ((c.dropCell id n (c.fillCell id n content s)).context c).entries.get? x =
      ((c.dropCell id n s).context c).entries.get? x := by
  rw [get?_dropCell, get?_dropCell, get?_fillCell, holds_fillCell]
  split
  · rfl
  · rfl

theorem Filling.enter (h : c.Filling thread base pending cells s) (hlive : c.live s id = none) :
    c.Filling thread base (id :: pending) ((id, n) :: cells)
      (c.fillCell id n .filling (s.setStack thread ((c, id) :: s.stack thread))) where
  stacked := by
    change ((s.creating.insert thread ((c, id) :: s.stack thread)).get? thread).getD [] = _
    rw [Table.get?_insert, if_pos rfl, Option.getD_some, h.stacked]
    rfl
  filling x m hx := by
    rw [get?_fillCell] at hx
    split at hx
    · rename_i hid
      cases hx
      rw [hid.1]
      exact List.mem_cons_self
    · exact List.mem_cons_of_mem _ (h.filling x m hx)
  inFlight x m hx := by
    rcases List.mem_cons.1 hx with heq | hmem
    · cases heq
      exact List.mem_cons_self
    · exact List.mem_cons_of_mem _ (h.inFlight x m hmem)
  unborn x hx := by
    rw [live_fillCell]
    split
    · rfl
    · rcases List.mem_cons.1 hx with rfl | hmem
      · exact hlive
      · exact h.unborn x hmem

theorem Filling.drop (h : c.Filling thread base (id :: pending) ((id, n) :: cells) s)
    (hcells : ∀ x m, (x, m) ∈ cells → x ∈ pending) :
    c.Filling thread base (id :: pending) cells (c.dropCell id n s) where
  stacked := h.stacked
  filling x m hx := by
    rw [get?_dropCell] at hx
    split at hx
    · cases hx
    · rename_i hkeep
      rcases List.mem_cons.1 (h.filling x m hx) with heq | hmem
      · cases heq
        -- The cell would still be the one that was given up.
        refine absurd ⟨rfl, ?_⟩ hkeep
        rw [Record.holds, hx]
        exact beq_self_eq_true n
      · exact hmem
  inFlight x m hx := List.mem_cons_of_mem id (hcells x m hx)
  unborn x hx := by
    rw [live_dropCell]
    split
    · rfl
    · exact h.unborn x hx

theorem stack_leaveCreation (thread : Thread) (s : Store σ) :
    (leaveCreation thread s).stack thread = (s.stack thread).tail :=
  (stack_leaveCreation_eq thread thread s).trans (if_pos rfl)

theorem Filling.leave (h : c.Filling thread base (id :: pending) cells s)
    (hcells : ∀ x m, (x, m) ∈ cells → x ∈ pending) :
    c.Filling thread base pending cells (leaveCreation thread s) where
  stacked := by
    rw [stack_leaveCreation, h.stacked]
    rfl
  filling := h.filling
  inFlight := hcells
  unborn x hx := h.unborn x (List.mem_cons_of_mem id hx)

theorem Filling.finish {bag : Bag}
    (h : c.Filling thread base (id :: pending) ((id, n) :: cells) s)
    (hcells : ∀ x m, (x, m) ∈ cells → x ∈ pending) (hid : id ∉ pending)
    (hholds : (s.context c).holds id n = true) :
    c.Filling thread base pending cells
      (leaveCreation thread (c.fillCell id n (.live bag) s)) where
  stacked := by
    rw [stack_leaveCreation]
    exact congrArg List.tail h.stacked
  filling x m hx := by
    change ((c.fillCell id n (.live bag) s).context c).entries.get? x = _ at hx
    rw [get?_fillCell] at hx
    split at hx
    · cases hx
    · rename_i hkeep
      rcases List.mem_cons.1 (h.filling x m hx) with heq | hmem
      · cases heq
        exact absurd ⟨rfl, hholds⟩ hkeep
      · exact hmem
  inFlight := hcells
  unborn x hx := by
    change c.live (c.fillCell id n (.live bag) s) x = none
    have hne : ¬ (x = id ∧ (s.context c).holds id n = true) :=
      fun hsame => hid (hsame.1 ▸ hx)
    rw [live_fillCell, if_neg hne]
    exact h.unborn x (List.mem_cons_of_mem id hx)

end ContextualLifecycle.ScopeContext
