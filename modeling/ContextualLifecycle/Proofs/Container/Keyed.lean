import ContextualLifecycle.Proofs.Container.Quiet
import ContextualLifecycle.Proofs.Container.Requests

namespace ContextualLifecycle

variable {σ : Type} {s t : Store σ}

/-- Cells may go, but there are no new ones. -/
structure Store.Sheds (s t : Store σ) : Prop where
  surroundings : t.surroundings = s.surroundings
  serials : s.nextCell ≤ t.nextCell
  cells : ∀ (c : ScopeContext) id cell, (t.context c).entries.get? id = some cell →
    (s.context c).entries.get? id = some cell

namespace Store.Sheds

variable {u : Store σ} {c : ScopeContext} {f : ScopeContext.Record → ScopeContext.Record}

theorem trans (h : s.Sheds t) (h' : t.Sheds u) : s.Sheds u where
  surroundings := h'.surroundings.trans h.surroundings
  serials := Nat.le_trans h.serials h'.serials
  cells c id cell hcell := h.cells c id cell (h'.cells c id cell hcell)

theorem of_eq (hcontexts : t.contexts = s.contexts) (hserials : s.nextCell ≤ t.nextCell)
    (hsurroundings : t.surroundings = s.surroundings) : s.Sheds t := by
  refine ⟨hsurroundings, hserials, fun c id cell hcell => ?_⟩
  rwa [Store.context_congr hcontexts] at hcell

theorem update (hf : ∀ id cell, (f (s.context c)).entries.get? id = some cell →
    (s.context c).entries.get? id = some cell) : s.Sheds (c.update f s) := by
  refine ⟨rfl, Nat.le_refl _, fun x id cell hcell => ?_⟩
  by_cases hx : x = c
  · rw [hx, ScopeContext.context_update] at hcell
    rw [hx]
    exact hf id cell hcell
  · rwa [ScopeContext.context_update_of_ne hx] at hcell

theorem unentered (hf : ∀ r, (f r).entries = r.entries) (c : ScopeContext) (s : Store σ) :
    s.Sheds (c.update f s) :=
  update fun id cell hcell => by rwa [hf] at hcell

theorem new (kind : ScopeKind) (s : Store σ) : s.Sheds (ScopeContext.new kind s).2 := by
  refine ⟨rfl, Nat.le_refl _, fun x id cell hcell => ?_⟩
  simp only [ScopeContext.new, Store.context, Store.setContext, Table.get?_insert] at hcell
  split at hcell
  · cases hcell
  · exact hcell

theorem dropCell (c : ScopeContext) (id : ContextualId) (n : Nat) (s : Store σ) :
    s.Sheds (c.dropCell id n s) := by
  refine update fun x cell hcell => ?_
  split at hcell
  · rw [Table.get?_erase] at hcell
    split at hcell
    · cases hcell
    · exact hcell
  · exact hcell

theorem takeEntry (c : ScopeContext) (id : ContextualId) (s : Store σ) :
    s.Sheds (c.takeEntry id s).2 := by
  refine update (f := fun r => { r with entries := r.entries.erase id }) fun x cell hcell => ?_
  rw [Table.get?_erase] at hcell
  split at hcell
  · cases hcell
  · exact hcell

theorem setActive (c : ScopeContext) (active : Bool) (s : Store σ) :
    s.Sheds (c.setActive active s) :=
  unentered (f := fun r => { r with active }) (fun _ => rfl) c s

theorem converse (c : ScopeContext) (id : String) (timeout : Duration) (s : Store σ) :
    s.Sheds (c.converse id timeout s) :=
  (setActive c true s).trans (of_eq rfl (Nat.le_refl _) rfl)

theorem addTransient (session : ScopeContext) (draw : Nat → String) (start : Nat)
    (timeout : Duration) (s : Store σ) : s.Sheds (session.addTransient draw start timeout s).2 := by
  let id := draw ((session.addTransient draw start timeout s).1.2 - 1)
  have hactive : s.Sheds (ScopeContext.newActive .conversation s).2 :=
    (new .conversation s).trans (setActive _ true _)
  have hmade : s.Sheds (Conversation.newTransient id timeout s).2 :=
    hactive.trans (of_eq rfl (Nat.le_refl _) rfl)
  exact hmade.trans (unentered
    (f := fun r => { r with conversations := r.conversations.insert id ⟨⟨s.nextContext⟩⟩ })
    (fun _ => rfl) session _)

end Store.Sheds

section Cells

variable {host : Host σ} {Inv : Store σ → Prop} (h : host.Keeps True Inv)
  (hsheds : ∀ s t, s.Sheds t → Inv s → Inv t)
  (hset : ∀ (c : ScopeContext) id cell s,
    cell.serial < s.nextCell ∨ (s.context c).holds id cell.serial = true →
    (∀ bag, cell.bag? = some bag → bag.contextual.id = id) → Inv s → Inv (c.setCell id cell s))

include hsheds hset

theorem fillCell_of_cells {c : ScopeContext} {id : ContextualId} {n : Nat} {content : Cell.Content}
    (hcontent : ∀ bag, (Cell.mk n content).bag? = some bag → bag.contextual.id = id)
    (hs : Inv s) : Inv (c.fillCell id n content s) := by
  cases hholds : (s.context c).holds id n with
  | true =>
    have hfilled : c.fillCell id n content s = c.setCell id ⟨n, content⟩ s := by
      simp only [ScopeContext.fillCell, ScopeContext.setCell, ScopeContext.update, hholds,
        ↓reduceIte]
    rw [hfilled]
    exact hset c id ⟨n, content⟩ s (.inr hholds) hcontent hs
  | false =>
    refine hsheds s _ (.update fun x cell hcell => ?_) hs
    rwa [hholds, if_neg Bool.false_ne_true] at hcell

theorem claimCell_of_cells (c : ScopeContext) (id : ContextualId) (hs : Inv s) :
    Inv (c.claimCell id s).2 := by
  obtain ⟨_, heq⟩ | ⟨_, _, heq⟩ := ScopeContext.claimCell_cases c id s
  · rw [heq]
    exact hs
  · rw [heq]
    have hnext : Inv { s with nextCell := s.nextCell + 1 } :=
      hsheds s _ (.of_eq rfl (Nat.le_succ _) rfl) hs
    exact hset c id ⟨s.nextCell, .empty⟩ _ (.inl (Nat.lt_succ_self _))
      (fun _ hbag => by cases hbag) hnext

include h

theorem Host.handles_of_cells : host.Handles fun _ => Inv where
  remarked _ _ s _ := hsheds s _ (.of_eq rfl (Nat.le_refl _) rfl)
  destroying _ _ s := hsheds s _ (.of_eq rfl (Nat.le_refl _) rfl)
  create _ unit e _ hs :=
    (show host.Tends True ((fun _ : List Bag => Inv) []) from h.tends).gives
      (fun unit e s => hsheds s (s.note (.creating unit e)) (.of_eq rfl (Nat.le_refl _) rfl))
      (fun unit e inst s => hsheds s (s.note (.created unit e inst))
        (.of_eq rfl (Nat.le_refl _) rfl)) unit e hs
  restored _ _ s := hsheds s _ (.of_eq rfl (Nat.le_refl _) rfl)
  described _ _ _ s _ _ := hsheds s _ (.of_eq rfl (Nat.le_refl _) rfl)
  begun _ _ _ _ s := hsheds s _ (.of_eq rfl (Nat.le_refl _) rfl)
  registered _ _ s := hsheds s _ (.of_eq rfl (Nat.le_refl _) rfl)
  unlisted _ _ _ _ _ s _ := hsheds s _ (.of_eq rfl (Nat.le_refl _) rfl)
  stacked _ _ _ s := hsheds s _ (.of_eq rfl (Nat.le_refl _) rfl)
  claimed _ c id _ hs := claimCell_of_cells hsheds hset c id hs
  filling _ _ _ _ _ hs := fillCell_of_cells hsheds hset (fun _ hbag => by cases hbag) hs
  filled _ _ _ _ _ hs := fillCell_of_cells hsheds hset (fun _ hbag => by cases hbag; rfl) hs
  dropped _ c id n s := hsheds s _ (.dropCell c id n s)
  discarded _ c n b _ hs := by
    have hfilled : Inv (c.fillCell b.contextual.id n (.live b) _) :=
      fillCell_of_cells hsheds hset (fun _ hbag => by cases hbag; rfl) hs
    exact hsheds _ _ (.dropCell c b.contextual.id n _) hfilled
  placed _ c b s hs := by
    have hnext : Inv { s with nextCell := s.nextCell + 1 } :=
      hsheds s _ (.of_eq rfl (Nat.le_succ _) rfl) hs
    exact hset c b.contextual.id ⟨s.nextCell, .live b⟩ _ (.inl (Nat.lt_succ_self _))
      (fun _ hbag => by cases hbag; rfl) hnext
  taken _ c id s := hsheds s _ (.takeEntry c id s)
  tends _ := h.tends

theorem Host.sustains_of_cells : host.Sustains fun _ => Inv where
  toHandles := Host.handles_of_cells h hsheds hset
  notify _ := h.notify
  notified _ _ _ _ _ s := hsheds s _ (.of_eq rfl (Nat.le_refl _) rfl)
  opened _ kind s := hsheds s _ (.new kind s)
  switched _ c active s := hsheds s _ (.setActive c active s)
  emptied _ c s := hsheds s _
    (.unentered (f := fun r => { r with conversations := ∅ }) (fun _ => rfl) c s)
  removed _ c id s := hsheds s _
    (.unentered (f := fun r => { r with conversations := r.conversations.erase id })
      (fun _ => rfl) c s)
  vacated _ _ _ _ s := hsheds s _ (.of_eq rfl (Nat.le_refl _) rfl)
  occupied _ _ _ _ _ s := hsheds s _ (.of_eq rfl (Nat.le_refl _) rfl)
  shared _ _ _ s := hsheds s _ (.of_eq rfl (Nat.le_refl _) rfl)

/-- What depends on cells alone survives every request, if cells may go, and new ones may come for
definitions with their id. -/
theorem Host.upholds_of_cells : host.Upholds fun _ _ => Inv where
  handles _ := Host.handles_of_cells h hsheds hset
  sustains _ := Host.sustains_of_cells h hsheds hset
  added _ _ session draw start timeout s := hsheds s _ (.addTransient session draw start timeout s)
  conversed _ _ _ _ s _ := hsheds s _ (.of_eq rfl (Nat.le_refl _) rfl)
  container _ _ _ _ s := hsheds s _ (.of_eq rfl (Nat.le_refl _) rfl)
  counted _ _ _ s := hsheds s _ (.of_eq rfl (Nat.le_refl _) rfl)
  waited _ _ _ s := hsheds s _ (.of_eq rfl (Nat.le_refl _) rfl)
  rescoped _ _ _ _ _ s := hsheds s _ (.of_eq rfl (Nat.le_refl _) rfl)
  forgotten _ _ _ _ s := hsheds s _ (.of_eq rfl (Nat.le_refl _) rfl)
  begun _ _ kind s := hsheds s _ (.new kind s)
  done _ _ _ _ hs := hs
  converse c _ _ id timeout s := hsheds s _ (.converse c id timeout s)
  listed c _ _ id timeout session s hs _ := by
    refine hsheds s _ ((Store.Sheds.converse c id timeout s).trans ?_) hs
    exact .unentered (f := fun r => { r with conversations := r.conversations.insert id ⟨c⟩ })
      (fun _ => rfl) session _

end Cells

/-- What depends on cells alone holds at every moment of a run, within callbacks too. -/
theorem Program.moments_of_cells {P : Store Unit → Prop}
    (hsheds : ∀ s t, s.Sheds t → P s → P t)
    (hset : ∀ (c : ScopeContext) id cell s,
      cell.serial < s.nextCell ∨ (s.context c).holds id cell.serial = true →
      (∀ bag, cell.bag? = some bag → bag.contextual.id = id) → P s → P (c.setCell id cell s))
    (supply : Supply σ) (own : σ) (p : Program library σ)
    (hstart : P (Store.watched { surroundings := own } : Store (Watched library σ)).bare)
    {r : Except LifecycleError Unit} {t : Store (Watched library σ)}
    (h : (p.run supply).run.run (Store.watched { surroundings := own }) = some (r, t))
    {u : Store Unit} (hu : .moment u ∈ t.seen) : P u := by
  let Seen : Store (Watched library σ) → Prop := fun s => P s.bare ∧ ∀ u, .moment u ∈ s.seen → P u
  have hseen : ∀ s t : Store (Watched library σ), s.Sheds t → Seen s → Seen t := by
    intro s t hst hs
    refine ⟨hsheds s.bare t.bare ⟨rfl, hst.serials, hst.cells⟩ hs.1, ?_⟩
    rw [Store.seen, hst.surroundings]
    exact hs.2
  have hrun : Act.Keeps True Seen (p.run supply) := by
    refine Program.run_keeps supply ?_ (fun _ _ hs => hs) ?_ p
    · intro s hs
      refine ⟨hs.1, fun u hu => ?_⟩
      rcases List.mem_cons.1 hu with hmoment | hu
      · cases hmoment
        exact hs.1
      · exact hs.2 u hu
    · intro during hduring request s hs
      have hhost := (supply.watched.host_keeps hduring).on request.thread
      have hupholds := Host.upholds_of_cells hhost hseen
        fun c id cell s hserial hcell hs => ⟨hset c id cell s.bare hserial hcell hs.1, hs.2⟩
      have hregistered : ∀ b s, request.call.registered? = some b → Seen s →
          Seen (b.episode.update (·.register b.contextual b.inst) s) :=
        fun b s _ => hseen s _ (.of_eq rfl (Nat.le_refl _) rfl)
      apply (request.call.perform_upheld hupholds [] [] hregistered s hs).mono
      intro answer v hv
      refine ⟨hv.1, fun u hu => hv.2 u ?_⟩
      exact (List.mem_cons.1 hu).resolve_left fun hcall => by cases hcall
  exact ((Act.wp_of_run h).1 (hrun _ ⟨hstart, fun _ hu => by cases hu⟩)).2 u hu

/-- An entry is stored under the id of its definition. -/
def Store.Keyed (s : Store σ) : Prop :=
  ∀ (c : ScopeContext) id bag, c.live s id = some bag → bag.contextual.id = id

namespace Store.Keyed

theorem nodup (h : s.Keyed) (c : ScopeContext) :
    ((s.context c).bags.map (·.contextual.id)).Nodup := by
  have hsub : ∀ rows : List (ContextualId × Cell),
      (∀ row ∈ rows, ∀ bag, row.2.bag? = some bag → bag.contextual.id = row.1) →
      (((rows.map Prod.snd).filterMap Cell.bag?).map (·.contextual.id)).Sublist
        (rows.map Prod.fst) := by
    intro rows hrows
    induction rows with
    | nil => exact .slnil
    | cons row rows ih =>
      have hrest := ih fun x hx => hrows x (List.mem_cons_of_mem row hx)
      cases hbag : row.2.bag? with
      | none =>
        rw [List.map_cons, List.filterMap_cons_none hbag]
        exact hrest.cons _
      | some bag =>
        rw [List.map_cons, List.filterMap_cons_some hbag, List.map_cons, List.map_cons,
          hrows row List.mem_cons_self bag hbag]
        exact hrest.cons_cons _
  refine (s.context c).entries.nodup.sublist (hsub _ fun row hrow bag hbag => h c row.1 bag ?_)
  rw [ScopeContext.live, Table.get?_eq_some_iff.2 hrow]
  exact hbag

theorem sheds (h : s.Keyed) (hst : s.Sheds t) : t.Keyed := by
  intro c id bag hbag
  obtain ⟨cell, hcell, hlive⟩ := Option.bind_eq_some_iff.1 hbag
  refine h c id bag ?_
  rw [ScopeContext.live, hst.cells c id cell hcell, Option.bind_some]
  exact hlive

theorem setCell (h : s.Keyed) {c : ScopeContext} {id : ContextualId} {cell : Cell}
    (hcell : ∀ bag, cell.bag? = some bag → bag.contextual.id = id) :
    (c.setCell id cell s).Keyed := by
  intro x y bag hbag
  by_cases hx : x = c
  · rw [hx, ScopeContext.live_setCell] at hbag
    split at hbag
    · rename_i hy
      exact hy ▸ hcell bag hbag
    · exact h c y bag hbag
  · rw [ScopeContext.setCell, ScopeContext.live_update, if_neg hx] at hbag
    exact h x y bag hbag

end Store.Keyed

/-- At every moment of a run, within callbacks too, entries are keyed. -/
theorem Program.keyed (supply : Supply σ) (own : σ) (p : Program library σ)
    {r : Except LifecycleError Unit} {t : Store (Watched library σ)}
    (h : (p.run supply).run.run (Store.watched { surroundings := own }) = some (r, t))
    {u : Store Unit} (hu : .moment u ∈ t.seen) : u.Keyed :=
  Program.moments_of_cells (fun _ _ hst hs => hs.sheds hst) (fun _ _ _ _ _ hcell hs =>
    hs.setCell hcell) supply own p (fun _ _ _ hbag => by cases hbag) h hu

end ContextualLifecycle
