import ContextualLifecycle.Proofs.ScopeContext.Cells
import ContextualLifecycle.Proofs.Journal

namespace ContextualLifecycle

namespace Table

variable {κ α : Type} [DecidableEq κ]

theorem countP_filter_keys {rows : List (κ × α)} (hnodup : (rows.map Prod.fst).Nodup) (key : κ)
    (p : α → Bool) :
    ((rows.filter fun row => row.1 ≠ key).map Prod.snd).countP p +
        (if (find? key rows).any p then 1 else 0) = (rows.map Prod.snd).countP p := by
  induction rows with
  | nil => rfl
  | cons row rows ih =>
    obtain ⟨k, v⟩ := row
    obtain ⟨hnotin, hrest⟩ := List.nodup_cons.1 hnodup
    have ih := ih hrest
    by_cases hk : k = key
    · subst hk
      have hgone : find? k rows = none := by
        cases hfind : find? k rows with
        | none => rfl
        | some v => exact absurd (List.mem_map.2 ⟨_, mem_of_find? hfind, rfl⟩) hnotin
      simp only [hgone, Option.any_none, Bool.false_eq_true, ↓reduceIte, Nat.add_zero] at ih
      rw [List.filter_cons_of_neg (by simp), ih]
      simp only [find?, ↓reduceIte, Option.any_some, List.map_cons, List.countP_cons]
    · rw [List.filter_cons_of_pos (by simpa using hk)]
      simp only [find?, hk, ↓reduceIte, List.map_cons, List.countP_cons]
      omega

theorem countP_put (rows : List (κ × α)) (key : κ) (value : α) (p : α → Bool) :
    ((put key value rows).map Prod.snd).countP p + (if (find? key rows).any p then 1 else 0) =
      (rows.map Prod.snd).countP p + (if p value then 1 else 0) := by
  induction rows with
  | nil => simp [put, find?]
  | cons row rows ih =>
    obtain ⟨k, v⟩ := row
    rw [put]
    by_cases hk : k = key
    · simp only [find?, hk, ↓reduceIte, Option.any_some, List.map_cons, List.countP_cons]
      omega
    · simp only [find?, hk, ↓reduceIte, List.map_cons, List.countP_cons]
      omega

theorem countP_values_erase (t : Table κ α) (key : κ) (p : α → Bool) :
    (t.erase key).values.countP p + (if (t.get? key).any p then 1 else 0) = t.values.countP p :=
  countP_filter_keys t.nodup key p

theorem countP_values_insert (t : Table κ α) (key : κ) (value : α) (p : α → Bool) :
    (t.insert key value).values.countP p + (if (t.get? key).any p then 1 else 0) =
      t.values.countP p + (if p value then 1 else 0) :=
  countP_put t.rows key value p

end Table

variable {σ : Type} {s t u : Store σ}

namespace ScopeContext

/-- How many entries of a context hold the very same instance for the same episode. -/
def holding (c : ScopeContext) (b : Bag) (s : Store σ) : Nat := (s.context c).bags.count b

theorem holding_eq (c : ScopeContext) (b : Bag) (s : Store σ) :
    c.holding b s = (s.context c).entries.values.countP fun cell => cell.bag? == some b := by
  rw [holding, Record.bags, List.count_filterMap]

theorem any_live (c : ScopeContext) (b : Bag) (id : ContextualId) (s : Store σ) :
    (((s.context c).entries.get? id).any fun cell => cell.bag? == some b) =
      (c.live s id == some b) := by
  rw [live]
  cases (s.context c).entries.get? id <;> simp

theorem holding_erased {c : ScopeContext} {id : ContextualId}
    (h : (t.context c).entries = (s.context c).entries.erase id) (b : Bag) :
    c.holding b t + (if c.live s id = some b then 1 else 0) = c.holding b s := by
  have hcount := (s.context c).entries.countP_values_erase id fun cell => cell.bag? == some b
  rw [any_live] at hcount
  simpa only [holding_eq, h, beq_iff_eq] using hcount

theorem holding_inserted {c : ScopeContext} {id : ContextualId} {cell : Cell}
    (h : (t.context c).entries = (s.context c).entries.insert id cell) (b : Bag) :
    c.holding b t + (if c.live s id = some b then 1 else 0) =
      c.holding b s + (if cell.bag? = some b then 1 else 0) := by
  have hcount := (s.context c).entries.countP_values_insert id cell fun cell => cell.bag? == some b
  rw [any_live] at hcount
  simpa only [holding_eq, h, beq_iff_eq] using hcount

theorem holding_of_entries {c : ScopeContext}
    (h : (t.context c).entries = (s.context c).entries) (b : Bag) :
    c.holding b t = c.holding b s := by
  rw [holding_eq, holding_eq, h]

end ScopeContext

namespace Bag

/-- How many entries of the first `n` contexts hold a bag. -/
def held (b : Bag) (s : Store σ) : (n : Nat) → Nat
  | 0 => 0
  | n + 1 => b.held s n + ScopeContext.holding ⟨n⟩ b s

theorem held_congr {b : Bag} {n : Nat}
    (h : ∀ c : ScopeContext, c.number < n → c.holding b t = c.holding b s) :
    b.held t n = b.held s n := by
  induction n with
  | zero => rfl
  | succ n ih =>
    rw [held, held, ih fun c hc => h c (Nat.lt_succ_of_lt hc), h ⟨n⟩ (Nat.lt_succ_self n)]

theorem held_mono (b : Bag) (s : Store σ) {n k : Nat} (h : n ≤ k) : b.held s n ≤ b.held s k := by
  induction h with
  | refl => exact Nat.le_refl _
  | step _ ih => exact Nat.le_trans ih (Nat.le_add_right _ _)

/-- One context accounts for the difference, if it is among those that are counted. -/
theorem held_of_others {b : Bag} {c : ScopeContext}
    (h : ∀ x : ScopeContext, x ≠ c → x.holding b t = x.holding b s) (n : Nat) :
    b.held t n + (if c.number < n then c.holding b s else 0) =
      b.held s n + (if c.number < n then c.holding b t else 0) := by
  induction n with
  | zero => rfl
  | succ n ih =>
    rw [held, held]
    by_cases hc : c = ⟨n⟩
    · subst hc
      simp only [Nat.lt_irrefl, ↓reduceIte, Nat.lt_succ_self] at ih ⊢
      omega
    · have hne : c.number ≠ n := fun hn => hc (by rw [← hn])
      have hlt : c.number < n + 1 ↔ c.number < n := by omega
      rw [h ⟨n⟩ (Ne.symm hc)]
      simp only [hlt]
      omega

/-- How often a bag's instance is registered as a dependent of its own episode. -/
def listed (b : Bag) (s : Store σ) : Nat :=
  (s.episode b.episode).dependents.count ⟨b.contextual, b.inst⟩

end Bag

/-- The context that an event tells the end of, with its scope and the container. -/
def Event.ended? : Event → Option (Container × ScopeKind × ScopeContext)
  | .notified .destroyed m kind c => some (m, kind, c)
  | _ => none

/-- How often an instance was destroyed for its episode from one store to another. -/
def Bag.ended (b : Bag) (s t : Store σ) : Nat :=
  (t.since Event.destruction? s.journal.size).count b

/-- How often observers were told from one store to another that a conversation ended. -/
def ScopeContext.heard (c : ScopeContext) (s t : Store σ) : Nat :=
  (t.since Event.ended? s.journal.size).countP fun x => x.2 = (.conversation, c)

section Journal

variable {β : Type} {select : Event → Option β} {start : Nat}

theorem Store.since_append (hstart : start ≤ s.journal.size)
    (h : s.journal.toList <+: t.journal.toList) :
    t.since select start = s.since select start ++ t.since select s.journal.size := by
  obtain ⟨rest, hrest⟩ := h
  rw [since, since, since, ← hrest, List.drop_append_of_le_length (by simpa using hstart),
    List.filterMap_append, List.drop_left' (by simp)]

theorem Store.since_self_note (event : Event) (s : Store σ) :
    (s.note event).since select s.journal.size = (select event).toList := by
  rw [since_note (Nat.le_refl _), since_size, List.nil_append]

theorem Store.since_of_journal (h : t.journal = s.journal) :
    t.since select s.journal.size = [] := by
  rw [since, h]
  exact since_size select s

theorem Bag.ended_of_journal (b : Bag) (h : t.journal = s.journal) : b.ended s t = 0 := by
  rw [ended, Store.since_of_journal h, List.count_nil]

variable (hsu : s.journal.toList <+: u.journal.toList) (hut : u.journal.toList <+: t.journal.toList)

include hsu hut

theorem Bag.ended_trans (b : Bag) : b.ended s t = b.ended s u + b.ended u t := by
  have hsize : s.journal.size ≤ u.journal.size := by simpa using hsu.length_le
  rw [ended, ended, ended, Store.since_append hsize hut, List.count_append]

theorem ScopeContext.heard_trans (c : ScopeContext) : c.heard s t = c.heard s u + c.heard u t := by
  have hsize : s.journal.size ≤ u.journal.size := by simpa using hsu.length_le
  rw [heard, heard, heard, Store.since_append hsize hut, List.countP_append]

end Journal

end ContextualLifecycle
