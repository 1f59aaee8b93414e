import ContextualLifecycle.Proofs.Episode.Teardown
import ContextualLifecycle.Proofs.Journal
import ContextualLifecycle.Proofs.ScopeContext.Cells
import ContextualLifecycle.Proofs.Surroundings

namespace ContextualLifecycle

variable {σ τ : Type}

namespace Store

/-- What was created after the first `start` events. -/
def creations (start : Nat) (s : Store σ) : List Bag :=
  (s.journal.toList.drop start).filterMap Event.creation?

def destructions (s : Store σ) : List Bag := s.journal.toList.filterMap Event.destruction?

theorem creations_note {start : Nat} {s : Store σ} (hs : start ≤ s.journal.size) (event : Event) :
    (s.note event).creations start = s.creations start ++ event.creation?.toList :=
  since_note hs event

theorem destructions_note (event : Event) (s : Store σ) :
    (s.note event).destructions = s.destructions ++ event.destruction?.toList :=
  since_note (Nat.zero_le _) event

theorem knows_of_creation {start : Nat} {s : Store σ} {bag : Bag} (h : bag ∈ s.creations start) :
    s.Knows bag.inst := by
  obtain ⟨event, hmem, hevent⟩ := List.mem_filterMap.1 h
  refine .inl ⟨event, List.mem_of_mem_drop hmem, ?_⟩
  cases event with
  | created unit e inst =>
    cases hevent
    rfl
  | _ => cases hevent

theorem knows_of_destruction {s : Store σ} {bag : Bag} (h : bag ∈ s.destructions) :
    s.Knows bag.inst := by
  obtain ⟨event, hmem, hevent⟩ := List.mem_filterMap.1 h
  refine .inl ⟨event, hmem, ?_⟩
  cases event with
  | destroying unit inst e =>
    cases hevent
    rfl
  | _ => cases hevent

theorem unknown_cases (start : Nat) {s : Store σ} {inst : Instance} (h : ¬ s.Knows inst) :
    (∀ bag ∈ s.creations start, bag.inst ≠ inst) ∧ (∀ bag ∈ s.destructions, bag.inst ≠ inst) ∧
      ¬ s.Owns inst := by
  refine ⟨?_, ?_, fun hown => h (.inr hown)⟩
  · rintro bag hbag rfl
    exact h (knows_of_creation hbag)
  · rintro bag hbag rfl
    exact h (knows_of_destruction hbag)

end Store

namespace ScopeContext

def endings (destroyed : List Bag) (inst : Instance) : List Bag :=
  destroyed.filter (·.inst = inst)

/-- Created instances are live or destroyed, and destroyed once. -/
structure Fates (live : ContextualId → Option Bag) (created destroyed : List Bag)
    (owned : Instance → Prop) : Prop where
  entry : ∀ id bag, live id = some bag → bag.contextual.id = id ∧ bag ∈ created
  fate : ∀ bag ∈ created,
    live bag.contextual.id = some bag ∧ endings destroyed bag.inst = [] ∨
      live bag.contextual.id ≠ some bag ∧ endings destroyed bag.inst = [bag]
  apart : ∀ bag ∈ created, ∀ other ∈ created, bag.inst = other.inst → bag = other
  unowned : ∀ bag ∈ created, ¬ owned bag.inst

section Fates

variable {live : ContextualId → Option Bag} {created destroyed : List Bag}
  {owned : Instance → Prop} {bag : Bag}

theorem endings_append (destroyed : List Bag) (bag : Bag) (inst : Instance) :
    endings (destroyed ++ [bag]) inst =
      endings destroyed inst ++ if bag.inst = inst then [bag] else [] := by
  rw [endings, List.filter_append]
  split
  · rename_i h
    rw [List.filter_cons_of_pos (by simpa using h)]
    rfl
  · rename_i h
    rw [List.filter_cons_of_neg (by simpa using h)]
    rfl

theorem endings_eq_nil {inst : Instance} (h : ∀ bag ∈ destroyed, bag.inst ≠ inst) :
    endings destroyed inst = [] := by
  rw [endings, List.filter_eq_nil_iff]
  intro bag hbag
  simpa using h bag hbag

theorem mem_of_endings (h : endings destroyed bag.inst = [bag]) : bag ∈ destroyed := by
  have hmem : bag ∈ endings destroyed bag.inst := by
    rw [h]
    exact List.mem_singleton_self bag
  exact (List.mem_filter.1 hmem).1

theorem Fates.removed {id : ContextualId} (h : Fates live created destroyed owned)
    (hbag : live id = some bag) :
    Fates (fun x => if x = id then none else live x) created (destroyed ++ [bag]) owned := by
  obtain ⟨hid, hcreated⟩ := h.entry id bag hbag
  refine ⟨?_, ?_, h.apart, h.unowned⟩
  · intro x other hx
    split at hx
    · cases hx
    · exact h.entry x other hx
  · intro other hother
    by_cases heq : other = bag
    · subst heq
      have hends : endings destroyed other.inst = [] := by
        rcases h.fate other hother with hlive | hdead
        · exact hlive.2
        · rw [hid] at hdead
          exact absurd hbag hdead.1
      refine .inr ⟨?_, ?_⟩
      · rw [if_pos hid]
        intro hsome
        cases hsome
      · rw [endings_append, hends, if_pos rfl]
        rfl
    · have hinst : bag.inst ≠ other.inst :=
        fun hsame => heq (h.apart bag hcreated other hother hsame).symm
      have hlive : (if other.contextual.id = id then none else live other.contextual.id) =
          some other ↔ live other.contextual.id = some other := by
        split
        · rename_i hother
          rw [hother, hbag, Option.some_inj]
          constructor
          · intro hnone
            cases hnone
          · exact fun hsame => absurd hsame.symm heq
        · exact Iff.rfl
      rw [endings_append, if_neg hinst, List.append_nil, Ne, hlive]
      exact h.fate other hother

theorem Fates.installed (h : Fates live created destroyed owned)
    (hnone : live bag.contextual.id = none) (hcreated : ∀ other ∈ created, other.inst ≠ bag.inst)
    (hdestroyed : ∀ other ∈ destroyed, other.inst ≠ bag.inst) (howned : ¬ owned bag.inst) :
    Fates (fun x => if x = bag.contextual.id then some bag else live x) (created ++ [bag])
      destroyed owned := by
  have hcase : ∀ other, other ∈ created ++ [bag] ↔ other ∈ created ∨ other = bag := by
    intro other
    rw [List.mem_append, List.mem_singleton]
  constructor
  · intro x other hx
    split at hx
    · rename_i hid
      cases hx
      exact ⟨hid.symm, (hcase _).2 (.inr rfl)⟩
    · obtain ⟨hid, hmem⟩ := h.entry x other hx
      exact ⟨hid, (hcase _).2 (.inl hmem)⟩
  · intro other hother
    rcases (hcase other).1 hother with hmem | rfl
    · by_cases hid : other.contextual.id = bag.contextual.id
      · have hdead : live other.contextual.id ≠ some other := by
          rw [hid, hnone]
          intro hsome
          cases hsome
        have hne : (some bag) ≠ some other := by
          intro hsame
          cases hsame
          exact hcreated _ hmem rfl
        rcases h.fate other hmem with hlive | hends
        · exact absurd hlive.1 hdead
        · rw [if_pos hid]
          exact .inr ⟨hne, hends.2⟩
      · rw [if_neg hid]
        exact h.fate other hmem
    · exact .inl ⟨if_pos rfl, endings_eq_nil hdestroyed⟩
  · intro x hx y hy hsame
    rcases (hcase x).1 hx with hx' | hx' <;> rcases (hcase y).1 hy with hy' | hy'
    · exact h.apart x hx' y hy' hsame
    · rw [hy'] at hsame
      exact absurd hsame (hcreated x hx')
    · rw [hx'] at hsame
      exact absurd hsame.symm (hcreated y hy')
    · rw [hx', hy']
  · intro other hother
    rcases (hcase other).1 hother with hmem | rfl
    · exact h.unowned other hmem
    · exact howned

theorem Fates.discarded (h : Fates live created destroyed owned)
    (hnone : live bag.contextual.id = none) (hcreated : ∀ other ∈ created, other.inst ≠ bag.inst)
    (hdestroyed : ∀ other ∈ destroyed, other.inst ≠ bag.inst) (howned : ¬ owned bag.inst) :
    Fates live (created ++ [bag]) (destroyed ++ [bag]) owned := by
  have hinstalled := h.installed hnone hcreated hdestroyed howned
  have hremoved : Fates (fun x => if x = bag.contextual.id then none
      else if x = bag.contextual.id then some bag else live x) (created ++ [bag])
      (destroyed ++ [bag]) owned := hinstalled.removed (if_pos rfl)
  have hlive : (fun x => if x = bag.contextual.id then none
      else if x = bag.contextual.id then some bag else live x) = live := by
    funext x
    split
    · rename_i hx
      rw [hx, hnone]
    · rfl
  rw [hlive] at hremoved
  exact hremoved

/-- An entry is live exactly from its creation to its destruction. -/
theorem Fates.live_iff (h : Fates live created destroyed owned) :
    live bag.contextual.id = some bag ↔ bag ∈ created ∧ endings destroyed bag.inst = [] := by
  constructor
  · intro hlive
    have hmem := (h.entry _ bag hlive).2
    rcases h.fate bag hmem with hends | hdead
    · exact ⟨hmem, hends.2⟩
    · exact absurd hlive hdead.1
  · rintro ⟨hmem, hends⟩
    rcases h.fate bag hmem with hlive | hdead
    · exact hlive.1
    · cases hends.symm.trans hdead.2

theorem Fates.undestroyed {id : ContextualId} (h : Fates live created destroyed owned)
    (hbag : live id = some bag) : endings destroyed bag.inst = [] := by
  obtain ⟨hid, _⟩ := h.entry id bag hbag
  rw [← hid] at hbag
  exact (h.live_iff.1 hbag).2

theorem Fates.released (h : Fates live created destroyed owned) (hbag : owned bag.inst)
    {owned' : Instance → Prop} (howned : ∀ inst, owned' inst → owned inst) :
    Fates live created (destroyed ++ [bag]) owned' := by
  have hother : ∀ other ∈ created, bag.inst ≠ other.inst := by
    intro other hother hsame
    rw [hsame] at hbag
    exact h.unowned other hother hbag
  refine ⟨h.entry, ?_, h.apart, fun other hmem hown => h.unowned other hmem (howned _ hown)⟩
  intro other hmem
  rw [endings_append, if_neg (hother other hmem), List.append_nil]
  exact h.fate other hmem

end Fates

/-- The entries of a context after the first `start` events of the journal. -/
def Mapped (c : ScopeContext) (start : Nat) (s : Store σ) : Prop :=
  Fates (c.live s) (s.creations start) s.destructions s.Owns

section Mapped

variable {c : ScopeContext} {start : Nat} {s : Store σ}

theorem Mapped.congr {t : Store τ} (h : c.Mapped start s) (hlive : ∀ id, c.live t id = c.live s id)
    (hjournal : t.journal = s.journal)
    (howns : ∀ e, (t.episode e).dependents = (s.episode e).dependents) : c.Mapped start t := by
  have hlive' : c.live t = c.live s := funext hlive
  have howns' : t.Owns = s.Owns := by
    funext inst
    simp only [Store.Owns, howns]
  rw [Mapped, Store.creations, Store.destructions, hjournal, hlive', howns']
  exact h

theorem Mapped.noted (h : c.Mapped start s) (hs : start ≤ s.journal.size) {event : Event}
    (hcreation : event.creation? = none) (hdestruction : event.destruction? = none) :
    c.Mapped start (s.note event) := by
  rw [Mapped, Store.creations_note hs, Store.destructions_note, hcreation, hdestruction,
    Option.toList_none, List.append_nil, List.append_nil]
  exact h

theorem Mapped.removed {id : ContextualId} {bag : Bag} (h : c.Mapped start s)
    (hs : start ≤ s.journal.size) (hbag : c.live s id = some bag) :
    c.Mapped start ((c.takeEntry id s).2.note
      (.destroying bag.contextual bag.inst bag.episode)) := by
  have hlive : c.live ((c.takeEntry id s).2.note
      (.destroying bag.contextual bag.inst bag.episode)) =
        fun x => if x = id then none else c.live s x :=
    funext fun x => live_takeEntry id x s
  rw [Mapped, Store.creations_note (by exact hs), Store.destructions_note, hlive]
  have hfates := Fates.removed h hbag
  simp only [Event.creation?, Event.destruction?, Option.toList_none, Option.toList_some,
    List.append_nil]
  exact hfates

theorem Mapped.installed {unit : Contextual} {e : Episode} {inst : Instance} {n : Nat}
    (h : c.Mapped start s) (hs : start ≤ s.journal.size) (hfresh : ¬ s.Knows inst)
    (hnone : c.live s unit.id = none) (hholds : (s.context c).holds unit.id n = true) :
    c.Mapped start (c.fillCell unit.id n (.live ⟨unit, inst, e⟩)
      (s.note (.created unit e inst))) := by
  have hlive : c.live (c.fillCell unit.id n (.live ⟨unit, inst, e⟩)
      (s.note (.created unit e inst))) =
        fun x => if x = unit.id then some ⟨unit, inst, e⟩ else c.live s x := by
    funext x
    have hholds' : ((s.note (.created unit e inst)).context c).holds unit.id n = true := hholds
    rw [live_fillCell, hholds']
    simp only [and_true]
    rfl
  have hcreations : (c.fillCell unit.id n (.live ⟨unit, inst, e⟩)
      (s.note (.created unit e inst))).creations start = s.creations start ++ [⟨unit, inst, e⟩] :=
    Store.creations_note hs (.created unit e inst)
  have hdestructions : (c.fillCell unit.id n (.live ⟨unit, inst, e⟩)
      (s.note (.created unit e inst))).destructions = s.destructions :=
    (Store.destructions_note (.created unit e inst) s).trans (List.append_nil _)
  obtain ⟨hcreated, hdestroyed, howned⟩ := Store.unknown_cases start hfresh
  rw [Mapped, hlive, hcreations, hdestructions]
  exact @Fates.installed _ _ _ _ ⟨unit, inst, e⟩ h hnone
    hcreated hdestroyed howned

theorem Mapped.discarded {unit : Contextual} {e : Episode} {inst : Instance} {n : Nat}
    (h : c.Mapped start s) (hs : start ≤ s.journal.size) (hfresh : ¬ s.Knows inst)
    (hnone : c.live s unit.id = none) :
    c.Mapped start ((c.dropCell unit.id n (c.fillCell unit.id n (.live ⟨unit, inst, e⟩)
      (s.note (.created unit e inst)))).note (.destroying unit inst e)) := by
  have hlive : c.live ((c.dropCell unit.id n (c.fillCell unit.id n (.live ⟨unit, inst, e⟩)
      (s.note (.created unit e inst)))).note (.destroying unit inst e)) = c.live s := by
    funext x
    change c.live (c.dropCell unit.id n (c.fillCell unit.id n (.live ⟨unit, inst, e⟩)
      (s.note (.created unit e inst)))) x = c.live s x
    rw [live_dropCell, holds_fillCell, live_fillCell]
    split
    · rename_i hx
      rw [hx.1, hnone]
    · rfl
  have hcreations : ((c.dropCell unit.id n (c.fillCell unit.id n (.live ⟨unit, inst, e⟩)
      (s.note (.created unit e inst)))).note (.destroying unit inst e)).creations start =
        s.creations start ++ [⟨unit, inst, e⟩] := by
    have hsize : start ≤ (s.note (.created unit e inst)).journal.size := by
      rw [Store.note, Array.size_push]
      exact Nat.le_succ_of_le hs
    exact (Store.creations_note (by exact hsize) _).trans
      ((List.append_nil _).trans (Store.creations_note hs (.created unit e inst)))
  have hdestructions : ((c.dropCell unit.id n (c.fillCell unit.id n (.live ⟨unit, inst, e⟩)
      (s.note (.created unit e inst)))).note (.destroying unit inst e)).destructions =
        s.destructions ++ [⟨unit, inst, e⟩] := by
    have hnote : (s.note (.created unit e inst)).destructions = s.destructions :=
      (Store.destructions_note (.created unit e inst) s).trans (List.append_nil _)
    rw [Store.destructions_note]
    exact congrArg (· ++ [⟨unit, inst, e⟩]) hnote
  obtain ⟨hcreated, hdestroyed, howned⟩ := Store.unknown_cases start hfresh
  rw [Mapped, hlive, hcreations, hdestructions]
  exact @Fates.discarded _ _ _ _ ⟨unit, inst, e⟩ h hnone
    hcreated hdestroyed howned

/-- A dependent that is taken out of an episode and destroyed was created elsewhere. -/
theorem Mapped.released {e : Episode} {front back : List Dependent} {d : Dependent}
    (h : c.Mapped start s) (hs : start ≤ s.journal.size)
    (hd : (s.episode e).dependents = front ++ d :: back) :
    c.Mapped start ((e.relist (front ++ back) s).note
      (.destroying d.contextual d.inst e)) := by
  have hmem : d ∈ (s.episode e).dependents := by
    rw [hd]
    exact List.mem_append_right front List.mem_cons_self
  have howns : ∀ inst, ((e.relist (front ++ back) s).note
      (.destroying d.contextual d.inst e)).Owns inst → s.Owns inst := by
    rintro inst ⟨x, d', hd', hinst⟩
    change d' ∈ ((e.relist (front ++ back) s).episode x).dependents at hd'
    rw [Episode.relist, Episode.episode_update] at hd'
    split at hd'
    · refine ⟨e, d', ?_, hinst⟩
      rw [hd]
      rcases List.mem_append.1 hd' with hfront | hback
      · exact List.mem_append_left _ hfront
      · exact List.mem_append_right _ (List.mem_cons_of_mem d hback)
    · exact ⟨x, d', hd', hinst⟩
  rw [Mapped, Store.creations_note (by exact hs), Store.destructions_note]
  have hfates : Fates (c.live s) (s.creations start)
      (s.destructions ++ [⟨d.contextual, d.inst, e⟩])
      ((e.relist (front ++ back) s).note (.destroying d.contextual d.inst e)).Owns :=
    Fates.released h ⟨e, d, hmem, rfl⟩ howns
  simp only [Event.creation?, Event.destruction?, Option.toList_none, Option.toList_some,
    List.append_nil]
  exact hfates

end Mapped

end ScopeContext

end ContextualLifecycle
