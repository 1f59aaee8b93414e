import ContextualLifecycle.Proofs.Episode.Conservation
import ContextualLifecycle.Proofs.ScopeContext.Cells

namespace ContextualLifecycle

variable {σ τ : Type} {stuck : Prop} {host : Host τ}

namespace Episode

/-- An episode is left alone from one store to another: its record, its destructions, and the
entries that are kept with it. -/
structure Spared (x : Episode) (s : Store σ) (t : Store τ) : Prop where
  record : t.episode x = s.episode x
  destroyed : ∃ events, t.journal.toList = s.journal.toList ++ events ∧
    events.filterMap (Event.destroyedFor? x) = []
  entries : ∀ (c : ScopeContext) id bag, bag.episode = x →
    (c.live t id = some bag ↔ c.live s id = some bag)

/-- No entry is kept with an episode. -/
def Nowhere (x : Episode) (s : Store τ) : Prop :=
  ∀ (c : ScopeContext) id bag, c.live s id = some bag → bag.episode ≠ x

/-- An episode lists what it owns, is not being torn down, has no foreign one around it and may try
to destroy each dependent. -/
structure Record.Rests (r : Episode.Record) (owned : List Dependent) : Prop where
  dependents : r.dependents = owned
  idle : r.destroying = false
  outer : r.outer = none
  factor : 1 ≤ r.teardownFactor.toNat

section Spared

variable {x : Episode} {start : Nat} {s : Store σ} {t : Store τ}

theorem Spared.started (h : x.Spared s t) (hs : start ≤ s.journal.size) :
    start ≤ t.journal.size := by
  obtain ⟨events, hjournal, _⟩ := h.destroyed
  have hsize : t.journal.size = s.journal.size + events.length := by
    rw [← Array.length_toList, hjournal, List.length_append, Array.length_toList]
  rw [hsize]
  exact Nat.le_trans hs (Nat.le_add_right _ _)

theorem Spared.destroyedSince (h : x.Spared s t) (hs : start ≤ s.journal.size) :
    t.destroyedSince start x = s.destroyedSince start x := by
  obtain ⟨events, hjournal, hnone⟩ := h.destroyed
  rw [Store.destroyedSince, hjournal, List.drop_append_of_le_length (by simpa using hs),
    List.filterMap_append, hnone, List.append_nil]
  rfl

theorem Spared.nowhere (h : x.Spared s t) (hs : x.Nowhere s) : x.Nowhere t :=
  fun c id bag hbag heq => hs c id bag ((h.entries c id bag heq).1 hbag) heq

theorem Spared.refl (x : Episode) (s : Store σ) : x.Spared s s where
  record := rfl
  destroyed := ⟨[], (List.append_nil _).symm, rfl⟩
  entries _ _ _ _ := Iff.rfl

theorem Spared.note {event : Event} (hevent : event.destroyedFor? x = none) :
    x.Spared s (s.note event) where
  record := rfl
  destroyed := by
    refine ⟨[event], Array.toList_push, ?_⟩
    rw [List.filterMap_cons_none hevent, List.filterMap_nil]
  entries _ _ _ _ := Iff.rfl

theorem Spared.update {y : Episode} (hxy : x ≠ y) (f : Episode.Record → Episode.Record)
    (s : Store σ) : x.Spared s (y.update f s) where
  record := by
    rw [episode_update, if_neg hxy]
  destroyed := (Spared.refl x s).destroyed
  entries _ _ _ _ := Iff.rfl

end Spared

section Emptying

variable {x : Episode} {start : Nat} {s t : Store τ}

/-- A teardown of an episode in which some dependents were destroyed and the rest is listed. -/
structure Emptying (x : Episode) (start : Nat) (r : Episode.Record) (done rest : List Dependent)
    (s : Store τ) : Prop where
  started : start ≤ s.journal.size
  record : s.episode x = { r with dependents := rest, destroying := true }
  destroyed : s.destroyedSince start x = done
  nowhere : x.Nowhere s

variable {r : Episode.Record} {done rest : List Dependent} {d : Dependent}

theorem Emptying.spared (h : x.Emptying start r done rest s) (hst : x.Spared s t) :
    x.Emptying start r done rest t where
  started := hst.started h.started
  record := hst.record.trans h.record
  destroyed := (hst.destroyedSince h.started).trans h.destroyed
  nowhere := hst.nowhere h.nowhere

theorem Emptying.reported (h : x.Emptying start r done rest s) (content : Report) :
    x.Emptying start r done rest (s.report content) :=
  h.spared (Spared.note rfl)

theorem Emptying.taken (h : x.Emptying start r done (d :: rest) s) :
    x.Emptying start r (done ++ [d]) rest
      ((x.relist rest s).note (.destroying d.contextual d.inst x)) where
  started := by
    rw [Store.note, Array.size_push]
    exact Nat.le_succ_of_le h.started
  record := by
    rw [episode_note, episode_relist, h.record]
  destroyed := by
    rw [Store.destroyedSince_destroying (by exact h.started)]
    exact congrArg (· ++ [d]) h.destroyed
  nowhere := h.nowhere

/-- A destruction for an episode returns and leaves the episode alone. -/
def Returns (stuck : Prop) (host : Host τ) (x : Episode) : Prop :=
  ∀ unit inst s, Act.wp stuck (host.destroy unit inst x) (fun _ t => x.Spared s t) s

variable (hreturns : Returns stuck host x)

include hreturns

/-- The loop of a release destroys all that is listed, in order, if its budget allows. -/
theorem Emptying.drain (h : x.Emptying start r done rest s) (budget : Nat)
    (hbudget : rest.length ≤ budget) :
    Run.wp stuck (x.drain host budget)
      (fun o t => o.1 = false ∧ x.Emptying start r (done ++ rest) [] t) s := by
  induction budget generalizing s done rest with
  | zero =>
    have hrest : rest = [] := List.eq_nil_of_length_eq_zero (Nat.le_zero.1 hbudget)
    subst hrest
    simp only [Episode.drain, Run.wp_bind, Run.wp_get, Run.wp_pure, List.append_nil]
    refine ⟨?_, h⟩
    rw [h.record]
    rfl
  | succ budget ih =>
    simp only [Episode.drain, Run.wp_bind, Run.wp_modifyGet]
    cases rest with
    | nil =>
      have hnone : ∀ y ∈ (s.episode x).dependents, (fun _ => true) y = false := by
        rw [h.record]
        intro y hy
        cases hy
      rw [takeDependent_of_forall hnone, List.append_nil]
      exact ⟨rfl, h⟩
    | cons d rest =>
      have hlist : (s.episode x).dependents = d :: rest := by
        rw [h.record]
      have hbudget' : rest.length ≤ budget := Nat.le_of_succ_le_succ hbudget
      have hall : done ++ d :: rest = done ++ [d] ++ rest := by simp
      have hdestroyed : Act.wp stuck (d.contextual.destroy host d.inst x)
          (fun _ t => x.Emptying start r (done ++ [d]) rest t) (x.relist rest s) :=
        Contextual.wp_destroy_of h.taken ((hreturns _ _ _).mono fun _ t ht => h.taken.spared ht)
      rw [takeDependent_head hlist, hall]
      simp only [Run.wp_bind, Run.wp_run]
      apply hdestroyed.mono
      intro answer t ht
      cases answer with
      | ok _ => exact ih ht hbudget'
      | error error =>
        simp only [Run.wp_bind, Run.wp_modify]
        exact (ih (ht.reported _) hbudget').mono fun o u hu => hu

theorem release_destroys {owned : List Dependent} (hstart : start ≤ s.journal.size)
    (hrests : (s.episode x).Rests owned) (hnowhere : x.Nowhere s)
    (hlength : owned.length < UInt64.size) :
    Act.wp stuck (x.release host) (fun _ t => start ≤ t.journal.size ∧ x.Nowhere t ∧
      t.destroyedSince start x = s.destroyedSince start x ++ owned) s := by
  obtain ⟨howned, hidle, houter, hfactor⟩ := hrests
  apply wp_release_of_unwrapped
  cases hempty : owned with
  | nil =>
    rw [wp_removeAllDependents_of_nil (howned.trans hempty), List.append_nil]
    exact ⟨houter, hstart, hnowhere, rfl⟩
  | cons d rest =>
    have hheld : (s.episode x).dependents ≠ [] := by
      rw [howned, hempty]
      exact List.cons_ne_nil d rest
    have hemptying : x.Emptying start (s.episode x) (s.destroyedSince start x) owned
        (x.setDestroying true s) := by
      refine ⟨hstart, ?_, rfl, hnowhere⟩
      rw [episode_setDestroying, ← howned]
    have hbudget : owned.length ≤ (s.episode x).budget := by
      have hscaled : owned.length * 1 ≤ owned.length * (s.episode x).teardownFactor.toNat :=
        Nat.mul_le_mul_left _ hfactor
      rw [Record.budget, howned, Record.maxBudget]
      omega
    apply wp_removeAllDependents hidle hheld
    apply (hemptying.drain hreturns _ hbudget).mono
    rintro ⟨exhausted, failures⟩ t ⟨rfl, ht⟩
    constructor
    · intro hexhausted
      cases hexhausted
    · intro _
      have houter' : ((x.setDestroying false t).episode x).outer = none := by
        rw [episode_setDestroying, ht.record]
        exact houter
      rw [← hempty]
      exact ⟨houter', ht.started, ht.nowhere, ht.destroyed⟩

end Emptying

end Episode

end ContextualLifecycle
