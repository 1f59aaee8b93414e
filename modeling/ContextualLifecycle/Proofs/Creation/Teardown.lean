import ContextualLifecycle.Proofs.Creation.Operations
import ContextualLifecycle.Proofs.Episode.Budget
import Mathlib.Data.List.Nodup

namespace ContextualLifecycle

variable {σ : Type} {stuck : Prop} {host : Host σ}

namespace Episode

variable {e : Episode} {start : Nat} {held : List Dependent} {s t : Store σ}

/-- An episode that is not wrapped around another one and is not being torn down. -/
structure Idle (e : Episode) (s : Store σ) : Prop where
  issued : e.number < s.nextEpisode
  unwrapped : (s.episode e).outer = none
  idle : (s.episode e).destroying = false
  orderly : (s.episode e).Orderly

theorem Ledger.idle (h : e.Ledger start held false s) : e.Idle s :=
  ⟨h.issued, h.unwrapped, h.destroying, h.orderly⟩

theorem Idle.ledger (h : e.Idle s) :
    e.Ledger s.journal.size (s.episode e).dependents false s where
  issued := h.issued
  unwrapped := h.unwrapped
  destroying := h.idle
  orderly := h.orderly
  started := Nat.le_refl _
  accounted := by
    rw [standing, Store.destroyedSince_size]
    exact List.Subperm.refl _

/-- Each destruction that the loop of a teardown comes to returns. -/
def Completes (e : Episode) (host : Host σ) (s : Store σ) : Prop :=
  ∀ pops t d rest, Pops host e s pops t → (t.episode e).dependents = d :: rest →
    ((d.contextual.destroy host d.inst e).run.run (e.relist rest t)).isSome = true

theorem drain_returns (budget : Nat) (h : e.Completes host s) :
    Run.wp False (e.drain host budget) (fun _ _ => True) s := by
  induction budget generalizing s with
  | zero => exact trivial
  | succ budget ih =>
    simp only [Episode.drain, Run.wp_bind, Run.wp_modifyGet]
    cases hd : (s.episode e).dependents with
    | nil =>
      rw [takeDependent_of_forall (by simp [hd])]
      exact trivial
    | cons d rest =>
      obtain ⟨⟨r, t⟩, hrun⟩ := Option.isSome_iff_exists.1 (h [] s d rest (.stop s) hd)
      rw [takeDependent_head hd]
      simp only [Run.wp_bind, Run.wp_run, Act.wp_of_run hrun]
      cases r with
      | ok _ =>
        exact ih fun pops u d' rest' hpops => h _ u d' rest' (.destroyed hd hrun hpops)
      | error error =>
        simp only [Run.wp_bind, Run.wp_modify]
        exact (ih fun pops u d' rest' hpops => h _ u d' rest' (.failed hd hrun hpops)).mono
          fun _ _ _ => trivial

theorem DrainKeeps.and {P Q : Store σ → Prop} (hP : DrainKeeps stuck host e P)
    (hQ : DrainKeeps stuck host e Q) : DrainKeeps stuck host e fun s => P s ∧ Q s where
  taken s front d back hs hd := ⟨hP.taken s front d back hs.1 hd, hQ.taken s front d back hs.2 hd⟩
  reported s content hs := ⟨hP.reported s content hs.1, hQ.reported s content hs.2⟩
  destroy unit inst s hs := (hP.destroy unit inst s hs.1).and (hQ.destroy unit inst s hs.2)

theorem drainKeeps_count {d : Dependent} {k : Nat} (hdestroy : ∀ unit inst, Act.Keeps stuck
      (fun s => start ≤ s.journal.size ∧ (e.standing start s).count d = k)
      (host.destroy unit inst e)) :
    DrainKeeps stuck host e fun s =>
      start ≤ s.journal.size ∧ (e.standing start s).count d = k where
  taken s front x back hs hx := by
    refine ⟨Nat.le_trans hs.1 ?_, ((standing_taken hs.1 hx).count_eq d).trans hs.2⟩
    simp [Store.note, relist, update, Store.setEpisode]
  reported s content hs := by
    refine ⟨Nat.le_trans hs.1 (by simp [Store.report, Store.note]), ?_⟩
    rw [standing, Store.report, Store.destroyedSince_note_of_none hs.1 rfl, episode_note]
    exact hs.2
  destroy := hdestroy

theorem Distinct.nodup {held : List Dependent} (h : Distinct held) : held.Nodup :=
  h.imp fun {a b} hne heq => hne (by rw [heq]; exact ⟨rfl, rfl⟩)

/-- Destroy callbacks leave the records of the episode alone. -/
def Secluded (e : Episode) (host : Host σ) (start : Nat) : Prop :=
  ∀ unit inst gone rest, Act.Keeps True (fun s => start ≤ s.journal.size ∧
    s.destroyedSince start e = gone ∧ (s.episode e).dependents = rest) (host.destroy unit inst e)

theorem Secluded.destroyed (h : e.Secluded host start) (hs : start ≤ s.journal.size) {d : Dependent}
    {rest : List Dependent} :
    Act.wp True (d.contextual.destroy host d.inst e) (fun _ t => start ≤ t.journal.size ∧
      t.destroyedSince start e = s.destroyedSince start e ++ [d] ∧
      (t.episode e).dependents = rest) (e.relist rest s) := by
  let noted := (e.relist rest s).note (.destroying d.contextual d.inst e)
  have hnoted : start ≤ noted.journal.size ∧
      noted.destroyedSince start e = s.destroyedSince start e ++ [d] ∧
      (noted.episode e).dependents = rest := by
    refine ⟨Nat.le_trans hs (by simp [noted, Store.note, relist, update, Store.setEpisode]), ?_, ?_⟩
    · exact Store.destroyedSince_destroying (by exact hs) ..
    · rw [episode_note, episode_relist]
  exact Contextual.wp_destroy_of hnoted (h _ _ _ _ _ hnoted)

theorem Pops.in_order {pops : List Popped} (hpops : Pops host e s pops t)
    (h : e.Secluded host start) (hs : start ≤ s.journal.size) :
    (s.episode e).dependents = pops.map (·.dependent) ++ (t.episode e).dependents ∧
      t.destroyedSince start e = s.destroyedSince start e ++ pops.map (·.dependent) := by
  induction hpops with
  | stop s =>
    rw [List.map_nil, List.nil_append, List.append_nil]
    exact ⟨rfl, rfl⟩
  | @destroyed s t u d rest pops hd hrun hpops ih =>
    obtain ⟨ht, hgone, hrest⟩ := (Act.wp_of_run hrun).1 (h.destroyed hs)
    obtain ⟨hlist, hdestroyed⟩ := ih ht
    rw [hd, hdestroyed, hgone, ← hrest, hlist]
    simp
  | @failed s t u d rest error pops hd hrun hpops ih =>
    obtain ⟨ht, hgone, hrest⟩ := (Act.wp_of_run hrun).1 (h.destroyed hs)
    obtain ⟨hlist, hdestroyed⟩ := ih (Nat.le_trans ht (by simp [Store.report, Store.note]))
    rw [Store.report, Store.destroyedSince_note_of_none ht rfl] at hdestroyed
    change (t.episode e).dependents = _ at hlist
    rw [hd, hdestroyed, hgone, ← hrest, hlist]
    simp

/-- A budget of one attempt for each record is enough for a list to which nothing is added. -/
theorem Drained.in_order {budget : Nat} {pops : List Popped} {exhausted : Bool}
    (hdrained : Drained host e budget s pops exhausted t) (h : e.Secluded host start)
    (hs : start ≤ s.journal.size) (hbudget : (s.episode e).dependents.length ≤ budget) :
    (t.episode e).dependents = [] ∧
      t.destroyedSince start e = s.destroyedSince start e ++ (s.episode e).dependents := by
  obtain ⟨hlist, hdestroyed⟩ := hdrained.popped.in_order h hs
  have hempty : (t.episode e).dependents = [] := by
    cases exhausted with
    | false => exact hdrained.emptied rfl
    | true =>
      have hlength := congrArg List.length hlist
      rw [List.length_append, List.length_map, (hdrained.exhausted_iff.1 rfl).1] at hlength
      exact List.eq_nil_of_length_eq_zero (by omega)
  rw [hempty, List.append_nil] at hlist
  rw [hdestroyed, hlist]
  exact ⟨hempty, rfl⟩

/-- The list and the destroyed records are those at the end of the loop of a teardown. -/
def TornDown (e : Episode) (host : Host σ) (start : Nat) (s t : Store σ) : Prop :=
  ∃ pops exhausted last,
    Drained host e (s.episode e).budget (e.setDestroying true s) pops exhausted last ∧
      (t.episode e).dependents = (last.episode e).dependents ∧
      t.destroyedSince start e = last.destroyedSince start e

theorem Drained.tornDown {pops : List Popped} {exhausted : Bool}
    (h : Drained host e (s.episode e).budget (e.setDestroying true s) pops exhausted t) :
    e.TornDown host start s (e.setDestroying false t) := by
  refine ⟨pops, exhausted, t, h, ?_, rfl⟩
  rw [episode_setDestroying]

theorem TornDown.of_nil (hnil : (s.episode e).dependents = []) : e.TornDown host start s s := by
  have hlist : ((e.setDestroying true s).episode e).dependents = [] := by
    rw [episode_setDestroying]
    exact hnil
  exact ⟨[], false, e.setDestroying true s,
    ⟨.stop _, Nat.zero_le _, by simp [hnil], fun _ => hlist⟩, hnil.trans hlist.symm, rfl⟩

theorem TornDown.reported (h : e.TornDown host start s t) (ht : start ≤ t.journal.size)
    (content : Report) : e.TornDown host start s (t.report content) := by
  obtain ⟨pops, exhausted, last, hdrained, hlist, hgone⟩ := h
  refine ⟨pops, exhausted, last, hdrained, hlist, ?_⟩
  rw [Store.report, Store.destroyedSince_note_of_none ht rfl, hgone]

theorem TornDown.emptied (h : e.TornDown host start s t) :
    (t.episode e).dependents = [] ∨
      ∃ pops last, Drained host e (s.episode e).budget (e.setDestroying true s) pops true last := by
  obtain ⟨pops, exhausted, last, hdrained, hlist, _⟩ := h
  cases exhausted with
  | false => exact .inl (hlist.trans (hdrained.emptied rfl))
  | true => exact .inr ⟨pops, last, hdrained⟩

theorem TornDown.in_order (h : e.TornDown host s.journal.size s t) (hidle : e.Idle s)
    (hsize : (s.episode e).dependents.length < UInt64.size)
    (hsecluded : e.Secluded host s.journal.size) :
    (t.episode e).dependents = [] ∧
      t.destroyedSince s.journal.size e = (s.episode e).dependents := by
  obtain ⟨pops, exhausted, last, hdrained, hlist, hgone⟩ := h
  have hstart : ((e.setDestroying true s).episode e).dependents = (s.episode e).dependents := by
    rw [episode_setDestroying]
  have hbudget : ((e.setDestroying true s).episode e).dependents.length ≤ (s.episode e).budget := by
    rw [hstart]
    exact Nat.le_min.2 ⟨Nat.le_mul_of_pos_right _ hidle.orderly.factor, Nat.le_sub_one_of_lt hsize⟩
  obtain ⟨hnil, hall⟩ := hdrained.in_order hsecluded (Nat.le_refl _) hbudget
  refine ⟨hlist.trans hnil, ?_⟩
  rw [hgone, hall, hstart]
  have hbefore : (e.setDestroying true s).destroyedSince s.journal.size e = [] :=
    Store.destroyedSince_size e s
  rw [hbefore, List.nil_append]

end Episode

namespace Attempt

variable {a : Attempt} {g : Stage} {s : Store σ}

theorem At.wp_release (hs : a.At g s) (htorn : g.torn = false) {Q : Store σ → Prop}
    (hnil : (s.episode a.episode).dependents = [] → Q s)
    (hdrain : Run.wp stuck (a.episode.drain host (s.episode a.episode).budget)
      (fun _ t => a.At { g with torn := true } t ∧
        (∀ content, Q (a.episode.setDestroying false (t.report content))) ∧
        Q (a.episode.setDestroying false t)) (a.episode.setDestroying true s)) :
    Act.wp stuck (a.episode.release host) (fun _ t => Q t) s := by
  apply Episode.wp_release_of_unwrapped
  by_cases hheld : (s.episode a.episode).dependents = []
  · exact (Episode.wp_removeAllDependents_of_nil hheld).2 ⟨hs.books.unwrapped, hnil hheld⟩
  · apply Episode.wp_removeAllDependents (hs.books.destroying.trans htorn) hheld
    apply hdrain.mono
    intro o t ht
    obtain ⟨ht, hreported, hfinished⟩ := ht
    exact ⟨fun _ => ⟨((ht.noted _).flagged false).books.unwrapped, hreported _⟩,
      fun _ => ⟨(ht.flagged false).books.unwrapped, hfinished⟩⟩

variable (h : ∀ g, host.Keeps True (a.At g))

include h

theorem At.release_keeps (hs : a.At g s) (htorn : g.torn = false) {Extra : Store σ → Prop}
    (hdrain : Episode.DrainKeeps True host a.episode Extra)
    (hflag : ∀ raised t, Extra t → Extra (a.episode.setDestroying raised t)) (hextra : Extra s) :
    Act.wp True (a.episode.release host) (fun _ t => Extra t) s := by
  refine hs.wp_release htorn (fun _ => hextra) ?_
  have hboth := (drainKeeps h { g with torn := true } a.episode).and hdrain
  apply (hboth.drain _ _ ⟨hs.flagged true, hflag true s hextra⟩).mono
  intro o t ht
  exact ⟨ht.1, fun content => hflag false _ (hdrain.reported t content ht.2), hflag false t ht.2⟩

/-- The release returns to the stage, with what is left of the loop that it ran. -/
theorem At.release_tornDown (hs : a.At g s) (htorn : g.torn = false)
    (hreturns : a.episode.Completes host (a.episode.setDestroying true s)) :
    Act.wp False (a.episode.release host)
      (fun _ t => a.At g t ∧ a.episode.TornDown host a.start s t) s := by
  have hstage : g = { g with torn := false } := by rw [← htorn]
  refine hs.wp_release htorn (fun hnil => ⟨hs, .of_nil hnil⟩) ?_
  have hloop := (drainKeeps h { g with torn := true } a.episode).drain_pops
    (s.episode a.episode).budget _ (hs.flagged true)
  apply (hloop.returns (Episode.drain_returns _ hreturns)).mono
  intro o t ht
  obtain ⟨ht, pops, hdrained, _⟩ := ht
  rw [hstage]
  have hdown : a.episode.TornDown host a.start s (a.episode.setDestroying false t) :=
    hdrained.tornDown
  refine ⟨ht, fun content => ⟨(ht.noted _).flagged false, ?_⟩, ht.flagged false, hdown⟩
  exact hdown.reported ht.books.started content

end Attempt

end ContextualLifecycle
