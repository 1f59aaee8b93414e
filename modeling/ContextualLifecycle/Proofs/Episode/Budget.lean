import ContextualLifecycle.Proofs.Episode.Conservation

namespace ContextualLifecycle

variable {σ : Type} {stuck : Prop} {host : Host σ}

namespace Episode

/-- A record that the loop of a release popped, with what its destruction gave. -/
structure Popped where
  dependent : Dependent
  outcome : Except LifecycleError Unit

def failuresOf : List Popped → List LifecycleError
  | [] => []
  | ⟨_, .ok ()⟩ :: pops => failuresOf pops
  | ⟨_, .error error⟩ :: pops => error :: failuresOf pops

/-- The loop of a release: each record is popped from the front of the list and destroyed, and a
failure is reported. -/
inductive Pops (host : Host σ) (e : Episode) : Store σ → List Popped → Store σ → Prop where
  | stop (s) : Pops host e s [] s
  | destroyed {s t u d rest pops} (hs : (s.episode e).dependents = d :: rest)
      (hd : (d.contextual.destroy host d.inst e).run.run (e.relist rest s) = some (.ok (), t))
      (ht : Pops host e t pops u) : Pops host e s (⟨d, .ok ()⟩ :: pops) u
  | failed {s t u d rest error pops} (hs : (s.episode e).dependents = d :: rest)
      (hd : (d.contextual.destroy host d.inst e).run.run (e.relist rest s) =
        some (.error error, t))
      (ht : Pops host e (t.report (.dependentFailed e d.contextual.id error)) pops u) :
      Pops host e s (⟨d, .error error⟩ :: pops) u

/-- What a loop with a budget popped, and how it ended. -/
structure Drained (host : Host σ) (e : Episode) (budget : Nat) (s : Store σ) (pops : List Popped)
    (exhausted : Bool) (t : Store σ) : Prop where
  popped : Pops host e s pops t
  within : pops.length ≤ budget
  exhausted_iff : exhausted = true ↔ pops.length = budget ∧ (t.episode e).dependents ≠ []
  emptied : exhausted = false → (t.episode e).dependents = []

theorem DrainKeeps.drain_pops {e : Episode} {Inv : Store σ → Prop}
    (h : DrainKeeps stuck host e Inv) (budget : Nat) (s : Store σ) (hs : Inv s) :
    Run.wp stuck (e.drain host budget)
      (fun o t => Inv t ∧
        ∃ pops, Drained host e budget s pops o.1 t ∧ o.2 = failuresOf pops) s := by
  induction budget generalizing s with
  | zero =>
    simp only [Episode.drain, Run.wp_bind, Run.wp_get, Run.wp_pure]
    -- Without attempts left the list alone tells whether the loop gave up.
    refine ⟨hs, [], ⟨.stop s, Nat.le_refl _, ?_, ?_⟩, rfl⟩
    · simp
    · simp
  | succ budget ih =>
    simp only [Episode.drain, Run.wp_bind, Run.wp_modifyGet]
    cases hd : (s.episode e).dependents with
    | nil =>
      rw [takeDependent_of_forall (by simp [hd])]
      exact ⟨hs, [], ⟨.stop s, Nat.zero_le _, by simp, fun _ => hd⟩, rfl⟩
    | cons d rest =>
      rw [takeDependent_head hd]
      simp only [Run.wp_bind, Run.wp_run]
      apply (h.destroyed [] hs hd).run.mono
      intro r t ht
      obtain ⟨hrun, ht⟩ := ht
      cases r with
      | ok _ =>
        apply (ih t ht).mono
        intro o u hu
        obtain ⟨hu, pops, hpops, hfailures⟩ := hu
        refine ⟨hu, _, ⟨.destroyed hd hrun hpops.popped, ?_, ?_, hpops.emptied⟩, hfailures⟩
        · exact Nat.succ_le_succ hpops.within
        · rw [hpops.exhausted_iff, List.length_cons, Nat.add_right_cancel_iff]
      | error error =>
        simp only [Run.wp_bind, Run.wp_modify]
        apply (ih _ (h.reported _ _ ht)).mono
        intro o u hu
        obtain ⟨hu, pops, hpops, hfailures⟩ := hu
        refine ⟨hu, _, ⟨.failed hd hrun hpops.popped, ?_, ?_, hpops.emptied⟩, ?_⟩
        · exact Nat.succ_le_succ hpops.within
        · rw [hpops.exhausted_iff, List.length_cons, Nat.add_right_cancel_iff]
        · exact congrArg (error :: ·) hfailures

theorem wp_release_of_destroying {e : Episode} {s : Store σ}
    {Q : Except LifecycleError Unit → Store σ → Prop} (hs : (s.episode e).destroying = true)
    (houter : (s.episode e).outer = none) :
    Act.wp stuck (e.release host) Q s ↔ Q (.ok ()) s := by
  simp [Episode.release, Episode.removeAllDependents, hs, houter]

theorem Record.register_eq (r : Episode.Record) (unit : Contextual) (inst : Instance) :
    r.register unit inst = { r with dependents := (r.register unit inst).dependents } := by
  rw [register]
  split <;> rfl

/-- The state of a release that is running, for an episode with a record `r`: only the list changes,
and releases that were called meanwhile did nothing. -/
structure Underway (e : Episode) (start : Nat) (held : List Dependent) (r : Episode.Record)
    (s : Store (Watched e.interface σ)) : Prop where
  balanced : e.Balanced start held s
  record : ∃ dependents, s.episode e = { r with dependents, destroying := true }
  reentered : ∀ before answer after,
    (.call Call.release before answer after : Sighting e.interface) ∈ s.seen →
    answer = .ok () ∧ after = before

variable {e : Episode} {start : Nat} {held : List Dependent} {r : Episode.Record}

theorem Underway.drainKeeps {supply : Supply σ}
    {during : Callback → Act (Watched e.interface σ) Unit}
    (hduring : ∀ cb, Act.Keeps stuck (e.Underway start held r) (during cb)) :
    DrainKeeps stuck (supply.watched.host during) e (e.Underway start held r) where
  taken s front d back h hd := by
    obtain ⟨dependents, hrecord⟩ := h.record
    refine ⟨h.balanced.taken hd, ⟨front ++ back, ?_⟩, h.reentered⟩
    rw [episode_note, episode_relist, hrecord]
  reported s content h := ⟨h.balanced.noted rfl, h.record, h.reentered⟩
  destroy unit inst := hduring _

theorem Underway.sawOther {s : Store (Watched e.interface σ)} {op : Episode.Call}
    (hop : op ≠ .release) {before : Store (Watched e.interface σ)}
    {answer : Except LifecycleError op.Answer}
    (hbalanced : e.Balanced start held
      (s.saw (.call (op : e.interface.Call) before.bare answer s.bare)))
    (hrecord : ∃ dependents, s.episode e = { r with dependents, destroying := true })
    (hreentered : ∀ before answer after,
      (.call Call.release before answer after : Sighting e.interface) ∈ s.seen →
      answer = .ok () ∧ after = before) :
    e.Underway start held r
      (s.saw (.call (op : e.interface.Call) before.bare answer s.bare)) := by
  refine ⟨hbalanced, hrecord, fun b a t hmem => ?_⟩
  rw [Store.seen_saw, List.mem_cons] at hmem
  refine hreentered b a t (hmem.resolve_left fun heq => ?_)
  cases heq
  exact hop rfl

/-- Every program that runs during a release leaves it running. -/
theorem Underway.run (houter : r.outer = none) (supply : Supply σ) (p : Program e.interface σ) :
    Act.Keeps stuck (e.Underway start held r) (p.run supply) := by
  refine p.run_keeps supply (fun s h => ?_) (fun own s h => ?_) fun during hduring op s h => ?_
  · refine ⟨h.balanced.sawMoment, h.record, fun b a t hmem => ?_⟩
    rw [Store.sawMoment, Store.seen_saw, List.mem_cons] at hmem
    exact h.reentered b a t (hmem.resolve_left (by simp))
  · have hnow : e.Tallied start held s.seen (s.keep own) :=
      ⟨h.balanced.now.accounted, h.balanced.now.distinct⟩
    exact ⟨⟨h.balanced.started, hnow, h.balanced.moments, h.balanced.refusals⟩, h.record,
      h.reentered⟩
  · have hkeeps : DrainKeeps stuck (supply.watched.host during) e (e.Underway start held r) :=
      Underway.drainKeeps hduring
    obtain ⟨dependents, hrecord⟩ := h.record
    cases op with
    | add unit inst =>
      refine Underway.sawOther (by simp) (h.balanced.sawAdd unit inst (.ok ())) ?_ ?_
      · cases inst with
        | none => exact ⟨dependents, hrecord⟩
        | some inst =>
          refine ⟨((s.episode e).register unit inst).dependents, ?_⟩
          rw [addDependent, episode_update_self, Record.register_eq, hrecord]
      · cases inst <;> exact h.reentered
    | contains unit inst =>
      exact Underway.sawOther (by simp)
        (h.balanced.sawCall (.contains unit inst) (by simp) s _) h.record h.reentered
    | destroy inst =>
      exact (hkeeps.destroyDependent inst s h).mono fun answer t ht =>
        Underway.sawOther (by simp)
          (ht.balanced.sawCall (.destroy inst) (by simp) s answer) ht.record ht.reentered
    | release =>
      refine (wp_release_of_destroying (by rw [hrecord]) (by rw [hrecord]; exact houter)).2 ?_
      refine ⟨h.balanced.sawCall .release (by simp) s (.ok ()), h.record, ?_⟩
      intro b a t hmem
      simp only [Store.sawCall, Store.seen_saw, List.mem_cons] at hmem
      rcases hmem with hmem | hmem
      · cases hmem
        exact ⟨rfl, rfl⟩
      · exact h.reentered b a t hmem

theorem Underway.watched (e : Episode) (s : Store σ) :
    e.Underway s.journal.size (s.episode e).dependents (s.episode e)
      (e.setDestroying true (s.watched : Store (Watched e.interface σ))) where
  balanced := (Balanced.watched e s).flagged true
  record := ⟨(s.episode e).dependents, episode_setDestroying true _⟩
  reentered _ _ _ h := by
    simp [Store.seen, setDestroying, update, Store.setEpisode, Store.watched, Store.among] at h

/-- What becomes of a release with a limit that starts from `s`, pops some records up to the store
`last`, and returns with `r` in the store `t`. -/
structure Settled (host : Host (Watched e.interface σ)) (limit : Nat) (s : Store σ)
    (pops : List Popped) (last : Store (Watched e.interface σ)) (r : Except LifecycleError Unit)
    (t : Store (Watched e.interface σ)) : Prop where
  popped : Pops host e (e.setDestroying true s.watched) pops last
  within : pops.length ≤ limit
  remaining : (t.episode e).dependents = (last.episode e).dependents
  /-- The listed records are the undestroyed ones. -/
  undestroyed : ((s.episode e).dependents ++ e.accepted t.seen).Perm
    ((t.episode e).dependents ++ t.destroyedSince s.journal.size e)
  gaveUp_iff : (∃ owner n, r = .error (.teardownLoop owner n)) ↔
    pops.length = limit ∧ (last.episode e).dependents ≠ []
  gaveUp : pops.length = limit → (last.episode e).dependents ≠ [] →
    r = .error (.teardownLoop ((s.episode e).ownerName e) limit)
  finished : ¬ (pops.length = limit ∧ (last.episode e).dependents ≠ []) →
    (t.episode e).dependents = [] ∧
      r = if (failuresOf pops).isEmpty then .ok ()
        else .error (.teardown ((s.episode e).ownerName e) (failuresOf pops))
  /-- Releases that were called meanwhile succeeded and changed nothing. -/
  reentered : ∀ before answer after,
    (.call Call.release before answer after : Sighting e.interface) ∈ t.seen →
    answer = .ok () ∧ after = before
  /-- No teardown is running any more, and the factor of the budget is the same. -/
  record : t.episode e = { s.episode e with dependents := (t.episode e).dependents }

/-- What a release returns with, once its loop popped some records and ended. -/
def verdict (owner : String) (limit : Nat) (exhausted : Bool) (pops : List Popped) :
    Except LifecycleError Unit :=
  if exhausted then .error (.teardownLoop owner limit)
  else if (failuresOf pops).isEmpty then .ok () else .error (.teardown owner (failuresOf pops))

/-- The loop of a release decides what becomes of it. -/
theorem Drained.settled {host : Host (Watched e.interface σ)} {limit : Nat} {s : Store σ}
    {pops : List Popped} {exhausted : Bool} {last t : Store (Watched e.interface σ)}
    {r : Except LifecycleError Unit}
    (hpops : Drained host e limit (e.setDestroying true s.watched) pops exhausted last)
    (hlast : e.Underway s.journal.size (s.episode e).dependents (s.episode e) last)
    (hidle : (s.episode e).destroying = false)
    (hbooks : e.Balanced s.journal.size (s.episode e).dependents t)
    (hseen : t.seen = last.seen)
    (hlowered : t.episode e = { last.episode e with destroying := false })
    (hr : r = verdict ((s.episode e).ownerName e) limit exhausted pops) :
    e.Settled host limit s pops last r t := by
  have hremaining : (t.episode e).dependents = (last.episode e).dependents := by rw [hlowered]
  have hloop : (∃ owner n, r = .error (.teardownLoop owner n)) ↔ exhausted = true := by
    rw [hr, verdict]
    cases exhausted with
    | true => simp
    | false =>
      simp only [Bool.false_eq_true, ↓reduceIte, iff_false, not_exists]
      intro owner n
      split <;> simp
  refine ⟨hpops.popped, hpops.within, hremaining, hbooks.now.accounted,
    hloop.trans hpops.exhausted_iff, fun hlen hleft => ?_, fun hnot => ?_, ?_, ?_⟩
  · rw [hr, verdict, if_pos (hpops.exhausted_iff.2 ⟨hlen, hleft⟩)]
  · have hdone : exhausted = false := by
      rw [← Bool.not_eq_true]
      exact fun h => hnot (hpops.exhausted_iff.1 h)
    refine ⟨hremaining ▸ hpops.emptied hdone, ?_⟩
    rw [hr, verdict, if_neg (by simp [hdone])]
  · rw [hseen]
    exact hlast.reentered
  · obtain ⟨dependents, hrecord⟩ := hlast.record
    rw [hlowered, hrecord, ← hidle]

/-- A release terminates within its budget. For an episode that holds dependents, is not wrapped
around a foreign one and is not being torn down, it returns whatever programs the destroy callbacks
run; the factor of a budget is at least one. -/
theorem release_settles (supply : Supply σ) (e : Episode)
    (meanwhile : Callback → Program e.interface σ) (s : Store σ)
    (hheld : (s.episode e).dependents ≠ []) (houter : (s.episode e).outer = none)
    (hidle : (s.episode e).destroying = false) :
    let host := supply.hostOf meanwhile
    let limit :=
      min ((s.episode e).dependents.length * (s.episode e).teardownFactor.toNat) (UInt64.size - 1)
    (∀ contextual outer factor (s₀ : Store σ), ((Episode.new contextual outer factor s₀).2.episode
      (Episode.new contextual outer factor s₀).1).teardownFactor = max factor 1) ∧
    ∃ r t pops last, (e.release host).run.run s.watched = some (r, t) ∧
      e.Settled host limit s pops last r t := by
  intro host limit
  refine ⟨fun contextual outer factor s₀ =>
    congrArg Episode.Record.teardownFactor (episode_new contextual outer factor s₀), ?_⟩
  have hkeeps : DrainKeeps False host e
      (e.Underway s.journal.size (s.episode e).dependents (s.episode e)) :=
    Underway.drainKeeps fun cb => Underway.run houter supply (meanwhile cb)
  suffices h : Act.wp False (e.release host) (fun r t => ∃ pops last,
      e.Settled host limit s pops last r t) s.watched by
    obtain ⟨r, t, hrun, pops, last, h⟩ := Act.wp_false_iff.1 h
    exact ⟨r, t, pops, last, hrun, h⟩
  apply wp_release_of_unwrapped
  apply wp_removeAllDependents (s := s.watched) hidle hheld
  apply (hkeeps.drain_pops limit _ (Underway.watched e s)).mono
  rintro ⟨exhausted, failures⟩ last ⟨hunder, pops, hpops, rfl⟩
  obtain ⟨dependents, hnow⟩ := hunder.record
  have howner : (last.episode e).ownerName e = (s.episode e).ownerName e := by
    rw [hnow]
    rfl
  have hforeign : (last.episode e).outer = none := by
    rw [hnow]
    exact houter
  constructor
  · rintro rfl
    have hlowered := episode_setDestroying (e := e) false
      (last.report (.teardownDiverged e ((last.episode e).ownerName e) (s.episode e).budget))
    have hbooks : e.Balanced s.journal.size (s.episode e).dependents (e.setDestroying false
        (last.report (.teardownDiverged e ((last.episode e).ownerName e) (s.episode e).budget))) :=
      (hunder.balanced.noted rfl).flagged false
    refine ⟨?_, pops, last, hpops.settled hunder hidle hbooks rfl hlowered ?_⟩
    · exact (congrArg (·.outer) hlowered).trans hforeign
    · rw [howner]
      rfl
  · rintro rfl
    have hbooks := hunder.balanced.flagged false
    have hlowered := episode_setDestroying (e := e) false last
    refine ⟨?_, pops, last, hpops.settled hunder hidle hbooks rfl hlowered ?_⟩
    · exact (congrArg (·.outer) hlowered).trans hforeign
    · rw [howner]
      rfl

/-- The hypotheses hold of a new episode with a dependent, for surroundings that register another
one and release the episode again from within its destruction. -/
theorem release_settles_reentrant :
    let unit : Contextual := { object := 1, id := ⟨"a"⟩, variety := .plain }
    let made := Episode.new none none 1 ({ surroundings := () } : Store Unit)
    let s := made.1.addDependent unit (some ⟨1⟩) made.2
    let supply : Supply Unit := ⟨⟨"main"⟩, fun _ _ => ⟨0⟩, fun _ _ _ => .null⟩
    let meanwhile : Callback → Program made.1.interface Unit := fun _ =>
      .call (Call.add unit (some ⟨2⟩)) (fun _ => .done) fun _ =>
        .call Call.release (fun _ => .done) fun _ => .done
    (s.episode made.1).dependents ≠ [] ∧ (s.episode made.1).outer = none ∧
      (s.episode made.1).destroying = false ∧
      ∃ r t pops last,
        (made.1.release (supply.hostOf meanwhile)).run.run s.watched = some (r, t) ∧
        made.1.Settled (supply.hostOf meanwhile) 1 s pops last r t := by
  intro unit made s supply meanwhile
  have hheld : (s.episode made.1).dependents ≠ [] := by decide
  have houter : (s.episode made.1).outer = none := by decide
  have hidle : (s.episode made.1).destroying = false := by decide
  exact ⟨hheld, houter, hidle,
    (release_settles supply made.1 meanwhile s hheld houter hidle).2⟩

end Episode

end ContextualLifecycle
