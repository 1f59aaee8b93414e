import ContextualLifecycle.Container.Basic
import ContextualLifecycle.Proofs.Episode.Budget

namespace ContextualLifecycle

variable {σ : Type} {stuck : Prop} {host : Host σ}

/-- The first error is the second one, perhaps within aggregates and scope marks. -/
inductive LifecycleError.Contains : LifecycleError → LifecycleError → Prop
  | self (error) : Contains error error
  | failure {owner failures inner error} (hinner : inner ∈ failures) (h : Contains inner error) :
    Contains (.teardown owner failures) error
  | source {scope source error} (h : Contains source error) :
    Contains (.context scope source) error

theorem LifecycleError.Contains.isFatal {whole error : LifecycleError} (h : whole.Contains error)
    (hfatal : error.isFatal = true) : whole.isFatal = true := by
  induction h with
  | self error => exact hfatal
  | failure hinner _ ih =>
    rw [LifecycleError.isFatal_teardown, List.any_eq_true]
    exact ⟨_, hinner, ih hfatal⟩
  | source _ ih =>
    rw [LifecycleError.isFatal]
    exact ih hfatal

/-- An outcome of several steps that hides none of their failures. -/
structure HidesNone (outcomes : List (Except LifecycleError Unit))
    (r : Except LifecycleError Unit) : Prop where
  ok_iff : r = .ok () ↔ ∀ outcome ∈ outcomes, outcome = .ok ()
  contains : ∀ error, .error error ∈ outcomes → ∃ whole, r = .error whole ∧ whole.Contains error

namespace HidesNone

variable {a b r : Except LifecycleError Unit}

theorem isFatal {outcomes : List (Except LifecycleError Unit)} (h : HidesNone outcomes r)
    {error : LifecycleError} (hmem : .error error ∈ outcomes) (hfatal : error.isFatal = true) :
    ∃ whole, r = .error whole ∧ whole.isFatal = true := by
  obtain ⟨whole, hwhole, hcontains⟩ := h.contains error hmem
  exact ⟨whole, hwhole, hcontains.isFatal hfatal⟩

theorem pair_iff : HidesNone [a, b] r ↔ (r = .ok () ↔ a = .ok () ∧ b = .ok ()) ∧
    (∀ error, a = .error error → ∃ whole, r = .error whole ∧ whole.Contains error) ∧
    ∀ error, b = .error error → ∃ whole, r = .error whole ∧ whole.Contains error := by
  have hok : (∀ outcome ∈ [a, b], outcome = .ok ()) ↔ a = .ok () ∧ b = .ok () := by
    simp only [List.forall_mem_cons, List.not_mem_nil, false_implies, implies_true, and_true]
  constructor
  · intro h
    exact ⟨h.ok_iff.trans hok, fun error herror => h.contains error (by simp [herror]),
      fun error herror => h.contains error (by simp [herror])⟩
  · rintro ⟨hiff, hfirst, hsecond⟩
    refine ⟨hiff.trans hok.symm, fun error hmem => ?_⟩
    rw [List.mem_cons, List.mem_singleton] at hmem
    rcases hmem with heq | heq
    · exact hfirst error heq.symm
    · exact hsecond error heq.symm

end HidesNone

/-- The end of a stored instance hides neither the failure of its destruction nor that of the
release. -/
theorem Bag.destroy_hidesNone {bag : Bag} {s t u : Store σ}
    {destroyed released : Except LifecycleError Unit}
    (hdestroyed : (bag.contextual.destroy host bag.inst bag.episode).run.run s =
      some (destroyed, t))
    (hreleased : (bag.episode.release host).run.run t = some (released, u)) :
    ∃ r, (bag.destroy host).run.run s = some (r, u) ∧ HidesNone [destroyed, released] r := by
  have hwp : Act.wp False (bag.destroy host)
      (fun r v => v = u ∧ HidesNone [destroyed, released] r) s := by
    simp only [Bag.destroy, Act.wp_bind, Act.wp_attempt]
    rw [Act.wp_of_run hdestroyed, Act.wp_of_run hreleased]
    rcases destroyed with error | _ <;> rcases released with error' | _ <;>
      refine ⟨rfl, HidesNone.pair_iff.2 ⟨by simp, fun x hx => ?_, fun x hx => ?_⟩⟩ <;> cases hx
    · exact ⟨_, rfl, .failure (by simp) (.self error)⟩
    · exact ⟨_, rfl, .failure (by simp) (.self error')⟩
    · exact ⟨error, rfl, .self error⟩
    · exact ⟨error', rfl, .self error'⟩
  obtain ⟨r, _, hrun, rfl, hr⟩ := Act.wp_false_iff.1 hwp
  exact ⟨r, hrun, hr⟩

namespace Episode

variable {e : Episode} {outer : Foreign} {s : Store σ}

/-- The episode is wrapped around a foreign one. -/
def Wraps (e : Episode) (outer : Foreign) (s : Store σ) : Prop := (s.episode e).outer = some outer

instance : Decidable (e.Wraps outer s) := inferInstanceAs (Decidable (_ = _))

theorem Wraps.update (h : e.Wraps outer s) {f : Episode.Record → Episode.Record}
    (hf : (f (s.episode e)).outer = (s.episode e).outer) : e.Wraps outer (e.update f s) := by
  rw [Wraps, episode_update_self, hf]
  exact h

theorem Wraps.watched {api : Interface} (h : e.Wraps outer s) :
    e.Wraps outer (s.watched : Store (Watched api σ)) := h

theorem wraps_drainKeeps (hdestroy : ∀ unit inst,
    Act.Keeps stuck (e.Wraps outer) (host.destroy unit inst e)) :
    DrainKeeps stuck host e (e.Wraps outer) where
  taken _ _ _ _ h _ := h.update (f := fun r => { r with dependents := _ }) rfl
  reported _ _ h := h
  destroy := hdestroy

theorem Wraps.run (supply : Supply σ) (p : Program e.interface σ) :
    Act.Keeps stuck (e.Wraps outer) (p.run supply) := by
  refine p.run_keeps supply (fun s h => h) (fun own s h => h) fun during hduring op s h => ?_
  have hkeeps : ReleaseKeeps stuck (supply.watched.host during) e (e.Wraps outer) :=
    { wraps_drainKeeps fun _ _ => hduring _ with
      flagged := fun _ destroying h => h.update (f := fun r => { r with destroying }) rfl
      released := fun _ _ h => h
      release := fun _ => hduring _ }
  cases op with
  | add unit inst =>
    cases inst with
    | none => exact h
    | some inst =>
      have hregister : ((s.episode e).register unit inst).outer = (s.episode e).outer := by
        rw [Record.register_eq]
      exact h.update (f := (·.register unit inst)) hregister
  | contains unit inst => exact h
  | destroy inst => exact (hkeeps.destroyDependent inst s h).mono fun _ _ ht => ht
  | release => exact (hkeeps.release_keeps s h).mono fun _ _ ht => ht

/-- The failure of the foreign release goes before that of the own teardown. -/
theorem wp_release_of_wrapped (outer : Foreign) {Q : Except LifecycleError Unit → Store σ → Prop}
    (h : Act.wp stuck (e.removeAllDependents host) (fun own t => e.Wraps outer t ∧
      Act.wp stuck (host.release outer) (fun foreign u => Q (foreign >>= fun _ => own) u)
        (t.note (.releasing outer))) s) :
    Act.wp stuck (e.release host) Q s := by
  simp only [Episode.release, Act.wp_bind, Act.wp_attempt, Act.wp_get]
  apply h.mono
  rintro own t ⟨hwraps, hforeign⟩
  rw [Wraps] at hwraps
  simp only [hwraps, Act.wp_bind, Act.wp_modify]
  apply hforeign.mono
  intro foreign u hu
  cases foreign with
  | ok _ => exact (Act.wp_liftExcept own).2 hu
  | error error => exact hu

theorem release_run {own foreign : Except LifecycleError Unit} {t u : Store σ}
    (hown : (e.removeAllDependents host).run.run s = some (own, t)) (hwraps : e.Wraps outer t)
    (hforeign : (host.release outer).run.run (t.note (.releasing outer)) = some (foreign, u)) :
    (e.release host).run.run s = some (foreign >>= fun _ => own, u) := by
  have hrelease : Act.wp False (e.release host)
      (fun r v => r = (foreign >>= fun _ => own) ∧ v = u) s := by
    apply wp_release_of_wrapped outer
    rw [Act.wp_of_run hown, Act.wp_of_run hforeign]
    exact ⟨hwraps, rfl, rfl⟩
  obtain ⟨_, _, hrun, rfl, rfl⟩ := Act.wp_false_iff.1 hrelease
  exact hrun

/-- How the outcome of a wrapped release comes from that of the own teardown and that of the foreign
release. -/
structure Reports (own foreign r : Except LifecycleError Unit) : Prop where
  ok_iff : r = .ok () ↔ own = .ok () ∧ foreign = .ok ()
  foreign_error : ∀ error, foreign = .error error → r = .error error
  own_error : foreign = .ok () → r = own
  /-- One is hidden exactly if both fail and the foreign error does not contain the own one. -/
  hidesNone_iff : HidesNone [own, foreign] r ↔
    ∀ error error', own = .error error → foreign = .error error' → error'.Contains error
  fatal_iff : (∃ error, r = .error error ∧ error.isFatal = true) ↔
    (∃ error, foreign = .error error ∧ error.isFatal = true) ∨
      foreign = .ok () ∧ ∃ error, own = .error error ∧ error.isFatal = true

theorem reports_bind (own foreign : Except LifecycleError Unit) :
    Reports own foreign (foreign >>= fun _ => own) := by
  cases foreign with
  | ok _ =>
    change Reports own (.ok ()) own
    have hnone : HidesNone [own, .ok ()] own := by
      refine HidesNone.pair_iff.2 ⟨by simp, fun error herror => ?_, nofun⟩
      exact ⟨error, herror, .self error⟩
    exact ⟨by simp, nofun, fun _ => rfl, iff_of_true hnone nofun, by simp⟩
  | error error' =>
    change Reports own (.error error') (.error error')
    have hnone : HidesNone [own, .error error'] (.error error') ↔
        ∀ error, own = .error error → error'.Contains error := by
      rw [HidesNone.pair_iff]
      constructor
      · intro ⟨_, hown, _⟩ error herror
        obtain ⟨whole, hwhole, hcontains⟩ := hown error herror
        cases hwhole
        exact hcontains
      · intro hown
        refine ⟨by simp, fun error herror => ⟨error', rfl, hown error herror⟩, fun _ herror => ?_⟩
        cases herror
        exact ⟨error', rfl, .self error'⟩
    exact ⟨by simp, fun _ => id, nofun, hnone.trans (by simp), by simp⟩

/-- The release of a wrapped episode tears its own dependents down, and then releases the foreign
one in any case. It succeeds only if both do. A failure of the foreign one always comes out, and one
of the own teardown does if the foreign one succeeded. -/
theorem wrapped_release (hwrapped : e.Wraps outer s)
    (hdestroy : ∀ unit inst, Act.Keeps stuck (e.Wraps outer) (host.destroy unit inst e))
    (hforeign : ∀ t, e.Wraps outer t → Act.wp stuck (host.release outer) (fun _ _ => True) t) :
    Act.wp stuck (e.release host) (fun r u => ∃ own t foreign,
      (e.removeAllDependents host).run.run s = some (own, t) ∧
      (host.release outer).run.run (t.note (.releasing outer)) = some (foreign, u) ∧
      Reports own foreign r) s := by
  have hkeeps := (wraps_drainKeeps hdestroy).removeAllDependents
    fun s destroying h => h.update (f := fun r => { r with destroying }) rfl
  apply wp_release_of_wrapped outer
  apply (hkeeps s hwrapped).run.mono
  rintro own t ⟨hown, ht⟩
  refine ⟨ht, (hforeign (t.note (.releasing outer)) ht).run.mono ?_⟩
  rintro foreign u ⟨hrun, _⟩
  exact ⟨own, t, foreign, hown, hrun, reports_bind own foreign⟩

def exhausted? : Except LifecycleError Unit → Option (String × Nat)
  | .error (.teardownLoop owner limit) => some (owner, limit)
  | _ => none

theorem exhausted?_eq_some {r : Except LifecycleError Unit} {owner : String} {limit : Nat}
    (h : exhausted? r = some (owner, limit)) : r = .error (.teardownLoop owner limit) := by
  rw [exhausted?.eq_def] at h
  split at h
  · cases h
    rfl
  · cases h

/-- An episode of a cart around a foreign one, with a cart as its dependent. -/
def wrapping (outer : Foreign) : Episode × Store Unit :=
  let cart : Contextual := { object := 1, id := ⟨"cart"⟩, variety := .plain }
  let made := Container.new {} [] false { surroundings := () }
  let wrapped := made.1.wrap (.foreign outer) cart made.2
  (wrapped.1, wrapped.1.addDependent cart (some ⟨1⟩) wrapped.2)

/-- Dependents are registered again whenever they are destroyed. -/
def reregistering (e : Episode) (releasing : Program e.interface Unit) :
    Callback → Program e.interface Unit
  | .destroy unit inst _ => .call (Call.add unit (some inst)) (fun _ => .done) fun _ => .done
  | .release _ => releasing
  | _ => .done

/-- The hypotheses hold of a wrapped episode whose teardown uses up its budget. The foreign release
succeeds, so the error of the own teardown comes out. -/
theorem wrapped_release_endless :
    let outer : Foreign := ⟨7⟩
    let e := (wrapping outer).1
    let s := (wrapping outer).2
    let supply : Supply Unit := ⟨⟨"main"⟩, fun _ _ => ⟨0⟩, fun _ _ _ => .null⟩
    let host := supply.hostOf (reregistering e .done)
    e.Wraps outer s ∧
      ∃ r u own t foreign, (e.release host).run.run s.watched = some (r, u) ∧
        (e.removeAllDependents host).run.run s.watched = some (own, t) ∧
        own = .error (.teardownLoop "cart" 3) ∧
        (host.release outer).run.run (t.note (.releasing outer)) = some (foreign, u) ∧
        foreign = .ok () ∧ Reports own foreign r := by
  intro outer e s supply host
  have hwrapped : e.Wraps outer s := by decide +kernel
  have hruns : ∀ cb, Act.Keeps False (e.Wraps outer) ((reregistering e .done cb).run supply) :=
    fun cb => Wraps.run supply _
  have hdestroy : ∀ unit inst, Act.Keeps False (e.Wraps outer) (host.destroy unit inst e) :=
    fun unit inst => hruns (.destroy unit inst e)
  have hforeign : ∀ t, e.Wraps outer t → Act.wp False (host.release outer) (fun _ _ => True) t :=
    fun t ht => (hruns (.release outer) t ht).mono fun _ _ _ => trivial
  -- Stated for any store, as the release of the one at hand would be unfolded.
  have hrelease := fun (t₀ : Store (Watched e.interface Unit)) (h : e.Wraps outer t₀) =>
    Act.wp_false_iff.1 (wrapped_release h hdestroy hforeign)
  obtain ⟨r, u, hrun, own, t, foreign, hown, hreleased, hreports⟩ := hrelease _ hwrapped.watched
  have hendless : ((e.removeAllDependents host).run.run s.watched).map (exhausted? ·.1) =
      some (some ("cart", 3)) := by decide +kernel
  rw [hown, Option.map_some, Option.some_inj] at hendless
  have hdone : ∀ v, (host.release outer).run.run v = some (.ok (), v.sawMoment) := fun _ => rfl
  have hok := hreleased
  rw [hdone] at hok
  cases hok
  exact ⟨hwrapped, r, _, own, t, _, hrun, hown, exhausted?_eq_some hendless, hreleased, rfl,
    hreports⟩

/-- If the foreign release fails harmlessly, its error comes out instead: that the own teardown used
up its budget is hidden, and the outcome is not fatal. -/
theorem wrapped_release_hides :
    let outer : Foreign := ⟨7⟩
    let e := (wrapping outer).1
    let s := (wrapping outer).2
    let supply : Supply Unit := ⟨⟨"main"⟩, fun _ _ => ⟨0⟩, fun _ _ _ => .null⟩
    let host := supply.hostOf (reregistering e (.fail (.creation "outer" "gone")))
    ∃ own t foreign u r, (e.removeAllDependents host).run.run s.watched = some (own, t) ∧
      own = .error (.teardownLoop "cart" 3) ∧
      (host.release outer).run.run (t.note (.releasing outer)) = some (foreign, u) ∧
      foreign = .error (.creation "outer" "gone") ∧
      (e.release host).run.run s.watched = some (r, u) ∧
      (∀ error, r = .error error → error.isFatal = false) ∧ ¬ HidesNone [own, foreign] r := by
  intro outer e s supply host
  have hseen : ((e.removeAllDependents host).run.run s.watched).map
      (fun o => (exhausted? o.1, decide (e.Wraps outer o.2))) = some (some ("cart", 3), true) := by
    decide +kernel
  obtain ⟨⟨own, t⟩, hown, hended⟩ := Option.map_eq_some_iff.1 hseen
  rw [Prod.mk.injEq, decide_eq_true_iff] at hended
  obtain ⟨hendless, hwraps⟩ := hended
  have hgone : ∀ v, (host.release outer).run.run v =
      some (.error (.creation "outer" "gone"), v.sawMoment) := fun _ => rfl
  have hrun := release_run hown hwraps (hgone _)
  have hlost : own = .error (.teardownLoop "cart" 3) := exhausted?_eq_some hendless
  refine ⟨own, t, _, _, _, hown, hlost, hgone _, rfl, hrun, ?_, fun h => ?_⟩
  · intro error heq
    cases heq
    rfl
  · rw [hlost] at h
    obtain ⟨whole, hwhole, hfatal⟩ := h.isFatal List.mem_cons_self rfl
    cases hwhole
    cases hfatal

end Episode

end ContextualLifecycle
