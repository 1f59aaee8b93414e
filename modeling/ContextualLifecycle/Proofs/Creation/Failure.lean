import ContextualLifecycle.Proofs.Creation.Place
import ContextualLifecycle.Proofs.Creation.Teardown

namespace ContextualLifecycle

variable {σ : Type}

namespace ScopeContext

variable {c : ScopeContext} {unit : Contextual} {e : Episode} {s : Store σ} {thread : Thread}

/-- What a creation that failed leaves behind, with the stores before the request, at the failure of
its callback, and after the request. -/
structure Undone (host : Host σ) (c : ScopeContext) (unit : Contextual) (e : Episode)
    (before failed after : Store σ) : Prop where
  free : c.Free host.thread unit.id after
  stack : after.stack host.thread = before.stack host.thread
  /-- A later request creates anew. -/
  afresh : (after.context c).active = true → ∀ (next : Host σ) x, next.thread = host.thread →
    (c.getOrCreate next unit x).run.run after = (c.createAnew next unit x).run.run after
  idle : e.Idle after
  /-- The records that were listed at the failure are destroyed or listed. -/
  accounted : (failed.episode e).dependents.Subperm (e.standing failed.journal.size after)
  /-- None is listed any more, unless the budget was used up. -/
  emptied : (after.episode e).dependents = [] ∨ ∃ pops last, Episode.Drained host e
    (failed.episode e).budget (e.setDestroying true failed) pops true last
  /-- Each is destroyed once, if no destroy callback registers it again. -/
  once : ∀ d ∈ (failed.episode e).dependents,
    (∀ unit inst, Act.Keeps True (fun s => failed.journal.size ≤ s.journal.size ∧
      (e.standing failed.journal.size s).count d = 1) (host.destroy unit inst e)) →
    (e.standing failed.journal.size after).count d = 1
  /-- They are destroyed in the order of the list, if no destroy callback meddles with it. -/
  inOrder : (failed.episode e).dependents.length < UInt64.size →
    e.Secluded host failed.journal.size → (after.episode e).dependents = [] ∧
      after.destroyedSince failed.journal.size e = (failed.episode e).dependents
  /-- Until the callback starts, the live entries are what they were. -/
  untouched : ∀ x id, live x (c.opened host.thread unit e before) id = live x before id
  /-- After its failure, they change only as the destroy callbacks change them. -/
  others : ∀ P : (ScopeContext → ContextualId → Option Bag) → Prop,
    (∀ v inst, Act.Keeps True (fun s => P fun x => live x s) (host.destroy v inst e)) →
    (P fun x => live x failed) → P fun x => live x after

section Ending

variable {host : Host σ} {error : LifecycleError} {failed : Store σ}

def failedAttempt (host : Host σ) (c : ScopeContext) (unit : Contextual) (e : Episode)
    (before failed : Store σ) : Attempt :=
  c.attempt host.thread unit e failed.journal.size (failed.episode e).dependents before

def inside (host : Host σ) (c : ScopeContext) (unit : Contextual) (before : Store σ) :
    Attempt.Stage where
  stack := (c, unit.id) :: before.stack host.thread

theorem Free.returned
    (h : ∀ start held, host.Keeps True
      ((c.attempt host.thread unit e start held s).At (inside host c unit s)))
    (hfree : c.Free host.thread unit.id s) (hidle : e.Idle s)
    (hcreate : (host.create unit e).run.run (c.opened host.thread unit e s) =
      some (.error error, failed)) :
    (failedAttempt host c unit e s failed).At (inside host c unit s) failed := by
  have hopened := hfree.opened unit hidle.ledger
  have hfailed := (Act.wp_of_run hcreate).1 ((h _ _).create unit e _ hopened)
  exact ⟨hfailed.entered, hfailed.stacked, hfailed.place, hfailed.books.idle.ledger⟩

theorem wp_getOrCreate_of_released {stuck : Prop} {Extra : Store σ → Prop}
    (hactive : (s.context c).active = true) (hfree : c.Free host.thread unit.id s)
    (hcreate : (host.create unit e).run.run (c.opened host.thread unit e s) =
      some (.error error, failed))
    (hreport : ∀ content u, (failedAttempt host c unit e s failed).At (inside host c unit s) u →
      Extra u → Extra (u.report content))
    (hrelease : Act.wp stuck (e.release host)
      (fun _ u => (failedAttempt host c unit e s failed).At (inside host c unit s) u ∧ Extra u)
      failed) :
    Act.wp stuck (c.getOrCreate host unit e) (fun r t => r = .error error ∧
      ∃ u, t = c.abandoned host.thread unit.id (c.claimCell unit.id s).1.serial u ∧
        (failedAttempt host c unit e s failed).At (inside host c unit s) u ∧ Extra u) s := by
  apply wp_getOrCreate_of_failed hactive hfree hcreate
  apply hrelease.mono
  intro _ u hu
  exact ⟨⟨u, rfl, hu⟩, fun left => ⟨_, rfl, hu.1.noted _, hreport _ u hu.1 hu.2⟩⟩

variable {t : Store σ}
  (h : ∀ start held g, host.Keeps True ((c.attempt host.thread unit e start held s).At g))
  (hactive : (s.context c).active = true) (hfree : c.Free host.thread unit.id s)
  (hidle : e.Idle s)
  (hcreate : (host.create unit e).run.run (c.opened host.thread unit e s) =
    some (.error error, failed))

include h hactive hfree hidle hcreate

/-- What the teardown keeps holds when the request ended. -/
theorem undone_keeps (hrun : (c.getOrCreate host unit e).run.run s = some (.error error, t))
    {Extra : Store σ → Prop} (hdrain : Episode.DrainKeeps True host e Extra)
    (hflag : ∀ raised u, Extra u → Extra (e.setDestroying raised u)) (hextra : Extra failed) :
    ∃ u, t = c.abandoned host.thread unit.id (c.claimCell unit.id s).1.serial u ∧
      (failedAttempt host c unit e s failed).At (inside host c unit s) u ∧ Extra u := by
  have hfailed := hfree.returned (fun start held => h start held _) hidle hcreate
  have hrelease := (Attempt.release (h _ _) (inside host c unit s) e failed hfailed).and
    (hfailed.release_keeps (h _ _) rfl hdrain hflag hextra)
  have hended := wp_getOrCreate_of_released hactive hfree hcreate
    (fun content u _ hu => hdrain.reported u content hu) hrelease
  exact ((Act.wp_of_run hrun).1 hended).2

/-- The request returns with the error of the callback, after the loop of the teardown. -/
theorem undone_returns (hcompletes : e.Completes host (e.setDestroying true failed)) :
    ∃ t, (c.getOrCreate host unit e).run.run s = some (.error error, t) ∧
      ∃ u, t = c.abandoned host.thread unit.id (c.claimCell unit.id s).1.serial u ∧
        (failedAttempt host c unit e s failed).At (inside host c unit s) u ∧
        e.TornDown host failed.journal.size failed u := by
  have hfailed := hfree.returned (fun start held => h start held _) hidle hcreate
  have hrelease := hfailed.release_tornDown (h _ _) rfl hcompletes
  have hended := wp_getOrCreate_of_released hactive hfree hcreate
    (fun content u hu hdown => hdown.reported hu.books.started content) hrelease
  obtain ⟨r, t, hrun, hr, hended⟩ := Act.wp_false_iff.1 hended
  cases hr
  exact ⟨t, hrun, hended⟩

/-- A record is destroyed once, if the destroy callbacks do not register it again. -/
theorem undone_once (hrun : (c.getOrCreate host unit e).run.run s = some (.error error, t))
    {d : Dependent} (hd : d ∈ (failed.episode e).dependents)
    (hdestroy : ∀ unit inst, Act.Keeps True (fun s => failed.journal.size ≤ s.journal.size ∧
      (e.standing failed.journal.size s).count d = 1) (host.destroy unit inst e)) :
    (e.standing failed.journal.size t).count d = 1 := by
  have hfailed := hfree.returned (fun start held => h start held _) hidle hcreate
  have hcount : (e.standing failed.journal.size failed).count d = 1 := by
    rw [Episode.standing, Store.destroyedSince_size, List.nil_append]
    exact List.count_eq_one_of_mem hfailed.books.orderly.distinct.nodup hd
  have hflag : ∀ raised (u : Store σ), failed.journal.size ≤ u.journal.size ∧
      (e.standing failed.journal.size u).count d = 1 →
      failed.journal.size ≤ (e.setDestroying raised u).journal.size ∧
        (e.standing failed.journal.size (e.setDestroying raised u)).count d = 1 := by
    intro raised u hu
    refine ⟨hu.1, ?_⟩
    rw [Episode.standing, Episode.episode_setDestroying]
    exact hu.2
  obtain ⟨u, rfl, _, hu⟩ := undone_keeps h hactive hfree hidle hcreate hrun
    (Episode.drainKeeps_count hdestroy) hflag ⟨Nat.le_refl _, hcount⟩
  exact hu.2

theorem undone_others (hrun : (c.getOrCreate host unit e).run.run s = some (.error error, t))
    {P : (ScopeContext → ContextualId → Option Bag) → Prop}
    (hdestroy : ∀ v inst, Act.Keeps True (fun s => P fun x => live x s) (host.destroy v inst e))
    (hP : P fun x => live x failed) : P fun x => live x t := by
  have hdrain : Episode.DrainKeeps True host e fun s => P fun x => live x s :=
    ⟨fun _ _ _ _ hs _ => hs, fun _ _ hs => hs, hdestroy⟩
  obtain ⟨u, rfl, hu, hPu⟩ :=
    undone_keeps h hactive hfree hidle hcreate hrun hdrain (fun _ _ hs => hs) hP
  have hsame : (fun x => live x (c.abandoned host.thread unit.id
      (c.claimCell unit.id s).1.serial u)) = fun x => live x u :=
    funext hu.place.live_abandoned
  rw [hsame]
  exact hPu

theorem undone (hcompletes : e.Completes host (e.setDestroying true failed)) :
    ∃ t, (c.getOrCreate host unit e).run.run s = some (.error error, t) ∧
      c.Undone host unit e s failed t := by
  obtain ⟨t, hrun, u, ht, hu, hdown⟩ := undone_returns h hactive hfree hidle hcreate hcompletes
  have hfailed := hfree.returned (fun start held => h start held _) hidle hcreate
  have hstack : u.stack host.thread = (c, unit.id) :: s.stack host.thread := hu.stacked
  have hbooks : e.Ledger failed.journal.size (failed.episode e).dependents false t := by
    rw [ht]
    exact hu.books.congr rfl (Nat.le_refl _) rfl
  have hafter : c.Free host.thread unit.id t := by
    rw [ht]
    refine hu.place.abandoned ?_
    rw [hstack]
    exact hfree.apart
  have hleft : e.TornDown host failed.journal.size failed t := by
    rw [ht]
    exact hdown
  exact ⟨t, hrun, {
    free := hafter
    stack := by
      rw [ht, abandoned, stack_leaveCreation]
      exact congrArg List.tail hstack
    afresh := fun hactive next x hthread => getOrCreate_of_free hactive (hthread ▸ hafter)
    idle := hbooks.idle
    accounted := hbooks.accounted
    emptied := hleft.emptied
    once := fun d hd hdestroy => undone_once h hactive hfree hidle hcreate hrun hd hdestroy
    inOrder := hleft.in_order hfailed.books.idle
    untouched := hfree.live_opened
    others := fun P => undone_others h hactive hfree hidle hcreate hrun }⟩

end Ending

/-- A creation that fails leaves nothing behind. -/
theorem getOrCreate_undone (supply : Supply σ) (meanwhile : Callback → Program library σ)
    (c : ScopeContext) (unit : Contextual) (e : Episode) (s : Store σ) {error : LifecycleError}
    {failed : Store (Watched library σ)}
    (hmeanwhile : ∀ cb, (meanwhile cb).Obeys (c.reserved unit.id supply.thread) [])
    (hactive : (s.context c).active = true) (hfree : c.Free supply.thread unit.id s)
    (hidle : e.Idle s) :
    let host := supply.hostOf meanwhile
    (host.create unit e).run.run (c.opened supply.thread unit e s.watched) =
        some (.error error, failed) →
      e.Completes host (e.setDestroying true failed) →
      ∃ t, (c.getOrCreate host unit e).run.run s.watched = some (.error error, t) ∧
        c.Undone host unit e s.watched failed t := by
  intro host hcreate hcompletes
  have hplace : c.Free supply.thread unit.id (s.watched : Store (Watched library σ)) :=
    ⟨hfree.issued, hfree.stored, hfree.absent, hfree.apart, hfree.unfilled⟩
  have hbooks : e.Idle (s.watched : Store (Watched library σ)) :=
    ⟨hidle.issued, hidle.unwrapped, hidle.idle, hidle.orderly⟩
  refine undone (fun start held g => ?_) hactive hplace hbooks hcreate hcompletes
  let a := c.attempt supply.thread unit e start held (s.watched : Store (Watched library σ))
  exact supply.watched.host_keeps fun cb => a.run supply (meanwhile cb) (hmeanwhile cb) g

/-- The hypotheses hold of a request within whose callback a dependent is registered, another one is
created with a dependent of its own, and then the callback fails; and destroying fails, too. -/
theorem getOrCreate_undone_nested :
    let thread : Thread := ⟨"main"⟩
    let unit : Contextual := { object := 1, id := ⟨"unit"⟩, variety := .plain }
    let helper : Contextual := { object := 2, id := ⟨"helper"⟩, variety := .plain }
    let nested : Contextual := { object := 3, id := ⟨"nested"⟩, variety := .plain }
    let made := Episode.new none none 2 ({ surroundings := () } : Store Unit)
    let e := made.1
    let request := ScopeContext.newActive .request made.2
    let dependents := ScopeContext.newActive .dependent request.2
    let c := request.1
    let s := dependents.2
    let supply : Supply Unit := ⟨thread, fun _ _ => ⟨12⟩, fun _ _ _ => .null⟩
    let registers : Callback → Program library Unit
      | .create _ e =>
        .call (⟨thread, .addDependent e helper (some ⟨11⟩)⟩ : Request) (fun _ => .done) fun _ =>
        .done
      | _ => .done
    let meanwhile : Callback → Program library Unit
      | .create .. =>
        .call (⟨thread, .addDependent e helper (some ⟨10⟩)⟩ : Request) (fun _ => .done) fun _ =>
        .call (⟨thread, .getOrCreate dependents.1 nested e⟩ : Request) registers fun _ =>
        .fail (.creation "unit" "refused")
      | .destroy .. => .fail (.destruction "helper" "refused")
      | _ => .done
    let host := supply.hostOf meanwhile
    (∀ cb, (meanwhile cb).Obeys (c.reserved unit.id thread) []) ∧
      (s.context c).active = true ∧ c.Free thread unit.id s ∧ e.Idle s ∧
      ∃ failed t,
        (host.create unit e).run.run (c.opened thread unit e s.watched) =
          some (.error (.creation "unit" "refused"), failed) ∧
        e.Completes host (e.setDestroying true failed) ∧
        (c.getOrCreate host unit e).run.run s.watched =
          some (.error (.creation "unit" "refused"), t) ∧
        c.Undone host unit e s.watched failed t ∧
        t.destroyedSince failed.journal.size e =
          [⟨helper, ⟨10⟩⟩, ⟨helper, ⟨11⟩⟩, ⟨nested, ⟨12⟩⟩] := by
  intro thread unit helper nested made e request dependents c s supply registers meanwhile host
  have hmeanwhile : ∀ cb, (meanwhile cb).Obeys (c.reserved unit.id thread) [] := by
    have hregisters : ∀ request cb, (registers cb).Obeys (c.reserved unit.id thread) request := by
      intro request cb
      cases cb <;> simp [registers, Program.Obeys, reserved]
    intro cb
    cases cb <;> simp [meanwhile, Program.Obeys, reserved, hregisters]
  have hactive : (s.context c).active = true := by decide +kernel
  have hfree : c.Free thread unit.id s := by
    have hvacant : (s.context c).entries.get? unit.id = none := by decide +kernel
    exact ⟨by decide +kernel, by decide +kernel, by decide +kernel, by decide +kernel,
      fun n hn => by rw [hvacant] at hn; cases hn⟩
  have hidle : e.Idle s := by
    have hempty : (s.episode e).dependents = [] := by decide +kernel
    have horderly : (s.episode e).Orderly := by
      refine ⟨?_, by decide +kernel⟩
      rw [hempty]
      exact List.Pairwise.nil
    exact ⟨by decide +kernel, by decide +kernel, by decide +kernel, horderly⟩
  obtain ⟨failed, hcreate⟩ : ∃ failed, (host.create unit e).run.run
      (c.opened thread unit e s.watched) =
        some (.error (.creation "unit" "refused"), failed) := ⟨_, rfl⟩
  have hlist : (failed.episode e).dependents =
      [⟨helper, ⟨10⟩⟩, ⟨helper, ⟨11⟩⟩, ⟨nested, ⟨12⟩⟩] := by
    have hlisted : ((host.create unit e).run.run (c.opened thread unit e s.watched)).map
        (fun o => (o.2.episode e).dependents) =
          some [⟨helper, ⟨10⟩⟩, ⟨helper, ⟨11⟩⟩, ⟨nested, ⟨12⟩⟩] := by decide +kernel
    rw [hcreate] at hlisted
    exact Option.some.inj hlisted
  have hcompletes : e.Completes host (e.setDestroying true failed) := by
    intro pops u d rest _ _
    have hreturns : Act.wp False (d.contextual.destroy host d.inst e) (fun _ _ => True)
        (e.relist rest u) :=
      Contextual.wp_destroy_of trivial trivial
    obtain ⟨r, v, hrun, _⟩ := Act.wp_false_iff.1 hreturns
    rw [hrun]
    rfl
  have hsecluded : e.Secluded host failed.journal.size := fun _ _ _ _ _ hs => hs
  obtain ⟨t, hrun, hundone⟩ := getOrCreate_undone supply meanwhile c unit e s hmeanwhile hactive
    hfree hidle hcreate hcompletes
  have hsize : (failed.episode e).dependents.length < UInt64.size := by
    rw [hlist]
    decide
  refine ⟨hmeanwhile, hactive, hfree, hidle, failed, t, hcreate, hcompletes, hrun, hundone, ?_⟩
  rw [(hundone.inOrder hsize hsecluded).2, hlist]

end ScopeContext

end ContextualLifecycle
