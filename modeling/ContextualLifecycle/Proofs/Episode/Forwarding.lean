import ContextualLifecycle.Proofs.Episode.Wrapped

namespace ContextualLifecycle

variable {σ : Type} {stuck : Prop} {host : Host σ}

def Event.forwarding? (outer : Foreign) : Event → Option Unit
  | .releasing x => if x = outer then some () else none
  | _ => none

/-- How often a release was passed on to the foreign episode after the first `start` events. -/
def Store.forwardings (start : Nat) (outer : Foreign) (s : Store σ) : Nat :=
  (s.since (Event.forwarding? outer) start).length

theorem Store.forwardings_note {start : Nat} {s : Store σ} (hs : start ≤ s.journal.size)
    (outer : Foreign) (event : Event) : (s.note event).forwardings start outer =
      s.forwardings start outer + (event.forwarding? outer).toList.length := by
  rw [forwardings, since_note hs, List.length_append, forwardings]

namespace Episode

variable {e : Episode} {outer : Foreign}

def isReleaseCall : Sighting e.interface → Bool
  | .call Call.release .. => true
  | _ => false

def releaseCalls (seen : List (Sighting e.interface)) : Nat := seen.countP isReleaseCall

/-- Since a moment when just the base had been seen, the releases that were passed on are those that
the surroundings called and that are answered, and as many as are pending. -/
structure Forwarding (e : Episode) (outer : Foreign) (start : Nat)
    (base : List (Sighting e.interface)) (pending : Nat) (s : Store (Watched e.interface σ)) :
    Prop where
  wraps : e.Wraps outer s
  started : start ≤ s.journal.size
  counted : ∃ newer, s.seen = newer ++ base ∧
    s.forwardings start outer = releaseCalls newer + pending

namespace Forwarding

variable {s : Store (Watched e.interface σ)}

theorem begin (hs : e.Wraps outer s) : e.Forwarding outer s.journal.size s.seen 0 s := by
  refine ⟨hs, Nat.le_refl _, [], rfl, ?_⟩
  rw [Store.forwardings, Store.since_size]
  rfl

variable {start pending : Nat} {base : List (Sighting e.interface)}

theorem updated (h : e.Forwarding outer start base pending s)
    {f : Episode.Record → Episode.Record} (hf : (f (s.episode e)).outer = (s.episode e).outer) :
    e.Forwarding outer start base pending (e.update f s) :=
  ⟨h.wraps.update hf, h.started, h.counted⟩

theorem noted (h : e.Forwarding outer start base pending s) {event : Event}
    (hevent : event.forwarding? outer = none) :
    e.Forwarding outer start base pending (s.note event) := by
  obtain ⟨newer, hseen, hcounted⟩ := h.counted
  refine ⟨h.wraps, Nat.le_trans h.started (by simp [Store.note]), newer, hseen, ?_⟩
  rw [Store.forwardings_note h.started, hevent]
  exact hcounted

theorem forwarded (h : e.Forwarding outer start base pending s) :
    e.Forwarding outer start base (pending + 1) (s.note (.releasing outer)) := by
  obtain ⟨newer, hseen, hcounted⟩ := h.counted
  refine ⟨h.wraps, Nat.le_trans h.started (by simp [Store.note]), newer, hseen, ?_⟩
  have hone : (Event.releasing outer).forwarding? outer = some () := if_pos rfl
  rw [Store.forwardings_note h.started, hone, hcounted]
  rfl

theorem saw (h : e.Forwarding outer start base pending s) {sighting : Sighting e.interface}
    (hsighting : isReleaseCall sighting = false) :
    e.Forwarding outer start base pending (s.saw sighting) := by
  obtain ⟨newer, hseen, hcounted⟩ := h.counted
  refine ⟨h.wraps, h.started, sighting :: newer, by rw [Store.seen_saw, hseen]; rfl, ?_⟩
  rw [releaseCalls, List.countP_cons_of_neg (by simp [hsighting])]
  exact hcounted

theorem sawRelease (h : e.Forwarding outer start base (pending + 1) s)
    (before : Store (Watched e.interface σ)) (answer : Except LifecycleError Unit) :
    e.Forwarding outer start base pending
      (Store.sawCall (Call.release : e.interface.Call) before answer s) := by
  obtain ⟨newer, hseen, hcounted⟩ := h.counted
  refine ⟨h.wraps, h.started, .call Call.release before.bare answer s.bare :: newer,
    congrArg (_ :: ·) hseen, ?_⟩
  have hcall : releaseCalls (.call Call.release before.bare answer s.bare :: newer) =
      releaseCalls newer + 1 := List.countP_cons_of_pos rfl
  rw [hcall]
  exact hcounted.trans (Nat.add_right_comm _ pending 1)

theorem drainKeeps {host : Host (Watched e.interface σ)} (hdestroy : ∀ unit inst,
    Act.Keeps stuck (e.Forwarding outer start base pending) (host.destroy unit inst e)) :
    DrainKeeps stuck host e (e.Forwarding outer start base pending) where
  taken _ front _ back h _ :=
    (h.updated (f := fun r => { r with dependents := front ++ back }) rfl).noted rfl
  reported _ _ h := h.noted rfl
  destroy := hdestroy

theorem removeAllDependents {host : Host (Watched e.interface σ)} (hdestroy : ∀ unit inst,
    Act.Keeps stuck (e.Forwarding outer start base pending) (host.destroy unit inst e)) :
    Act.Keeps stuck (e.Forwarding outer start base pending) (e.removeAllDependents host) :=
  (drainKeeps hdestroy).removeAllDependents fun _ destroying h =>
    h.updated (f := fun r => { r with destroying }) rfl

/-- Every release that is called is passed on, whether a teardown is running or not. -/
theorem run (supply : Supply σ) (p : Program e.interface σ) (pending : Nat) :
    Act.Keeps stuck (e.Forwarding outer start base pending) (p.run supply) := by
  refine p.run_keeps_each supply (fun pending s h => h.saw rfl)
    (fun pending own s h => ⟨h.wraps, h.started, h.counted⟩)
    (fun during hduring pending op s h => ?_) pending
  cases op with
  | add unit inst =>
    cases inst with
    | none => exact h.saw rfl
    | some inst =>
      have hregister : ((s.episode e).register unit inst).outer = (s.episode e).outer := by
        rw [Record.register_eq]
      exact (h.updated (f := (·.register unit inst)) hregister).saw rfl
  | contains unit inst => exact h.saw rfl
  | destroy inst =>
    exact ((drainKeeps fun _ _ => hduring pending _).destroyDependent inst s h).mono
      fun _ _ ht => ht.saw rfl
  | release =>
    refine wp_release_of_wrapped outer ?_
    apply (removeAllDependents (fun _ _ => hduring pending _) s h).mono
    intro own t ht
    refine ⟨ht.wraps, (hduring (pending + 1) (.release outer) _ ht.forwarded).mono ?_⟩
    intro foreign u hu
    exact hu.sawRelease s _

end Forwarding

/-- The own part of a release that is not called from within another one tears down all that it
can: nothing waits any more, unless the budget is used up. -/
theorem removeAllDependents_finishes {host : Host σ} {Inv : Store σ → Prop} {s : Store σ}
    (h : DrainKeeps stuck host e Inv)
    (hflagged : ∀ s destroying, Inv s → Inv (e.setDestroying destroying s)) (hs : Inv s)
    (hidle : (s.episode e).destroying = false) :
    Act.wp stuck (e.removeAllDependents host) (fun own t => Inv t ∧
      (t.episode e).destroying = false ∧
      ((t.episode e).dependents = [] ∨
        ∃ owner limit, own = .error (.teardownLoop owner limit))) s := by
  by_cases hheld : (s.episode e).dependents = []
  · exact (wp_removeAllDependents_of_nil hheld).2 ⟨hs, hidle, .inl hheld⟩
  apply wp_removeAllDependents hidle hheld
  apply (h.drain_pops _ _ (hflagged s true hs)).mono
  rintro ⟨exhausted, failures⟩ t ⟨ht, pops, hpops, _⟩
  constructor
  · rintro rfl
    refine ⟨hflagged _ _ (h.reported _ _ ht), ?_, .inr ⟨_, _, rfl⟩⟩
    rw [episode_setDestroying]
  · rintro rfl
    refine ⟨hflagged _ _ ht, ?_, .inl ?_⟩
    · rw [episode_setDestroying]
    · rw [episode_setDestroying]
      exact hpops.emptied rfl

/-- How a release at the outside that starts from `s` and ends in `u` releases the foreign episode:
its own teardown ends in `t`. -/
structure Forwards (e : Episode) (outer : Foreign) (host : Host (Watched e.interface σ))
    (s : Store σ) (own : Except LifecycleError Unit) (t : Store (Watched e.interface σ))
    (foreign : Except LifecycleError Unit) (u : Store (Watched e.interface σ)) : Prop where
  teardown : (e.removeAllDependents host).run.run s.watched = some (own, t)
  /-- Nothing waits any more when the own teardown is over, unless its budget is used up. -/
  finished : (t.episode e).destroying = false ∧
    ((t.episode e).dependents = [] ∨ ∃ owner limit, own = .error (.teardownLoop owner limit))
  /-- Then the foreign episode is released. -/
  release : (host.release outer).run.run (t.note (.releasing outer)) = some (foreign, u)
  /-- Until then it was released once for each release that was called from within the teardown. -/
  early : t.forwardings s.journal.size outer = releaseCalls t.seen
  /-- And from then on once for each release that was called from within the foreign one. -/
  late : ∃ newer, u.seen = newer ++ t.seen ∧ u.forwardings s.journal.size outer =
    t.forwardings s.journal.size outer + 1 + releaseCalls newer
  /-- So it is released once, after the teardown, exactly if nobody releases the wrapped one
  meanwhile. -/
  once_iff : u.forwardings s.journal.size outer = 1 ∧ t.forwardings s.journal.size outer = 0 ↔
    releaseCalls u.seen = 0

/-- However the destroyed dependents and the foreign episode call back, a release of a wrapped
episode that is not called from within another one returns. It releases the foreign episode when its
own teardown is over, and besides only where a release of the wrapped one is called from within. -/
theorem release_forwards (supply : Supply σ) (e : Episode) (outer : Foreign)
    (meanwhile : Callback → Program e.interface σ) (s : Store σ) (hwrapped : e.Wraps outer s)
    (hidle : (s.episode e).destroying = false) :
    let host := supply.hostOf meanwhile
    ∃ own t foreign u, e.Forwards outer host s own t foreign u ∧
      (e.release host).run.run s.watched = some (foreign >>= fun _ => own, u) := by
  intro host
  have hstart : e.Forwarding outer s.journal.size [] 0 (s.watched : Store (Watched _ σ)) :=
    .begin hwrapped.watched
  have hdestroy : ∀ unit inst, Act.Keeps False (e.Forwarding outer s.journal.size [] 0)
      (host.destroy unit inst e) :=
    fun unit inst => Forwarding.run supply (meanwhile (.destroy unit inst e)) 0
  obtain ⟨own, t, hown, ht, hover⟩ := Act.wp_false_iff.1
    (removeAllDependents_finishes (Forwarding.drainKeeps hdestroy) (fun _ destroying h =>
      h.updated (f := fun r => { r with destroying }) rfl) hstart hidle)
  obtain ⟨seen, hseen, hearly⟩ := ht.counted
  rw [List.append_nil] at hseen
  subst hseen
  -- The release of the foreign episode is counted on top of what was passed on before.
  have hnow : e.Forwarding outer s.journal.size t.seen (t.forwardings s.journal.size outer) t :=
    ⟨ht.wraps, ht.started, [], rfl, (Nat.zero_add _).symm⟩
  obtain ⟨foreign, u, hforeign, hu⟩ := Act.wp_false_iff.1
    (Forwarding.run supply (meanwhile (.release outer)) _ _ hnow.forwarded)
  obtain ⟨newer, hnewer, hlate⟩ := hu.counted
  have hcalls : releaseCalls u.seen = releaseCalls newer + releaseCalls t.seen := by
    rw [hnewer, releaseCalls, List.countP_append]
    rfl
  refine ⟨own, t, foreign, u, ⟨hown, hover, hforeign, hearly, ⟨newer, hnewer, ?_⟩, ?_⟩,
    release_run hown ht.wraps hforeign⟩
  · omega
  · omega

/-- What a release has done in turn: destroyed an instance, or released the foreign episode. -/
def teardownStep? : Event → Option (Instance ⊕ Foreign)
  | .destroying _ inst _ => some (.inl inst)
  | .releasing outer => some (.inr outer)
  | _ => none

/-- Each dependent releases the episode when it is destroyed. -/
def rereleasing (e : Episode) : Callback → Program e.interface Unit
  | .destroy .. => .call Call.release (fun _ => .done) fun _ => .done
  | _ => .done

/-- A wrapped episode with two carts. -/
def wrappingTwo (outer : Foreign) : Episode × Store Unit :=
  let (e, s) := wrapping outer
  (e, e.addDependent { object := 1, id := ⟨"cart"⟩, variety := .plain } (some ⟨2⟩) s)

/-- The hypotheses hold where each destroyed dependent releases the episode again. -/
theorem release_forwards_rereleased :
    let outer : Foreign := ⟨7⟩
    let e := (wrappingTwo outer).1
    let s := (wrappingTwo outer).2
    let host := Supply.hostOf ⟨⟨"main"⟩, fun _ _ => ⟨0⟩, fun _ _ _ => .null⟩ (rereleasing e)
    e.Wraps outer s ∧ (s.episode e).destroying = false ∧
      ∃ own t foreign u, e.Forwards outer host s own t foreign u ∧
        (e.release host).run.run s.watched = some (foreign >>= fun _ => own, u) := by
  intro outer e s host
  have hwrapped : e.Wraps outer s := by decide +kernel
  have hidle : (s.episode e).destroying = false := by decide +kernel
  exact ⟨hwrapped, hidle, release_forwards _ e outer (rereleasing e) s hwrapped hidle⟩

/-- One release of the wrapped episode releases the foreign one three times, and first while a
dependent waits to be destroyed. -/
theorem release_forwards_early :
    let outer : Foreign := ⟨7⟩
    let e := (wrappingTwo outer).1
    let s := (wrappingTwo outer).2
    let host := Supply.hostOf ⟨⟨"main"⟩, fun _ _ => ⟨0⟩, fun _ _ _ => .null⟩ (rereleasing e)
    ∃ u, (e.release host).run.run s.watched = some (.ok (), u) ∧
      u.since teardownStep? s.journal.size =
        [.inl ⟨1⟩, .inr outer, .inl ⟨2⟩, .inr outer, .inr outer] := by
  intro outer e s host
  have hseen : ((e.release host).run.run s.watched).map
      (fun o => (o.1.toBool, o.2.since teardownStep? s.journal.size)) =
        some (true, [.inl ⟨1⟩, .inr outer, .inl ⟨2⟩, .inr outer, .inr outer]) := by
    decide +kernel
  obtain ⟨⟨r, u⟩, hrun, hended⟩ := Option.map_eq_some_iff.1 hseen
  rw [Prod.mk.injEq] at hended
  cases r with
  | error error => cases hended.1
  | ok _ => exact ⟨u, hrun, hended.2⟩

end Episode

end ContextualLifecycle
