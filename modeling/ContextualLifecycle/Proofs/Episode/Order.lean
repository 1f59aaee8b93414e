import ContextualLifecycle.Proofs.Episode.Conservation

namespace ContextualLifecycle

variable {σ : Type} {stuck : Prop}

namespace Episode

theorem Record.register_dependents (r : Episode.Record) (unit : Contextual) (inst : Instance) :
    (r.register unit inst).dependents =
      if r.owns unit inst then r.dependents
      else if r.bean.any unit.isSame then ⟨unit, inst⟩ :: r.dependents
      else r.dependents ++ [⟨unit, inst⟩] := by
  rw [register]
  split
  · rfl
  · dsimp only

def registerAll (e : Episode) (registrations : List (Contextual × Option Instance))
    (s : Store σ) : Store σ :=
  registrations.foldl (fun s registration => e.addDependent registration.1 registration.2 s) s

def enlist (listed : List Dependent) : Contextual × Option Instance → List Dependent
  | (_, none) => listed
  | (unit, some inst) =>
    if listed.any (·.isFor unit inst) then listed else listed ++ [⟨unit, inst⟩]

def recorded (registrations : List (Contextual × Option Instance)) : List Dependent :=
  registrations.foldl enlist []

/-- Records of the own bean come first, the latest before the others, then all other ones. -/
def arranged (bean : Option Contextual) (records : List Dependent) : List Dependent :=
  (records.filter fun d => bean.any d.contextual.isSame).reverse ++
    records.filter fun d => !bean.any d.contextual.isSame

theorem mem_arranged {bean : Option Contextual} {records : List Dependent} {d : Dependent} :
    d ∈ arranged bean records ↔ d ∈ records := by
  rw [arranged, List.mem_append, List.mem_reverse, List.mem_filter, List.mem_filter]
  cases bean.any d.contextual.isSame <;> simp

theorem arranged_perm (bean : Option Contextual) (records : List Dependent) :
    (arranged bean records).Perm records :=
  ((List.reverse_perm _).append_right _).trans (List.filter_append_perm _ records)

theorem any_arranged (bean : Option Contextual) (records : List Dependent)
    (test : Dependent → Bool) : (arranged bean records).any test = records.any test := by
  rw [Bool.eq_iff_iff, List.any_eq_true, List.any_eq_true]
  simp only [mem_arranged]

/-- A registration keeps the list arranged. -/
theorem arranged_enlist {r : Episode.Record} {records : List Dependent}
    (h : r.dependents = arranged r.bean records) (unit : Contextual) (inst : Instance) :
    (r.register unit inst).dependents = arranged r.bean (enlist records (unit, some inst)) := by
  have howns : r.owns unit inst = records.any (·.isFor unit inst) := by
    rw [Record.owns, h, any_arranged]
  rw [Record.register_dependents, howns, enlist, h]
  split
  · rfl
  · cases hown : r.bean.any unit.isSame <;> simp [arranged, hown, List.filter_append]

theorem registerAll_dependents {e : Episode} {s : Store σ} (records : List Dependent)
    (h : (s.episode e).dependents = arranged (s.episode e).bean records)
    (registrations : List (Contextual × Option Instance)) :
    (e.registerAll registrations s).episode e = { s.episode e with
      dependents := arranged (s.episode e).bean (registrations.foldl enlist records) } := by
  induction registrations generalizing s records with
  | nil =>
    rw [List.foldl_nil, ← h]
    rfl
  | cons registration registrations ih =>
    obtain ⟨unit, inst⟩ := registration
    cases inst with
    | none => exact ih records h
    | some inst =>
      have hs : (e.addDependent unit (some inst) s).episode e =
          (s.episode e).register unit inst := episode_update_self e _ s
      have hbean : ((s.episode e).register unit inst).bean = (s.episode e).bean := by
        rw [Record.register]
        split <;> rfl
      have hnext := ih (s := e.addDependent unit (some inst) s)
        (enlist records (unit, some inst)) (by rw [hs, hbean, arranged_enlist h])
      rw [hs, hbean] at hnext
      refine hnext.trans ?_
      rw [Record.register]
      split <;> rfl

/-- A teardown of the records `held` that has destroyed those in `gone`: these and the listed ones
are the held records, followed by those that were registered since. -/
structure Queue (e : Episode) (start : Nat) (bean : Option Contextual) (held gone : List Dependent)
    (s : Store (Watched e.interface σ)) : Prop where
  started : start ≤ s.journal.size
  destroying : (s.episode e).destroying = true
  own : (s.episode e).bean = bean
  destroyed : s.destroyedSince start e = gone
  queued : held ++ (e.accepted s.seen).reverse = gone ++ (s.episode e).dependents

/-- Calls that leave the order of the list alone: registrations for others than the own bean,
look-ups and releases. -/
def Appends (e : Episode) (bean : Option Contextual) : e.interface.Call → Prop
  | .add unit _ => bean.any unit.isSame = false
  | .contains .. | .release => True
  | .destroy _ => False

/-- Calls that only look at the list. -/
def Consults (e : Episode) : e.interface.Call → Prop
  | .contains .. => True
  | _ => False

variable {e : Episode} {start : Nat} {bean : Option Contextual} {held gone : List Dependent}
  {s : Store (Watched e.interface σ)}

theorem Queue.noted (h : e.Queue start bean held gone s) {event : Event}
    (hevent : event.destroyedFor? e = none) : e.Queue start bean held gone (s.note event) where
  started := Nat.le_trans h.started (by simp [Store.note])
  destroying := h.destroying
  own := h.own
  destroyed := (Store.destroyedSince_note_of_none h.started hevent).trans h.destroyed
  queued := h.queued

theorem Queue.sawMoment (h : e.Queue start bean held gone s) :
    e.Queue start bean held gone s.sawMoment :=
  ⟨h.started, h.destroying, h.own, h.destroyed, h.queued⟩

theorem Queue.sawCall (h : e.Queue start bean held gone s) (op : Episode.Call)
    (hop : ∀ unit inst, op ≠ .add unit inst) (before : Store (Watched e.interface σ))
    (answer : Except LifecycleError op.Answer) :
    e.Queue start bean held gone
      (s.saw (.call (op : e.interface.Call) before.bare answer s.bare)) := by
  have haccepted :
      e.accepted? (.call (op : e.interface.Call) before.bare answer s.bare) = none := by
    cases op with
    | add unit inst => exact absurd rfl (hop unit inst)
    | _ => rfl
  refine ⟨h.started, h.destroying, h.own, h.destroyed, ?_⟩
  rw [Store.seen_saw, accepted, List.filterMap_cons_none haccepted]
  exact h.queued

theorem Queue.sawAdd (h : e.Queue start bean held gone s) {unit : Contextual}
    (hunit : bean.any unit.isSame = false) (inst : Option Instance) :
    let after := e.addDependent unit inst s
    e.Queue start bean held gone
      (after.saw (.call (Call.add unit inst : e.interface.Call) s.bare (.ok ()) after.bare)) := by
  cases inst with
  | none => exact ⟨h.started, h.destroying, h.own, h.destroyed, h.queued⟩
  | some inst =>
    intro after
    have hrecord : after.episode e = (s.episode e).register unit inst := episode_update_self e _ s
    have hsame : after.episode e =
        { s.episode e with dependents := (after.episode e).dependents } := by
      rw [hrecord, Record.register]
      split <;> rfl
    have hlist : (after.episode e).dependents =
        if (s.episode e).owns unit inst then (s.episode e).dependents
        else (s.episode e).dependents ++ [⟨unit, inst⟩] := by
      rw [hrecord, Record.register_dependents, h.own, hunit]
      rfl
    refine ⟨h.started, ?_, ?_, h.destroyed, ?_⟩
    · exact (congrArg Episode.Record.destroying hsame).trans h.destroying
    · exact (congrArg Episode.Record.bean hsame).trans h.own
    · have haccepted : e.accepted? (.call (Call.add unit (some inst) : e.interface.Call) s.bare
          (.ok ()) after.bare) =
            if (after.episode e).dependents = (s.episode e).dependents then none
            else some ⟨unit, inst⟩ := rfl
      change held ++ (List.filterMap e.accepted? (_ :: s.seen)).reverse =
        gone ++ (after.episode e).dependents
      rw [hlist] at haccepted ⊢
      split
      · rename_i howns
        rw [if_pos howns, if_pos rfl] at haccepted
        rw [List.filterMap_cons_none haccepted]
        exact h.queued
      · rename_i howns
        rw [if_neg howns, if_neg (by simp)] at haccepted
        rw [List.filterMap_cons_some haccepted, List.reverse_cons, ← List.append_assoc,
          ← List.append_assoc]
        exact congrArg (· ++ [⟨unit, inst⟩]) h.queued

theorem Queue.popped (h : e.Queue start bean held gone s) {d : Dependent} {rest : List Dependent}
    (hd : (s.episode e).dependents = d :: rest) :
    e.Queue start bean held (gone ++ [d])
      ((e.relist rest s).note (.destroying d.contextual d.inst e)) where
  started := Nat.le_trans h.started (by simp [Store.note, relist, update, Store.setEpisode])
  destroying := by
    rw [episode_note, episode_relist]
    exact h.destroying
  own := by
    rw [episode_note, episode_relist]
    exact h.own
  destroyed := by
    rw [Store.destroyedSince_destroying (by exact h.started)]
    exact congrArg (· ++ [d]) h.destroyed
  queued := by
    rw [episode_note, episode_relist, List.append_assoc, List.singleton_append, ← hd]
    exact h.queued

theorem Queue.reentered {supply : Supply σ} {during : Callback → Act (Watched e.interface σ) Unit}
    (hduring : ∀ cb, Act.Keeps stuck (e.Queue start bean held gone) (during cb))
    (h : e.Queue start bean held gone s) :
    Act.wp stuck (e.release (supply.watched.host during))
      (fun _ t => e.Queue start bean held gone t) s := by
  have hskip : ((s.episode e).destroying || (s.episode e).dependents.isEmpty) = true := by
    rw [h.destroying, Bool.true_or]
  simp only [Episode.release, removeAllDependents, Act.wp_bind, Act.wp_attempt, Act.wp_get, hskip,
    ↓reduceIte, Act.wp_pure]
  split
  · simp only [Act.wp_bind, Act.wp_modify]
    apply (hduring _ _ (h.noted rfl)).mono
    intro r t ht
    cases r <;> exact ht
  · simpa only [Act.wp_liftExcept] using h

theorem Queue.run (supply : Supply σ) (p : Program e.interface σ) (hp : p.Only (e.Appends bean)) :
    Act.Keeps stuck (e.Queue start bean held gone) (p.run supply) := by
  refine p.run_keeps_only supply (fun s h => h.sawMoment)
    (fun own s h => ⟨h.started, h.destroying, h.own, h.destroyed, h.queued⟩)
    (fun during hduring op hop s h => ?_) hp
  cases op with
  | add unit inst => exact h.sawAdd hop inst
  | contains unit inst => exact h.sawCall (.contains unit inst) (by simp) s _
  | destroy inst => exact absurd hop id
  | release =>
    exact (Queue.reentered hduring h).mono fun answer t ht =>
      ht.sawCall .release (by simp) s answer

/-- The loop of a teardown takes records from the front of the queue until its budget is used up or
none is left. -/
theorem Queue.drain {host : Host (Watched e.interface σ)}
    (hdestroy : ∀ gone unit inst,
      Act.Keeps stuck (e.Queue start bean held gone) (host.destroy unit inst e))
    (budget : Nat) (h : e.Queue start bean held gone s) :
    Run.wp stuck (e.drain host budget) (fun _ t => ∃ popped,
      e.Queue start bean held (gone ++ popped) t ∧ popped.length ≤ budget ∧
        (popped.length = budget ∨ (t.episode e).dependents = [])) s := by
  induction budget generalizing gone s with
  | zero =>
    simp only [Episode.drain, Run.wp_bind, Run.wp_get, Run.wp_pure]
    exact ⟨[], by rwa [List.append_nil], Nat.le_refl _, .inl rfl⟩
  | succ budget ih =>
    simp only [Episode.drain, Run.wp_bind, Run.wp_modifyGet]
    cases hd : (s.episode e).dependents with
    | nil =>
      rw [takeDependent_of_forall (by simp [hd])]
      exact ⟨[], by rwa [List.append_nil], Nat.zero_le _, .inr hd⟩
    | cons d rest =>
      rw [takeDependent_head hd]
      have hdestroyed : Act.wp stuck (d.contextual.destroy host d.inst e)
          (fun _ t => e.Queue start bean held (gone ++ [d]) t) (e.relist rest s) :=
        Contextual.wp_destroy_of (h.popped hd) (hdestroy _ _ _ _ (h.popped hd))
      -- What the rest of the loop pops comes after the first record.
      have hrest : ∀ t, e.Queue start bean held (gone ++ [d]) t →
          Run.wp stuck (e.drain host budget) (fun _ u => ∃ popped,
            e.Queue start bean held (gone ++ popped) u ∧ popped.length ≤ budget + 1 ∧
              (popped.length = budget + 1 ∨ (u.episode e).dependents = [])) t := by
        intro t ht
        apply (ih ht).mono
        intro o u hu
        obtain ⟨popped, hu, hlength, hend⟩ := hu
        rw [List.append_assoc] at hu
        exact ⟨d :: popped, hu, Nat.succ_le_succ hlength, hend.imp_left (congrArg (· + 1))⟩
      simp only [Run.wp_bind, Run.wp_run]
      apply hdestroyed.mono
      intro r t ht
      cases r with
      | ok _ => exact hrest t ht
      | error error =>
        simp only [Run.wp_bind, Run.wp_modify]
        exact hrest _ (ht.noted rfl)

/-- What a release with a limit has destroyed: the first of the held records and of those that were
registered meanwhile. -/
structure Halted (e : Episode) (start : Nat) (held : List Dependent) (limit : Nat)
    (s : Store (Watched e.interface σ)) : Prop where
  started : start ≤ s.journal.size
  destroyed : s.destroyedSince start e = (held ++ (e.accepted s.seen).reverse).take limit

variable {limit : Nat}

theorem Queue.halted (h : e.Queue start bean held gone s) (hlength : gone.length ≤ limit)
    (hend : gone.length = limit ∨ (s.episode e).dependents = []) : e.Halted start held limit s where
  started := h.started
  destroyed := by
    rw [h.queued, h.destroyed]
    cases hend with
    | inl hlimit => rw [List.take_left' hlimit]
    | inr hnil => rw [hnil, List.append_nil, List.take_of_length_le hlength]

theorem Halted.noted (h : e.Halted start held limit s) {event : Event}
    (hevent : event.destroyedFor? e = none) : e.Halted start held limit (s.note event) where
  started := Nat.le_trans h.started (by simp [Store.note])
  destroyed := (Store.destroyedSince_note_of_none h.started hevent).trans h.destroyed

theorem Halted.run (supply : Supply σ) (p : Program e.interface σ) (hp : p.Only e.Consults) :
    Act.Keeps stuck (e.Halted start held limit) (p.run supply) := by
  refine p.run_keeps_only supply (fun s h => ⟨h.started, h.destroyed⟩)
    (fun own s h => ⟨h.started, h.destroyed⟩) (fun during hduring op hop s h => ?_) hp
  cases op with
  | contains unit inst => exact ⟨h.started, h.destroyed⟩
  | _ => exact absurd hop id

theorem removeAllDependents_halts {supply : Supply σ}
    {meanwhile : Callback → Program e.interface σ}
    (hmeanwhile : ∀ cb, (meanwhile cb).Only (e.Appends bean)) {s : Store σ}
    (hidle : (s.episode e).destroying = false) (hbean : (s.episode e).bean = bean) :
    Act.wp stuck (e.removeAllDependents (supply.hostOf meanwhile))
      (fun _ t => e.Halted s.journal.size (s.episode e).dependents (s.episode e).budget t)
      s.watched := by
  by_cases hheld : (s.episode e).dependents = []
  · refine (wp_removeAllDependents_of_nil (s := s.watched) hheld).2 ⟨Nat.le_refl _, ?_⟩
    rw [hheld]
    change _ = List.take _ []
    rw [List.take_nil]
    exact Store.destroyedSince_size e s
  · refine wp_removeAllDependents (s := s.watched) hidle hheld ?_
    have hqueue : e.Queue s.journal.size bean (s.episode e).dependents []
        (e.setDestroying true (s.watched : Store (Watched e.interface σ))) := by
      have hrecord :=
        episode_setDestroying (e := e) true (s.watched : Store (Watched e.interface σ))
      refine ⟨Nat.le_refl _, ?_, ?_, Store.destroyedSince_size e s, ?_⟩
      · rw [hrecord]
      · rw [hrecord]
        exact hbean
      · rw [hrecord]
        exact List.append_nil _
    have hdestroy : ∀ gone unit inst, Act.Keeps stuck
        (e.Queue s.journal.size bean (s.episode e).dependents gone)
        ((supply.hostOf meanwhile).destroy unit inst e) :=
      fun _ _ _ => Queue.run supply _ (hmeanwhile _)
    apply (Queue.drain hdestroy (s.episode e).budget hqueue).mono
    intro o t ht
    obtain ⟨popped, hqueue, hlength, hend⟩ := ht
    have hhalted := hqueue.halted hlength hend
    exact ⟨fun _ => ⟨(hhalted.noted rfl).started, (hhalted.noted rfl).destroyed⟩,
      fun _ => ⟨hhalted.started, hhalted.destroyed⟩⟩

/-- A release destroys in order. After any registrations for a new episode, and with destroy
callbacks that register dependents for others than its own bean, but destroy none: the destroyed
records are as many as the budget allows, from the front, of the own bean's records, the latest
first, the other records as they were registered, and those that were registered during the
teardown. The product of the budget saturates at the greatest word. -/
theorem release_order (supply : Supply σ) (contextual : Option Contextual)
    (outer : Option Foreign) (factor : UInt64) (s₀ : Store σ)
    (registrations : List (Contextual × Option Instance)) :
    let made := Episode.new contextual outer factor s₀
    let e := made.1
    let bean := contextual.bind Contextual.asBean?
    let s := e.registerAll registrations made.2
    let held := arranged bean (recorded registrations)
    let limit := min (held.length * (max factor 1).toNat) (UInt64.size - 1)
    ∀ meanwhile : Callback → Program e.interface σ,
      (∀ cb, (meanwhile cb).Only (e.Appends bean)) →
      (∀ outer, (meanwhile (.release outer)).Only e.Consults) →
      ∃ r t, (e.release (supply.hostOf meanwhile)).run.run s.watched = some (r, t) ∧
        (s.episode e).dependents = held ∧
        t.destroyedSince s.journal.size e = (held ++ (e.accepted t.seen).reverse).take limit ∧
        (held.length < UInt64.size → held <+: t.destroyedSince s.journal.size e) := by
  intro made e bean s held limit meanwhile hmeanwhile hforeign
  have hmade : made.2.episode e =
      { contextual, bean, outer, teardownFactor := max factor 1 } :=
    episode_new contextual outer factor s₀
  have hrecord : s.episode e =
      { contextual, bean, outer, teardownFactor := max factor 1, dependents := held } := by
    refine (registerAll_dependents [] ?_ registrations).trans ?_
    · rw [hmade]
      rfl
    · rw [hmade]
      rfl
  have hlist : (s.episode e).dependents = held := by rw [hrecord]
  have hbudget : (s.episode e).budget = limit := by
    rw [hrecord]
    rfl
  suffices h : Act.wp False (e.release (supply.hostOf meanwhile))
      (fun _ t => e.Halted s.journal.size held limit t) s.watched by
    obtain ⟨r, t, hrun, ht⟩ := Act.wp_false_iff.1 h
    refine ⟨r, t, hrun, hlist, ht.destroyed, fun hsize => ?_⟩
    have hall : held.length ≤ limit :=
      Nat.le_min.2 ⟨Nat.le_mul_of_pos_right _ (one_le_factor factor), Nat.le_sub_one_of_lt hsize⟩
    rw [ht.destroyed]
    exact List.prefix_take_iff.2 ⟨List.prefix_append _ _, hall⟩
  have hteardown : Act.wp False (e.removeAllDependents (supply.hostOf meanwhile)) _ s.watched :=
    removeAllDependents_halts hmeanwhile (by rw [hrecord]) (by rw [hrecord])
  rw [hlist, hbudget] at hteardown
  exact wp_release_of hteardown (fun _ _ ht => ht.noted rfl)
    fun outer => Halted.run supply _ (hforeign outer)

/-- The hypotheses hold of an episode of a bean whose dependents register another one each time one
is destroyed, without end: of the four records that the budget allows, the last two are such. -/
theorem release_order_endless :
    let own : Contextual := { object := 1, id := ⟨"own"⟩, variety := .bean .dependent none }
    let other : Contextual := { object := 2, id := ⟨"other"⟩, variety := .plain }
    let made := Episode.new (some own) none 2 ({ surroundings := () } : Store Unit)
    let registrations := [(other, some ⟨1⟩), (own, some ⟨2⟩), (other, some ⟨1⟩), (own, none)]
    let s := made.1.registerAll registrations made.2
    let supply : Supply Unit := ⟨⟨"main"⟩, fun _ _ => ⟨0⟩, fun _ _ _ => .null⟩
    let meanwhile : Callback → Program made.1.interface Unit
      | .destroy _ inst _ =>
        .call (Call.add other (some ⟨inst.token + 10⟩)) (fun _ => .done) fun _ => .done
      | _ => .done
    (∀ cb, (meanwhile cb).Only (made.1.Appends (some own))) ∧
      (∀ outer, (meanwhile (.release outer)).Only made.1.Consults) ∧
      ∃ r t, (made.1.release (supply.hostOf meanwhile)).run.run s.watched = some (r, t) ∧
        t.destroyedSince s.journal.size made.1 = (arranged (some own) (recorded registrations) ++
          (made.1.accepted t.seen).reverse).take 4 ∧
        t.destroyedSince s.journal.size made.1 =
          [⟨own, ⟨2⟩⟩, ⟨other, ⟨1⟩⟩, ⟨other, ⟨12⟩⟩, ⟨other, ⟨11⟩⟩] := by
  intro own other made registrations s supply meanwhile
  have hmeanwhile : ∀ cb, (meanwhile cb).Only (made.1.Appends (some own)) := by
    intro cb
    cases cb with
    | destroy unit inst x => exact ⟨rfl, fun _ => trivial, fun _ => trivial⟩
    | _ => exact trivial
  have hforeign : ∀ outer, (meanwhile (.release outer)).Only made.1.Consults := fun _ => trivial
  obtain ⟨r, t, hrun, _, horder, _⟩ :=
    release_order supply (some own) none 2 { surroundings := () } registrations meanwhile
      hmeanwhile hforeign
  have hdestroyed : ((made.1.release (supply.hostOf meanwhile)).run.run s.watched).map
      (fun o => o.2.destroyedSince s.journal.size made.1) =
        some [⟨own, ⟨2⟩⟩, ⟨other, ⟨1⟩⟩, ⟨other, ⟨12⟩⟩, ⟨other, ⟨11⟩⟩] := by decide +kernel
  rw [hrun] at hdestroyed
  exact ⟨hmeanwhile, hforeign, r, t, hrun, horder, Option.some.inj hdestroyed⟩

end Episode

end ContextualLifecycle
