import ContextualLifecycle.Episode
import ContextualLifecycle.Proofs.Outcome

namespace ContextualLifecycle

variable {σ : Type} {stuck : Prop} {host : Host σ} {e : Episode} {s : Store σ}

theorem Contextual.wp_destroy {Q : Except LifecycleError Unit → Store σ → Prop}
    (unit : Contextual) (inst : Instance) :
    Act.wp stuck (unit.destroy host inst e) Q s ↔
      if unit.hasDestroy then
        Act.wp stuck (host.destroy unit inst e) Q (s.note (.destroying unit inst e))
      else Q (.ok ()) (s.note (.destroying unit inst e)) := by
  simp only [Contextual.destroy, Act.wp_bind, Act.wp_modify]
  split <;> rfl

/-- What holds once a destruction is noted holds after it if it does after the callback. -/
theorem Contextual.wp_destroy_of {P : Store σ → Prop} {unit : Contextual} {inst : Instance}
    (hnoted : P (s.note (.destroying unit inst e)))
    (hdestroy : Act.wp stuck (host.destroy unit inst e) (fun _ t => P t)
      (s.note (.destroying unit inst e))) :
    Act.wp stuck (unit.destroy host inst e) (fun _ t => P t) s := by
  rw [Contextual.wp_destroy]
  split
  · exact hdestroy
  · exact hnoted

namespace Episode

def relist (e : Episode) (dependents : List Dependent) : Store σ → Store σ :=
  e.update fun r => { r with dependents }

theorem episode_update (e x : Episode) (f : Episode.Record → Episode.Record) (s : Store σ) :
    (e.update f s).episode x = if x = e then f (s.episode e) else s.episode x := by
  simp only [update, Store.setEpisode, Store.episode, Table.get?_insert]
  split <;> rfl

@[simp]
theorem episode_update_self (e : Episode) (f : Episode.Record → Episode.Record) (s : Store σ) :
    (e.update f s).episode e = f (s.episode e) := by
  rw [episode_update, if_pos rfl]

@[simp]
theorem episode_note (event : Event) (s : Store σ) : (s.note event).episode e = s.episode e := rfl

@[simp]
theorem episode_relist (dependents : List Dependent) (s : Store σ) :
    (e.relist dependents s).episode e = { s.episode e with dependents } :=
  episode_update_self e _ s

@[simp]
theorem episode_setDestroying (destroying : Bool) (s : Store σ) :
    (e.setDestroying destroying s).episode e = { s.episode e with destroying } :=
  episode_update_self e _ s

theorem episode_new (contextual : Option Contextual) (outer : Option Foreign) (factor : UInt64)
    (s : Store σ) :
    (new contextual outer factor s).2.episode (new contextual outer factor s).1 =
      { contextual, bean := contextual.bind Contextual.asBean?, outer,
        teardownFactor := max factor 1 } := by
  simp only [new, Store.episode, Store.setEpisode, Table.get?_insert, ↓reduceIte, Option.getD_some]

theorem one_le_factor (factor : UInt64) : 1 ≤ (max factor 1).toNat := by
  have hmax : max factor 1 = if factor ≤ 1 then 1 else factor := rfl
  rw [hmax]
  split
  · exact Nat.le_refl _
  · rename_i hfactor
    rw [UInt64.le_iff_toNat_le] at hfactor
    exact Nat.le_of_lt (Nat.lt_of_not_le hfactor)

theorem takeDependent_of_append {test : Dependent → Bool} {front back : List Dependent}
    {d : Dependent} (hs : (s.episode e).dependents = front ++ d :: back)
    (hfront : ∀ x ∈ front, test x = false) (hd : test d = true) :
    e.takeDependent test s = (some d, e.relist (front ++ back) s) := by
  have hfind : (s.episode e).dependents.find? test = some d := by
    rw [List.find?_eq_some_iff_append]
    exact ⟨hd, front, back, hs, fun x hx => by simp [hfront x hx]⟩
  have herase : (s.episode e).dependents.eraseP test = front ++ back := by
    rw [hs, List.eraseP_append_right _ fun x hx => by simp [hfront x hx],
      List.eraseP_cons_of_pos hd]
  simp only [takeDependent, hfind, relist, update, herase]

theorem takeDependent_of_forall {test : Dependent → Bool}
    (h : ∀ x ∈ (s.episode e).dependents, test x = false) :
    e.takeDependent test s = (none, s) := by
  have hfind : (s.episode e).dependents.find? test = none := by
    rw [List.find?_eq_none]
    exact fun x hx => by simp [h x hx]
  simp only [takeDependent, hfind]

theorem takeDependent_head {rest : List Dependent} {d : Dependent}
    (hs : (s.episode e).dependents = d :: rest) :
    e.takeDependent (fun _ => true) s = (some d, e.relist rest s) := by
  have hs' : (s.episode e).dependents = [] ++ d :: rest := hs
  exact takeDependent_of_append hs' (by simp) rfl

theorem takeDependent_cases (e : Episode) (test : Dependent → Bool) (s : Store σ) :
    (∃ front d back, (s.episode e).dependents = front ++ d :: back ∧ test d = true ∧
        e.takeDependent test s = (some d, e.relist (front ++ back) s)) ∨
      (∀ x ∈ (s.episode e).dependents, test x = false) ∧ e.takeDependent test s = (none, s) := by
  cases hfind : (s.episode e).dependents.find? test with
  | none =>
    rw [List.find?_eq_none] at hfind
    have hall : ∀ x ∈ (s.episode e).dependents, test x = false :=
      fun x hx => by simpa using hfind x hx
    exact .inr ⟨hall, takeDependent_of_forall hall⟩
  | some d =>
    obtain ⟨hd, front, back, hs, hfront⟩ := List.find?_eq_some_iff_append.1 hfind
    have hall : ∀ x ∈ front, test x = false := fun x hx => by simpa using hfront x hx
    exact .inl ⟨front, d, back, hs, hd, takeDependent_of_append hs hall hd⟩

theorem wp_release_of_unwrapped {e : Episode} {s : Store σ}
    {Q : Except LifecycleError Unit → Store σ → Prop}
    (h : Act.wp stuck (e.removeAllDependents host)
      (fun r t => (t.episode e).outer = none ∧ Q r t) s) :
    Act.wp stuck (e.release host) Q s := by
  simp only [Episode.release, Act.wp_bind, Act.wp_attempt, Act.wp_get]
  apply h.mono
  intro r t ht
  obtain ⟨houter, hQ⟩ := ht
  simp only [houter, Act.wp_liftExcept]
  exact hQ

theorem wp_removeAllDependents_of_nil {Q : Except LifecycleError Unit → Store σ → Prop}
    (h : (s.episode e).dependents = []) :
    Act.wp stuck (e.removeAllDependents host) Q s ↔ Q (.ok ()) s := by
  have hskip : ((s.episode e).destroying || (s.episode e).dependents.isEmpty) = true := by
    rw [h, List.isEmpty_nil, Bool.or_true]
  simp only [removeAllDependents, Act.wp_bind, Act.wp_get, hskip, ↓reduceIte, Act.wp_pure]

theorem wp_removeAllDependents {Q : Except LifecycleError Unit → Store σ → Prop}
    (hidle : (s.episode e).destroying = false) (hheld : (s.episode e).dependents ≠ [])
    (h : Run.wp stuck (e.drain host (s.episode e).budget) (fun o t =>
      (o.1 = true → Q (.error (.teardownLoop ((t.episode e).ownerName e) (s.episode e).budget))
        (e.setDestroying false (t.report (.teardownDiverged e ((t.episode e).ownerName e)
          (s.episode e).budget)))) ∧
      (o.1 = false → Q (if o.2.isEmpty then .ok ()
          else .error (.teardown ((t.episode e).ownerName e) o.2)) (e.setDestroying false t)))
      (e.setDestroying true s)) :
    Act.wp stuck (e.removeAllDependents host) Q s := by
  have hgo : ((s.episode e).destroying || (s.episode e).dependents.isEmpty) = false := by
    rw [hidle, Bool.false_or]
    exact List.isEmpty_eq_false_iff.2 hheld
  simp only [removeAllDependents, Act.wp_bind, Act.wp_get, hgo, Bool.false_eq_true, ↓reduceIte,
    Act.wp_modify, Act.wp_liftM]
  apply h.mono
  rintro ⟨exhausted, failures⟩ t ⟨hexhausted, hfinished⟩
  cases exhausted with
  | true =>
    simp only [↓reduceIte, Act.wp_bind, Act.wp_modify, Act.wp_throw]
    exact hexhausted rfl
  | false =>
    simp only [Bool.false_eq_true, ↓reduceIte, Act.wp_bind, Act.wp_modify, Act.wp_failIfAny]
    exact hfinished rfl

/-- The steps of the loop that destroys dependents keep an invariant. -/
structure DrainKeeps (stuck : Prop) (host : Host σ) (e : Episode) (Inv : Store σ → Prop) :
    Prop where
  taken : ∀ s front d back, Inv s → (s.episode e).dependents = front ++ d :: back →
    Inv ((e.relist (front ++ back) s).note (.destroying d.contextual d.inst e))
  reported : ∀ s content, Inv s → Inv (s.report content)
  destroy : ∀ unit inst, Act.Keeps stuck Inv (host.destroy unit inst e)

/-- The steps of a release keep an invariant. -/
structure ReleaseKeeps (stuck : Prop) (host : Host σ) (e : Episode) (Inv : Store σ → Prop) : Prop
    extends DrainKeeps stuck host e Inv where
  flagged : ∀ s destroying, Inv s → Inv (e.setDestroying destroying s)
  released : ∀ s outer, Inv s → Inv (s.note (.releasing outer))
  release : ∀ outer, Act.Keeps stuck Inv (host.release outer)

variable {Inv : Store σ → Prop}

/-- Taking a dependent out and destroying it is one step of the loop. -/
theorem DrainKeeps.destroyed (h : DrainKeeps stuck host e Inv) (front : List Dependent)
    {back : List Dependent} {d : Dependent} (hs : Inv s)
    (hd : (s.episode e).dependents = front ++ d :: back) :
    Act.wp stuck (d.contextual.destroy host d.inst e) (fun _ t => Inv t)
      (e.relist (front ++ back) s) := by
  have hnoted := h.taken s front d back hs hd
  exact Contextual.wp_destroy_of hnoted (h.destroy _ _ _ hnoted)

theorem DrainKeeps.destroyDependent (h : DrainKeeps stuck host e Inv) (inst : Instance) :
    Act.Keeps stuck Inv (e.destroyDependent host inst) := by
  intro s hs
  simp only [Episode.destroyDependent, Act.wp_bind, Act.wp_modifyGet]
  obtain ⟨front, d, back, hd, _, htake⟩ | ⟨_, htake⟩ :=
    takeDependent_cases e (·.inst == inst) s
  · simp only [htake, Act.wp_bind, Act.wp_pure]
    apply (h.destroyed front hs hd).mono
    intro r t ht
    cases r <;> exact ht
  · simpa only [htake, Act.wp_pure] using hs

theorem DrainKeeps.drain (h : DrainKeeps stuck host e Inv) (budget : Nat) :
    Run.Keeps stuck Inv (e.drain host budget) := by
  induction budget with
  | zero => exact fun s hs => hs
  | succ budget ih =>
    intro s hs
    simp only [Episode.drain, Run.wp_bind, Run.wp_modifyGet]
    cases hd : (s.episode e).dependents with
    | nil =>
      rw [takeDependent_of_forall (by simp [hd])]
      exact hs
    | cons d rest =>
      rw [takeDependent_head hd]
      simp only [Run.wp_bind, Run.wp_run]
      apply (h.destroyed [] hs hd).mono
      intro r t ht
      cases r with
      | ok _ => exact ih t ht
      | error error =>
        simp only [Run.wp_bind, Run.wp_modify]
        exact ih _ (h.reported _ _ ht)

theorem DrainKeeps.removeAllDependents (h : DrainKeeps stuck host e Inv)
    (hflagged : ∀ s destroying, Inv s → Inv (e.setDestroying destroying s)) :
    Act.Keeps stuck Inv (e.removeAllDependents host) := by
  intro s hs
  simp only [Episode.removeAllDependents, Act.wp_bind, Act.wp_get]
  split
  · exact hs
  · simp only [Act.wp_bind, Act.wp_modify, Act.wp_get, Act.wp_liftM]
    apply (h.drain _ _ (hflagged _ _ hs)).mono
    intro o t ht
    split
    · exact hflagged _ _ (h.reported _ _ ht)
    · simp only [Act.wp_bind, Act.wp_modify, Act.wp_failIfAny]
      exact hflagged _ _ ht

theorem ReleaseKeeps.removeAllDependents (h : ReleaseKeeps stuck host e Inv) :
    Act.Keeps stuck Inv (e.removeAllDependents host) :=
  h.toDrainKeeps.removeAllDependents h.flagged

theorem wp_release_of (hteardown : Act.wp stuck (e.removeAllDependents host) (fun _ t => Inv t) s)
    (hreleased : ∀ t outer, Inv t → Inv (t.note (.releasing outer)))
    (hrelease : ∀ outer, Act.Keeps stuck Inv (host.release outer)) :
    Act.wp stuck (e.release host) (fun _ t => Inv t) s := by
  simp only [Episode.release, Act.wp_bind, Act.wp_attempt, Act.wp_get]
  apply hteardown.mono
  intro r t ht
  split
  · simp only [Act.wp_bind, Act.wp_modify]
    apply (hrelease _ _ (hreleased _ _ ht)).mono
    intro r' t' ht'
    cases r' with
    | ok _ => simpa only [Act.wp_liftExcept] using ht'
    | error error => exact ht'
  · simpa only [Act.wp_liftExcept] using ht

theorem ReleaseKeeps.release_keeps (h : ReleaseKeeps stuck host e Inv) :
    Act.Keeps stuck Inv (e.release host) :=
  fun s hs => wp_release_of (h.removeAllDependents s hs) h.released h.release

theorem push_keeps (inst : Instance)
    (hincomplete : ∀ s, Inv s → Inv (e.update (fun r => { r with incomplete := some inst }) s))
    (hpushing : ∀ s outer, Inv s → Inv (s.note (.pushing outer inst)))
    (hpush : ∀ outer, Run.Keeps stuck Inv (host.push outer inst)) :
    Run.Keeps stuck Inv (e.push host inst) := by
  intro s hs
  simp only [Episode.push, Run.wp_bind, Run.wp_modify, Run.wp_get]
  split
  · simp only [Run.wp_bind, Run.wp_modify]
    exact hpush _ _ (hpushing _ _ (hincomplete s hs))
  · exact hincomplete s hs

end Episode

end ContextualLifecycle
