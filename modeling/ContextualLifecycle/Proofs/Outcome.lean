import ContextualLifecycle.Store

namespace ContextualLifecycle

variable {σ α β : Type} {stuck : Prop} {s : Store σ}

/-- A step from `s` returns with `Q`; a step that never returns is settled by `stuck`. -/
def Run.wp (stuck : Prop) (x : Run σ α) (Q : α → Store σ → Prop) (s : Store σ) : Prop :=
  match x.run s with
  | none => stuck
  | some (a, t) => Q a t

/-- The same for a step that may fail; what it returns with may be an error. -/
def Act.wp (stuck : Prop) (x : Act σ α) (Q : Except LifecycleError α → Store σ → Prop)
    (s : Store σ) : Prop :=
  Run.wp stuck x.run Q s

theorem Run.wp.mono {x : Run σ α} {P Q : α → Store σ → Prop} (h : Run.wp stuck x P s)
    (hPQ : ∀ a t, P a t → Q a t) : Run.wp stuck x Q s := by
  rw [Run.wp] at h ⊢
  cases hx : x.run s with
  | none => simpa only [hx] using h
  | some r =>
    simp only [hx] at h
    exact hPQ _ _ h

theorem Act.wp.mono {x : Act σ α} {P Q : Except LifecycleError α → Store σ → Prop}
    (h : Act.wp stuck x P s) (hPQ : ∀ r t, P r t → Q r t) : Act.wp stuck x Q s :=
  Run.wp.mono h hPQ

theorem Run.wp.and {x : Run σ α} {P Q : α → Store σ → Prop} (hP : Run.wp stuck x P s)
    (hQ : Run.wp stuck x Q s) : Run.wp stuck x (fun a t => P a t ∧ Q a t) s := by
  rw [Run.wp] at hP hQ ⊢
  cases hx : x.run s with
  | none => simpa only [hx] using hP
  | some r =>
    simp only [hx] at hP hQ
    exact ⟨hP, hQ⟩

theorem Act.wp.and {x : Act σ α} {P Q : Except LifecycleError α → Store σ → Prop}
    (hP : Act.wp stuck x P s) (hQ : Act.wp stuck x Q s) :
    Act.wp stuck x (fun r t => P r t ∧ Q r t) s :=
  Run.wp.and hP hQ

theorem Act.wp.run {x : Act σ α} {Q : Except LifecycleError α → Store σ → Prop}
    (h : Act.wp stuck x Q s) :
    Act.wp stuck x (fun r t => x.run.run s = some (r, t) ∧ Q r t) s := by
  rw [Act.wp, Run.wp] at h ⊢
  cases hx : x.run.run s with
  | none => simpa only [hx] using h
  | some o =>
    simp only [hx] at h
    exact ⟨rfl, h⟩

theorem Run.wp_outcome (x : Run σ α) (s : Store σ) :
    Run.wp True x (fun a t => x.run s = some (a, t)) s := by
  rw [Run.wp]
  cases hx : x.run s with
  | none => trivial
  | some o => rfl

theorem Act.wp_outcome (x : Act σ α) (s : Store σ) :
    Act.wp True x (fun r t => x.run.run s = some (r, t)) s :=
  Run.wp_outcome x.run s

theorem Act.of_failed {P : α → Prop} {error : LifecycleError} (a : α)
    (h : (.error error : Except LifecycleError α) = .ok a) : P a := by
  cases h

theorem Run.wp_of_run {x : Run σ α} {Q : α → Store σ → Prop} {a : α} {t : Store σ}
    (h : x.run s = some (a, t)) : Run.wp stuck x Q s ↔ Q a t := by
  rw [Run.wp, h]

theorem Act.wp_of_run {x : Act σ α} {Q : Except LifecycleError α → Store σ → Prop}
    {r : Except LifecycleError α} {t : Store σ} (h : x.run.run s = some (r, t)) :
    Act.wp stuck x Q s ↔ Q r t :=
  Run.wp_of_run h

theorem Act.run_eq_of_wp {x : Act σ α}
    {o : Option (Except LifecycleError α × Store σ)}
    (h : Act.wp (o = none) x (fun r t => o = some (r, t)) s) : x.run.run s = o := by
  rw [Act.wp, Run.wp] at h
  split at h
  · rename_i hx
    exact hx.trans h.symm
  · rename_i hx
    exact hx.trans h.symm

theorem Run.wp_false_iff {x : Run σ α} {Q : α → Store σ → Prop} :
    Run.wp False x Q s ↔ ∃ a t, x.run s = some (a, t) ∧ Q a t := by
  rw [Run.wp]
  cases hx : x.run s with
  | none => simp
  | some o =>
    constructor
    · exact fun h => ⟨o.1, o.2, rfl, h⟩
    · rintro ⟨a, t, h, hQ⟩
      cases h
      exact hQ

theorem Act.wp_false_iff {x : Act σ α} {Q : Except LifecycleError α → Store σ → Prop} :
    Act.wp False x Q s ↔ ∃ r t, x.run.run s = some (r, t) ∧ Q r t :=
  Run.wp_false_iff

theorem Act.wp_true_iff {x : Act σ α} {Q : Except LifecycleError α → Store σ → Prop} :
    Act.wp True x Q s ↔ ∀ r t, x.run.run s = some (r, t) → Q r t := by
  rw [Act.wp, Run.wp]
  cases hx : x.run.run s with
  | none => simp
  | some o =>
    constructor
    · rintro h r t hrt
      cases hrt
      exact h
    · exact fun h => h o.1 o.2 rfl

theorem Run.wp.returns {x : Run σ α} {P Q : α → Store σ → Prop} (h : Run.wp True x Q s)
    (hreturns : Run.wp stuck x P s) : Run.wp stuck x Q s := by
  rw [Run.wp] at h hreturns ⊢
  cases hx : x.run s with
  | none => simpa only [hx] using hreturns
  | some o => simpa only [hx] using h

theorem Act.run_congr {x y : Act σ α} (h : ∀ Q, Act.wp False x Q s ↔ Act.wp False y Q s) :
    x.run.run s = y.run.run s := by
  cases hx : x.run.run s with
  | none =>
    cases hy : y.run.run s with
    | none => rfl
    | some o =>
      have hreturns := (h fun _ _ => True).2 (Act.wp_false_iff.2 ⟨o.1, o.2, hy, trivial⟩)
      obtain ⟨r, t, hrun, _⟩ := Act.wp_false_iff.1 hreturns
      rw [hx] at hrun
      cases hrun
  | some o =>
    have hsame := (h fun r t => (r, t) = o).1 (Act.wp_false_iff.2 ⟨o.1, o.2, hx, rfl⟩)
    obtain ⟨r, t, hrun, heq⟩ := Act.wp_false_iff.1 hsame
    rw [hrun, heq]

section Run

variable {Q : α → Store σ → Prop}

@[simp]
theorem Run.wp_pure (a : α) : Run.wp stuck (pure a) Q s ↔ Q a s := Iff.rfl

@[simp]
theorem Run.wp_bind (x : Run σ β) (f : β → Run σ α) :
    Run.wp stuck (x >>= f) Q s ↔ Run.wp stuck x (fun b => Run.wp stuck (f b) Q) s := by
  simp only [Run.wp, StateT.run_bind]
  cases x.run s <;> rfl

@[simp]
theorem Run.wp_map (f : β → α) (x : Run σ β) :
    Run.wp stuck (f <$> x) Q s ↔ Run.wp stuck x (fun b => Q (f b)) s := by
  simp only [Run.wp, StateT.run_map]
  cases x.run s <;> rfl

@[simp]
theorem Run.wp_get {Q : Store σ → Store σ → Prop} : Run.wp stuck get Q s ↔ Q s s := Iff.rfl

@[simp]
theorem Run.wp_modify {Q : PUnit → Store σ → Prop} (f : Store σ → Store σ) :
    Run.wp stuck (modify f) Q s ↔ Q ⟨⟩ (f s) := Iff.rfl

@[simp]
theorem Run.wp_modifyGet (f : Store σ → α × Store σ) :
    Run.wp stuck (modifyGet f) Q s ↔ Q (f s).1 (f s).2 := Iff.rfl

@[simp]
theorem Run.wp_never : Run.wp stuck Run.never Q s ↔ stuck := Iff.rfl

@[simp]
theorem Run.wp_run {Q : Except LifecycleError α → Store σ → Prop} (x : Act σ α) :
    Run.wp stuck (ExceptT.run x) Q s ↔ Act.wp stuck x Q s := Iff.rfl

end Run

section Act

variable {Q : Except LifecycleError α → Store σ → Prop}

@[simp]
theorem Act.wp_pure (a : α) : Act.wp stuck (pure a) Q s ↔ Q (.ok a) s := Iff.rfl

@[simp]
theorem Act.wp_throw (e : LifecycleError) : Act.wp stuck (throw e) Q s ↔ Q (.error e) s := Iff.rfl

@[simp]
theorem Act.wp_bind (x : Act σ β) (f : β → Act σ α) :
    Act.wp stuck (x >>= f) Q s ↔ Act.wp stuck x (fun r t => match r with
      | .ok b => Act.wp stuck (f b) Q t
      | .error e => Q (.error e) t) s := by
  simp only [Act.wp, Run.wp, ExceptT.run_bind, StateT.run_bind]
  cases x.run.run s with
  | none => rfl
  | some r => obtain ⟨_ | _, _⟩ := r <;> rfl

@[simp]
theorem Act.wp_get {Q : Except LifecycleError (Store σ) → Store σ → Prop} :
    Act.wp stuck get Q s ↔ Q (.ok s) s := Iff.rfl

@[simp]
theorem Act.wp_modify {Q : Except LifecycleError PUnit → Store σ → Prop} (f : Store σ → Store σ) :
    Act.wp stuck (modify f) Q s ↔ Q (.ok ⟨⟩) (f s) := Iff.rfl

@[simp]
theorem Act.wp_modifyGet (f : Store σ → α × Store σ) :
    Act.wp stuck (modifyGet f) Q s ↔ Q (.ok (f s).1) (f s).2 := Iff.rfl

@[simp]
theorem Act.wp_lift (x : Run σ α) :
    Act.wp stuck (ExceptT.lift x) Q s ↔ Run.wp stuck x (fun a => Q (.ok a)) s := by
  simp only [Act.wp, Run.wp, ExceptT.run_lift, StateT.run_map]
  cases x.run s <;> rfl

@[simp]
theorem Act.wp_liftM (x : Run σ α) :
    Act.wp stuck (liftM x) Q s ↔ Run.wp stuck x (fun a => Q (.ok a)) s :=
  Act.wp_lift x

@[simp]
theorem Act.wp_attempt {Q : Except LifecycleError (Except LifecycleError α) → Store σ → Prop}
    (x : Act σ α) :
    Act.wp stuck (Act.attempt x) Q s ↔ Act.wp stuck x (fun r => Q (.ok r)) s :=
  Act.wp_lift _

@[simp]
theorem Act.wp_liftExcept (r : Except LifecycleError α) :
    Act.wp stuck (liftExcept r) Q s ↔ Q r s := by
  cases r <;> rfl

@[simp]
theorem Act.wp_failIfAny {Q : Except LifecycleError Unit → Store σ → Prop} (owner : String)
    (failures : List LifecycleError) :
    Act.wp stuck (failIfAny owner failures) Q s ↔
      Q (if failures.isEmpty then .ok () else .error (.teardown owner failures)) s := by
  rw [failIfAny]
  split <;> rfl

end Act

/-- If the step succeeds, then with this outcome. -/
def Act.Achieves (x : Act σ α) (Q : α → Store σ → Prop) (s : Store σ) : Prop :=
  Act.wp True x (fun r t => ∀ a, r = .ok a → Q a t) s

namespace Act.Achieves

variable {Q : α → Store σ → Prop} {s : Store σ}

theorem mono {x : Act σ α} {P : α → Store σ → Prop} (h : x.Achieves P s)
    (hPQ : ∀ a t, P a t → Q a t) : x.Achieves Q s :=
  Act.wp.mono h fun _ t hr a ha => hPQ a t (hr a ha)

theorem pure {a : α} (h : Q a s) : (pure a : Act σ α).Achieves Q s := by
  rw [Achieves, Act.wp_pure]
  rintro _ ⟨⟩
  exact h

theorem bind {x : Act σ β} {f : β → Act σ α} (h : x.Achieves (fun b t => (f b).Achieves Q t) s) :
    (x >>= f).Achieves Q s := by
  rw [Achieves, Act.wp_bind]
  apply Act.wp.mono h
  intro r t hr
  cases r with
  | ok b => exact hr b rfl
  | error error => exact fun _ ha => nomatch ha

theorem modify {Q : PUnit → Store σ → Prop} {f : Store σ → Store σ} (h : Q ⟨⟩ (f s)) :
    (modify f : Act σ PUnit).Achieves Q s := by
  rw [Achieves, Act.wp_modify]
  exact fun _ _ => h

theorem modifyGet {f : Store σ → α × Store σ} (h : Q (f s).1 (f s).2) :
    (modifyGet f : Act σ α).Achieves Q s := by
  rw [Achieves, Act.wp_modifyGet]
  rintro _ ⟨⟩
  exact h

theorem forM {f : β → Act σ PUnit} (Inv : List β → Store σ → Prop)
    (hstep : ∀ x xs s, Inv (x :: xs) s → (f x).Achieves (fun _ t => Inv xs t) s) (xs : List β)
    (h : Inv xs s) : (xs.forM f).Achieves (fun _ t => Inv [] t) s := by
  induction xs generalizing s with
  | nil => exact .pure h
  | cons x xs ih => exact .bind ((hstep x xs s h).mono fun _ t ht => ih ht)

end Act.Achieves

/-- From a store with an invariant a step returns to one. -/
def Run.Keeps (stuck : Prop) (Inv : Store σ → Prop) (x : Run σ α) : Prop :=
  ∀ s, Inv s → Run.wp stuck x (fun _ t => Inv t) s

/-- The same for a step that may fail: it keeps the invariant also when it does. -/
def Act.Keeps (stuck : Prop) (Inv : Store σ → Prop) (x : Act σ α) : Prop :=
  ∀ s, Inv s → Act.wp stuck x (fun _ t => Inv t) s

variable {Inv : Store σ → Prop}

theorem Run.wp_collectFailures_cons {f : α → Act σ Unit} {x : α} {xs : List α} :
    Run.wp stuck (collectFailures f (x :: xs)) (fun _ t => Inv t) s ↔
      Act.wp stuck (f x)
        (fun _ t => Run.wp stuck (collectFailures f xs) (fun _ u => Inv u) t) s := by
  simp only [collectFailures, Run.wp_bind, Run.wp_run]
  refine ⟨fun h => h.mono fun r t ht => ?_, fun h => h.mono fun r t ht => ?_⟩
  · cases r with
    | ok _ => exact ht
    | error error =>
      simp only [Run.wp_bind] at ht
      exact ht
  · cases r with
    | ok _ => exact ht
    | error error =>
      simp only [Run.wp_bind]
      exact ht

theorem Run.wp_collectFailures_append {f : α → Act σ Unit} {xs ys : List α} :
    Run.wp stuck (collectFailures f (xs ++ ys)) (fun _ t => Inv t) s ↔
      Run.wp stuck (collectFailures f xs)
        (fun _ t => Run.wp stuck (collectFailures f ys) (fun _ u => Inv u) t) s := by
  induction xs generalizing s with
  | nil => rfl
  | cons x xs ih =>
    rw [List.cons_append, Run.wp_collectFailures_cons, Run.wp_collectFailures_cons]
    exact ⟨fun h => h.mono fun _ t => ih.1, fun h => h.mono fun _ t => ih.2⟩

theorem Run.Keeps.collectFailures_of_mem {f : α → Act σ Unit} {xs : List α}
    (hf : ∀ a ∈ xs, Act.Keeps stuck Inv (f a)) : Run.Keeps stuck Inv (collectFailures f xs) := by
  induction xs with
  | nil => exact fun s hs => hs
  | cons x xs ih =>
    intro s hs
    rw [Run.wp_collectFailures_cons]
    have hrest := ih fun a ha => hf a (List.mem_cons_of_mem x ha)
    exact (hf x List.mem_cons_self s hs).mono fun _ t ht => hrest t ht

theorem Run.Keeps.collectFailures {f : α → Act σ Unit} (hf : ∀ a, Act.Keeps stuck Inv (f a))
    (xs : List α) : Run.Keeps stuck Inv (collectFailures f xs) :=
  Run.Keeps.collectFailures_of_mem fun a _ => hf a

end ContextualLifecycle
