import ContextualLifecycle.Proofs.Reference.Guarded

namespace ContextualLifecycle

variable {σ : Type}

/-- The level that a step stands on has grown by one creation of a definition, if at all. -/
def Asked (w : Setting σ) (held : Bag → Prop) (ps : List (Episode × Episode.Record))
    (unit : Contextual) (level : List Creation) (rest : List (List Creation))
    (t : Store (Growing σ)) : Prop :=
  ∃ nodes, (nodes = [] ∨ ∃ outcome inside, nodes = [.node unit outcome inside]) ∧
    Guarded w held ps ((level ++ nodes) :: rest) t

def Branched (w : Setting σ) (held : Bag → Prop) (ps : List (Episode × Episode.Record))
    (unit : Contextual) (level : List Creation) (rest : List (List Creation))
    (t : Store (Growing σ)) : Prop :=
  ∃ outcome inside, Guarded w held ps ((level ++ [.node unit outcome inside]) :: rest) t

section Elsewhere

variable {w : Setting σ} {held : Bag → Prop} {ps : List (Episode × Episode.Record)}
  {level : List Creation} {rest : List (List Creation)} {s t : Store (Growing σ)}
  {unit : Contextual}
  {create : Contextual → Episode → Act (Growing σ) Instance} {y : Episode}

theorem Asked.none (h : Guarded w held ps (level :: rest) t) :
    Asked w held ps unit level rest t := by
  refine ⟨[], .inl rfl, ?_⟩
  rw [List.append_nil]
  exact h

theorem Branched.asked (h : Branched w held ps unit level rest t) :
    Asked w held ps unit level rest t := by
  obtain ⟨outcome, inside, h⟩ := h
  exact ⟨_, .inr ⟨outcome, inside, rfl⟩, h⟩

theorem Branched.imp {u : Store (Growing σ)} (h : Branched w held ps unit level rest t)
    (himp : ∀ levels, Guarded w held ps levels t → Guarded w held ps levels u) :
    Branched w held ps unit level rest u := by
  obtain ⟨outcome, inside, h⟩ := h
  exact ⟨outcome, inside, himp _ h⟩

theorem branch_elsewhere {creation : Act (Growing σ) Instance}
    (hcreation : ∀ s, Guarded w held ps ([] :: level :: rest) s → Act.wp True creation
      (fun _ t => ∃ inside, Guarded w held ps (inside :: level :: rest) t) s)
    (h : Guarded w held ps (level :: rest) s) :
    Act.wp True (branch unit creation) (fun _ t => Branched w held ps unit level rest t) s := by
  apply wp_branch (hcreation _ h.descended)
  intro answer t ht
  obtain ⟨inside, ht⟩ := ht
  exact ⟨inside, level, rest, ht.grown, answer.toOption, inside, ht.releveled _⟩

/-- Creations into an episode that is not guarded become nodes of the level that they stand on. -/
def Creates (w : Setting σ) (held : Bag → Prop) (ps : List (Episode × Episode.Record))
    (level : List Creation) (rest : List (List Creation))
    (create : Contextual → Episode → Act (Growing σ) Instance) : Prop :=
  ∀ unit y, (∀ p ∈ ps, p.1 ≠ y) → ∀ s, Guarded w held ps (level :: rest) s →
    Act.wp True (create unit y) (fun _ t => Branched w held ps unit level rest t) s

theorem Creates.created (hcreate : Creates w held ps level rest create) (hy : ∀ p ∈ ps, p.1 ≠ y)
    (h : Guarded w held ps (level :: rest) s) :
    Act.wp True (unit.create (w.host create) y)
      (fun _ t => Branched w held ps unit level rest t) s := by
  apply Contextual.wp_create (hcreate unit y hy _ (h.noted _))
  · intro inst t ht
    exact ht.imp fun levels h => h.noted _
  · exact fun error t ht => ht

theorem Creates.createDependent (hcreate : Creates w held ps level rest create)
    (hy : ∀ p ∈ ps, p.1 ≠ y) (h : Guarded w held ps (level :: rest) s) :
    Act.wp True (unit.createDependent (w.host create) y)
      (fun _ t => Branched w held ps unit level rest t) s := by
  apply Contextual.wp_createDependent (hcreate.created hy h)
  · intro inst t ht
    exact ht.imp fun levels h => h.registered hy unit inst
  · exact fun error t ht => ht

theorem Creates.getOrCreate (hw : w.Orderly) (hps : ∀ p ∈ ps, w.Spares p.1)
    (hcreate : Creates w held ps level rest create) (hy : ∀ p ∈ ps, p.1 ≠ y)
    (h : Guarded w held ps (level :: rest) s) (c : ScopeContext) :
    Act.wp True (c.getOrCreate (w.host create) unit y)
      (fun _ t => Asked w held ps unit level rest t) s := by
  cases hactive : (s.context c).active with
  | false =>
    rw [ScopeContext.wp_getOrCreate_of_inactive hactive]
    exact .none h
  | true =>
    by_cases hkind : (s.context c).kind = .dependent
    · rw [ScopeContext.wp_getOrCreate_of_dependent hactive hkind]
      exact (hcreate.createDependent hy h).mono fun _ t ht => ht.asked
    cases hlive : c.live s unit.id with
    | some bag =>
      rw [ScopeContext.wp_getOrCreate_of_live hactive hkind hlive]
      exact .none h
    | none =>
      apply ScopeContext.wp_getOrCreate_of_absent hactive hkind hlive
      · exact fun path _ => .none (h.claimed c unit.id)
      · exact fun _ _ => trivial
      · intro _ _
        have hfilled := (((h.claimed c unit.id).stacked (w.host create).thread
          ((c, unit.id) :: s.stack (w.host create).thread)).filled c unit.id
          (c.claimCell unit.id s).1.serial .filling (Guarded.unfilled ps))
        have hother : ∀ inst bag, Cell.Content.live ⟨unit, inst, y⟩ = .live bag →
            ∀ p ∈ ps, p.1 ≠ bag.episode := by
          rintro inst bag ⟨⟩
          exact hy
        have hleave : ∀ t, Branched w held ps unit level rest t →
            Asked w held ps unit level rest (ScopeContext.leaveCreation (w.host create).thread t) :=
          fun t ht => (ht.imp fun levels h => h.stacked _ _).asked
        apply ScopeContext.wp_createInto (hcreate.created hy hfilled)
        · intro error t ht
          obtain ⟨outcome, inside, ht⟩ := ht
          apply ((Guarded.releaseKeeps hw hps hy).release_keeps t ht).mono
          intro _ u hu
          refine ⟨hleave _ ⟨outcome, inside, hu.dropped _ _ _⟩, fun left => ?_⟩
          exact hleave _ ⟨outcome, inside, (hu.noted _).dropped _ _ _⟩
        · intro inst t ht _ _
          exact hleave _ (ht.imp fun levels h => h.filled _ _ _ _ (hother inst))
        · intro inst t ht _
          obtain ⟨outcome, inside, ht⟩ := ht
          have hdropped := (ht.filled c unit.id (c.claimCell unit.id s).1.serial
            _ (hother inst)).dropped c unit.id (c.claimCell unit.id s).1.serial
          apply (Guarded.bagDestroyed hw hps hy _ hdropped).mono
          intro _ u hu error
          exact hleave _ ⟨outcome, inside, hu⟩

theorem Creates.referenceStored (hw : w.Orderly) (hps : ∀ p ∈ ps, w.Spares p.1)
    (hcreate : Creates w held ps level rest create) (hscope : unit.scope ≠ .dependent)
    (h : Guarded w held ps (level :: rest) s) (e : Episode) :
    Act.wp True (w.container.reference (w.host create) unit e)
      (fun _ t => Asked w held ps unit level rest t) s := by
  simp only [Container.reference, hscope, ↓reduceIte, Act.wp_bind, Act.wp_modifyGet]
  apply ((Guarded.resolveKeeps hw hps).activeContext unit.scope s h).mono
  intro r t ht
  cases r with
  | error error => exact .none ht
  | ok c =>
    obtain ⟨hissued, hnew⟩ := ht.issued unit
    apply (hcreate.getOrCreate hw hps hnew hissued c).mono
    intro r' u hu
    cases r' with
    | error error => exact hu
    | ok inst =>
      simp only [Act.wp_get]
      split
      · obtain ⟨nodes, hnodes, hu⟩ := hu
        simp only [Act.wp_liftM, Setting.host, Supply.host, Run.wp_bind, Run.wp_run]
        apply (Guarded.during hw hps _ u hu).mono
        exact fun _ v hv => ⟨nodes, hnodes, hv⟩
      · exact hu

/-- A reference to a dependent instance is created into the episode of the caller, unless the
context of the dependent scope was deactivated. -/
theorem wp_reference_of_dependent {host : Host (Growing σ)}
    {Q : Except LifecycleError Instance → Store (Growing σ) → Prop} {e : Episode}
    (hhost : host.thread = w.supply.thread) (hscope : unit.scope = .dependent)
    (hordinary : w.container.Ordinary w.supply.thread s)
    (hinactive : ∀ error, Q (.error error) s)
    (hcreate : Act.wp True (unit.createDependent host e) Q s) :
    Act.wp True (w.container.reference host unit e) Q s := by
  simp only [Container.reference, hscope, ↓reduceIte, Container.current, Act.wp_bind, Act.wp_get,
    Act.wp_pure, hhost]
  split
  · rename_i c hslot
    obtain ⟨_, hkind⟩ := hordinary c hslot
    cases hactive : (s.context c).active with
    | false =>
      rw [ScopeContext.wp_getOrCreate_of_inactive hactive]
      exact hinactive _
    | true =>
      rw [ScopeContext.wp_getOrCreate_of_dependent hactive hkind]
      exact hcreate
  · exact hcreate

theorem Plan.run_elsewhere (hw : w.Orderly) (plan : Plan σ) (ps : List (Episode × Episode.Record))
    (hps : ∀ p ∈ ps, w.Spares p.1) (hy : ∀ p ∈ ps, p.1 ≠ y) (unit : Contextual)
    (level : List Creation) (rest : List (List Creation)) (s : Store (Growing σ))
    (h : Guarded w held ps (level :: rest) s) :
    Act.wp True (plan.run w unit y)
      (fun _ t => ∃ level, Guarded w held ps (level :: rest) t) s := by
  induction plan generalizing y unit level rest s with
  | finish => exact ⟨level, h⟩
  | fail error => exact ⟨level, h⟩
  | look next ih => exact ih _ hy unit level rest s h
  | ask object creation next ihc ihn =>
    simp only [Plan.run, Act.wp_bind, Act.wp_attempt]
    have hcreate : Creates w held ps level rest fun u x => branch u (creation.run w u x) := by
      intro u x hx s h
      exact branch_elsewhere (fun s h => ihc hx u [] (level :: rest) s h) h
    have hasked : Act.wp True (w.container.reference
        (w.host fun u x => branch u (creation.run w u x)) (w.catalogue.unit object) y)
        (fun _ t => Asked w held ps (w.catalogue.unit object) level rest t) s := by
      by_cases hscope : (w.catalogue.unit object).scope = .dependent
      · apply wp_reference_of_dependent rfl hscope h.ordinary (fun _ => .none h)
        exact (hcreate.createDependent hy h).mono fun _ t ht => ht.asked
      · exact hcreate.referenceStored hw hps hscope h y
    apply hasked.mono
    intro answer t ht
    obtain ⟨nodes, _, ht⟩ := ht
    exact ihn answer hy unit (level ++ nodes) rest t ht

end Elsewhere

end ContextualLifecycle
