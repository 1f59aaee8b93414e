import ContextualLifecycle.Proofs.Reference.Elsewhere

namespace ContextualLifecycle

variable {σ : Type}

def Episode.Record.plus (r : Episode.Record) (more : List Dependent) : Episode.Record :=
  { r with dependents := r.dependents ++ more }

theorem Episode.Record.plus_nil (r : Episode.Record) : r.plus [] = r := by
  rw [plus, List.append_nil]

theorem Episode.Record.plus_plus (r : Episode.Record) (xs ys : List Dependent) :
    (r.plus xs).plus ys = r.plus (xs ++ ys) := by
  simp only [plus, List.append_assoc]

/-- No two dependents hold one instance. -/
def Apart (dependents : List Dependent) : Prop := (dependents.map (·.inst)).Nodup

theorem Apart.add {dependents : List Dependent} {d : Dependent} (h : Apart dependents)
    (hd : ∀ x ∈ dependents, x.inst ≠ d.inst) : Apart (dependents ++ [d]) := by
  rw [Apart, List.map_append, List.nodup_append]
  refine ⟨h, List.pairwise_singleton _ _, ?_⟩
  intro inst hinst inst' hinst'
  obtain ⟨x, hx, rfl⟩ := List.mem_map.1 hinst
  rw [List.map_singleton, List.mem_singleton] at hinst'
  rw [hinst']
  exact hd x hx

theorem Episode.Record.register_new {r : Episode.Record} {unit : Contextual} {inst : Instance}
    (hown : r.bean.any unit.isSame = false) (hinst : ∀ d ∈ r.dependents, d.inst ≠ inst) :
    r.register unit inst = r.plus [⟨unit, inst⟩] := by
  have howns : r.owns unit inst = false := by
    rw [Bool.eq_false_iff]
    intro howns
    obtain ⟨d, hd, htwin⟩ := (r.owns_iff unit inst).1 howns
    exact hinst d hd htwin.2
  simp only [register, howns, hown, Bool.false_eq_true, ↓reduceIte, plus]

/-- The definitions of the dependent scope are none that an episode with a given bean is for. -/
def Setting.Foreign (w : Setting σ) (bean : Option Contextual) : Prop :=
  ∀ object, (w.catalogue.unit object).scope = .dependent →
    bean.any (w.catalogue.unit object).isSame = false

/-- What a plan does at home, in the episode `x` with the record `r`: the episode gets what the new
creations leave to it, and an instance that is returned is none of those. -/
def Kept (w : Setting σ) (held : Bag → Prop) (ps : List (Episode × Episode.Record)) (x : Episode)
    (r : Episode.Record) (level : List Creation) (rest : List (List Creation))
    (answer : Except LifecycleError Instance) (t : Store (Growing σ)) : Prop :=
  ∃ nodes, Guarded w held ((x, r.plus (Creation.leftBy nodes)) :: ps) ((level ++ nodes) :: rest) t ∧
    Apart (r.plus (Creation.leftBy nodes)).dependents ∧
    ∀ inst, answer = .ok inst → ∀ d ∈ (r.plus (Creation.leftBy nodes)).dependents, d.inst ≠ inst

/-- The same once the creation of a definition has become a node of the tree. -/
def Bound (w : Setting σ) (held : Bag → Prop) (ps : List (Episode × Episode.Record)) (x : Episode)
    (r : Episode.Record) (unit : Contextual) (level : List Creation) (rest : List (List Creation))
    (answer : Except LifecycleError Instance) (t : Store (Growing σ)) : Prop :=
  ∃ inside, Guarded w held ((x, r.plus (Creation.leftBy inside)) :: ps)
      ((level ++ [.node unit answer.toOption inside]) :: rest) t ∧
    Apart (r.plus (Creation.leftBy inside)).dependents ∧
    ∀ inst, answer = .ok inst → ∀ d ∈ (r.plus (Creation.leftBy inside)).dependents, d.inst ≠ inst

section Home

variable {w : Setting σ} {held : Bag → Prop} {ps : List (Episode × Episode.Record)} {x : Episode}
  {r : Episode.Record} {level : List Creation} {rest : List (List Creation)}
  {s t : Store (Growing σ)} {unit : Contextual}

theorem Bound.noted {answer : Except LifecycleError Instance}
    (h : Bound w held ps x r unit level rest answer t) (event : Event) :
    Bound w held ps x r unit level rest answer (t.note event) := by
  obtain ⟨inside, ht, hrest⟩ := h
  exact ⟨inside, ht.noted event, hrest⟩

theorem branch_home {creation : Act (Growing σ) Instance}
    (hcreation : ∀ s, Guarded w held ((x, r) :: ps) ([] :: level :: rest) s →
      Act.wp True creation (Kept w held ps x r [] (level :: rest)) s)
    (h : Guarded w held ((x, r) :: ps) (level :: rest) s) :
    Act.wp True (branch unit creation) (Bound w held ps x r unit level rest) s := by
  apply wp_branch (hcreation _ h.descended)
  intro answer t ht
  obtain ⟨inside, ht, hrest⟩ := ht
  exact ⟨inside, level, rest, ht.grown, inside, ht.releveled _, hrest⟩

theorem create_home {create : Contextual → Episode → Act (Growing σ) Instance}
    (hcreate : ∀ s, Guarded w held ((x, r) :: ps) (level :: rest) s →
      Act.wp True (create unit x) (Bound w held ps x r unit level rest) s)
    (h : Guarded w held ((x, r) :: ps) (level :: rest) s) :
    Act.wp True (unit.create (w.host create) x) (Bound w held ps x r unit level rest) s := by
  apply Contextual.wp_create (hcreate _ (h.noted _))
  · exact fun inst t ht => ht.noted _
  · exact fun error t ht => ht

/-- A dependent creation at home leaves its instance to the episode, after those inside it. -/
theorem createDependent_home {create : Contextual → Episode → Act (Growing σ) Instance}
    (hx : ∀ p ∈ ps, p.1 ≠ x) (hscope : unit.scope = .dependent)
    (hown : r.bean.any unit.isSame = false)
    (hcreate : ∀ s, Guarded w held ((x, r) :: ps) (level :: rest) s →
      Act.wp True (create unit x) (Bound w held ps x r unit level rest) s)
    (h : Guarded w held ((x, r) :: ps) (level :: rest) s) :
    Act.wp True (unit.createDependent (w.host create) x)
      (fun _ t => ∃ node, Guarded w held ((x, r.plus (Creation.left node)) :: ps)
        ((level ++ [node]) :: rest) t ∧ Apart (r.plus (Creation.left node)).dependents) s := by
  apply Contextual.wp_createDependent (create_home hcreate h)
  · rintro inst t ⟨inside, ht, hapart, hinst⟩
    have hleft : Creation.left (.node unit (some inst) inside) =
        Creation.leftBy inside ++ [⟨unit, inst⟩] := by
      rw [Creation.left, if_pos hscope]
      rfl
    have hregister : (r.plus (Creation.leftBy inside)).register unit inst =
        r.plus (Creation.left (.node unit (some inst) inside)) := by
      rw [Episode.Record.register_new (r := r.plus (Creation.leftBy inside)) hown
        (hinst inst rfl), hleft, Episode.Record.plus_plus]
    refine ⟨.node unit (some inst) inside, ?_, ?_⟩
    · rw [← hregister]
      exact ht.changed hx (·.register unit inst)
    · rw [hleft, ← Episode.Record.plus_plus]
      exact hapart.add (hinst inst rfl)
  · rintro error t ⟨inside, ht, hapart, _⟩
    have hleft : Creation.left (.node unit none inside) = Creation.leftBy inside := by
      rw [Creation.left, if_pos hscope]
      exact List.append_nil _
    refine ⟨.node unit none inside, ?_, ?_⟩
    · rw [hleft]
      exact ht
    · rw [hleft]
      exact hapart

theorem Kept.none {answer : Except LifecycleError Instance}
    (h : Guarded w held ((x, r) :: ps) (level :: rest) t) (hapart : Apart r.dependents)
    (hinst : ∀ inst, answer = .ok inst → ∀ d ∈ r.dependents, d.inst ≠ inst) :
    Kept w held ps x r level rest answer t := by
  refine ⟨[], ?_⟩
  rw [Creation.leftBy, Episode.Record.plus_nil, List.append_nil]
  exact ⟨h, hapart, hinst⟩

theorem Kept.after {answer : Except LifecycleError Instance} {nodes : List Creation}
    (h : Kept w held ps x (r.plus (Creation.leftBy nodes)) (level ++ nodes) rest answer t) :
    Kept w held ps x r level rest answer t := by
  obtain ⟨more, ht⟩ := h
  refine ⟨nodes ++ more, ?_⟩
  rw [Creation.leftBy_append, ← Episode.Record.plus_plus, ← List.append_assoc]
  exact ht

/-- What a reference leaves to the episode at home: a dependent creation leaves what it is to leave,
and a stored one leaves nothing. -/
theorem reference_home (hw : w.Orderly) (creation : Plan σ)
    (hps : ∀ p ∈ (x, r) :: ps, w.Spares p.1) (hx : ∀ p ∈ ps, p.1 ≠ x)
    (hforeign : w.Foreign r.bean) (hapart : Apart r.dependents) (object : Nat)
    (hcreation : ∀ unit s, Guarded w held ((x, r) :: ps) ([] :: level :: rest) s →
      Act.wp True (creation.run w unit x) (Kept w held ps x r [] (level :: rest)) s)
    (h : Guarded w held ((x, r) :: ps) (level :: rest) s) :
    Act.wp True (w.container.reference (w.host fun u y => branch u (creation.run w u y))
        (w.catalogue.unit object) x)
      (fun _ t => ∃ nodes, Guarded w held ((x, r.plus (Creation.leftBy nodes)) :: ps)
        ((level ++ nodes) :: rest) t ∧ Apart (r.plus (Creation.leftBy nodes)).dependents) s := by
  have hnone : ∀ t, Guarded w held ((x, r) :: ps) (level :: rest) t → ∃ nodes,
      Guarded w held ((x, r.plus (Creation.leftBy nodes)) :: ps) ((level ++ nodes) :: rest) t ∧
        Apart (r.plus (Creation.leftBy nodes)).dependents := by
    intro t ht
    refine ⟨[], ?_⟩
    rw [Creation.leftBy, Episode.Record.plus_nil, List.append_nil]
    exact ⟨ht, hapart⟩
  by_cases hscope : (w.catalogue.unit object).scope = .dependent
  · apply wp_reference_of_dependent rfl hscope h.ordinary (fun _ => hnone s h)
    have hcreate : ∀ s, Guarded w held ((x, r) :: ps) (level :: rest) s →
        Act.wp True (branch (w.catalogue.unit object)
          (creation.run w (w.catalogue.unit object) x))
          (Bound w held ps x r (w.catalogue.unit object) level rest) s :=
      fun s h => branch_home (hcreation _) h
    apply (createDependent_home hx hscope (hforeign object hscope) hcreate h).mono
    rintro _ t ⟨node, ht⟩
    refine ⟨[node], ?_⟩
    rw [Creation.leftBy_singleton]
    exact ht
  · have hcreate : Creates w held ((x, r) :: ps) level rest
        fun u y => branch u (creation.run w u y) := by
      intro u y hy s h
      -- The episode at home is one of those that a stored creation passes by.
      refine branch_elsewhere (fun s h => ?_) h
      exact creation.run_elsewhere hw _ hps hy u [] (level :: rest) s h
    apply (hcreate.referenceStored hw hps hscope h x).mono
    rintro _ t ⟨nodes, hnodes, ht⟩
    rcases hnodes with rfl | ⟨outcome, inside, rfl⟩
    · rw [List.append_nil] at ht
      exact hnone t ht
    · refine ⟨[.node (w.catalogue.unit object) outcome inside], ?_⟩
      rw [Creation.leftBy_singleton, Creation.left, if_neg hscope, Episode.Record.plus_nil]
      exact ⟨ht, hapart⟩

/-- A plan at home leaves to its episode what the creations that it asks for leave to it. -/
theorem Plan.run_home (hw : w.Orderly) (hfresh : w.supply.Fresh) (plan : Plan σ)
    (hsx : w.Spares x) (hps : ∀ p ∈ ps, w.Spares p.1) (hx : ∀ p ∈ ps, p.1 ≠ x)
    (hforeign : w.Foreign r.bean) (hapart : Apart r.dependents)
    (h : Guarded w held ((x, r) :: ps) (level :: rest) s) :
    Act.wp True (plan.run w unit x) (Kept w held ps x r level rest) s := by
  induction plan generalizing r level rest s unit with
  | finish =>
    refine .none h hapart ?_
    intro inst hinst d hd hsame
    cases hinst
    have hrecord : s.episode x = r := (h.kept _ List.mem_cons_self).2
    refine hfresh unit x s.outside (.inr ⟨x, d, ?_, hsame⟩)
    change d ∈ (s.episode x).dependents
    rw [hrecord]
    exact hd
  | fail error => exact .none h hapart Act.of_failed
  | look next ih => exact ih _ hforeign hapart h
  | ask object creation next ihc ihn =>
    have hspares : ∀ p ∈ (x, r) :: ps, w.Spares p.1 := by
      intro p hp
      rcases List.mem_cons.1 hp with rfl | hp
      · exact hsx
      · exact hps p hp
    simp only [Plan.run, Act.wp_bind, Act.wp_attempt]
    apply (reference_home hw creation hspares hx hforeign hapart object
      (fun unit s h => ihc hforeign hapart h) h).mono
    rintro answer t ⟨nodes, ht, hapart'⟩
    -- The rest of the plan starts from a record that has what the first creations left.
    apply (ihn answer (r := r.plus (Creation.leftBy nodes)) hforeign hapart' ht).mono
    exact fun _ u hu => hu.after

end Home

end ContextualLifecycle
