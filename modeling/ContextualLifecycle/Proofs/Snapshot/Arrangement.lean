import ContextualLifecycle.Proofs.Snapshot.Session

namespace ContextualLifecycle

variable {σ : Type}

namespace EpisodeSnapshot

/-- Whether a record is of the very bean for which the episode is. -/
def isOwn (beans : Beans) (x : EpisodeSnapshot) (y : DependentSnapshot) : Bool :=
  let own := (x.contextual.bind beans.get?).bind Contextual.asBean?
  (beans.get? y.contextual).any fun unit => own.any unit.isSame

/-- What is listed after the records were registered one after the other: those of the own bean, the
latest before the others, and then all other ones. -/
def replayed (beans : Beans) (x : EpisodeSnapshot) : EpisodeSnapshot where
  contextual := x.contextual
  dependents := (x.dependents.filter (x.isOwn beans)).reverse ++
    x.dependents.filter fun y => !x.isOwn beans y

/-- The records of the own bean come first, and they read the same backwards. -/
def Symmetric (beans : Beans) (x : EpisodeSnapshot) : Prop :=
  ∃ own others, x.dependents = own ++ others ∧ own.reverse = own ∧
    (∀ y ∈ own, x.isOwn beans y = true) ∧ ∀ y ∈ others, x.isOwn beans y = false

variable {beans : Beans} {x : EpisodeSnapshot}

theorem replayed_eq_iff : x.replayed beans = x ↔ x.Symmetric beans := by
  constructor
  · intro h
    have hdependents : (x.dependents.filter (x.isOwn beans)).reverse ++
        x.dependents.filter (fun y => !x.isOwn beans y) = x.dependents := congrArg dependents h
    refine ⟨_, _, hdependents.symm, ?_, fun y hy => ?_, fun y hy => ?_⟩
    · -- Filtering the list again gives its first part, which is thus the reverse of itself.
      have hfiltered := congrArg (List.filter (x.isOwn beans)) hdependents
      rw [List.filter_append, List.filter_reverse, List.filter_filter,
        List.filter_filter] at hfiltered
      simpa using hfiltered.symm
    · exact (List.mem_filter.1 (List.mem_reverse.1 hy)).2
    · simpa using (List.mem_filter.1 hy).2
  · rintro ⟨own, others, hdependents, hreverse, hown, hothers⟩
    have hfirst : x.dependents.filter (x.isOwn beans) = own := by
      rw [hdependents, List.filter_append, List.filter_eq_self.2 hown,
        List.filter_eq_nil_iff.2 (by simpa using hothers), List.append_nil]
    have hrest : (x.dependents.filter fun y => !x.isOwn beans y) = others := by
      rw [hdependents, List.filter_append, List.filter_eq_nil_iff.2 (by simpa using hown),
        List.filter_eq_self.2 (by simpa using hothers), List.nil_append]
    obtain ⟨contextual, dependents⟩ := x
    simp only [replayed, hfirst, hrest, hreverse]
    rw [← hdependents]

/-- The order is kept if no record but the first one is of the own bean. -/
theorem symmetric_of_tail (h : ∀ y ∈ x.dependents.tail, x.isOwn beans y = false) :
    x.Symmetric beans := by
  cases hdependents : x.dependents with
  | nil => exact ⟨[], [], hdependents, rfl, List.forall_mem_nil _, List.forall_mem_nil _⟩
  | cons y rest =>
    rw [hdependents] at h
    cases hy : x.isOwn beans y with
    | true =>
      exact ⟨[y], rest, hdependents, rfl, List.forall_mem_singleton.2 hy, h⟩
    | false =>
      exact ⟨[], y :: rest, hdependents, rfl, List.forall_mem_nil _, List.forall_mem_cons.2 ⟨hy, h⟩⟩

variable {a : Archive σ} {t : Store σ} {r : Episode}

theorem Replays.own (h : x.Replays a t r) :
    (x.contextual.bind a.beans.get?).bind Contextual.asBean? = (t.episode r).bean := by
  have hcontextual := h.contextual
  rw [h.bean]
  generalize (t.episode r).contextual = owner at hcontextual
  generalize x.contextual = id at hcontextual
  cases hcontextual with
  | none => rfl
  | some hnames => rw [Option.bind_some, hnames.registered]

theorem Replays.lists (h : x.Replays a t r) : (x.replayed a.beans).Lists a t r where
  contextual := h.contextual
  dependents := by
    obtain ⟨ds, harranged, hall⟩ := h.dependents
    let isOwn : Dependent → Bool := fun d => (t.episode r).bean.any d.contextual.isSame
    have hown : ∀ (y : DependentSnapshot) (d : Dependent),
        a.Revives t y.contextual y.state d.contextual d.inst → x.isOwn a.beans y = isOwn d := by
      intro y d hd
      simp only [EpisodeSnapshot.isOwn, h.own, hd.named.registered, Option.any_some, isOwn]
    have hfirst := List.rel_filter (p := x.isOwn a.beans) (q := isOwn)
      (fun y d hd => by simp only [hown y d hd]) hall
    have hrest := List.rel_filter (p := fun y => !x.isOwn a.beans y) (q := fun d => !isOwn d)
      (fun y d hd => by simp only [hown y d hd]) hall
    rw [harranged]
    exact (List.rel_append (List.rel_reverse hfirst) hrest).imp fun y d hd => hd.toTells

end EpisodeSnapshot

/-- What is captured of an episode can be restored, in any store with the same registered
contextuals. The restored episode lists the records as they are registered again, and captured
again it gives them in this order; that is the order of the snapshot exactly if the records of the
own bean come first there and read the same backwards. -/
theorem Episode.passivation_replays (a : Archive σ) {host host' : Host σ} {m m' : Container}
    (hcaptures : a.Captures host) (hcaptures' : a.Captures host') (hrestores : a.Restores host')
    {s t : Store σ} (hbeans : (s.container m).beans = a.beans)
    (hbeans' : (t.container m').beans = a.beans) {e : Episode}
    (howner : ∀ unit, (s.episode e).contextual = some unit → a.Knows unit)
    (hdependents : ∀ d ∈ (s.episode e).dependents, a.Knows d.contextual)
    {x : EpisodeSnapshot} {s' : Store σ}
    (hcaptured : (m.captureEpisode host e).run.run s = some (.ok x, s')) :
    x.Lists a s e ∧
    ∃ r u, (m'.restoreEpisode host' x).run.run t = some (.ok r, u) ∧ t.Adds a u ∧
      (u.episode r).contextual = (s.episode e).contextual ∧ (x.replayed a.beans).Lists a u r ∧
      (m'.captureEpisode host' r).run.run u = some (.ok (x.replayed a.beans), u) ∧
      (x.replayed a.beans = x ↔ x.Symmetric a.beans) := by
  have hlists : x.Lists a s e := by
    have hreads := Container.captureEpisode_lists hbeans.symm hcaptures howner hdependents
    exact ((Act.wp_of_run hcaptured).1 hreads).2 x rfl
  have hrestored := Container.restoreEpisode_replays hrestores hlists.depicts hbeans'
  obtain ⟨_, u, hrun, r, rfl, hadds, hreplays⟩ := Act.wp_false_iff.1 hrestored
  have hbeans'' : a.beans = (u.container m').beans := by rw [hadds.container, hbeans']
  have hagain := Container.captureEpisode_again hbeans'' hcaptures' hreplays.lists
  obtain ⟨_, w, hrun', hw, y, rfl, rfl⟩ := Act.wp_false_iff.1 hagain
  rw [hw] at hrun'
  have hcontextual := (hlists.depicts.survives hreplays.revives).1
  exact ⟨hlists, r, u, hrun, hadds, hcontextual, hreplays.lists, hrun',
    EpisodeSnapshot.replayed_eq_iff⟩

/-- The hypotheses hold of an episode whose own bean comes first, once, before two other records. -/
theorem Episode.passivation_replays_cart :
    let cart : Contextual := ⟨1, ⟨"cart"⟩, .bean .session (some "cart"), true, true⟩
    let item : Contextual := ⟨2, ⟨"item"⟩, .plain, true, true⟩
    let host : Host States := .keeping ⟨"main"⟩
    let m : Container := ⟨1⟩
    let shopping : Act States Episode := do
      let m ← modifyGet (Container.new {} [] false)
      modify (m.registerAs "cart" cart)
      modify (m.registerAs "item" item)
      let e ← modifyGet (m.newEpisode (some cart))
      let pen ← item.restore host (.string "pen")
      let ink ← item.restore host (.string "ink")
      let bag ← cart.restore host (.string "bag")
      modify (e.registerAll [(item, some pen), (item, some ink), (cart, some bag)])
      return e
    ∃ e s x s', shopping.run.run { surroundings := ∅ } = some (.ok e, s) ∧
      (m.captureEpisode host e).run.run s = some (.ok x, s') ∧
      x.dependents.map (·.state.print) = ["\"bag\"", "\"pen\"", "\"ink\""] ∧
      let a : Archive States := .keeping (s.container m).beans (· ∈ [cart, item])
      let t : Store States := { containers := s.containers, surroundings := ∅ }
      (∀ unit, (s.episode e).contextual = some unit → a.Knows unit) ∧
      (∀ d ∈ (s.episode e).dependents, a.Knows d.contextual) ∧
      ∃ r u, (m.restoreEpisode host x).run.run t = some (.ok r, u) ∧ x.Lists a u r ∧
        (m.captureEpisode host r).run.run u = some (.ok x, u) := by
  intro cart item host m shopping
  have hseen : (shopping.answer? { surroundings := ∅ }).bind (fun o =>
      ((m.captureEpisode host o.1).answer? o.2).map fun p =>
        (o.2.dealsIn [cart, item], Beans.findAll (o.2.container m).beans [cart, item],
          p.1.dependents.tail.any (p.1.isOwn (o.2.container m).beans),
          p.1.dependents.map (·.state.print))) =
      some (true, true, false, ["\"bag\"", "\"pen\"", "\"ink\""]) := by
    decide +kernel
  obtain ⟨⟨e, s⟩, hshopping, hrest⟩ := Option.bind_eq_some_iff.1 hseen
  obtain ⟨⟨x, s'⟩, hcaptured, hall⟩ := Option.map_eq_some_iff.1 hrest
  rw [Act.answer?_eq_some_iff] at hshopping hcaptured
  obtain ⟨hdeals, hall⟩ := Prod.mk.inj hall
  obtain ⟨hregistered, hall⟩ := Prod.mk.inj hall
  obtain ⟨htail, hstates⟩ := Prod.mk.inj hall
  let a : Archive States := .keeping (s.container m).beans (· ∈ [cart, item])
  let t : Store States := { containers := s.containers, surroundings := ∅ }
  have howner : ∀ unit, (s.episode e).contextual = some unit → a.Knows unit := fun unit hunit =>
    Archive.keeping_knows hregistered ((Store.dealsIn.episode hdeals e).1 unit hunit)
  have hdependents : ∀ d ∈ (s.episode e).dependents, a.Knows d.contextual := fun d hd =>
    Archive.keeping_knows hregistered ((Store.dealsIn.episode hdeals e).2 d hd)
  have hbeans : (t.container m).beans = a.beans := rfl
  obtain ⟨-, r, u, hrun, -, -, hlists, hagain, hkept⟩ := passivation_replays a
    (Archive.keeping_captures _ _ _) (Archive.keeping_captures _ _ _)
    (Archive.keeping_restores _ _ _) rfl hbeans howner hdependents hcaptured
  have hsame : x.replayed a.beans = x := by
    refine hkept.2 (EpisodeSnapshot.symmetric_of_tail fun y hy => ?_)
    exact Bool.eq_false_iff.2 (List.any_eq_false.1 htail y hy)
  rw [hsame] at hlists hagain
  exact ⟨e, s, x, s', hshopping, hcaptured, hstates, howner, hdependents, r, u, hrun, hlists,
    hagain⟩

/-- An episode with two records of its own bean, the latest first. Restored and captured again, the
snapshot lists them the other way round. -/
theorem Episode.passivation_reverses :
    let cart : Contextual := ⟨1, ⟨"cart"⟩, .bean .session (some "cart"), true, true⟩
    let host : Host States := .keeping ⟨"main"⟩
    let m : Container := ⟨1⟩
    let shopping : Act States Episode := do
      let m ← modifyGet (Container.new {} [] false)
      modify (m.registerAs "cart" cart)
      let e ← modifyGet (m.newEpisode (some cart))
      let bag ← cart.restore host (.string "bag")
      let box ← cart.restore host (.string "box")
      modify (e.registerAll [(cart, some bag), (cart, some box)])
      return e
    ∃ e s x s', shopping.run.run { surroundings := ∅ } = some (.ok e, s) ∧
      (m.captureEpisode host e).run.run s = some (.ok x, s') ∧
      let a : Archive States := .keeping (s.container m).beans (· ∈ [cart])
      a.Captures host ∧ a.Restores host ∧
      (∀ unit, (s.episode e).contextual = some unit → a.Knows unit) ∧
      (∀ d ∈ (s.episode e).dependents, a.Knows d.contextual) ∧
      ∃ r u y u', (m.restoreEpisode host x).run.run s' = some (.ok r, u) ∧
        (m.captureEpisode host r).run.run u = some (.ok y, u') ∧
        x.dependents.map (·.state.print) = ["\"box\"", "\"bag\""] ∧
        y.dependents.map (·.state.print) = ["\"bag\"", "\"box\""] ∧ y ≠ x := by
  intro cart host m shopping
  have hseen : (shopping.answer? { surroundings := ∅ }).bind (fun o =>
      ((m.captureEpisode host o.1).answer? o.2).bind fun p =>
        ((m.restoreEpisode host p.1).answer? p.2).bind fun q =>
          ((m.captureEpisode host q.1).answer? q.2).map fun w =>
            (o.2.dealsIn [cart], Beans.findAll (o.2.container m).beans [cart],
              p.1.dependents.map (·.state.print), w.1.dependents.map (·.state.print))) =
      some (true, true, ["\"box\"", "\"bag\""], ["\"bag\"", "\"box\""]) := by
    decide +kernel
  obtain ⟨⟨e, s⟩, hshopping, hrest⟩ := Option.bind_eq_some_iff.1 hseen
  obtain ⟨⟨x, s'⟩, hcaptured, hrest⟩ := Option.bind_eq_some_iff.1 hrest
  obtain ⟨⟨r, u⟩, hrestored, hrest⟩ := Option.bind_eq_some_iff.1 hrest
  obtain ⟨⟨y, u'⟩, hagain, hall⟩ := Option.map_eq_some_iff.1 hrest
  rw [Act.answer?_eq_some_iff] at hshopping hcaptured hrestored hagain
  obtain ⟨hdeals, hall⟩ := Prod.mk.inj hall
  obtain ⟨hregistered, hall⟩ := Prod.mk.inj hall
  obtain ⟨hstates, hstates'⟩ := Prod.mk.inj hall
  have hne : y ≠ x := by
    rintro rfl
    rw [hstates] at hstates'
    exact absurd hstates' (by decide)
  exact ⟨e, s, x, s', hshopping, hcaptured, Archive.keeping_captures _ _ _,
    Archive.keeping_restores _ _ _,
    fun unit hunit => Archive.keeping_knows hregistered
      ((Store.dealsIn.episode hdeals e).1 unit hunit),
    fun d hd => Archive.keeping_knows hregistered ((Store.dealsIn.episode hdeals e).2 d hd),
    r, u, y, u', hrestored, hagain, hstates, hstates', hne⟩

end ContextualLifecycle
