import ContextualLifecycle.Proofs.Snapshot.Survival

namespace ContextualLifecycle

variable {σ : Type} {a : Archive σ} {s t : Store σ}

/-- The store is keyed as it is at every moment of a run. Of each definition that the capture comes
across the portable id has to be known to stand for it, and its instances are to be captured and
restored in their states. -/
theorem ScopeContext.survives_passivation (a : Archive σ) {host host' : Host σ} {m m' : Container}
    (hcaptures : a.Captures host) (hcaptures' : a.Captures host') (hrestores : a.Restores host')
    (hs : s.Keyed) (hbeans : (s.container m).beans = a.beans)
    (hbeans' : (t.container m').beans = a.beans) {c : ScopeContext}
    (hknown : ∀ unit, c.Involves s unit → a.Knows unit) {x : ContextSnapshot} {s' : Store σ}
    (hcaptured : (m.captureContext host c).run.run s = some (.ok x, s')) :
    ∃ r u, (m'.restoreContext host' x).run.run t = some (.ok r, u) ∧ t.Adds a u ∧
      (u.context r).active = false ∧ c.Survives a s u r ∧
      ∃ y, (m'.captureContext host' r).run.run u = some (.ok y, u) ∧ y.Alike x := by
  have hdepicts : x.Depicts a s c ∧ x.depth ≤ UInt64.size := by
    have hreads := Container.captureNested_reads hbeans.symm hcaptures UInt64.size c hknown
    exact ((Act.wp_of_run hcaptured).1 hreads).2 x rfl
  have hrestored := Container.restoreContext_revives hrestores hs x c hdepicts.1 t hbeans'
  obtain ⟨_, u, hrun, r, rfl, -, hadds, hinactive, hrevives⟩ := Act.wp_false_iff.1 hrestored
  have hbeans'' : a.beans = (u.container m').beans := by rw [hadds.container, hbeans']
  have hagain := Container.captureNested_answers hbeans'' hcaptures' UInt64.size r x
    (ContextSnapshot.Revives.depicts x r hrevives) hdepicts.2
  obtain ⟨_, w, hrun', hw, y, rfl, halike⟩ := Act.wp_false_iff.1 hagain
  rw [hw] at hrun'
  exact ⟨r, u, hrun, hadds, hinactive, x.survives hs c r hdepicts.1 hrevives, y, hrun', halike⟩

abbrev States := Table Instance Json

def States.state (own : States) (inst : Instance) : Except LifecycleError Json :=
  match own.get? inst with
  | some state => .ok state
  | none => .error .serialization

def Host.keep (state : Json) : Act States Instance := modifyGet fun s =>
  (⟨s.nextToken⟩, { s with surroundings := s.surroundings.insert ⟨s.nextToken⟩ state })

/-- Surroundings that keep the states of all instances. A created one is in the state that its
definition is known by. -/
def Host.keeping (thread : Thread) : Host States where
  thread
  create unit _ := keep (.string unit.id.text)
  destroy _ _ _ := pure ()
  capture _ inst := do liftExcept ((← get).surroundings.state inst)
  restore _ state := keep state
  proxy _ _ inst := pure inst
  notify _ _ _ _ _ := pure ()
  push _ _ := pure ()
  release _ := pure ()

def Archive.keeping (beans : Beans) (covers : Contextual → Prop) : Archive States where
  beans
  state own _ inst := own.state inst
  covers

theorem Archive.keeping_captures (beans : Beans) (covers : Contextual → Prop) (thread : Thread) :
    (keeping beans covers).Captures (.keeping thread) := by
  intro unit inst s _
  change (liftExcept (s.surroundings.state inst) : Act States Json).run.run s = _
  cases h : s.surroundings.state inst <;> simp only [keeping, h] <;> rfl

theorem Archive.keeping_restores (beans : Beans) (covers : Contextual → Prop) (thread : Thread) :
    (keeping beans covers).Restores (.keeping thread) := by
  intro unit _ state _ s _ _ _
  have hfresh : ¬ s.Knows ⟨s.nextToken⟩ := Supply.numbered_fresh thread unit ⟨0⟩ s
  let t : Store States := { s with surroundings := s.surroundings.insert ⟨s.nextToken⟩ state }
  have hadds : s.Adds (keeping beans covers) t := {
    Store.Grows.refl (keeping beans covers) (fun _ => True) s with
    state := by
      intro _ inst _ hmet
      have hne : inst ≠ ⟨s.nextToken⟩ := by
        rintro rfl
        exact hfresh (.inl hmet)
      simp only [t, keeping, States.state, Table.get?_insert, if_neg hne] }
  refine ⟨⟨s.nextToken⟩, rfl, hadds, hfresh, ?_⟩
  simp only [keeping, States.state, Table.get?_insert, ↓reduceIte]

def Beans.findAll (beans : Beans) (units : List Contextual) : Bool :=
  units.all fun unit => (beans.idOf? unit).all fun id => beans.get? id = some unit

theorem Archive.keeping_knows {beans : Beans} {units : List Contextual}
    (h : beans.findAll units = true) {unit : Contextual} (hunit : unit ∈ units) :
    (keeping beans (· ∈ units)).Knows unit := by
  refine ⟨hunit, fun id hid => ?_⟩
  have hfound := List.all_eq_true.1 h unit hunit
  rw [show beans.idOf? unit = some id from hid, Option.all_some] at hfound
  exact of_decide_eq_true hfound

def Act.answer? {α : Type} (x : Act σ α) (s : Store σ) : Option (α × Store σ) :=
  match x.run.run s with
  | some (.ok b, t) => some (b, t)
  | _ => none

theorem Act.answer?_eq_some_iff {α : Type} {x : Act σ α} {b : α} :
    x.answer? s = some (b, t) ↔ x.run.run s = some (.ok b, t) := by
  rw [answer?]
  split
  · rename_i h
    rw [h, Option.some_inj, Option.some_inj, Prod.mk.injEq, Prod.mk.injEq, Except.ok.injEq]
  · rename_i h
    exact ⟨nofun, fun hx => absurd hx (h b t)⟩

theorem Store.context_cases (s : Store σ) (c : ScopeContext) :
    s.context c = default ∨ ∃ row ∈ s.contexts.rows, s.context c = row.2 := by
  rw [context]
  cases h : s.contexts.get? c with
  | none => exact .inl rfl
  | some r => exact .inr ⟨(c, r), Table.get?_eq_some_iff.1 h, rfl⟩

theorem Store.episode_cases (s : Store σ) (e : Episode) :
    s.episode e = {} ∨ ∃ row ∈ s.episodes.rows, s.episode e = row.2 := by
  rw [episode]
  cases h : s.episodes.get? e with
  | none => exact .inl rfl
  | some r => exact .inr ⟨(e, r), Table.get?_eq_some_iff.1 h, rfl⟩

def ScopeContext.Record.dealsIn (units : List Contextual) (r : ScopeContext.Record) : Bool :=
  r.entries.rows.all fun row => row.2.bag?.all fun bag =>
    bag.contextual.id = row.1 && units.contains bag.contextual

def Episode.Record.dealsIn (units : List Contextual) (r : Episode.Record) : Bool :=
  r.contextual.all units.contains && r.dependents.all fun d => units.contains d.contextual

/-- Whether entries are keyed, and all is of certain definitions. -/
def Store.dealsIn (units : List Contextual) (s : Store σ) : Bool :=
  s.contexts.rows.all (·.2.dealsIn units) && s.episodes.rows.all (·.2.dealsIn units)

theorem Store.dealsIn.live {units : List Contextual} (h : s.dealsIn units = true)
    {c : ScopeContext} {id : ContextualId} {bag : Bag} (hbag : c.live s id = some bag) :
    bag.contextual.id = id ∧ bag.contextual ∈ units := by
  simp only [dealsIn, Bool.and_eq_true, List.all_eq_true, ScopeContext.Record.dealsIn] at h
  obtain ⟨cell, hcell, hlive⟩ := Option.bind_eq_some_iff.1 hbag
  obtain hnone | ⟨row, hrow, hsame⟩ := s.context_cases c
  · rw [hnone] at hcell
    cases hcell
  · rw [hsame] at hcell
    have hdeals := h.1 row hrow (id, cell) (Table.get?_eq_some_iff.1 hcell)
    simpa only [hlive, Option.all_some, Bool.and_eq_true, decide_eq_true_eq,
      List.contains_iff_mem] using hdeals

theorem Store.dealsIn.episode {units : List Contextual} (h : s.dealsIn units = true) (e : Episode) :
    (∀ unit, (s.episode e).contextual = some unit → unit ∈ units) ∧
      ∀ d ∈ (s.episode e).dependents, d.contextual ∈ units := by
  simp only [dealsIn, Bool.and_eq_true, List.all_eq_true] at h
  obtain hnone | ⟨row, hrow, hsame⟩ := s.episode_cases e
  · rw [hnone]
    exact ⟨fun _ hunit => (by cases hunit), List.forall_mem_nil _⟩
  · have hdeals := h.2 row hrow
    simp only [Episode.Record.dealsIn, Bool.and_eq_true, List.all_eq_true, Option.all_eq_true,
      List.contains_iff_mem] at hdeals
    rw [hsame]
    exact hdeals

theorem Store.dealsIn.involved {units : List Contextual} (h : s.dealsIn units = true)
    {c : ScopeContext} {unit : Contextual} (hunit : c.Involves s unit) : unit ∈ units := by
  induction hunit with
  | entry hb =>
    obtain ⟨id, hlive⟩ := ScopeContext.mem_bags.1 hb
    exact (live h hlive).2
  | owner _ howner => exact (episode h _).1 _ howner
  | dependent _ hd => exact (episode h _).2 _ hd
  | nested _ _ ih => exact ih

/-- The hypotheses hold for a session with a cart that has an item, and with a conversation that has
a cart of its own. It is restored by another process. -/
theorem ScopeContext.survives_passivation_cart :
    let cart : Contextual := ⟨1, ⟨"cart"⟩, .bean .session (some "cart"), true, true⟩
    let item : Contextual := ⟨2, ⟨"item"⟩, .plain, true, true⟩
    let host : Host States := .keeping ⟨"main"⟩
    let m : Container := ⟨1⟩
    let shopping : Act States ScopeContext := do
      let m ← modifyGet (Container.new {} [] false)
      modify (m.registerAs "cart" cart)
      modify (m.registerAs "item" item)
      let c ← modifyGet (ScopeContext.newActive .session)
      let e ← modifyGet (m.newEpisode (some cart))
      discard (item.createDependent host e)
      discard (c.getOrCreate host cart e)
      let (v, _) ← modifyGet (c.addTransient toString 1 ⟨1500000⟩)
      modify v.promote
      let e ← modifyGet (m.newEpisode none)
      discard (v.context.getOrCreate host cart e)
      return c
    ∃ c s x s', shopping.run.run { surroundings := ∅ } = some (.ok c, s) ∧
      (m.captureContext host c).run.run s = some (.ok x, s') ∧
      x.entries.map (·.contextual) = ["cart"] ∧
      x.conversations.map (fun v => (v.id, v.timeoutMs)) = [("1", 1)] ∧
      let a : Archive States := .keeping (s.container m).beans (· ∈ [cart, item])
      let t : Store States := { containers := s.containers, surroundings := ∅ }
      s.Keyed ∧ (∀ unit, c.Involves s unit → a.Knows unit) ∧
      ∃ r u, (m.restoreContext host x).run.run t = some (.ok r, u) ∧ t.Adds a u ∧
        (u.context r).active = false ∧ c.Survives a s u r ∧
        ∃ y, (m.captureContext host r).run.run u = some (.ok y, u) ∧ y.Alike x := by
  intro cart item host m shopping
  have hseen : (shopping.answer? { surroundings := ∅ }).bind (fun o =>
      ((m.captureContext host o.1).answer? o.2).map fun p =>
        (o.2.dealsIn [cart, item], Beans.findAll (o.2.container m).beans [cart, item],
          p.1.entries.map (·.contextual), p.1.conversations.map fun v => (v.id, v.timeoutMs))) =
      some (true, true, ["cart"], [("1", 1)]) := by
    decide +kernel
  obtain ⟨⟨c, s⟩, hshopping, hrest⟩ := Option.bind_eq_some_iff.1 hseen
  obtain ⟨⟨x, s'⟩, hcaptured, hall⟩ := Option.map_eq_some_iff.1 hrest
  rw [Act.answer?_eq_some_iff] at hshopping hcaptured
  obtain ⟨hdeals, hall⟩ := Prod.mk.inj hall
  obtain ⟨hregistered, hall⟩ := Prod.mk.inj hall
  obtain ⟨hentries, hconversations⟩ := Prod.mk.inj hall
  have hkeyed : s.Keyed := fun c id bag hbag => (Store.dealsIn.live hdeals hbag).1
  let a : Archive States := .keeping (s.container m).beans (· ∈ [cart, item])
  have hknown : ∀ unit, c.Involves s unit → a.Knows unit := fun unit hunit =>
    Archive.keeping_knows hregistered (Store.dealsIn.involved hdeals hunit)
  let t : Store States := { containers := s.containers, surroundings := ∅ }
  have hbeans : (t.container m).beans = a.beans := rfl
  exact ⟨c, s, x, s', hshopping, hcaptured, hentries, hconversations, hkeyed, hknown,
    survives_passivation a (Archive.keeping_captures _ _ _) (Archive.keeping_captures _ _ _)
      (Archive.keeping_restores _ _ _) hkeyed rfl hbeans hknown hcaptured⟩

end ContextualLifecycle
