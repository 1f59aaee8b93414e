import ContextualLifecycle.Proofs.Container.Stop
import ContextualLifecycle.Proofs.Snapshot.Recognition

namespace ContextualLifecycle

variable {σ α : Type}

/-- What may come of restoring a snapshot that names certain definitions. An id is unknown only if
one of them declares it, and what is restored has the very definitions that were named, but for
those that declare an id under which another one is registered. -/
structure Beans.Recovers (beans : Beans) (named : Contextual → Prop)
    (restored : α → Store σ → Contextual → Prop) (r : Except LifecycleError α) (t : Store σ) :
    Prop where
  known : ∀ id, r = .error (.unknownPassivationId id) →
    beans.get? id = none ∧ ∃ unit, named unit ∧ beans.Misnames id unit
  same : ∀ a, r = .ok a → ∀ unit, restored a t unit → ∃ original id, named original ∧
    beans.idOf? original = some id ∧ beans.get? id = some unit ∧
      (unit.isSame original = true ∨ beans.Misnames id original)

section Recovers

variable {beans : Beans} {named : Contextual → Prop} {ids : List String}
  (hnamed : ∀ id ∈ ids, beans.Names named id)

include hnamed

theorem Beans.Misses.misnames {id : String} (h : beans.Misses ids id) :
    beans.get? id = none ∧ ∃ unit, named unit ∧ beans.Misnames id unit := by
  obtain ⟨hid, hnone⟩ := h
  obtain ⟨unit, hunit, hown⟩ := hnamed id hid
  refine ⟨hnone, unit, hunit, (registers_of_idOf? hown).resolve_left ?_⟩
  rintro ⟨found, hfound, _⟩
  rw [hnone] at hfound
  cases hfound

theorem Beans.Finds.original {unit : Contextual} (h : beans.Finds ids unit) :
    ∃ original id, named original ∧ beans.idOf? original = some id ∧ beans.get? id = some unit ∧
      (unit.isSame original = true ∨ beans.Misnames id original) := by
  obtain ⟨id, hid, hfound⟩ := h
  obtain ⟨original, horiginal, hown⟩ := hnamed id hid
  refine ⟨original, id, horiginal, hown, hfound, (registers_of_idOf? hown).imp_left ?_⟩
  rintro ⟨found, hfound', hsame⟩
  rw [hfound] at hfound'
  cases hfound'
  exact hsame

/-- Restoring resolves ids that are those of named definitions. -/
theorem Act.Resolves.recovers {x : Act σ α} {restored : α → Store σ → Contextual → Prop}
    {t : Store σ} (h : x.Resolves (beans.Misses ids)
      (fun a u => ∀ unit, restored a u unit → beans.Finds ids unit) t) :
    Act.wp True x (beans.Recovers named restored) t := by
  apply Act.wp.mono h
  rintro r u ⟨hok, herror⟩
  exact ⟨fun id hid => (herror id hid).misnames hnamed,
    fun a ha unit hunit => (hok a ha unit hunit).original hnamed⟩

end Recovers

theorem Act.inScope_resolves (kind : ScopeKind) (x : Act σ α) (missing : String → Prop)
    (s : Store σ) : (Act.inScope kind x).Resolves missing (fun _ _ => True) s := by
  have hmarked : ∀ (error : LifecycleError) id,
      error.intoContext kind ≠ .unknownPassivationId id := by
    intro error id
    cases error <;> exact fun h => by cases h
  rw [Resolves, Act.wp_inScope]
  apply (Act.wp_outcome x s).mono
  intro r t _
  refine ⟨fun _ _ => trivial, fun id hid => ?_⟩
  cases r with
  | ok a => cases hid
  | error error => exact absurd (Except.error.inj hid) (hmarked error id)

/-- Contextuals that are registered one after the other with a new container: under each id the
last one is found, one that has an id goes by it or declares another one, and one that is registered
has an id. A snapshot that is captured while these are registered, with callbacks that leave the
captured objects and what is being restored alone, is restored with the very contextuals that it
names, and no id is unknown, unless one of them declares an id under which it is not registered. -/
theorem Registration.portable_ids (config : Config) (observers : List Observer) (proxying : Bool)
    (s₀ : Store σ) (registrations : List Registration) :
    let made := Container.new config observers proxying s₀
    let beans : Beans := ((made.1.registerAll registrations made.2).container made.1).beans
    (∀ id, beans.get? id = last? id registrations) ∧
    (∀ unit id, beans.idOf? unit = some id → beans.Registers id unit ∨ beans.Misnames id unit) ∧
    (∀ unit id, beans.Registers id unit → ∃ own, beans.idOf? unit = some own) ∧
    ∀ (host host' : Host σ) (m m' : Container) (s t : Store σ),
      host.CapturesAside → host'.RestoresAside m' t →
      (s.container m).beans = beans → (t.container m').beans = beans →
      (∀ (e : Episode) x s', (m.captureEpisode host e).run.run s = some (.ok x, s') →
        Act.wp True (m'.restoreEpisode host' x)
          (beans.Recovers (e.Involves s) fun r u => r.Involves u) t) ∧
      ∀ (c : ScopeContext) x s', (m.captureContext host c).run.run s = some (.ok x, s') →
        Act.wp True (m'.restoreContext host' x)
          (beans.Recovers (c.Involves s) fun r u => r.Involves u) t ∧
        Act.wp True (m'.restoreSession host' x) (fun r _ =>
          ∀ id, r = .error (.unknownPassivationId id) →
            beans.get? id = none ∧ ∃ unit, c.Involves s unit ∧ beans.Misnames id unit) t := by
  intro made beans
  refine ⟨Container.get?_registerAll_new config observers proxying s₀ registrations,
    fun unit id => Beans.registers_of_idOf?, fun unit id => Beans.Registers.idOf?, ?_⟩
  intro host host' m m' s t hcaptures hrestores hbeans hbeans'
  have hstart : t.Follows t := .refl t
  constructor
  · intro e x s' hcaptured
    have hall : ∀ unit, e.Involves s unit → e.Involves s unit := fun _ => id
    have hnames := Container.captureEpisode_names hbeans hcaptures (.refl s) hall
    have hnamed := (((Act.wp_of_run hcaptured).1 hnames) x rfl).2
    have hresolves := Container.restoreEpisode_resolves (x := x) hrestores hstart hbeans'
      (List.Subset.refl _)
    exact (hresolves.mono fun r u hr unit hunit => hr.2.involved unit hunit).recovers hnamed
  · intro c x s' hcaptured
    have hall : ∀ unit, c.Involves s unit → c.Involves s unit := fun _ => id
    have hnames := Container.captureNested_names hbeans hcaptures UInt64.size c s (.refl s) hall
    have hnamed := (((Act.wp_of_run hcaptured).1 hnames) x rfl).2
    have hresolves := Container.restoreContext_resolves hrestores x t hstart hbeans'
      (List.Subset.refl _)
    refine ⟨(hresolves.mono fun r u hr unit hunit => hr.2.2.involves hunit).recovers hnamed, ?_⟩
    have hsession : (m'.restoreSession host' x).Resolves (beans.Misses x.ids)
        (fun _ _ => True) t := by
      rw [Container.restoreSession]
      split
      · exact .bind (.throw fun _ h => by cases h)
      · refine .bind (hresolves.mono fun session u _ => .bind ?_)
        exact (Act.inScope_resolves .session _ _ u).mono fun _ _ _ => .pure trivial
    exact Act.wp.mono hsession fun r u hr id hid => (hr.2 id hid).misnames hnamed

theorem Host.keeping_capturesAside (thread : Thread) : (Host.keeping thread).CapturesAside := by
  intro unit inst s
  have hrun := Archive.keeping_captures ∅ (fun _ => True) thread unit inst s trivial
  exact (Act.wp_of_run hrun).2 (.refl s)

theorem Host.keeping_restoresAside (thread : Thread) (m : Container) (s₀ : Store States) :
    (Host.keeping thread).RestoresAside m s₀ := by
  intro unit state s _
  have hspares : s.Spares m s₀ (fun _ => True)
      { s with surroundings := s.surroundings.insert ⟨s.nextToken⟩ state } :=
    { Store.Spares.refl m s₀ (fun _ => True) s with dated := fun h => h.of_contexts rfl }
  exact ⟨hspares, fun _ h => by cases h⟩

/-- The hypotheses hold of an episode of a cart with an item, the cart declaring its id and the item
being registered under two. -/
theorem Registration.portable_ids_cart :
    let cart : Contextual := ⟨1, ⟨"cart"⟩, .bean .session (some "shop.cart"), true, true⟩
    let item : Contextual := ⟨2, ⟨"item"⟩, .plain, true, true⟩
    let registrations := [.declared cart, .under "things" item, .under "items" item]
    let empty : Store States := { surroundings := (∅ : States).insert ⟨9⟩ (.string "pen") }
    let made := Container.new {} [] false empty
    let begun := made.1.newEpisode (some cart) (made.1.registerAll registrations made.2)
    let m := made.1
    let e := begun.1
    let s := e.addDependent item (some ⟨9⟩) begun.2
    let beans : Beans := (s.container m).beans
    let host : Host States := .keeping ⟨"main"⟩
    host.CapturesAside ∧ host.RestoresAside m s ∧
      ∃ x s', (m.captureEpisode host e).run.run s = some (.ok x, s') ∧
        x.ids = ["shop.cart", "things"] ∧ Act.wp True (m.restoreEpisode host x)
          (beans.Recovers (e.Involves s) fun r u => r.Involves u) s := by
  intro cart item registrations empty made begun m e s beans host
  have hseen : ((m.captureEpisode host e).answer? s).map (·.1.ids) =
      some ["shop.cart", "things"] := by decide +kernel
  obtain ⟨⟨x, s'⟩, hcaptured, hids⟩ := Option.map_eq_some_iff.1 hseen
  rw [Act.answer?_eq_some_iff] at hcaptured
  have hcaptures := Host.keeping_capturesAside ⟨"main"⟩
  have hrestores := Host.keeping_restoresAside ⟨"main"⟩ m s
  obtain ⟨_, _, _, hall⟩ := portable_ids {} [] false empty registrations
  have hrecovers := (hall host host m m s s hcaptures hrestores rfl rfl).1 e x s' hcaptured
  exact ⟨hcaptures, hrestores, x, s', hcaptured, hids, hrecovers⟩

theorem Container.restoreEpisode_unknown (host : Host σ) {m : Container} {x : EpisodeSnapshot}
    {s : Store σ} {id : String} (hid : x.contextual = some id)
    (hnone : (s.container m).beans.get? id = none) :
    (m.restoreEpisode host x).run.run s = some (.error (.unknownPassivationId id), s) := by
  have hrefused : Act.wp False (m.restoreEpisode host x)
      (fun r t => r = .error (.unknownPassivationId id) ∧ t = s) s := by
    simp only [restoreEpisode, hid, resolve, Beans.resolve, Act.wp_bind, Act.wp_get,
      Act.wp_liftExcept, hnone]
    exact ⟨trivial, trivial⟩
  obtain ⟨_, _, hrun, rfl, rfl⟩ := Act.wp_false_iff.1 hrefused
  exact hrun

/-- A cart that declares one id and is registered under another one only: its id does not resolve,
and an episode for it is captured, but the same container refuses the snapshot. Of two carts that
declare one id, the first one's id resolves to the second one. -/
theorem Registration.id_unresolved :
    let cart : Contextual := ⟨1, ⟨"cart"⟩, .bean .session (some "shop.cart"), true, true⟩
    let other : Contextual := ⟨2, ⟨"cart"⟩, .bean .session (some "shop.cart"), true, true⟩
    let made := Container.new {} [] false ({ surroundings := ∅ } : Store States)
    let m := made.1
    let host : Host States := .keeping ⟨"main"⟩
    (let begun := m.newEpisode (some cart) (m.registerAll [.under "carts" cart] made.2)
      let beans : Beans := (begun.2.container m).beans
      beans.get? "carts" = some cart ∧ beans.idOf? cart = some "shop.cart" ∧
        beans.get? "shop.cart" = none ∧
        ∃ x s, (m.captureEpisode host begun.1).run.run begun.2 = some (.ok x, s) ∧
          (m.restoreEpisode host x).run.run begun.2 =
            some (.error (.unknownPassivationId "shop.cart"), begun.2)) ∧
      let beans : Beans :=
        ((m.registerAll [.declared cart, .declared other] made.2).container m).beans
      beans.idOf? cart = some "shop.cart" ∧ beans.get? "shop.cart" = some other ∧
        other.isSame cart = false := by
  intro cart other made m host
  refine ⟨?_, by decide +kernel⟩
  intro begun beans
  have hnone : (begun.2.container m).beans.get? "shop.cart" = none := by decide +kernel
  have hseen : ((m.captureEpisode host begun.1).answer? begun.2).map (·.1.contextual) =
      some (some "shop.cart") := by decide +kernel
  obtain ⟨⟨x, s⟩, hcaptured, hid⟩ := Option.map_eq_some_iff.1 hseen
  rw [Act.answer?_eq_some_iff] at hcaptured
  exact ⟨by decide +kernel, by decide +kernel, hnone, x, s, hcaptured,
    Container.restoreEpisode_unknown host hid hnone⟩

end ContextualLifecycle
