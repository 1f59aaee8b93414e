import ContextualLifecycle.Proofs.Container.Alive
import ContextualLifecycle.Proofs.Conversation.Nesting

namespace ContextualLifecycle

variable {σ : Type} {rule : Rule} {fair : Container → Thread → ScopeContext → Store Unit → Prop}
  {request : Request} {γ γ' : Hand} {s s' s₀ : Store (Watched library σ)} {rest : List Errand}
  {c x session : ScopeContext} {kind : ScopeKind} {v : Conversation} {spot : Spot}

/-- What is attached again is a session that was made before. -/
structure Container.ReattachesSessionContext (_ : Container) (_ : Thread) (c : ScopeContext)
    (s : Store Unit) : Prop where
  made : c.number < s.nextContext
  kind : (s.context c).kind = .session

def Sighting.reattachesFairly : Sighting library → Bool
  | .call ⟨_, .start _ .session ⟨_, some c⟩⟩ before _ _ =>
    c.number < before.nextContext && (before.context c).kind = .session
  | _ => true

theorem Sighting.fair_of_reattachesFairly {x : Sighting library} (h : x.reattachesFairly = true) :
    x.Fair Container.ReattachesSessionContext := by
  cases x with
  | moment => trivial
  | call request before answer after =>
    obtain ⟨thread, call⟩ := request
    rintro m ⟨conversation, session⟩ c hcall hsession
    cases hcall
    cases hsession
    have hboth : c.number < before.nextContext ∧ (before.context c).kind = .session := by
      simpa [Sighting.reattachesFairly] using h
    exact ⟨hboth.1, hboth.2⟩

namespace Situation

/-- Contexts are attached where they belong, and those that are no sessions are in no other use. -/
structure Placed (a : Situation σ) : Prop where
  attached : ∀ (spot : Spot) c, spot.context a.store = some c →
    c.number < a.store.nextContext ∧ spot.kind ≠ .conversation ∧
      (a.store.context c).kind = spot.kind
  restored : ∀ c kind, (c, kind) ∈ a.reviving → (a.store.context c).kind = kind
  unlisted : ∀ (spot : Spot) c, spot.context a.store = some c → spot.kind ≠ .session →
    ∀ (x : ScopeContext) id, x.conversation? id a.store ≠ some ⟨c⟩
  unheld : ∀ (spot : Spot) c, spot.context a.store = some c → spot.kind ≠ .session →
    ∀ session, ¬ a.Holds ⟨c⟩ session
  /-- The context is of no use to requests that restore some. -/
  idle : ∀ (spot : Spot) c, spot.context a.store = some c → spot.kind ≠ .session →
    c ∉ a.restoring
  bare : ∀ (spot : Spot) c, spot.context a.store = some c → spot.kind ≠ .session →
    ∀ id, c.conversation? id a.store = none
  held : ∀ v session, a.Holds v session → session.number < v.context.number

section Moved

variable (h : Placed ⟨⟨request, γ⟩ :: rest, s⟩) (hordered : Ordered s₀ ⟨⟨request, γ⟩ :: rest, s⟩)
  (hmove : Move fair request γ s γ' s')

include h hordered

theorem Placed.reviving (hpopped : γ.restoring = (c, kind) :: γ'.restoring) :
    c.number < s.nextContext ∧ (s.context c).kind = kind :=
  ⟨(hordered.catalogued.filed.apart c (restoring_head hpopped)).2.1,
    h.restored c kind (reviving_head hpopped)⟩

include hmove

theorem Placed.restored_moved (hc : (c, kind) ∈ Situation.reviving ⟨⟨request, γ'⟩ :: rest, s'⟩) :
    (s'.context c).kind = kind := by
  obtain hbefore | ⟨hnew, hs'⟩ := hmove.reviving_of hc
  · have hrestoring := mem_restoring_iff.2 ⟨kind, hbefore⟩
    have hmade : c.number < s.nextContext :=
      (hordered.catalogued.filed.apart c hrestoring).2.1
    exact (hmove.context_or hmade).1.trans (h.restored c kind hbefore)
  · rw [hs', hnew, ScopeContext.context_new_eq, if_pos rfl]

/-- A conversation that comes to be held comes after its session. -/
theorem Placed.held_moved (hv : Holds ⟨⟨request, γ'⟩ :: rest, s'⟩ v session) :
    session.number < v.context.number := by
  obtain hbefore | hengages := hmove.holds_or hv
  · exact h.held v session hbefore
  · cases hengages with
    | begun _ hsession hnew =>
      rw [hnew]
      exact hordered.catalogued.known.attached _ _ _ session hsession
    | resumed _ hlisted => exact hordered.tiered.ascending session _ v hlisted

section Attached

variable (hfair : ∀ {m thread c t}, fair m thread c t →
  Container.ReattachesSessionContext m thread c t)

include hfair

theorem Placed.attached_moved (hspot : spot.context s' = some c) :
    c.number < s'.nextContext ∧ spot.kind ≠ .conversation ∧ (s'.context c).kind = spot.kind := by
  obtain hbefore | hlands := hmove.spot_or hspot
  · obtain ⟨hmade, hkind, hsame⟩ := h.attached spot c hbefore
    exact ⟨Nat.lt_of_lt_of_le hmade hmove.next, hkind, (hmove.context_or hmade).1.trans hsame⟩
  · exact hlands.kind hmove (fun hc => ⟨(hfair hc).made, (hfair hc).kind⟩) (h.reviving hordered)

end Attached

omit h hordered hmove in
theorem lands_new (hlands : Move.Lands fair request γ γ' s s' c spot)
    (hkind : spot.kind ≠ .session) : c = ⟨s.nextContext⟩ ∧ request.call.snapshot? = none := by
  cases hlands with
  | shared hcall hnew => exact ⟨hnew, by rw [hcall]; rfl⟩
  | slot hattaches =>
    cases hattaches with
    | started hcall => exact ⟨rfl, by rw [hcall]; rfl⟩
    | reattached | installed => exact absurd rfl hkind

variable (hspot : spot.context s' = some c) (hkind : spot.kind ≠ .session)

include hspot hkind

theorem Placed.unlisted_moved (x : ScopeContext) (id : String) :
    x.conversation? id s' ≠ some ⟨c⟩ := by
  intro hv
  obtain hbefore | hlands := hmove.spot_or hspot
  · obtain hlisted | hlists := hmove.listing hv
    · exact h.unlisted spot c hbefore hkind x id hlisted
    · obtain hnew | hrestoring := hlists.origin rest
      · obtain ⟨hmade, -⟩ := h.attached spot c hbefore
        rw [show c = ⟨s.nextContext⟩ from hnew] at hmade
        exact Nat.lt_irrefl _ hmade
      · exact h.idle spot c hbefore hkind hrestoring
  · obtain ⟨rfl, -⟩ := lands_new hlands hkind
    have hmade := (hordered.catalogued.filed.listed x id _ (hlands.unlisting hv)).1
    exact Nat.lt_irrefl _ hmade

theorem Placed.unheld_moved (session : ScopeContext) :
    ¬ Holds ⟨⟨request, γ'⟩ :: rest, s'⟩ ⟨c⟩ session := by
  intro hheld
  obtain hbefore | hengages := hmove.holds_or hheld
  · obtain hattached | hlands := hmove.spot_or hspot
    · exact h.unheld spot c hattached hkind session hbefore
    · exact hordered.manned.old hbefore (lands_new hlands hkind).1
  · obtain ⟨id, hlisted⟩ := hengages.listed
    exact h.unlisted_moved hordered hmove hspot hkind session id hlisted

theorem Placed.idle_moved : c ∉ restoring ⟨⟨request, γ'⟩ :: rest, s'⟩ := by
  intro hc
  obtain hattached | hlands := hmove.spot_or hspot
  · obtain hbefore | ⟨-, hnew⟩ := hmove.restoring_of hc
    · exact h.idle spot c hattached hkind hbefore
    · obtain ⟨hmade, -⟩ := h.attached spot c hattached
      rw [hnew] at hmade
      exact Nat.lt_irrefl _ hmade
  · obtain ⟨hnew, hcall⟩ := lands_new hlands hkind
    obtain hbefore | ⟨hsnapshot, -⟩ := hmove.restoring_of hc
    · have hmade : c.number < s.nextContext :=
        (hordered.catalogued.filed.apart c hbefore).2.1
      rw [hnew] at hmade
      exact Nat.lt_irrefl _ hmade
    · rw [hcall] at hsnapshot
      cases hsnapshot

theorem Placed.bare_moved (id : String) : c.conversation? id s' = none := by
  cases hv : c.conversation? id s' with
  | none => rfl
  | some v =>
    obtain hattached | hlands := hmove.spot_or hspot
    · obtain hbefore | hlists := hmove.listing hv
      · rw [h.bare spot c hattached hkind id] at hbefore
        cases hbefore
      · cases hlists with
        | begun _ hsession =>
          -- The session has the kind of its slot, and not of this place.
          obtain ⟨-, -, hsame⟩ := h.attached (.slot _ _ .session) c hsession
          rw [(h.attached spot c hattached).2.2] at hsame
          exact absurd hsame hkind
        | restored _ hsession hpopped =>
          refine absurd (mem_restoring.2 (.inl ?_)) (h.idle spot c hattached hkind)
          rw [hpopped]
          exact List.mem_cons_of_mem _ hsession
    · obtain ⟨rfl, -⟩ := lands_new hlands hkind
      have hmade := hordered.catalogued.known.listing _ id v (hlands.unlisting hv)
      exact absurd hmade (Nat.lt_irrefl _)

end Moved

theorem Placed.step {a b : Situation σ} (h : a.Placed) (hordered : a.Ordered s₀)
    (hfair : ∀ {m thread c t}, fair m thread c t →
      Container.ReattachesSessionContext m thread c t)
    (hstep : Step rule fair a b) : b.Placed := by
  cases hstep with
  | moved hmove =>
    exact {
      attached := fun _ _ => h.attached_moved hordered hmove hfair
      restored := fun _ _ => h.restored_moved hordered hmove
      unlisted := fun _ _ => h.unlisted_moved hordered hmove
      unheld := fun _ _ => h.unheld_moved hordered hmove
      idle := fun _ _ => h.idle_moved hordered hmove
      bare := fun _ _ => h.bare_moved hordered hmove
      held := fun _ _ => h.held_moved hordered hmove }
  | asked | answered | noticed | kept =>
    exact ⟨h.attached, h.restored, h.unlisted, h.unheld, h.idle, h.bare, h.held⟩

theorem placed_start (own : σ) : (start own).Placed := by
  have hempty : ∀ (spot : Spot) c, spot.context (start own).store ≠ some c := by
    intro spot c hspot
    cases spot <;> cases hspot
  exact {
    attached := fun spot c hspot => absurd hspot (hempty spot c)
    restored := fun _ _ hin => absurd hin List.not_mem_nil
    unlisted := fun spot c hspot => absurd hspot (hempty spot c)
    unheld := fun spot c hspot => absurd hspot (hempty spot c)
    idle := fun spot c hspot => absurd hspot (hempty spot c)
    bare := fun spot c hspot => absurd hspot (hempty spot c)
    held := fun _ _ hv => absurd hv (unheld_start own) }

end Situation

/-- The scopes of each thread have contexts of their own kinds, and none but sessions have anything
to do with conversations. -/
structure Store.Placed (s : Store σ) : Prop where
  kind : ∀ (spot : Spot) c, spot.context s = some c →
    spot.kind ≠ .conversation ∧ (s.context c).kind = spot.kind
  unlisted : ∀ (spot : Spot) c, spot.context s = some c → spot.kind ≠ .session →
    ∀ (x : ScopeContext) id, x.conversation? id s ≠ some ⟨c⟩
  unheld : ∀ (spot : Spot) c, spot.context s = some c → spot.kind ≠ .session →
    ∀ (m : Container) thread session, m.conversationSlot thread s ≠ .active ⟨c⟩ session
  bare : ∀ (spot : Spot) c, spot.context s = some c → spot.kind ≠ .session →
    ∀ id, c.conversation? id s = none
  held : ∀ (m : Container) thread v session, m.conversationSlot thread s = .active v session →
    session.number < v.context.number

theorem Store.Placed.alone {s : Store σ} (h : s.Placed) (hspot : spot.context s = some x)
    (hkind : spot.kind ≠ .session) (hx : s.Within c x) : c = x := by
  cases hx with
  | self => rfl
  | @conversation y id v _ hv _ => exact absurd hv (h.unlisted spot v.context hspot hkind y id)

theorem Store.placed_bare {u : Store (Watched library σ)} : u.bare.Placed ↔ u.Placed :=
  ⟨fun h => ⟨h.kind, h.unlisted, h.unheld, h.bare, h.held⟩,
    fun h => ⟨h.kind, h.unlisted, h.unheld, h.bare, h.held⟩⟩

theorem Situation.Placed.store {a : Situation σ} (h : a.Placed) : a.store.Placed where
  kind spot c hspot := (h.attached spot c hspot).2
  unlisted := h.unlisted
  unheld spot c hspot hkind m thread session hslot :=
    h.unheld spot c hspot hkind session (.inl ⟨m, thread, hslot⟩)
  bare := h.bare
  held m thread v session hslot := h.held v session (.inl ⟨m, thread, hslot⟩)

/-- Contexts are in their places, and conversations nested, in every store that is reached where
nothing is attached again but sessions. -/
theorem Store.ReachableBy.placed {u : Store Unit}
    (h : u.ReachableBy Container.ReattachesSessionContext) : u.Nested ∧ u.Placed := by
  obtain ⟨σ, own, a, rfl, hway⟩ := h.way
  have hmade : Container.OnlyMade Container.ReattachesSessionContext :=
    fun _ _ _ _ hc => hc.made
  have hboth : a.Ordered (Store.watched { surroundings := own }) ∧ a.Placed := by
    refine hway.keeps (P := fun a => a.Ordered _ ∧ a.Placed) ?_
      ⟨Situation.ordered_start own, Situation.placed_start own⟩
    exact fun _ _ hstep hb => ⟨hb.1.step hmade hstep, hb.2.step hb.1 id hstep⟩
  exact ⟨nested_bare.2 hboth.1.nested, placed_bare.2 hboth.2.store⟩

end ContextualLifecycle
