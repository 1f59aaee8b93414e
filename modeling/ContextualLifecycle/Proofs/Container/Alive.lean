import ContextualLifecycle.Proofs.Conversation.Holders

namespace ContextualLifecycle

variable {σ : Type} {fair : Container → Thread → ScopeContext → Store Unit → Prop}
  {request : Request} {γ γ' : Hand} {s s' s₀ : Store (Watched library σ)} {rest : List Errand}
  {m : Container} {thread : Thread} {kind : ScopeKind} {c x session : ScopeContext}
  {v : Conversation} {spot : Spot} {id : String}

def Call.toggles : Call → Bool
  | .setActive .. | .destroyAll .. => true
  | _ => false

/-- A session that is attached again was made before, is attached nowhere else, and is not kept as a
conversation. -/
structure Container.ReattachesSession (m : Container) (thread : Thread) (c : ScopeContext)
    (s : Store Unit) : Prop where
  made : c.number < s.nextContext
  kind : (s.context c).kind = .session
  elsewhere : ∀ (m' : Container) thread', m'.slot thread' .session s = some c →
    (m', thread') = (m, thread)
  unlisted : ∀ (x : ScopeContext) id, x.conversation? id s ≠ some ⟨c⟩
  unheld : ∀ (m' : Container) thread' session, m'.conversationSlot thread' s ≠ .active ⟨c⟩ session

/-- The context is active, and its end has not begun. -/
def ScopeContext.Thrives (Ended : ScopeContext → Prop) (s : Store σ) (c : ScopeContext) : Prop :=
  (s.context c).active = true ∧ ¬ Ended c

/-- The context is one of a conversation by its kind, or it was restored as one. -/
def Conversation.Kindred (Nested : ScopeKind → Prop) (s : Store σ) (v : Conversation) : Prop :=
  (s.context v.context).kind = .conversation ∨ Nested (s.context v.context).kind

namespace Situation

def ending (a : Situation σ) : List ScopeContext :=
  a.errands.flatMap fun errand => errand.hand.doomed ++ errand.hand.falling

def reviving (a : Situation σ) : List (ScopeContext × ScopeKind) :=
  a.errands.flatMap (·.hand.restoring)

theorem mem_ending : c ∈ ending ⟨⟨request, γ⟩ :: rest, s⟩ ↔
    (c ∈ γ.doomed ∨ c ∈ γ.falling) ∨ c ∈ ending ⟨rest, s⟩ := by
  rw [ending, List.flatMap_cons, List.mem_append, List.mem_append]
  rfl

theorem mem_reviving : (c, kind) ∈ reviving ⟨⟨request, γ⟩ :: rest, s⟩ ↔
    (c, kind) ∈ γ.restoring ∨ (c, kind) ∈ reviving ⟨rest, s⟩ :=
  List.mem_append

theorem reviving_head (h : γ.restoring = (c, kind) :: γ'.restoring) :
    (c, kind) ∈ reviving ⟨⟨request, γ⟩ :: rest, s⟩ := by
  rw [mem_reviving, h]
  exact .inl List.mem_cons_self

theorem restoring_eq (a : Situation σ) : a.restoring = a.reviving.map Prod.fst := by
  rw [restoring, reviving, List.map_flatMap]

theorem mem_restoring_iff {a : Situation σ} : c ∈ a.restoring ↔ ∃ kind, (c, kind) ∈ a.reviving := by
  rw [restoring_eq]
  exact List.mem_map.trans ⟨fun ⟨⟨_, kind⟩, hin, heq⟩ => ⟨kind, heq ▸ hin⟩,
    fun ⟨kind, hin⟩ => ⟨(c, kind), hin, rfl⟩⟩

end Situation

theorem Move.reviving_of (h : Move fair request γ s γ' s')
    (hc : (c, kind) ∈ Situation.reviving ⟨⟨request, γ'⟩ :: rest, s'⟩) :
    (c, kind) ∈ Situation.reviving ⟨⟨request, γ⟩ :: rest, s⟩ ∨
      c = ⟨s.nextContext⟩ ∧ s' = (ScopeContext.new kind s).2 := by
  rw [Situation.mem_reviving] at hc ⊢
  rcases hc with hhand | hrest
  · exact (h.restoring_or hhand).imp .inl And.right
  · exact .inl (.inr hrest)

namespace Situation

/-- Contexts are in use in one way, and those that are in use are active. -/
structure Alive (s₀ : Store (Watched library σ)) (Ended : ScopeContext → Prop)
    (Nested : ScopeKind → Prop) (a : Situation σ) : Prop where
  manned : a.Manned
  homed : a.Homed
  catalogued : a.Catalogued s₀
  made : ∀ c, Ended c → c.number < a.store.nextContext
  ended : ∀ c ∈ a.ending, Ended c
  attached : ∀ (spot : Spot) c, spot.context a.store = some c → c.number < a.store.nextContext ∧
    spot.kind ≠ .conversation ∧ (a.store.context c).kind = spot.kind ∧ c.Thrives Ended a.store
  single : ∀ (spot spot' : Spot) c, spot.context a.store = some c →
    spot'.context a.store = some c → spot' = spot
  apart : ∀ (spot : Spot) c, spot.context a.store = some c →
    (∀ (x : ScopeContext) id, x.conversation? id a.store ≠ some ⟨c⟩) ∧
      ∀ session, ¬ a.Holds ⟨c⟩ session
  listed : ∀ (x : ScopeContext) id v, x.conversation? id a.store = some v →
    v.context.Thrives Ended a.store ∧ v.Kindred Nested a.store
  held : ∀ v session, a.Holds v session →
    (Ended session ∨ v.context.Thrives Ended a.store) ∧ v.Kindred Nested a.store
  begun : ∀ v session, (v, session) ∈ a.begun → (a.store.context v.context).kind = .conversation
  restored : ∀ c kind, (c, kind) ∈ a.reviving → (a.store.context c).kind = kind ∧
    (a.store.context c).active = false ∧ ¬ Ended c

/-- The end of the context has begun, by now or before. -/
def Ends (a : Situation σ) (Ended : ScopeContext → Prop) (c : ScopeContext) : Prop :=
  c ∈ a.ending ∨ Ended c

section Moved

variable {Ended : ScopeContext → Prop} {Nested : ScopeKind → Prop}
  (h : Alive s₀ Ended Nested ⟨⟨request, γ⟩ :: rest, s⟩)

include h

/-- A context that is being restored is in use in no other way. -/
theorem Alive.restoring_apart (hc : c ∈ restoring ⟨⟨request, γ⟩ :: rest, s⟩) :
    (∀ spot : Spot, spot.context s ≠ some c) ∧ c.number < s.nextContext ∧
      (∀ (x : ScopeContext) id, x.conversation? id s ≠ some ⟨c⟩) ∧
      ∀ session, ¬ Holds ⟨⟨request, γ⟩ :: rest, s⟩ ⟨c⟩ session := by
  have hapart := h.catalogued.filed.apart c hc
  refine ⟨fun spot hspot => ?_, hapart.2.1, hapart.2.2, h.manned.unheld c hc⟩
  obtain ⟨kind, hin⟩ := mem_restoring_iff.1 hc
  have hinactive : (s.context c).active = false := (h.restored c kind hin).2.1
  have hactive : (s.context c).active = true := (h.attached spot c hspot).2.2.2.1
  rw [hinactive] at hactive
  cases hactive

theorem Alive.unused : (∀ spot : Spot, spot.context s ≠ some ⟨s.nextContext⟩) ∧
    (∀ (x : ScopeContext) id, x.conversation? id s ≠ some ⟨⟨s.nextContext⟩⟩) ∧
    (∀ session, ¬ Holds ⟨⟨request, γ⟩ :: rest, s⟩ ⟨⟨s.nextContext⟩⟩ session) ∧
    ¬ Ended ⟨s.nextContext⟩ :=
  ⟨fun spot hspot => Nat.lt_irrefl _ (h.attached spot _ hspot).1,
    fun x id hv => Nat.lt_irrefl _ (h.catalogued.filed.listed x id _ hv).1,
    fun _ hheld => h.manned.old hheld rfl, fun hended => Nat.lt_irrefl _ (h.made _ hended)⟩

section Gone

variable (hcall : request.call.toggles = false)

include hcall

theorem Alive.dooms (hdooms : Move.Dooms request γ s s' c) :
    c.number < s.nextContext ∧ c ∉ restoring ⟨⟨request, γ⟩ :: rest, s⟩ := by
  cases hdooms with
  | asked hasked =>
    rw [hasked] at hcall
    cases hcall
  | detached spot hspot =>
    exact ⟨(h.attached spot c hspot).1, fun hc => (h.restoring_apart hc).1 spot hspot⟩
  | unlisted session id hlisted =>
    exact ⟨(h.catalogued.filed.listed session id ⟨c⟩ hlisted).1,
      fun hc => (h.restoring_apart hc).2.2.1 session id hlisted⟩
  | released hheld =>
    have hholds : Holds ⟨⟨request, γ⟩ :: rest, s⟩ ⟨c⟩ _ := .inl ⟨_, _, hheld⟩
    exact ⟨h.manned.made ⟨c⟩ _ hholds, fun hc => (h.restoring_apart hc).2.2.2 _ hholds⟩

variable (hmove : Move fair request γ s γ' s')

include hmove

omit hcall in
theorem Alive.ended_or (hc : Ends ⟨⟨request, γ'⟩ :: rest, s'⟩ Ended c) :
    Ended c ∨ Move.Dooms request γ s s' c := by
  rcases hc with hending | hended
  · rcases mem_ending.1 hending with (hdoomed | hfalling) | hrest
    · exact (hmove.dooms_or hdoomed).imp_left fun hc => h.ended c (mem_ending.2 (.inl (.inl hc)))
    · exact .inl (h.ended c (mem_ending.2 (.inl (hmove.falls hfalling).symm)))
    · exact .inl (h.ended c (mem_ending.2 (.inr hrest)))
  · exact .inl hended

theorem Alive.made_moved (hc : Ends ⟨⟨request, γ'⟩ :: rest, s'⟩ Ended c) :
    c.number < s'.nextContext := by
  refine Nat.lt_of_lt_of_le ?_ hmove.next
  obtain hended | hdooms := h.ended_or hmove hc
  · exact h.made c hended
  · exact (h.dooms hcall hdooms).1

theorem Alive.thrives_moved (hc : c.number < s.nextContext) (hthrives : c.Thrives Ended s)
    (hsafe : ¬ Move.Dooms request γ s s' c) :
    c.Thrives (Ends ⟨⟨request, γ'⟩ :: rest, s'⟩ Ended) s' := by
  refine ⟨?_, fun hends => (h.ended_or hmove hends).elim hthrives.2 hsafe⟩
  obtain ⟨-, hsame | hflips⟩ := hmove.context_or hc
  · exact hsame.trans hthrives.1
  · cases hactive : (s'.context c).active with
    | true => rfl
    | false =>
      rw [hactive] at hflips
      cases hflips with
      | switched hasked =>
        rw [hasked] at hcall
        cases hcall
      | fallen hdoomed =>
        exact absurd (h.ended c (mem_ending.2 (.inl (.inl hdoomed)))) hthrives.2

theorem Alive.listed_safe {id : String} (hv : x.conversation? id s' = some v) :
    ¬ Move.Dooms request γ s s' v.context := by
  obtain hbefore | hlists := hmove.listing hv
  · have hname : (s.conversation v).id = id := (h.catalogued.filed.listed x id v hbefore).2
    rintro (hasked | ⟨spot, hspot, -⟩ | ⟨session, id', hlisted, hleft, -⟩ |
      ⟨hheld, -, hunlisted⟩)
    · rw [hasked] at hcall
      cases hcall
    · exact (h.apart spot _ hspot).1 x id hbefore
    · cases h.homed.home x session id id' v hbefore hlisted
      have hname' : (s.conversation v).id = id' :=
        (h.catalogued.filed.listed x id' v hlisted).2
      rw [← hname'.symm.trans hname, hleft] at hv
      cases hv
    · rw [← h.homed.held v _ x id (.inl ⟨_, _, hheld⟩) hbefore, hname, hv] at hunlisted
      cases hunlisted
  · intro hdooms
    obtain ⟨hmade, hunrestored⟩ := h.dooms hcall hdooms
    obtain hnew | hrestoring := hlists.origin rest
    · rw [hnew] at hmade
      exact Nat.lt_irrefl _ hmade
    · exact hunrestored hrestoring

variable (hnests : ∀ kind, request.call.nests kind → Nested kind)

include hnests

theorem Alive.listed_moved {id : String} (hv : x.conversation? id s' = some v) :
    v.context.Thrives (Ends ⟨⟨request, γ'⟩ :: rest, s'⟩ Ended) s' ∧ v.Kindred Nested s' := by
  have hsafe := h.listed_safe hcall hmove hv
  obtain hbefore | hlists := hmove.listing hv
  · have hmade := (h.catalogued.filed.listed x id v hbefore).1
    obtain ⟨hthrives, hkindred⟩ := h.listed x id v hbefore
    refine ⟨h.thrives_moved hcall hmove hmade hthrives hsafe, ?_⟩
    rwa [Conversation.Kindred, (hmove.context_or hmade).1]
  · obtain ⟨hactive, ⟨hnew, hkind⟩ | ⟨kind, hkind, hpopped, hsame⟩⟩ := hlists.context
    · refine ⟨⟨hactive, fun hends => (h.ended_or hmove hends).elim ?_ hsafe⟩, .inl hkind⟩
      rw [hnew]
      exact h.unused.2.2.2
    · obtain ⟨hrestored, -, hunended⟩ := h.restored v.context kind (reviving_head hpopped)
      refine ⟨⟨hactive, fun hends => (h.ended_or hmove hends).elim hunended hsafe⟩, .inr ?_⟩
      rw [hsame.trans hrestored]
      exact hnests kind hkind

/-- A conversation that is held is active from then on, unless the end of its session begins. -/
theorem Alive.held_moved (hv : Holds ⟨⟨request, γ'⟩ :: rest, s'⟩ v session) :
    (Ends ⟨⟨request, γ'⟩ :: rest, s'⟩ Ended session ∨
      v.context.Thrives (Ends ⟨⟨request, γ'⟩ :: rest, s'⟩ Ended) s') ∧ v.Kindred Nested s' := by
  obtain hbefore | hengages := hmove.holds_or hv
  · have hmade := h.manned.made v session hbefore
    obtain ⟨hthrives, hkindred⟩ := h.held v session hbefore
    refine ⟨?_, by rwa [Conversation.Kindred, (hmove.context_or hmade).1]⟩
    rcases hthrives with hended | hthrives
    · exact .inl (.inr hended)
    by_cases hended : Ended session
    · exact .inl (.inr hended)
    refine .inr (h.thrives_moved hcall hmove hmade hthrives ?_)
    -- A thread that lets go of it holds it no more, and only its session could list it.
    rintro (hasked | ⟨spot, hspot, -⟩ | ⟨x, id, hlisted, -, htorn | ⟨hfree, -⟩⟩ | ⟨hheld, hleft, -⟩)
    · rw [hasked] at hcall
      cases hcall
    · exact (h.apart spot _ hspot).2 session hbefore
    · cases h.homed.held v session x id hbefore hlisted
      exact hended (h.ended _ (mem_ending.2 (.inl htorn)))
    · have hbusy : (s.conversation v).busy = true := h.manned.busy v session hbefore
      rw [hfree] at hbusy
      cases hbusy
    · exact h.manned.released hmove hheld hleft hv
  · obtain ⟨id, hlisted⟩ := hengages.listed
    exact (h.listed_moved hcall hmove hnests hlisted).imp_left .inr

omit hnests

omit hcall in
theorem Alive.begun_moved (hv : (v, session) ∈ Situation.begun ⟨⟨request, γ'⟩ :: rest, s'⟩) :
    (s'.context v.context).kind = .conversation := by
  obtain hbefore | ⟨hnew, hengages⟩ := hmove.begun_of hv
  · rw [(hmove.context_or (h.manned.made v session (.inr hbefore))).1]
    exact h.begun v session hbefore
  · cases hengages with
    | @begun m _ _ _ hbegun =>
      rw [hbegun, (m.context_beginning session v.context).1, if_pos hnew]
    | resumed _ hlisted =>
      have hmade := (h.catalogued.filed.listed _ _ v hlisted).1
      rw [hnew] at hmade
      exact absurd hmade (Nat.lt_irrefl _)

variable (hheed : ∀ c, Move.Reattaches request γ s s' c →
  c ∉ restoring ⟨⟨request, γ⟩ :: rest, s⟩ ∧ ¬ Ended c)

include hheed

theorem Alive.restored_moved (hc : (c, kind) ∈ reviving ⟨⟨request, γ'⟩ :: rest, s'⟩) :
    (s'.context c).kind = kind ∧ (s'.context c).active = false ∧
      ¬ Ends ⟨⟨request, γ'⟩ :: rest, s'⟩ Ended c := by
  have hunended : ¬ Ended c → (c ∈ restoring ⟨⟨request, γ⟩ :: rest, s⟩ ∨ c = ⟨s.nextContext⟩) →
      ¬ Ends ⟨⟨request, γ'⟩ :: rest, s'⟩ Ended c := by
    intro hbefore hin hends
    obtain hended | hdooms := h.ended_or hmove hends
    · exact hbefore hended
    · obtain ⟨hmade, hunrestored⟩ := h.dooms hcall hdooms
      rcases hin with hin | rfl
      · exact hunrestored hin
      · exact Nat.lt_irrefl _ hmade
  obtain hbefore | ⟨hnew, hs'⟩ := hmove.reviving_of hc
  · obtain ⟨hkind, hinactive, hbefore'⟩ := h.restored c kind hbefore
    have hin := mem_restoring_iff.2 ⟨kind, hbefore⟩
    obtain ⟨hsame, hactive⟩ := hmove.context_or (h.restoring_apart hin).2.1
    refine ⟨hsame.trans hkind, ?_, hunended hbefore' (.inl hin)⟩
    rcases hactive with hactive | hflips
    · exact hactive.trans hinactive
    · cases hactive : (s'.context c).active with
      | false => rfl
      | true =>
        rw [hactive] at hflips
        cases hflips with
        | switched hasked =>
          rw [hasked] at hcall
          cases hcall
        | reattached hreattached => exact absurd hin (hheed c hreattached).1
        | restored hpopped =>
          -- It was restored once, and is not any more.
          have hnodup := h.catalogued.filed.nodup
          rw [restoring, List.flatMap_cons, hpopped] at hnodup
          exact absurd (mem_restoring_iff.2 ⟨kind, hc⟩) (List.nodup_cons.1 hnodup).1
  · rw [hs', hnew, ScopeContext.context_new_eq, if_pos rfl]
    exact ⟨rfl, rfl, hnew ▸ hunended (hnew ▸ h.unused.2.2.2) (.inr hnew)⟩

end Gone

section Attached

variable (hmove : Move fair request γ s γ' s')
  (hfair : ∀ {m thread c t}, fair m thread c t → Container.ReattachesSession m thread c t)
  (hheed : ∀ c, Move.Reattaches request γ s s' c →
    c ∉ restoring ⟨⟨request, γ⟩ :: rest, s⟩ ∧ ¬ Ended c)

include hmove hfair hheed

theorem Alive.sole (hspot : spot.context s' = some c) :
    (∀ spot' : Spot, spot'.context s = some c → spot' = spot) ∧
      (∀ (x : ScopeContext) id, x.conversation? id s ≠ some ⟨c⟩) ∧
      (∀ session, ¬ Holds ⟨⟨request, γ⟩ :: rest, s⟩ ⟨c⟩ session) ∧ ¬ Ended c := by
  obtain hbefore | hlands := hmove.spot_or hspot
  · obtain ⟨hunlisted, hunheld⟩ := h.apart spot c hbefore
    exact ⟨fun spot' hspot' => h.single spot spot' c hbefore hspot', hunlisted, hunheld,
      (h.attached spot c hbefore).2.2.2.2⟩
  obtain ⟨hspots, hunlisted, hunheld, hunended⟩ := h.unused
  have hnew : c = ⟨s.nextContext⟩ → (∀ spot' : Spot, spot'.context s = some c → spot' = spot) ∧
      (∀ (x : ScopeContext) id, x.conversation? id s ≠ some ⟨c⟩) ∧
      (∀ session, ¬ Holds ⟨⟨request, γ⟩ :: rest, s⟩ ⟨c⟩ session) ∧ ¬ Ended c := by
    rintro rfl
    exact ⟨fun spot' hspot => absurd hspot (hspots spot'), hunlisted, hunheld, hunended⟩
  cases hlands with
  | shared _ hc => exact hnew hc
  | slot hattaches =>
    cases hattaches with
    | started => exact hnew rfl
    | @reattached m params hcall hsession hfair' hhand hplaced =>
      have hreattached := hfair hfair'
      have hkind : (s.context c).kind = .session := hreattached.kind
      refine ⟨fun spot' hspot => ?_, hreattached.unlisted, ?_,
        (hheed c ⟨hhand, _, _, hcall, hsession, hplaced⟩).2⟩
      · have hspotkind := (h.attached spot' c hspot).2.2.1
        rw [hkind] at hspotkind
        cases spot' with
        | shared => cases hspotkind
        | slot m' thread' kind' =>
          cases hspotkind
          cases hreattached.elsewhere m' thread' hspot
          rfl
      · rintro session (⟨m', thread', hslot⟩ | hbegun)
        · exact hreattached.unheld m' thread' session hslot
        · have hconversation : (s.context c).kind = .conversation := h.begun ⟨c⟩ session hbegun
          rw [hkind] at hconversation
          cases hconversation
    | installed _ hpopped =>
      obtain ⟨hspots, -, hunlisted, hunheld⟩ := h.restoring_apart (restoring_head hpopped)
      exact ⟨fun spot' hspot => absurd hspot (hspots spot'), hunlisted, hunheld,
        (h.restored c _ (reviving_head hpopped)).2.2⟩

theorem Alive.single_moved {spot' : Spot} (hspot : spot.context s' = some c)
    (hspot' : spot'.context s' = some c) : spot' = spot := by
  obtain hbefore | hlands := hmove.spot_or hspot
  · exact ((h.sole hmove hfair hheed hspot').1 spot hbefore).symm
  · rw [hlands.context_spot spot'] at hspot'
    split at hspot'
    · rename_i hsame
      exact hsame
    · exact (h.sole hmove hfair hheed hspot).1 spot' hspot'

theorem Alive.apart_moved (hspot : spot.context s' = some c) :
    (∀ (x : ScopeContext) id, x.conversation? id s' ≠ some ⟨c⟩) ∧
      ∀ session, ¬ Holds ⟨⟨request, γ'⟩ :: rest, s'⟩ ⟨c⟩ session := by
  obtain ⟨-, hunlisted, hunheld, -⟩ := h.sole hmove hfair hheed hspot
  have hunlisted' : ∀ (x : ScopeContext) id, x.conversation? id s' ≠ some ⟨c⟩ := by
    intro x id hv
    obtain hbefore | hlists := hmove.listing hv
    · exact hunlisted x id hbefore
    obtain hbefore | hlands := hmove.spot_or hspot
    · obtain hnew | hrestoring := hlists.origin rest
      · rw [show c = ⟨s.nextContext⟩ from hnew] at hbefore
        exact h.unused.1 spot hbefore
      · exact (h.restoring_apart hrestoring).1 spot hbefore
    · exact hunlisted x id (hlands.unlisting hv)
  refine ⟨hunlisted', fun session hheld => ?_⟩
  obtain hbefore | hengages := hmove.holds_or hheld
  · exact hunheld session hbefore
  · obtain ⟨id, hlisted⟩ := hengages.listed
    exact hunlisted' session id hlisted

variable (hcall : request.call.toggles = false)

include hcall

theorem Alive.attached_safe (hspot : spot.context s' = some c) :
    ¬ Move.Dooms request γ s s' c := by
  obtain ⟨honly, hunlisted, hunheld, -⟩ := h.sole hmove hfair hheed hspot
  rintro (hasked | ⟨spot', hspot', hleft⟩ | ⟨x, id, hlisted, -, -⟩ | ⟨hheld, -, -⟩)
  · rw [hasked] at hcall
    cases hcall
  · cases honly spot' hspot'
    exact hleft hspot
  · exact hunlisted x id hlisted
  · exact hunheld _ (.inl ⟨_, _, hheld⟩)

theorem Alive.attached_moved (hspot : spot.context s' = some c) :
    c.number < s'.nextContext ∧ spot.kind ≠ .conversation ∧ (s'.context c).kind = spot.kind ∧
      c.Thrives (Ends ⟨⟨request, γ'⟩ :: rest, s'⟩ Ended) s' := by
  have hsafe := h.attached_safe hmove hfair hheed hcall hspot
  obtain hbefore | hlands := hmove.spot_or hspot
  · obtain ⟨hmade, hscope, hkind, hthrives⟩ := h.attached spot c hbefore
    exact ⟨Nat.lt_of_lt_of_le hmade hmove.next, hscope, (hmove.context_or hmade).1.trans hkind,
      h.thrives_moved hcall hmove hmade hthrives hsafe⟩
  · have hrestored : ∀ {kind}, γ.restoring = (c, kind) :: γ'.restoring →
        c.number < s.nextContext ∧ (s.context c).kind = kind := fun hpopped =>
      ⟨(h.restoring_apart (restoring_head hpopped)).2.1,
        (h.restored c _ (reviving_head hpopped)).1⟩
    obtain ⟨hmade, hscope, hkind⟩ := hlands.kind hmove
      (fun hc => ⟨(hfair hc).made, (hfair hc).kind⟩) hrestored
    exact ⟨hmade, hscope, hkind, hlands.active, fun hends =>
      (h.ended_or hmove hends).elim (h.sole hmove hfair hheed hspot).2.2.2 hsafe⟩

end Attached

end Moved

def Reattaches (a b : Situation σ) (c : ScopeContext) : Prop :=
  ∃ request γ γ' rest, a.errands = ⟨request, γ⟩ :: rest ∧ b.errands = ⟨request, γ'⟩ :: rest ∧
    Move.Reattaches request γ a.store b.store c

theorem Alive.settled {Ended : ScopeContext → Prop} {Nested : ScopeKind → Prop} {a : Situation σ}
    (h : a.Alive s₀ Ended Nested) : a.Alive s₀ (a.Ends Ended) Nested := by
  have hends : a.Ends Ended = Ended :=
    funext fun c => propext ⟨fun hc => hc.elim (h.ended c) id, .inr⟩
  rwa [hends]

/-- Every step keeps what is in use alive, if no request toggles contexts and no session is attached
again whose end has begun. -/
theorem Alive.step {rule : Rule} {Ended : ScopeContext → Prop} {Nested : ScopeKind → Prop}
    {a b : Situation σ} (h : a.Alive s₀ Ended Nested)
    (hfair : ∀ {m thread c t}, fair m thread c t → Container.ReattachesSession m thread c t)
    (hcall : ∀ errand ∈ a.errands, errand.request.call.toggles = false)
    (hnests : ∀ errand ∈ a.errands, ∀ kind, errand.request.call.nests kind → Nested kind)
    (hheed : ∀ c, Reattaches a b c → c ∉ a.restoring ∧ ¬ Ended c)
    (hstep : Step rule fair a b) : b.Alive s₀ (b.Ends Ended) Nested := by
  have hmanned := h.manned.step h.catalogued hstep
  have hhomed := h.homed.step h.manned h.catalogued hstep
  have hcatalogued := h.catalogued.step (fun m thread c s hc => (hfair hc).made) hstep
  cases hstep with
  | @moved rest request γ s γ' s' hmove =>
    replace hcall := hcall _ List.mem_cons_self
    replace hnests := hnests _ List.mem_cons_self
    replace hheed : ∀ c, Move.Reattaches request γ s s' c →
        c ∉ restoring ⟨⟨request, γ⟩ :: rest, s⟩ ∧ ¬ Ended c :=
      fun c hc => hheed c ⟨request, γ, γ', rest, rfl, rfl, hc⟩
    exact {
      manned := hmanned
      homed := hhomed
      catalogued := hcatalogued
      made := fun _ => h.made_moved hcall hmove
      ended := fun _ => .inl
      attached := fun _ _ => h.attached_moved hmove hfair hheed hcall
      single := fun _ _ _ => h.single_moved hmove hfair hheed
      apart := fun _ _ => h.apart_moved hmove hfair hheed
      listed := fun _ _ _ => h.listed_moved hcall hmove hnests
      held := fun _ _ => h.held_moved hcall hmove hnests
      begun := fun _ _ => h.begun_moved hmove
      restored := fun _ _ => h.restored_moved hcall hmove hheed }
  | asked | answered | noticed | kept =>
    refine Alive.settled ?_
    exact ⟨hmanned, hhomed, hcatalogued, h.made, h.ended, h.attached, h.single, h.apart, h.listed,
      h.held, h.begun, h.restored⟩

end Situation

end ContextualLifecycle
