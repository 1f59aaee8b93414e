import ContextualLifecycle.Proofs.Container.Effects

namespace ContextualLifecycle

variable {σ : Type} {rule : Rule}
  {fair : Container → Thread → ScopeContext → Store Unit → Prop} {request : Request}
  {γ γ' : Hand} {s s' s₀ : Store (Watched library σ)} {rest : List Errand} {m : Container}
  {c x session : ScopeContext} {v : Conversation} {id : String}

namespace Situation

/-- The conversations that requests in progress have begun, with their sessions. -/
def begun (a : Situation σ) : List (Conversation × ScopeContext) :=
  a.errands.flatMap (·.hand.begun)

theorem mem_begun {held : Conversation × ScopeContext} :
    held ∈ begun ⟨⟨request, γ⟩ :: rest, s⟩ ↔ held ∈ γ.begun ∨ held ∈ begun ⟨rest, s⟩ :=
  List.mem_append

theorem mem_restoring : c ∈ restoring ⟨⟨request, γ⟩ :: rest, s⟩ ↔
    c ∈ γ.restoring.map Prod.fst ∨ c ∈ restoring ⟨rest, s⟩ :=
  List.mem_append

theorem begun_head (h : γ.begun = (v, session) :: γ'.begun) :
    (v, session) ∈ begun ⟨⟨request, γ⟩ :: rest, s⟩ := by
  rw [mem_begun, h]
  exact .inl List.mem_cons_self

theorem restoring_head {kind : ScopeKind} (h : γ.restoring = (c, kind) :: γ'.restoring) :
    c ∈ restoring ⟨⟨request, γ⟩ :: rest, s⟩ := by
  rw [mem_restoring, h]
  exact .inl List.mem_cons_self

def Holds (a : Situation σ) (v : Conversation) (session : ScopeContext) : Prop :=
  (∃ (m : Container) (thread : Thread), m.conversationSlot thread a.store = .active v session) ∨
    (v, session) ∈ a.begun

/-- A conversation that is held is marked so, and it is in one place. -/
structure Manned (a : Situation σ) : Prop where
  made : ∀ v session, a.Holds v session → v.context.number < a.store.nextContext
  busy : ∀ v session, a.Holds v session → (a.store.conversation v).busy = true
  slots : ∀ (m : Container) thread (m' : Container) thread' v session session',
    m.conversationSlot thread a.store = .active v session →
    m'.conversationSlot thread' a.store = .active v session' → (m', thread') = (m, thread)
  standby : ∀ (m : Container) thread v session session',
    m.conversationSlot thread a.store = .active v session → (v, session') ∉ a.begun
  nodup : (a.begun.map Prod.fst).Nodup
  unheld : ∀ c ∈ a.restoring, ∀ session, ¬ a.Holds ⟨c⟩ session

/-- A conversation is listed once at most, and by the session that goes with it if it is held. -/
structure Homed (a : Situation σ) : Prop where
  home : ∀ (x x' : ScopeContext) id id' v, x.conversation? id a.store = some v →
    x'.conversation? id' a.store = some v → x' = x
  held : ∀ v session (x : ScopeContext) id, a.Holds v session →
    x.conversation? id a.store = some v → x = session

end Situation

variable (rest) in
theorem Move.Lists.origin (h : Move.Lists request γ γ' s s' x v) :
    v.context = ⟨s.nextContext⟩ ∨ v.context ∈ Situation.restoring ⟨⟨request, γ⟩ :: rest, s⟩ := by
  cases h with
  | begun _ _ hnew => exact .inl (congrArg (·.context) hnew)
  | restored _ _ hpopped => exact .inr (Situation.restoring_head hpopped)

/-- How a conversation comes to be held. -/
inductive Move.Engages (request : Request) (s s' : Store (Watched library σ)) (v : Conversation)
    (session : ScopeContext) : Prop
  | begun {m : Container} (h : request.call = .current m .conversation)
      (hsession : m.slot request.thread .session s = some session)
      (hnew : v = (m.beginning session s).1) (hbegun : s' = (m.beginning session s).2)
  | resumed {m : Container} {id : String} (h : request.call = .current m .conversation)
      (hlisted : session.conversation? id s = some v) (hfree : (s.conversation v).busy = false)
      (hseated : s' =
        (m.swapConversation request.thread (.active v session) (v.tryAcquire s).2).2)

theorem Move.Engages.listed (h : Move.Engages request s s' v session) :
    ∃ id, session.conversation? id s' = some v := by
  cases h with
  | @begun m _ _ hnew hbegun =>
    refine ⟨session.nextName m s, ?_⟩
    rw [hbegun, conversation?_beginning, if_pos ⟨rfl, rfl⟩, hnew]
  | @resumed m id _ hlisted _ hseated =>
    refine ⟨id, ?_⟩
    rw [hseated]
    exact (conversation?_acquire v).trans hlisted

theorem Move.begun_of (h : Move fair request γ s γ' s')
    (hv : (v, session) ∈ Situation.begun ⟨⟨request, γ'⟩ :: rest, s'⟩) :
    (v, session) ∈ Situation.begun ⟨⟨request, γ⟩ :: rest, s⟩ ∨
      v.context = ⟨s.nextContext⟩ ∧ Move.Engages request s s' v session := by
  rw [Situation.mem_begun] at hv ⊢
  rcases hv with hhand | hrest
  · obtain heq | ⟨m, x, heq, hcall, hsession, hbegun⟩ | ⟨held, heq⟩ := h.begun_cases
    · exact .inl (.inl (heq ▸ hhand))
    · rw [heq] at hhand
      rcases List.mem_cons.1 hhand with hnew | hhand
      · cases hnew
        exact .inr ⟨rfl, .begun hcall hsession rfl hbegun⟩
      · exact .inl (.inl hhand)
    · refine .inl (.inl ?_)
      rw [heq]
      exact List.mem_cons_of_mem _ hhand
  · exact .inl (.inr hrest)

/-- What is held at the end of a move was held before, or comes to be held. -/
theorem Move.holds_or (h : Move fair request γ s γ' s')
    (hv : Situation.Holds ⟨⟨request, γ'⟩ :: rest, s'⟩ v session) :
    Situation.Holds ⟨⟨request, γ⟩ :: rest, s⟩ v session ∨
      Move.Engages request s s' v session := by
  rcases hv with ⟨m, thread, hslot⟩ | hbegun
  · obtain hbefore | ⟨rfl, hseats⟩ := h.held_or hslot
    · exact .inl (.inl ⟨m, thread, hbefore⟩)
    · cases hseats with
      | begun _ hbegun =>
        exact .inl (.inr (Situation.begun_head hbegun))
      | resumed hcall _ hlisted _ hfree hseated =>
        exact .inr (.resumed hcall hlisted hfree hseated)
  · exact (h.begun_of hbegun).imp .inr And.right

theorem Move.restoring_of (h : Move fair request γ s γ' s')
    (hc : c ∈ Situation.restoring ⟨⟨request, γ'⟩ :: rest, s'⟩) :
    c ∈ Situation.restoring ⟨⟨request, γ⟩ :: rest, s⟩ ∨
      request.call.snapshot?.isSome = true ∧ c = ⟨s.nextContext⟩ := by
  rw [Situation.mem_restoring] at hc ⊢
  rcases hc with hhand | hrest
  · obtain ⟨⟨_, kind⟩, hin, rfl⟩ := List.mem_map.1 hhand
    obtain hbefore | ⟨hsnapshot, hnew, _⟩ := h.restoring_or hin
    · exact .inl (.inl (List.mem_map_of_mem hbefore))
    · exact .inr ⟨hsnapshot, hnew⟩
  · exact .inl (.inr hrest)

namespace Situation

section Moved

variable (h : Manned ⟨⟨request, γ⟩ :: rest, s⟩) (hmove : Move fair request γ s γ' s')

include h

theorem Manned.old (hv : Holds ⟨⟨request, γ⟩ :: rest, s⟩ v session) :
    v.context ≠ ⟨s.nextContext⟩ := by
  intro heq
  have hmade : v.context.number < s.nextContext := h.made v session hv
  rw [heq] at hmade
  exact Nat.lt_irrefl _ hmade

include hmove

theorem Manned.made_moved (hcatalogued : Catalogued s₀ ⟨⟨request, γ⟩ :: rest, s⟩)
    (hv : Holds ⟨⟨request, γ'⟩ :: rest, s'⟩ v session) :
    v.context.number < s'.nextContext := by
  obtain hbefore | hengages := hmove.holds_or hv
  · exact Nat.lt_of_lt_of_le (h.made v session hbefore) hmove.next
  · cases hengages with
    | @begun m _ _ hnew hbegun =>
      have hnext : s'.nextContext = s.nextContext + 1 := by
        rw [hbegun, Container.beginning, Conversation.tryAcquire]
        split <;> rfl
      rw [hnew, hnext]
      exact Nat.lt_succ_self _
    | resumed _ hlisted =>
      exact Nat.lt_of_lt_of_le (hcatalogued.filed.listed _ _ v hlisted).1 hmove.next

theorem Manned.released {session' : ScopeContext}
    (hheld : m.conversationSlot request.thread s = .active v session)
    (hleft : ∀ session, m.conversationSlot request.thread s' ≠ .active v session) :
    ¬ Holds ⟨⟨request, γ'⟩ :: rest, s'⟩ v session' := by
  have hbefore : Holds ⟨⟨request, γ⟩ :: rest, s⟩ v session := .inl ⟨m, request.thread, hheld⟩
  have hengages : ∀ x, ¬ Move.Engages request s s' v x := by
    rintro x (⟨_, _, hnew, _⟩ | ⟨_, _, hfree, _⟩)
    · exact h.old hbefore (congrArg (·.context) hnew)
    · have hbusy : (s.conversation v).busy = true := h.busy v session hbefore
      rw [hfree] at hbusy
      cases hbusy
  rintro (⟨m', thread', hslot⟩ | hbegun)
  · obtain hsame | ⟨rfl, hseats⟩ := hmove.held_or hslot
    · obtain hdesk := h.slots m request.thread m' thread' v session session' hheld hsame
      cases hdesk
      exact hleft session' hslot
    · cases hseats with
      | begun _ hbegun =>
        exact h.standby m request.thread v session session' hheld (begun_head hbegun)
      | resumed hcall _ hlisted _ hfree hseated =>
        exact hengages session' (.resumed hcall hlisted hfree hseated)
  · obtain hsame | ⟨_, hnew⟩ := hmove.begun_of hbegun
    · exact h.standby m request.thread v session session' hheld hsame
    · exact hengages session' hnew

theorem Manned.busy_moved (hv : Holds ⟨⟨request, γ'⟩ :: rest, s'⟩ v session) :
    (s'.conversation v).busy = true := by
  obtain hbefore | hengages := hmove.holds_or hv
  · obtain hbusy | hfrees := hmove.busy_or (h.busy v session hbefore)
    · exact hbusy
    · cases hfrees with
      | released hheld hleft => exact absurd hv (h.released hmove hheld hleft)
      | restored hpopped =>
        exact absurd hbefore (h.unheld v.context (restoring_head hpopped) session)
  · cases hengages with
    | begun _ _ hnew hbegun => rw [hbegun, Container.conversation_beginning, if_pos hnew]
    | resumed _ _ hfree hseated =>
      rw [hseated]
      change ((v.tryAcquire s).2.conversation v).busy = true
      rw [Conversation.conversation_tryAcquire v v s hfree, if_pos rfl]

theorem Manned.slots_moved {m m' : Container} {thread thread' : Thread} {session' : ScopeContext}
    (hv : m.conversationSlot thread s' = .active v session)
    (hv' : m'.conversationSlot thread' s' = .active v session') :
    (m', thread') = (m, thread) := by
  -- What the thread takes into a slot in the move was in no slot before.
  have hgained : ∀ {m : Container} {session : ScopeContext},
      Move.Seats request γ γ' s s' m v session → ∀ (m' : Container) thread' session',
      m'.conversationSlot thread' s ≠ .active v session' := by
    intro m session hseats m' thread' session' hheld
    cases hseats with
    | begun _ hbegun =>
      exact h.standby m' thread' v session' session hheld (begun_head hbegun)
    | resumed _ _ _ _ hfree =>
      have hbusy : (s.conversation v).busy = true :=
        h.busy v session' (.inl ⟨m', thread', hheld⟩)
      rw [hfree] at hbusy
      cases hbusy
  have hcall : ∀ {m : Container} {session : ScopeContext},
      Move.Seats request γ γ' s s' m v session → request.call = .current m .conversation := by
    rintro m session (⟨hcall, _, _⟩ | ⟨hcall, _, _, _, _, _⟩) <;> exact hcall
  obtain hsame | ⟨rfl, hseats⟩ := hmove.held_or hv
  · obtain hsame' | ⟨rfl, hseats'⟩ := hmove.held_or hv'
    · exact h.slots m thread m' thread' v session session' hsame hsame'
    · exact absurd hsame (hgained hseats' m thread session)
  · obtain hsame' | ⟨rfl, hseats'⟩ := hmove.held_or hv'
    · exact absurd hsame' (hgained hseats m' thread' session')
    · cases (hcall hseats).symm.trans (hcall hseats')
      rfl

theorem Manned.standby_moved (hcatalogued : Catalogued s₀ ⟨⟨request, γ⟩ :: rest, s⟩)
    {thread : Thread} {session' : ScopeContext}
    (hv : m.conversationSlot thread s' = .active v session) :
    (v, session') ∉ begun ⟨⟨request, γ'⟩ :: rest, s'⟩ := by
  intro hbegun
  obtain hsame | ⟨rfl, hseats⟩ := hmove.held_or hv
  · obtain hbefore | ⟨hnew, _⟩ := hmove.begun_of hbegun
    · exact h.standby m thread v session session' hsame hbefore
    · exact h.old (.inl ⟨m, thread, hsame⟩) hnew
  · cases hseats with
    | begun _ hpopped =>
      have hnodup := h.nodup
      rw [begun, List.flatMap_cons, hpopped] at hnodup
      exact (List.nodup_cons.1 hnodup).1 (List.mem_map.2 ⟨_, hbegun, rfl⟩)
    | resumed _ _ hlisted _ hfree =>
      obtain hbefore | ⟨hnew, _⟩ := hmove.begun_of hbegun
      · have hbusy : (s.conversation v).busy = true := h.busy v session' (.inr hbefore)
        rw [hfree] at hbusy
        cases hbusy
      · have hmade := (hcatalogued.filed.listed _ _ v hlisted).1
        rw [hnew] at hmade
        exact Nat.lt_irrefl _ hmade

theorem Manned.nodup_moved : ((begun ⟨⟨request, γ'⟩ :: rest, s'⟩).map Prod.fst).Nodup := by
  have hnodup : ((γ.begun ++ begun ⟨rest, s⟩).map Prod.fst).Nodup := h.nodup
  change ((γ'.begun ++ begun ⟨rest, s⟩).map Prod.fst).Nodup
  obtain heq | ⟨m, session, heq, -⟩ | ⟨held, heq⟩ := hmove.begun_cases
  · rwa [heq]
  · rw [heq, List.cons_append, List.map_cons]
    refine List.nodup_cons.2 ⟨fun hin => ?_, hnodup⟩
    obtain ⟨held, hheld, hv⟩ := List.mem_map.1 hin
    exact h.old (.inr hheld) (congrArg (·.context) hv)
  · rw [heq, List.cons_append, List.map_cons] at hnodup
    exact (List.nodup_cons.1 hnodup).2

theorem Manned.unheld_moved (hcatalogued : Catalogued s₀ ⟨⟨request, γ⟩ :: rest, s⟩)
    (hc : c ∈ restoring ⟨⟨request, γ'⟩ :: rest, s'⟩) :
    ¬ Holds ⟨⟨request, γ'⟩ :: rest, s'⟩ ⟨c⟩ session := by
  intro hheld
  have hapart := hcatalogued.filed.apart
  obtain hbefore | ⟨hsnapshot, hnew⟩ := hmove.restoring_of hc
  · obtain hheld | hengages := hmove.holds_or hheld
    · exact h.unheld c hbefore session hheld
    · cases hengages with
      | begun _ _ hnew =>
        have hmade : c.number < s.nextContext := (hapart c hbefore).2.1
        rw [show c = ⟨s.nextContext⟩ from congrArg (·.context) hnew] at hmade
        exact Nat.lt_irrefl _ hmade
      | resumed _ hlisted => exact (hapart c hbefore).2.2 session _ hlisted
  · obtain hheld | hengages := hmove.holds_or hheld
    · exact h.old hheld hnew
    · cases hengages with
      | begun hcall =>
        rw [hcall] at hsnapshot
        cases hsnapshot
      | resumed _ hlisted =>
        have hmade := (hcatalogued.filed.listed _ _ ⟨c⟩ hlisted).1
        rw [hnew] at hmade
        exact Nat.lt_irrefl _ hmade

end Moved

variable {a b : Situation σ}

theorem Manned.step (h : a.Manned) (hcatalogued : a.Catalogued s₀) (hstep : Step rule fair a b) :
    b.Manned := by
  cases hstep with
  | moved hmove =>
    exact ⟨fun _ _ => h.made_moved hmove hcatalogued, fun _ _ => h.busy_moved hmove,
      fun _ _ _ _ _ _ _ => h.slots_moved hmove, fun _ _ _ _ _ => h.standby_moved hmove hcatalogued,
      h.nodup_moved hmove, fun _ hc _ => h.unheld_moved hmove hcatalogued hc⟩
  | asked | answered | noticed | kept =>
    exact ⟨h.made, h.busy, h.slots, h.standby, h.nodup, h.unheld⟩

theorem Catalogued.unlisted (h : Catalogued s₀ ⟨⟨request, γ⟩ :: rest, s⟩)
    (hlists : Move.Lists request γ γ' s s' x v) (y : ScopeContext) (id : String) :
    y.conversation? id s ≠ some v := by
  intro hv
  obtain hnew | hrestoring := hlists.origin rest
  · have hmade : v.context.number < s.nextContext := (h.filed.listed y id v hv).1
    rw [hnew] at hmade
    exact Nat.lt_irrefl _ hmade
  · exact (h.filed.apart v.context hrestoring).2.2 y id hv

theorem Catalogued.only (h : Catalogued s₀ ⟨⟨request, γ⟩ :: rest, s⟩)
    (hlists : Move.Lists request γ γ' s s' x v) {y : ScopeContext} {id : String}
    (hv : y.conversation? id s' = some v) : y = x := by
  have hunlisted := h.unlisted hlists y id
  cases hlists with
  | begun _ _ _ hbegun =>
    rw [hbegun, conversation?_beginning] at hv
    split at hv
    · rename_i hplace
      exact hplace.1
    · split at hv
      · cases hv
      · exact absurd hv hunlisted
  | restored _ _ _ hlisted =>
    rw [hlisted, conversation?_put, Filed.conversation?_converse] at hv
    split at hv
    · rename_i hplace
      exact hplace.1
    · exact absurd hv hunlisted

section Moved

variable (h : Homed ⟨⟨request, γ⟩ :: rest, s⟩)
  (hcatalogued : Catalogued s₀ ⟨⟨request, γ⟩ :: rest, s⟩) (hmove : Move fair request γ s γ' s')

include h hcatalogued hmove

theorem Homed.home_moved {x x' : ScopeContext} {id id' : String}
    (hv : x.conversation? id s' = some v) (hv' : x'.conversation? id' s' = some v) : x' = x := by
  obtain hbefore | hlists := hmove.listing hv
  · obtain hbefore' | hlists' := hmove.listing hv'
    · exact h.home x x' id id' v hbefore hbefore'
    · exact absurd hbefore (hcatalogued.unlisted hlists' x id)
  · exact hcatalogued.only hlists hv'

theorem Homed.held_moved (hmanned : Manned ⟨⟨request, γ⟩ :: rest, s⟩) {id : String}
    (hheld : Holds ⟨⟨request, γ'⟩ :: rest, s'⟩ v session) (hv : x.conversation? id s' = some v) :
    x = session := by
  obtain hbefore | hengages := hmove.holds_or hheld
  · obtain hlisted | hlists := hmove.listing hv
    · exact h.held v session x id hbefore hlisted
    · obtain hnew | hrestoring := hlists.origin rest
      · exact absurd hnew (hmanned.old hbefore)
      · exact absurd hbefore (hmanned.unheld v.context hrestoring session)
  · cases hengages with
    | begun hcall hsession hnew hbegun =>
      have hlists : Move.Lists request γ γ' s s' session v := .begun hcall hsession hnew hbegun
      exact hcatalogued.only hlists hv
    | resumed _ hlisted _ hseated =>
      rw [hseated] at hv
      have hbefore : x.conversation? id s = some v := (conversation?_acquire v).symm.trans hv
      exact h.home session x _ id v hlisted hbefore

end Moved

/-- Every step keeps conversations at home. -/
theorem Homed.step (h : a.Homed) (hmanned : a.Manned) (hcatalogued : a.Catalogued s₀)
    (hstep : Step rule fair a b) : b.Homed := by
  cases hstep with
  | moved hmove =>
    exact ⟨fun _ _ _ _ _ => h.home_moved hcatalogued hmove,
      fun _ _ _ _ => h.held_moved hcatalogued hmove hmanned⟩
  | asked | answered | noticed | kept => exact ⟨h.home, h.held⟩

theorem unlisted_start (own : σ) : x.conversation? id (start own).store ≠ some v := by
  intro hv
  cases hv

theorem unheld_start (own : σ) : ¬ (start own).Holds v session := by
  rintro (⟨_, _, hslot⟩ | hbegun)
  · cases hslot
  · cases hbegun

theorem manned_start (own : σ) : (start own).Manned where
  made _ _ hv := absurd hv (unheld_start own)
  busy _ _ hv := absurd hv (unheld_start own)
  slots m thread _ _ _ _ _ hv := absurd (.inl ⟨m, thread, hv⟩) (unheld_start own)
  standby m thread _ _ _ hv := absurd (.inl ⟨m, thread, hv⟩) (unheld_start own)
  nodup := .nil
  unheld _ hc := absurd hc List.not_mem_nil

theorem homed_start (own : σ) : (start own).Homed where
  home _ _ _ _ _ hv := absurd hv (unlisted_start own)
  held _ _ _ _ hv := absurd hv (unheld_start own)

end Situation

end ContextualLifecycle
