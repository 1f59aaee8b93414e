import ContextualLifecycle.Proofs.Closing.Leaving

namespace ContextualLifecycle

variable {σ : Type}

/-- A conversation leaves its session if it is transient. -/
def ScopeContext.dismiss (session : ScopeContext) (r : Conversation.Record) (s : Store σ) :
    Store σ :=
  if r.transient then (session.removeConversation r.id s).2 else s

/-- The store once the thread let go of the conversation that it held. -/
def Container.lettingGo (m : Container) (thread : Thread) (time : Duration) (s : Store σ) :
    Store σ :=
  match m.conversationSlot thread s with
  | .active v session => session.dismiss (s.conversation v)
      (v.update (fun r => { r with busy := false, lastAccess := time }) s)
  | _ => s

/-- The thread lets go of a conversation, which is torn down if it is transient and still there. -/
theorem Container.wp_finishConversation_of {host : Host σ} {m : Container} {stuck : Prop}
    {Inv : Store σ → Prop} {s : Store σ} {v : Conversation} {session : ScopeContext}
    (hends : (s.conversation v).transient = true →
      ((session.dismiss (s.conversation v) (v.release s)).context v.context).active = true →
      Act.wp stuck (m.teardownConversation host v) (fun _ t => Inv t)
        (session.dismiss (s.conversation v) (v.release s)))
    (hstays : ((s.conversation v).transient = true →
      ((session.dismiss (s.conversation v) (v.release s)).context v.context).active = false) →
      Inv (session.dismiss (s.conversation v) (v.release s))) :
    Act.wp stuck (m.finishConversation host v session) (fun _ t => Inv t) s := by
  rw [ScopeContext.dismiss] at hends hstays
  apply Container.wp_finishConversation
  · intro hlasting
    rw [hlasting] at hstays
    exact hstays fun htransient => by cases htransient
  · intro htransient
    rw [htransient] at hends hstays
    exact Container.wp_endConversation (fun hgone => hstays fun _ => hgone) (hends rfl)

namespace Closing

variable {w : Closing σ} {host : Host (Watched library σ)} {m : Container} {thread : Thread}
  {s t u : Store (Watched library σ)} {gone : ScopeContext → Prop} {told : List Notice}

/-- What becomes of a context, when a conversation leaves its session. -/
def dismissing (session : ScopeContext) (r : Conversation.Record) (x : ScopeContext)
    (record : ScopeContext.Record) : ScopeContext.Record :=
  if r.transient = true ∧ x = session then
    { record with conversations := record.conversations.erase r.id }
  else record

theorem Reshaped.dismiss {s' : Store (Watched library σ)} (h : Reshaped (fun _ r => r) s s')
    (session : ScopeContext) (r : Conversation.Record) :
    Reshaped (dismissing session r) s (session.dismiss r s') := by
  by_cases htransient : r.transient = true
  · rw [ScopeContext.dismiss, if_pos htransient]
    refine ⟨h.journal, h.seen, fun x => ?_, h.nextContext⟩
    refine (ScopeContext.context_update_eq ..).trans ?_
    rw [dismissing, h.contexts, h.contexts]
    by_cases hx : x = session
    · rw [if_pos hx, if_pos ⟨htransient, hx⟩, hx]
    · rw [if_neg hx, if_neg fun hboth => hx hboth.2]
  · rw [ScopeContext.dismiss, if_neg htransient]
    refine ⟨h.journal, h.seen, fun x => ?_, h.nextContext⟩
    rw [dismissing, if_neg fun hboth => htransient hboth.1]
    exact h.contexts x

theorem conversation_dismiss (session : ScopeContext) (r : Conversation.Record) (v : Conversation)
    (s : Store (Watched library σ)) : (session.dismiss r s).conversation v = s.conversation v := by
  rw [ScopeContext.dismiss]
  split <;> rfl

theorem threadScopes_dismiss (session : ScopeContext) (r : Conversation.Record) (m : Container)
    (thread : Thread) (s : Store (Watched library σ)) :
    (session.dismiss r s).threadScopes m thread = s.threadScopes m thread := by
  rw [ScopeContext.dismiss]
  split <;> rfl

theorem application_dismiss (session : ScopeContext) (r : Conversation.Record) (m : Container)
    (s : Store (Watched library σ)) :
    m.application (session.dismiss r s) = m.application s := by
  rw [ScopeContext.dismiss]
  split <;> rfl

theorem threadScopes_lettingGo (m m' : Container) (thread thread' : Thread) (time : Duration)
    (s : Store (Watched library σ)) :
    (m.lettingGo thread time s).threadScopes m' thread' = s.threadScopes m' thread' := by
  rw [Container.lettingGo]
  split
  · exact threadScopes_dismiss ..
  · rfl

theorem application_lettingGo (m m' : Container) (thread : Thread) (time : Duration)
    (s : Store (Watched library σ)) :
    m'.application (m.lettingGo thread time s) = m'.application s := by
  rw [Container.lettingGo]
  split
  · exact application_dismiss ..
  · rfl

section Held

variable {v : Conversation} {session : ScopeContext}
  (hslot : m.conversationSlot thread s = .active v session)

include hslot

theorem lettingGo_eq (time : Duration) : m.lettingGo thread time s =
    session.dismiss (s.conversation v)
      (v.update (fun r => { r with busy := false, lastAccess := time }) s) := by
  rw [Container.lettingGo, hslot]

theorem reshaped_lettingGo (time : Duration) :
    Reshaped (dismissing session (s.conversation v)) s (m.lettingGo thread time s) := by
  rw [lettingGo_eq hslot]
  let freed := v.update (fun r => { r with busy := false, lastAccess := time }) s
  have hfreed : Reshaped (fun _ r => r) s freed := ⟨rfl, rfl, fun _ => rfl, rfl⟩
  exact hfreed.dismiss session (s.conversation v)

theorem conversation_lettingGo (time : Duration) (w : Conversation) :
    (m.lettingGo thread time s).conversation w = if w = v then
      { s.conversation v with busy := false, lastAccess := time } else s.conversation w := by
  rw [lettingGo_eq hslot]
  exact (conversation_dismiss ..).trans (Conversation.conversation_update v w _ s)

theorem Departs.dismissed (h : w.Departs m thread gone told s u) :
    w.Departs m thread gone told (m.lettingGo thread u.clock s)
      (session.dismiss (s.conversation v)
        (v.release (m.swapConversation thread .notStarted u).2)) := by
  let freed := v.release (m.swapConversation thread .notStarted u).2
  have hfreed : Reshaped (fun _ r => r) u freed := ⟨rfl, rfl, fun _ => rfl, rfl⟩
  refine Departs.of_reshaped h (fun x r => ?_) (fun x r => ?_) (reshaped_lettingGo hslot u.clock)
    (hfreed.dismiss session (s.conversation v)) ?_ ?_ ?_
  · rw [dismissing, dismissing]
    split <;> rfl
  · rw [dismissing]
    split <;> rfl
  · intro v'
    rw [conversation_lettingGo hslot, conversation_dismiss, Conversation.conversation_release]
    exact if_congr Iff.rfl (congrArg (fun r : Conversation.Record =>
      { r with busy := false, lastAccess := u.clock }) (h.conversations v)) (h.conversations v')
  · intro m' thread' hdesk
    have hswapped := Container.threadScopes_update m m' thread thread'
      (fun r => { r with conversation := .notStarted }) u
    rw [if_neg hdesk] at hswapped
    rw [threadScopes_dismiss, threadScopes_lettingGo, ← Departs.threadScopes h hdesk]
    exact hswapped
  · intro m' hm
    rw [application_dismiss, application_lettingGo, ← Departs.application h hm]
    rfl

theorem context_lettingGo_of_ne {x : ScopeContext} (hx : x ≠ session) (time : Duration) :
    (m.lettingGo thread time s).context x = s.context x := by
  rw [(reshaped_lettingGo hslot time).contexts, dismissing, if_neg fun hboth => hx hboth.2]

theorem conversation?_lettingGo (time : Duration) (x : ScopeContext) (id : String) :
    x.conversation? id (m.lettingGo thread time s) =
      if (s.conversation v).transient = true ∧ x = session ∧ id = (s.conversation v).id then none
      else x.conversation? id s := by
  rw [ScopeContext.conversation?, (reshaped_lettingGo hslot time).contexts, dismissing,
    ScopeContext.conversation?]
  by_cases hsession : (s.conversation v).transient = true ∧ x = session
  · rw [if_pos hsession, Table.get?_erase]
    exact if_congr ⟨fun hid => ⟨hsession.1, hsession.2, hid⟩, fun hall => hall.2.2⟩ rfl rfl
  · rw [if_neg hsession, if_neg fun hall => hsession ⟨hall.1, hall.2.1⟩]

end Held

theorem conversation_lettingGo_of_free {v : Conversation}
    (hfree : ∀ session, m.conversationSlot thread s ≠ .active v session) (time : Duration) :
    (m.lettingGo thread time s).conversation v = s.conversation v := by
  cases hslot : m.conversationSlot thread s with
  | active w session =>
    rw [conversation_lettingGo hslot, if_neg]
    rintro rfl
    exact hfree session hslot
  | _ => rw [Container.lettingGo, hslot]

theorem lettingGo_quiet (m : Container) (thread : Thread) (time : Duration)
    (s : Store (Watched library σ)) : (m.lettingGo thread time s).journal = s.journal ∧
      (m.lettingGo thread time s).seen = s.seen := by
  cases hslot : m.conversationSlot thread s with
  | active v session =>
    exact ⟨(reshaped_lettingGo hslot time).journal, (reshaped_lettingGo hslot time).seen⟩
  | _ =>
    rw [Container.lettingGo, hslot]
    exact ⟨rfl, rfl⟩

theorem context_lettingGo (m : Container) (thread : Thread) (time : Duration)
    (s : Store (Watched library σ)) (x : ScopeContext) :
    ∃ conversations, (m.lettingGo thread time s).context x =
      { s.context x with conversations } := by
  cases hslot : m.conversationSlot thread s with
  | active v session =>
    rw [(reshaped_lettingGo hslot time).contexts, dismissing]
    split
    · exact ⟨_, rfl⟩
    · exact ⟨_, rfl⟩
  | _ =>
    rw [Container.lettingGo, hslot]
    exact ⟨_, rfl⟩

/-- The session of the slot loses the conversation that it has under the name of the one that the
thread holds, if that is transient. -/
theorem conversation?_lettingGo_iff {time : Duration} {x : ScopeContext} {id : String}
    {v : Conversation} : x.conversation? id (m.lettingGo thread time s) = some v ↔
      x.conversation? id s = some v ∧ ∀ v', m.conversationSlot thread s = .active v' x →
        (s.conversation v').transient = true → (s.conversation v').id ≠ id := by
  cases hslot : m.conversationSlot thread s with
  | active w session =>
    rw [conversation?_lettingGo hslot]
    split
    · rename_i hleft
      obtain ⟨htransient, rfl, rfl⟩ := hleft
      exact ⟨nofun, fun hv => absurd rfl (hv.2 w rfl htransient)⟩
    · rename_i hstays
      refine ⟨fun hv => ⟨hv, ?_⟩, And.left⟩
      rintro v' ⟨⟩ htransient rfl
      exact hstays ⟨htransient, rfl, rfl⟩
  | _ =>
    rw [Container.lettingGo, hslot]
    exact ⟨fun hv => ⟨hv, fun _ => nofun⟩, And.left⟩

theorem lettingGo_shrinks (m : Container) (thread : Thread) (time : Duration)
    (s : Store (Watched library σ)) : s.Shrinks (m.lettingGo thread time s) := by
  cases hslot : m.conversationSlot thread s with
  | active v session =>
    have hreshaped := reshaped_lettingGo hslot time
    refine ⟨hreshaped.nextContext, fun x hx => ?_, fun x id v' hv => ?_, fun v' => ?_⟩
    · rw [hreshaped.contexts, dismissing] at hx
      split at hx <;> exact hx
    · rw [conversation?_lettingGo hslot] at hv
      split at hv
      · cases hv
      · exact hv
    · rw [conversation_lettingGo hslot]
      split
      · rename_i hv
        rw [hv]
      · rfl
  | _ =>
    rw [Container.lettingGo, hslot]
    exact ⟨rfl, fun _ hx => hx, fun _ _ _ hv => hv, fun _ => rfl⟩

/-- The thread lets go of a conversation that is torn down then. It is transient, and was not torn
down before. -/
structure Held (m : Container) (thread : Thread) (s : Store (Watched library σ))
    (roots : List ScopeContext) (v : Conversation) (session : ScopeContext) : Prop where
  slot : m.conversationSlot thread s = .active v session
  transient : (s.conversation v).transient = true
  active : (s.context v.context).active = true
  apart : ¬ ∃ r ∈ roots, s.Within r v.context

/-- The context is that of a conversation that is torn down when the thread lets go of it, if there
is one. -/
def Dismisses (m : Container) (thread : Thread) (s : Store (Watched library σ))
    (roots : List ScopeContext) (held : Option ScopeContext) : Prop :=
  ∀ c, c ∈ held ↔ ∃ v session, Held m thread s roots v session ∧ v.context = c

theorem attached_swap (m : Container) (thread : Thread) (slot : ConversationSlot) (kind : ScopeKind)
    (s : Store (Watched library σ)) :
    m.attached thread kind (m.swapConversation thread slot s).2 = m.attached thread kind s := by
  rw [Container.attached, Container.attached, Conversation.slot_swapConversation]
  rfl

namespace Underway

variable {roots : List ScopeContext} {left : List ScopeKind} {v : Conversation}
  {session : ScopeContext}

theorem dismissed (h : w.Underway m thread s s roots told (.conversation :: left) u)
    (hslot : m.conversationSlot thread s = .active v session) :
    w.Underway m thread s (m.lettingGo thread u.clock s) roots told left
      (session.dismiss (s.conversation v)
        (v.release (m.swapConversation thread .notStarted u).2)) := by
  refine ⟨h.departs.dismissed hslot, lettingGo_shrinks .., fun kind hin => ?_⟩
  rw [← h.attached kind (List.mem_cons_of_mem _ hin), ← attached_swap m thread .notStarted kind u,
    Container.attached, Container.attached, application_dismiss, Container.slot,
    threadScopes_dismiss]
  rfl

theorem cleared {base : Store (Watched library σ)}
    (h : w.Underway m thread s base roots told (.conversation :: left) u) :
    w.Underway m thread s base roots told left
      (m.swapConversation thread .notStarted u).2 := by
  refine ⟨?_, h.base, fun kind hin => ?_⟩
  · refine Departs.of_reshaped (f := fun _ r => r) h.departs (fun _ _ => rfl) (fun _ _ => rfl)
      ⟨rfl, rfl, fun _ => rfl, rfl⟩ ⟨rfl, rfl, fun _ => rfl, rfl⟩ h.departs.conversations ?_ ?_
    · intro m' thread' hdesk
      rw [← Departs.threadScopes h.departs hdesk]
      exact (Container.threadScopes_update ..).trans (if_neg hdesk)
    · intro m' hm
      rw [← Departs.application h.departs hm]
      rfl
  · rw [attached_swap, h.attached kind (List.mem_cons_of_mem _ hin)]

theorem held_iff {base : Store (Watched library σ)}
    (h : w.Underway m thread s base roots told left u)
    (hslot : m.conversationSlot thread s = .active v session)
    (hkept : base.context v.context = s.context v.context) :
    Held m thread s roots v session ↔
      (s.conversation v).transient = true ∧ (u.context v.context).active = true := by
  by_cases hgone : ∃ r ∈ roots, s.Within r v.context
  · refine ⟨fun hheld => absurd hgone hheld.apart, fun hboth => ?_⟩
    have hdown : u.context v.context = (base.context v.context).remains :=
      h.departs.remains v.context hgone
    rw [hdown] at hboth
    cases hboth.2
  · rw [h.kept hgone, hkept]
    exact ⟨fun hheld => ⟨hheld.transient, hheld.active⟩,
      fun hboth => ⟨hslot, hboth.1, hboth.2, hgone⟩⟩

theorem leave_held {base : Store (Watched library σ)}
    (h : w.Underway m host.thread s base roots told left u)
    (hdefers : w.Defers host) (hs : s.Nested) (hwords : s.nextContext ≤ UInt64.size)
    (hkept : ∀ y, s.Within v.context y → base.context y = s.context y) :
    Act.wp False (m.teardownConversation host v) (fun _ t =>
      w.Underway m host.thread s base (roots ++ [v.context])
        (told ++ [(.destroyed, m, .conversation, v.context)]) left t) u := by
  have hnext : u.nextContext ≤ UInt64.size := by
    rwa [h.shrinks.nextContext]
  apply (hdefers.teardownConversation (h.shrinks.nested hs) hnext v).mono
  intro _ t ht
  refine ⟨(h.departs.trans (ht.deserted m host.thread)).congr fun x => ?_, h.base,
    fun kind hin => (ht.attached m host.thread kind).trans (h.attached kind hin)⟩
  have hwithin : (∃ r ∈ roots, s.Within r x) ∨ u.Within v.context x ↔
      (∃ r ∈ roots, s.Within r x) ∨ s.Within v.context x := by
    refine Store.Within.or_of_kept h.shrinks ?_ fun y hy hgone => (h.kept hgone).trans (hkept y hy)
    rintro y id v' ⟨r, hr, hy⟩ hv hactive
    exact ⟨r, hr, .conversation hy hv hactive⟩
  simp only [List.mem_append, List.mem_singleton, or_and_right, exists_or, exists_eq_left]
  exact hwithin

/-- The conversation scope ends. -/
theorem leave_conversation (h : w.Underway m host.thread s s roots told (.conversation :: left) u)
    (hdefers : w.Defers host) (hs : s.Nested) (hwords : s.nextContext ≤ UInt64.size)
    (hslot : m.conversationSlot host.thread u = m.conversationSlot host.thread s)
    (hheld : ∀ v session, m.conversationSlot host.thread s = .active v session →
      session.number < v.context.number) :
    Act.wp False (m.stop host .conversation) (fun _ t => ∃ time held,
      Dismisses m host.thread s roots held ∧
      w.Underway m host.thread s (m.lettingGo host.thread time s) (roots ++ Option.toList held)
        (told ++ held.toList.flatMap fun c => m.farewell .conversation c s) left t) u := by
  rw [Container.wp_stop_conversation, hslot]
  cases hactive : m.conversationSlot host.thread s with
  | active v session =>
    let parted := session.dismiss (s.conversation v)
      (v.release (m.swapConversation host.thread .notStarted u).2)
    have hparted : w.Underway m host.thread s (m.lettingGo host.thread u.clock s) roots told left
      parted := h.dismissed hactive
    have hswapped : (m.swapConversation host.thread .notStarted u).2.conversation v =
        s.conversation v := h.departs.conversations v
    have hascends := hheld v session hactive
    have hkept : ∀ y, s.Within v.context y →
        (m.lettingGo host.thread u.clock s).context y = s.context y := by
      intro y hy
      refine context_lettingGo_of_ne hactive ?_ u.clock
      rintro rfl
      exact Nat.lt_irrefl _ (Nat.lt_of_lt_of_le hascends (hy.le hs))
    have hwhich : ∀ c, (∃ v session, Held m host.thread s roots v session ∧ v.context = c) ↔
        Held m host.thread s roots v session ∧ v.context = c := by
      refine fun c => ⟨?_, fun hc => ⟨v, session, hc⟩⟩
      rintro ⟨v', session', hc, hname⟩
      have hsame := hc.slot
      rw [hactive] at hsame
      cases hsame
      exact ⟨hc, hname⟩
    have hiff := hparted.held_iff hactive (hkept _ .self)
    apply Container.wp_finishConversation_of
    · rw [hswapped]
      intro htransient hthere
      apply (hparted.leave_held hdefers hs hwords hkept).mono
      intro _ t ht
      refine ⟨u.clock, some v.context, fun c => ?_, ?_⟩
      · rw [hwhich, hiff, Option.mem_some]
        exact ⟨fun hc => ⟨⟨htransient, hthere⟩, hc⟩, fun hc => hc.2⟩
      · simpa [Container.farewell] using ht
    · rw [hswapped]
      intro hdown
      refine ⟨u.clock, none, fun c => ?_, ?_⟩
      · rw [hwhich, hiff]
        refine ⟨fun hc => absurd hc (Option.not_mem_none c), fun hc => ?_⟩
        have hup := hc.1.2
        rw [hdown hc.1.1] at hup
        cases hup
      · simpa using hparted
  | _ =>
    refine ⟨u.clock, none, fun c => ⟨fun hc => absurd hc (Option.not_mem_none c), ?_⟩, ?_⟩
    · rintro ⟨v, session, hc, -⟩
      have hsame := hc.slot
      rw [hactive] at hsame
      cases hsame
    · simpa [Container.lettingGo, hactive] using h.cleared

end Underway

end Closing

end ContextualLifecycle
