import ContextualLifecycle.Proofs.Closing.Teardown

namespace ContextualLifecycle

variable {σ : Type} {w : Closing σ} {host : Host (Watched library σ)} {m : Container}
  {s t u : Store (Watched library σ)} {c : ScopeContext}

theorem ScopeContext.conversation?_of_expired {σ : Type} {s : Store σ} {v : Conversation}
    (c : ScopeContext) (h : v ∈ (c.takeExpired s).1) : ∃ id, c.conversation? id s = some v := by
  obtain ⟨⟨id, _⟩, hrow, rfl⟩ := List.mem_map.1 h
  exact ⟨id, Table.get?_eq_some_iff.2 (List.mem_filter.1 hrow).1⟩

theorem Container.attached_vacate {σ : Type} (m : Container) (thread : Thread) (kind : ScopeKind)
    (s : Store σ) : m.attached thread kind (m.vacate thread kind s) = none := by
  rw [Container.attached, Container.vacate]
  split
  · rw [Container.swapApplication, Container.application_update, if_pos rfl]
  · rw [Container.slot, Container.clearSlot, Container.threadScopes_update, if_pos rfl]
    exact (Table.get?_erase _ _ _).trans (if_pos rfl)

namespace Closing

/-- The course that the teardown of an attached context takes. The conversations of a session are
ended first, and after that the context is emptied, and observers are told. -/
structure Course (w : Closing σ) (host : Host (Watched library σ)) (m : Container)
    (kind : ScopeKind) (c : ScopeContext) (s u t : Store (Watched library σ)) : Prop where
  first : w.Settles s u
  conversations : kind = .session → ∃ failures,
    (collectFailures (m.endConversation host) (c.takeConversations s).1).run
      (c.takeConversations s).2 = some (failures, u)
  own : ∃ failures, (m.destroyContext host kind c).run u = some (failures, t)
  last : ∃ x, w.Downed c u x ∧ (m.announce host .destroyed kind c).run x = some ((), t) ∧
    w.Settles (x.note (.notified .destroyed m kind c)) t

theorem Course.ebbs {kind : ScopeKind} (h : w.Course host m kind c s u t) :
    w.Ebbs (· = .notice m kind c) s t := by
  obtain ⟨x, hdowned, -, htold⟩ := h.last
  exact h.first.owing.trans (hdowned.announced htold)

theorem settles_vacate (m : Container) (thread : Thread) (kind : ScopeKind)
    (s : Store (Watched library σ)) : w.Settles s (m.vacate thread kind s) := by
  rw [Container.vacate]
  split
  · exact ebbs_clearApplication m s
  · exact ebbs_clearSlot m thread kind s

theorem settles_release (v : Conversation) (s : Store (Watched library σ)) :
    w.Settles s (v.release s) :=
  Ebbs.trans (ebbs_conversation v (fun r => { r with lastAccess := s.clock }) s)
    (ebbs_conversation v (fun r => { r with busy := false }) (v.touch s))

theorem Course.settle {thread : Thread} {kind : ScopeKind}
    (h : w.Course host m kind c (m.vacate thread kind s) u t) (hkind : kind ≠ .conversation)
    (hattached : m.attached thread kind s = some c) : w.Settles s t := by
  have hcleared : w.Settles s (m.vacate thread kind s) := settles_vacate m thread kind s
  refine (hcleared.owing.trans h.ebbs).settle ?_
  rintro _ rfl
  refine ⟨fun _ hkept => ?_, fun hconversation => absurd hconversation hkind⟩
  have hvacated := h.ebbs.attached m thread kind c (hkept thread hattached)
  rw [Container.attached_vacate] at hvacated
  cases hvacated

namespace Serves

variable (h : w.Serves host)

include h

theorem teardown (kind : ScopeKind) (c : ScopeContext) (hs : w.Sound s) :
    Act.wp True (m.teardown host kind c) (fun _ t => ∃ u, w.Course host m kind c s u t) s := by
  have hown : ∀ u, w.Settles s u → (kind = .session → ∃ failures,
      (collectFailures (m.endConversation host) (c.takeConversations s).1).run
        (c.takeConversations s).2 = some (failures, u)) →
      Run.wp True (m.destroyContext host kind c)
        (fun _ t => ∃ u, w.Course host m kind c s u t) u := by
    intro u hu hloop
    apply ((Run.wp_outcome (m.destroyContext host kind c) u).and
      (h.destroyContext kind c (hu.sound hs))).mono
    rintro own t ⟨hrun, hlast⟩
    exact ⟨u, hu, hloop, ⟨own, hrun⟩, hlast⟩
  apply Container.wp_teardown
  · intro _
    have htaken : w.Settles s (c.takeConversations s).2 := ebbs_takeConversations c s
    have hloop := settles_collectFailures (h.endConversation (m := m)) (c.takeConversations s).1
      _ (htaken.sound hs)
    apply ((Run.wp_outcome (collectFailures (m.endConversation host)
      (c.takeConversations s).1) _).and hloop).mono
    exact fun inner u ⟨hrun, hu⟩ => hown u (htaken.trans hu) fun _ => ⟨inner, hrun⟩
  · exact fun hkind => hown s (.refl _ s) fun hsession => absurd hsession hkind

theorem finishConversation (v : Conversation) (session : ScopeContext) :
    Act.Settles w (m.finishConversation host v session) := by
  intro s hs
  have hreleased : w.Settles s (v.release s) := settles_release v s
  apply Container.wp_finishConversation
  · exact fun _ => hreleased
  · intro _
    have hremoved := hreleased.trans
      (ebbs_removeConversation session (s.conversation v).id (v.release s))
    apply (h.endConversation v _ (hremoved.sound hs)).mono
    exact fun _ t ht => hremoved.trans ht

theorem finishSlot (slot : ConversationSlot) : Act.Settles w (m.finishSlot host slot) :=
  fun s hs => Container.wp_finishSlot (fun v session _ => h.finishConversation v session s hs)
    fun _ => .refl _ s

/-- The end of a scope that is attached. -/
theorem stop_course {kind : ScopeKind} (hkind : kind ≠ .conversation) (hs : w.Sound s)
    (hattached : m.attached host.thread kind s = some c) :
    Act.wp True (m.stop host kind) (fun _ t => ∃ u,
      w.Course host m kind c (m.vacate host.thread kind s) u t) s := by
  apply Container.wp_stop hkind
  · intro x hx
    cases hattached.symm.trans hx
    exact h.teardown kind c ((settles_vacate m host.thread kind s).sound hs)
  · intro hnone
    cases hattached.symm.trans hnone

theorem stop (kind : ScopeKind) : Act.Settles w (m.stop host kind) := by
  intro s hs
  by_cases hkind : kind = .conversation
  · subst hkind
    rw [Container.wp_stop_conversation]
    have hswapped : w.Settles s (m.swapConversation host.thread .notStarted s).2 :=
      ebbs_swapConversation m host.thread .notStarted s
    apply (h.finishSlot _ _ (hswapped.sound hs)).mono
    exact fun _ t ht => hswapped.trans ht
  · have hvacated : w.Settles s (m.vacate host.thread kind s) := settles_vacate m host.thread kind s
    apply Container.wp_stop hkind
    · intro c hattached
      apply (h.teardown kind c (hvacated.sound hs)).mono
      rintro _ t ⟨u, hcourse⟩
      exact hcourse.settle hkind hattached
    · exact fun _ => hvacated

omit h in
theorem detach (kind : ScopeKind) :
    Act.Settles w (modifyGet (m.detach host.thread kind) : Act (Watched library σ) _) := by
  intro s _
  rw [Act.wp_modifyGet]
  have hswapped : w.Settles s (m.swapConversation host.thread .notStarted s).2 :=
    ebbs_swapConversation m host.thread .notStarted s
  apply Container.detach_cases
  · exact fun _ => .refl _ s
  · exact fun v _ _ _ => hswapped.trans (settles_release v _)
  · exact fun _ _ => hswapped
  · exact fun _ _ => ebbs_clearSlot m host.thread kind s

theorem destroyExpired : Act.Settles w (m.destroyExpired host) := by
  intro s hs
  apply Container.wp_destroyExpired
  · exact fun _ => .refl _ s
  · intro session _
    have htaken : w.Settles s (session.takeExpired s).2 := ebbs_takeExpired session s
    let owed : Debt → Prop := fun d =>
      ∃ v ∈ (session.takeExpired s).1, d = .notice m .conversation v.context
    have hloop : Run.wp True (collectFailures (m.teardownConversation host)
        (session.takeExpired s).1) (fun _ t => w.Ebbs owed (session.takeExpired s).2 t)
        (session.takeExpired s).2 :=
      ebbs_collectFailures (fun v hv u hu => (h.teardownConversation v hu).mono
        fun _ t ht => ht.1.mono fun _ hd => ⟨v, hv, hd⟩) (htaken.sound hs)
    apply hloop.mono
    intro _ t ht
    refine (htaken.owing.trans ht).settle ?_
    rintro _ ⟨v, hv, rfl⟩
    refine ⟨fun hkind => absurd rfl hkind, fun _ _ hunclaimed => ?_⟩
    obtain ⟨id, hid⟩ := session.conversation?_of_expired hv
    exact absurd hid (hunclaimed session id)

theorem shutdown : Act.Settles w (m.shutdown host) := by
  intro s hs
  apply Container.wp_shutdown
  apply (settles_collectFailures h.stop _ s hs).mono
  exact fun _ t ht => ht.trans (ebbs_forgetScopes m host.thread t)

end Serves

end Closing

end ContextualLifecycle
