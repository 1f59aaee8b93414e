import ContextualLifecycle.Container.Scopes
import ContextualLifecycle.Proofs.Outcome

namespace ContextualLifecycle

variable {σ α : Type} {stuck : Prop} {host : Host σ} {m : Container} {P : Store σ → Prop}
  {s : Store σ} {kind : ScopeKind} {c session : ScopeContext} {v : Conversation}

theorem Act.wp_inScope {Q : Except LifecycleError α → Store σ → Prop} {x : Act σ α} :
    Act.wp stuck (Act.inScope kind x) Q s ↔
      Act.wp stuck x (fun r t => Q (r.mapError (·.intoContext kind)) t) s := by
  simp only [Act.inScope, Act.wp_bind, Act.wp_attempt]
  rw [Act.wp, Run.wp, Act.wp, Run.wp]
  split
  · rfl
  · rename_i r t _
    cases r <;> rfl

theorem Conversation.conversation_update (w v : Conversation)
    (f : Conversation.Record → Conversation.Record) (s : Store σ) :
    (w.update f s).conversation v = if v = w then f (s.conversation w) else s.conversation v := by
  rw [update, Store.setConversation, Store.conversation, Table.get?_insert]
  split <;> rfl

theorem Conversation.conversation_release (v w : Conversation) (s : Store σ) :
    (v.release s).conversation w = if w = v then
      { s.conversation v with busy := false, lastAccess := s.clock } else s.conversation w := by
  simp only [release, touch, conversation_update]
  split <;> simp only [↓reduceIte]

theorem ScopeContext.takeExpired_keeps (c : ScopeContext)
    (hreported : ∀ id t, P t → P (t.report (.conversationExpired id)))
    (hremoved : ∀ id t, P t → P (c.removeConversation id t).2) (hs : P s) :
    P (c.takeExpired s).2 := by
  have hfold : ∀ (rows : List (String × Conversation)) t, P t → P (rows.foldl
      (fun s row => (c.removeConversation row.1 (s.report (.conversationExpired row.1))).2) t) := by
    intro rows
    induction rows with
    | nil => exact fun t ht => ht
    | cons row rows ih => exact fun t ht => ih _ (hremoved row.1 _ (hreported row.1 t ht))
  exact hfold _ s hs

namespace Container

/-- A context is torn down, whatever comes of it, and then observers are told. -/
theorem wp_destroyContext
    (h : Act.wp stuck (c.destroyAll host)
      (fun _ t => Run.wp stuck (m.announce host .destroyed kind c) (fun _ u => P u) t) s) :
    Run.wp stuck (m.destroyContext host kind c) (fun _ u => P u) s := by
  simp only [destroyContext, Run.wp_bind, Run.wp_run]
  apply h.mono
  intro r t ht
  simp only [Run.wp_bind]
  apply ht.mono
  intro _ u hu
  cases r <;> exact hu

theorem wp_failWith {Q : Except LifecycleError Unit → Store σ → Prop} {owner : String}
    {failures : List LifecycleError} (h : ∀ r, Q r s) :
    Act.wp stuck (failWith owner failures) Q s := by
  match failures with
  | [] => exact h _
  | [_] => exact h _
  | _ :: _ :: _ => exact h _

theorem wp_teardownConversation
    (h : Run.wp stuck (m.destroyContext host .conversation v.context) (fun _ t => P t) s) :
    Act.wp stuck (m.teardownConversation host v) (fun _ t => P t) s := by
  simp only [teardownConversation, Act.wp_bind, Act.wp_liftM]
  exact h.mono fun _ _ ht => wp_failWith fun _ => ht

/-- Tears a conversation down that was not torn down before. -/
def endConversation (host : Host σ) (m : Container) (v : Conversation) : Act σ Unit := do
  unless v.isDestroyed (← get) do m.teardownConversation host v

theorem wp_endConversation (hgone : (s.context v.context).active = false → P s)
    (hactive : (s.context v.context).active = true →
      Act.wp stuck (m.teardownConversation host v) (fun _ t => P t) s) :
    Act.wp stuck (m.endConversation host v) (fun _ t => P t) s := by
  simp only [endConversation, Act.wp_bind, Act.wp_get]
  split
  · rename_i hdestroyed
    exact hgone (by simpa [Conversation.isDestroyed] using hdestroyed)
  · rename_i hdestroyed
    exact hactive (by simpa [Conversation.isDestroyed] using hdestroyed)

/-- The conversations of a session are ended before its context is torn down. -/
theorem wp_teardown
    (hsession : kind = .session →
      Run.wp stuck (collectFailures (m.endConversation host) (c.takeConversations s).1)
        (fun _ t => Run.wp stuck (m.destroyContext host kind c) (fun _ u => P u) t)
        (c.takeConversations s).2)
    (hother : kind ≠ .session → Run.wp stuck (m.destroyContext host kind c) (fun _ t => P t) s) :
    Act.wp stuck (m.teardown host kind c) (fun _ t => P t) s := by
  simp only [teardown]
  split
  · rename_i hkind
    simp only [Act.wp_bind, Act.wp_modifyGet, Act.wp_liftM]
    apply (hsession hkind).mono
    exact fun _ t ht => ht.mono fun _ _ hu => wp_failWith fun _ => hu
  · rename_i hkind
    simp only [Act.wp_bind, Act.wp_liftM, Act.wp_pure]
    exact (hother hkind).mono fun _ _ ht => wp_failWith fun _ => ht

theorem wp_retire
    (habandoned : (s.container m).config.restartPolicy = .abandon →
      P s ∧ ∀ size, P (s.report (.contextAbandoned kind c size)))
    (hdestroyed : (s.container m).config.restartPolicy = .destroyPrevious →
      Act.wp stuck (m.teardown host kind c) (fun _ t => P t) s) :
    Act.wp stuck (m.retire host kind c) (fun _ t => P t) s := by
  simp only [retire, Act.wp_bind, Act.wp_get]
  split
  · rename_i hpolicy
    simp only [Act.wp_bind, Act.wp_get]
    split
    · exact (habandoned hpolicy).1
    · exact (habandoned hpolicy).2 _
  · rename_i hpolicy
    exact hdestroyed hpolicy

theorem wp_finishConversation
    (hlasting : (s.conversation v).transient = false → P (v.release s))
    (htransient : (s.conversation v).transient = true →
      Act.wp stuck (m.endConversation host v) (fun _ t => P t)
        (session.removeConversation (s.conversation v).id (v.release s)).2) :
    Act.wp stuck (m.finishConversation host v session) (fun _ t => P t) s := by
  have hrecord : ((v.release s).conversation v).transient = (s.conversation v).transient ∧
      ((v.release s).conversation v).id = (s.conversation v).id := by
    rw [Conversation.conversation_release, if_pos rfl]
    exact ⟨rfl, rfl⟩
  simp only [finishConversation, Act.wp_bind, Act.wp_modify, Act.wp_get, hrecord]
  split
  · rename_i hends
    simp only [Act.wp_bind, Act.wp_modifyGet]
    exact htransient hends
  · rename_i hstays
    exact hlasting (Bool.eq_false_iff.2 hstays)

theorem wp_finishSlot {slot : ConversationSlot}
    (hactive : ∀ v session, slot = .active v session →
      Act.wp stuck (m.finishConversation host v session) (fun _ t => P t) s)
    (hfree : (∀ v session, slot ≠ .active v session) → P s) :
    Act.wp stuck (m.finishSlot host slot) (fun _ t => P t) s := by
  cases slot with
  | active v session => exact hactive v session rfl
  | _ => exact hfree nofun

theorem wp_startConversation {propagatedId : Option String}
    {Q : Except LifecycleError Unit → Store σ → Prop} :
    Act.wp stuck (m.startConversation host propagatedId) Q s ↔
      Act.wp stuck (m.finishSlot host (m.conversationSlot host.thread s)) Q
        (m.swapConversation host.thread (.pending propagatedId) s).2 := by
  simp only [startConversation, Act.wp_bind, Act.wp_modifyGet]
  rfl

theorem wp_startApplication
    (hnone : m.application s = none →
      Run.wp stuck (m.announce host .initialized .application
          (ScopeContext.newActive .application s).1)
        (fun _ t => P t) (m.swapApplication (some (ScopeContext.newActive .application s).1)
          (ScopeContext.newActive .application s).2).2)
    (hsome : m.application s ≠ none → P s) :
    Act.wp stuck (m.startApplication host) (fun _ t => P t) s := by
  simp only [startApplication, Act.wp_bind, Act.wp_get]
  split
  · rename_i hvacant
    simp only [Act.wp_bind, Act.wp_modifyGet, Act.wp_liftM]
    exact hnone (Option.isNone_iff_eq_none.1 hvacant)
  · rename_i hheld
    exact hsome fun heq => hheld (by rw [heq]; rfl)

def place (m : Container) (thread : Thread) (kind : ScopeKind) (opened : ScopeContext × Store σ) :
    Store σ :=
  (m.fillSlot thread kind opened.1 (opened.1.setActive true opened.2)).2

theorem wp_startSlot {again : Option ScopeContext} {opened : ScopeContext × Store σ}
    (hopened : contextToStart kind again s = opened)
    (hretired : ∀ p, m.slot host.thread kind (opened.1.setActive true opened.2) = some p →
      p ≠ opened.1 → Act.wp stuck (m.retire host kind p) (fun _ t => P t ∧
          Run.wp stuck (m.announce host .initialized kind opened.1) (fun _ u => P u) t)
        (m.place host.thread kind opened))
    (hfree : (∀ p, m.slot host.thread kind (opened.1.setActive true opened.2) = some p →
        p = opened.1) →
      Run.wp stuck (m.announce host .initialized kind opened.1) (fun _ t => P t)
        (m.place host.thread kind opened)) :
    Act.wp stuck (m.startSlot host kind again) (fun _ t => P t) s := by
  subst hopened
  have hannounce : ∀ t, Run.wp stuck (m.announce host .initialized kind
      (contextToStart kind again s).1) (fun _ u => P u) t → Act.wp stuck
      (liftM (m.announce host .initialized kind (contextToStart kind again s).1))
      (fun _ u => P u) t := fun t ht => (Act.wp_liftM _).2 ht
  simp only [startSlot, Act.wp_bind, Act.wp_modifyGet, Act.wp_modify]
  split
  · rename_i p hp
    split
    · rename_i hother
      simp only [Act.wp_bind]
      apply (hretired p hp hother).mono
      intro r t ht
      cases r with
      | ok _ => exact hannounce t ht.2
      | error error => exact ht.1
    · rename_i hsame
      refine hannounce _ (hfree fun q hq => ?_)
      rw [← Option.some.inj (hp.symm.trans hq)]
      exact Decidable.not_not.1 hsame
  · rename_i hvacant
    exact hannounce _ (hfree fun q hq => absurd hq (hvacant q))

/-- Most scopes start in a slot. -/
theorem wp_start {params : ScopeParams}
    (happlication : kind = .application →
      Act.wp stuck (m.startApplication host) (fun _ t => P t) s)
    (hconversation : kind = .conversation →
      Act.wp stuck (m.startConversation host params.conversationId) (fun _ t => P t) s)
    (hslot : kind ≠ .application → kind ≠ .conversation →
      Act.wp stuck (m.startSlot host kind params.session) (fun _ t => P t) s) :
    Act.wp stuck (m.start host kind params) (fun _ t => P t) s := by
  cases kind with
  | application =>
    simp only [start, Act.wp_inScope]
    exact happlication rfl
  | conversation =>
    simp only [start, Act.wp_inScope]
    exact hconversation rfl
  | _ =>
    simp only [start, Act.wp_inScope]
    exact hslot (by decide) (by decide)

/-- The context that a scope has on a thread; that of a conversation is another matter. -/
def attached (m : Container) (thread : Thread) (kind : ScopeKind) (s : Store σ) :
    Option ScopeContext :=
  if kind = .application then m.application s else m.slot thread kind s

def vacate (m : Container) (thread : Thread) (kind : ScopeKind) (s : Store σ) : Store σ :=
  if kind = .application then (m.swapApplication none s).2 else (m.clearSlot thread kind s).2

theorem wp_stop (hkind : kind ≠ .conversation)
    (hsome : ∀ c, m.attached host.thread kind s = some c →
      Act.wp stuck (m.teardown host kind c) (fun _ t => P t) (m.vacate host.thread kind s))
    (hnone : m.attached host.thread kind s = none → P (m.vacate host.thread kind s)) :
    Act.wp stuck (m.stop host kind) (fun _ t => P t) s := by
  cases hattached : m.attached host.thread kind s with
  | some c =>
    have hteardown := hsome c hattached
    cases kind with
    | application =>
      have hslot : m.application s = some c := hattached
      simp only [stop, Act.wp_inScope, Act.wp_bind, Act.wp_modifyGet, swapApplication, hslot]
      exact hteardown
    | conversation => exact absurd rfl hkind
    | _ =>
      have hslot : m.slot host.thread _ s = some c := hattached
      simp only [stop, Act.wp_inScope, Act.wp_bind, Act.wp_modifyGet, clearSlot, hslot]
      exact hteardown
  | none =>
    have hnothing := hnone hattached
    cases kind with
    | application =>
      have hslot : m.application s = none := hattached
      simp only [stop, Act.wp_inScope, Act.wp_bind, Act.wp_modifyGet, swapApplication, hslot]
      exact hnothing
    | conversation => exact absurd rfl hkind
    | _ =>
      have hslot : m.slot host.thread _ s = none := hattached
      simp only [stop, Act.wp_inScope, Act.wp_bind, Act.wp_modifyGet, clearSlot, hslot]
      exact hnothing

theorem wp_stop_conversation :
    Act.wp stuck (m.stop host .conversation) (fun _ t => P t) s ↔
      Act.wp stuck (m.finishSlot host (m.conversationSlot host.thread s)) (fun _ t => P t)
        (m.swapConversation host.thread .notStarted s).2 := by
  simp only [stop, Act.wp_inScope, Act.wp_bind, Act.wp_modifyGet]
  rfl

/-- A conversation is let go of, and anything else is taken out of the slot. -/
theorem detach_cases {thread : Thread} (happlication : kind = .application → P s)
    (hreleased : ∀ v session, kind = .conversation →
      m.conversationSlot thread s = .active v session →
      P (v.release (m.swapConversation thread .notStarted s).2))
    (hfree : kind = .conversation → (∀ v session, m.conversationSlot thread s ≠ .active v session) →
      P (m.swapConversation thread .notStarted s).2)
    (hcleared : kind ≠ .application → kind ≠ .conversation → P (m.clearSlot thread kind s).2) :
    P (m.detach thread kind s).2 := by
  cases kind with
  | application => exact happlication rfl
  | conversation =>
    cases hslot : m.conversationSlot thread s with
    | active v session =>
      simp only [detach, swapConversation, hslot]
      exact hreleased v session rfl hslot
    | _ =>
      simp only [detach, swapConversation, hslot]
      exact hfree rfl (by rw [hslot]; exact nofun)
  | _ => exact hcleared (by decide) (by decide)

theorem wp_destroyExpired (hnone : m.slot host.thread .session s = none → P s)
    (hsome : ∀ session, m.slot host.thread .session s = some session →
      Run.wp stuck (collectFailures (m.teardownConversation host) (session.takeExpired s).1)
        (fun _ t => P t) (session.takeExpired s).2) :
    Act.wp stuck (m.destroyExpired host) (fun _ t => P t) s := by
  simp only [destroyExpired, current, Act.wp_bind, Act.wp_get, Act.wp_pure]
  split
  · rename_i hslot
    exact hnone hslot
  · rename_i session hslot
    simp only [Act.wp_bind, Act.wp_modifyGet, Act.wp_liftM]
    apply (hsome session hslot).mono
    intro failures t ht
    simp only [Act.wp_failIfAny]
    split <;> exact ht

theorem wp_shutdown
    (h : Run.wp stuck (collectFailures (m.stop host) ScopeKind.teardownOrder)
      (fun _ t => P (m.forgetScopes host.thread t)) s) :
    Act.wp stuck (m.shutdown host) (fun _ t => P t) s := by
  simp only [shutdown, Act.wp_bind, Act.wp_liftM, Act.wp_modify]
  apply h.mono
  intro failures t ht
  rw [Act.wp_failIfAny]
  exact ht

def beginning (m : Container) (session : ScopeContext) (s : Store σ) : Conversation × Store σ :=
  let r := s.container m
  let added := session.addTransient toString r.nextConversation r.config.conversationTimeout s
  let numbered := m.update (fun r => { r with nextConversation := added.1.2 }) added.2
  (added.1.1, (added.1.1.tryAcquire numbered).2)

theorem wp_beginTransient {Q : Conversation → Store σ → Prop}
    (h : Run.wp stuck
      (m.announce host .initialized .conversation (m.beginning session s).1.context)
      (fun _ t => Q (m.beginning session s).1 t) (m.beginning session s).2) :
    Run.wp stuck (m.beginTransient host session) Q s := by
  simp only [beginTransient, Run.wp_bind, Run.wp_get, Run.wp_modifyGet, Run.wp_modify]
  exact h

theorem wp_chooseConversation {propagatedId : Option String}
    {Q : Conversation × Option LifecycleError → Store σ → Prop}
    (hunasked : propagatedId = none →
      Run.wp stuck (m.beginTransient host session) (fun v t => Q (v, none) t) s)
    (hresumed : ∀ id v, propagatedId = some id → session.conversation? id s = some v →
      (s.conversation v).transient = false → (s.conversation v).busy = false →
      Q (v, none) (v.tryAcquire s).2)
    (hbusy : ∀ id v, propagatedId = some id → session.conversation? id s = some v →
      (s.conversation v).transient = false → (s.conversation v).busy = true →
      Run.wp stuck (m.beginTransient host session)
        (fun v t => Q (v, some (.busyConversation id (t.conversation v).id)) t) s)
    (hunknown : ∀ id, propagatedId = some id →
      (∀ v, session.conversation? id s = some v → (s.conversation v).transient = true) →
      Run.wp stuck (m.beginTransient host session)
        (fun v t => Q (v, some (.nonexistentConversation id (t.conversation v).id)) t) s) :
    Run.wp stuck (m.chooseConversation host session propagatedId) Q s := by
  cases propagatedId with
  | none =>
    simp only [chooseConversation, Run.wp_bind]
    exact hunasked rfl
  | some id =>
    simp only [chooseConversation, Run.wp_bind, Run.wp_get]
    split
    · rename_i v hv
      obtain ⟨hlisted, hlasting⟩ := Option.filter_eq_some_iff.1 hv
      rw [Bool.not_eq_true'] at hlasting
      simp only [Run.wp_bind, Run.wp_modifyGet]
      cases hheld : (s.conversation v).busy with
      | false =>
        have hgot : (v.tryAcquire s).1 = true := by
          rw [Conversation.tryAcquire, if_neg (Bool.eq_false_iff.1 hheld)]
        rw [if_pos hgot]
        exact hresumed id v rfl hlisted hlasting hheld
      | true =>
        have hrefused : v.tryAcquire s = (false, s) := by rw [Conversation.tryAcquire, if_pos hheld]
        rw [hrefused, if_neg Bool.false_ne_true]
        simp only [Run.wp_bind]
        exact hbusy id v rfl hlisted hlasting hheld
    · rename_i hnone
      simp only [Run.wp_bind]
      refine hunknown id rfl fun v hlisted => ?_
      rw [hlisted, Option.filter_some] at hnone
      simpa using hnone

theorem wp_chooseConversation_of {propagatedId : Option String} {Q : Conversation → Store σ → Prop}
    (hnew : Run.wp stuck (m.beginTransient host session) Q s)
    (hresumed : ∀ id v, propagatedId = some id → session.conversation? id s = some v →
      (s.conversation v).transient = false → (s.conversation v).busy = false →
      Q v (v.tryAcquire s).2) :
    Run.wp stuck (m.chooseConversation host session propagatedId)
      (fun choice t => Q choice.1 t) s :=
  wp_chooseConversation (fun _ => hnew) hresumed (fun _ _ _ _ _ _ => hnew) fun _ _ _ => hnew

/-- A conversation is resolved only if it is pending, and the thread has it from then on. -/
theorem wp_conversationContext
    (hsettled : (∀ propagatedId, m.conversationSlot host.thread s ≠ .pending propagatedId) → P s)
    (hmissing : m.slot host.thread .session s = none → P (s.report .sessionMissing))
    (hchosen : ∀ propagatedId session, m.conversationSlot host.thread s = .pending propagatedId →
      m.slot host.thread .session s = some session →
      Run.wp stuck (m.chooseConversation host session propagatedId) (fun choice t =>
        P (m.swapConversation host.thread (.active choice.1 session) t).2 ∧
          ∀ error, P ((m.swapConversation host.thread (.active choice.1 session) t).2.report
            (.propagationFailed error))) s) :
    Act.wp stuck (m.conversationContext host) (fun _ t => P t) s := by
  simp only [conversationContext, Act.wp_bind, Act.wp_get]
  cases hslot : m.conversationSlot host.thread s with
  | notStarted => exact hsettled fun _ heq => by cases hslot.symm.trans heq
  | active v session => exact hsettled fun _ heq => by cases hslot.symm.trans heq
  | pending propagatedId =>
    simp only [Act.wp_bind, Act.wp_get]
    cases hsession : m.slot host.thread .session s with
    | none =>
      simp only [Act.wp_bind, Act.wp_modify, Act.wp_pure]
      exact hmissing hsession
    | some session =>
      simp only [Act.wp_bind, Act.wp_liftM, Act.wp_modifyGet]
      apply (hchosen propagatedId session hslot hsession).mono
      rintro ⟨v, failure⟩ t ⟨hquiet, hfailed⟩
      cases failure with
      | none => exact hquiet
      | some error =>
        simp only [Act.wp_bind, Act.wp_modify, Act.wp_throw]
        exact hfailed error

end Container

end ContextualLifecycle
