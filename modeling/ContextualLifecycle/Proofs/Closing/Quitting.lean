import ContextualLifecycle.Proofs.Closing.Dismissal
import ContextualLifecycle.Proofs.Container.Errands

namespace ContextualLifecycle

variable {σ : Type}

def Call.startsScopes : Call → Bool
  | .start .. | .restoreSession .. | .current _ .conversation => true
  | _ => false

def startingNone : Rule := fun _ request => request.call.startsScopes = false

namespace Container

/-- What a shutdown has ahead of it. -/
structure Ahead where
  /-- The thread is still to let go of its conversation. -/
  conversation : Bool
  /-- The application scope is still to be ended. -/
  application : Bool

/-- The thread holds the conversation that it held at first until it lets go of that, and after the
end of the application scope there is none. -/
structure Quitting (m : Container) (thread : Thread) (s₀ : Store σ) (ahead : Ahead)
    (s : Store σ) : Prop where
  free : ∀ v session, m.conversationSlot thread s₀ = .active v session →
    (ahead.conversation = true ∧ m.conversationSlot thread s = .active v session) ∨
      (s.conversation v).busy = false
  unshared : ahead.application = true ∨ m.application s = none

end Container

variable {fair : Container → Thread → ScopeContext → Store Unit → Prop} {request : Request}
  {γ γ' : Hand} {s s' s₀ : Store (Watched library σ)} {m : Container} {thread : Thread}
  {v : Conversation} {session : ScopeContext} {ahead : Container.Ahead}

theorem Call.ne_of_starting {call call' : Call} (hcall : call.startsScopes = false)
    (hstarts : call'.startsScopes = true) : call ≠ call' := by
  rintro rfl
  exact Bool.false_ne_true (hcall.symm.trans hstarts)

theorem Move.quitting_free (h : Move fair request γ s γ' s')
    (hcall : request.call.startsScopes = false)
    (hforgets : ahead.conversation = true → ∀ m', request.call ≠ .shutdown m')
    (hfree : (ahead.conversation = true ∧ m.conversationSlot thread s = .active v session) ∨
      (s.conversation v).busy = false) :
    (ahead.conversation = true ∧ m.conversationSlot thread s' = .active v session) ∨
      (s'.conversation v).busy = false := by
  have hreleased : ∀ {m' : Container} {slot : ConversationSlot} {w : Conversation}
      {session' : ScopeContext}, m'.conversationSlot request.thread s = .active w session' →
      s'.scopes = (m'.swapConversation request.thread slot s).2.scopes →
      s'.conversations = (w.release (m'.swapConversation request.thread slot s).2).conversations →
      (ahead.conversation = true ∧ m.conversationSlot thread s' = .active v session) ∨
        (s'.conversation v).busy = false := by
    intro m' slot w session' hheld hscopes hconversations
    rw [Store.conversation_congr hconversations, Conversation.conversation_release]
    by_cases hw : v = w
    · rw [if_pos hw]
      exact .inr rfl
    · rw [if_neg hw]
      refine hfree.imp_left fun hslot => ⟨hslot.1, ?_⟩
      rw [Container.conversationSlot_congr hscopes, conversationSlot_swap, if_neg]
      · exact hslot.2
      · rintro ⟨⟩
        rw [hslot.2] at hheld
        cases hheld
        exact hw rfl
  have hconversed : ∀ {c : ScopeContext} {id timeout} {u : Store (Watched library σ)},
      u.scopes = s.scopes → u.conversations = (c.converse id timeout s).conversations →
      (ahead.conversation = true ∧ m.conversationSlot thread u = .active v session) ∨
        (u.conversation v).busy = false := by
    intro c id timeout u hscopes hconversations
    rw [Store.conversation_congr hconversations, ScopeContext.conversation_converse,
      Container.conversationSlot_congr hscopes]
    split
    · exact .inr rfl
    · exact hfree
  cases h with
  | aside h =>
    rwa [Container.conversationSlot_congr h.scopes, Store.conversation_congr h.conversations]
  | marked _ _ hbusy =>
    refine hfree.imp_right fun hidle => ?_
    rw [Conversation.conversation_update]
    split
    · rename_i heq
      rwa [hbusy, ← heq]
    · exact hidle
  | started hcall' | reattached hcall' | installed hcall' | begun hcall' | seated hcall'
  | resumed hcall' => exact absurd hcall' (Call.ne_of_starting hcall rfl)
  | vacated | detached =>
    rwa [Container.conversationSlot_clear]
  | forgotten hcall' =>
    refine hfree.elim (fun hslot => absurd hcall' (hforgets hslot.1 _)) .inr
  | turned _ hidle =>
    refine hfree.imp_left fun hslot => ⟨hslot.1, ?_⟩
    rw [conversationSlot_swap, if_neg]
    · exact hslot.2
    · rintro ⟨⟩
      exact hidle v session hslot.2
  | released _ hheld => exact hreleased hheld rfl rfl
  | finished _ hheld => exact hreleased hheld rfl rfl
  | @expired _ _ _ session' =>
    rwa [Container.conversationSlot_congr (Store.Quiet.takeExpired _ s).scopes,
      Store.conversation_congr session'.conversations_takeExpired]
  | conversed => exact hconversed rfl rfl
  | listed => exact hconversed rfl rfl
  | _ => exact hfree

theorem Move.quitting (h : Move fair request γ s γ' s') (hcall : request.call.startsScopes = false)
    (hforgets : ahead.conversation = true → ∀ m', request.call ≠ .shutdown m')
    (hs : m.Quitting thread s₀ ahead s) : m.Quitting thread s₀ ahead s' where
  free v session hslot := h.quitting_free hcall hforgets (hs.free v session hslot)
  unshared := by
    refine hs.unshared.imp_right fun hnone => ?_
    cases happlication : m.application s' with
    | none => rfl
    | some c =>
      obtain hbefore | ⟨params, hstart, -⟩ := h.application_or happlication
      · rw [hnone] at hbefore
        cases hbefore
      · exact absurd hstart (Call.ne_of_starting hcall rfl)

/-- Callbacks leave it at what a shutdown has done by then. -/
def Host.Quits (host : Host (Watched library σ)) (m : Container) (thread : Thread)
    (s₀ : Store (Watched library σ)) : Prop :=
  ∀ ahead, host.Keeps True (m.Quitting thread s₀ ahead)

namespace Container.Quitting

theorem idle {application : Bool} (hs : m.Quitting thread s₀ ⟨false, application⟩ s)
    (hslot : m.conversationSlot thread s₀ = .active v session) :
    (s.conversation v).busy = false :=
  (hs.free v session hslot).resolve_left fun hheld => Bool.false_ne_true hheld.1

theorem unshared_done {conversation : Bool} (hs : m.Quitting thread s₀ ⟨conversation, false⟩ s) :
    m.application s = none :=
  hs.unshared.resolve_left Bool.false_ne_true

variable {host : Host (Watched library σ)} (h : host.Quits m thread s₀) {m' : Container}

include h

theorem moves {call : Call} (hcall : call.startsScopes = false)
    (hforgets : ahead.conversation = true → ∀ m', call ≠ .shutdown m') :
    Host.Moves host (fun _ _ _ _ => True) ⟨host.thread, call⟩
      fun _ => m.Quitting thread s₀ ahead :=
  ⟨rfl, fun hmove => hmove.quitting hcall hforgets, fun _ => h ahead⟩

theorem stop (kind : ScopeKind) :
    Act.Keeps True (m.Quitting thread s₀ ahead) (m'.stop host kind) := by
  intro s hs
  have hmoves : Host.Moves host (fun _ _ _ _ => True) ⟨host.thread, .stop m' kind⟩
    fun _ => m.Quitting thread s₀ ahead := moves h rfl fun _ _ => nofun
  exact hmoves.perform (fun _ _ _ => nofun) hs

theorem teardownConversation (w : Conversation) :
    Act.Keeps True (m.Quitting thread s₀ ahead) (m'.teardownConversation host w) := by
  intro s hs
  have hmoves : Host.Moves host (fun _ _ _ _ => True) ⟨host.thread, .stop m' .conversation⟩
    fun _ => m.Quitting thread s₀ ahead := moves h rfl fun _ _ => nofun
  exact hmoves.teardownConversation rfl w {} s hs

theorem teardown (kind : ScopeKind) (c : ScopeContext) :
    Act.Keeps True (m.Quitting thread s₀ ahead) (m'.teardown host kind c) := by
  intro s hs
  have hmoves : Host.Moves host (fun _ _ _ _ => True) ⟨host.thread, .stop m' kind⟩
    fun _ => m.Quitting thread s₀ ahead := moves h rfl fun _ _ => nofun
  exact hmoves.teardown (γ := {}) rfl kind hs

variable (hthread : host.thread = thread)

include hthread

theorem stop_conversation (hs : m.Quitting thread s₀ ahead s) :
    Act.wp True (m.stop host .conversation)
      (fun _ t => m.Quitting thread s₀ { ahead with conversation := false } t) s := by
  subst hthread
  let swapped := (m.swapConversation host.thread .notStarted s).2
  rw [Container.wp_stop_conversation]
  cases hslot : m.conversationSlot host.thread s with
  | active w session' =>
    have hparted : m.Quitting host.thread s₀ { ahead with conversation := false }
        (session'.dismiss (swapped.conversation w) (w.release swapped)) := by
      refine ⟨fun v session hheld₀ => .inr ?_, ?_⟩
      · rw [Closing.conversation_dismiss, Conversation.conversation_release]
        by_cases hw : v = w
        · rw [if_pos hw]
        · rw [if_neg hw]
          refine (hs.free v session hheld₀).resolve_left fun hheld => hw ?_
          have hsame := hheld.2.symm.trans hslot
          cases hsame
          rfl
      · rw [Closing.application_dismiss]
        exact hs.unshared
    apply wp_finishConversation_of
    · exact fun _ _ => teardownConversation h w _ hparted
    · exact fun _ => hparted
  | _ =>
    have hidle : ∀ v session, m.conversationSlot host.thread s₀ = .active v session →
        (s.conversation v).busy = false := by
      intro v session hheld₀
      refine (hs.free v session hheld₀).resolve_left fun hheld => ?_
      have hsame := hheld.2.symm.trans hslot
      cases hsame
    exact ⟨fun v session hheld₀ => .inr (hidle v session hheld₀), hs.unshared⟩

theorem stop_application (hs : m.Quitting thread s₀ ahead s) :
    Act.wp True (m.stop host .application)
      (fun _ t => m.Quitting thread s₀ { ahead with application := false } t) s := by
  subst hthread
  have hvacated : m.Quitting host.thread s₀ { ahead with application := false }
      (m.vacate host.thread .application s) := by
    refine ⟨hs.free, .inr ?_⟩
    exact attached_vacate m host.thread .application s
  have hkind : ScopeKind.application ≠ .conversation := nofun
  apply wp_stop hkind
  · exact fun c _ => teardown h .application c _ hvacated
  · exact fun _ => hvacated

/-- A shutdown has nothing ahead of it in the end. -/
theorem shutdown_quits (hs : m.Quitting thread s₀ ahead s) : Act.wp True (m.shutdown host)
    (fun _ t => m.Quitting thread s₀ ⟨false, false⟩ t ∧ t.threadScopes m thread = {}) s := by
  have hloop : Run.wp True (collectFailures (m.stop host) ScopeKind.teardownOrder)
      (fun _ t => m.Quitting thread s₀ ⟨false, false⟩ t) s := by
    rw [ScopeKind.teardownOrder, Run.wp_collectFailures_cons]
    apply (stop h .request s hs).mono
    intro _ s₁ h₁
    rw [Run.wp_collectFailures_cons]
    apply (stop h .session s₁ h₁).mono
    intro _ s₂ h₂
    rw [Run.wp_collectFailures_cons]
    apply (stop_conversation h hthread h₂).mono
    intro _ s₃ h₃
    rw [Run.wp_collectFailures_cons]
    apply (stop h .singleton s₃ h₃).mono
    intro _ s₄ h₄
    rw [Run.wp_collectFailures_cons]
    apply (stop h .dependent s₄ h₄).mono
    intro _ s₅ h₅
    rw [Run.wp_collectFailures_cons]
    apply (stop_application h hthread h₅).mono
    exact fun _ s₆ h₆ => h₆
  apply wp_shutdown
  apply hloop.mono
  intro failures t ht
  refine ⟨⟨fun v session hslot => .inr (ht.idle hslot), ht.unshared⟩, ?_⟩
  rw [hthread, threadScopes_forget, if_pos rfl]

omit hthread in
theorem shutdown_keeps : Act.Keeps True (m.Quitting thread s₀ ahead) (m'.shutdown host) := by
  intro s hs
  by_cases hdesk : (m, thread) = (m', host.thread)
  · cases hdesk
    apply (shutdown_quits h rfl hs).mono
    intro _ t ht
    exact ⟨fun v session hslot => .inr (ht.1.idle hslot), .inr ht.1.unshared_done⟩
  · apply wp_shutdown
    apply (Run.Keeps.collectFailures (stop h) ScopeKind.teardownOrder s hs).mono
    intro failures t ht
    refine ⟨fun v session hslot => ?_, ht.unshared⟩
    rw [conversationSlot_forget, if_neg hdesk]
    exact ht.free v session hslot

end Container.Quitting

theorem Program.run_quitting (supply : Supply σ) (p : Program library σ) (within : List Request)
    (hobeys : p.Obeys startingNone within) :
    Act.Keeps True (m.Quitting thread s₀ ahead) (p.run supply) := by
  refine Program.run_keeps_within (fun ahead _ => m.Quitting thread s₀ ahead) supply ?_ ?_ ?_ p
    within hobeys ahead
  · exact fun _ _ t ht => ⟨ht.free, ht.unshared⟩
  · exact fun _ _ own t ht => ⟨ht.free, ht.unshared⟩
  · intro meanwhile within request hrule hmeanwhile ahead s hs
    let host : Host (Watched library σ) := { supply.hostOf meanwhile with thread := request.thread }
    have hquits : host.Quits m thread s₀ := fun ahead =>
      (supply.watched.host_keeps (hmeanwhile ahead)).on request.thread
    by_cases hshutdown : ∃ m', request.call = .shutdown m'
    · obtain ⟨m', hcall⟩ := hshutdown
      have hkeeps : Act.Keeps True (m.Quitting thread s₀ ahead) (m'.shutdown host) :=
        Container.Quitting.shutdown_keeps hquits
      obtain ⟨thread', call⟩ := request
      cases hcall
      exact (hkeeps s hs).mono fun _ t ht => ⟨ht.free, ht.unshared⟩
    · have hmoves : host.Moves (fun _ _ _ _ => True) request
          fun _ => m.Quitting thread s₀ ahead :=
        Container.Quitting.moves hquits hrule fun _ m' hcall => hshutdown ⟨m', hcall⟩
      apply (hmoves.perform (fun _ _ _ _ _ => trivial) hs).mono
      exact fun _ t ht => ⟨ht.free, ht.unshared⟩

theorem Container.current_none {host : Host σ} {s : Store σ}
    (hempty : s.threadScopes m host.thread = {}) (hnone : m.application s = none)
    (kind : ScopeKind) : (m.current host kind).run.run s = some (.ok none, s) := by
  apply Act.run_eq_of_wp
  cases kind with
  | application => simp only [current, Act.wp_bind, Act.wp_get, Act.wp_pure, hnone]
  | conversation =>
    have hslot : m.conversationSlot host.thread s = .notStarted := by
      rw [conversationSlot, hempty]
    simp only [current, conversationContext, Act.wp_bind, Act.wp_get, Act.wp_pure, hslot]
  | _ =>
    have hslot : ∀ kind, m.slot host.thread kind s = none := by
      intro kind
      rw [slot, hempty]
      rfl
    simp only [current, Act.wp_bind, Act.wp_get, Act.wp_pure, hslot]

/-- The thread has no scopes, nobody holds the conversation that it held before, and there is no
application scope. -/
structure Container.Out (m : Container) (thread : Thread) (s t : Store σ) : Prop where
  current : ∀ (host : Host σ) kind, host.thread = thread →
    (m.current host kind).run.run t = some (.ok none, t)
  application : m.application t = none
  released : ∀ v session, m.conversationSlot thread s = .active v session →
    (t.conversation v).busy = false

/-- However callbacks end scopes meanwhile, the thread is out in the end. -/
theorem shutdown_out (supply : Supply σ) (meanwhile : Callback → Program library σ)
    (within : List Request) (hobeys : ∀ cb, (meanwhile cb).Obeys startingNone within)
    (s : Store (Watched library σ)) :
    Act.wp True (library.perform (supply.hostOf meanwhile) ⟨thread, .shutdown m⟩)
      (fun _ t => m.Out thread s t) s := by
  have hquits : Host.Quits { supply.hostOf meanwhile with thread } m thread s := fun _ =>
    (supply.watched.host_keeps fun cb =>
      (meanwhile cb).run_quitting supply within (hobeys cb)).on thread
  have hs : m.Quitting thread s ⟨true, true⟩ s :=
    ⟨fun _ _ hslot => .inl ⟨rfl, hslot⟩, .inl rfl⟩
  apply (Container.Quitting.shutdown_quits hquits rfl hs).mono
  rintro _ t ⟨ht, hempty⟩
  refine ⟨fun host kind hthread => ?_, ht.unshared_done, fun _ _ => ht.idle⟩
  exact Container.current_none (hthread ▸ hempty) ht.unshared_done kind

end ContextualLifecycle
