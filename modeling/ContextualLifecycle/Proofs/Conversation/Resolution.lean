import ContextualLifecycle.Proofs.Conversation.Listing

namespace ContextualLifecycle

variable {σ : Type}

/-- The call takes a conversation of that name out of the context, or it tears contexts down. -/
def Call.Unlists (x : ScopeContext) (id : String) (call : Call) : Prop :=
  call = .removeConversation x id ∨ ∃ c, call = .destroyAll c

/-- What becomes of a pending conversation scope. -/
inductive Resolution where
  /-- The thread gets a new conversation, perhaps in place of one that is not to be had. -/
  | begun (failure : Option LifecycleError)
  /-- The thread gets a long-running conversation of its session. -/
  | resumed (v : Conversation)

/-- The four ways in which a pending scope is resolved against a session. -/
inductive Container.Resolves (m : Container) (session : ScopeContext) (s : Store σ) :
    Option String → Resolution → Prop
  | new : Resolves m session s none (.begun none)
  | resumed {id : String} {v : Conversation} (hlisted : session.conversation? id s = some v)
      (hlasting : (s.conversation v).transient = false)
      (hfree : (s.conversation v).busy = false) : Resolves m session s (some id) (.resumed v)
  | busy {id : String} {v : Conversation} (hlisted : session.conversation? id s = some v)
      (hlasting : (s.conversation v).transient = false)
      (hbusy : (s.conversation v).busy = true) : Resolves m session s (some id)
        (.begun (some (.busyConversation id (session.nextName m s))))
  | nonexistent {id : String} (hunknown : ∀ v, session.conversation? id s = some v →
      (s.conversation v).transient = true) : Resolves m session s (some id)
        (.begun (some (.nonexistentConversation id (session.nextName m s))))

namespace Resolution

def failure? : Resolution → Option LifecycleError
  | begun failure => failure
  | resumed _ => none

def conversation (ρ : Resolution) (s : Store σ) : Conversation :=
  match ρ with
  | begun _ => ⟨⟨s.nextContext⟩⟩
  | resumed v => v

def answer (ρ : Resolution) (s : Store σ) : Except LifecycleError (Option ScopeContext) :=
  match ρ.failure? with
  | some e => .error e
  | none => .ok (some (ρ.conversation s).context)

/-- What is known of the conversation once the thread holds it. -/
def record (ρ : Resolution) (m : Container) (session : ScopeContext) (s : Store σ) :
    Conversation.Record :=
  match ρ with
  | begun _ =>
    { id := session.nextName m s
      timeout := (s.container m).config.conversationTimeout
      busy := true
      lastAccess := s.clock }
  | resumed v => { s.conversation v with busy := true, lastAccess := s.clock }

def notices (ρ : Resolution) (m : Container) (s : Store σ) : List Notice :=
  match ρ with
  | begun _ => [(.initialized, m, .conversation, (ρ.conversation s).context)]
  | resumed _ => []

def taken (ρ : Resolution) (m : Container) (session : ScopeContext) (s : Store σ) : Store σ :=
  match ρ with
  | begun _ => (m.beginning session s).2
  | resumed v => (v.tryAcquire s).2

/-- The store once observers have heard of the conversation if it is new. There is none if some
observer never comes to an end. -/
def heard (ρ : Resolution) (host : Host σ) (m : Container) (session : ScopeContext) (s : Store σ) :
    Option (Store σ) :=
  match ρ with
  | begun _ => ((m.announce host .initialized .conversation ⟨s.nextContext⟩).run
      (m.beginning session s).2).map Prod.snd
  | resumed v => some (v.tryAcquire s).2

def settled (ρ : Resolution) (m : Container) (thread : Thread) (session : ScopeContext)
    (s left : Store σ) : Store σ :=
  let seated := (m.swapConversation thread (.active (ρ.conversation s) session) left).2
  match ρ.failure? with
  | some e => seated.report (.propagationFailed e)
  | none => seated

/-- The session has the conversation under its name and the thread holds it, a new one has come from
nowhere, and all other conversations are what and where they were. That is so far as no call has
changed a conversation since or taken one out. -/
structure Taken (ρ : Resolution) (m : Container) (session : ScopeContext) (s : Store σ)
    (calls : List Call) (t : Store σ) : Prop where
  record : (∀ call ∈ calls, call.marks? ≠ some (ρ.conversation s)) →
    t.conversation (ρ.conversation s) = ρ.record m session s
  listed : (∀ call ∈ calls, ¬ call.Unlists session (ρ.record m session s).id) →
    session.conversation? (ρ.record m session s).id t = some (ρ.conversation s)
  new : ∀ failure, ρ = .begun failure →
    ∀ (x : ScopeContext) id, x.conversation? id s ≠ some (ρ.conversation s)
  unchanged : ∀ w : Conversation, w.context.number < s.nextContext → w ≠ ρ.conversation s →
    (∀ call ∈ calls, call.marks? ≠ some w) → t.conversation w = s.conversation w
  others : ∀ (x : ScopeContext) id w, x.number < s.nextContext → w ≠ ρ.conversation s →
    (∀ call ∈ calls, ¬ call.Unlists x id) →
      (x.conversation? id t = some w ↔ x.conversation? id s = some w)

end Resolution

namespace Container

variable {m : Container} {session : ScopeContext} {s : Store σ} {propagatedId : Option String}
  {ρ ρ' : Resolution} {failure : Option LifecycleError}

theorem Resolves.eq (h : m.Resolves session s propagatedId ρ)
    (h' : m.Resolves session s propagatedId ρ') : ρ' = ρ := by
  have hsame : ∀ {id v w}, session.conversation? id s = some v →
      session.conversation? id s = some w → v = w := fun hv hw => Option.some.inj (hv.symm.trans hw)
  cases h with
  | new =>
    cases h'
    rfl
  | resumed hlisted hlasting hfree =>
    cases h' with
    | resumed hlisted' => rw [hsame hlisted hlisted']
    | busy hlisted' _ hbusy =>
      rw [← hsame hlisted hlisted', hfree] at hbusy
      cases hbusy
    | nonexistent hunknown => cases hlasting.symm.trans (hunknown _ hlisted)
  | busy hlisted hlasting hbusy =>
    cases h' with
    | resumed hlisted' _ hfree =>
      rw [← hsame hlisted hlisted', hbusy] at hfree
      cases hfree
    | busy => rfl
    | nonexistent hunknown => cases hlasting.symm.trans (hunknown _ hlisted)
  | nonexistent hunknown =>
    cases h' with
    | resumed hlisted hlasting => cases hlasting.symm.trans (hunknown _ hlisted)
    | busy hlisted hlasting => cases hlasting.symm.trans (hunknown _ hlisted)
    | nonexistent => rfl

theorem exists_resolves (m : Container) (session : ScopeContext) (s : Store σ)
    (propagatedId : Option String) : ∃ ρ, m.Resolves session s propagatedId ρ := by
  cases propagatedId with
  | none => exact ⟨_, .new⟩
  | some id =>
    by_cases hknown : ∃ v, session.conversation? id s = some v ∧
        (s.conversation v).transient = false
    · obtain ⟨v, hlisted, hlasting⟩ := hknown
      cases hbusy : (s.conversation v).busy with
      | true => exact ⟨_, .busy hlisted hlasting hbusy⟩
      | false => exact ⟨_, .resumed hlisted hlasting hbusy⟩
    · refine ⟨_, .nonexistent fun v hlisted => ?_⟩
      rw [← Bool.not_eq_false]
      exact fun hlasting => hknown ⟨v, hlisted, hlasting⟩

theorem beginTransient_run (host : Host σ) (m : Container) (session : ScopeContext)
    (failure : Option LifecycleError) (s : Store σ) : (m.beginTransient host session).run s =
      ((Resolution.begun failure).heard host m session s).map fun left =>
        (⟨⟨s.nextContext⟩⟩, left) := by
  let begun := (m.beginning session s).2
  have hrun : (m.beginTransient host session).run s =
      ((m.announce host .initialized .conversation ⟨s.nextContext⟩).run begun).bind
        fun o => some (⟨⟨s.nextContext⟩⟩, o.2) := rfl
  rw [hrun, Resolution.heard, Option.map_map]
  cases (m.announce host .initialized .conversation ⟨s.nextContext⟩).run begun <;> rfl

theorem substitute_run (host : Host σ) (error : String → LifecycleError)
    (hnamed : ∀ left, (Resolution.begun failure).heard host m session s = some left →
      (left.conversation ⟨⟨s.nextContext⟩⟩).id = session.nextName m s) :
    StateT.run (do
      let fresh ← m.beginTransient host session
      return (fresh, some (error ((← get).conversation fresh).id))) s =
      ((Resolution.begun failure).heard host m session s).map fun left =>
        ((⟨⟨s.nextContext⟩⟩, some (error (session.nextName m s))), left) := by
  rw [StateT.run_bind, beginTransient_run host m session failure]
  cases hheard : (Resolution.begun failure).heard host m session s with
  | none => rfl
  | some left =>
    change some ((_, some (error (left.conversation ⟨⟨s.nextContext⟩⟩).id)), left) = _
    rw [hnamed left hheard]
    rfl

theorem chooseConversation_run (host : Host σ) (h : m.Resolves session s propagatedId ρ)
    (hnamed : ∀ left, ρ.heard host m session s = some left →
      (left.conversation (ρ.conversation s)).id = (ρ.record m session s).id) :
    (m.chooseConversation host session propagatedId).run s =
      (ρ.heard host m session s).map fun left => ((ρ.conversation s, ρ.failure?), left) := by
  have hfound : ∀ {id v}, session.conversation? id s = some v →
      (s.conversation v).transient = false →
      (session.conversation? id s).filter (fun v => !(s.conversation v).transient) = some v := by
    intro id v hlisted hlasting
    rw [hlisted, Option.filter_some_pos]
    simpa using hlasting
  cases h with
  | new =>
    have hrun : (m.chooseConversation host session none).run s =
        ((m.beginTransient host session).run s).bind fun o => some ((o.1, none), o.2) := rfl
    rw [hrun, beginTransient_run host m session none]
    cases (Resolution.begun none).heard host m session s <;> rfl
  | @resumed id v hlisted hlasting hfree =>
    have hacquired : v.tryAcquire s = (true, (v.tryAcquire s).2) := by
      rw [Conversation.tryAcquire, hfree]
      rfl
    simp only [chooseConversation, StateT.run_bind, StateT.run_get, pure_bind,
      hfound hlisted hlasting, StateT.run_modifyGet]
    rw [hacquired]
    rfl
  | @busy id v hlisted hlasting hbusy =>
    have hrefused : v.tryAcquire s = (false, s) := by
      rw [Conversation.tryAcquire, if_pos hbusy]
    simp only [chooseConversation, StateT.run_bind, StateT.run_get, pure_bind,
      hfound hlisted hlasting, StateT.run_modifyGet]
    rw [hrefused]
    exact substitute_run host (.busyConversation id) hnamed
  | @nonexistent id hunknown =>
    have hnone : (session.conversation? id s).filter (fun v => !(s.conversation v).transient) =
        none := by
      rw [Option.filter_eq_none_iff]
      intro v hlisted
      simp [hunknown v hlisted]
    simp only [chooseConversation, StateT.run_bind, StateT.run_get, pure_bind, hnone]
    exact substitute_run host (.nonexistentConversation id) hnamed

/-- A pending scope is resolved, once observers come to an end. -/
theorem current_run (host : Host σ)
    (hpending : m.conversationSlot host.thread s = .pending propagatedId)
    (hsession : m.slot host.thread .session s = some session)
    (h : m.Resolves session s propagatedId ρ)
    (hnamed : ∀ left, ρ.heard host m session s = some left →
      (left.conversation (ρ.conversation s)).id = (ρ.record m session s).id) :
    (m.current host .conversation).run.run s = (ρ.heard host m session s).map fun left =>
      (ρ.answer s, ρ.settled m host.thread session s left) := by
  apply Act.run_eq_of_wp
  simp only [current, conversationContext, Act.wp_bind, Act.wp_get, hpending, hsession,
    Act.wp_liftM, Act.wp_modifyGet]
  rw [Run.wp, chooseConversation_run host h hnamed]
  cases hheard : ρ.heard host m session s with
  | none => rfl
  | some left =>
    cases hfailure : ρ.failure? <;>
      simp only [Option.map_some, Resolution.answer, Resolution.settled, hfailure] <;> rfl

theorem current_run_active (host : Host σ) {v : Conversation}
    (hactive : m.conversationSlot host.thread s = .active v session) :
    (m.current host .conversation).run.run s = some (.ok (some v.context), s) := by
  apply Act.run_eq_of_wp
  simp only [current, conversationContext, Act.wp_bind, Act.wp_get, hactive, Act.wp_pure]

section Taken

variable {s : Store (Watched library σ)}

theorem beginning_taken (failure : Option LifecycleError) (hmade : session.number < s.nextContext)
    (hissued : ∀ (x : ScopeContext) id v, x.conversation? id s = some v →
      v.context.number < s.nextContext) :
    (Resolution.begun failure).Taken m session s [] (m.beginning session s).2 where
  record _ := (conversation_beginning m session _).trans (if_pos rfl)
  listed _ := (conversation?_beginning m session).trans (if_pos ⟨rfl, rfl⟩)
  new _ _ x id hv := Nat.lt_irrefl _ (hissued x id _ hv)
  unchanged w _ hw _ := (conversation_beginning m session w).trans (if_neg hw)
  others x id w hx hw _ := by
    have hold : x ≠ ⟨s.nextContext⟩ := by
      rintro rfl
      exact Nat.lt_irrefl _ hx
    rw [conversation?_beginning, if_neg hold]
    split
    · rename_i hplace
      obtain ⟨rfl, rfl⟩ := hplace
      rw [x.conversation?_nextName m s]
      exact iff_of_false (fun heq => hw (Option.some.inj heq).symm) fun heq => by cases heq
    · exact Iff.rfl

theorem resumed_taken {id : String} {v : Conversation}
    (hlisted : session.conversation? id s = some v) (hfree : (s.conversation v).busy = false)
    (hname : (s.conversation v).id = id) :
    (Resolution.resumed v).Taken m session s [] (v.tryAcquire s).2 where
  record _ := (Conversation.conversation_tryAcquire v v s hfree).trans (if_pos rfl)
  listed _ := by
    rw [conversation?_acquire]
    exact hname ▸ hlisted
  new _ heq := by cases heq
  unchanged w _ hw _ := (Conversation.conversation_tryAcquire v w s hfree).trans (if_neg hw)
  others x id w _ _ _ := by rw [conversation?_acquire]

theorem Resolves.taken (h : m.Resolves session s propagatedId ρ)
    (hmade : session.number < s.nextContext)
    (hfiled : ∀ (x : ScopeContext) id v, x.conversation? id s = some v →
      v.context.number < s.nextContext ∧ (s.conversation v).id = id) :
    ρ.Taken m session s [] (ρ.taken m session s) := by
  have hbegun := fun failure =>
    beginning_taken (m := m) failure hmade fun x id v hv => (hfiled x id v hv).1
  cases h with
  | resumed hlisted _ hfree => exact resumed_taken hlisted hfree (hfiled _ _ _ hlisted).2
  | _ => exact hbegun _

end Taken

end Container

end ContextualLifecycle
