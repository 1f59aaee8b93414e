import ContextualLifecycle.Proofs.Conversation.Departure
import ContextualLifecycle.Proofs.Conversation.Onlookers
import ContextualLifecycle.Proofs.Conversation.Staying

namespace ContextualLifecycle

variable {σ : Type} {supply : Supply σ} {meanwhile : Callback → Program library σ} {m : Container}
  {thread : Thread} {session : ScopeContext} {propagatedId : Option String} {ρ : Resolution}
  {calls : List Call} {s t left : Store (Watched library σ)}

/-- Observers keep out of scopes while they hear of a new conversation. -/
def Container.ObservedAside (m : Container) (meanwhile : Callback → Program library σ) : Prop :=
  ∀ l c, (meanwhile (.notify l .initialized m .conversation c)).Obeys outsideScopes []

/-- Whoever asks for the conversation scope of the thread is given the context, and nothing else
happens. -/
def Container.Gives (m : Container) (thread : Thread) (c : ScopeContext)
    (t : Store (Watched library σ)) : Prop :=
  ∀ host : Host (Watched library σ),
    (library.perform host ⟨thread, .current m .conversation⟩).run.run t = some (.ok (some c), t)

theorem Container.gives {v : Conversation} (h : m.conversationSlot thread t = .active v session) :
    m.Gives thread v.context t :=
  fun host => current_run_active { host with thread } h

namespace Resolution

/-- The conversation is in the slot of the thread under its name, and all other slots are as they
were. Observers were told of a conversation only if it is new. -/
structure Settled (ρ : Resolution) (m : Container) (thread : Thread) (session : ScopeContext)
    (s t : Store (Watched library σ)) : Prop where
  slot : m.conversationSlot thread t = .active (ρ.conversation s) session
  busy : (t.conversation (ρ.conversation s)).busy = true
  named : (t.conversation (ρ.conversation s)).id = (ρ.record m session s).id
  notices : t.beginnings = s.beginnings ++ ρ.notices m s
  elsewhere : ∀ (m' : Container) thread', (m', thread') ≠ (m, thread) →
    m'.conversationSlot thread' t = m'.conversationSlot thread' s
  attached : ∀ (m' : Container) thread' kind, m'.slot thread' kind t = m'.slot thread' kind s
  gives : m.Gives thread (ρ.conversation s).context t

/-- The thread is granted a conversation. -/
structure Granted (ρ : Resolution) (supply : Supply σ) (meanwhile : Callback → Program library σ)
    (m : Container) (thread : Thread) (session : ScopeContext) (s : Store (Watched library σ)) :
    Prop where
  taken : ρ.Taken m session s [] (ρ.taken m session s)
  /-- The request returns as soon as the observers do. -/
  answered :
    (library.perform (supply.hostOf meanwhile) ⟨thread, .current m .conversation⟩).run.run s =
      (ρ.heard (supply.hostOf meanwhile) m session s).map fun left =>
        (ρ.answer s, ρ.settled m thread session s left)
  settled : ∀ left, ρ.heard (supply.hostOf meanwhile) m session s = some left →
    ρ.Settled m thread session s (ρ.settled m thread session s left)
  /-- Only what observers themselves have called for is not as it was taken. -/
  kept : ∀ left, ρ.heard (supply.hostOf meanwhile) m session s = some left →
    ∃ seen, left.seen = seen ++ s.seen ∧ ρ.Taken m session s (seen.filterMap Sighting.call?)
      (ρ.settled m thread session s left)
  /-- The thread has the conversation until it leaves the scope. -/
  stays : ∀ left, ρ.heard (supply.hostOf meanwhile) m session s = some left →
    ∀ (later : Supply σ) (q : Program library σ), q.Obeys (m.staying thread) [] →
      ∀ r u, (q.run later).run.run (ρ.settled m thread session s left) = some (r, u) →
        Stayed m thread (ρ.conversation s) session left.seen u ∧
          m.Gives thread (ρ.conversation s).context u

theorem taken_aside (ρ : Resolution) (m : Container) (session : ScopeContext)
    (s : Store (Watched library σ)) : (ρ.taken m session s).scopes = s.scopes ∧
      (ρ.taken m session s).beginnings = s.beginnings ∧ (ρ.taken m session s).seen = s.seen := by
  cases ρ with
  | begun _ =>
    simp only [taken, Container.beginning, Conversation.tryAcquire]
    split <;> exact ⟨rfl, rfl, rfl⟩
  | resumed v =>
    simp only [taken, Conversation.tryAcquire]
    split <;> exact ⟨rfl, rfl, rfl⟩

theorem heard_spares (hobservers : m.ObservedAside meanwhile)
    (hheard : ρ.heard (supply.hostOf meanwhile) m session s = some left) :
    SparedSince s.seen (ρ.taken m session s) [] left ∧ left.scopes = s.scopes ∧
      left.beginnings = s.beginnings ++ ρ.notices m s := by
  obtain ⟨hscopes, hbeginnings, hseen⟩ := ρ.taken_aside m session s
  have hsince : SparedSince s.seen (ρ.taken m session s) [] (ρ.taken m session s) :=
    ⟨[], hseen, .refl _ _⟩
  cases ρ with
  | resumed v =>
    cases hheard
    exact ⟨hsince, hscopes, hbeginnings.trans (List.append_nil _).symm⟩
  | begun failure =>
    let c : ScopeContext := ⟨s.nextContext⟩
    let taken := (m.beginning session s).2
    let noted := taken.note (.notified .initialized m .conversation c)
    let Inv : Store (Watched library σ) → Prop := fun t =>
      SparedSince s.seen taken [] t ∧ Undisturbed none noted [] t
    obtain ⟨⟨_, _⟩, hrun, rfl⟩ := Option.map_eq_some_iff.1 hheard
    have haside : ∀ event t, SparedSince s.seen taken [] t →
        SparedSince s.seen taken [] (Store.note event t) :=
      fun event t ⟨later, hseen, ht⟩ => ⟨later, hseen, ht.steady rfl rfl rfl⟩
    have hobserver : ∀ l, Act.Keeps True Inv
        ((meanwhile (.notify l .initialized m .conversation c)).run supply) := by
      intro l t ht
      have hobeys := hobservers l c
      have hleaving : (meanwhile (.notify l .initialized m .conversation c)).Obeys (leaving none)
          [] := hobeys.mono fun _ _ h => outsideScopes.leaving h
      exact (Program.run_spares supply _ hobeys s.seen taken t ht.1).and
        (Program.run_undisturbed supply _ hleaving noted [] t ht.2)
    have hannounced : Run.wp True
        (m.announce (supply.hostOf meanwhile) .initialized .conversation c)
        (fun _ t => Inv t) taken := by
      refine Container.wp_announce ⟨haside _ _ hsince, .start fun _ h => by cases h⟩ ?_ fun l =>
        supply.watched.notify_keeps (hobserver l)
      exact fun content t ht => ⟨haside _ t ht.1, .of_quiet (.note rfl t) ht.2⟩
    obtain ⟨hspared, hundisturbed⟩ := (Run.wp_of_run hrun).1 hannounced
    refine ⟨hspared, hundisturbed.scopes.trans hscopes, ?_⟩
    have hnoted : noted.beginnings = taken.beginnings ++
        [(.initialized, m, .conversation, c)] := by
      rw [Store.beginnings, Store.notices_note, List.filter_append]
      rfl
    rw [hundisturbed.beginnings, hnoted]
    exact congrArg (· ++ _) hbeginnings

theorem issued (h : m.Resolves session s propagatedId ρ)
    (hissued : ∀ (x : ScopeContext) id v, x.conversation? id s = some v →
      v.context.number < s.nextContext) :
    s.nextContext ≤ (ρ.taken m session s).nextContext ∧
      (ρ.conversation s).context.number < (ρ.taken m session s).nextContext := by
  have hbegun : (m.beginning session s).2.nextContext = s.nextContext + 1 := by
    rw [Container.beginning, Conversation.tryAcquire]
    split <;> rfl
  cases h with
  | @resumed id v hlisted =>
    have hsame : (v.tryAcquire s).2.nextContext = s.nextContext := by
      rw [Conversation.tryAcquire]
      split <;> rfl
    exact ⟨Nat.le_of_eq hsame.symm, hsame ▸ hissued session id v hlisted⟩
  | _ => exact ⟨hbegun ▸ Nat.le_succ _, hbegun ▸ Nat.lt_succ_self _⟩

theorem Taken.spared {u : Store (Watched library σ)} (h : ρ.Taken m session s [] u)
    (hmade : session.number < s.nextContext) (hnext : s.nextContext ≤ u.nextContext)
    (hissued : (ρ.conversation s).context.number < u.nextContext) (hspared : Spared calls u t) :
    ρ.Taken m session s calls t where
  record hleft := (hspared.unchanged _ hissued hleft).trans (h.record (List.forall_mem_nil _))
  listed hleft := (hspared.listing session _ (Nat.lt_of_lt_of_le hmade hnext) hleft).trans
    (h.listed (List.forall_mem_nil _))
  new := h.new
  unchanged w hw hne hleft := (hspared.unchanged w (Nat.lt_of_lt_of_le hw hnext) hleft).trans
    (h.unchanged w hw hne (List.forall_mem_nil _))
  others x id w hx hne hleft := by
    rw [hspared.listing x id (Nat.lt_of_lt_of_le hx hnext) hleft]
    exact h.others x id w hx hne (List.forall_mem_nil _)

theorem record_busy (ρ : Resolution) (m : Container) (session : ScopeContext)
    (s : Store (Watched library σ)) : (ρ.record m session s).busy = true := by
  cases ρ <;> rfl

theorem settled_aside (ρ : Resolution) (m : Container) (thread : Thread) (session : ScopeContext)
    (s left : Store (Watched library σ)) :
    (m.swapConversation thread (.active (ρ.conversation s) session) left).2.Aside
      (ρ.settled m thread session s left) := by
  rw [settled]
  split
  · exact Store.aside_note rfl _
  · exact Store.aside_of_eq rfl rfl rfl rfl rfl rfl rfl

/-- The conversation is settled where observers leave scopes to the request. -/
theorem settles (hspared : Spared calls (ρ.taken m session s) left)
    (hscopes : left.scopes = s.scopes) (hnotices : left.beginnings = s.beginnings ++ ρ.notices m s)
    (htaken : ρ.Taken m session s [] (ρ.taken m session s))
    (hissued : (ρ.conversation s).context.number < (ρ.taken m session s).nextContext) :
    ρ.Settled m thread session s (ρ.settled m thread session s left) := by
  let v := ρ.conversation s
  let seated := (m.swapConversation thread (.active v session) left).2
  let t := ρ.settled m thread session s left
  have haside : seated.Aside t := ρ.settled_aside m thread session s left
  have hrecord : t.conversation v = left.conversation v :=
    Store.conversation_congr haside.conversations v
  have hheld := htaken.record (List.forall_mem_nil _)
  have hslots : ∀ (m' : Container) thread', m'.conversationSlot thread' t =
      if (m', thread') = (m, thread) then .active v session
      else m'.conversationSlot thread' s := by
    intro m' thread'
    rw [Container.conversationSlot_congr haside.scopes, conversationSlot_swap,
      Container.conversationSlot_congr hscopes]
  have hslot : m.conversationSlot thread t = .active v session :=
    (hslots m thread).trans (if_pos rfl)
  refine ⟨hslot, ?_, ?_, ?_, fun m' thread' hdesk => (hslots m' thread').trans (if_neg hdesk), ?_,
    Container.gives hslot⟩
  · rw [hrecord, hspared.busy v hissued, hheld, record_busy]
  · rw [hrecord, hspared.id v hissued, hheld]
  · rw [Store.beginnings, haside.notices]
    exact hnotices
  · intro m' thread' kind
    rw [Container.slot_congr haside.scopes, Conversation.slot_swapConversation,
      Container.slot_congr hscopes]

end Resolution

/-- A thread asks for its pending conversation scope while a session is attached, at any moment of
any run, and observers keep out of scopes while they hear of a new conversation. There is exactly
one way to resolve the scope, out of four, and the request takes it. It returns if the observers do.
By then the slot has the conversation, and the thread has it until it leaves the scope. -/
theorem conversation_granted (supply : Supply σ) (meanwhile : Callback → Program library σ)
    (hreachable : s.bare.Reachable)
    (hpending : m.conversationSlot thread s = .pending propagatedId)
    (hsession : m.slot thread .session s = some session)
    (hobservers : m.ObservedAside meanwhile) :
    (∃! ρ, m.Resolves session s propagatedId ρ) ∧
      ∀ ρ, m.Resolves session s propagatedId ρ →
        ρ.Granted supply meanwhile m thread session s := by
  obtain ⟨ρ, hρ⟩ := m.exists_resolves session s propagatedId
  refine ⟨⟨ρ, hρ, fun _ h => hρ.eq h⟩, fun ρ hρ => ?_⟩
  have hlisted : ∀ (x : ScopeContext) id v, x.conversation? id s = some v →
      v.context.number < s.nextContext ∧ (s.conversation v).id = id :=
    fun x id v hv => hreachable.listed (show x.conversation? id s.bare = some v from hv)
  have hmade : session.number < s.nextContext := hreachable.attached hsession
  have htaken := hρ.taken hmade hlisted
  obtain ⟨hnext, hissued⟩ := Resolution.issued hρ fun x id v hv => (hlisted x id v hv).1
  have hsettled : ∀ left, ρ.heard (supply.hostOf meanwhile) m session s = some left →
      ρ.Settled m thread session s (ρ.settled m thread session s left) := by
    intro left h
    obtain ⟨⟨_, _, hspared⟩, hscopes, hnotices⟩ := Resolution.heard_spares hobservers h
    exact Resolution.settles hspared hscopes hnotices htaken hissued
  refine ⟨htaken, ?_, hsettled, ?_, ?_⟩
  · let host : Host (Watched library σ) := { supply.hostOf meanwhile with thread }
    refine Container.current_run host hpending hsession hρ fun left h => ?_
    obtain ⟨⟨_, _, hspared⟩, _⟩ := Resolution.heard_spares hobservers h
    rw [hspared.id _ hissued, htaken.record (List.forall_mem_nil _)]
  · intro left h
    obtain ⟨⟨seen, hseen, hspared⟩, _⟩ := Resolution.heard_spares hobservers h
    have haside := ρ.settled_aside m thread session s left
    rw [List.map_nil, List.append_nil] at hspared
    exact ⟨seen, hseen, htaken.spared hmade hnext hissued
      (hspared.steady haside.contexts haside.conversations haside.nextContext)⟩
  · intro left h later q hobeys r u hrun
    have hseen : (ρ.settled m thread session s left).seen = left.seen :=
      congrArg (·.seen) (ρ.settled_aside m thread session s left).surroundings
    have hstayed := (Act.wp_of_run hrun).1 (Stayed.run later q hobeys _ _ left.seen _
      ⟨(hsettled left h).slot, [], hseen, fun _ hx => by cases hx⟩)
    exact ⟨hstayed, Container.gives hstayed.slot⟩

/-- The hypotheses hold where a second thread asks for the long-running conversation that a first
one holds in the same session. The observer makes a context when it hears of the new one. -/
theorem conversation_granted_busy :
    let supply : Supply Unit := Supply.numbered ⟨"main"⟩
    let b : Thread := ⟨"b"⟩
    let m : Container := ⟨1⟩
    let session : ScopeContext := ⟨1⟩
    let quiet : Callback → Program library Unit := fun _ => .done
    let meanwhile : Callback → Program library Unit := fun _ =>
      .call (⟨b, .newContext .request⟩ : Request) quiet fun _ => .done
    let ρ : Resolution := .begun (some (.busyConversation "1" "2"))
    ∃ s : Store (Watched library Unit), s.bare.Reachable ∧
      m.conversationSlot b s = .pending (some "1") ∧ m.slot b .session s = some session ∧
      m.ObservedAside meanwhile ∧
      (ρ.heard (supply.hostOf meanwhile) m session s).isSome = true ∧
      m.Resolves session s (some "1") ρ ∧ ρ.Granted supply meanwhile m b session s := by
  intro supply b m session quiet meanwhile ρ
  let a : Thread := ⟨"a"⟩
  let p : Program library Unit :=
    .call (⟨a, .newContainer {} [.listener ⟨1⟩] false⟩ : Request) quiet fun _ =>
    .call (⟨a, .start m .session {}⟩ : Request) quiet fun _ =>
    .call (⟨a, .start m .conversation {}⟩ : Request) quiet fun _ =>
    .call (⟨a, .current m .conversation⟩ : Request) quiet fun _ =>
    .call (⟨a, .promote ⟨⟨2⟩⟩⟩ : Request) quiet fun _ =>
    .call (⟨b, .start m .session { session := some session }⟩ : Request) quiet fun _ =>
    .call (⟨b, .start m .conversation { conversationId := some "1" }⟩ : Request) quiet fun _ =>
      .done
  have hchecked : ((p.run supply).run.run (Store.watched { surroundings := () })).map (fun o =>
      decide (o.2.seen.filterMap Sighting.reattached? = [(session, 3)] ∧
        m.conversationSlot b o.2 = .pending (some "1") ∧ m.slot b .session o.2 = some session ∧
        session.conversation? "1" o.2 = some ⟨⟨2⟩⟩ ∧ (o.2.conversation ⟨⟨2⟩⟩).transient = false ∧
        (o.2.conversation ⟨⟨2⟩⟩).busy = true ∧ session.nextName m o.2 = "2" ∧
        (ρ.heard (supply.hostOf meanwhile) m session o.2).isSome = true)) = some true := by
    decide +kernel
  obtain ⟨⟨r, s⟩, hrun, hs⟩ := Option.map_eq_some_iff.1 hchecked
  obtain ⟨hreattached, hpending, hsession, hlisted, hlasting, hbusy, hname, hheard⟩ :=
    of_decide_eq_true hs
  have hfair : ∀ x ∈ s.seen, x.Fair Container.ReattachesMade :=
    Sighting.fair_of_reattached (by rw [hreattached]; decide)
  have hreachable : s.bare.Reachable := Store.ReachableBy.of_run hrun hfair
  have hobservers : m.ObservedAside meanwhile :=
    fun _ _ => ⟨rfl, fun _ => trivial, fun _ => trivial⟩
  have hresolves : m.Resolves session s (some "1") ρ := by
    have hrefused := Container.Resolves.busy (m := m) hlisted hlasting hbusy
    rwa [hname] at hrefused
  have hgranted := conversation_granted supply meanwhile hreachable hpending hsession hobservers
  exact ⟨s, hreachable, hpending, hsession, hobservers, hheard, hresolves,
    hgranted.2 ρ hresolves⟩

end ContextualLifecycle
