import ContextualLifecycle.Proofs.Conversation.Resolution

namespace ContextualLifecycle

variable {σ : Type} {fair : Container → Thread → ScopeContext → Store Unit → Prop}
  {request : Request} {within : List Request} {γ γ' : Hand} {s s' : Store (Watched library σ)}
  {m : Container} {thread : Thread} {v : Conversation} {session : ScopeContext}

/-- The thread neither ends its conversation scope, nor starts it again, nor detaches it. -/
def Container.staying (m : Container) (thread : Thread) : Rule := fun _ request =>
  request.thread = thread → ∀ slot, ¬ request.call.leaves m slot

/-- A thread that has its conversation keeps it in every move, unless it leaves the scope. -/
theorem Move.stays (h : Move fair request γ s γ' s') (hrule : m.staying thread within request)
    (hother : request.thread = thread → request.call ≠ .current m .conversation)
    (hslot : m.conversationSlot thread s = .active v session) :
    m.conversationSlot thread s' = .active v session := by
  -- Only the slots of other desks are swapped.
  have hswapped : ∀ {m' : Container} {slot} {u : Store (Watched library σ)},
      m.conversationSlot thread u = .active v session →
      ((m, thread) = (m', request.thread) → False) →
      m.conversationSlot thread (m'.swapConversation request.thread slot u).2 =
        .active v session := by
    intro m' slot u hu hdesk
    rw [conversationSlot_swap, if_neg hdesk]
    exact hu
  have hleaves : ∀ {m' : Container} {slot}, request.call.leaves m' slot →
      (m, thread) = (m', request.thread) → False := by
    rintro m' slot hcall hdesk
    cases hdesk
    exact hrule rfl slot hcall
  have hasks : ∀ {m' : Container}, request.call = .current m' .conversation →
      (m, thread) = (m', request.thread) → False := by
    rintro m' hcall hdesk
    cases hdesk
    exact hother rfl hcall
  cases h with
  | aside h => rwa [Container.conversationSlot_congr h.scopes]
  | started | reattached | installed =>
    rw [Container.conversationSlot_place]
    exact hslot
  | vacated | detached =>
    rw [Container.conversationSlot_clear]
    exact hslot
  | @forgotten _ _ m' hcall =>
    have hforgets : request.call.leaves m' .notStarted := by
      rw [hcall]
      exact .inl ⟨rfl, rfl⟩
    rw [Container.conversationSlot_forget, if_neg (hleaves hforgets)]
    exact hslot
  | turned hcall => exact hswapped hslot (hleaves hcall)
  | released hcall => exact hswapped hslot (hleaves hcall)
  | finished hcall => exact hswapped hslot (hleaves (.inl hcall))
  | expired =>
    rwa [Container.conversationSlot_congr (Store.Quiet.takeExpired _ s).scopes]
  | begun =>
    rw [Container.beginning, Conversation.tryAcquire]
    split <;> exact hslot
  | seated hcall => exact hswapped hslot (hasks hcall)
  | resumed hcall =>
    refine hswapped ?_ (hasks hcall)
    rw [Conversation.tryAcquire]
    split <;> exact hslot
  | _ => exact hslot

/-- What is seen while the thread has the conversation in its slot. -/
structure Sighting.Stays (m : Container) (thread : Thread) (v : Conversation)
    (session : ScopeContext) (x : Sighting library) : Prop where
  moment : ∀ u, x = .moment u → m.conversationSlot thread u = .active v session
  answer : ∀ before answer after,
    x = .call ⟨thread, .current m .conversation⟩ before answer after →
    answer = .ok (some v.context) ∧ after = before

/-- Since something was seen, the thread has had the conversation in its slot. -/
structure Stayed (m : Container) (thread : Thread) (v : Conversation) (session : ScopeContext)
    (earlier : List (Sighting library)) (t : Store (Watched library σ)) : Prop where
  slot : m.conversationSlot thread t = .active v session
  seen : ∃ later, t.seen = later ++ earlier ∧ ∀ x ∈ later, x.Stays m thread v session

namespace Stayed

variable {earlier : List (Sighting library)}

theorem saw {x : Sighting library} (h : Stayed m thread v session earlier s)
    (hx : x.Stays m thread v session) : Stayed m thread v session earlier (s.saw x) := by
  obtain ⟨later, hseen, hall⟩ := h.seen
  refine ⟨h.slot, x :: later, ?_, fun y hy => ?_⟩
  · rw [Store.seen_saw, hseen, List.cons_append]
  · rcases List.mem_cons.1 hy with rfl | hy
    · exact hx
    · exact hall y hy

theorem perform {supply : Supply σ} {meanwhile : Callback → Program library σ}
    (hrule : m.staying thread within request)
    (hmeanwhile : ∀ cb, Act.Keeps True (Stayed m thread v session earlier)
      ((meanwhile cb).run supply)) (hs : Stayed m thread v session earlier s) :
    Act.wp True (library.perform (supply.hostOf meanwhile) request)
      (fun answer t => Stayed m thread v session earlier
        (Store.sawCall request s answer t : Store (Watched library σ))) s := by
  by_cases hrequest : request = ⟨thread, .current m .conversation⟩
  · subst hrequest
    let host : Host (Watched library σ) := { supply.hostOf meanwhile with thread }
    have hrun := Container.current_run_active host hs.slot
    refine (Act.wp_of_run hrun).2 (hs.saw ⟨fun u heq => (by cases heq), ?_⟩)
    intro before answer after heq
    cases heq
    exact ⟨rfl, rfl⟩
  · have hother : request.thread = thread → request.call ≠ .current m .conversation := by
      obtain ⟨thread', call⟩ := request
      rintro rfl rfl
      exact hrequest rfl
    have hmoves : Host.Moves { supply.hostOf meanwhile with thread := request.thread }
        (fun _ _ _ _ => True) request fun _ => Stayed m thread v session earlier := by
      refine ⟨rfl, fun hmove hu => ⟨hmove.stays hrule hother hu.slot, ?_⟩, fun _ => ?_⟩
      · rw [hmove.seen]
        exact hu.seen
      · exact (supply.watched.host_keeps hmeanwhile).on request.thread
    apply (hmoves.perform (fun _ _ _ _ _ => trivial) hs).mono
    intro answer t ht
    refine ht.saw ⟨fun u heq => (by cases heq), fun before answer' after heq => ?_⟩
    cases heq
    exact absurd rfl hrequest

theorem run (supply : Supply σ) (p : Program library σ) (hobeys : p.Obeys (m.staying thread) within)
    (v : Conversation) (session : ScopeContext) (earlier : List (Sighting library)) :
    Act.Keeps True (Stayed m thread v session earlier) (p.run supply) := by
  refine Program.run_keeps_within (ι := Unit)
    (fun _ _ t => Stayed m thread v session earlier t) supply ?_ ?_ ?_ p within hobeys ()
  · refine fun _ _ t ht => ht.saw ⟨fun u heq => ?_, fun _ _ _ heq => (by cases heq)⟩
    cases heq
    exact ht.slot
  · exact fun _ _ own t ht => ⟨ht.slot, ht.seen⟩
  · exact fun meanwhile within request hrule hmeanwhile _ t ht => perform hrule (hmeanwhile ()) ht

end Stayed

end ContextualLifecycle
