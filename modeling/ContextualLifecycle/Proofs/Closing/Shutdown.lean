import ContextualLifecycle.Proofs.Closing.Quitting
import ContextualLifecycle.Proofs.Conversation.Placement

namespace ContextualLifecycle

variable {σ : Type}

/-- The contexts that go with each scope of the thread. Of the conversation scope it is the one that
is torn down when the thread lets go of its conversation, if any. -/
def Container.ending (m : Container) (thread : Thread) (held : Option ScopeContext)
    (s : Store σ) : ScopeKind → List ScopeContext
  | .conversation => held.toList
  | kind => (m.attached thread kind s).toList

def Container.endings (m : Container) (thread : Thread) (held : Option ScopeContext)
    (s : Store σ) : List ScopeContext :=
  ScopeKind.teardownOrder.flatMap (m.ending thread held s)

/-- What observers are told while the thread leaves its scopes. -/
def Container.farewells (m : Container) (thread : Thread) (held : Option ScopeContext)
    (s : Store σ) : List Notice :=
  ScopeKind.teardownOrder.flatMap fun kind =>
    (m.ending thread held s kind).flatMap fun c => m.farewell kind c s

/-- The context goes when the thread leaves its scopes, with the context of a scope or as one. -/
def Container.TakesAlong (m : Container) (thread : Thread) (held : Option ScopeContext)
    (s : Store σ) (x : ScopeContext) : Prop :=
  ∃ c ∈ m.endings thread held s, s.Within c x

namespace Closing

variable {w : Closing σ} {host : Host (Watched library σ)} {m : Container} {thread : Thread}
  {s t u : Store (Watched library σ)} {gone : ScopeContext → Prop} {told : List Notice}
  {v : Conversation} {session c x : ScopeContext}

theorem exists_spot {kind : ScopeKind} (hc : c ∈ m.attached thread kind s) :
    ∃ spot : Spot, spot.context s = some c ∧ spot.kind = kind := by
  rw [Container.attached] at hc
  split at hc
  · rename_i hkind
    exact ⟨.shared m, hc, hkind.symm⟩
  · exact ⟨.slot m thread kind, hc, rfl⟩

section Places

variable (hplaced : s.Placed)

include hplaced

theorem bare_attached (kind : ScopeKind) (hkind : kind ≠ .session)
    (hc : c ∈ m.attached thread kind s) (id : String) : c.conversation? id s = none := by
  obtain ⟨spot, hcontext, hsame⟩ := exists_spot hc
  exact hplaced.bare spot c hcontext (hsame.symm ▸ hkind) id

theorem request_apart (hc : c ∈ m.attached thread .session s) (hx : s.Within c x) :
    ¬ ∃ r ∈ (m.attached thread .request s).toList, s.Within r x := by
  rintro ⟨r, hr, hin⟩
  have hr := Option.mem_toList.1 hr
  obtain rfl := (within_of_bare (bare_attached hplaced .request nofun hr)).1 hin
  obtain ⟨spot, hr, hkind⟩ := exists_spot hr
  obtain ⟨spot', hc, hkind'⟩ := exists_spot hc
  obtain rfl := hplaced.alone hr (hkind.symm ▸ nofun) hx
  have hsame := (hplaced.kind spot c hr).2.symm.trans (hplaced.kind spot' c hc).2
  rw [hkind, hkind'] at hsame
  cases hsame

theorem held_session_iff {roots : List ScopeContext} :
    Held m thread s ((m.attached thread .request s).toList ++ roots) v session ↔
      Held m thread s roots v session := by
  constructor
  · intro hv
    refine ⟨hv.slot, hv.transient, hv.active, ?_⟩
    rintro ⟨r, hr, hin⟩
    exact hv.apart ⟨r, List.mem_append_right _ hr, hin⟩
  · intro hv
    refine ⟨hv.slot, hv.transient, hv.active, ?_⟩
    rintro ⟨r, hr, hin⟩
    rcases List.mem_append.1 hr with hr | hr
    · have hr := Option.mem_toList.1 hr
      have hsame := (within_of_bare (bare_attached hplaced .request nofun hr)).1 hin
      obtain ⟨spot, hspot, hkind⟩ := exists_spot hr
      refine hplaced.unheld spot r hspot (hkind.symm ▸ nofun) m thread session ?_
      rw [← hsame]
      exact hv.slot
    · exact hv.apart ⟨r, hr, hin⟩

end Places

/-- The thread leaves all of its scopes. -/
theorem Defers.scopesLeft (h : w.Defers host) (hs : s.Nested) (hplaced : s.Placed)
    (hwords : s.nextContext ≤ UInt64.size) :
    Run.wp False (collectFailures (m.stop host) ScopeKind.teardownOrder) (fun _ t => ∃ time held,
      Dismisses m host.thread s (m.attached host.thread .session s).toList held ∧
      w.Underway m host.thread s (m.lettingGo host.thread time s)
        (m.endings host.thread held s) (m.farewells host.thread held s) [] t ∧
      m.application t = none) s := by
  have hbare : ∀ kind, kind ≠ .session → ∀ c ∈ m.attached host.thread kind s, ∀ id,
      c.conversation? id s = none :=
    fun kind hkind _ hc => bare_attached hplaced kind hkind hc
  have hstart := Underway.start w m host.thread ScopeKind.teardownOrder s
  rw [ScopeKind.teardownOrder] at hstart ⊢
  rw [Run.wp_collectFailures_cons]
  apply (hstart.leave_bare h hs hwords (by decide) (by decide) (by decide)
    (hbare _ (by decide))).mono
  rintro _ u₁ ⟨h₁, hslot₁, -⟩
  rw [List.nil_append] at h₁
  rw [Run.wp_collectFailures_cons]
  apply (h₁.leave_session h hs hwords (by decide)
    fun c hc x hx => request_apart hplaced hc hx).mono
  rintro _ u₂ ⟨h₂, hslot₂, -⟩
  rw [Run.wp_collectFailures_cons]
  apply (h₂.leave_conversation h hs hwords (hslot₂.trans hslot₁)
    (hplaced.held m host.thread)).mono
  rintro _ u₃ ⟨time, held, hheld, h₃⟩
  rw [Run.wp_collectFailures_cons]
  apply (h₃.leave_bare h hs hwords (by decide) (by decide) (by decide)
    (hbare _ (by decide))).mono
  rintro _ u₄ ⟨h₄, -, -⟩
  rw [Run.wp_collectFailures_cons]
  apply (h₄.leave_bare h hs hwords (by decide) (by decide) (by decide)
    (hbare _ (by decide))).mono
  rintro _ u₅ ⟨h₅, -, -⟩
  rw [Run.wp_collectFailures_cons]
  apply (h₅.leave_bare h hs hwords (by decide) (by decide) (by decide)
    (hbare _ (by decide))).mono
  rintro _ u₆ ⟨h₆, -, hnone⟩
  have hdismisses : Dismisses m host.thread s (m.attached host.thread .session s).toList held := by
    intro c
    simpa only [held_session_iff hplaced] using hheld c
  refine ⟨time, held, hdismisses, ?_, hnone⟩
  simpa [Container.endings, Container.farewells, Container.ending, ScopeKind.teardownOrder] using h₆

theorem Defers.shutdown (h : w.Defers host) (hs : s.Nested) (hplaced : s.Placed)
    (hwords : s.nextContext ≤ UInt64.size) :
    Act.wp False (m.shutdown host) (fun _ t => ∃ time held,
      Dismisses m host.thread s (m.attached host.thread .session s).toList held ∧
      w.Clears (m.TakesAlong host.thread held s) (m.farewells host.thread held s)
        (m.deserted host.thread (m.lettingGo host.thread time s)) t) s := by
  apply Container.wp_shutdown
  apply (h.scopesLeft hs hplaced hwords).mono
  rintro _ u ⟨time, held, hheld, hunderway, hnone⟩
  refine ⟨time, held, hheld, hunderway.departs.bypass
    (bypasses_aside rfl rfl rfl rfl rfl rfl fun m' => ?_)⟩
  rw [application_deserted]
  split
  · rename_i hm
    rw [hm]
    exact hnone
  · rfl

def toldOf (m : Container) (thread : Thread) (held : Option ScopeContext)
    (s : Store (Watched library σ)) (kind : ScopeKind) : List ScopeContext :=
  ((m.ending thread held s kind).flatMap fun c => m.farewell kind c s).map
    fun notice => notice.2.2.2

section Once

variable {held : Option ScopeContext} {kind kind' : ScopeKind}

theorem toldOf_plain (hsession : kind ≠ .session) (hconversation : kind ≠ .conversation) :
    toldOf m thread held s kind = (m.attached thread kind s).toList := by
  have hending : m.ending thread held s kind = (m.attached thread kind s).toList := by
    cases kind with
    | conversation => exact absurd rfl hconversation
    | _ => rfl
  rw [toldOf, hending]
  cases m.attached thread kind s <;> simp [Container.farewell, hsession]

theorem toldOf_conversation : toldOf m thread held s .conversation = held.toList := by
  cases held <;> simp [toldOf, Container.ending, Container.farewell]

theorem toldOf_session : toldOf m thread held s .session =
    (m.attached thread .session s).toList.flatMap fun c =>
      (c.standing s).map (·.context) ++ [c] := by
  have hending : m.ending thread held s .session = (m.attached thread .session s).toList := rfl
  rw [toldOf, hending]
  cases m.attached thread .session s <;> simp [Container.farewell]

theorem within_of_told (hx : x ∈ toldOf m thread held s .session) :
    ∃ c ∈ (m.attached thread .session s).toList, s.Within c x := by
  rw [toldOf_session] at hx
  obtain ⟨c, hc, hx⟩ := List.mem_flatMap.1 hx
  refine ⟨c, hc, ?_⟩
  rcases List.mem_append.1 hx with hx | hx
  · obtain ⟨v, hv, rfl⟩ := List.mem_map.1 hx
    obtain ⟨hlisted, hactive⟩ := List.mem_filter.1 hv
    obtain ⟨id, hlisted⟩ := ScopeContext.mem_values.1 hlisted
    exact .conversation .self hlisted hactive
  · rw [List.mem_singleton.1 hx]
    exact .self

theorem toldOf_session_nodup (hs : s.Nested) : (toldOf m thread held s .session).Nodup := by
  rw [toldOf_session]
  cases m.attached thread .session s with
  | none => exact .nil
  | some c =>
    rw [Option.toList_some, List.flatMap_singleton, List.nodup_append]
    refine ⟨?_, List.nodup_singleton c, ?_⟩
    · refine ((hs.nodup c).filter _).map_on fun v _ v' _ heq => ?_
      exact congrArg Conversation.mk heq
    · intro x hx y hy heq
      obtain ⟨v, hv, rfl⟩ := List.mem_map.1 hx
      obtain ⟨id, hlisted⟩ := ScopeContext.mem_values.1 (List.mem_filter.1 hv).1
      have hascends := hs.ascending c id v hlisted
      rw [heq, List.mem_singleton.1 hy] at hascends
      exact Nat.lt_irrefl _ hascends

section Placed

variable (hplaced : s.Placed)
  (hheld : Dismisses m thread s (m.attached thread .session s).toList held)

include hplaced hheld

theorem told_alone (hsession : kind ≠ .session) (hconversation : kind ≠ .conversation)
    (hx : x ∈ toldOf m thread held s kind) (hx' : x ∈ toldOf m thread held s kind') :
    kind' = kind := by
  rw [toldOf_plain hsession hconversation, Option.mem_toList] at hx
  obtain ⟨spot, hspot, hkind⟩ := exists_spot hx
  have hplain : spot.kind ≠ .session := hkind.symm ▸ hsession
  have hsame := (hplaced.kind spot x hspot).2
  have hthere : ∀ {k}, x ∈ m.attached thread k s → k = kind := by
    intro k hk
    obtain ⟨spot', hspot', hkind'⟩ := exists_spot hk
    rw [← hkind', ← (hplaced.kind spot' x hspot').2, hsame, hkind]
  by_cases hsession' : kind' = .session
  · subst hsession'
    obtain ⟨c, hc, hin⟩ := within_of_told hx'
    obtain rfl := hplaced.alone hspot hplain hin
    exact hthere (Option.mem_toList.1 hc)
  · by_cases hconversation' : kind' = .conversation
    · subst hconversation'
      rw [toldOf_conversation, Option.mem_toList, ← Option.mem_def, hheld] at hx'
      obtain ⟨v, session, hv, rfl⟩ := hx'
      exact absurd hv.slot (hplaced.unheld spot v.context hspot hplain m thread session)
    · rw [toldOf_plain hsession' hconversation', Option.mem_toList] at hx'
      exact hthere hx'

omit hplaced in
theorem told_apart (hx : x ∈ toldOf m thread held s .session) :
    x ∉ toldOf m thread held s .conversation := by
  rw [toldOf_conversation, Option.mem_toList, ← Option.mem_def, hheld]
  rintro ⟨v, session, hv, rfl⟩
  exact hv.apart (within_of_told hx)

theorem farewells_nodup (hs : s.Nested) :
    ((m.farewells thread held s).map fun notice => notice.2.2.2).Nodup := by
  rw [Container.farewells, List.map_flatMap, List.nodup_flatMap]
  constructor
  · intro kind _
    change (toldOf m thread held s kind).Nodup
    by_cases hsession : kind = .session
    · rw [hsession]
      exact toldOf_session_nodup hs
    · by_cases hconversation : kind = .conversation
      · rw [hconversation, toldOf_conversation]
        cases held <;> simp
      · rw [toldOf_plain hsession hconversation]
        cases m.attached thread kind s <;> simp
  · refine ScopeKind.teardownOrder_nodup.pairwise_of_forall_ne fun kind _ kind' _ hne x hx hx' => ?_
    change x ∈ toldOf m thread held s kind at hx
    change x ∈ toldOf m thread held s kind' at hx'
    by_cases hsession : kind = .session
    · by_cases hconversation : kind' = .conversation
      · rw [hsession] at hx
        rw [hconversation] at hx'
        exact told_apart hheld hx hx'
      · exact hne (told_alone hplaced hheld (fun h => hne (hsession.trans h.symm)) hconversation
          hx' hx)
    · by_cases hconversation : kind = .conversation
      · by_cases hsession' : kind' = .session
        · rw [hconversation] at hx
          rw [hsession'] at hx'
          exact told_apart hheld hx' hx
        · exact hne (told_alone hplaced hheld hsession'
            (fun h => hne (hconversation.trans h.symm)) hx' hx)
      · exact hne (told_alone hplaced hheld hsession hconversation hx hx').symm

end Placed

end Once

/-- The thread has left its scopes, and it is known what went with them. -/
structure Departed (w : Closing σ) (m : Container) (thread : Thread) (held : Option ScopeContext)
    (s t : Store (Watched library σ)) : Prop where
  /-- The conversation that the thread held is torn down on its own only if it is transient, and
  neither was torn down before nor goes with the session. -/
  letGo : Dismisses m thread s (m.attached thread .session s).toList held
  /-- Observers are told of the scopes in order, and of conversations before their session. -/
  notices : t.notices = s.notices ++ m.farewells thread held s
  once : ((m.farewells thread held s).map fun notice => notice.2.2.2).Nodup
  /-- Of what goes nothing is left, and all instances in it were destroyed. -/
  torn : ∀ x, m.TakesAlong thread held s x → t.context x = (s.context x).remains ∧
    ∀ id n b, (s.context x).entries.get? id = some ⟨n, .live b⟩ → w.Passed x id n b s t
  kept : ∀ x, ¬ m.TakesAlong thread held s x →
    ∃ conversations, t.context x = { s.context x with conversations }
  /-- A session loses a transient conversation that the thread let go of, and no other one. -/
  listed : ∀ x, ¬ m.TakesAlong thread held s x → ∀ id v, x.conversation? id t = some v ↔
    x.conversation? id s = some v ∧ ∀ v', m.conversationSlot thread s = .active v' x →
      (s.conversation v').transient = true → (s.conversation v').id ≠ id
  /-- The conversation is held no more. It is torn down if it goes with the session of the thread,
  or if it is transient and was not torn down before. -/
  released : ∀ v session, m.conversationSlot thread s = .active v session →
    (∃ time, t.conversation v =
      { s.conversation v with busy := false, lastAccess := time }) ∧
    (m.TakesAlong thread held s v.context ↔
      (∃ c ∈ m.attached thread .session s, s.Within c v.context) ∨
        (s.conversation v).transient = true ∧ (s.context v.context).active = true)
  records : ∀ v, (∀ session, m.conversationSlot thread s ≠ .active v session) →
    t.conversation v = s.conversation v
  /-- Sessions stay that the thread has not, unless they are conversations themselves. -/
  detached : ∀ x, (s.context x).kind = .session → x ∉ m.attached thread .session s →
    (∀ (y : ScopeContext) id, y.conversation? id s ≠ some ⟨x⟩) →
    (∀ session, m.conversationSlot thread s ≠ .active ⟨x⟩ session) →
    (t.context x).active = (s.context x).active ∧ (t.context x).entries = (s.context x).entries
  scopes : ∀ (m' : Container) thread', (m', thread') ≠ (m, thread) →
    t.threadScopes m' thread' = s.threadScopes m' thread'
  applications : ∀ m' : Container, m' ≠ m → m'.application t = m'.application s

section Departed

variable {time : Duration} {held : Option ScopeContext}

theorem mem_endings {kind : ScopeKind} (hc : c ∈ m.attached thread kind s)
    (hkind : kind ≠ .conversation) : c ∈ m.endings thread held s := by
  refine List.mem_flatMap.2 ⟨kind, ScopeKind.mem_teardownOrder kind, ?_⟩
  cases kind with
  | conversation => exact absurd rfl hkind
  | _ => exact Option.mem_toList.2 hc

theorem cases_endings (hc : c ∈ m.endings thread held s) :
    (∃ kind, c ∈ m.attached thread kind s) ∨ c ∈ held := by
  obtain ⟨kind, -, hc⟩ := List.mem_flatMap.1 hc
  cases kind with
  | conversation => exact .inr (Option.mem_toList.1 hc)
  | _ => exact .inl ⟨_, Option.mem_toList.1 hc⟩

variable (hplaced : s.Placed)
  (hheld : Dismisses m thread s (m.attached thread .session s).toList held)

include hplaced hheld

theorem takesAlong_held (hslot : m.conversationSlot thread s = .active v session) :
    m.TakesAlong thread held s v.context ↔
      (∃ c ∈ m.attached thread .session s, s.Within c v.context) ∨
        (s.conversation v).transient = true ∧ (s.context v.context).active = true := by
  constructor
  · rintro ⟨c, hc, hin⟩
    obtain ⟨kind, hc⟩ | hc := cases_endings hc
    · by_cases hsession : kind = .session
      · exact .inl ⟨c, hsession ▸ hc, hin⟩
      · obtain ⟨spot, hspot, hkind⟩ := exists_spot hc
        have hplain : spot.kind ≠ .session := hkind.symm ▸ hsession
        obtain heq := (within_of_bare (hplaced.bare spot c hspot hplain)).1 hin
        exact absurd (heq ▸ hslot) (hplaced.unheld spot c hspot hplain m thread session)
    · obtain ⟨v', session', hv, rfl⟩ := (hheld c).1 hc
      have hsame := hv.slot.symm.trans hslot
      cases hsame
      exact .inr ⟨hv.transient, hv.active⟩
  · rintro (⟨c, hc, hin⟩ | ⟨htransient, hactive⟩)
    · exact ⟨c, mem_endings hc nofun, hin⟩
    · by_cases hin : ∃ c ∈ (m.attached thread .session s).toList, s.Within c v.context
      · obtain ⟨c, hc, hin⟩ := hin
        exact ⟨c, mem_endings (Option.mem_toList.1 hc) nofun, hin⟩
      · have hgoes : v.context ∈ held := (hheld v.context).2
          ⟨v, session, ⟨hslot, htransient, hactive, hin⟩, rfl⟩
        refine ⟨v.context, List.mem_flatMap.2 ⟨.conversation, by decide, ?_⟩, .self⟩
        exact Option.mem_toList.2 hgoes

theorem not_takesAlong (hkind : (s.context x).kind = .session)
    (hout : x ∉ m.attached thread .session s)
    (hlone : ∀ (y : ScopeContext) id, y.conversation? id s ≠ some ⟨x⟩)
    (hidle : ∀ session, m.conversationSlot thread s ≠ .active ⟨x⟩ session) :
    ¬ m.TakesAlong thread held s x := by
  rintro ⟨c, hc, hin⟩
  cases hin with
  | conversation _ hv => exact hlone _ _ hv
  | self =>
    obtain ⟨kind, hc⟩ | hc := cases_endings hc
    · obtain ⟨spot, hspot, hsame⟩ := exists_spot hc
      have hplace := (hplaced.kind spot x hspot).2
      rw [hkind, hsame] at hplace
      exact hout (hplace ▸ hc)
    · obtain ⟨v, session, hv, rfl⟩ := (hheld x).1 hc
      exact hidle session hv.slot

theorem Clears.departed (h : w.Clears (m.TakesAlong thread held s) (m.farewells thread held s)
      (m.deserted thread (m.lettingGo thread time s)) t) (hs : s.Nested) :
    w.Departed m thread held s t := by
  obtain ⟨hjournal, hseen⟩ := lettingGo_quiet m thread time s
  have hcontext := context_lettingGo m thread time s
  have hkept : ∀ x, ¬ m.TakesAlong thread held s x →
      t.context x = (m.lettingGo thread time s).context x := h.kept
  have hrecords : ∀ v, t.conversation v = (m.lettingGo thread time s).conversation v :=
    h.conversations
  have hprecedes : s.Precedes (m.deserted thread (m.lettingGo thread time s)) :=
    ⟨hjournal ▸ List.prefix_refl _, hseen ▸ List.suffix_refl _⟩
  have hnotices : (m.deserted thread (m.lettingGo thread time s)).notices = s.notices :=
    congrArg (fun journal => journal.toList.filterMap Event.notice?) hjournal
  exact {
    letGo := hheld
    notices := by rw [h.notices, hnotices]
    once := farewells_nodup hplaced hheld hs
    torn := fun x hx => by
      obtain ⟨conversations, hx'⟩ := hcontext x
      refine ⟨?_, fun id n b hb => ?_⟩
      · have hremains : t.context x = ((m.lettingGo thread time s).context x).remains :=
          h.remains x hx
        rw [hremains, hx']
        rfl
      · refine (h.passed x hx id n b ?_).widen hprecedes (.refl t)
        exact (congrArg (·.entries.get? id) hx').trans hb
    kept := fun x hx => by
      rw [hkept x hx]
      exact hcontext x
    listed := fun x hx id v => by
      rw [ScopeContext.conversation?, hkept x hx]
      exact conversation?_lettingGo_iff
    released := fun v session hslot => by
      refine ⟨⟨time, ?_⟩, takesAlong_held hplaced hheld hslot⟩
      rw [hrecords, conversation_lettingGo hslot, if_pos rfl]
    records := fun v hfree => (hrecords v).trans (conversation_lettingGo_of_free hfree time)
    detached := fun x hkind hout hlone hidle => by
      have hstays := not_takesAlong hplaced hheld hkind hout hlone hidle
      obtain ⟨conversations, hx⟩ := hcontext x
      rw [hkept x hstays, hx]
      exact ⟨rfl, rfl⟩
    scopes := fun m' thread' hdesk => by
      rw [h.scopes, threadScopes_deserted, if_neg hdesk, threadScopes_lettingGo]
    applications := fun m' hm => by
      rw [h.application, application_deserted, if_neg hm, application_lettingGo] }

end Departed

end Closing

/-- The end of everything on a thread, in any store that is reached where nothing is attached again
but sessions, and whatever fails. If callbacks start no scopes and have none resolved, the thread is
out in the end. If they leave scopes, contexts and conversations alone, it is known what goes: every
scope ends once and in order, with all that is in its context, and all else stays. Numbers of
contexts are words. -/
theorem shutdown_exact (supply : Supply σ) (thread : Thread) (m : Container)
    (meanwhile : Callback → Program library σ) (s : Store (Watched library σ))
    (hreached : s.bare.ReachableBy Container.ReattachesSessionContext)
    (hstarting : ∀ cb, (meanwhile cb).Obeys startingNone [⟨thread, .shutdown m⟩]) :
    let run := (library.perform (supply.hostOf meanwhile) ⟨thread, .shutdown m⟩).run.run s
    (∀ answer t, run = some (answer, t) → m.Out thread s t) ∧
      (s.nextContext ≤ UInt64.size →
        (∀ cb, (meanwhile cb).Obeys stayingOut [⟨thread, .shutdown m⟩]) →
        ∃ answer t held, run = some (answer, t) ∧
          (⟨supply, s.nextContext⟩ : Closing σ).Departed m thread held s t) := by
  intro run
  refine ⟨Act.wp_true_iff.1 (shutdown_out supply meanwhile _ hstarting s), fun hwords hobeys => ?_⟩
  let w : Closing σ := ⟨supply, s.nextContext⟩
  obtain ⟨hnested, hplaced⟩ := hreached.placed
  have hs : s.Nested := Store.nested_bare.1 hnested
  have hs' : s.Placed := Store.placed_bare.1 hplaced
  have hdefers : w.Defers (w.host thread meanwhile) := Closing.defers meanwhile _ hobeys thread
  obtain ⟨answer, t, hrun, time, held, hheld, hcleared⟩ :=
    Act.wp_false_iff.1 (hdefers.shutdown (m := m) hs hs' hwords)
  exact ⟨answer, t, held, hrun, hcleared.departed hs' hheld hs⟩

/-- A thread holds a transient conversation of a session that it has detached. Its next session has
a long-running conversation from a second thread. -/
def heldElsewhere : Program library Unit :=
  let a : Thread := ⟨"a"⟩
  let b : Thread := ⟨"b"⟩
  let m : Container := ⟨1⟩
  let unit : Contextual := { object := 1, id := ⟨"cart"⟩, variety := .plain }
  let quiet : Callback → Program library Unit := fun _ => .done
  .call (⟨a, .newContainer {} [.listener ⟨1⟩] false⟩ : Request) quiet fun _ =>
  .call (⟨a, .start m .application {}⟩ : Request) quiet fun _ =>
  .call (⟨a, .start m .session {}⟩ : Request) quiet fun _ =>
  .call (⟨a, .getOrCreate ⟨2⟩ unit ⟨1⟩⟩ : Request) quiet fun _ =>
  .call (⟨a, .start m .conversation {}⟩ : Request) quiet fun _ =>
  .call (⟨a, .current m .conversation⟩ : Request) quiet fun _ =>
  .call (⟨a, .getOrCreate ⟨3⟩ unit ⟨1⟩⟩ : Request) quiet fun _ =>
  .call (⟨a, .detach m .session⟩ : Request) quiet fun _ =>
  .call (⟨a, .start m .session {}⟩ : Request) quiet fun _ =>
  .call (⟨b, .start m .session { session := some ⟨4⟩ }⟩ : Request) quiet fun _ =>
  .call (⟨b, .start m .conversation {}⟩ : Request) quiet fun _ =>
  .call (⟨b, .current m .conversation⟩ : Request) quiet fun _ =>
  .call (⟨b, .promote ⟨⟨5⟩⟩⟩ : Request) quiet fun _ =>
  .call (⟨b, .stop m .conversation⟩ : Request) quiet fun _ =>
  .call (⟨a, .start m .request {}⟩ : Request) quiet fun _ => .done

/-- The hypotheses hold of a thread with all sorts of scopes, where the conversation fails that it
holds. -/
theorem shutdown_exact_elsewhere :
    let supply : Supply Unit := Supply.numbered ⟨"main"⟩
    let a : Thread := ⟨"a"⟩
    let m : Container := ⟨1⟩
    let detached : ScopeContext := ⟨2⟩
    let meanwhile : Callback → Program library Unit := fun cb => match cb with
      | .destroy .. => .fail (.destruction "cart" "refused")
      | _ => .done
    ∃ s : Store (Watched library Unit),
      s.bare.ReachableBy Container.ReattachesSessionContext ∧ s.nextContext ≤ UInt64.size ∧
      (∀ cb, (meanwhile cb).Obeys startingNone [⟨a, .shutdown m⟩]) ∧
      (∀ cb, (meanwhile cb).Obeys stayingOut [⟨a, .shutdown m⟩]) ∧
      m.conversationSlot a s = .active ⟨⟨3⟩⟩ detached ∧
      ∃ answer t held, (library.perform (supply.hostOf meanwhile) ⟨a, .shutdown m⟩).run.run s =
          some (answer, t) ∧
        answer.isOk = false ∧
        t.notices = s.notices ++ [(.destroyed, m, .request, ⟨6⟩),
          (.destroyed, m, .conversation, ⟨5⟩), (.destroyed, m, .session, ⟨4⟩),
          (.destroyed, m, .conversation, ⟨3⟩), (.destroyed, m, .application, ⟨1⟩)] ∧
        (t.context detached).active = true ∧
        m.Out a s t ∧ (⟨supply, s.nextContext⟩ : Closing Unit).Departed m a held s t := by
  intro supply a m detached meanwhile
  have hchecked : ((heldElsewhere.run supply).run.run (Store.watched { surroundings := () })).map
      (fun o => decide (o.2.seen.all Sighting.reattachesFairly = true ∧
        o.2.nextContext ≤ UInt64.size ∧ m.conversationSlot a o.2 = .active ⟨⟨3⟩⟩ detached ∧
        ((library.perform (supply.hostOf meanwhile) ⟨a, .shutdown m⟩).run.run o.2).map
          (fun q => (q.1.isOk, decide (q.2.notices = o.2.notices ++
            [(.destroyed, m, .request, ⟨6⟩), (.destroyed, m, .conversation, ⟨5⟩),
            (.destroyed, m, .session, ⟨4⟩), (.destroyed, m, .conversation, ⟨3⟩),
            (.destroyed, m, .application, ⟨1⟩)]), (q.2.context detached).active)) =
              some (false, true, true))) = some true := by
    decide +kernel
  obtain ⟨⟨r, s⟩, hrun, hs⟩ := Option.map_eq_some_iff.1 hchecked
  obtain ⟨hfair, hwords, hslot, hleft⟩ := of_decide_eq_true hs
  have hreached : s.bare.ReachableBy Container.ReattachesSessionContext :=
    .of_run hrun fun x hx => Sighting.fair_of_reattachesFairly (List.all_eq_true.1 hfair x hx)
  have hstarting : ∀ cb, (meanwhile cb).Obeys startingNone [⟨a, .shutdown m⟩] := by
    intro cb
    cases cb <;> trivial
  have hobeys : ∀ cb, (meanwhile cb).Obeys stayingOut [⟨a, .shutdown m⟩] := by
    intro cb
    cases cb <;> trivial
  obtain ⟨hout, hexact⟩ := shutdown_exact supply a m meanwhile s hreached hstarting
  obtain ⟨answer, t, held, ht, hdeparted⟩ := hexact hwords hobeys
  rw [ht, Option.map_some, Option.some_inj] at hleft
  obtain ⟨hanswer, htold, hactive⟩ : _ ∧ _ ∧ _ := by simpa using hleft
  exact ⟨s, hreached, hwords, hstarting, hobeys, hslot, answer, t, held, ht, hanswer, htold,
    hactive, hout answer t ht, hdeparted⟩

/-- A thread holds a long-running conversation of a session that it has detached, and shares its
next session with a second thread. -/
def sharedWithAnother : Program library Unit :=
  let a : Thread := ⟨"a"⟩
  let b : Thread := ⟨"b"⟩
  let m : Container := ⟨1⟩
  let unit : Nat → String → Contextual := fun object text =>
    { object, id := ⟨text⟩, variety := .plain }
  let quiet : Callback → Program library Unit := fun _ => .done
  .call (⟨a, .newContainer {} [.listener ⟨1⟩] false⟩ : Request) quiet fun _ =>
  .call (⟨a, .start m .session {}⟩ : Request) quiet fun _ =>
  .call (⟨a, .getOrCreate ⟨1⟩ (unit 1 "cart") ⟨1⟩⟩ : Request) quiet fun _ =>
  .call (⟨a, .start m .conversation {}⟩ : Request) quiet fun _ =>
  .call (⟨a, .current m .conversation⟩ : Request) quiet fun _ =>
  .call (⟨a, .promote ⟨⟨2⟩⟩⟩ : Request) quiet fun _ =>
  .call (⟨a, .detach m .session⟩ : Request) quiet fun _ =>
  .call (⟨a, .start m .session {}⟩ : Request) quiet fun _ =>
  .call (⟨b, .start m .session { session := some ⟨3⟩ }⟩ : Request) quiet fun _ =>
  .call (⟨a, .start m .application {}⟩ : Request) quiet fun _ =>
  .call (⟨a, .start m .request {}⟩ : Request) quiet fun _ =>
  .call (⟨a, .getOrCreate ⟨5⟩ (unit 2 "log") ⟨1⟩⟩ : Request) quiet fun _ => .done

/-- A callback that starts no scopes, and has none resolved, may end scopes before their time and on
other threads, so that the session is ended twice, and after the application. It may have a
long-running conversation torn down that does not go with the session, and destroy an entry of a
session that is detached. -/
theorem shutdown_meddled :
    let supply : Supply Unit := Supply.numbered ⟨"main"⟩
    let a : Thread := ⟨"a"⟩
    let b : Thread := ⟨"b"⟩
    let m : Container := ⟨1⟩
    let unit : Nat → String → Contextual := fun object text =>
      { object, id := ⟨text⟩, variety := .plain }
    let quiet : Callback → Program library Unit := fun _ => .done
    let detached : ScopeContext := ⟨1⟩
    let v : Conversation := ⟨⟨2⟩⟩
    let meanwhile : Callback → Program library Unit := fun cb => match cb with
      | .destroy ⟨2, _, _, _, _⟩ _ _ =>
        .call (⟨a, .stop m .application⟩ : Request) quiet fun _ =>
        .call (⟨b, .stop m .session⟩ : Request) quiet fun _ =>
        .call (⟨a, .demote v⟩ : Request) quiet fun _ =>
        .call (⟨a, .destroy detached (unit 1 "cart")⟩ : Request) quiet fun _ => .done
      | _ => .done
    ∃ s : Store (Watched library Unit),
      s.bare.ReachableBy Container.ReattachesSessionContext ∧
      (∀ cb, (meanwhile cb).Obeys startingNone [⟨a, .shutdown m⟩]) ∧
      m.attached a .session s = some ⟨3⟩ ∧ m.conversationSlot a s = .active v detached ∧
      (s.conversation v).transient = false ∧ (s.context ⟨3⟩).conversations.keys = [] ∧
      (s.context detached).entries.keys = [⟨"cart"⟩] ∧
      ∃ t, (library.perform (supply.hostOf meanwhile) ⟨a, .shutdown m⟩).run.run s =
          some (.ok (), t) ∧
        t.notices = s.notices ++ [(.destroyed, m, .application, ⟨4⟩),
          (.destroyed, m, .session, ⟨3⟩), (.destroyed, m, .request, ⟨5⟩),
          (.destroyed, m, .session, ⟨3⟩), (.destroyed, m, .conversation, ⟨2⟩)] ∧
        (t.context detached).entries.keys = [] := by
  intro supply a b m unit quiet detached v meanwhile
  have hchecked : ((sharedWithAnother.run supply).run.run
      (Store.watched { surroundings := () })).map
      (fun o => decide (o.2.seen.all Sighting.reattachesFairly = true ∧
        m.attached a .session o.2 = some ⟨3⟩ ∧ m.conversationSlot a o.2 = .active v detached ∧
        (o.2.conversation v).transient = false ∧ (o.2.context ⟨3⟩).conversations.keys = [] ∧
        (o.2.context detached).entries.keys = [⟨"cart"⟩] ∧
        ((library.perform (supply.hostOf meanwhile) ⟨a, .shutdown m⟩).run.run o.2).map
          (fun q => (q.1.isOk, decide (q.2.notices = o.2.notices ++
            [(.destroyed, m, .application, ⟨4⟩), (.destroyed, m, .session, ⟨3⟩),
            (.destroyed, m, .request, ⟨5⟩), (.destroyed, m, .session, ⟨3⟩),
            (.destroyed, m, .conversation, ⟨2⟩)]), (q.2.context detached).entries.keys)) =
              some (true, true, []))) = some true := by
    decide +kernel
  obtain ⟨⟨r, s⟩, hrun, hs⟩ := Option.map_eq_some_iff.1 hchecked
  obtain ⟨hfair, hsession, hslot, hlasting, hapart, hentries, hleft⟩ := of_decide_eq_true hs
  have hreached : s.bare.ReachableBy Container.ReattachesSessionContext :=
    .of_run hrun fun x hx => Sighting.fair_of_reattachesFairly (List.all_eq_true.1 hfair x hx)
  have hstarting : ∀ cb, (meanwhile cb).Obeys startingNone [⟨a, .shutdown m⟩] := by
    intro cb
    simp only [meanwhile]
    split <;> simp [quiet, Program.Obeys, startingNone, Call.startsScopes]
  obtain ⟨⟨answer, t⟩, ht, hseen⟩ := Option.map_eq_some_iff.1 hleft
  obtain ⟨hanswer, htold, hdestroyed⟩ : _ ∧ _ ∧ _ := by simpa using hseen
  cases answer with
  | error _ => cases hanswer
  | ok _ =>
    exact ⟨s, hreached, hstarting, hsession, hslot, hlasting, hapart, hentries, t, ht, htold,
      hdestroyed⟩

end ContextualLifecycle
