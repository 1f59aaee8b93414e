import ContextualLifecycle.Proofs.Conversation.Ending

namespace ContextualLifecycle.Conversation

variable {σ : Type} {host : Host (Watched library σ)} {v w : Conversation} {g : Stage}
  {m : Container} {x : ScopeContext} {thread : Thread} {kind : ScopeKind}
  {s t : Store (Watched library σ)}

/-- A conversation was chosen for a slot: the one in custody, which is in hand now, or another. -/
inductive Chosen (v : Conversation) (g : Stage) (w : Conversation) (x : ScopeContext)
    (s : Store (Watched library σ)) : Prop where
  | own (hfree : g.hand = none) (heq : w = v) (h : v.Custody { g with hand := some x } s)
  | other (hne : w ≠ v) (h : v.Custody g s)

theorem Chosen.put (h : v.Chosen g w x s) (m : Container) (thread : Thread) :
    v.Custody g (m.swapConversation thread (.active w x) s).2 := by
  cases h with
  | own hfree heq h =>
    subst heq
    exact h.put hfree m thread
  | other hne h =>
    refine h.untouched (.swapConversation m thread ?_ s)
    intro y heq
    cases heq
    exact hne rfl

theorem Custody.begin (hs : v.Custody g s) (m : Container) (draw : Nat → String) (start : Nat)
    (timeout : Duration) :
    let added := x.addTransient draw start timeout s
    let numbered := m.update (fun r => { r with nextConversation := added.1.2 }) added.2
    v.Chosen g added.1.1 x ((added.1.1.tryAcquire numbered).2.note
      (.notified .initialized m .conversation added.1.1.context)) := by
  intro added numbered
  let opened := (ScopeContext.newActive .conversation s).2
  let w := added.1.1
  have hopened : v.Custody g opened := hs.newActive .conversation
  by_cases heq : w = v
  · obtain rfl : v = ⟨⟨s.nextContext⟩⟩ := heq.symm
    have hcontext : opened.context ⟨s.nextContext⟩ = { kind := .conversation, active := true } :=
      ScopeContext.context_newActive .conversation s
    obtain ⟨hstory, _, hclaimed, hoff, _⟩ := hs.absent (Nat.le_refl _)
    have hfree : g.hand = none := by
      cases hhand : g.hand with
      | none => rfl
      | some y => exact absurd (.inr (.inr hhand)) (hclaimed y)
    exact .own hfree heq (hopened.start hstory hoff (by rw [hcontext]) (by rw [hcontext]) m _ _ _)
  · let record : Record := { id := draw (added.1.2 - 1), timeout, lastAccess := s.clock }
    have hmade : v.Untouched opened added.2 :=
      (Untouched.conversation heq (fun _ => record) opened).trans (.putConversation heq x _ _)
    have hnumbered : v.Untouched added.2 numbered :=
      .of_quiet (.container m _ added.2 fun _ hc => hc)
    have hnote : (Event.notified .initialized m .conversation w.context).notice?.bind v.heard? =
        none := if_neg (context_ne heq)
    exact .other heq (hopened.untouched
      (((hmade.trans hnumbered).trans (.tryAcquire heq numbered)).trans (.note hnote _)))

theorem Custody.removed (h : v.Custody g s) {id : String}
    (hhome : ∀ y, v.IsListed y s → y = x) (hid : (s.conversation v).id = id) (y : ScopeContext) :
    ¬ v.IsListed y (x.removeConversation id s).2 := by
  rintro ⟨id', hid'⟩
  have hlisted := (Store.Quiet.removeConversation x id s).listed y id' v hid'
  obtain rfl := hhome y ⟨id', hlisted⟩
  obtain rfl := (h.name y id' hlisted).symm.trans hid
  have herased : (((y.removeConversation id' s).2).context y).conversations =
      (s.context y).conversations.erase id' :=
    congrArg (·.conversations) (ScopeContext.context_update y _ s)
  rw [ScopeContext.conversation?, herased, Table.get?_erase, if_pos rfl] at hid'
  cases hid'

def expiredRows (x : ScopeContext) (s : Store σ) : List (String × Conversation) :=
  (s.context x).conversations.rows.filter fun (_, v) => v.isAbandoned s

theorem conversation?_takeExpired (x : ScopeContext) {id : String} {s : Store σ}
    (h : id ∈ (expiredRows x s).map Prod.fst) :
    x.conversation? id (x.takeExpired s).2 = none := by
  have hfold : ∀ (rows : List (String × Conversation)) (t : Store σ),
      id ∈ rows.map Prod.fst ∨ x.conversation? id t = none →
      x.conversation? id (rows.foldl (fun s row =>
        (x.removeConversation row.1 (s.report (.conversationExpired row.1))).2) t) = none := by
    intro rows
    induction rows with
    | nil =>
      rintro t (hin | hnone)
      · cases hin
      · exact hnone
    | cons row rows ih =>
      intro t ht
      apply ih
      have herased : ((x.removeConversation row.1
          (t.report (.conversationExpired row.1))).2.context x).conversations =
          (t.context x).conversations.erase row.1 :=
        congrArg (·.conversations) (ScopeContext.context_update x _ _)
      rw [ScopeContext.conversation?, herased, Table.get?_erase]
      by_cases hrow : id = row.1
      · exact .inr (if_pos hrow)
      · rw [if_neg hrow]
        rcases ht with hin | hnone
        · rw [List.map_cons, List.mem_cons, or_iff_right hrow] at hin
          exact .inl hin
        · exact .inr hnone
  exact hfold _ s (.inl h)

/-- A conversation that expired is at hand for nobody but the one who took it out. -/
theorem Custody.expired (h : v.Custody g s) (hin : v ∈ (x.takeExpired s).1) :
    g.due = false ∧ v.Custody { g with off := true, begun := true, due := true }
      (x.takeExpired s).2 ∧ ∃ before after,
        (x.takeExpired s).1 = before ++ v :: after ∧ v ∉ before ∧ v ∉ after := by
  obtain ⟨⟨id, w⟩, hrow, rfl⟩ := List.mem_map.1 hin
  obtain ⟨hmem, habandoned⟩ := List.mem_filter.1 hrow
  have hlisted : x.conversation? id s = some w := Table.get?_eq_some_iff.2 hmem
  have hclaimed : w.IsClaimed g x s := .inl ⟨id, hlisted⟩
  let taken := (x.takeExpired s).2
  have hquiet : s.Quiet taken := .takeExpired x s
  have htaken : w.Custody g taken := h.untouched (.of_quiet hquiet)
  have hissued := h.issued_of_listed ⟨id, hlisted⟩
  have hnames : ∀ id', (id', w) ∈ (s.context x).conversations.rows → id' = id := by
    intro id' hid'
    have hname := h.name x id' (Table.get?_eq_some_iff.2 hid')
    exact hname.symm.trans (h.name x id hlisted)
  refine ⟨Bool.eq_false_iff.2 fun hdue => (h.due hdue).2 x hclaimed, ?_, ?_⟩
  · have hnone : ∀ y, ¬ w.IsListed y taken := by
      rintro y ⟨id', hid'⟩
      have hbefore := hquiet.listed y id' w hid'
      obtain rfl := h.home y x (.inl ⟨id', hbefore⟩) hclaimed
      obtain rfl := hnames id' (Table.get?_eq_some_iff.1 hbefore)
      have hgone := conversation?_takeExpired y (List.mem_map.2 ⟨_, hrow, rfl⟩)
      exact Option.some_ne_none w (hid'.symm.trans hgone)
    have hstory : w.story taken ≠ [] := by
      have hsame : w.story taken = w.story s := (Untouched.of_quiet hquiet).story
      rw [hsame]
      exact h.begun (.inl ⟨x, hclaimed⟩)
    have hknown := (htaken.take hnone (Nat.lt_of_lt_of_le hissued hquiet.nextContext)).know hstory
    have hbusy : (s.conversation w).busy = false := by
      simp only [isAbandoned, Bool.and_eq_true, Bool.not_eq_true'] at habandoned
      exact habandoned.1.2
    apply hknown.await rfl rfl
    · rw [hquiet.active _ hissued]
      exact h.listed x ⟨id, hlisted⟩
    · exact (hquiet.busy w).trans hbusy
  · obtain ⟨front, back, hsplit⟩ := List.append_of_mem hrow
    have hsub : ∀ row ∈ front ++ (id, w) :: back, row ∈ (s.context x).conversations.rows := by
      intro row hin
      rw [← hsplit] at hin
      exact (List.mem_filter.1 hin).1
    have hnodup : ((front ++ (id, w) :: back).map Prod.fst).Nodup := by
      rw [← hsplit]
      exact (s.context x).conversations.nodup.sublist (List.filter_sublist.map Prod.fst)
    rw [List.map_append, List.map_cons, List.nodup_append, List.nodup_cons] at hnodup
    obtain ⟨_, ⟨hback, _⟩, hfront⟩ := hnodup
    refine ⟨front.map Prod.snd, back.map Prod.snd, ?_, ?_, ?_⟩
    · change (expiredRows x s).map Prod.snd = _
      rw [expiredRows, hsplit, List.map_append, List.map_cons]
    · intro hin
      obtain ⟨⟨id', w'⟩, hrow', rfl⟩ := List.mem_map.1 hin
      obtain rfl := hnames id' (hsub _ (List.mem_append_left _ hrow'))
      exact hfront _ (List.mem_map.2 ⟨_, hrow', rfl⟩) _ List.mem_cons_self rfl
    · intro hin
      obtain ⟨⟨id', w'⟩, hrow', rfl⟩ := List.mem_map.1 hin
      obtain rfl := hnames id' (hsub _ (List.mem_append_right _ (List.mem_cons_of_mem _ hrow')))
      exact hback (List.mem_map.2 ⟨_, hrow', rfl⟩)

variable (h : Guards host v)

include h

theorem Guards.destroyExpired : Act.Keeps True (v.Custody g) (m.destroyExpired host) := by
  intro s hs
  refine Container.wp_destroyExpired (fun _ => hs) fun session _ => ?_
  have hothers : ∀ (g : Stage) (vs : List Conversation), v ∉ vs →
      Run.Keeps True (v.Custody g) (collectFailures (m.teardownConversation host) vs) :=
    fun g vs hvs => Run.Keeps.collectFailures_of_mem fun w hw =>
      h.teardownOther (ne_of_mem_of_not_mem hw hvs)
  by_cases hin : v ∈ (session.takeExpired s).1
  · obtain ⟨hidle, hdue, before, after, hsplit, hbefore, hafter⟩ := hs.expired hin
    let g' : Stage := { g with off := true, begun := true }
    rw [hsplit, Run.wp_collectFailures_append]
    apply (hothers _ before hbefore _ hdue).mono
    intro _ t ht
    rw [Run.wp_collectFailures_cons]
    apply (h.teardownSelf rfl rfl (ht.due rfl).1 ht).mono
    intro _ u hu
    have hstage : ({ g with off := true, begun := true, due := false } : Stage) = g' := by
      rw [← hidle]
    apply (hothers g' after hafter u (hstage ▸ hu)).mono
    exact fun _ last hlast => (Custody.unknow (g := { g with off := true }) hlast).forget
  · exact hothers g _ hin _ (hs.untouched (.of_quiet (.takeExpired session s)))

omit h in
theorem Custody.letGo {slot : ConversationSlot} {session : ScopeContext} (hs : v.Custody g s)
    (hheld : m.conversationSlot thread s = .active w session) (hw : ∀ y, slot ≠ .active w y)
    (hv : ∀ y, slot ≠ .active v y) :
    v.Custody g (w.release (m.swapConversation thread slot s).2) := by
  by_cases heq : w = v
  · subst heq
    exact hs.giveUp hheld hw
  · exact hs.untouched ((Untouched.swapConversation m thread hv s).trans (.release heq _))

theorem Guards.finishSlot {slot : ConversationSlot} (hslot : ∀ w y, slot ≠ .active w y)
    (hs : v.Custody g s) :
    Act.wp True (m.finishSlot host (m.conversationSlot host.thread s))
      (fun _ t => v.Custody g t) (m.swapConversation host.thread slot s).2 := by
  apply Container.wp_finishSlot
  · intro w session hheld
    let swapped := (m.swapConversation host.thread slot s).2
    let left := w.release swapped
    have hleft : v.Custody g left := hs.letGo hheld (hslot w) (hslot v)
    refine Container.wp_finishConversation (fun _ => hleft) fun _ => ?_
    let removed := (session.removeConversation (swapped.conversation w).id left).2
    have hremoved : v.Custody g removed := hleft.untouched (.of_quiet (.removeConversation _ _ _))
    by_cases heq : w = v
    · subst heq
      have hclaimed : w.IsClaimed g session s := .inr (.inl ⟨(m, host.thread), hheld⟩)
      have hhome : ∀ y, w.IsListed y left → y = session :=
        fun y hy => hs.home y session (.inl hy) hclaimed
      have hname : (left.conversation w).id = (swapped.conversation w).id := by
        rw [conversation_release, if_pos rfl]
      have hnone := hleft.removed hhome hname
      have hstory : w.story removed ≠ [] := hs.begun (.inl ⟨session, hclaimed⟩)
      have hidle : g.due = false :=
        Bool.eq_false_iff.2 fun hdue => (hs.due hdue).2 session hclaimed
      have hknown := (hremoved.take hnone (hremoved.issued (.inl hstory))).know hstory
      have hturn := h.endConversation (g := { g with off := true, begun := true }) (m := m)
        (w := w) fun _ => ⟨rfl, rfl, hidle⟩
      apply (hturn _ hknown).mono
      exact fun _ _ ht => (Custody.unknow (g := { g with off := true }) ht).forget
    · exact h.endConversation (fun hw => absurd hw heq) _ hremoved
  · exact fun _ => hs.untouched (.swapConversation m host.thread (hslot v) s)

theorem Guards.stop : Act.Keeps True (v.Custody g) (m.stop host kind) := by
  intro s hs
  by_cases hkind : kind = .conversation
  · subst hkind
    rw [Container.wp_stop_conversation]
    exact h.finishSlot (fun _ _ heq => by cases heq) hs
  · have hvacated : v.Custody g (m.vacate host.thread kind s) := by
      rw [Container.vacate]
      split
      · exact hs.untouched (.swapApplication m fun _ heq => by cases heq)
      · exact hs.untouched (.clearSlot m host.thread kind s)
    apply Container.wp_stop hkind
    · intro c hc
      have hforeign : v.IsForeign c (m.vacate host.thread kind s) := by
        rw [Container.vacate]
        split <;> exact hs.attached m host.thread kind c hc
      exact h.teardownScope hkind hforeign hvacated
    · exact fun _ => hvacated

omit h in
theorem Custody.detached (hs : v.Custody g s) : v.Custody g (m.detach thread kind s).2 := by
  apply Container.detach_cases (fun _ => hs)
  · exact fun w session _ hheld =>
      hs.letGo hheld (fun _ heq => by cases heq) fun _ heq => by cases heq
  · exact fun _ _ => hs.untouched (.swapConversation m thread (fun _ heq => by cases heq) s)
  · exact fun _ _ => hs.untouched (.clearSlot m thread kind s)

theorem Guards.shutdown : Act.Keeps True (v.Custody g) (m.shutdown host) := by
  intro s hs
  apply Container.wp_shutdown
  apply (Run.Keeps.collectFailures (fun _ => h.stop) _ s hs).mono
  exact fun _ t ht => ht.untouched (.forgetScopes m host.thread t)

theorem Guards.retire (hkind : kind ≠ .conversation) (hx : v.IsForeign x s)
    (hs : v.Custody g s) : Act.wp True (m.retire host kind x) (fun _ t => v.Custody g t) s :=
  Container.wp_retire (fun _ => ⟨hs, fun _ => hs.untouched (.of_quiet (.note rfl s))⟩)
    fun _ => h.teardownScope hkind hx hs

theorem Guards.startSlot {session : Option ScopeContext} (hshared : kind ≠ .application)
    (hkind : kind ≠ .conversation) (hsession : session ≠ some v.context) :
    Act.Keeps True (v.Custody g) (m.startSlot host kind session) := by
  intro s hs
  let c := (Container.contextToStart kind session s).1
  let opened := c.setActive true (Container.contextToStart kind session s).2
  have hopened : v.Custody g opened ∧ v.IsForeign c opened := by
    by_cases hkept : kind = .session ∧ session.isSome
    · obtain ⟨rfl, hsome⟩ := hkept
      obtain ⟨y, rfl⟩ := Option.isSome_iff_exists.1 hsome
      have hy : y ≠ v.context := fun heq => hsession (by rw [heq])
      exact ⟨hs.untouched (.setActive hy true s), isForeign_of_ne hy⟩
    · have hmade : Container.contextToStart kind session s = ScopeContext.new kind s := by
        cases kind <;> cases session <;> first | rfl | simp at hkept
      simp only [opened, c, hmade]
      exact ⟨hs.newActive kind, isForeign_newActive hkind⟩
  obtain ⟨hopened, hforeign⟩ := hopened
  have hfilled := hopened.untouched (.fillSlot m host.thread kind hforeign)
  have hannounce : ∀ t, v.Custody g t → Run.wp True (m.announce host .initialized kind c)
      (fun _ u => v.Custody g u) t := fun t ht => h.announce (fun heq => absurd heq hkind) t ht
  apply Container.wp_startSlot rfl
  · intro p hp _
    have hheld : m.attached host.thread kind opened = some p := by
      rwa [Container.attached, if_neg hshared]
    have hprevious : v.IsForeign p (m.fillSlot host.thread kind c opened).2 :=
      hopened.attached m host.thread kind p hheld
    apply (h.retire hkind hprevious hfilled).mono
    exact fun _ t ht => ⟨ht, hannounce t ht⟩
  · exact fun _ => hannounce _ hfilled

theorem Guards.startApplication : Act.Keeps True (v.Custody g) (m.startApplication host) := by
  intro s hs
  refine Container.wp_startApplication (fun _ => ?_) fun _ => hs
  have hmade := hs.newActive .application
  have hforeign : v.IsForeign (ScopeContext.newActive .application s).1
      (ScopeContext.newActive .application s).2 := isForeign_newActive (by decide)
  have hput := hmade.untouched (.swapApplication m fun y heq => Option.some.inj heq ▸ hforeign)
  exact h.announce (fun heq => by cases heq) _ hput

theorem Guards.start {params : ScopeParams} (hsession : params.session ≠ some v.context) :
    Act.Keeps True (v.Custody g) (m.start host kind params) := by
  intro s hs
  apply Container.wp_start
  · exact fun _ => h.startApplication s hs
  · intro _
    rw [Container.wp_startConversation]
    exact h.finishSlot (fun _ _ heq => by cases heq) hs
  · exact fun happlication hconversation =>
      h.startSlot happlication hconversation hsession s hs

theorem Guards.beginTransient (hs : v.Custody g s) :
    Run.wp True (m.beginTransient host x) (fun w t => v.Chosen g w x t) s := by
  apply Container.wp_beginTransient
  have htell : ∀ g w t, v.Custody g (Store.note (.notified .initialized m .conversation w) t) →
      Run.wp True (m.announce host .initialized .conversation w) (fun _ u => v.Custody g u) t :=
    fun g w t ht => Container.wp_announce ht
      (fun content s hs => hs.untouched (.of_quiet (.note rfl s))) fun l => (h g).notify l _ m _ w
  cases hs.begin m toString (s.container m).nextConversation
    (s.container m).config.conversationTimeout with
  | own hfree heq hnoted => exact (htell _ _ _ hnoted).mono fun _ t ht => .own hfree heq ht
  | other hne hnoted => exact (htell _ _ _ hnoted).mono fun _ t ht => .other hne ht

theorem Guards.chooseConversation (propagatedId : Option String) (hs : v.Custody g s) :
    Run.wp True (m.chooseConversation host x propagatedId) (fun o t => v.Chosen g o.1 x t) s := by
  refine Container.wp_chooseConversation_of (h.beginTransient hs) fun id w _ hlisted _ hidle => ?_
  by_cases heq : w = v
  · subst heq
    obtain ⟨hfree, hhand⟩ := hs.acquire ⟨id, hlisted⟩ hidle
    exact .own hfree rfl hhand
  · exact .other heq (hs.untouched (.tryAcquire heq s))

theorem Guards.conversationContext :
    Act.Keeps True (v.Custody g) (m.conversationContext host) := by
  intro s hs
  apply Container.wp_conversationContext (fun _ => hs)
    (fun _ => hs.untouched (.of_quiet (.note rfl s)))
  intro propagatedId session _ _
  apply (h.chooseConversation propagatedId hs).mono
  intro choice t ht
  have hput := ht.put m host.thread
  exact ⟨hput, fun _ => hput.untouched (.of_quiet (.note rfl _))⟩

theorem Guards.current : Act.Keeps True (v.Custody g) (m.current host kind) := by
  intro s hs
  cases kind with
  | conversation => exact h.conversationContext s hs
  | _ => exact hs

end ContextualLifecycle.Conversation
