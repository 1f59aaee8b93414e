import ContextualLifecycle.Proofs.Container.Beginnings
import ContextualLifecycle.Proofs.Container.Moves
import ContextualLifecycle.Proofs.Container.Sustained

namespace ContextualLifecycle

variable {σ : Type}

section Aside

variable {s t : Store σ}

theorem Store.aside_of_eq (hcontexts : t.contexts = s.contexts)
    (hconversations : t.conversations = s.conversations) (hcontainers : t.containers = s.containers)
    (hscopes : t.scopes = s.scopes) (hnext : t.nextContext = s.nextContext)
    (hsurroundings : t.surroundings = s.surroundings) (hnotices : t.notices = s.notices) :
    s.Aside t :=
  ⟨hcontexts, hconversations, hscopes, hnext, Container.application_congr hcontainers, hnotices,
    hsurroundings⟩

theorem Store.aside_note {event : Event} (h : event.notice? = none) (s : Store σ) :
    s.Aside (s.note event) :=
  aside_of_eq rfl rfl rfl rfl rfl rfl
    (by rw [Store.notices_note, h, Option.toList_none, List.append_nil])

theorem Store.aside_container (m : Container) (r : Container.Record) (s : Store σ)
    (h : r.application = m.application s) : s.Aside (s.setContainer m r) := by
  refine ⟨rfl, rfl, rfl, rfl, fun m' => ?_, rfl, rfl⟩
  rw [Container.application, Store.container, Store.setContainer, Table.get?_insert]
  split
  · rename_i hm
    rw [hm]
    exact h
  · rfl

end Aside

theorem Host.Tends.handlesIn {host : Host σ} {May : ScopeContext → Prop} {Inv : Store σ → Prop}
    (h : host.Tends True Inv) (haside : ∀ s t, s.Aside t → Inv s → Inv t)
    (hentered : ∀ (c : ScopeContext) f s, May c → (∀ r, ScopeContext.Record.Within r (f r)) →
      Inv s → Inv (c.update f s)) : host.HandlesIn May fun _ => Inv := by
  have hfill : ∀ (c : ScopeContext) id n content s, May c → Inv s →
      Inv (c.fillCell id n content s) := fun c id n content s hc =>
    hentered c _ s hc fun r => by split <;> exact ⟨rfl, rfl, rfl⟩
  have hdrop : ∀ (c : ScopeContext) id n s, May c → Inv s → Inv (c.dropCell id n s) :=
    fun c id n s hc => hentered c _ s hc fun r => by split <;> exact ⟨rfl, rfl, rfl⟩
  have hset : ∀ (c : ScopeContext) id cell s, May c → Inv s → Inv (c.setCell id cell s) :=
    fun c id cell s hc => hentered c _ s hc fun _ => ⟨rfl, rfl, rfl⟩
  have hepisode : ∀ (e : Episode) f s, Inv s → Inv (e.update f s) :=
    fun e f s => haside _ _ (Store.aside_of_eq rfl rfl rfl rfl rfl rfl rfl)
  have hserial : ∀ n s, Inv s → Inv { s with nextCell := n } :=
    fun n s => haside _ _ (Store.aside_of_eq rfl rfl rfl rfl rfl rfl rfl)
  exact {
    remarked := fun _ event s hevent => haside _ _ (Store.aside_note (by
      cases event <;> first | rfl | cases hevent) s)
    destroying := fun _ _ s => haside _ _ (Store.aside_note rfl s)
    create := fun _ unit e _ hs =>
      (show host.Tends True ((fun _ : List Bag => Inv) []) from h).gives
        (fun _ _ s => haside _ _ (Store.aside_note rfl s))
        (fun _ _ _ s => haside _ _ (Store.aside_note rfl s)) unit e hs
    restored := fun _ _ s => haside _ _ (Store.aside_note rfl s)
    described := fun _ e f s _ _ => hepisode e f s
    begun := fun _ _ _ _ s => haside _ _ (Store.aside_of_eq rfl rfl rfl rfl rfl rfl rfl)
    registered := fun _ b => hepisode b.episode _
    unlisted := fun _ e _ _ _ s _ => hepisode e _ s
    stacked := fun _ _ _ s => haside _ _ (Store.aside_of_eq rfl rfl rfl rfl rfl rfl rfl)
    claimed := fun _ c id s hc hs => by
      obtain ⟨_, heq⟩ | ⟨_, _, heq⟩ := ScopeContext.claimCell_cases c id s
      · rwa [heq]
      · rw [heq]
        exact hserial _ _ (hset c id _ s hc hs)
    filling := fun _ c id n => hfill c id n .filling
    filled := fun _ c n b => hfill c b.contextual.id n (.live b)
    dropped := fun _ => hdrop
    discarded := fun _ c n b s hc hs => hdrop c _ n _ hc (hfill c _ n (.live b) s hc hs)
    placed := fun _ c b s hc hs => hset c _ _ _ hc (hserial _ s hs)
    taken := fun _ c id s hc => hentered c (fun r => { r with entries := r.entries.erase id }) s hc
      fun _ => ⟨rfl, rfl, rfl⟩
    tends := fun _ => h }

/-- Every move of a request keeps a family of properties, one for each that the request may have in
hand, and so do callbacks. -/
structure Host.Moves (host : Host σ) (fair : Container → Thread → ScopeContext → Store Unit → Prop)
    (request : Request) (P : Hand → Store σ → Prop) : Prop where
  thread : host.thread = request.thread
  move : ∀ {γ s γ' s'}, Move fair request γ s γ' s' → P γ s → P γ' s'
  keeps : ∀ γ, host.Keeps True (P γ)

namespace Host.Moves

variable {host : Host σ} {fair : Container → Thread → ScopeContext → Store Unit → Prop}
  {request : Request} {P : Hand → Store σ → Prop} {γ : Hand} {m : Container} {c : ScopeContext}
  {s : Store σ} (h : host.Moves fair request P)

include h

theorem aside {t : Store σ} (hs : P γ s) (hst : s.Aside t) : P γ t := h.move (.aside hst) hs

theorem reported (content : Report) (hs : P γ s) : P γ (s.report content) :=
  h.aside hs (Store.aside_note rfl s)

theorem handlesIn (γ : Hand) : host.HandlesIn (γ.Enters request) fun _ => P γ :=
  (h.keeps γ).tends.handlesIn (fun _ _ hst hs => h.aside hs hst)
    fun _ _ _ hc hf => h.move (.entered hc hf)

theorem announce {phase : Phase} {kind : ScopeKind}
    (hphase : request.call.container? = some m ∧ phase = .destroyed ∨ request.call.begins m kind) :
    Run.Keeps True (P γ) (m.announce host phase kind c) :=
  Container.announce_keeps (fun _ => h.move (.noted hphase)) (fun content _ => h.reported content)
    fun l => (h.keeps γ).notify l phase m kind c

omit h in
theorem each {f : Conversation → Act σ Unit}
    (hf : ∀ v γ s, P (γ.doom [v.context]) s → Act.wp True (f v) (fun _ t => P γ t) s)
    (vs : List Conversation) (hs : P (γ.doom (vs.map (·.context))) s) :
    Run.wp True (collectFailures f vs) (fun _ t => P γ t) s := by
  induction vs generalizing s with
  | nil => exact hs
  | cons v vs ih =>
    rw [Run.wp_collectFailures_cons]
    exact (hf v _ s hs).mono fun _ t ht => ih ht

theorem destroyNested (depth : Nat) (γ : Hand) (c : ScopeContext) (s : Store σ)
    (hs : P (γ.doom [c]) s) : Act.wp True (c.destroyNested host depth) (fun _ t => P γ t) s := by
  induction depth generalizing γ c s with
  | zero => exact Act.wp_true_iff.2 fun _ _ hrun => nomatch hrun
  | succ depth ih =>
    apply ScopeContext.wp_destroyNested
    let falling : Hand := { γ with falling := c :: γ.falling }
    have hinactive : P falling (c.setActive false s) := h.move .deactivated hs
    have henters : falling.Enters request c := .inr (.inl List.mem_cons_self)
    have hentries := Run.Keeps.collectFailures
      (fun id => (h.handlesIn falling).destroyEntry [] henters id)
    apply (hentries _ _ hinactive).mono
    intro failures t ht
    have htaken := h.move (.emptied (c := c) (.inr List.mem_cons_self)) ht
    have hconversation : ∀ (v : Conversation) γ u, P (γ.doom [v.context]) u →
        Act.wp True (ScopeContext.destroyActive host depth v) (fun _ t => P γ t) u :=
      fun v γ u hu => ScopeContext.wp_destroyActive
        (fun hinactive => h.move (.spared hinactive) hu) fun _ => ih γ v.context u hu
    apply (each hconversation _ htaken).mono
    exact fun _ u hu => h.move .fallen hu

theorem destroyAll (hs : P (γ.doom [c]) s) :
    Act.wp True (c.destroyAll host) (fun _ t => P γ t) s :=
  h.destroyNested UInt64.size γ c s hs

section Container

variable (hm : request.call.container? = some m)

include hm

theorem destroyContext (kind : ScopeKind) (hs : P (γ.doom [c]) s) :
    Run.wp True (m.destroyContext host kind c) (fun _ t => P γ t) s := by
  apply Container.wp_destroyContext
  exact (h.destroyAll hs).mono fun _ t ht => h.announce (.inl ⟨hm, rfl⟩) t ht

theorem teardownConversation (v : Conversation) (γ : Hand) (s : Store σ)
    (hs : P (γ.doom [v.context]) s) :
    Act.wp True (m.teardownConversation host v) (fun _ t => P γ t) s :=
  Container.wp_teardownConversation (h.destroyContext hm .conversation hs)

theorem endConversation (v : Conversation) (γ : Hand) (s : Store σ)
    (hs : P (γ.doom [v.context]) s) :
    Act.wp True (m.endConversation host v) (fun _ t => P γ t) s :=
  Container.wp_endConversation (fun hinactive => h.move (.spared hinactive) hs)
    fun _ => h.teardownConversation hm v γ s hs

theorem teardown (kind : ScopeKind) (hs : P (γ.doom [c]) s) :
    Act.wp True (m.teardown host kind c) (fun _ t => P γ t) s := by
  apply Container.wp_teardown
  · intro _
    have htaken := h.move (.emptied (c := c) (.inl List.mem_cons_self)) hs
    apply (each (h.endConversation hm) _ htaken).mono
    exact fun _ t ht => h.destroyContext hm kind ht
  · exact fun _ => h.destroyContext hm kind hs

theorem retire (kind : ScopeKind)
    (hs : P (γ.doom (match (s.container m).config.restartPolicy with
      | .abandon => []
      | .destroyPrevious => [c])) s) :
    Act.wp True (m.retire host kind c) (fun _ t => P γ t) s := by
  apply Container.wp_retire
  · intro hpolicy
    rw [hpolicy] at hs
    exact ⟨hs, fun _ => h.reported _ hs⟩
  · intro hpolicy
    rw [hpolicy] at hs
    exact h.teardown hm kind hs

theorem finishConversation {slot : ConversationSlot} (hslot : request.call.finishes m slot)
    (hs : P γ s) : Act.wp True (m.finishSlot host (m.conversationSlot host.thread s))
      (fun _ t => P γ t) (m.swapConversation host.thread slot s).2 := by
  rw [h.thread]
  apply Container.wp_finishSlot
  · intro v session hheld
    apply Container.wp_finishConversation
    · exact fun _ => h.move (.released (.inl hslot) hheld) hs
    · exact fun htransient =>
        h.endConversation hm v γ _ (h.move (.finished hslot hheld htransient) hs)
  · exact fun hfree => h.move (.turned (.inl hslot) hfree) hs

theorem startSlot {kind : ScopeKind} {session : Option ScopeContext}
    (hbegins : request.call.begins m kind)
    (hplaced : P (γ.doom (m.replaced request.thread kind
        (Container.contextToStart kind session s).1 s))
      (m.place request.thread kind (Container.contextToStart kind session s))) :
    Act.wp True (m.startSlot host kind session) (fun _ t => P γ t) s := by
  let opened := Container.contextToStart kind session s
  have hslot : m.slot request.thread kind (opened.1.setActive true opened.2) =
      m.slot request.thread kind s := by
    obtain ⟨_, _, _, heq⟩ | heq := Container.contextToStart_cases kind session s
    all_goals
      simp only [opened, heq]
      rfl
  have hpolicy : (m.place request.thread kind opened).container m = s.container m := by
    obtain ⟨_, _, _, heq⟩ | heq := Container.contextToStart_cases kind session s
    all_goals
      simp only [opened, heq]
      rfl
  have hannounce : Run.Keeps True (P γ) (m.announce host .initialized kind opened.1) :=
    h.announce (.inr hbegins)
  rw [Container.replaced, ← hpolicy, ← hslot, ← h.thread] at hplaced
  apply Container.wp_startSlot rfl
  · intro p hprevious hp
    rw [hprevious, Option.toList_some, List.filter_cons_of_pos (by simpa using hp)] at hplaced
    apply (h.retire hm kind hplaced).mono
    exact fun _ t ht => ⟨ht, hannounce t ht⟩
  · intro hfree
    have hnothing : (m.slot host.thread kind (opened.1.setActive true opened.2)).toList.filter
        (· ≠ opened.1) = [] := by
      rw [List.filter_eq_nil_iff]
      intro p hp
      simpa using hfree p (Option.mem_toList.1 hp)
    refine hannounce _ ?_
    rw [hnothing] at hplaced
    split at hplaced <;> exact hplaced

omit hm in
theorem startApplication {params : ScopeParams}
    (hcall : request.call = .start m .application params) :
    Act.Keeps True (P γ) (m.startApplication host) := by
  intro s hs
  refine Container.wp_startApplication (fun hnone => ?_) fun _ => hs
  have hbegins : request.call.begins m .application := by
    rw [hcall]
    exact ⟨rfl, rfl⟩
  exact h.announce (.inr hbegins) _ (h.move (.shared hcall hnone) hs)

/-- A session that is attached again has to be one that may be. -/
theorem start {kind : ScopeKind} {params : ScopeParams}
    (hcall : request.call = .start m kind params)
    (hfair : ∀ c, kind = .session → params.session = some c → fair m request.thread c s.bare)
    (hs : P {} s) : Act.wp True (m.start host kind params) (fun _ t => P {} t) s := by
  have hbegins : request.call.begins m kind := by
    rw [hcall]
    exact ⟨rfl, rfl⟩
  have hplain : kind ≠ .application ∧ kind ≠ .conversation →
      Act.wp True (m.startSlot host kind params.session) (fun _ t => P {} t) s := by
    intro hkind
    apply h.startSlot hm hbegins
    by_cases hnew : kind = .session ∧ params.session ≠ none
    · obtain ⟨rfl, hsome⟩ := hnew
      obtain ⟨c, hc⟩ := Option.ne_none_iff_exists'.1 hsome
      rw [hc]
      exact h.move (.reattached hcall hc (hfair c rfl hc)) hs
    · have hopened : Container.contextToStart kind params.session s = ScopeContext.new kind s := by
        cases kind with
        | session =>
          rw [show params.session = none by simpa using hnew]
          rfl
        | _ => rfl
      rw [hopened]
      exact h.move (.started hcall hkind fun hsession => by simpa [hsession] using hnew) hs
  apply Container.wp_start
  · rintro rfl
    exact h.startApplication hcall s hs
  · rintro rfl
    rw [Container.wp_startConversation]
    refine h.finishConversation hm ?_ hs
    rw [hcall]
    exact ⟨rfl, rfl⟩
  · exact fun happlication hconversation => hplain ⟨happlication, hconversation⟩

theorem stop {kind : ScopeKind} (hends : request.call.ends m kind)
    (hslot : kind = .conversation → request.call.finishes m .notStarted) :
    Act.Keeps True (P γ) (m.stop host kind) := by
  intro s hs
  by_cases hkind : kind = .conversation
  · subst hkind
    rw [Container.wp_stop_conversation]
    exact h.finishConversation hm (hslot rfl) hs
  · have hvacated : P (γ.doom (m.attached host.thread kind s).toList)
        (m.vacate host.thread kind s) := by
      rw [Container.attached, Container.vacate, h.thread]
      split
      · rename_i happlication
        subst happlication
        exact h.move (.unshared hends) hs
      · exact h.move (.vacated hends) hs
    apply Container.wp_stop hkind
    · intro c hc
      rw [hc] at hvacated
      exact h.teardown hm kind hvacated
    · intro hnone
      rwa [hnone] at hvacated

omit hm in
theorem detach {kind : ScopeKind} (hcall : request.call = .detach m kind) (hs : P γ s) :
    P γ (m.detach host.thread kind s).2 := by
  rw [h.thread]
  have hleaves : kind = .conversation → request.call.leaves m .notStarted := by
    rintro rfl
    exact .inr ⟨hcall, rfl⟩
  apply Container.detach_cases (fun _ => hs)
  · exact fun v session hkind hheld => h.move (.released (hleaves hkind) hheld) hs
  · exact fun hkind hfree => h.move (.turned (hleaves hkind) hfree) hs
  · exact fun _ _ => h.move (.detached hcall) hs

theorem destroyExpired (hcall : request.call = .destroyExpired m) :
    Act.Keeps True (P γ) (m.destroyExpired host) := by
  intro s hs
  refine Container.wp_destroyExpired (fun _ => hs) fun session hsession => ?_
  rw [h.thread] at hsession
  exact each (h.teardownConversation hm) _ (h.move (.expired hcall hsession) hs)

theorem shutdown (hcall : request.call = .shutdown m) :
    Act.Keeps True (P γ) (m.shutdown host) := by
  intro s hs
  have hstop : ∀ kind, Act.Keeps True (P γ) (m.stop host kind) := by
    intro kind
    apply h.stop hm
    · rw [hcall]
      rfl
    · intro _
      rw [hcall]
      exact ⟨rfl, rfl⟩
  apply Container.wp_shutdown
  apply (Run.Keeps.collectFailures hstop _ s hs).mono
  intro failures t ht
  rw [h.thread]
  exact h.move (.forgotten hcall) ht

end Container

section Conversation

variable (hcall : request.call = .current m .conversation)

include hcall

theorem beginTransient {session : ScopeContext} {propagatedId : Option String}
    (hsession : m.slot request.thread .session s = some session)
    (hpending : m.conversationSlot request.thread s = .pending propagatedId) (hs : P γ s) :
    Run.wp True (m.beginTransient host session)
      (fun v t => P γ (m.swapConversation request.thread (.active v session) t).2) s := by
  let v := (m.beginning session s).1
  have hbegins : request.call.begins m .conversation := by
    rw [hcall]
    exact ⟨rfl, rfl⟩
  have hannounce : Run.Keeps True (P { γ with begun := (v, session) :: γ.begun })
      (m.announce host .initialized .conversation v.context) := h.announce (.inr hbegins)
  apply Container.wp_beginTransient
  apply (hannounce _ (h.move (.begun hcall hsession hpending) hs)).mono
  exact fun _ t ht => h.move (.seated hcall) ht

theorem chooseConversation {session : ScopeContext} {propagatedId : Option String}
    (hsession : m.slot request.thread .session s = some session)
    (hpending : m.conversationSlot request.thread s = .pending propagatedId) (hs : P γ s) :
    Run.wp True (m.chooseConversation host session propagatedId)
      (fun choice t => P γ (m.swapConversation request.thread (.active choice.1 session) t).2)
      s := by
  apply Container.wp_chooseConversation_of (h.beginTransient hcall hsession hpending hs)
  rintro id v rfl hlisted hlasting hidle
  exact h.move (.resumed hcall hsession hpending hlisted hlasting hidle) hs

theorem conversationContext : Act.Keeps True (P γ) (m.conversationContext host) := by
  intro s hs
  apply Container.wp_conversationContext (fun _ => hs) (fun _ => h.reported _ hs)
  intro propagatedId session hpending hsession
  rw [h.thread] at hpending hsession ⊢
  apply (h.chooseConversation hcall hsession hpending hs).mono
  exact fun choice t ht => ⟨ht, fun _ => h.reported _ ht⟩

end Conversation

theorem current {kind : ScopeKind} (hcall : request.call = .current m kind) :
    Act.Keeps True (P γ) (m.current host kind) := by
  intro s hs
  cases kind with
  | conversation => exact h.conversationContext hcall s hs
  | _ => exact hs

def Given (P : Hand → Store σ → Prop) (γ : Hand) (kind : ScopeKind) :
    Except LifecycleError ScopeContext → Store σ → Prop
  | .ok c, t => P (γ.restore c kind) t
  | .error _, t => P γ t

omit h in
mutual

theorem restoreContext (h : host.Moves fair request P)
    (hsnapshot : request.call.snapshot?.isSome = true) (m : Container) :
    (snapshot : ContextSnapshot) → (∀ kind ∈ snapshot.nestedKinds, request.call.nests kind) →
      ∀ (γ : Hand) s, P γ s →
        Act.wp True (m.restoreContext host snapshot) (Given P γ snapshot.kind) s
  | ⟨kind, entries, conversations⟩, hnests => by
    intro γ s hs
    simp only [Container.restoreContext, Act.wp_bind, Act.wp_modifyGet, Act.wp_pure]
    let c := (ScopeContext.new kind s).1
    have hopened : P (γ.restore c kind) (ScopeContext.new kind s).2 :=
      h.move (.reviving hsnapshot) hs
    have hentry := fun entry => (h.handlesIn (γ.restore c kind)).restoreEntry [] m
      (.inr (.inr List.mem_cons_self)) entry
    apply (Act.Keeps.forM hentry entries _ hopened).mono
    intro r t ht
    cases r with
    | error error => exact h.move .revived ht
    | ok _ =>
      apply (restoreConversations h hsnapshot m c conversations hnests _ List.mem_cons_self t
        ht).mono
      intro r u hu
      cases r with
      | error error => exact h.move .revived hu
      | ok _ => exact hu

theorem restoreConversations (h : host.Moves fair request P)
    (hsnapshot : request.call.snapshot?.isSome = true) (m : Container) (c : ScopeContext) :
    (vs : List ConversationSnapshot) →
    (∀ kind ∈ ContextSnapshot.kindsIn vs, request.call.nests kind) → ∀ γ : Hand,
      c ∈ γ.restoring.map Prod.fst → Act.Keeps True (P γ) (m.restoreConversations host c vs)
  | [], _ => by
    intro γ _ s hs
    simp only [Container.restoreConversations, Act.wp_pure]
    exact hs
  | v :: vs, hnests => by
    intro γ hc s hs
    have hhead := fun kind hkind => hnests kind (List.mem_append_left _ hkind)
    have htail := fun kind hkind => hnests kind (List.mem_append_right _ hkind)
    simp only [Container.restoreConversations, Act.wp_bind]
    apply (restoreConversation h hsnapshot m c v hhead γ hc s hs).mono
    intro r t ht
    cases r with
    | error error => exact ht
    | ok _ => exact restoreConversations h hsnapshot m c vs htail γ hc t ht

theorem restoreConversation (h : host.Moves fair request P)
    (hsnapshot : request.call.snapshot?.isSome = true) (m : Container) (c : ScopeContext) :
    (v : ConversationSnapshot) → (∀ kind ∈ v.kinds, request.call.nests kind) → ∀ γ : Hand,
      c ∈ γ.restoring.map Prod.fst → Act.Keeps True (P γ) (m.restoreConversation host c v)
  | ⟨id, timeoutMs, context⟩, hnests => by
    intro γ hc s hs
    have hkind := hnests context.kind List.mem_cons_self
    have hnested := fun kind hin => hnests kind (List.mem_cons_of_mem _ hin)
    simp only [Container.restoreConversation, Act.wp_bind]
    apply (restoreContext h hsnapshot m context hnested γ s hs).mono
    intro r t ht
    cases r with
    | error error => exact ht
    | ok nested =>
      have hadded : Act.wp True (do
          modify (nested.setActive true)
          let v ← modifyGet (Conversation.around nested id (.ofMillis timeoutMs.toNat))
          modify v.promote
          c.addConversation v) (fun _ u => P γ u) t := by
        apply ScopeContext.wp_converse
        · exact fun _ _ => h.move (.conversed hkind) ht
        · intro hnone
          refine h.move (.listed hkind hc ?_) ht
          rwa [← conversation?_setActive nested c true id t]
      simpa only [Act.wp_bind] using hadded

end

theorem restoreSession {snapshot : ContextSnapshot}
    (hcall : request.call = .restoreSession m snapshot) :
    Act.Keeps True (P γ) (m.restoreSession host snapshot) := by
  intro s hs
  have hsnapshot : request.call.snapshot? = some snapshot := by
    rw [hcall]
    rfl
  have hm : request.call.container? = some m := by
    rw [hcall]
    rfl
  have hbegins : request.call.begins m .session := by
    rw [hcall]
    exact ⟨rfl, rfl⟩
  have hrest : snapshot.kind = .session → Act.wp True (do
      let session ← m.restoreContext host snapshot
      m.start host .session { session := some session }
      return session) (fun _ t => P γ t) s := by
    intro hkind
    rw [Act.wp_bind]
    apply (h.restoreContext (by rw [hsnapshot]; rfl) m snapshot
      (fun kind hin => ⟨snapshot, hsnapshot, hin⟩) γ s hs).mono
    intro r t ht
    cases r with
    | error error => exact ht
    | ok session =>
      have hstarted : Act.wp True (m.start host .session { session := some session })
          (fun _ t => P γ t) t := by
        simp only [Container.start, Act.wp_inScope]
        rw [Given, hkind] at ht
        exact h.startSlot hm hbegins (h.move (.installed hcall) ht)
      simp only [Act.wp_bind, Act.wp_pure]
      apply hstarted.mono
      intro r u hu
      cases r <;> exact hu
  simp only [Container.restoreSession]
  split
  · exact hs
  · rename_i hkind
    exact hrest (by simpa using hkind)

/-- What every move of a request keeps is kept by the request. -/
theorem perform (hfair : ∀ m params c, request.call = .start m .session params →
      params.session = some c → fair m request.thread c s.bare) (hs : P {} s) :
    Act.wp True (request.call.perform host) (fun _ t => P {} t) s := by
  have hinstances := h.handlesIn {}
  have hasks : ∀ c, request.call.asksOf? = some c → ({} : Hand).Enters request c :=
    fun c hc => .inl hc
  have hstep : ∀ t : Store σ, s.Aside t → P {} t := fun t => h.aside hs
  cases hcall : request.call with
  | newContainer config observers proxying => exact h.move (.founded hcall) hs
  | register m id unit => exact hstep _ (Store.aside_container m _ s rfl)
  | wait span => exact hstep _ (Store.aside_of_eq rfl rfl rfl rfl rfl rfl rfl)
  | newEpisode m contextual => exact hstep _ (Store.aside_of_eq rfl rfl rfl rfl rfl rfl rfl)
  | wrap m outer unit =>
    cases outer with
    | episode e => exact hs
    | foreign f => exact hstep _ (Store.aside_of_eq rfl rfl rfl rfl rfl rfl rfl)
  | describe e change => exact hstep _ (Store.aside_of_eq rfl rfl rfl rfl rfl rfl rfl)
  | addDependent e unit inst =>
    cases inst with
    | none => exact hs
    | some inst => exact hstep _ (Store.aside_of_eq rfl rfl rfl rfl rfl rfl rfl)
  | push e inst => exact (Act.wp_lift _).2 (hinstances.push [] e inst s hs)
  | destroyDependent e inst =>
    exact (hinstances.releaseKeeps e []).toDrainKeeps.destroyDependent inst s hs
  | removeAllDependents e => exact (hinstances.releaseKeeps e []).removeAllDependents s hs
  | release e => exact (hinstances.releaseKeeps e []).release_keeps s hs
  | newContext kind => exact h.move (.opened hcall) hs
  | setActive c active => exact h.move (.switched hcall) hs
  | getOrCreate c unit e =>
    exact hinstances.getOrCreate [] (hasks c (by rw [hcall]; rfl)) unit e s hs
  | destroy c unit => exact hinstances.destroyUnit [] (hasks c (by rw [hcall]; rfl)) unit s hs
  | destroyExisting c unit =>
    exact hinstances.destroyExisting [] (hasks c (by rw [hcall]; rfl)) unit s hs
  | destroyAll c => exact h.destroyAll (h.move (.doomed hcall) hs)
  | removeConversation c id => exact h.move (.removed hcall) hs
  | promote v =>
    exact h.move (.marked (by rw [hcall]; rfl) (fun _ => rfl) (fun _ => rfl) fun _ _ _ => rfl) hs
  | demote v =>
    exact h.move (.marked (by rw [hcall]; rfl) (fun _ => rfl) (fun _ => rfl)
      fun hother => absurd hcall hother) hs
  | setTimeout v timeout | touch v =>
    exact h.move (.marked (by rw [hcall]; rfl) (fun _ => rfl) (fun _ => rfl) fun _ _ hr => hr) hs
  | restoreContext m snapshot =>
    have hsnapshot : request.call.snapshot? = some snapshot := by rw [hcall]; rfl
    apply (h.restoreContext (by rw [hsnapshot]; rfl) m snapshot
      (fun kind hin => ⟨snapshot, hsnapshot, hin⟩) {} s hs).mono
    intro r t ht
    cases r with
    | error error => exact ht
    | ok c => exact h.move .revived ht
  | start m kind params =>
    refine h.start (by rw [hcall]; rfl) hcall (fun c hkind hc => ?_) hs
    subst hkind
    exact hfair m params c hcall hc
  | current m kind => exact h.current hcall s hs
  | stop m kind =>
    refine h.stop (by rw [hcall]; rfl) (by rw [hcall]; exact ⟨rfl, rfl⟩) (fun hkind => ?_) s hs
    subst hkind
    rw [hcall]
    exact ⟨rfl, rfl⟩
  | detach m kind => exact h.detach hcall hs
  | destroyExpired m => exact h.destroyExpired (by rw [hcall]; rfl) hcall s hs
  | restoreSession m snapshot => exact h.restoreSession hcall s hs
  | shutdown m => exact h.shutdown (by rw [hcall]; rfl) hcall s hs

end Host.Moves

end ContextualLifecycle
