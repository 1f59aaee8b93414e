import ContextualLifecycle.Proofs.Container.Reviving
import ContextualLifecycle.Proofs.Conversation.Calm

namespace ContextualLifecycle

variable {σ : Type} {still : List Thread} {host : Host (Watched library σ)} {m : Container}
  {s₀ s t u : Store (Watched library σ)}

/-- The account that there was at first has been kept. -/
structure Tallied (still : List Thread) (s t : Store (Watched library σ)) : Prop where
  sound : ∃ hand, Tally hand s
  evolves : Evolves still s t

theorem Tallied.now (h : Tallied still s t) : ∃ hand, Tally hand t := by
  obtain ⟨hand, hs⟩ := h.sound
  exact ⟨hand, h.evolves.tally hand hs⟩

theorem Tallied.trans (h : Tallied still s t) (h' : Evolves still t u) : Tallied still s u :=
  ⟨h.sound, h.evolves.trans h'⟩

/-- Callbacks keep every account, and the slots of some threads. -/
def Host.Serves (host : Host (Watched library σ)) (still : List Thread) : Prop :=
  ∀ s, host.Keeps True (Tallied still s)

theorem Host.Serves.calmKeeps (h : host.Serves still) {Inv : Store (Watched library σ) → Prop}
    (hnow : ∀ s, Inv s → ∃ hand, Tally hand s)
    (hevolve : ∀ s t, Inv s → Evolves still s t → Inv t) : CalmKeeps host Inv where
  calm s t hcalm hs := hevolve s t hs (hcalm.evolves still)
  host := .through h fun s hs => ⟨s, ⟨hnow s hs, .refl still s⟩,
    fun t ht => hevolve s t hs ht.evolves⟩

theorem Host.Serves.tallied (h : host.Serves still) (s : Store (Watched library σ)) :
    CalmKeeps host (Tallied still s) :=
  h.calmKeeps (fun _ ht => ht.now) fun _ _ ht => ht.trans

/-- An operation takes every account to one that was kept. -/
def Act.Evolves {α : Type} (still : List Thread) (x : Act (Watched library σ) α) : Prop :=
  ∀ s hand, Tally hand s → Act.wp True x (fun _ t => ContextualLifecycle.Evolves still s t) s

theorem Act.evolves_of_keeps {α : Type} {x : Act (Watched library σ) α}
    (h : ∀ s, Act.Keeps True (Tallied still s) x) : Act.Evolves still x := by
  intro s hand hs
  exact (h s s ⟨⟨hand, hs⟩, .refl still s⟩).mono fun _ t ht => ht.evolves

theorem Act.Evolves.mono {α : Type} {x : Act (Watched library σ) α} {still' : List Thread}
    (h : Act.Evolves still x) (hsub : ∀ x ∈ still', x ∈ still) : Act.Evolves still' x :=
  fun s hand hs => (h s hand hs).mono fun _ _ ht => ht.mono hsub

/-- The account has been kept, and the contexts that are being restored belong to no conversation
yet. -/
structure Restoring (still : List Thread) (s : Store (Watched library σ))
    (restoring : List ScopeContext) (t : Store (Watched library σ)) : Prop extends
    Tallied still s t where
  nodup : restoring.Nodup
  apart : ∀ c ∈ restoring, s.nextContext ≤ c.number ∧ Conversation.Unlisted ⟨c⟩ t

namespace Restoring

variable {restoring : List ScopeContext} {c : ScopeContext}

theorem evolve (h : Restoring still s restoring t) (h' : Evolves still t u) :
    Restoring still s restoring u where
  toTallied := h.toTallied.trans h'
  nodup := h.nodup
  apart c hc := ⟨(h.apart c hc).1, h'.unlisted _ (h.apart c hc).2⟩

theorem begin (h : Restoring still s restoring t) (kind : ScopeKind) :
    Restoring still s ((ScopeContext.new kind t).1 :: restoring) (ScopeContext.new kind t).2 := by
  obtain ⟨hand, hnow⟩ := h.now
  have hnew := h.evolve ((calm_new kind t).evolves still)
  refine { hnew with nodup := ?_, apart := ?_ }
  · refine List.nodup_cons.2 ⟨fun hin => ?_, h.nodup⟩
    exact Nat.lt_irrefl _ (h.apart _ hin).2.issued
  · intro c hc
    rcases List.mem_cons.1 hc with rfl | hc
    · exact ⟨h.evolves.next, hnow.unlisted_new kind⟩
    · exact hnew.apart c hc

theorem done (h : Restoring still s (c :: restoring) t) : Restoring still s restoring t where
  toTallied := h.toTallied
  nodup := (List.nodup_cons.1 h.nodup).2
  apart x hx := h.apart x (List.mem_cons_of_mem _ hx)

theorem evolves_converse (h : Conversation.Unlisted ⟨c⟩ t) (id : String) (timeout : Duration) :
    Evolves still t (c.converse id timeout t) := by
  have hactive := calm_setActive c true t
  have haround := calm_around ((hactive.evolves still).unlisted _ h) id timeout
  have hpromoted := calm_conversation
    (s := (Conversation.around c id timeout (c.setActive true t)).2) ⟨c⟩
    (f := fun r => { r with transient := false }) rfl
  exact ((hactive.trans haround).trans hpromoted).evolves still

theorem converse (h : Restoring still s (c :: restoring) t) (id : String) (timeout : Duration) :
    Restoring still s (c :: restoring) (c.converse id timeout t) :=
  h.evolve (evolves_converse (h.apart c List.mem_cons_self).2 id timeout)

theorem list (h : Restoring still s (c :: restoring) t) (session : ScopeContext) (id : String) :
    Restoring still s restoring (session.putConversation id ⟨c⟩ t) := by
  obtain ⟨hnew, hunlisted⟩ := h.apart c List.mem_cons_self
  obtain ⟨hnotin, hnodup⟩ := List.nodup_cons.1 h.nodup
  refine ⟨⟨h.sound, h.evolves.listing hnew hunlisted.issued session id⟩, hnodup, ?_⟩
  intro x hx
  obtain ⟨hnew, hunlisted⟩ := h.apart x (List.mem_cons_of_mem _ hx)
  refine ⟨hnew, hunlisted.listing ?_ session id⟩
  rintro ⟨⟩
  exact hnotin hx

theorem revives (h : host.Serves still) (s : Store (Watched library σ)) :
    host.Revives fun restoring _ => Restoring still s restoring where
  handles _ := (h.calmKeeps (fun _ ht => ht.now) fun _ _ ht => ht.evolve).sustains.toHandles
  begun _ _ kind _ ht := ht.begin kind
  done _ _ _ _ ht := ht.done
  converse _ _ _ id timeout _ ht := (ht.converse id timeout).done
  listed _ _ _ id timeout session _ ht _ := (ht.converse id timeout).list session id

end Restoring

theorem restoreContext_evolves (h : host.Serves still) (m : Container)
    (snapshot : ContextSnapshot) : Act.Evolves still (m.restoreContext host snapshot) := by
  intro s hand hs
  apply (((Restoring.revives h s).rebuilds []).restoreContext_keeps m snapshot [] s
    ⟨⟨⟨hand, hs⟩, .refl still s⟩, .nil, fun _ hc => by cases hc⟩).mono
  exact fun _ t ht => ht.evolves

theorem evolves_swap_release {x : Thread} {v : Conversation} {session : ScopeContext}
    {slot : ConversationSlot} (hx : x ∉ still) (hv : m.conversationSlot x s = .active v session)
    (hslot : ∀ w session, slot ≠ .active w session) :
    Evolves still s (v.release (m.swapConversation x slot s).2) where
  tally _ hs := (hs.taken hv hslot).released
  unlisted w hw := by
    refine ⟨hw.issued, ?_, hw.absent⟩
    rw [busy_release]
    split
    · rfl
    · exact hw.free
  slots y hy m' := by
    change m'.conversationSlot y (m.swapConversation x slot s).2 = _
    rw [conversationSlot_swap, if_neg]
    intro heq
    cases heq
    exact hx hy
  next := Nat.le_refl _

theorem evolves_of_slot {x : Thread} (hx : x ∉ still)
    (hv : ∀ w session, m.conversationSlot x s ≠ .active w session)
    (hv' : ∀ w session, m.conversationSlot x t ≠ .active w session)
    (hother : ∀ (m' : Container) x', (m', x') ≠ (m, x) →
      m'.conversationSlot x' t = m'.conversationSlot x' s)
    (hconversations : t.conversations = s.conversations) (hcontexts : t.contexts = s.contexts)
    (hnext : t.nextContext = s.nextContext) (hseen : t.seen = s.seen) : Evolves still s t := by
  have hconversation := Store.conversation_congr hconversations
  have hlisted := ScopeContext.conversation?_congr hcontexts
  have hholds : ∀ (desk : Desk) w, desk.Holds w t ↔ desk.Holds w s := by
    intro desk w
    by_cases hne : desk = (m, x)
    · rw [hne]
      exact iff_of_false (not_holds_of_slot hv') (not_holds_of_slot hv)
    · rw [Desk.Holds, Container.currentConversation, hother desk.1 desk.2 hne]
      rfl
  refine ⟨?_, ?_, ?_, Nat.le_of_eq hnext.symm⟩
  · intro hand hs
    refine ⟨?_, ?_, ?_, hs.nodup, ?_, ?_, hseen ▸ hs.watched⟩
    · intro w
      simp only [hconversation, hholds]
      exact hs.busy_iff w
    · intro desk desk' w
      rw [hholds, hholds]
      exact hs.alone desk desk' w
    · intro w hw desk
      rw [hholds]
      exact hs.free w hw desk
    · intro w
      rw [hconversation, hnext]
      exact hs.issued w
    · intro c id w
      rw [hlisted, hnext]
      exact hs.listed c id w
  · intro w hw
    refine ⟨hnext ▸ hw.issued, (congrArg (·.busy) (hconversation w)).trans hw.free, ?_⟩
    intro c id
    rw [hlisted]
    exact hw.absent c id
  · intro y hy m'
    apply hother
    intro heq
    cases heq
    exact hx hy

theorem evolves_swap {x : Thread} {slot : ConversationSlot} (hx : x ∉ still)
    (hv : ∀ w session, m.conversationSlot x s ≠ .active w session)
    (hslot : ∀ w session, slot ≠ .active w session) :
    Evolves still s (m.swapConversation x slot s).2 := by
  refine evolves_of_slot (m := m) hx hv ?_ ?_ rfl rfl rfl rfl
  · rw [conversationSlot_swap, if_pos rfl]
    exact hslot
  · intro m' x' hne
    rw [conversationSlot_swap, if_neg hne]

theorem evolves_forget {x : Thread} (hx : x ∉ still)
    (hv : ∀ w session, m.conversationSlot x s ≠ .active w session) :
    Evolves still s (m.forgetScopes x s) := by
  have hslot : ∀ (m' : Container) x', m'.conversationSlot x' (m.forgetScopes x s) =
      if (m', x') = (m, x) then .notStarted else m'.conversationSlot x' s := by
    intro m' x'
    rw [Container.conversationSlot, Container.threadScopes_forget]
    split <;> rfl
  refine evolves_of_slot (m := m) hx hv ?_ ?_ rfl rfl rfl rfl
  · rw [hslot, if_pos rfl]
    exact fun _ _ heq => by cases heq
  · intro m' x' hne
    rw [hslot, if_neg hne]

section Serve

variable {hand : List Conversation} (h : host.Serves (host.thread :: still))
  (hfree : host.thread ∉ still)

include h

theorem evolves_of_sustains {α : Type} {x : Act (Watched library σ) α}
    (hx : ∀ Inv, host.Sustains (fun _ => Inv) → Act.Keeps True Inv x) : Act.Evolves still x :=
  (Act.evolves_of_keeps fun s => hx _ (h.tallied s).sustains).mono fun _ => List.mem_cons_of_mem _

theorem beginTransient_grants (session : ScopeContext) (hs : Tally hand s) :
    Run.wp True (m.beginTransient host session)
      (fun v t => Grants (host.thread :: still) v s t) s := by
  apply Container.wp_beginTransient
  obtain ⟨hadded, hidle, hissued, hlisted⟩ := addTransient_evolves (host.thread :: still) hs
    session toString (s.container m).nextConversation (s.container m).config.conversationTimeout
  obtain ⟨⟨⟨v, next⟩, added⟩, hadd⟩ : ∃ o, session.addTransient toString
      (s.container m).nextConversation (s.container m).config.conversationTimeout s = o := ⟨_, rfl⟩
  simp only [Container.beginning]
  rw [hadd] at hadded hidle hissued hlisted ⊢
  let numbered := m.update (fun r => { r with nextConversation := next }) added
  have hcalm : added.Calm numbered := calm_container m _ added
  obtain ⟨_, hacquired⟩ := grants_acquired (s := numbered) (host.thread :: still) hidle hissued
    fun hunlisted => hlisted ⟨hunlisted.issued, hunlisted.free, hunlisted.absent⟩
  have hgrants := (hadded.trans (hcalm.evolves _)).grants hacquired
  let held := (v.tryAcquire numbered).2
  have hheld : Tallied (host.thread :: still) held held :=
    ⟨⟨_, hgrants.tally hand hs⟩, .refl _ held⟩
  apply (((h.tallied held).sustains.cycles []).announce m .initialized .conversation v.context held
    hheld).mono
  exact fun _ t ht => hgrants.evolves ht.evolves

theorem chooseConversation_grants (session : ScopeContext) (propagatedId : Option String)
    (hs : Tally hand s) :
    Run.wp True (m.chooseConversation host session propagatedId)
      (fun o t => Grants (host.thread :: still) o.1 s t) s := by
  apply Container.wp_chooseConversation_of (beginTransient_grants h session hs)
  intro id v _ hlisted _ hidle
  exact (grants_acquired (host.thread :: still) hidle (hs.listed session id v hlisted)
    fun hunlisted => hunlisted.absent session id hlisted).2

include hfree

theorem conversationContext_evolves : Act.Evolves still (m.conversationContext host) := by
  intro s hand hs
  apply Container.wp_conversationContext
  · exact fun _ => .refl still s
  · exact fun _ => (calm_note _ s).evolves still
  · intro propagatedId session hpending _
    apply (chooseConversation_grants h session propagatedId hs).mono
    intro choice t ht
    have hempty : ∀ v session, m.conversationSlot host.thread t ≠ .active v session := by
      rw [ht.slots host.thread List.mem_cons_self, hpending]
      exact fun _ _ heq => by cases heq
    have hput : Evolves still s
        (m.swapConversation host.thread (.active choice.1 session) t).2 := by
      refine ⟨fun hand hs => (ht.tally hand hs).put hempty session, ?_, ?_, ht.next⟩
      · exact fun w hw => ⟨(ht.unlisted w hw).issued, (ht.unlisted w hw).free,
          (ht.unlisted w hw).absent⟩
      · intro y hy m'
        rw [conversationSlot_swap, if_neg]
        · exact ht.slots y (List.mem_cons_of_mem _ hy) m'
        · intro heq
          cases heq
          exact hfree hy
    exact ⟨hput, fun _ => hput.trans ((calm_note _ _).evolves still)⟩

/-- A slot gets rid of its conversation, which is let go of and perhaps torn down. -/
theorem finishSlot_evolves (slot : ConversationSlot) (hs : Tally hand s)
    (hslot : ∀ w session, slot ≠ .active w session) :
    Act.wp True (m.finishSlot host (m.conversationSlot host.thread s))
      (fun _ t => Evolves still s t ∧ m.conversationSlot host.thread t = slot)
      (m.swapConversation host.thread slot s).2 := by
  have hself : m.conversationSlot host.thread (m.swapConversation host.thread slot s).2 = slot := by
    rw [conversationSlot_swap, if_pos rfl]
  apply Container.wp_finishSlot
  · intro v session hv
    let left := v.release (m.swapConversation host.thread slot s).2
    have hleft : Evolves still s left := evolves_swap_release hfree hv hslot
    have hkept : Tallied (host.thread :: still) left left :=
      ⟨⟨hand, hleft.tally hand hs⟩, .refl _ left⟩
    have hscopes := (h.tallied left).sustains
    have hafter : ∀ t, Tallied (host.thread :: still) left t →
        Evolves still s t ∧ m.conversationSlot host.thread t = slot := by
      intro t ht
      refine ⟨hleft.trans (ht.evolves.mono fun _ => List.mem_cons_of_mem _), ?_⟩
      rw [ht.evolves.slots host.thread List.mem_cons_self]
      exact hself
    apply Container.wp_finishConversation
    · exact fun _ => hafter left hkept
    · intro _
      have hremoved := hscopes.removed [] session
        ((m.swapConversation host.thread slot s).2.conversation v).id left hkept
      apply Container.wp_endConversation
      · exact fun _ => hafter _ hremoved
      · intro _
        apply ((hscopes.cycles []).closes.teardownConversation trivial _ hremoved).mono
        exact fun _ t ht => hafter t ht
  · exact fun hv => ⟨evolves_swap hfree hv hslot, hself⟩

theorem stop_evolves (kind : ScopeKind) (hs : Tally hand s) :
    Act.wp True (m.stop host kind) (fun _ t => Evolves still s t ∧
      m.conversationSlot host.thread t =
        if kind = .conversation then .notStarted else m.conversationSlot host.thread s) s := by
  have hkept : Tallied (host.thread :: still) s s := ⟨⟨hand, hs⟩, .refl _ s⟩
  have hscopes := (h.tallied s).sustains
  have hafter : ∀ t, Tallied (host.thread :: still) s t → Evolves still s t ∧
      m.conversationSlot host.thread t = m.conversationSlot host.thread s :=
    fun t ht => ⟨ht.evolves.mono fun _ => List.mem_cons_of_mem _,
      ht.evolves.slots host.thread List.mem_cons_self m⟩
  by_cases hkind : kind = .conversation
  · subst hkind
    rw [if_pos rfl, Container.wp_stop_conversation]
    exact finishSlot_evolves h hfree .notStarted hs fun _ _ heq => by cases heq
  · have hvacated : Tallied (host.thread :: still) s (m.vacate host.thread kind s) := by
      rw [Container.vacate]
      split
      · exact hscopes.shared [] m none s hkept
      · exact hscopes.vacated [] m host.thread kind s hkept
    rw [if_neg hkind]
    apply Container.wp_stop hkind
    · intro c _
      apply ((hscopes.cycles []).closes.teardown kind trivial _ hvacated).mono
      exact fun _ t ht => hafter t ht
    · exact fun _ => hafter _ hvacated

theorem start_evolves (kind : ScopeKind) (params : ScopeParams) :
    Act.Evolves still (m.start host kind params) := by
  intro s hand hs
  apply Container.wp_start
  · exact fun _ =>
      evolves_of_sustains h (fun _ hscopes => (hscopes.cycles []).startApplication) s hand hs
  · intro _
    rw [Container.wp_startConversation]
    exact (finishSlot_evolves h hfree (.pending params.conversationId) hs
      fun _ _ heq => by cases heq).mono fun _ _ ht => ht.1
  · exact fun _ _ => evolves_of_sustains h
      (fun _ hscopes => (hscopes.cycles []).startSlot kind params.session) s hand hs

theorem current_evolves (kind : ScopeKind) : Act.Evolves still (m.current host kind) := by
  intro s hand hs
  cases kind with
  | conversation => exact conversationContext_evolves h hfree s hand hs
  | _ => exact .refl still s

theorem detach_evolves (kind : ScopeKind) :
    Act.Evolves still (modifyGet (m.detach host.thread kind) : Act (Watched library σ) _) := by
  intro s hand hs
  rw [Act.wp_modifyGet]
  apply Container.detach_cases
  · exact fun _ => .refl still s
  · exact fun v session _ hv => evolves_swap_release hfree hv fun _ _ heq => by cases heq
  · exact fun _ hv => evolves_swap hfree hv fun _ _ heq => by cases heq
  · intro _ _
    have hvacated := (h.tallied s).sustains.vacated [] m host.thread kind s ⟨⟨hand, hs⟩, .refl _ s⟩
    exact hvacated.evolves.mono fun _ => List.mem_cons_of_mem _

theorem shutdown_evolves : Act.Evolves still (m.shutdown host) := by
  intro s hand hs
  let Idle : Store (Watched library σ) → Prop := fun t => Tallied still s t ∧
    ∀ w session, m.conversationSlot host.thread t ≠ .active w session
  have hstop : ∀ kind, Act.Keeps True (Tallied still s) (m.stop host kind) := by
    intro kind t ht
    obtain ⟨hand, hnow⟩ := ht.now
    exact (stop_evolves h hfree kind hnow).mono fun _ u hu => ht.trans hu.1
  have hidle : ∀ kind, Act.Keeps True Idle (m.stop host kind) := by
    rintro kind t ⟨ht, hempty⟩
    obtain ⟨hand, hnow⟩ := ht.now
    apply (stop_evolves h hfree kind hnow).mono
    rintro _ u ⟨hu, hslot⟩
    refine ⟨ht.trans hu, ?_⟩
    rw [hslot]
    split
    · exact fun _ _ heq => by cases heq
    · exact hempty
  have hconversation : ∀ t, Tallied still s t →
      Act.wp True (m.stop host .conversation) (fun _ u => Idle u) t := by
    intro t ht
    obtain ⟨hand, hnow⟩ := ht.now
    apply (stop_evolves h hfree .conversation hnow).mono
    rintro _ u ⟨hu, hslot⟩
    refine ⟨ht.trans hu, ?_⟩
    rw [hslot, if_pos rfl]
    exact fun _ _ heq => by cases heq
  apply Container.wp_shutdown
  apply (Run.collectFailures_reaches hstop hidle hconversation
    (ScopeKind.mem_teardownOrder .conversation) ⟨⟨hand, hs⟩, .refl still s⟩).mono
  exact fun _ t ht => ht.1.evolves.trans (evolves_forget hfree ht.2)

theorem restoreSession_evolves (snapshot : ContextSnapshot) :
    Act.Evolves still (m.restoreSession host snapshot) := by
  intro s hand hs
  have hrest : Act.wp True (do
      let session ← m.restoreContext host snapshot
      m.start host .session { session := some session }
      return session) (fun _ t => Evolves still s t) s := by
    rw [Act.wp_bind]
    apply ((restoreContext_evolves h m snapshot).mono (fun _ => List.mem_cons_of_mem _) s hand
      hs).mono
    intro r t ht
    cases r with
    | error error => exact ht
    | ok session =>
      simp only [Act.wp_bind, Act.wp_pure]
      apply (start_evolves h hfree .session { session := some session } t hand
        (ht.tally hand hs)).mono
      intro r u hu
      cases r <;> exact ht.trans hu
  simp only [Container.restoreSession]
  split
  · exact .refl still s
  · exact hrest

end Serve

/-- A call outside of the scopes leaves all slots alone, if its callbacks do. -/
theorem Call.perform_keeps (call : Call) (hcall : call.entersScopes = false)
    (h : host.Serves still) : Act.Evolves still (call.perform host) := by
  cases hquiet : call.isQuiet with
  | true =>
    exact Act.evolves_of_keeps fun s =>
      call.perform_quiet hquiet (h s).tends (h.tallied s).quiet
  | false =>
    cases call with
    | restoreContext m snapshot => exact restoreContext_evolves h m snapshot
    | setActive c active => exact fun s _ _ => (calm_setActive c active s).evolves still
    | destroyAll c =>
      exact Act.evolves_of_keeps fun s => ((h.tallied s).sustains.cycles []).destroyAll c
    | _ => simp only [isQuiet, hcall, Bool.not_false, Bool.true_eq_false] at hquiet

theorem Call.perform_entering (call : Call) (hcall : call.entersScopes = true)
    (h : host.Serves (host.thread :: still)) (hfree : host.thread ∉ still) :
    Act.Evolves still (call.perform host) := by
  cases call with
  | start m kind params => exact start_evolves h hfree kind params
  | current m kind => exact current_evolves h hfree kind
  | stop m kind =>
    exact fun s hand hs => (stop_evolves h hfree kind hs).mono fun _ _ ht => ht.1
  | detach m kind => exact detach_evolves h hfree kind
  | destroyExpired m =>
    exact evolves_of_sustains h fun _ hscopes => (hscopes.cycles []).destroyExpired
  | restoreSession m snapshot => exact restoreSession_evolves h hfree snapshot
  | shutdown m => exact shutdown_evolves h hfree
  | _ => cases hcall

end ContextualLifecycle
