import ContextualLifecycle.Proofs.Conversation.Untouched

namespace ContextualLifecycle.Conversation

variable {σ : Type} {v : Conversation} {g : Stage} {m : Container} {x : ScopeContext}
  {thread : Thread} {s : Store (Watched library σ)}

theorem Custody.deactivate (h : v.Custody g s) (hoff : g.off = true) (owed : Bool)
    (howed : owed = true → v.story s ≠ [] ∧ v.story s ≠ [.initialized, .destroyed]) :
    v.Custody { g with due := false, owed } (v.context.setActive false s) := by
  have hissued := h.issued (.inr (.inr hoff))
  have hinactive : ((v.context.setActive false s).context v.context).active = false := by
    rw [ScopeContext.context_setActive]
  have hkind : ((v.context.setActive false s).context v.context).kind =
      (s.context v.context).kind := by
    rw [ScopeContext.context_setActive]
  have hlisted : ∀ x, ¬ v.IsListed x (v.context.setActive false s) := by
    rintro x ⟨id, hid⟩
    rw [conversation?_setActive] at hid
    exact h.off hoff x ⟨id, hid⟩
  have hclaimed : ∀ x, v.IsClaimed { g with due := false, owed } x (v.context.setActive false s) →
      v.IsClaimed g x s := by
    rintro x (hx | hx | hx)
    · exact absurd hx (hlisted x)
    · exact .inr (.inl hx)
    · exact .inr (.inr hx)
  refine ⟨h.told, ?_, ?_, fun _ => hissued, ?_, ?_, ?_, ?_, h.alone, h.busy, h.free,
    fun _ => hlisted, fun hdue => (by cases hdue), fun _ => hinactive, fun hs => ⟨hinactive, ?_⟩⟩
  · rintro (⟨x, hx⟩ | hbegun | hdue | howes)
    · exact h.begun (.inl ⟨x, hclaimed x hx⟩)
    · exact h.begun (.inr (.inl hbegun))
    · cases hdue
    · exact (howed howes).1
  · rw [hkind]
    exact h.kind
  · rintro m thread kind _ hm rfl
    rw [hkind]
    exact h.attached m thread kind _ hm rfl
  · exact fun x x' hx hx' => h.home x x' (hclaimed x hx) (hclaimed x' hx')
  · intro x id hid
    exact absurd ⟨id, hid⟩ (hlisted x)
  · exact fun x hx => absurd hx (hlisted x)
  · exact Bool.eq_false_iff.2 fun howes => (howed howes).2 hs

theorem Custody.conclude (h : v.Custody g s) (hoff : g.off = true) (howed : g.owed = true)
    (m : Container) : v.Custody { g with owed := false }
      (s.note (.notified .destroyed m .conversation v.context)) := by
  let event : Event := .notified .destroyed m .conversation v.context
  have hnotice : event.notice?.bind v.heard? = some .destroyed := by
    simp only [event, Event.notice?, Option.bind_some, heard?, ↓reduceIte]
  have hstory : v.story (s.note event) = v.story s ++ [.destroyed] := by
    rw [story_note, hnotice, Option.toList_some]
  have hbefore : v.story s = [.initialized] := by
    have hbegun := h.begun (.inr (.inr (.inr howed)))
    have hnotended : v.story s ≠ [.initialized, .destroyed] := by
      intro hended
      exact Bool.false_ne_true ((h.ended hended).2.symm.trans howed)
    obtain hstories := h.told
    rw [List.prefix_cons_iff] at hstories
    obtain hnil | ⟨rest, hrest, hprefix⟩ := hstories
    · exact absurd hnil hbegun
    rw [List.prefix_cons_iff] at hprefix
    obtain rfl | ⟨rest', rfl, hprefix⟩ := hprefix
    · exact hrest
    · rw [List.prefix_nil.1 hprefix] at hrest
      exact absurd hrest hnotended
  rw [hbefore] at hstory
  have hne : v.story (s.note event) ≠ [] := by
    rw [hstory]
    exact List.cons_ne_nil _ _
  have hinactive := h.owed howed
  exact {
    told := by rw [hstory]; exact List.prefix_refl _
    begun := fun _ => hne
    kind := fun _ => h.kind (by rw [hbefore]; exact List.cons_ne_nil _ _)
    issued := fun _ => h.issued (.inr (.inr hoff))
    attached := h.attached
    home := h.home
    name := h.name
    listed := h.listed
    alone := h.alone
    busy := h.busy
    free := h.free
    off := h.off
    due := h.due
    owed := fun howes => by cases howes
    ended := fun _ => ⟨hinactive, rfl⟩ }

theorem slot_swap (m : Container) (thread : Thread) (slot : ConversationSlot) (desk : Desk)
    (s : Store (Watched library σ)) :
    desk.1.conversationSlot desk.2 (m.swapConversation thread slot s).2 =
      if desk = (m, thread) then slot else desk.1.conversationSlot desk.2 s :=
  conversationSlot_swap m desk.1 thread desk.2 slot s

theorem slot_swapConversation (m m' : Container) (thread thread' : Thread)
    (slot : ConversationSlot) (kind : ScopeKind) (s : Store (Watched library σ)) :
    m'.slot thread' kind (m.swapConversation thread slot s).2 = m'.slot thread' kind s := by
  rw [Container.slot, Container.swapConversation, Container.threadScopes_update]
  split
  · rename_i heq
    cases heq
    rfl
  · rfl

theorem Custody.acquire (h : v.Custody g s) (hlisted : v.IsListed x s)
    (hbusy : (s.conversation v).busy = false) :
    g.hand = none ∧ v.Custody { g with hand := some x } (v.tryAcquire s).2 := by
  have hnone : (¬ ∃ x, v.IsHeld x s) ∧ g.hand = none := by
    have hfree := mt h.busy (Bool.eq_false_iff.1 hbusy)
    rw [not_or, Option.not_isSome_iff_eq_none] at hfree
    exact hfree
  have hacquired : (v.tryAcquire s).2 =
      v.touch (v.update (fun r => { r with busy := true }) s) := by
    rw [tryAcquire, if_neg (Bool.eq_false_iff.1 hbusy)]
  have hclaimed : ∀ y, v.IsClaimed { g with hand := some x } y s → v.IsClaimed g y s := by
    rintro y (hy | hy | hy)
    · exact .inl hy
    · exact .inr (.inl hy)
    · obtain rfl := Option.some.inj hy
      exact .inl hlisted
  refine ⟨hnone.2, ?_⟩
  rw [hacquired]
  exact {
    told := h.told
    begun := fun hs => h.begun (hs.imp_left (Exists.imp hclaimed))
    kind := h.kind
    issued := h.issued
    attached := h.attached
    home := fun y y' hy hy' => h.home y y' (hclaimed y hy) (hclaimed y' hy')
    name := by
      intro y id hid
      rw [touch, conversation_update, if_pos rfl, conversation_update, if_pos rfl]
      exact h.name y id hid
    listed := h.listed
    alone := h.alone
    busy := by
      intro _
      rw [touch, conversation_update, if_pos rfl, conversation_update, if_pos rfl]
    free := fun _ y hy => hnone.1 ⟨y, hy⟩
    off := h.off
    due := fun hdue => absurd (.inl hlisted) ((h.due hdue).2 x)
    owed := h.owed
    ended := h.ended }

/-- What was in hand goes into a slot. -/
theorem Custody.put (h : v.Custody { g with hand := some x } s) (hhand : g.hand = none)
    (m : Container) (thread : Thread) :
    v.Custody g (m.swapConversation thread (.active v x) s).2 := by
  let next := (m.swapConversation thread (.active v x) s).2
  have hslots : ∀ (desk : Desk) y, desk.1.conversationSlot desk.2 next = .active v y →
      desk = (m, thread) ∧ y = x := by
    intro desk y hy
    rw [slot_swap] at hy
    split at hy
    · cases hy
      exact ⟨‹_›, rfl⟩
    · exact absurd ⟨desk, hy⟩ (h.free rfl y)
  have hheld : ∀ y, v.IsHeld y next → y = x := by
    rintro y ⟨desk, hy⟩
    exact (hslots desk y hy).2
  have hclaimed : ∀ y, v.IsClaimed g y next → v.IsClaimed { g with hand := some x } y s := by
    rintro y (hy | hy | hy)
    · exact .inl hy
    · exact .inr (.inr (by rw [hheld y hy]))
    · rw [hhand] at hy
      cases hy
  have hattached : ∀ (m' : Container) thread' kind y, m'.attached thread' kind next = some y →
      m'.attached thread' kind s = some y := by
    intro m' thread' kind y hm
    refine Container.attached_imp hm (fun happlication => happlication) fun hslot => ?_
    rwa [slot_swapConversation] at hslot
  exact {
    told := h.told
    begun := fun hs => h.begun (hs.imp_left (Exists.imp hclaimed))
    kind := h.kind
    issued := h.issued
    attached := fun m' thread' kind y hm =>
      h.attached m' thread' kind y (hattached m' thread' kind y hm)
    home := fun y y' hy hy' => h.home y y' (hclaimed y hy) (hclaimed y' hy')
    name := h.name
    listed := h.listed
    alone := fun desk desk' y y' hd hd' => (hslots desk y hd).1.trans (hslots desk' y' hd').1.symm
    busy := fun _ => h.busy (.inr rfl)
    free := fun hs => absurd hs (by rw [hhand]; exact Bool.false_ne_true)
    off := h.off
    due := fun hdue => absurd (.inr (.inr rfl)) ((h.due hdue).2 x)
    owed := h.owed
    ended := h.ended }

theorem Custody.giveUp (h : v.Custody g s) (hheld : m.conversationSlot thread s = .active v x)
    {slot : ConversationSlot} (hslot : ∀ y, slot ≠ .active v y) :
    v.Custody g (v.release (m.swapConversation thread slot s).2) := by
  let next := (m.swapConversation thread slot s).2
  have hnext : v.Custody g next := h.untouched (.swapConversation m thread hslot s)
  have hfree : ∀ y, ¬ v.IsHeld y next := by
    rintro y ⟨desk, hy⟩
    rw [slot_swap] at hy
    split at hy
    · exact hslot y hy
    · rename_i hne
      exact hne (h.alone desk (m, thread) y x hy hheld)
  have hhand : g.hand.isSome = false := by
    rw [Bool.eq_false_iff]
    exact fun hsome => h.free hsome x ⟨(m, thread), hheld⟩
  exact { hnext with
    name := by
      intro y id hid
      rw [release, conversation_update, if_pos rfl, touch, conversation_update, if_pos rfl]
      exact hnext.name y id hid
    busy := by
      rintro (⟨y, hy⟩ | hsome)
      · exact absurd hy (hfree y)
      · rw [hhand] at hsome
        cases hsome }

theorem isForeign_newActive {kind : ScopeKind} (hkind : kind ≠ .conversation) :
    v.IsForeign (ScopeContext.newActive kind s).1 (ScopeContext.newActive kind s).2 := by
  intro heq
  rw [← heq, ScopeContext.context_newActive]
  exact ⟨Nat.lt_succ_self _, hkind⟩

theorem Custody.newActive (h : v.Custody g s) (kind : ScopeKind) :
    v.Custody g (ScopeContext.newActive kind s).2 := by
  let c : ScopeContext := ⟨s.nextContext⟩
  let made := (ScopeContext.new kind s).2
  have hmade : v.Custody g made := h.untouched (.of_quiet (.newContext kind s))
  by_cases hc : c = v.context
  · obtain ⟨hstory, _, hclaimed, hoff, hbegun, hdue, howed⟩ :=
      h.absent (Nat.le_of_eq (congrArg (·.number) hc))
    have hissued : v.context.number < made.nextContext := by
      rw [← hc]
      exact Nat.lt_succ_self _
    have hkept : ∀ x, v.IsClaimed g x (c.setActive true made) → v.IsClaimed g x s := by
      rintro x (⟨id, hx⟩ | hx)
      · rw [conversation?_setActive] at hx
        exact .inl ⟨id, (Store.Quiet.newContext kind s).listed x id v hx⟩
      · exact .inr hx
    have hnone : ∀ x, ¬ v.IsClaimed g x (c.setActive true made) :=
      fun x hx => hclaimed x (hkept x hx)
    have hunattached : ∀ (m : Container) thread kind y, m.attached thread kind s = some y →
        y ≠ v.context := by
      rintro m thread kind y hm rfl
      have hnumber := (h.attached m thread kind _ hm rfl).1
      rw [← hc] at hnumber
      exact Nat.lt_irrefl _ hnumber
    exact {
      told := h.told
      begun := by
        rintro (⟨x, hx⟩ | hg)
        · exact absurd hx (hnone x)
        · exact h.begun (.inr hg)
      kind := fun hs => absurd hstory hs
      issued := fun _ => hissued
      attached := fun m thread kind y hm heq => absurd heq (hunattached m thread kind y hm)
      home := fun x x' hx => absurd hx (hnone x)
      name := by
        intro x id hid
        exact absurd (.inl ⟨id, hid⟩) (hnone x)
      listed := fun x hx => absurd (.inl hx) (hnone x)
      alone := h.alone
      busy := h.busy
      free := h.free
      off := fun hg => absurd hg (by rw [hoff]; exact Bool.false_ne_true)
      due := fun hg => absurd hg (by rw [hdue]; exact Bool.false_ne_true)
      owed := fun hg => absurd hg (by rw [howed]; exact Bool.false_ne_true)
      ended := by
        intro hs
        cases hstory.symm.trans hs }
  · exact hmade.untouched (.setActive hc true made)

/-- A conversation around a new context is listed and taken in hand, and observers begin to hear of
it. -/
theorem Custody.start (h : v.Custody g s) (hstory : v.story s = []) (hoff : g.off = false)
    (hkind : (s.context v.context).kind = .conversation)
    (hactive : (s.context v.context).active = true) (m : Container) (name : String)
    (timeout : Duration) (next : Nat) :
    let made := x.putConversation name v (around v.context name timeout s).2
    let numbered := m.update (fun r => { r with nextConversation := next }) made
    v.Custody { g with hand := some x }
      ((v.tryAcquire numbered).2.note (.notified .initialized m .conversation v.context)) := by
  intro made numbered
  let event : Event := .notified .initialized m .conversation v.context
  have hidle := mt h.begun fun hne => hne hstory
  simp only [not_or, not_exists, Bool.not_eq_true] at hidle
  obtain ⟨hclaimed, hbegun, hdue, howed⟩ := hidle
  have hrecord : numbered.conversation v = { id := name, timeout, lastAccess := s.clock } := by
    change (Table.get? (Table.insert s.conversations v _) v).getD default = _
    rw [Table.get?_insert, if_pos rfl, Option.getD_some]
  have hacquired : (v.tryAcquire numbered).2 =
      v.touch (v.update (fun r => { r with busy := true }) numbered) := by
    rw [tryAcquire, hrecord]
    rfl
  rw [hacquired]
  let held := v.touch (v.update (fun r => { r with busy := true }) numbered)
  let told := held.note event
  have htold : v.story told = [.initialized] := by
    have hnotice : event.notice?.bind v.heard? = some .initialized := by
      simp only [event, Event.notice?, Option.bind_some, heard?, ↓reduceIte]
    have hsame : v.story held = v.story s := rfl
    rw [story_note, hnotice, Option.toList_some, hsame, hstory, List.nil_append]
  have hcontext := context_putConversation x v.context name v (around v.context name timeout s).2
  have hopen : (told.context v.context).kind = .conversation ∧
      (told.context v.context).active = true :=
    ⟨hcontext.1.trans hkind, hcontext.2.trans hactive⟩
  have hlisted : ∀ (y : ScopeContext) id, y.conversation? id told = some v → y = x ∧ id = name := by
    intro y id hid
    have hput : y.conversation? id made = some v := hid
    rw [conversation?_put] at hput
    split at hput
    · assumption
    · exact absurd (.inl ⟨id, hput⟩) (hclaimed y)
  have hheld : ∀ y, ¬ v.IsHeld y told := fun y hy => hclaimed y (.inr (.inl hy))
  have hhome : ∀ y, v.IsClaimed { g with hand := some x } y told → y = x := by
    rintro y (⟨id, hid⟩ | hy | hy)
    · exact (hlisted y id hid).1
    · exact absurd hy (hheld y)
    · exact (Option.some.inj hy).symm
  have hbusy : (told.conversation v).busy = true ∧ (told.conversation v).id = name := by
    change (held.conversation v).busy = true ∧ (held.conversation v).id = name
    simp only [held, touch, conversation_update, ↓reduceIte, hrecord, and_self]
  have hattached : ∀ (m' : Container) thread kind, m'.attached thread kind told = some v.context →
      m'.attached thread kind s = some v.context := by
    intro m' thread kind hm
    have hquiet := Store.Quiet.container m
      { made.container m with nextConversation := next } made fun _ hc => hc
    exact hquiet.attached hm
  have hne : v.story told ≠ [] := by
    rw [htold]
    exact List.cons_ne_nil _ _
  exact {
    told := by
      rw [htold]
      exact ⟨[.destroyed], rfl⟩
    begun := fun _ => hne
    kind := fun _ => hopen.1
    issued := fun _ => h.issued (.inr (.inl hactive))
    attached := by
      rintro m' thread kind y hm rfl
      exact absurd hkind (h.attached m' thread kind _ (hattached m' thread kind hm) rfl).2
    home := fun y y' hy hy' => (hhome y hy).trans (hhome y' hy').symm
    name := fun y id hid => hbusy.2.trans (hlisted y id hid).2.symm
    listed := fun _ _ => hopen.2
    alone := fun desk _ y _ hy => absurd ⟨desk, hy⟩ (hheld y)
    busy := fun _ => hbusy.1
    free := fun _ => hheld
    off := fun hg => absurd hg (by rw [hoff]; exact Bool.false_ne_true)
    due := fun hg => absurd hg (by rw [hdue]; exact Bool.false_ne_true)
    owed := fun hg => absurd hg (by rw [howed]; exact Bool.false_ne_true)
    ended := by
      intro hs
      cases htold.symm.trans hs }

end ContextualLifecycle.Conversation
