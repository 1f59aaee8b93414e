import ContextualLifecycle.Proofs.Container.Current
import ContextualLifecycle.Proofs.Library
import ContextualLifecycle.Proofs.ScopeContext.Cells

namespace ContextualLifecycle

variable {σ : Type}

/-- A slot for conversations is one of a container on a thread. -/
abbrev Desk := Container × Thread

def Desk.Holds (desk : Desk) (v : Conversation) (s : Store σ) : Prop :=
  desk.1.currentConversation desk.2 s = some v

/-- No conversation is held in two slots, and what is held is busy. -/
structure Store.Apart (s : Store σ) : Prop where
  busy : ∀ (desk : Desk) v, desk.Holds v s → (s.conversation v).busy = true
  alone : ∀ (desk desk' : Desk) v, desk.Holds v s → desk'.Holds v s → desk = desk'

/-- Conversations are busy that slots hold or that are in somebody's hands, each in one place. All
conversations are known, and no moment of the past was otherwise. -/
structure Tally (hand : List Conversation) (s : Store (Watched library σ)) : Prop where
  busy_iff : ∀ v, (s.conversation v).busy = true ↔ (∃ desk : Desk, desk.Holds v s) ∨ v ∈ hand
  alone : ∀ (desk desk' : Desk) v, desk.Holds v s → desk'.Holds v s → desk = desk'
  free : ∀ v ∈ hand, ∀ desk : Desk, ¬ desk.Holds v s
  nodup : hand.Nodup
  issued : ∀ v, (s.conversation v).busy = true → v.context.number < s.nextContext
  listed : ∀ (c : ScopeContext) id v, c.conversation? id s = some v →
    v.context.number < s.nextContext
  watched : ∀ u, .moment u ∈ s.seen → u.Apart

/-- A conversation that no session has yet, and nobody holds. -/
structure Conversation.Unlisted (v : Conversation) (s : Store σ) : Prop where
  issued : v.context.number < s.nextContext
  free : (s.conversation v).busy = false
  absent : ∀ (c : ScopeContext) id, c.conversation? id s ≠ some v

/-- The account of conversations was kept, while some threads kept off their slots. -/
structure Evolves (still : List Thread) (s t : Store (Watched library σ)) : Prop where
  tally : ∀ hand, Tally hand s → Tally hand t
  unlisted : ∀ v : Conversation, v.Unlisted s → v.Unlisted t
  slots : ∀ x ∈ still, ∀ m : Container, m.conversationSlot x t = m.conversationSlot x s
  next : s.nextContext ≤ t.nextContext

/-- No slot for conversations and no mark of a conversation is another one, and sessions have no new
conversations. -/
structure Store.Calm (s t : Store (Watched library σ)) : Prop where
  busy : ∀ v, (t.conversation v).busy = (s.conversation v).busy
  slots : ∀ (m : Container) x, m.conversationSlot x t = m.conversationSlot x s
  next : s.nextContext ≤ t.nextContext
  listed : ∀ (c : ScopeContext) id v, c.conversation? id t = some v →
    ∃ (c' : ScopeContext) (id' : String), c'.conversation? id' s = some v
  seen : t.seen = s.seen

section Account

variable {still : List Thread} {hand : List Conversation} {desk desk' : Desk}
  {v w : Conversation} {s t u : Store (Watched library σ)}

theorem Tally.apart (h : Tally hand s) : s.Apart where
  busy desk v hv := (h.busy_iff v).2 (.inl ⟨desk, hv⟩)
  alone := h.alone

theorem Evolves.refl (still : List Thread) (s : Store (Watched library σ)) :
    Evolves still s s := ⟨fun _ => id, fun _ => id, fun _ _ _ => rfl, Nat.le_refl _⟩

theorem Evolves.trans (h : Evolves still s t) (h' : Evolves still t u) : Evolves still s u where
  tally hand hs := h'.tally hand (h.tally hand hs)
  unlisted v hv := h'.unlisted v (h.unlisted v hv)
  slots x hx m := (h'.slots x hx m).trans (h.slots x hx m)
  next := Nat.le_trans h.next h'.next

theorem Evolves.mono {still' : List Thread} (h : Evolves still s t)
    (hsub : ∀ x ∈ still', x ∈ still) : Evolves still' s t :=
  ⟨h.tally, h.unlisted, fun x hx => h.slots x (hsub x hx), h.next⟩

theorem holds_of_slots (hslots : ∀ (m : Container) x,
    m.conversationSlot x t = m.conversationSlot x s) (desk : Desk) (v : Conversation) :
    desk.Holds v t ↔ desk.Holds v s := by
  rw [Desk.Holds, Container.currentConversation, hslots]
  rfl

theorem Store.Calm.evolves (h : s.Calm t) (still : List Thread) : Evolves still s t where
  tally hand hs := by
    have hholds := holds_of_slots h.slots
    refine ⟨?_, ?_, ?_, hs.nodup, ?_, ?_, ?_⟩
    · intro v
      simp only [h.busy, hholds]
      exact hs.busy_iff v
    · intro desk desk' v
      rw [hholds, hholds]
      exact hs.alone desk desk' v
    · intro v hv desk
      rw [hholds]
      exact hs.free v hv desk
    · intro v hv
      rw [h.busy] at hv
      exact Nat.lt_of_lt_of_le (hs.issued v hv) h.next
    · intro c id v hv
      obtain ⟨c', id', hv'⟩ := h.listed c id v hv
      exact Nat.lt_of_lt_of_le (hs.listed c' id' v hv') h.next
    · rw [h.seen]
      exact hs.watched
  unlisted v hv := by
    refine ⟨Nat.lt_of_lt_of_le hv.issued h.next, (h.busy v).trans hv.free, ?_⟩
    intro c id hid
    obtain ⟨c', id', hid'⟩ := h.listed c id v hid
    exact hv.absent c' id' hid'
  slots x _ m := h.slots m x
  next := h.next

theorem Store.Calm.trans (h : s.Calm t) (h' : t.Calm u) : s.Calm u where
  busy v := (h'.busy v).trans (h.busy v)
  slots m x := (h'.slots m x).trans (h.slots m x)
  next := Nat.le_trans h.next h'.next
  listed c id v hv := by
    obtain ⟨c', id', hv'⟩ := h'.listed c id v hv
    exact h.listed c' id' v hv'
  seen := h'.seen.trans h.seen

theorem calm_of_eq (hconversations : t.conversations = s.conversations)
    (hscopes : t.scopes = s.scopes) (hcontexts : t.contexts = s.contexts)
    (hnext : t.nextContext = s.nextContext) (hseen : t.seen = s.seen) : s.Calm t where
  busy v := congrArg (·.busy) (Store.conversation_congr hconversations v)
  slots := Container.conversationSlot_congr hscopes
  next := Nat.le_of_eq hnext.symm
  listed c id v hv := by
    rw [ScopeContext.conversation?_congr hcontexts] at hv
    exact ⟨c, id, hv⟩
  seen := hseen

theorem calm_note (event : Event) (s : Store (Watched library σ)) : s.Calm (s.note event) :=
  calm_of_eq rfl rfl rfl rfl rfl

theorem calm_container (m : Container) (f : Container.Record → Container.Record)
    (s : Store (Watched library σ)) : s.Calm (m.update f s) :=
  calm_of_eq rfl rfl rfl rfl rfl

theorem calm_context (c : ScopeContext) {f : ScopeContext.Record → ScopeContext.Record}
    (hf : ∀ r id v, (f r).conversations.get? id = some v → r.conversations.get? id = some v)
    (s : Store (Watched library σ)) : s.Calm (c.update f s) where
  busy _ := rfl
  slots _ _ := rfl
  next := Nat.le_refl _
  listed x id v hv := ⟨x, id, ScopeContext.conversation?_of_update (fun r id => hf r id v) hv⟩
  seen := rfl

theorem calm_setActive (c : ScopeContext) (active : Bool) (s : Store (Watched library σ)) :
    s.Calm (c.setActive active s) :=
  calm_context c (f := fun r => { r with active }) (fun _ _ _ hv => hv) s

theorem calm_new (kind : ScopeKind) (s : Store (Watched library σ)) :
    s.Calm (ScopeContext.new kind s).2 where
  busy _ := rfl
  slots _ _ := rfl
  next := Nat.le_succ _
  listed x id v hv := by
    change ((s.contexts.insert ⟨s.nextContext⟩ _).get? x |>.getD default).conversations.get? id = _
      at hv
    rw [Table.get?_insert] at hv
    split at hv
    · cases hv
    · exact ⟨x, id, hv⟩
  seen := rfl

theorem calm_conversation (v : Conversation) {f : Conversation.Record → Conversation.Record}
    (hf : (f (s.conversation v)).busy = (s.conversation v).busy) : s.Calm (v.update f s) where
  busy w := by
    rw [Conversation.update, Store.setConversation, Store.conversation, Table.get?_insert]
    split
    · rename_i hw
      rw [hw, Option.getD_some, hf]
    · rfl
  slots _ _ := rfl
  next := Nat.le_refl _
  listed c id w hw := ⟨c, id, hw⟩
  seen := rfl

theorem calm_scopes (m : Container) (x : Thread) {f : ThreadScopes → ThreadScopes}
    (hf : ∀ r, (f r).conversation = r.conversation) (s : Store (Watched library σ)) :
    s.Calm (m.updateScopes x f s) where
  busy _ := rfl
  slots m' x' := by
    rw [Container.conversationSlot, Container.threadScopes_update]
    split
    · rename_i heq
      cases heq
      exact hf _
    · rfl
  next := Nat.le_refl _
  listed c id v hv := ⟨c, id, hv⟩
  seen := rfl

theorem conversationSlot_swap (m m' : Container) (x x' : Thread) (slot : ConversationSlot)
    (s : Store σ) :
    m'.conversationSlot x' (m.swapConversation x slot s).2 =
      if (m', x') = (m, x) then slot else m'.conversationSlot x' s := by
  rw [Container.conversationSlot, Container.swapConversation, Container.threadScopes_update]
  split <;> rfl

theorem holds_swap (m : Container) (x : Thread) (slot : ConversationSlot)
    (s : Store (Watched library σ)) (hne : desk ≠ (m, x)) :
    desk.Holds v (m.swapConversation x slot s).2 ↔ desk.Holds v s := by
  rw [Desk.Holds, Container.currentConversation, conversationSlot_swap, if_neg hne]
  rfl

theorem holds_swap_self (m : Container) (x : Thread) (slot : ConversationSlot)
    (s : Store (Watched library σ)) :
    Desk.Holds (m, x) v (m.swapConversation x slot s).2 ↔ ∃ session, slot = .active v session := by
  rw [Desk.Holds, Container.currentConversation, conversationSlot_swap, if_pos rfl]
  cases slot <;> simp

theorem holds_of_slot {m : Container} {x : Thread} {session : ScopeContext}
    (h : m.conversationSlot x s = .active v session) : Desk.Holds (m, x) v s := by
  rw [Desk.Holds, Container.currentConversation, h]

theorem eq_of_holds {m : Container} {x : Thread} {session : ScopeContext}
    (h : m.conversationSlot x s = .active v session) (hw : Desk.Holds (m, x) w s) : w = v := by
  rw [Desk.Holds, Container.currentConversation, h] at hw
  exact (Option.some.inj hw).symm

theorem not_holds_of_slot {m : Container} {x : Thread}
    (h : ∀ v session, m.conversationSlot x s ≠ .active v session) :
    ¬ Desk.Holds (m, x) w s := by
  rw [Desk.Holds, Container.currentConversation]
  split
  · rename_i hslot
    exact absurd hslot (h _ _)
  · simp

/-- What leaves a slot is in somebody's hands. -/
theorem Tally.taken {m : Container} {x : Thread} {session : ScopeContext} {slot : ConversationSlot}
    (h : Tally hand s) (hv : m.conversationSlot x s = .active v session)
    (hslot : ∀ w session, slot ≠ .active w session) :
    Tally (v :: hand) (m.swapConversation x slot s).2 := by
  have hout : ∀ w, ¬ Desk.Holds (m, x) w (m.swapConversation x slot s).2 := by
    intro w
    rw [holds_swap_self]
    rintro ⟨session, heq⟩
    exact hslot w session heq
  have hold : ∀ (desk : Desk) w, desk.Holds w (m.swapConversation x slot s).2 →
      desk ≠ (m, x) ∧ desk.Holds w s := by
    intro desk w hw
    have hne : desk ≠ (m, x) := by
      rintro rfl
      exact hout w hw
    exact ⟨hne, (holds_swap m x slot s hne).1 hw⟩
  have hholds := holds_of_slot hv
  refine ⟨?_, ?_, ?_, ?_, h.issued, h.listed, h.watched⟩
  · intro w
    rw [List.mem_cons]
    refine (h.busy_iff w).trans ⟨?_, ?_⟩
    · rintro (⟨desk, hw⟩ | hw)
      · by_cases hne : desk = (m, x)
        · exact .inr (.inl (eq_of_holds hv (hne ▸ hw)))
        · exact .inl ⟨desk, (holds_swap m x slot s hne).2 hw⟩
      · exact .inr (.inr hw)
    · rintro (⟨desk, hw⟩ | rfl | hw)
      · exact .inl ⟨desk, (hold desk w hw).2⟩
      · exact .inl ⟨_, hholds⟩
      · exact .inr hw
  · intro desk desk' w hw hw'
    exact h.alone desk desk' w (hold desk w hw).2 (hold desk' w hw').2
  · intro w hw desk hdesk
    obtain ⟨hne, hdesk⟩ := hold desk w hdesk
    rcases List.mem_cons.1 hw with rfl | hw
    · exact hne (h.alone _ _ w hdesk hholds)
    · exact h.free w hw desk hdesk
  · exact List.nodup_cons.2 ⟨fun hin => h.free v hin _ hholds, h.nodup⟩

theorem Tally.put {m : Container} {x : Thread} (h : Tally (v :: hand) s)
    (hempty : ∀ v session, m.conversationSlot x s ≠ .active v session) (session : ScopeContext) :
    Tally hand (m.swapConversation x (.active v session) s).2 := by
  have hself : ∀ w, Desk.Holds (m, x) w (m.swapConversation x (.active v session) s).2 ↔ w = v := by
    intro w
    rw [holds_swap_self]
    exact ⟨fun ⟨_, heq⟩ => by cases heq; rfl, fun heq => ⟨session, by rw [heq]⟩⟩
  have hother : ∀ (desk : Desk) w, desk ≠ (m, x) →
      (desk.Holds w (m.swapConversation x (.active v session) s).2 ↔ desk.Holds w s) :=
    fun desk w hne => holds_swap m x _ s hne
  obtain ⟨hnotin, hnodup⟩ := List.nodup_cons.1 h.nodup
  refine ⟨?_, ?_, ?_, hnodup, h.issued, h.listed, h.watched⟩
  · intro w
    refine (h.busy_iff w).trans ⟨?_, ?_⟩
    · rintro (⟨desk, hw⟩ | hw)
      · have hne : desk ≠ (m, x) := by
          rintro rfl
          exact not_holds_of_slot hempty hw
        exact .inl ⟨desk, (hother desk w hne).2 hw⟩
      · rcases List.mem_cons.1 hw with rfl | hw
        · exact .inl ⟨(m, x), (hself w).2 rfl⟩
        · exact .inr hw
    · rintro (⟨desk, hw⟩ | hw)
      · by_cases hne : desk = (m, x)
        · rw [hne, hself] at hw
          exact .inr (hw ▸ List.mem_cons_self)
        · exact .inl ⟨desk, (hother desk w hne).1 hw⟩
      · exact .inr (List.mem_cons_of_mem v hw)
  · intro desk desk' w hw hw'
    by_cases hne : desk = (m, x)
    · by_cases hne' : desk' = (m, x)
      · rw [hne, hne']
      · rw [hne, hself] at hw
        rw [hother desk' w hne', hw] at hw'
        exact absurd hw' (h.free v List.mem_cons_self desk')
    · by_cases hne' : desk' = (m, x)
      · rw [hne', hself] at hw'
        rw [hother desk w hne, hw'] at hw
        exact absurd hw (h.free v List.mem_cons_self desk)
      · exact h.alone desk desk' w ((hother desk w hne).1 hw) ((hother desk' w hne').1 hw')
  · intro w hw desk hdesk
    by_cases hne : desk = (m, x)
    · rw [hne, hself] at hdesk
      exact hnotin (hdesk ▸ hw)
    · exact h.free w (List.mem_cons_of_mem v hw) desk ((hother desk w hne).1 hdesk)

theorem busy_update (v w : Conversation) (f : Conversation.Record → Conversation.Record)
    (s : Store (Watched library σ)) :
    ((v.update f s).conversation w).busy =
      if w = v then (f (s.conversation v)).busy else (s.conversation w).busy := by
  rw [Conversation.update, Store.setConversation, Store.conversation, Table.get?_insert]
  split <;> rfl

theorem busy_release (v w : Conversation) (s : Store (Watched library σ)) :
    ((v.release s).conversation w).busy = if w = v then false else (s.conversation w).busy := by
  rw [Conversation.release, busy_update]
  split
  · rfl
  · rename_i hne
    rw [Conversation.touch, busy_update, if_neg hne]

theorem Tally.released (h : Tally (v :: hand) s) : Tally hand (v.release s) := by
  obtain ⟨hnotin, hnodup⟩ := List.nodup_cons.1 h.nodup
  refine ⟨?_, h.alone, ?_, hnodup, ?_, h.listed, h.watched⟩
  · intro w
    rw [busy_release]
    split
    · rename_i hw
      subst hw
      refine ⟨fun hbusy => (by cases hbusy), ?_⟩
      rintro (⟨desk, hdesk⟩ | hin)
      · exact absurd hdesk (h.free w List.mem_cons_self desk)
      · exact absurd hin hnotin
    · rename_i hne
      rw [h.busy_iff w, List.mem_cons, or_iff_right hne]
      rfl
  · exact fun w hw => h.free w (List.mem_cons_of_mem v hw)
  · intro w hw
    rw [busy_release] at hw
    split at hw
    · cases hw
    · exact h.issued w hw

theorem Tally.acquired (h : Tally hand s) (hissued : v.context.number < s.nextContext)
    (hfree : (s.conversation v).busy = false) :
    (v.tryAcquire s).1 = true ∧ Tally (v :: hand) (v.tryAcquire s).2 := by
  have hbusy : ∀ w, ((v.tryAcquire s).2.conversation w).busy =
      if w = v then true else (s.conversation w).busy := by
    intro w
    rw [Conversation.tryAcquire, if_neg (by rw [hfree]; decide), Conversation.touch, busy_update]
    split
    · rw [busy_update, if_pos rfl]
    · rename_i hne
      rw [busy_update, if_neg hne]
  have hstore : (v.tryAcquire s).2 =
      v.touch (v.update (fun r => { r with busy := true }) s) := by
    rw [Conversation.tryAcquire, if_neg (by rw [hfree]; decide)]
  have hnone : ∀ desk : Desk, ¬ desk.Holds v s := by
    intro desk hdesk
    rw [h.apart.busy desk v hdesk] at hfree
    cases hfree
  have hnotin : v ∉ hand := by
    intro hin
    rw [(h.busy_iff v).2 (.inr hin)] at hfree
    cases hfree
  refine ⟨by rw [Conversation.tryAcquire, if_neg (by rw [hfree]; decide)], ?_⟩
  have hsame : ∀ (desk : Desk) w, desk.Holds w (v.tryAcquire s).2 ↔ desk.Holds w s := by
    intro desk w
    rw [hstore]
    rfl
  refine ⟨?_, ?_, ?_, List.nodup_cons.2 ⟨hnotin, h.nodup⟩, ?_, ?_, ?_⟩
  · intro w
    simp only [hbusy, hsame, List.mem_cons]
    split
    · rename_i hw
      simp [hw]
    · rename_i hne
      rw [h.busy_iff w, or_iff_right hne]
  · intro desk desk' w
    rw [hsame, hsame]
    exact h.alone desk desk' w
  · intro w hw desk
    rw [hsame]
    rcases List.mem_cons.1 hw with rfl | hw
    · exact hnone desk
    · exact h.free w hw desk
  · intro w hw
    rw [hstore]
    change _ < s.nextContext
    by_cases hwv : w = v
    · rw [hwv]
      exact hissued
    · rw [hbusy, if_neg hwv] at hw
      exact h.issued w hw
  · rw [hstore]
    exact h.listed
  · rw [hstore]
    exact h.watched

theorem conversation?_setActive (c x : ScopeContext) (active : Bool) (id : String)
    (s : Store σ) :
    x.conversation? id (c.setActive active s) = x.conversation? id s :=
  ScopeContext.conversation?_update_of_conversations (f := fun r => { r with active })
    (fun _ => rfl) c x id s

theorem context_putConversation (x c : ScopeContext) (id : String) (w : Conversation)
    (s : Store σ) : ((x.putConversation id w s).context c).kind = (s.context c).kind ∧
      ((x.putConversation id w s).context c).active = (s.context c).active := by
  by_cases hc : c = x
  · rw [hc, ScopeContext.putConversation, ScopeContext.context_update]
    exact ⟨rfl, rfl⟩
  · rw [ScopeContext.putConversation, ScopeContext.context_update_of_ne hc]
    exact ⟨rfl, rfl⟩

theorem conversation?_put (c x : ScopeContext) (id id' : String) (v : Conversation)
    (s : Store σ) :
    x.conversation? id' (c.putConversation id v s) =
      if x = c ∧ id' = id then some v else x.conversation? id' s := by
  rw [ScopeContext.putConversation, ScopeContext.conversation?_update]
  by_cases hx : x = c
  · rw [if_pos hx, Table.get?_insert, hx]
    simp only [true_and]
    rfl
  · rw [if_neg hx, if_neg fun h => hx h.1]

theorem Tally.listing (h : Tally hand s) (hv : v.context.number < s.nextContext) (c : ScopeContext)
    (id : String) : Tally hand (c.putConversation id v s) where
  busy_iff := h.busy_iff
  alone := h.alone
  free := h.free
  nodup := h.nodup
  issued := h.issued
  listed x id' w hw := by
    rw [conversation?_put] at hw
    split at hw
    · cases hw
      exact hv
    · exact h.listed x id' w hw
  watched := h.watched

theorem Conversation.Unlisted.listing (h : w.Unlisted s) (hne : w ≠ v) (c : ScopeContext)
    (id : String) : w.Unlisted (c.putConversation id v s) where
  issued := h.issued
  free := h.free
  absent x id' hw := by
    rw [conversation?_put] at hw
    split at hw
    · cases hw
      exact hne rfl
    · exact h.absent x id' hw

theorem Evolves.listing (h : Evolves still s t) (hnew : s.nextContext ≤ v.context.number)
    (hv : v.context.number < t.nextContext) (c : ScopeContext) (id : String) :
    Evolves still s (c.putConversation id v t) where
  tally hand hs := (h.tally hand hs).listing hv c id
  unlisted w hw := by
    refine (h.unlisted w hw).listing ?_ c id
    rintro rfl
    exact Nat.lt_irrefl _ (Nat.lt_of_lt_of_le hw.issued hnew)
  slots := h.slots
  next := h.next

theorem Tally.unlisted_new (h : Tally hand s) (kind : ScopeKind) :
    Conversation.Unlisted ⟨(ScopeContext.new kind s).1⟩ (ScopeContext.new kind s).2 where
  issued := Nat.lt_succ_self _
  free := Bool.eq_false_iff.2 fun hbusy => Nat.lt_irrefl _ (h.issued _ hbusy)
  absent c id hid := by
    obtain ⟨c', id', hid'⟩ := (calm_new kind s).listed c id _ hid
    exact Nat.lt_irrefl _ (h.listed c' id' _ hid')

theorem calm_around (hv : v.Unlisted s) (id : String) (timeout : Duration) :
    s.Calm (Conversation.around v.context id timeout s).2 :=
  calm_conversation v (f := fun _ => { id, timeout, lastAccess := s.clock }) hv.free.symm

/-- The account with one more conversation in hand. -/
structure Grants (still : List Thread) (v : Conversation) (s t : Store (Watched library σ)) :
    Prop where
  tally : ∀ hand, Tally hand s → Tally (v :: hand) t
  unlisted : ∀ w : Conversation, w.Unlisted s → w.Unlisted t
  slots : ∀ x ∈ still, ∀ m : Container, m.conversationSlot x t = m.conversationSlot x s
  next : s.nextContext ≤ t.nextContext

theorem Evolves.grants (h : Evolves still s t) (h' : Grants still v t u) : Grants still v s u where
  tally hand hs := h'.tally hand (h.tally hand hs)
  unlisted w hw := h'.unlisted w (h.unlisted w hw)
  slots x hx m := (h'.slots x hx m).trans (h.slots x hx m)
  next := Nat.le_trans h.next h'.next

theorem Grants.evolves (h : Grants still v s t) (h' : Evolves still t u) : Grants still v s u where
  tally hand hs := h'.tally _ (h.tally hand hs)
  unlisted w hw := h'.unlisted w (h.unlisted w hw)
  slots x hx m := (h'.slots x hx m).trans (h.slots x hx m)
  next := Nat.le_trans h.next h'.next

theorem grants_acquired (still : List Thread) (hfree : (s.conversation v).busy = false)
    (hissued : v.context.number < s.nextContext) (hlisted : ¬ v.Unlisted s) :
    (v.tryAcquire s).1 = true ∧ Grants still v s (v.tryAcquire s).2 := by
  have hstore : (v.tryAcquire s).2 =
      v.touch (v.update (fun r => { r with busy := true }) s) := by
    rw [Conversation.tryAcquire, if_neg (by rw [hfree]; decide)]
  refine ⟨by rw [Conversation.tryAcquire, if_neg (by rw [hfree]; decide)],
    fun hand hs => (hs.acquired hissued hfree).2, ?_, ?_, ?_⟩
  · intro w hw
    have hne : w ≠ v := by
      rintro rfl
      exact hlisted hw
    rw [hstore]
    refine ⟨hw.issued, ?_, hw.absent⟩
    rw [Conversation.touch, busy_update, if_neg hne, busy_update, if_neg hne]
    exact hw.free
  · rw [hstore]
    exact fun _ _ _ => rfl
  · rw [hstore]
    exact Nat.le_refl _

/-- A new transient conversation can be taken in hand. -/
theorem addTransient_evolves (still : List Thread) (h : Tally hand s) (session : ScopeContext)
    (draw : Nat → String) (start : Nat) (timeout : Duration) :
    let o := session.addTransient draw start timeout s
    Evolves still s o.2 ∧ (o.2.conversation o.1.1).busy = false ∧
      o.1.1.context.number < o.2.nextContext ∧ ¬ o.1.1.Unlisted o.2 := by
  intro o
  let v : Conversation := ⟨(ScopeContext.new .conversation s).1⟩
  let opened := v.context.setActive true (ScopeContext.new .conversation s).2
  have hcalm : s.Calm opened := (calm_new .conversation s).trans (calm_setActive v.context true _)
  have hv : v.Unlisted opened :=
    ((calm_setActive v.context true _).evolves still).unlisted v (h.unlisted_new .conversation)
  obtain ⟨id, ho⟩ : ∃ id, o.2 = session.putConversation id v
      (Conversation.around v.context id timeout opened).2 := ⟨_, rfl⟩
  have haround := calm_around hv id timeout
  have hissued : v.context.number <
      (Conversation.around v.context id timeout opened).2.nextContext := hv.issued
  have hfree := ((haround.evolves still).unlisted v hv).free
  rw [ho]
  refine ⟨((hcalm.trans haround).evolves still).listing (Nat.le_refl _) hissued session id, hfree,
    hissued, ?_⟩
  intro hunlisted
  apply hunlisted.absent session id
  rw [conversation?_put, if_pos ⟨rfl, rfl⟩]
  rfl

end Account

end ContextualLifecycle
