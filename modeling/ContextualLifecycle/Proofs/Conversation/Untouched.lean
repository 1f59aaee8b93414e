import ContextualLifecycle.Proofs.Conversation.Custody

namespace ContextualLifecycle.Conversation

variable {σ : Type} {v w : Conversation} {g : Stage} {m : Container} {c x : ScopeContext}
  {thread : Thread} {s t u : Store (Watched library σ)}

/-- Nothing befell a conversation from one store to another, but that somebody gave it up. -/
structure Untouched (v : Conversation) (s t : Store (Watched library σ)) : Prop where
  story : v.story t = v.story s
  nextContext : s.nextContext ≤ t.nextContext
  kind : v.context.number < s.nextContext →
    (t.context v.context).kind = (s.context v.context).kind
  active : v.context.number < s.nextContext →
    (t.context v.context).active = (s.context v.context).active
  inactive : (t.context v.context).active = true → (s.context v.context).active = true
  attached : ∀ (m : Container) thread kind, m.attached thread kind t = some v.context →
    m.attached thread kind s = some v.context ∨ v.IsForeign v.context t
  listed : ∀ (x : ScopeContext) id, x.conversation? id t = some v → x.conversation? id s = some v
  slots : ∀ (desk : Desk) x, desk.1.conversationSlot desk.2 t = .active v x →
    desk.1.conversationSlot desk.2 s = .active v x
  name : (t.conversation v).id = (s.conversation v).id
  busy : (t.conversation v).busy = (s.conversation v).busy

theorem Untouched.isListed (h : v.Untouched s t) (hx : v.IsListed x t) : v.IsListed x s := by
  obtain ⟨id, hid⟩ := hx
  exact ⟨id, h.listed x id hid⟩

theorem Untouched.isHeld (h : v.Untouched s t) (hx : v.IsHeld x t) : v.IsHeld x s := by
  obtain ⟨desk, hdesk⟩ := hx
  exact ⟨desk, h.slots desk x hdesk⟩

theorem Untouched.isClaimed (h : v.Untouched s t) (hx : v.IsClaimed g x t) :
    v.IsClaimed g x s := by
  obtain hx | hx | hx := hx
  · exact .inl (h.isListed hx)
  · exact .inr (.inl (h.isHeld hx))
  · exact .inr (.inr hx)

theorem Untouched.stays_inactive (h : v.Untouched s t)
    (hs : (s.context v.context).active = false) : (t.context v.context).active = false := by
  cases ht : (t.context v.context).active with
  | false => rfl
  | true => exact (h.inactive ht).symm.trans hs

theorem Untouched.isForeign (h : v.Untouched s t) (hx : v.IsForeign x s) : v.IsForeign x t := by
  intro heq
  obtain ⟨hnumber, hkind⟩ := hx heq
  rw [h.kind hnumber]
  exact ⟨Nat.lt_of_lt_of_le hnumber h.nextContext, hkind⟩

theorem Untouched.trans (h : v.Untouched s t) (h' : v.Untouched t u) : v.Untouched s u where
  story := h'.story.trans h.story
  nextContext := Nat.le_trans h.nextContext h'.nextContext
  kind hv := (h'.kind (Nat.lt_of_lt_of_le hv h.nextContext)).trans (h.kind hv)
  active hv := (h'.active (Nat.lt_of_lt_of_le hv h.nextContext)).trans (h.active hv)
  inactive hu := h.inactive (h'.inactive hu)
  attached m thread kind hu := by
    obtain ht | hforeign := h'.attached m thread kind hu
    · exact (h.attached m thread kind ht).imp_right h'.isForeign
    · exact .inr hforeign
  listed x id hu := h.listed x id (h'.listed x id hu)
  slots desk x hu := h.slots desk x (h'.slots desk x hu)
  name := h'.name.trans h.name
  busy := h'.busy.trans h.busy

theorem Custody.untouched (h : v.Custody g s) (hst : v.Untouched s t) : v.Custody g t := by
  have hissued := h.issued
  have hbegun : v.story t ≠ [] → v.context.number < s.nextContext := fun ht =>
    h.issued (.inl (hst.story ▸ ht))
  refine ⟨?_, ?_, ?_, ?_, ?_, ?_, ?_, ?_, ?_, ?_, ?_, ?_, ?_, ?_, ?_⟩
  · exact hst.story ▸ h.told
  · rw [hst.story]
    rintro (⟨x, hx⟩ | hg)
    · exact h.begun (.inl ⟨x, hst.isClaimed hx⟩)
    · exact h.begun (.inr hg)
  · intro ht
    rw [hst.kind (hbegun ht)]
    exact h.kind (hst.story ▸ ht)
  · rintro (ht | ht | hg)
    · exact Nat.lt_of_lt_of_le (hbegun ht) hst.nextContext
    · exact Nat.lt_of_lt_of_le (h.issued (.inr (.inl (hst.inactive ht)))) hst.nextContext
    · exact Nat.lt_of_lt_of_le (h.issued (.inr (.inr hg))) hst.nextContext
  · rintro m thread kind x ht rfl
    obtain hs | hforeign := hst.attached m thread kind ht
    · exact hst.isForeign (h.attached m thread kind _ hs) rfl
    · exact hforeign rfl
  · exact fun x x' hx hx' => h.home x x' (hst.isClaimed hx) (hst.isClaimed hx')
  · intro x id hid
    rw [hst.name]
    exact h.name x id (hst.listed x id hid)
  · intro x hx
    have hs := hst.isListed hx
    rw [hst.active (h.issued_of_listed hs)]
    exact h.listed x hs
  · intro desk desk' x x' hd hd'
    exact h.alone desk desk' x x' (hst.slots _ _ hd) (hst.slots _ _ hd')
  · rw [hst.busy]
    rintro (⟨x, hx⟩ | hg)
    · exact h.busy (.inl ⟨x, hst.isHeld hx⟩)
    · exact h.busy (.inr hg)
  · exact fun hg x hx => h.free hg x (hst.isHeld hx)
  · exact fun hg x hx => h.off hg x (hst.isListed hx)
  · intro hg
    obtain ⟨hactive, hclaimed⟩ := h.due hg
    rw [hst.active (h.issued (.inr (.inl hactive)))]
    exact ⟨hactive, fun x hx => hclaimed x (hst.isClaimed hx)⟩
  · intro hg
    exact hst.stays_inactive (h.owed hg)
  · rw [hst.story]
    intro hs
    exact ⟨hst.stays_inactive (h.ended hs).1, (h.ended hs).2⟩

theorem Untouched.of_quiet (h : s.Quiet t) : v.Untouched s t where
  story := by rw [Conversation.story, Conversation.story, h.notices]
  nextContext := h.nextContext
  kind := h.kind v.context
  active := h.active v.context
  inactive := h.inactive v.context
  attached _ _ _ ht := .inl (h.attached ht)
  listed x id := h.listed x id v
  slots desk x ht := by
    rwa [← Container.conversationSlot_congr h.scopes]
  name := h.id v
  busy := h.busy v

theorem Untouched.note {event : Event} (h : event.notice?.bind v.heard? = none)
    (s : Store (Watched library σ)) : v.Untouched s (s.note event) where
  story := by rw [story_note, h, Option.toList_none, List.append_nil]
  nextContext := Nat.le_refl _
  kind _ := rfl
  active _ := rfl
  inactive ht := ht
  attached _ _ _ ht := .inl ht
  listed _ _ ht := ht
  slots _ _ ht := ht
  name := rfl
  busy := rfl

theorem Untouched.surroundings (own : Watched library σ) (s : Store (Watched library σ)) :
    v.Untouched s { s with surroundings := own } where
  story := rfl
  nextContext := Nat.le_refl _
  kind _ := rfl
  active _ := rfl
  inactive ht := ht
  attached _ _ _ ht := .inl ht
  listed _ _ ht := ht
  slots _ _ ht := ht
  name := rfl
  busy := rfl

theorem Untouched.context {f : ScopeContext.Record → ScopeContext.Record}
    (hkind : ∀ r, (f r).kind = r.kind)
    (hself : x = v.context → ∀ r, (f r).active = r.active)
    (hlisted : ∀ r id, (f r).conversations.get? id = some v → r.conversations.get? id = some v)
    (s : Store (Watched library σ)) : v.Untouched s (x.update f s) := by
  have hsame : ((x.update f s).context v.context).kind = (s.context v.context).kind ∧
      ((x.update f s).context v.context).active = (s.context v.context).active := by
    by_cases hx : v.context = x
    · rw [hx, ScopeContext.context_update]
      exact ⟨hkind _, hself hx.symm _⟩
    · rw [ScopeContext.context_update_of_ne hx]
      exact ⟨rfl, rfl⟩
  exact ⟨rfl, Nat.le_refl _, fun _ => hsame.1, fun _ => hsame.2, fun ht => hsame.2 ▸ ht,
    fun _ _ _ ht => .inl ht, fun _ _ => ScopeContext.conversation?_of_update hlisted,
    fun _ _ ht => ht, rfl, rfl⟩

theorem Untouched.setActive (hx : x ≠ v.context) (active : Bool) (s : Store (Watched library σ)) :
    v.Untouched s (x.setActive active s) :=
  Untouched.context (f := fun r => { r with active }) (fun _ => rfl)
    (fun heq => absurd heq hx) (fun _ _ ht => ht) s

theorem Untouched.putConversation (hw : w ≠ v) (x : ScopeContext) (id : String)
    (s : Store (Watched library σ)) : v.Untouched s (x.putConversation id w s) := by
  refine Untouched.context (f := fun r => { r with conversations := r.conversations.insert id w })
    (fun _ => rfl) (fun _ _ => rfl) ?_ s
  intro r id' ht
  rw [Table.get?_insert] at ht
  split at ht
  · exact absurd (Option.some.inj ht) hw
  · exact ht

theorem Untouched.conversation (hw : w ≠ v) (f : Conversation.Record → Conversation.Record)
    (s : Store (Watched library σ)) : v.Untouched s (w.update f s) where
  story := rfl
  nextContext := Nat.le_refl _
  kind _ := rfl
  active _ := rfl
  inactive ht := ht
  attached _ _ _ ht := .inl ht
  listed _ _ ht := ht
  slots _ _ ht := ht
  name := by rw [conversation_update, if_neg (Ne.symm hw)]
  busy := by rw [conversation_update, if_neg (Ne.symm hw)]

theorem Untouched.release (hw : w ≠ v) (s : Store (Watched library σ)) :
    v.Untouched s (w.release s) :=
  (Untouched.conversation hw (fun r => { r with lastAccess := s.clock }) s).trans
    (.conversation hw _ _)

theorem Untouched.tryAcquire (hw : w ≠ v) (s : Store (Watched library σ)) :
    v.Untouched s (w.tryAcquire s).2 := by
  rw [Conversation.tryAcquire]
  split
  · exact .of_quiet (.of_eq rfl rfl rfl rfl rfl rfl rfl)
  · exact (Untouched.conversation hw (fun r => { r with busy := true }) s).trans
      (.conversation hw (fun r => { r with lastAccess := s.clock }) _)

theorem Untouched.updateScopes {f : ThreadScopes → ThreadScopes}
    (hcontexts : ∀ kind, (f (s.threadScopes m thread)).contexts.get? kind = some v.context →
      m.slot thread kind s = some v.context ∨ v.IsForeign v.context s)
    (hslot : ∀ y, (f (s.threadScopes m thread)).conversation = .active v y →
      m.conversationSlot thread s = .active v y) : v.Untouched s (m.updateScopes thread f s) := by
  refine ⟨rfl, Nat.le_refl _, fun _ => rfl, fun _ => rfl, fun ht => ht, ?_, fun _ _ ht => ht, ?_,
    rfl, rfl⟩
  · intro m' thread' kind ht
    refine Container.attached_or ht .inl fun hm => ?_
    rw [Container.slot, Container.threadScopes_update] at hm
    split at hm
    · rename_i heq
      cases heq
      exact hcontexts kind hm
    · exact .inl hm
  · rintro ⟨m', thread'⟩ y ht
    rw [Container.conversationSlot, Container.threadScopes_update] at ht
    split at ht
    · rename_i heq
      cases heq
      exact hslot y ht
    · exact ht

theorem Untouched.clearSlot (m : Container) (thread : Thread) (kind : ScopeKind)
    (s : Store (Watched library σ)) : v.Untouched s (m.clearSlot thread kind s).2 := by
  refine Untouched.updateScopes (f := fun r => { r with contexts := r.contexts.erase kind })
    ?_ fun _ ht => ht
  intro kind' ht
  rw [Table.get?_erase] at ht
  split at ht
  · cases ht
  · exact .inl ht

theorem Untouched.fillSlot (m : Container) (thread : Thread) (kind : ScopeKind)
    (hc : v.IsForeign c s) : v.Untouched s (m.fillSlot thread kind c s).2 := by
  refine Untouched.updateScopes (f := fun r => { r with contexts := r.contexts.insert kind c })
    ?_ fun _ ht => ht
  intro kind' ht
  rw [Table.get?_insert] at ht
  split at ht
  · obtain rfl := Option.some.inj ht
    exact .inr hc
  · exact .inl ht

theorem Untouched.swapConversation {slot : ConversationSlot} (m : Container) (thread : Thread)
    (hslot : ∀ y, slot ≠ .active v y) (s : Store (Watched library σ)) :
    v.Untouched s (m.swapConversation thread slot s).2 :=
  Untouched.updateScopes (f := fun r => { r with conversation := slot }) (fun _ ht => .inl ht)
    fun y ht => absurd ht (hslot y)

theorem Untouched.forgetScopes (m : Container) (thread : Thread) (s : Store (Watched library σ)) :
    v.Untouched s (m.forgetScopes thread s) := by
  refine ⟨rfl, Nat.le_refl _, fun _ => rfl, fun _ => rfl, fun ht => ht, ?_, fun _ _ ht => ht, ?_,
    rfl, rfl⟩
  · intro m' thread' kind ht
    refine Container.attached_or ht .inl fun hm => ?_
    rw [Container.slot, Container.threadScopes_forget] at hm
    split at hm
    · cases hm
    · exact .inl hm
  · rintro ⟨m', thread'⟩ y ht
    rw [Container.conversationSlot, Container.threadScopes_forget] at ht
    split at ht
    · cases ht
    · exact ht

theorem Untouched.swapApplication (m : Container) {o : Option ScopeContext}
    (ho : ∀ y, o = some y → v.IsForeign y s) : v.Untouched s (m.swapApplication o s).2 where
  story := rfl
  nextContext := Nat.le_refl _
  kind _ := rfl
  active _ := rfl
  inactive ht := ht
  attached m' thread kind ht := by
    refine Container.attached_or ht (fun hm => ?_) .inl
    rw [Container.swapApplication, Container.application_update] at hm
    split at hm
    · exact .inr (ho _ hm)
    · exact .inl hm
  listed _ _ ht := ht
  slots _ _ ht := ht
  name := rfl
  busy := rfl

end ContextualLifecycle.Conversation
