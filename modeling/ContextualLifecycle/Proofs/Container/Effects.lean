import ContextualLifecycle.Proofs.Conversation.Listing

namespace ContextualLifecycle

variable {σ : Type}

/-- A place where a context can be attached. -/
inductive Spot where
  | slot (m : Container) (thread : Thread) (kind : ScopeKind)
  | shared (m : Container)
deriving DecidableEq

namespace Spot

def kind : Spot → ScopeKind
  | slot _ _ kind => kind
  | shared _ => .application

def context (spot : Spot) (s : Store σ) : Option ScopeContext :=
  match spot with
  | slot m thread kind => m.slot thread kind s
  | shared m => m.application s

end Spot

theorem Spot.context_place (spot : Spot) (m : Container) (thread : Thread) (kind : ScopeKind)
    (opened : ScopeContext × Store σ) : spot.context (m.place thread kind opened) =
      if spot = .slot m thread kind then some opened.1 else spot.context opened.2 := by
  cases spot with
  | slot m' thread' kind' =>
    refine (Container.slot_place m m' thread thread' kind kind' opened).trans ?_
    by_cases hplace : (m', thread') = (m, thread) ∧ kind' = kind
    · obtain ⟨hdesk, rfl⟩ := hplace
      cases hdesk
      rw [if_pos ⟨rfl, rfl⟩, if_pos rfl]
    · rw [if_neg hplace, if_neg]
      · rfl
      · rintro heq
        cases heq
        exact hplace ⟨rfl, rfl⟩
  | shared m' => exact (if_neg nofun).symm

theorem Spot.context_share (spot : Spot) (m : Container) (c : ScopeContext) (t : Store σ) :
    spot.context (m.swapApplication (some c) t).2 =
      if spot = .shared m then some c else spot.context t := by
  cases spot with
  | slot => exact (if_neg nofun).symm
  | shared m' =>
    refine (Container.application_update m m' _ t).trans ?_
    by_cases hm : m' = m
    · rw [if_pos hm, if_pos (congrArg Spot.shared hm)]
    · rw [if_neg hm, if_neg fun heq => hm (Spot.shared.inj heq)]
      rfl

theorem Container.context_place (m : Container) (thread : Thread) (kind : ScopeKind)
    (opened : ScopeContext × Store σ) :
    ((m.place thread kind opened).context opened.1).kind = (opened.2.context opened.1).kind ∧
      ((m.place thread kind opened).context opened.1).active = true := by
  have hplaced : (m.place thread kind opened).context opened.1 =
      { opened.2.context opened.1 with active := true } :=
    (ScopeContext.context_update_eq opened.1 opened.1 (fun r => { r with active := true })
      opened.2).trans (if_pos rfl)
  rw [hplaced]
  exact ⟨rfl, rfl⟩

variable {fair : Container → Thread → ScopeContext → Store Unit → Prop} {request : Request}
  {γ γ' : Hand} {s s' : Store (Watched library σ)} {m : Container} {c x session : ScopeContext}
  {v : Conversation}

theorem Container.application_beginning (m' : Container) :
    m'.application (m.beginning session s).2 = m'.application s := by
  let added := session.addTransient toString (s.container m).nextConversation
    (s.container m).config.conversationTimeout s
  let numbered := m.update (fun r => { r with nextConversation := added.1.2 }) added.2
  have hnumbered : m'.application numbered = m'.application s := by
    rw [Container.application_update]
    split
    · rename_i hm
      rw [hm]
      rfl
    · rfl
  rw [Container.beginning, Conversation.tryAcquire]
  split <;> exact hnumbered

theorem Move.application_or (h : Move fair request γ s γ' s') (hc : m.application s' = some c) :
    m.application s = some c ∨ ∃ params, request.call = .start m .application params ∧
      c = ⟨s.nextContext⟩ ∧
      s' = (m.swapApplication (some c) (ScopeContext.newActive .application s).2).2 := by
  cases h with
  | aside h => exact .inl ((h.application m).symm.trans hc)
  | @founded _ _ config observers proxying =>
    exact .inl ((Store.Quiet.newContainer config observers proxying s).application m c hc)
  | shared hcall =>
    rw [Container.swapApplication, Container.application_update] at hc
    split at hc
    · rename_i hm
      cases hm
      cases hc
      exact .inr ⟨_, hcall, rfl, rfl⟩
    · exact .inl hc
  | unshared =>
    rw [Container.swapApplication, Container.application_update] at hc
    split at hc
    · cases hc
    · exact .inl hc
  | expired => exact .inl ((Store.Quiet.takeExpired _ s).application m c hc)
  | begun =>
    rw [Container.application_beginning] at hc
    exact .inl hc
  | resumed =>
    rw [Conversation.tryAcquire] at hc
    split at hc <;> exact .inl hc
  | _ => exact .inl hc

/-- How a context comes to be attached. -/
inductive Move.Lands (fair : Container → Thread → ScopeContext → Store Unit → Prop)
    (request : Request) (γ γ' : Hand) (s s' : Store (Watched library σ)) (c : ScopeContext) :
    Spot → Prop
  | slot {m : Container} {kind : ScopeKind}
      (h : Move.Attaches fair request γ γ' s s' m kind c) :
      Lands fair request γ γ' s s' c (.slot m request.thread kind)
  | shared {m : Container} {params : ScopeParams} (h : request.call = .start m .application params)
      (hnew : c = ⟨s.nextContext⟩) (hshared : s' =
      (m.swapApplication (some c) (ScopeContext.newActive .application s).2).2) :
      Lands fair request γ γ' s s' c (.shared m)

theorem Move.spot_or (h : Move fair request γ s γ' s') {spot : Spot}
    (hc : spot.context s' = some c) :
    spot.context s = some c ∨ Move.Lands fair request γ γ' s s' c spot := by
  cases spot with
  | slot m thread kind =>
    refine (h.slot_or hc).imp_right ?_
    rintro ⟨rfl, hattaches⟩
    exact .slot hattaches
  | shared m =>
    refine (h.application_or hc).imp_right ?_
    rintro ⟨params, hcall, hnew, hshared⟩
    exact .shared hcall hnew hshared

section Lands

variable {spot : Spot} (h : Move.Lands fair request γ γ' s s' c spot)

include h

theorem Move.Lands.context_spot (spot' : Spot) :
    spot'.context s' = if spot' = spot then some c else spot'.context s := by
  cases h with
  | shared _ _ hshared =>
    rw [hshared, Spot.context_share]
    cases spot' <;> rfl
  | slot hattaches =>
    cases hattaches with
    | started _ _ _ hplaced =>
      rw [hplaced, Spot.context_place]
      cases spot' <;> rfl
    | reattached _ _ _ _ hplaced | installed _ _ hplaced => rw [hplaced, Spot.context_place]

theorem Move.Lands.active : (s'.context c).active = true := by
  cases h with
  | shared _ hnew hshared =>
    have hopened := ScopeContext.context_update c (fun r => { r with active := true })
      (ScopeContext.new .application s).2
    rw [hshared]
    subst hnew
    exact congrArg (·.active) hopened
  | slot hattaches =>
    cases hattaches with
    | started _ _ _ hplaced | reattached _ _ _ _ hplaced | installed _ _ hplaced =>
      rw [hplaced]
      exact (Container.context_place ..).2

theorem Move.Lands.unlisting {id : String} (hv : x.conversation? id s' = some v) :
    x.conversation? id s = some v := by
  cases h with
  | shared _ _ hshared =>
    have hopened :
        x.conversation? id s' = x.conversation? id (ScopeContext.new .application s).2 := by
      rw [hshared]
      exact conversation?_setActive _ x true id _
    exact (Store.Quiet.newContext _ s).listed x id v (hopened ▸ hv)
  | slot hattaches =>
    cases hattaches with
    | started _ _ _ hplaced =>
      rw [hplaced, conversation?_place] at hv
      exact (Store.Quiet.newContext _ s).listed x id v hv
    | reattached _ _ _ _ hplaced | installed _ _ hplaced =>
      rwa [hplaced, conversation?_place] at hv

end Lands

/-- A session that was made before is put into the slot of the scope. -/
def Move.Reattaches (request : Request) (γ : Hand) (s s' : Store (Watched library σ))
    (c : ScopeContext) : Prop :=
  γ = {} ∧ ∃ (m : Container) (params : ScopeParams), request.call = .start m .session params ∧
    params.session = some c ∧ s' = m.place request.thread .session (c, s)

/-- How a context that was made before becomes active or inactive. -/
inductive Move.Flips (request : Request) (γ γ' : Hand) (s s' : Store (Watched library σ))
    (c : ScopeContext) : Bool → Prop
  | switched {active} (h : request.call = .setActive c active) : Flips request γ γ' s s' c active
  | fallen (hdoomed : c ∈ γ.doomed) : Flips request γ γ' s s' c false
  | reattached (h : Move.Reattaches request γ s s' c) : Flips request γ γ' s s' c true
  | restored {kind : ScopeKind} (h : γ.restoring = (c, kind) :: γ'.restoring) :
      Flips request γ γ' s s' c true

/-- A new conversation has a context of its own. Of the other ones, one lists another conversation
at most. -/
theorem Container.context_beginning_eq (m : Container) (session x : ScopeContext) :
    ∃ conversations, (m.beginning session s).2.context x =
      { (if x = ⟨s.nextContext⟩ then { kind := .conversation, active := true }
          else s.context x : ScopeContext.Record) with conversations } := by
  let made := (Conversation.newTransient (session.nextName m s)
    (s.container m).config.conversationTimeout s).2
  have hbegun : (m.beginning session s).2.context x =
      (session.putConversation (session.nextName m s) ⟨⟨s.nextContext⟩⟩ made).context x := by
    rw [Container.beginning, Conversation.tryAcquire]
    split <;> rfl
  have hmade : made.context x =
      if x = ⟨s.nextContext⟩ then { kind := .conversation, active := true } else s.context x := by
    change ((⟨s.nextContext⟩ : ScopeContext).setActive true
      (ScopeContext.new .conversation s).2).context x = _
    rw [ScopeContext.setActive, ScopeContext.context_update_eq]
    split
    · rw [ScopeContext.context_new_eq, if_pos rfl]
    · rename_i hx
      rw [ScopeContext.context_new_eq, if_neg hx]
  rw [hbegun, ScopeContext.putConversation, ScopeContext.context_update_eq, ← hmade]
  split
  · rename_i hx
    rw [hx]
    exact ⟨_, rfl⟩
  · exact ⟨_, rfl⟩

theorem Container.context_beginning (m : Container) (session x : ScopeContext) :
    ((m.beginning session s).2.context x).kind =
      (if x = ⟨s.nextContext⟩ then .conversation else (s.context x).kind) ∧
    ((m.beginning session s).2.context x).active =
      (if x = ⟨s.nextContext⟩ then true else (s.context x).active) := by
  obtain ⟨_, heq⟩ := m.context_beginning_eq session x (s := s)
  rw [heq]
  split <;> exact ⟨rfl, rfl⟩

/-- A conversation that comes to be listed is active. It is new, or was being restored. -/
theorem Move.Lists.context (h : Move.Lists request γ γ' s s' x v) :
    (s'.context v.context).active = true ∧
      (v.context = ⟨s.nextContext⟩ ∧ (s'.context v.context).kind = .conversation ∨
        ∃ kind, request.call.nests kind ∧ γ.restoring = (v.context, kind) :: γ'.restoring ∧
          (s'.context v.context).kind = (s.context v.context).kind) := by
  cases h with
  | @begun m _ _ hnew hbegun =>
    obtain ⟨hkind, hactive⟩ := m.context_beginning x v.context (s := s)
    have hcontext : v.context = ⟨s.nextContext⟩ := congrArg (·.context) hnew
    rw [if_pos hcontext, ← hbegun] at hkind hactive
    exact ⟨hactive, .inl ⟨hcontext, hkind⟩⟩
  | @restored kind id timeout hnests _ hpopped hlisted =>
    obtain ⟨hkind, hactive⟩ :=
      context_putConversation x v.context id v (v.context.converse id timeout s)
    have hconversed : (v.context.converse id timeout s).context v.context =
        { s.context v.context with active := true } :=
      ScopeContext.context_update v.context (fun r => { r with active := true }) s
    rw [hconversed] at hkind hactive
    rw [hlisted]
    exact ⟨hactive, .inr ⟨kind, hnests, hpopped, hkind⟩⟩

/-- A context that was made before keeps its kind. It stays active or inactive, or becomes so in
some way. -/
theorem Move.context_or (h : Move fair request γ s γ' s') (hx : x.number < s.nextContext) :
    (s'.context x).kind = (s.context x).kind ∧
      ((s'.context x).active = (s.context x).active ∨
        Move.Flips request γ γ' s s' x (s'.context x).active) := by
  let Kept : Store (Watched library σ) → Prop := fun t =>
    (t.context x).kind = (s.context x).kind ∧ ((t.context x).active = (s.context x).active ∨
      Move.Flips request γ γ' s s' x (t.context x).active)
  have hold : ∀ kind, (ScopeContext.new kind s).2.context x = s.context x := by
    intro kind
    rw [ScopeContext.context_new_eq, if_neg]
    rintro rfl
    exact Nat.lt_irrefl _ hx
  have hsame : ∀ {t : Store (Watched library σ)}, t.context x = s.context x → Kept t := by
    intro t ht
    exact ⟨congrArg (·.kind) ht, .inl (congrArg (·.active) ht)⟩
  have hquiet : ∀ {t : Store (Watched library σ)}, s.Quiet t → Kept t :=
    fun h => ⟨h.kind x hx, .inl (h.active x hx)⟩
  -- Of the contexts that were made before, only one may be switched.
  have hactive : ∀ {t : Store (Watched library σ)} (c : ScopeContext) (active : Bool),
      t.context x = s.context x → (x = c → Move.Flips request γ γ' s s' x active) →
      Kept (c.setActive active t) := by
    intro t c active ht hflips
    simp only [Kept, ScopeContext.setActive, ScopeContext.context_update_eq]
    split
    · rename_i heq
      rw [← heq, ht]
      exact ⟨rfl, .inr (hflips heq)⟩
    · rw [ht]
      exact ⟨rfl, .inl rfl⟩
  change Kept s'
  cases h with
  | aside h => exact hquiet h.quiet
  | founded => exact hquiet (.newContainer _ _ _ s)
  | entered _ hf =>
    refine hquiet (.context (fun r => (hf r).kind) (fun r => (hf r).active) ?_ s)
    intro r id v hv
    rwa [(hf r).conversations] at hv
  | opened | reviving => exact hsame (hold _)
  | switched hcall => exact hactive _ _ rfl fun heq => .switched (heq ▸ hcall)
  | removed => exact hquiet (.removeConversation _ _ s)
  | deactivated => exact hactive _ _ rfl fun heq => .fallen (heq ▸ List.mem_cons_self)
  | emptied => exact hquiet (.takeConversations _ s)
  | started =>
    refine hactive (t := (ScopeContext.new _ s).2) _ true (hold _) fun heq => ?_
    rw [heq] at hx
    exact absurd hx (Nat.lt_irrefl _)
  | reattached hcall hsession =>
    refine hactive (t := s) _ true rfl fun heq => ?_
    subst heq
    exact .reattached ⟨rfl, _, _, hcall, hsession, rfl⟩
  | installed =>
    refine hactive (t := s) _ true rfl fun heq => ?_
    subst heq
    exact .restored rfl
  | shared =>
    refine hactive (t := (ScopeContext.new _ s).2) _ true (hold _) fun heq => ?_
    rw [heq] at hx
    exact absurd hx (Nat.lt_irrefl _)
  | @finished _ _ m slot v session =>
    have hremoved := Store.Quiet.removeConversation session (s.conversation v).id
      (v.release (m.swapConversation request.thread slot s).2)
    exact ⟨hremoved.kind x hx, .inl (hremoved.active x hx)⟩
  | expired => exact hquiet (.takeExpired _ s)
  | @begun _ _ m session =>
    obtain ⟨hkind, hlisted⟩ := m.context_beginning session x (s := s)
    have hne : x ≠ ⟨s.nextContext⟩ := by
      rintro rfl
      exact Nat.lt_irrefl _ hx
    simp only [Kept, hkind, hlisted, if_neg hne]
    exact ⟨trivial, .inl trivial⟩
  | resumed =>
    refine hsame ?_
    rw [Conversation.tryAcquire]
    split <;> rfl
  | conversed =>
    refine hactive (t := s) _ true rfl fun heq => ?_
    subst heq
    exact .restored rfl
  | @listed _ _ c session _ id timeout =>
    obtain ⟨hkind, hlisted⟩ := context_putConversation session x id ⟨c⟩ (c.converse id timeout s)
    have hkept : Kept (c.converse id timeout s) := by
      refine hactive (t := s) _ true rfl fun heq => ?_
      subst heq
      exact .restored rfl
    simp only [Kept, hkind, hlisted]
    exact hkept
  | _ => exact hsame rfl

/-- A context that comes to be attached is of the kind of its place, if those are that were made
before. -/
theorem Move.Lands.kind {spot : Spot} (hlands : Move.Lands fair request γ γ' s s' c spot)
    (hmove : Move fair request γ s γ' s')
    (hfair : ∀ {m thread t}, fair m thread c t →
      c.number < t.nextContext ∧ (t.context c).kind = .session)
    (hrestored : ∀ {kind}, γ.restoring = (c, kind) :: γ'.restoring →
      c.number < s.nextContext ∧ (s.context c).kind = kind) :
    c.number < s'.nextContext ∧ spot.kind ≠ .conversation ∧ (s'.context c).kind = spot.kind := by
  have hold : ∀ {kind}, c.number < s.nextContext ∧ (s.context c).kind = kind →
      c.number < s'.nextContext ∧ (s'.context c).kind = kind := fun ⟨hmade, hkind⟩ =>
    ⟨Nat.lt_of_lt_of_le hmade hmove.next, (hmove.context_or hmade).1.trans hkind⟩
  have hnew : ∀ kind, ((ScopeContext.new kind s).2.context ⟨s.nextContext⟩).kind = kind :=
    fun kind => congrArg (·.kind) ((ScopeContext.context_new_eq kind _ s).trans (if_pos rfl))
  cases hlands with
  | shared _ hc hshared =>
    subst hc hshared
    have hopened := congrArg (·.kind) (ScopeContext.context_update ⟨s.nextContext⟩
      (fun r => { r with active := true }) (ScopeContext.new .application s).2)
    exact ⟨Nat.lt_succ_self _, nofun, hopened.trans (hnew .application)⟩
  | slot hattaches =>
    cases hattaches with
    | started _ hkind _ hplaced =>
      rw [hplaced]
      exact ⟨Nat.lt_succ_self _, hkind.2, (Container.context_place ..).1.trans (hnew _)⟩
    | reattached _ _ hagain =>
      obtain ⟨hmade, hkind⟩ := hold (hfair hagain)
      exact ⟨hmade, nofun, hkind⟩
    | installed _ hpopped =>
      obtain ⟨hmade, hkind⟩ := hold (hrestored hpopped)
      exact ⟨hmade, nofun, hkind⟩

/-- How a context comes to be doomed. It is detached from some place, taken out of a session, or let
go of by the thread that held its conversation. -/
inductive Move.Dooms (request : Request) (γ : Hand) (s s' : Store (Watched library σ))
    (c : ScopeContext) : Prop
  | asked (h : request.call = .destroyAll c)
  | detached (spot : Spot) (h : spot.context s = some c) (hleft : spot.context s' ≠ some c)
  | unlisted (session : ScopeContext) (id : String) (h : session.conversation? id s = some ⟨c⟩)
      (hleft : session.conversation? id s' = none)
      (hwhy : (session ∈ γ.doomed ∨ session ∈ γ.falling) ∨
        (s.conversation ⟨c⟩).busy = false ∧ ∃ m, request.call = .destroyExpired m)
  | released {m : Container} {session : ScopeContext}
      (h : m.conversationSlot request.thread s = .active ⟨c⟩ session)
      (hleft : ∀ session, m.conversationSlot request.thread s' ≠ .active ⟨c⟩ session)
      (hunlisted : session.conversation? (s.conversation ⟨c⟩).id s' = none)

theorem Container.mem_replaced {thread : Thread} {kind : ScopeKind}
    (hc : c ∈ m.replaced thread kind x s) : m.slot thread kind s = some c ∧ c ≠ x := by
  rw [Container.replaced] at hc
  split at hc
  · cases hc
  · obtain ⟨hslot, hne⟩ := List.mem_filter.1 hc
    exact ⟨Option.mem_toList.1 hslot, by simpa using hne⟩

theorem Move.Dooms.of_replaced {kind : ScopeKind}
    (opened : ScopeContext × Store (Watched library σ))
    (hc : c ∈ m.replaced request.thread kind opened.1 s) :
    Move.Dooms request γ s (m.place request.thread kind opened) c := by
  obtain ⟨hslot, hne⟩ := Container.mem_replaced hc
  have hleft : m.slot request.thread kind (m.place request.thread kind opened) ≠ some c := by
    rw [Container.slot_place, if_pos ⟨rfl, rfl⟩]
    exact fun heq => hne (Option.some.inj heq).symm
  exact .detached (.slot m request.thread kind) hslot hleft

theorem Move.dooms_or (h : Move fair request γ s γ' s') (hc : c ∈ γ'.doomed) :
    c ∈ γ.doomed ∨ Move.Dooms request γ s s' c := by
  have hnew : ∀ {cs : List ScopeContext}, c ∈ cs ++ γ.doomed →
      (c ∈ cs → Move.Dooms request γ s s' c) → c ∈ γ.doomed ∨ Move.Dooms request γ s s' c :=
    fun hin hdooms => (List.mem_append.1 hin).symm.imp_right hdooms
  cases h with
  | doomed hcall =>
    refine hnew hc fun hin => .asked ?_
    rwa [List.mem_singleton.1 hin]
  | deactivated => exact .inl (List.mem_cons_of_mem _ hc)
  | spared => exact .inl (List.mem_cons_of_mem _ hc)
  | @emptied _ _ x hx =>
    refine hnew hc fun hin => ?_
    obtain ⟨v, hv, rfl⟩ := List.mem_map.1 hin
    obtain ⟨⟨id, _⟩, hrow, rfl⟩ := List.mem_map.1 hv
    refine .unlisted x id (Table.get?_eq_some_iff.2 hrow) ?_ (.inl hx)
    rw [ScopeContext.conversation?_takeConversations, if_pos rfl]
  | started => exact hnew hc (.of_replaced (ScopeContext.new _ s))
  | reattached => exact hnew hc (.of_replaced (_, s))
  | installed => exact hnew hc (.of_replaced (_, s))
  | @vacated _ _ m kind =>
    refine hnew hc fun hin => ?_
    have hleft : m.slot request.thread kind (m.clearSlot request.thread kind s).2 ≠ some c := by
      rw [Container.slot_clear, if_pos ⟨rfl, rfl⟩]
      exact (Option.some_ne_none c).symm
    exact .detached (.slot m request.thread kind) (Option.mem_toList.1 hin) hleft
  | @unshared _ _ m =>
    refine hnew hc fun hin => ?_
    have hleft : m.application (m.swapApplication none s).2 ≠ some c := by
      rw [Container.swapApplication, Container.application_update, if_pos rfl]
      exact (Option.some_ne_none c).symm
    exact .detached (.shared m) (Option.mem_toList.1 hin) hleft
  | @finished _ _ m slot v session hcall hheld =>
    refine hnew hc fun hin => ?_
    rw [List.mem_singleton.1 hin]
    refine .released hheld (fun session' => ?_) ?_
    · have hslot : m.conversationSlot request.thread
          (m.swapConversation request.thread slot s).2 = slot :=
        (conversationSlot_swap m m request.thread request.thread slot s).trans (if_pos rfl)
      exact fun heq => hcall.ne_active (hslot.symm.trans heq)
    · rw [ScopeContext.conversation?_removeConversation, if_pos ⟨rfl, rfl⟩]
  | @expired _ _ m session hcall =>
    refine hnew hc fun hin => ?_
    obtain ⟨v, hv, rfl⟩ := List.mem_map.1 hin
    obtain ⟨⟨id, w⟩, hrow, rfl⟩ := List.mem_map.1 hv
    obtain ⟨hmem, habandoned⟩ := List.mem_filter.1 hrow
    have hleft := Conversation.conversation?_takeExpired session (List.mem_map_of_mem hrow)
    refine .unlisted session id (Table.get?_eq_some_iff.2 hmem) hleft (.inr ⟨?_, m, hcall⟩)
    simp only [Conversation.isAbandoned, Bool.and_eq_true, Bool.not_eq_true'] at habandoned
    exact habandoned.1.2
  | _ => exact .inl hc

theorem Move.falls (h : Move fair request γ s γ' s') (hc : c ∈ γ'.falling) :
    c ∈ γ.falling ∨ c ∈ γ.doomed := by
  cases h with
  | deactivated =>
    rcases List.mem_cons.1 hc with rfl | hc
    · exact .inr List.mem_cons_self
    · exact .inl hc
  | fallen => exact .inl (List.mem_cons_of_mem _ hc)
  | _ => exact .inl hc

theorem Move.restoring_or (h : Move fair request γ s γ' s') {kind : ScopeKind}
    (hc : (c, kind) ∈ γ'.restoring) : (c, kind) ∈ γ.restoring ∨
      request.call.snapshot?.isSome = true ∧ c = ⟨s.nextContext⟩ ∧
        s' = (ScopeContext.new kind s).2 := by
  cases h with
  | reviving hsnapshot =>
    rcases List.mem_cons.1 hc with heq | hc
    · cases heq
      exact .inr ⟨hsnapshot, rfl, rfl⟩
    · exact .inl hc
  | installed | revived | conversed | listed => exact .inl (List.mem_cons_of_mem _ hc)
  | _ => exact .inl hc

theorem Move.begun_cases (h : Move fair request γ s γ' s') : γ'.begun = γ.begun ∨
    (∃ (m : Container) (session : ScopeContext),
      γ'.begun = ((m.beginning session s).1, session) :: γ.begun ∧
      request.call = .current m .conversation ∧
      m.slot request.thread .session s = some session ∧ s' = (m.beginning session s).2) ∨
    ∃ held, γ.begun = held :: γ'.begun := by
  cases h with
  | begun hcall hsession => exact .inr (.inl ⟨_, _, rfl, hcall, hsession, rfl⟩)
  | seated => exact .inr (.inr ⟨_, rfl⟩)
  | _ => exact .inl rfl

/-- How a conversation that is held comes to be free. -/
inductive Move.Frees (request : Request) (γ γ' : Hand) (s s' : Store (Watched library σ))
    (v : Conversation) : Prop
  | released {m : Container} {session : ScopeContext}
      (h : m.conversationSlot request.thread s = .active v session)
      (hleft : ∀ session, m.conversationSlot request.thread s' ≠ .active v session)
  | restored {kind : ScopeKind} (h : γ.restoring = (v.context, kind) :: γ'.restoring)

theorem Move.busy_or (h : Move fair request γ s γ' s') (hv : (s.conversation v).busy = true) :
    (s'.conversation v).busy = true ∨ Move.Frees request γ γ' s s' v := by
  -- Another conversation is released, or this one, which is in the slot no more.
  have hrelease : ∀ {m : Container} {slot : ConversationSlot} {w : Conversation}
      {session : ScopeContext}, (∀ session, slot ≠ .active v session) →
      m.conversationSlot request.thread s = .active w session →
      s'.scopes = (m.swapConversation request.thread slot s).2.scopes →
      s'.conversations = (w.release (m.swapConversation request.thread slot s).2).conversations →
      (s'.conversation v).busy = true ∨ Move.Frees request γ γ' s s' v := by
    intro m slot w session hslot hheld hscopes hconversations
    rw [Store.conversation_congr hconversations, Conversation.conversation_release]
    split
    · rename_i heq
      subst heq
      refine .inr (.released hheld fun x heq => ?_)
      rw [Container.conversationSlot_congr hscopes] at heq
      have hswapped := conversationSlot_swap m m request.thread request.thread slot s
      rw [if_pos rfl] at hswapped
      exact hslot x (hswapped.symm.trans heq)
    · exact .inl hv
  have hconverse : ∀ {c : ScopeContext} {id timeout},
      (v = ⟨c⟩ → Move.Frees request γ γ' s s' v) →
      ((c.converse id timeout s).conversation v).busy = true ∨
        Move.Frees request γ γ' s s' v := by
    intro c id timeout hfrees
    rw [ScopeContext.conversation_converse]
    split
    · rename_i heq
      exact .inr (hfrees heq)
    · exact .inl hv
  cases h with
  | aside h =>
    left
    rwa [Store.conversation, h.conversations]
  | marked _ _ hbusy =>
    left
    rw [Conversation.conversation_update]
    split
    · rename_i heq
      rwa [hbusy, ← heq]
    · exact hv
  | released hcall hheld => exact hrelease (fun _ => hcall.ne_active) hheld rfl rfl
  | finished hcall hheld => exact hrelease (fun _ => hcall.ne_active) hheld rfl rfl
  | @expired _ _ _ session =>
    left
    rwa [Store.conversation, session.conversations_takeExpired]
  | begun =>
    left
    rw [Container.conversation_beginning]
    split
    · rfl
    · exact hv
  | resumed _ _ _ _ _ hfree =>
    left
    change (((Conversation.tryAcquire _ s).2).conversation v).busy = true
    rw [Conversation.conversation_tryAcquire _ v s hfree]
    split
    · rfl
    · exact hv
  | conversed =>
    refine hconverse fun heq => ?_
    subst heq
    exact .restored rfl
  | listed =>
    refine hconverse fun heq => ?_
    subst heq
    exact .restored rfl
  | _ => exact .inl hv

end ContextualLifecycle
