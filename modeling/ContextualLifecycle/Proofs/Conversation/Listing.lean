import ContextualLifecycle.Proofs.Container.Attaching
import ContextualLifecycle.Proofs.Conversation.Substitute
import ContextualLifecycle.Proofs.Conversation.Turnover

namespace ContextualLifecycle

variable {σ : Type} {rule : Rule}
  {fair : Container → Thread → ScopeContext → Store Unit → Prop} {request : Request}
  {γ γ' : Hand} {s s' t : Store (Watched library σ)}

theorem Store.Aside.quiet (h : s.Aside t) : s.Quiet t := by
  have hcontext := Store.context_congr h.contexts
  have hconversation := Store.conversation_congr h.conversations
  refine ⟨h.surroundings, h.scopes, h.notices, Nat.le_of_eq h.nextContext.symm, ?_, ?_, ?_, ?_, ?_,
    ?_, ?_⟩
  · exact fun m c hc => (h.application m).symm.trans hc
  · exact fun v => congrArg (·.id) (hconversation v)
  · exact fun v => congrArg (·.busy) (hconversation v)
  · exact fun c _ => congrArg (·.kind) (hcontext c)
  · exact fun c _ => congrArg (·.active) (hcontext c)
  · intro c hc
    rwa [hcontext] at hc
  · intro c id v hv
    rwa [ScopeContext.conversation?_congr h.contexts] at hv

namespace Filed

variable {Sound : Sighting library → Prop} {s₀ : Store (Watched library σ)}
  {restoring : List ScopeContext}

theorem steady (h : Filed Sound s₀ restoring s) (hcontexts : t.contexts = s.contexts)
    (hconversations : t.conversations = s.conversations) (hnext : t.nextContext = s.nextContext)
    (hseen : t.seen = s.seen) : Filed Sound s₀ restoring t := by
  refine h.kept (Nat.le_of_eq hnext.symm) (fun v => ?_) (fun x id v hv => ?_) hseen
  · rw [Store.conversation_congr hconversations]
  · rwa [ScopeContext.conversation?_congr hcontexts] at hv

theorem released (h : Filed Sound s₀ restoring s) (v : Conversation) :
    Filed Sound s₀ restoring (v.release s) := by
  refine h.kept (Nat.le_refl _) (fun w => ?_) (fun _ _ _ hv => hv) rfl
  rw [Conversation.conversation_release]
  split
  · rename_i hw
    rw [hw]
  · rfl

theorem placed (m : Container) (thread : Thread) (kind : ScopeKind)
    (opened : ScopeContext × Store (Watched library σ)) (h : Filed Sound s₀ restoring opened.2) :
    Filed Sound s₀ restoring (m.place thread kind opened) :=
  (h.setActive opened.1 true).steady rfl rfl rfl rfl

theorem acquired (h : Filed Sound s₀ restoring s) (v : Conversation) :
    Filed Sound s₀ restoring (v.tryAcquire s).2 := by
  cases hbusy : (s.conversation v).busy with
  | true => rwa [Conversation.tryAcquire, if_pos hbusy]
  | false =>
    have hacquired := fun w => Conversation.conversation_tryAcquire v w s hbusy
    rw [Conversation.tryAcquire, hbusy] at hacquired ⊢
    refine h.kept (Nat.le_refl _) (fun w => ?_) (fun _ _ _ hv => hv) rfl
    refine (congrArg (·.id) (hacquired w)).trans ?_
    split
    · rename_i hw
      rw [hw]
    · rfl

theorem move (hmove : Move fair request γ s γ' s') (rest : List ScopeContext)
    (h : Filed Sound s₀ (γ.restoring.map Prod.fst ++ rest) s) :
    Filed Sound s₀ (γ'.restoring.map Prod.fst ++ rest) s' := by
  cases hmove with
  | aside hst => exact of_quiet hst.quiet h
  | founded => exact of_quiet (.newContainer _ _ _ s) h
  | entered _ hf =>
    refine of_quiet (.context (fun r => (hf r).kind) (fun r => (hf r).active) ?_ s) h
    intro r id v hv
    rwa [(hf r).conversations] at hv
  | opened => exact of_quiet (.newContext _ s) h
  | switched => exact h.setActive _ _
  | marked _ hid hbusy => exact of_quiet (.conversation _ hid hbusy s) h
  | removed => exact of_quiet (.removeConversation _ _ s) h
  | doomed | fallen | spared => exact h
  | deactivated => exact h.setActive _ false
  | emptied => exact of_quiet (.takeConversations _ s) h
  | started => exact placed _ _ _ _ (of_quiet (.newContext _ s) h)
  | reattached => exact placed _ _ _ (_, s) h
  | installed => exact placed _ _ _ (_, s) h.done
  | shared =>
    exact ((of_quiet (.newContext _ s) h).setActive _ true).steady rfl rfl rfl rfl
  | noted | vacated | unshared | detached | forgotten | turned | seated =>
    exact h.steady rfl rfl rfl rfl
  | released =>
    refine released ?_ _
    exact h.steady rfl rfl rfl rfl
  | finished =>
    refine of_quiet (.removeConversation _ _ _) (released ?_ _)
    exact h.steady rfl rfl rfl rfl
  | expired => exact of_quiet (.takeExpired _ s) h
  | begun =>
    refine acquired ?_ _
    exact (h.add _ toString _ _).steady rfl rfl rfl rfl
  | resumed => exact (h.acquired _).steady rfl rfl rfl rfl
  | reviving => exact h.begin _
  | revived => exact h.done
  | conversed => exact h.converse _ _
  | listed => exact h.list _ _ _

end Filed

/-- Only contexts that were made list conversations or are in slots. -/
structure Store.Known (s : Store (Watched library σ)) : Prop where
  listing : ∀ (x : ScopeContext) id v, x.conversation? id s = some v → x.number < s.nextContext
  attached : ∀ (m : Container) thread kind c,
    m.slot thread kind s = some c → c.number < s.nextContext

section Listing

variable {x : ScopeContext} {id : String} {v : Conversation}

theorem conversation?_new (kind : ScopeKind) (x : ScopeContext) :
    x.conversation? id (ScopeContext.new kind s).2 =
      if x = ⟨s.nextContext⟩ then none else x.conversation? id s := by
  rw [ScopeContext.conversation?, ScopeContext.context_new_eq]
  split <;> rfl

theorem conversation?_place (m : Container) (thread : Thread) (kind : ScopeKind)
    (opened : ScopeContext × Store (Watched library σ)) :
    x.conversation? id (m.place thread kind opened) = x.conversation? id opened.2 :=
  conversation?_setActive opened.1 x true id opened.2

theorem conversation?_acquire (w : Conversation) :
    x.conversation? id (w.tryAcquire s).2 = x.conversation? id s := by
  rw [Conversation.tryAcquire]
  split <;> rfl

theorem conversation?_takeExpired_or (c : ScopeContext) (hv : x.conversation? id s = some v) :
    x.conversation? id (c.takeExpired s).2 = some v ∨ x = c ∧ v.isAbandoned s = true := by
  have hfold : ∀ (rows : List (String × Conversation)) (t : Store (Watched library σ)),
      (x = c → id ∉ rows.map Prod.fst) → x.conversation? id t = some v →
      x.conversation? id (rows.foldl (fun s row =>
        (c.removeConversation row.1 (s.report (.conversationExpired row.1))).2) t) = some v := by
    intro rows
    induction rows with
    | nil => exact fun t _ ht => ht
    | cons row rows ih =>
      intro t hnot ht
      refine ih _ (fun hx => mt (List.mem_cons_of_mem _) (hnot hx)) ?_
      rw [ScopeContext.conversation?_removeConversation, if_neg]
      · exact ht
      · exact fun h => hnot h.1 (h.2 ▸ List.mem_cons_self)
  by_cases hrows : x = c ∧ id ∈ (Conversation.expiredRows c s).map Prod.fst
  · obtain ⟨rfl, hid⟩ := hrows
    obtain ⟨⟨_, w⟩, hrow, rfl⟩ := List.mem_map.1 hid
    obtain ⟨hmem, habandoned⟩ := List.mem_filter.1 hrow
    obtain rfl := Option.some.inj (hv.symm.trans (Table.get?_eq_some_iff.2 hmem))
    exact .inr ⟨rfl, habandoned⟩
  · exact .inl (hfold _ s (fun hx hid => hrows ⟨hx, hid⟩) hv)

theorem conversation?_beginning (m : Container) (session : ScopeContext) :
    x.conversation? id (m.beginning session s).2 =
      if x = session ∧ id = session.nextName m s then some (m.beginning session s).1
      else if x = ⟨s.nextContext⟩ then none else x.conversation? id s := by
  let opened := (ScopeContext.newActive .conversation s).2
  have hopened : x.conversation? id opened =
      if x = ⟨s.nextContext⟩ then none else x.conversation? id s :=
    (conversation?_setActive _ x true id _).trans (conversation?_new .conversation x)
  let around := (Conversation.around ⟨s.nextContext⟩ (session.nextName m s)
    (s.container m).config.conversationTimeout opened).2
  have hput : x.conversation? id (m.beginning session s).2 =
      x.conversation? id (session.putConversation (session.nextName m s) ⟨⟨s.nextContext⟩⟩
        around) := by
    rw [Container.beginning, Conversation.tryAcquire]
    split <;> rfl
  rw [hput, conversation?_put, ← hopened]
  rfl

theorem Container.conversation_beginning (m : Container) (session : ScopeContext)
    (v : Conversation) : (m.beginning session s).2.conversation v =
      if v = (m.beginning session s).1 then
        { id := session.nextName m s
          timeout := (s.container m).config.conversationTimeout
          busy := true
          lastAccess := s.clock }
      else s.conversation v := by
  let made : Conversation := ⟨⟨s.nextContext⟩⟩
  let record : Conversation.Record :=
    { id := session.nextName m s
      timeout := (s.container m).config.conversationTimeout
      lastAccess := s.clock }
  let numbered := m.update (fun r => { r with nextConversation :=
      (session.addTransient toString r.nextConversation r.config.conversationTimeout s).1.2 })
    (session.addTransient toString (s.container m).nextConversation
      (s.container m).config.conversationTimeout s).2
  have hnumbered : ∀ w, numbered.conversation w = if w = made then record else s.conversation w :=
    fun w => Conversation.conversation_update made w (fun _ => record) s
  have hfree : (numbered.conversation made).busy = false := by
    rw [hnumbered, if_pos rfl]
  refine (Conversation.conversation_tryAcquire made v numbered hfree).trans ?_
  by_cases hv : v = made
  · rw [if_pos hv, hnumbered, if_pos rfl]
    exact (if_pos hv).symm
  · rw [if_neg hv, hnumbered, if_neg hv]
    exact (if_neg hv).symm

theorem ScopeContext.conversations_takeExpired (c : ScopeContext) :
    (c.takeExpired s).2.conversations = s.conversations :=
  c.takeExpired_keeps (P := fun t => t.conversations = s.conversations) (fun _ _ ht => ht)
    (fun _ _ ht => ht) rfl

/-- How a conversation comes to be listed. -/
inductive Move.Lists (request : Request) (γ γ' : Hand) (s s' : Store (Watched library σ))
    (x : ScopeContext) (v : Conversation) : Prop
  | begun {m : Container} (h : request.call = .current m .conversation)
      (hsession : m.slot request.thread .session s = some x) (hnew : v = (m.beginning x s).1)
      (hbegun : s' = (m.beginning x s).2)
  | restored {kind id timeout} (h : request.call.nests kind)
      (hsession : x ∈ γ'.restoring.map Prod.fst)
      (hcontext : γ.restoring = (v.context, kind) :: γ'.restoring)
      (hlisted : s' = x.putConversation id v (v.context.converse id timeout s))

/-- How a conversation comes to leave its session. -/
inductive Move.Takes (request : Request) (γ : Hand) (s : Store (Watched library σ))
    (x : ScopeContext) (id : String) (v : Conversation) : Prop
  | removed (h : request.call = .removeConversation x id)
  | finished {m : Container} {slot w} (h : request.call.finishes m slot)
      (hheld : m.conversationSlot request.thread s = .active w x)
      (htransient : (s.conversation w).transient = true) (hname : (s.conversation w).id = id)
  | expired {m : Container} (h : request.call = .destroyExpired m)
      (hsession : m.slot request.thread .session s = some x) (habandoned : v.isAbandoned s = true)
  | torn (h : x ∈ γ.doomed ∨ x ∈ γ.falling)

theorem Move.listing (h : Move fair request γ s γ' s') (hv : x.conversation? id s' = some v) :
    x.conversation? id s = some v ∨ Move.Lists request γ γ' s s' x v := by
  have hquiet : s.Quiet s' → x.conversation? id s = some v ∨ Move.Lists request γ γ' s s' x v :=
    fun h => .inl (h.listed x id v hv)
  cases h with
  | aside h => exact hquiet h.quiet
  | founded => exact hquiet (.newContainer _ _ _ s)
  | opened | reviving => exact hquiet (.newContext _ s)
  | removed => exact hquiet (.removeConversation _ _ s)
  | emptied => exact hquiet (.takeConversations _ s)
  | expired => exact hquiet (.takeExpired _ s)
  | entered _ hf =>
    rw [ScopeContext.conversation?_update_of_conversations fun r => (hf r).conversations] at hv
    exact .inl hv
  | switched | deactivated =>
    rw [conversation?_setActive] at hv
    exact .inl hv
  | started =>
    rw [conversation?_place] at hv
    exact .inl ((Store.Quiet.newContext _ s).listed x id v hv)
  | reattached | installed =>
    rw [conversation?_place] at hv
    exact .inl hv
  | shared =>
    have hopened : x.conversation? id (ScopeContext.newActive .application s).2 = some v := hv
    rw [ScopeContext.newActive, conversation?_setActive] at hopened
    exact .inl ((Store.Quiet.newContext _ s).listed x id v hopened)
  | finished => exact .inl ((Store.Quiet.removeConversation _ _ _).listed x id v hv)
  | begun hcall hsession =>
    rw [conversation?_beginning] at hv
    split at hv
    · rename_i hplace
      obtain ⟨rfl, _⟩ := hplace
      exact .inr (.begun hcall hsession (Option.some.inj hv).symm rfl)
    · split at hv
      · cases hv
      · exact .inl hv
  | @resumed _ _ _ _ w => exact .inl ((conversation?_acquire w).symm.trans hv)
  | conversed =>
    rw [Filed.conversation?_converse] at hv
    exact .inl hv
  | listed hnests hsession =>
    rw [conversation?_put, Filed.conversation?_converse] at hv
    split at hv
    · rename_i hplace
      cases hv
      obtain ⟨rfl, rfl⟩ := hplace
      exact .inr (.restored hnests hsession rfl rfl)
    · exact .inl hv
  | _ => exact .inl hv

/-- A conversation stays listed, or leaves its session in some way. -/
theorem Move.loss (h : Move fair request γ s γ' s') (hmade : x.number < s.nextContext)
    (hv : x.conversation? id s = some v) :
    x.conversation? id s' = some v ∨ Move.Takes request γ s x id v := by
  have hx : x ≠ ⟨s.nextContext⟩ := by
    rintro rfl
    exact Nat.lt_irrefl _ hmade
  have hnew : ∀ kind, x.conversation? id (ScopeContext.new kind s).2 = some v := fun kind => by
    rwa [conversation?_new, if_neg hx]
  cases h with
  | aside h =>
    left
    rwa [ScopeContext.conversation?_congr h.contexts]
  | entered _ hf =>
    rw [ScopeContext.conversation?_update_of_conversations fun r => (hf r).conversations]
    exact .inl hv
  | opened | reviving => exact .inl (hnew _)
  | switched | deactivated =>
    rw [conversation?_setActive]
    exact .inl hv
  | removed hcall =>
    rw [ScopeContext.conversation?_removeConversation]
    split
    · rename_i hplace
      obtain ⟨rfl, rfl⟩ := hplace
      exact .inr (.removed hcall)
    · exact .inl hv
  | emptied hc =>
    rw [ScopeContext.conversation?_takeConversations]
    split
    · rename_i hx
      exact .inr (.torn (hx ▸ hc))
    · exact .inl hv
  | started =>
    rw [conversation?_place]
    exact .inl (hnew _)
  | reattached | installed =>
    rw [conversation?_place]
    exact .inl hv
  | shared =>
    left
    exact (conversation?_setActive _ x true id _).trans (hnew .application)
  | finished hcall hheld htransient =>
    rw [ScopeContext.conversation?_removeConversation]
    split
    · rename_i hplace
      obtain ⟨rfl, rfl⟩ := hplace
      exact .inr (.finished hcall hheld htransient rfl)
    · exact .inl hv
  | expired hcall hsession =>
    refine (conversation?_takeExpired_or _ hv).imp_right ?_
    rintro ⟨rfl, habandoned⟩
    exact .expired hcall hsession habandoned
  | @begun _ _ m session =>
    left
    rw [conversation?_beginning, if_neg]
    · rwa [if_neg hx]
    · rintro ⟨rfl, rfl⟩
      rw [x.conversation?_nextName m s] at hv
      cases hv
  | @resumed _ _ _ _ w => exact .inl ((conversation?_acquire w).trans hv)
  | conversed =>
    rw [Filed.conversation?_converse]
    exact .inl hv
  | listed _ _ hnone =>
    left
    rw [conversation?_put, Filed.conversation?_converse, if_neg]
    · exact hv
    · rintro ⟨rfl, rfl⟩
      rw [hnone] at hv
      cases hv
  | _ => exact .inl hv

end Listing

/-- A session that is attached again was made before. -/
def Container.ReattachesMade (_ : Container) (_ : Thread) (c : ScopeContext) (s : Store Unit) :
    Prop :=
  c.number < s.nextContext

abbrev Container.OnlyMade (fair : Container → Thread → ScopeContext → Store Unit → Prop) : Prop :=
  ∀ m thread c s, fair m thread c s → Container.ReattachesMade m thread c s

theorem Store.Known.move {Sound : Sighting library → Prop} {s₀ : Store (Watched library σ)}
    {restoring : List ScopeContext} (hfair : Container.OnlyMade fair) (h : s.Known)
    (hmove : Move fair request γ s γ' s')
    (hfiled : Filed Sound s₀ restoring s) (hrestoring : γ.restoring.map Prod.fst ⊆ restoring) :
    s'.Known where
  listing x id v hv := by
    refine Nat.lt_of_lt_of_le ?_ hmove.next
    obtain hbefore | hlists := hmove.listing hv
    · exact h.listing x id v hbefore
    · cases hlists with
      | begun _ hsession => exact h.attached _ _ _ x hsession
      | restored _ hsession hcontext =>
        have hin : x ∈ γ.restoring.map Prod.fst := by
          rw [hcontext]
          exact List.mem_cons_of_mem _ hsession
        exact (hfiled.apart x (hrestoring hin)).2.1
  attached m thread kind c hc := by
    obtain hbefore | ⟨_, hattaches⟩ := hmove.slot_or hc
    · exact Nat.lt_of_lt_of_le (h.attached m thread kind c hbefore) hmove.next
    · cases hattaches with
      | started _ _ _ hplaced =>
        rw [hplaced]
        exact Nat.lt_succ_self _
      | reattached _ _ hc => exact Nat.lt_of_lt_of_le (hfair _ _ _ _ hc) hmove.next
      | installed _ hcontext =>
        have hin : c ∈ γ.restoring.map Prod.fst := by
          rw [hcontext]
          exact List.mem_cons_self
        exact Nat.lt_of_lt_of_le (hfiled.apart c (hrestoring hin)).2.1 hmove.next

namespace Situation

def restoring (a : Situation σ) : List ScopeContext :=
  a.errands.flatMap fun errand => errand.hand.restoring.map Prod.fst

/-- Sessions list conversations under their names, and no context before it was made. -/
structure Catalogued (s₀ : Store (Watched library σ)) (a : Situation σ) : Prop where
  filed : Filed (fun _ => True) s₀ a.restoring a.store
  known : a.store.Known

theorem Catalogued.step {s₀ : Store (Watched library σ)} {a b : Situation σ}
    (hfair : Container.OnlyMade fair) (hstep : Step rule fair a b) (h : a.Catalogued s₀) :
    b.Catalogued s₀ := by
  cases hstep with
  | moved hmove =>
    have hrest := h.filed
    rw [restoring, List.flatMap_cons] at hrest
    exact ⟨Filed.move hmove _ hrest,
      h.known.move hfair hmove hrest (List.subset_append_left _ _)⟩
  | asked => exact ⟨h.filed, h.known⟩
  | answered => exact ⟨h.filed.saw trivial, h.known.listing, h.known.attached⟩
  | noticed => exact ⟨h.filed.saw trivial, h.known.listing, h.known.attached⟩
  | kept own => exact ⟨h.filed.steady rfl rfl rfl rfl, h.known.listing, h.known.attached⟩

end Situation

def Situation.start (own : σ) : Situation σ := ⟨[], Store.watched { surroundings := own }⟩

theorem Situation.catalogued_start (own : σ) :
    (Situation.start own).Catalogued (Store.watched { surroundings := own }) where
  filed := .watched own
  known := ⟨fun _ _ _ hv => (nomatch hv), fun _ _ _ _ hc => (nomatch hc)⟩

theorem Steps.catalogued {own : σ} {b : Situation σ} (hfair : Container.OnlyMade fair)
    (h : Steps rule fair (.start own) b) :
    b.Catalogued (Store.watched { surroundings := own }) :=
  h.keeps (fun _ _ hstep ha => ha.step hfair hstep) (Situation.catalogued_start own)

/-- A store as it is at some moment of some run, within callbacks too. Callers attach sessions again
where they may. -/
def Store.ReachableBy (fair : Container → Thread → ScopeContext → Store Unit → Prop)
    (u : Store Unit) : Prop :=
  ∃ (σ : Type) (supply : Supply σ) (own : σ) (p : Program library σ)
    (r : Except LifecycleError Unit) (t : Store (Watched library σ)),
    (p.run supply).run.run (Store.watched { surroundings := own }) = some (r, t) ∧
      (∀ x ∈ t.seen, x.Fair fair) ∧ .moment u ∈ t.seen

theorem Store.ReachableBy.way {u : Store Unit} (h : u.ReachableBy fair) :
    ∃ (σ : Type) (own : σ) (a : Situation σ), a.store.bare = u ∧
      Steps (fun _ _ => True) fair (.start own) a := by
  obtain ⟨σ, supply, own, p, r, t, hp, hfair, hu⟩ := h
  have hsteps : Act.Keeps True (fun s => (∀ x ∈ s.seen, x.Fair fair) →
      Steps (fun _ _ => True) fair (.start own) ⟨[], s⟩) (p.run supply) :=
    p.run_steps supply [] (p.obeys_of_forall (fun _ _ => trivial) []) (.start own) [] rfl
  have hrun := (Act.wp_of_run hp).1 (hsteps _ fun _ => .refl) hfair
  obtain ⟨later, earlier, hseen⟩ := List.append_of_mem hu
  obtain ⟨a, hway, _, ha, _⟩ := hrun.moment hseen (Nat.zero_le _)
  exact ⟨σ, own, a, ha, hway⟩

/-- The same, where callers attach sessions again that were made before. -/
abbrev Store.Reachable (u : Store Unit) : Prop := u.ReachableBy Container.ReattachesMade

theorem Store.ReachableBy.of_run {supply : Supply σ} {own : σ} {p : Program library σ}
    {r : Except LifecycleError Unit} {t : Store (Watched library σ)}
    (h : (p.run supply).run.run (Store.watched { surroundings := own }) = some (r, t))
    (hfair : ∀ x ∈ t.seen, x.Fair fair) : t.bare.ReachableBy fair :=
  ⟨σ, supply, own, p, r, t, h, hfair, (Act.wp_of_run h).1 (p.saw_end supply _)⟩

theorem Store.Reachable.catalogued {u : Store Unit} (h : u.Reachable) :
    ∃ (σ : Type) (s₀ : Store (Watched library σ)) (a : Situation σ),
      a.store.bare = u ∧ a.Catalogued s₀ := by
  obtain ⟨σ, own, a, ha, hway⟩ := Store.ReachableBy.way h
  exact ⟨σ, _, a, ha, hway.catalogued fun _ _ _ _ h => h⟩

/-- Sessions list conversations that were made, and under their names. -/
theorem Store.Reachable.listed {u : Store Unit} (h : u.Reachable) {x : ScopeContext} {id : String}
    {v : Conversation} (hv : x.conversation? id u = some v) :
    v.context.number < u.nextContext ∧ (u.conversation v).id = id := by
  obtain ⟨σ, s₀, a, rfl, hcatalogued⟩ := h.catalogued
  exact hcatalogued.filed.listed x id v hv

theorem Store.Reachable.attached {u : Store Unit} (h : u.Reachable) {m : Container}
    {thread : Thread} {kind : ScopeKind} {c : ScopeContext} (hc : m.slot thread kind u = some c) :
    c.number < u.nextContext := by
  obtain ⟨σ, s₀, a, rfl, hcatalogued⟩ := h.catalogued
  exact hcatalogued.known.attached m thread kind c hc

end ContextualLifecycle
