import ContextualLifecycle.Proofs.Container.Errands

namespace ContextualLifecycle

variable {σ : Type}

def Call.contexts : Call → List ScopeContext
  | .setActive c _ | .getOrCreate c .. | .destroy c _ | .destroyExisting c _ | .destroyAll c
  | .removeConversation c _ | .start _ .session ⟨_, some c⟩ => [c]
  | .promote v | .demote v | .setTimeout v _ | .touch v => [v.context]
  | _ => []

theorem Call.mem_contexts_of_asksOf {call : Call} {c : ScopeContext}
    (h : call.asksOf? = some c) : c ∈ call.contexts := by
  unfold Call.asksOf? at h
  split at h <;> cases h
  all_goals exact List.mem_singleton_self _

/-- The call goes to that container at most, and is made with contexts that are near. -/
structure Call.Within (m : Container) (Near : ScopeContext → Prop) (call : Call) : Prop where
  container : ∀ m', call.container? = some m' → m' = m
  none_new : ∀ config observers proxying, call ≠ .newContainer config observers proxying
  contexts : ∀ c ∈ call.contexts, Near c

namespace Call.Within

variable {m m' : Container} {Near : ScopeContext → Prop} {call call' : Call} {c : ScopeContext}

theorem is_container (h : call.Within m Near) (hcall : call = call')
    (hcontainer : call'.container? = some m') : m = m' :=
  (h.container m' (hcall ▸ hcontainer)).symm

theorem context (h : call.Within m Near) (hcall : call = call') (hc : c ∈ call'.contexts) :
    Near c :=
  h.contexts c (hcall ▸ hc)

theorem asked (h : call.Within m Near) (hasks : call.asksOf? = some c) : Near c :=
  h.contexts c (Call.mem_contexts_of_asksOf hasks)

theorem marked {v : Conversation} (h : call.Within m Near) (hmarks : call.marks? = some v) :
    Near v.context := by
  unfold Call.marks? at hmarks
  split at hmarks <;> cases hmarks
  all_goals exact h.context rfl (List.mem_singleton_self _)

end Call.Within

/-- Since some store, only the scopes of one container on one thread have changed, its application
scope, and contexts that are near; and all that can be got at from there is near. -/
structure Isolated (m : Container) (thread : Thread) (Near : ScopeContext → Prop)
    (s₀ s : Store σ) : Prop where
  scopes : ∀ m' thread', (m', thread') ≠ (m, thread) →
    s.threadScopes m' thread' = s₀.threadScopes m' thread'
  application : ∀ m' : Container, m' ≠ m → m'.application s = m'.application s₀
  context : ∀ c, ¬ Near c → s.context c = s₀.context c
  conversation : ∀ v : Conversation, ¬ Near v.context → s.conversation v = s₀.conversation v
  fresh : ∀ c : ScopeContext, s.nextContext ≤ c.number → Near c
  attached : ∀ kind c, m.slot thread kind s = some c → Near c
  shared : ∀ c, m.application s = some c → Near c
  held : ∀ v session, m.conversationSlot thread s = .active v session →
    Near v.context ∧ Near session
  listed : ∀ (x : ScopeContext) id v, Near x → x.conversation? id s = some v → Near v.context

namespace Isolated

variable {m : Container} {thread : Thread} {Near : ScopeContext → Prop} {s₀ s t : Store σ}
  {c session : ScopeContext} {v : Conversation}

theorem surrounded (h : Isolated m thread Near s₀ s) (surroundings : σ) :
    Isolated m thread Near s₀ { s with surroundings } :=
  ⟨h.scopes, h.application, h.context, h.conversation, h.fresh, h.attached, h.shared, h.held,
    h.listed⟩

theorem noted (h : Isolated m thread Near s₀ s) (event : Event) :
    Isolated m thread Near s₀ (s.note event) :=
  ⟨h.scopes, h.application, h.context, h.conversation, h.fresh, h.attached, h.shared, h.held,
    h.listed⟩

theorem aside (h : Isolated m thread Near s₀ s) (hst : s.Aside t) :
    Isolated m thread Near s₀ t := by
  have hscopes := Store.threadScopes_congr hst.scopes
  have hcontext := Store.context_congr hst.contexts
  have hconversation := Store.conversation_congr hst.conversations
  refine ⟨?_, ?_, ?_, ?_, ?_, ?_, ?_, ?_, ?_⟩
  · exact fun m' thread' hne => (hscopes m' thread').trans (h.scopes m' thread' hne)
  · exact fun m' hne => (hst.application m').trans (h.application m' hne)
  · exact fun c hc => (hcontext c).trans (h.context c hc)
  · exact fun v hv => (hconversation v).trans (h.conversation v hv)
  · exact fun c hc => h.fresh c (hst.nextContext ▸ hc)
  · exact fun kind c hc => h.attached kind c (by rwa [Container.slot, ← hscopes])
  · exact fun c hc => h.shared c ((hst.application m).symm.trans hc)
  · exact fun v session hv => h.held v session (by rwa [Container.conversationSlot, ← hscopes])
  · exact fun x id v hx hv => h.listed x id v hx (by rwa [ScopeContext.conversation?, ← hcontext])

theorem update (h : Isolated m thread Near s₀ s) (hc : Near c)
    (f : ScopeContext.Record → ScopeContext.Record)
    (hlisted : ∀ id v, (f (s.context c)).conversations.get? id = some v → Near v.context) :
    Isolated m thread Near s₀ (c.update f s) :=
  { h with
    context := by
      intro x hx
      rw [ScopeContext.context_update_of_ne]
      · exact h.context x hx
      · rintro rfl
        exact hx hc
    listed := by
      intro x id v hx hv
      rw [ScopeContext.conversation?_update] at hv
      split at hv
      · exact hlisted id v hv
      · exact h.listed x id v hx hv }

theorem relist (h : Isolated m thread Near s₀ s) (hc : Near c)
    {f : ScopeContext.Record → ScopeContext.Record}
    (hf : ∀ r id v, (f r).conversations.get? id = some v → r.conversations.get? id = some v) :
    Isolated m thread Near s₀ (c.update f s) :=
  h.update hc f fun id v hv => h.listed c id v hc (hf _ id v hv)

theorem setActive (h : Isolated m thread Near s₀ s) (hc : Near c) (active : Bool) :
    Isolated m thread Near s₀ (c.setActive active s) :=
  h.relist hc fun _ _ _ hv => hv

theorem putConversation (h : Isolated m thread Near s₀ s) (hc : Near c) (hv : Near v.context)
    (id : String) : Isolated m thread Near s₀ (c.putConversation id v s) := by
  refine h.update hc _ fun id' w hw => ?_
  rw [Table.get?_insert] at hw
  split at hw
  · cases hw
    exact hv
  · exact h.listed c id' w hc hw

theorem removeConversation (h : Isolated m thread Near s₀ s) (hc : Near c) (id : String) :
    Isolated m thread Near s₀ (c.removeConversation id s).2 := by
  refine h.relist (f := fun r => { r with conversations := r.conversations.erase id }) hc ?_
  intro r id' v hv
  rw [Table.get?_erase] at hv
  split at hv
  · cases hv
  · exact hv

theorem takeConversations (h : Isolated m thread Near s₀ s) (hc : Near c) :
    Isolated m thread Near s₀ (c.takeConversations s).2 :=
  h.relist (f := fun r => { r with conversations := ∅ }) hc fun _ _ _ hv => by cases hv

theorem takeExpired (h : Isolated m thread Near s₀ s) (hc : Near c) :
    Isolated m thread Near s₀ (c.takeExpired s).2 :=
  c.takeExpired_keeps (fun _ t ht => ht.aside (Store.aside_note rfl t))
    (fun id _ ht => ht.removeConversation hc id) h

theorem of_rows (h : Isolated m thread Near s₀ s) (hc : Near c)
    {rows : List (String × Conversation)} (hrows : rows ⊆ (s.context c).conversations.rows) :
    ∀ x ∈ (rows.map (·.2)).map (·.context), Near x := by
  intro x hx
  obtain ⟨v, hv, rfl⟩ := List.mem_map.1 hx
  obtain ⟨⟨id, _⟩, hrow, rfl⟩ := List.mem_map.1 hv
  exact h.listed c id _ hc (Table.get?_eq_some_iff.2 (hrows hrow))

theorem of_replaced (h : Isolated m thread Near s₀ s) {kind : ScopeKind} :
    ∀ x ∈ m.replaced thread kind c s, Near x := by
  intro x hx
  unfold Container.replaced at hx
  split at hx
  · cases hx
  · exact h.attached kind x (by simpa using (List.mem_filter.1 hx).1)

theorem mark (h : Isolated m thread Near s₀ s) (hv : Near v.context)
    (hother : ∀ w, w ≠ v → t.conversation w = s.conversation w)
    (hsame : t = { s with conversations := t.conversations }) : Isolated m thread Near s₀ t := by
  rw [hsame] at hother ⊢
  exact { h with
    conversation := by
      intro w hw
      refine (hother w ?_).trans (h.conversation w hw)
      rintro rfl
      exact hw hv }

theorem release (h : Isolated m thread Near s₀ s) (hv : Near v.context) :
    Isolated m thread Near s₀ (v.release s) := by
  refine h.mark hv (fun w hw => ?_) rfl
  rw [Conversation.conversation_release, if_neg hw]

theorem tryAcquire (h : Isolated m thread Near s₀ s) (hv : Near v.context) :
    Isolated m thread Near s₀ (v.tryAcquire s).2 := by
  cases hfree : (s.conversation v).busy with
  | true => rwa [Conversation.tryAcquire, if_pos hfree]
  | false =>
    refine h.mark hv (fun w hw => ?_) ?_
    · rw [Conversation.conversation_tryAcquire v w s hfree, if_neg hw]
    · rw [Conversation.tryAcquire, hfree]
      rfl

theorem new (h : Isolated m thread Near s₀ s) (kind : ScopeKind) :
    Near (ScopeContext.new kind s).1 ∧ Isolated m thread Near s₀ (ScopeContext.new kind s).2 := by
  have hnear : Near (ScopeContext.new kind s).1 := h.fresh _ (Nat.le_refl _)
  refine ⟨hnear, ?_⟩
  exact { h with
    context := by
      intro x hx
      rw [ScopeContext.context_new_eq, if_neg]
      · exact h.context x hx
      · rintro rfl
        exact hx hnear
    fresh := fun x hx => h.fresh x (Nat.le_of_succ_le hx)
    listed := by
      intro x id v hx hv
      exact h.listed x id v hx ((Store.Quiet.newContext kind s).listed x id v hv) }

theorem converse (h : Isolated m thread Near s₀ s) (hc : Near c) (id : String)
    (timeout : Duration) : Isolated m thread Near s₀ (c.converse id timeout s) := by
  refine (h.setActive hc true).mark (v := ⟨c⟩) hc (fun w hw => ?_) rfl
  rw [ScopeContext.conversation_converse, if_neg hw]
  rfl

theorem recontainer (h : Isolated m thread Near s₀ s) (r : Container.Record)
    (hshared : ∀ c, r.application = some c → Near c) :
    Isolated m thread Near s₀ (s.setContainer m r) := by
  have happlication : ∀ m' : Container, m'.application (s.setContainer m r) =
      if m' = m then r.application else m'.application s := by
    intro m'
    rw [Container.application, Store.container, Store.setContainer, Table.get?_insert]
    split <;> rfl
  exact { h with
    application := by
      intro m' hne
      rw [happlication, if_neg hne]
      exact h.application m' hne
    shared := by
      intro c hc
      rw [happlication, if_pos rfl] at hc
      exact hshared c hc }

theorem beginning (h : Isolated m thread Near s₀ s) (hsession : Near session) :
    Near (m.beginning session s).1.context ∧
      Isolated m thread Near s₀ (m.beginning session s).2 := by
  obtain ⟨hnear, hnew⟩ := h.new .conversation
  refine ⟨hnear, tryAcquire ?_ hnear⟩
  let r := s.container m
  let added := session.addTransient toString r.nextConversation r.config.conversationTimeout s
  have hadded : Isolated m thread Near s₀ added.2 := by
    refine putConversation ?_ hsession hnear _
    refine (hnew.setActive hnear true).mark (v := ⟨⟨s.nextContext⟩⟩) hnear (fun w hw => ?_) rfl
    exact (Conversation.conversation_update _ w (fun _ => _) _).trans (if_neg hw)
  exact hadded.recontainer _ hadded.shared

theorem rescope (h : Isolated m thread Near s₀ s)
    (hscopes : ∀ m' thread', (m', thread') ≠ (m, thread) →
      t.threadScopes m' thread' = s.threadScopes m' thread')
    (hattached : ∀ kind c, m.slot thread kind t = some c → Near c)
    (hheld : ∀ v session, m.conversationSlot thread t = .active v session →
      Near v.context ∧ Near session)
    (hsame : t = { s with scopes := t.scopes }) : Isolated m thread Near s₀ t := by
  rw [hsame] at hscopes hattached hheld ⊢
  exact { h with
    scopes := fun m' thread' hne => (hscopes m' thread' hne).trans (h.scopes m' thread' hne)
    attached := hattached
    held := hheld }

theorem swapConversation (h : Isolated m thread Near s₀ s) (slot : ConversationSlot)
    (hslot : ∀ v session, slot = .active v session → Near v.context ∧ Near session) :
    Isolated m thread Near s₀ (m.swapConversation thread slot s).2 := by
  refine h.rescope ?_ ?_ ?_ rfl
  · intro m' thread' hne
    rw [Container.swapConversation, Container.threadScopes_update, if_neg hne]
  · intro kind c hc
    rw [Container.slot, Container.swapConversation, Container.threadScopes_update, if_pos rfl] at hc
    exact h.attached kind c hc
  · intro v session hv
    rw [Container.conversationSlot, Container.swapConversation, Container.threadScopes_update,
      if_pos rfl] at hv
    exact hslot v session hv

theorem vacate {slot : ConversationSlot} (h : Isolated m thread Near s₀ s)
    (hvacant : ∀ v session, slot ≠ .active v session) :
    Isolated m thread Near s₀ (m.swapConversation thread slot s).2 :=
  h.swapConversation slot fun v session heq => absurd heq (hvacant v session)

theorem place (opened : ScopeContext × Store σ) (h : Isolated m thread Near s₀ opened.2)
    (hc : Near opened.1) (kind : ScopeKind) :
    Isolated m thread Near s₀ (m.place thread kind opened) := by
  refine (h.setActive hc true).rescope ?_ ?_ ?_ rfl
  · intro m' thread' hne
    rw [Container.place, Container.fillSlot, Container.threadScopes_update, if_neg hne]
  · intro kind' c hc'
    rw [Container.slot_place] at hc'
    split at hc'
    · cases hc'
      exact hc
    · exact h.attached kind' c hc'
  · intro v session hv
    rw [Container.conversationSlot_place] at hv
    exact h.held v session hv

theorem clearSlot (h : Isolated m thread Near s₀ s) (kind : ScopeKind) :
    Isolated m thread Near s₀ (m.clearSlot thread kind s).2 := by
  refine h.rescope ?_ ?_ ?_ rfl
  · intro m' thread' hne
    rw [Container.clearSlot, Container.threadScopes_update, if_neg hne]
  · intro kind' c hc
    rw [Container.slot_clear] at hc
    split at hc
    · cases hc
    · exact h.attached kind' c hc
  · intro v session hv
    rw [Container.conversationSlot_clear] at hv
    exact h.held v session hv

theorem forgetScopes (h : Isolated m thread Near s₀ s) :
    Isolated m thread Near s₀ (m.forgetScopes thread s) := by
  refine h.rescope ?_ ?_ ?_ rfl
  · intro m' thread' hne
    rw [Container.threadScopes_forget, if_neg hne]
  · intro kind c hc
    rw [Container.slot_forget, if_pos rfl] at hc
    cases hc
  · intro v session hv
    rw [Container.conversationSlot_forget, if_pos rfl] at hv
    cases hv

end Isolated

structure Hand.Close (Near : ScopeContext → Prop) (γ : Hand) : Prop where
  doomed : ∀ c ∈ γ.doomed, Near c
  falling : ∀ c ∈ γ.falling, Near c
  begun : ∀ v session, (v, session) ∈ γ.begun → Near v.context ∧ Near session
  restoring : ∀ c kind, (c, kind) ∈ γ.restoring → Near c

namespace Hand.Close

variable {Near : ScopeContext → Prop} {γ : Hand} {c : ScopeContext}

theorem doom (h : γ.Close Near) {contexts : List ScopeContext} (hc : ∀ c ∈ contexts, Near c) :
    (γ.doom contexts).Close Near :=
  { h with doomed := fun c hin => (List.mem_append.1 hin).elim (hc c) (h.doomed c) }

theorem undoom {contexts : List ScopeContext} (h : (γ.doom contexts).Close Near) : γ.Close Near :=
  { h with doomed := fun c hin => h.doomed c (List.mem_append_right _ hin) }

theorem fall (h : γ.Close Near) (hc : Near c) :
    Hand.Close Near { γ with falling := c :: γ.falling } :=
  { h with falling := fun x hin => (List.mem_cons.1 hin).elim (· ▸ hc) (h.falling x) }

theorem unfall (h : Hand.Close Near { γ with falling := c :: γ.falling }) : γ.Close Near :=
  { h with falling := fun x hin => h.falling x (List.mem_cons_of_mem _ hin) }

theorem begin {v : Conversation} {session : ScopeContext} (h : γ.Close Near)
    (hv : Near v.context) (hsession : Near session) :
    Hand.Close Near { γ with begun := (v, session) :: γ.begun } :=
  { h with
    begun := by
      intro w x hin
      rcases List.mem_cons.1 hin with heq | hin
      · cases heq
        exact ⟨hv, hsession⟩
      · exact h.begun w x hin }

theorem unbegin {v : Conversation} {session : ScopeContext}
    (h : Hand.Close Near { γ with begun := (v, session) :: γ.begun }) :
    (Near v.context ∧ Near session) ∧ γ.Close Near :=
  ⟨h.begun v session List.mem_cons_self,
    { h with begun := fun w x hin => h.begun w x (List.mem_cons_of_mem _ hin) }⟩

theorem restore (h : γ.Close Near) (hc : Near c) (kind : ScopeKind) :
    (γ.restore c kind).Close Near :=
  { h with
    restoring := by
      intro x kind' hin
      rcases List.mem_cons.1 hin with heq | hin
      · cases heq
        exact hc
      · exact h.restoring x kind' hin }

theorem unrestore {kind : ScopeKind} (h : (γ.restore c kind).Close Near) :
    Near c ∧ γ.Close Near :=
  ⟨h.restoring c kind List.mem_cons_self,
    { h with restoring := fun x kind' hin => h.restoring x kind' (List.mem_cons_of_mem _ hin) }⟩

theorem enters {request : Request} {m : Container} (h : γ.Close Near)
    (hwithin : request.call.Within m Near) (hc : γ.Enters request c) : Near c := by
  rcases hc with hasks | hfalling | hrestoring
  · exact hwithin.asked hasks
  · exact h.falling c hfalling
  · obtain ⟨⟨_, kind⟩, hin, rfl⟩ := List.mem_map.1 hrestoring
    exact h.restoring _ kind hin

end Hand.Close

section Containers

variable {call : Call} {m : Container} {kind : ScopeKind} {slot : ConversationSlot}

theorem Call.ends.container (h : call.ends m kind) : call.container? = some m := by
  unfold Call.ends at h
  split at h
  · rw [h.1]
    rfl
  · rw [h]
    rfl
  · cases h

theorem Call.finishes.container (h : call.finishes m slot) : call.container? = some m := by
  unfold Call.finishes at h
  split at h
  · rw [h.1]
    rfl
  · rw [h.1]
    rfl
  · rw [h.1]
    rfl
  · cases h

theorem Call.leaves.container (h : call.leaves m slot) : call.container? = some m := by
  rcases h with h | ⟨rfl, _⟩
  · exact h.container
  · rfl

end Containers

/-- A request that is confined leaves the rest alone in every move. -/
theorem Isolated.move {fair : Container → Thread → ScopeContext → Store Unit → Prop}
    {request : Request} {m : Container} {Near : ScopeContext → Prop} {γ γ' : Hand}
    {s₀ s s' : Store σ} (hwithin : request.call.Within m Near)
    (hmove : Move fair request γ s γ' s')
    (h : γ.Close Near ∧ Isolated m request.thread Near s₀ s) :
    γ'.Close Near ∧ Isolated m request.thread Near s₀ s' := by
  obtain ⟨hhand, hs⟩ := h
  cases hmove with
  | aside hst => exact ⟨hhand, hs.aside hst⟩
  | founded hcall => exact absurd hcall (hwithin.none_new _ _ _)
  | noted => exact ⟨hhand, hs.noted _⟩
  | entered hc hf =>
    refine ⟨hhand, hs.relist (hhand.enters hwithin hc) fun r id v hv => ?_⟩
    rwa [(hf r).conversations] at hv
  | opened => exact ⟨hhand, (hs.new _).2⟩
  | switched hcall =>
    exact ⟨hhand, hs.setActive (hwithin.context hcall (List.mem_singleton_self _)) _⟩
  | @marked _ _ v f hmarks =>
    exact ⟨hhand, hs.mark (hwithin.marked hmarks) (fun w hw =>
      (Conversation.conversation_update v w f s).trans (if_neg hw)) rfl⟩
  | removed hcall =>
    exact ⟨hhand, hs.removeConversation (hwithin.context hcall (List.mem_singleton_self _)) _⟩
  | doomed hcall => exact ⟨hhand.doom fun _ => hwithin.context hcall, hs⟩
  | @deactivated γ _ c =>
    have hc := hhand.doomed c List.mem_cons_self
    exact ⟨hhand.undoom.fall hc, hs.setActive hc false⟩
  | @emptied _ _ c hc =>
    have hnear := hc.elim (hhand.doomed c) (hhand.falling c)
    exact ⟨hhand.doom (hs.of_rows hnear (List.Subset.refl _)), hs.takeConversations hnear⟩
  | fallen => exact ⟨hhand.unfall, hs⟩
  | spared => exact ⟨hhand.undoom, hs⟩
  | started hcall =>
    obtain rfl := hwithin.is_container hcall rfl
    obtain ⟨hnear, hnew⟩ := hs.new _
    exact ⟨hhand.doom hs.of_replaced, hnew.place _ hnear _⟩
  | @reattached _ _ params c hcall hsession =>
    obtain rfl := hwithin.is_container hcall rfl
    obtain ⟨_, session⟩ := params
    cases hsession
    have hc : Near c := hwithin.context hcall (List.mem_singleton_self c)
    exact ⟨hhand.doom hs.of_replaced, Isolated.place (c, s) hs hc _⟩
  | @installed _ _ _ _ c hcall =>
    obtain rfl := hwithin.is_container hcall rfl
    obtain ⟨hc, hrest⟩ := hhand.unrestore
    exact ⟨hrest.doom hs.of_replaced, Isolated.place (c, s) hs hc _⟩
  | shared hcall =>
    obtain rfl := hwithin.is_container hcall rfl
    obtain ⟨hnear, hnew⟩ := hs.new .application
    refine ⟨hhand, (hnew.setActive hnear true).recontainer _ ?_⟩
    rintro c hc
    cases hc
    exact hnear
  | vacated hends =>
    obtain rfl := hwithin.is_container rfl hends.container
    exact ⟨hhand.doom fun x hx => hs.attached _ x (Option.mem_toList.1 hx), hs.clearSlot _⟩
  | unshared hends =>
    obtain rfl := hwithin.is_container rfl hends.container
    exact ⟨hhand.doom fun x hx => hs.shared x (Option.mem_toList.1 hx),
      hs.recontainer _ fun c hc => by cases hc⟩
  | detached hcall =>
    obtain rfl := hwithin.is_container hcall rfl
    exact ⟨hhand, hs.clearSlot _⟩
  | forgotten hcall =>
    obtain rfl := hwithin.is_container hcall rfl
    exact ⟨hhand, hs.forgetScopes⟩
  | turned hleaves =>
    obtain rfl := hwithin.is_container rfl hleaves.container
    exact ⟨hhand, hs.vacate fun _ _ => hleaves.ne_active⟩
  | released hleaves hheld =>
    obtain rfl := hwithin.is_container rfl hleaves.container
    exact ⟨hhand, (hs.vacate fun _ _ => hleaves.ne_active).release (hs.held _ _ hheld).1⟩
  | @finished _ _ _ _ v session hfinishes hheld =>
    obtain rfl := hwithin.is_container rfl hfinishes.container
    obtain ⟨hv, hsession⟩ := hs.held v session hheld
    have hreleased := (hs.vacate fun _ _ => hfinishes.ne_active).release hv
    exact ⟨hhand.doom fun x hx => List.mem_singleton.1 hx ▸ hv,
      hreleased.removeConversation hsession _⟩
  | @expired _ _ _ session hcall hsession =>
    obtain rfl := hwithin.is_container hcall rfl
    have hnear := hs.attached _ session hsession
    exact ⟨hhand.doom (hs.of_rows hnear List.filter_sublist.subset), hs.takeExpired hnear⟩
  | begun hcall hsession =>
    obtain rfl := hwithin.is_container hcall rfl
    have hnear := hs.attached _ _ hsession
    obtain ⟨hv, hbegun⟩ := hs.beginning hnear
    exact ⟨hhand.begin hv hnear, hbegun⟩
  | seated hcall =>
    obtain rfl := hwithin.is_container hcall rfl
    obtain ⟨hnear, hrest⟩ := hhand.unbegin
    refine ⟨hrest, hs.swapConversation _ fun w x heq => ?_⟩
    cases heq
    exact hnear
  | resumed hcall hsession _ hlisted =>
    obtain rfl := hwithin.is_container hcall rfl
    have hnear := hs.attached _ _ hsession
    have hv := hs.listed _ _ _ hnear hlisted
    refine ⟨hhand, (hs.tryAcquire hv).swapConversation _ fun w x heq => ?_⟩
    cases heq
    exact ⟨hv, hnear⟩
  | reviving =>
    obtain ⟨hnear, hnew⟩ := hs.new _
    exact ⟨hhand.restore hnear _, hnew⟩
  | revived => exact ⟨hhand.unrestore.2, hs⟩
  | conversed =>
    obtain ⟨hc, hrest⟩ := hhand.unrestore
    exact ⟨hrest, hs.converse hc _ _⟩
  | @listed _ _ _ session _ id _ _ hsession =>
    obtain ⟨hc, hrest⟩ := hhand.unrestore
    obtain ⟨⟨_, kind⟩, hin, rfl⟩ := List.mem_map.1 hsession
    have hsession := hrest.restoring _ kind hin
    exact ⟨hrest, (hs.converse hc _ _).putConversation (v := ⟨_⟩) hsession hc id⟩

end ContextualLifecycle
