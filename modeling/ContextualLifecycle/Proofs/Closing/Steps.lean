import ContextualLifecycle.Proofs.Closing.Ebbs
import ContextualLifecycle.Proofs.Episode.Conservation

namespace ContextualLifecycle.Closing

variable {σ : Type} {w : Closing σ} {owed : Debt → Prop} {s t u : Store (Watched library σ)}
  {c : ScopeContext} {id : ContextualId}

theorem ebbs_of_context (hcontext : ∀ c, t.context c = s.context c)
    (hcontexts : t.nextContext = s.nextContext) (hserials : s.nextCell ≤ t.nextCell)
    (hprecedes : s.Precedes t)
    (hcounted : ∀ b : Bag, ¬ b.Anew s t → b.ended s t + b.listed t ≤ b.listed s)
    (hattached : ∀ (m : Container) thread kind c, m.attached thread kind t = some c →
      m.attached thread kind s = some c)
    (hnotices : ∀ x ∈ t.since Event.ended? s.journal.size, owed (.notice x.1 x.2.1 x.2.2)) :
    w.Ebbs owed s t := by
  have hconversation : ∀ (c : ScopeContext) id, c.conversation? id t = c.conversation? id s := by
    intro c id
    rw [ScopeContext.conversation?, hcontext]
    rfl
  have hheld : ∀ (b : Bag) n, b.held t n = b.held s n := fun b n =>
    Bag.held_congr fun c _ => ScopeContext.holding_of_entries (by rw [hcontext]) b
  exact {
    toPrecedes := hprecedes
    contexts := Nat.le_of_eq hcontexts.symm
    serials := hserials
    cells := fun c id n ht => .inl (by rwa [hcontext] at ht)
    filling := fun c id n _ _ hs _ => by rwa [hcontext]
    active := fun c ht => .inl (by rwa [hcontext] at ht)
    refused := fun c _ _ id hid => by rwa [hcontext]
    conversations := fun c id v _ hv => by rwa [hconversation] at hv
    unclaimed := fun v _ hv c id => by
      rw [hconversation]
      exact hv c id
    emptied := fun c _ _ hs ht => by
      rw [hcontext, hs] at ht
      cases ht
    entries := fun c id n b _ _ hs => .inl (by rwa [hcontext])
    gone := fun b => by
      rw [hheld]
      exact Nat.le_add_left _ _
    once := fun b hb => by
      have hcount := hcounted b hb
      rw [hheld, hcontexts]
      omega
    attached := hattached
    silent := fun m kind c _ hd _ hin => hd (hnotices _ hin)
    heard := fun c hd _ _ => by
      have hnone : c.heard s t = 0 := by
        rw [ScopeContext.heard, List.countP_eq_zero]
        rintro ⟨m, kind, x⟩ hin heq
        obtain ⟨rfl, rfl⟩ : kind = .conversation ∧ x = c := by simpa using heq
        exact hd m (hnotices _ hin)
      rw [hnone]
      exact ⟨Nat.zero_le _, fun _ => rfl⟩ }

theorem ebbs_aside (hcontexts : t.contexts = s.contexts) (hnext : t.nextContext = s.nextContext)
    (hserials : t.nextCell = s.nextCell) (hjournal : t.journal = s.journal)
    (hseen : t.seen = s.seen) (hlisted : ∀ b : Bag, b.listed t ≤ b.listed s)
    (hattached : ∀ (m : Container) thread kind c, m.attached thread kind t = some c →
      m.attached thread kind s = some c) : w.Ebbs owed s t := by
  refine ebbs_of_context (Store.context_congr hcontexts) hnext (Nat.le_of_eq hserials.symm)
    ⟨?_, ?_⟩ ?_ hattached ?_
  · exact hjournal ▸ List.prefix_refl _
  · exact hseen ▸ List.suffix_refl _
  · intro b _
    rw [b.ended_of_journal hjournal, Nat.zero_add]
    exact hlisted b
  · intro x hx
    rw [Store.since_of_journal hjournal] at hx
    cases hx

theorem ebbs_stacked (thread : Thread) (stack : List (ScopeContext × ContextualId))
    (s : Store (Watched library σ)) : w.Ebbs owed s (s.setStack thread stack) :=
  ebbs_aside rfl rfl rfl rfl rfl (fun _ => Nat.le_refl _) fun _ _ _ _ h => h

theorem Ebbs.refl (owed : Debt → Prop) (s : Store (Watched library σ)) : w.Ebbs owed s s :=
  ebbs_aside rfl rfl rfl rfl rfl (fun _ => Nat.le_refl _) fun _ _ _ _ h => h

theorem precedes_note (event : Event) (s : Store (Watched library σ)) :
    s.Precedes (s.note event) :=
  ⟨⟨[event], by simp [Store.note]⟩, List.suffix_refl _⟩

theorem ended_note (b : Bag) (event : Event) (s : Store (Watched library σ)) :
    b.ended s (s.note event) = event.destruction?.toList.count b := by
  rw [Bag.ended, Store.since_self_note]

theorem ebbs_note {event : Event} (hdestroyed : event.destruction? = none)
    (hended : ∀ x, event.ended? = some x → owed (.notice x.1 x.2.1 x.2.2))
    (s : Store (Watched library σ)) : w.Ebbs owed s (s.note event) := by
  refine ebbs_of_context (fun _ => rfl) rfl (Nat.le_refl _) (precedes_note event s) ?_
    (fun _ _ _ _ h => h) ?_
  · intro b _
    rw [ended_note, hdestroyed]
    exact Nat.le_of_eq (Nat.zero_add _)
  · intro x hx
    rw [Store.since_self_note, Option.mem_toList] at hx
    exact hended x hx

theorem settles_note {event : Event} (hdestroyed : event.destruction? = none)
    (hended : event.ended? = none) (s : Store (Watched library σ)) :
    w.Settles s (s.note event) := by
  apply ebbs_note hdestroyed
  intro x hx
  rw [hended] at hx
  cases hx

theorem ebbs_notified (m : Container) (kind : ScopeKind) (c : ScopeContext)
    (s : Store (Watched library σ)) :
    w.Ebbs (· = .notice m kind c) s (s.note (.notified .destroyed m kind c)) := by
  apply ebbs_note rfl
  rintro _ ⟨⟩
  rfl

theorem ebbs_saw {sighting : Sighting library} (s : Store (Watched library σ)) :
    w.Settles s (s.saw sighting) := by
  refine ebbs_of_context (fun _ => rfl) rfl (Nat.le_refl _)
    ⟨List.prefix_refl _, List.suffix_cons _ _⟩ ?_ (fun _ _ _ _ h => h) ?_
  · intro b _
    have hended : b.ended s (s.saw sighting) = 0 := b.ended_of_journal rfl
    rw [hended, Nat.zero_add]
    exact Nat.le_refl _
  · have hnone : (s.saw sighting).since Event.ended? s.journal.size = [] :=
      Store.since_of_journal rfl
    rw [hnone]
    exact fun _ hx => by cases hx

theorem listed_update (e : Episode) (f : Episode.Record → Episode.Record) (b : Bag)
    (s : Store (Watched library σ)) : b.listed (e.update f s) =
      if b.episode = e then (f (s.episode e)).dependents.count ⟨b.contextual, b.inst⟩
      else b.listed s := by
  rw [Bag.listed, Episode.episode_update]
  split <;> rfl

theorem ebbs_episode (e : Episode) {f : Episode.Record → Episode.Record}
    (hf : ∀ r, (f r).dependents = r.dependents) (s : Store (Watched library σ)) :
    w.Ebbs owed s (e.update f s) := by
  refine ebbs_aside rfl rfl rfl rfl rfl ?_ fun _ _ _ _ h => h
  intro b
  rw [listed_update]
  split
  · rename_i he
    exact Nat.le_of_eq (by rw [hf, Bag.listed, he])
  · exact Nat.le_refl _

theorem ebbs_newEpisode (contextual : Option Contextual) (outer : Option Foreign)
    (factor : UInt64) (s : Store (Watched library σ)) :
    w.Ebbs owed s (Episode.new contextual outer factor s).2 := by
  refine ebbs_aside rfl rfl rfl rfl rfl ?_ fun _ _ _ _ h => h
  intro b
  rw [Bag.listed, Episode.new]
  simp only [Store.episode, Store.setEpisode, Table.get?_insert]
  split
  · exact Nat.zero_le _
  · exact Nat.le_refl _

theorem ebbs_dependentTaken {e : Episode} {front back : List Dependent} {d : Dependent}
    (hd : (s.episode e).dependents = front ++ d :: back) :
    w.Settles s ((e.relist (front ++ back) s).note (.destroying d.contextual d.inst e)) := by
  have hprecedes := precedes_note (.destroying d.contextual d.inst e) s
  refine ebbs_of_context (fun _ => rfl) rfl (Nat.le_refl _) ⟨hprecedes.journal, hprecedes.seen⟩ ?_
    (fun _ _ _ _ h => h) ?_
  · intro b _
    have hended : b.ended s ((e.relist (front ++ back) s).note
        (.destroying d.contextual d.inst e)) = [⟨d.contextual, d.inst, e⟩].count b :=
      ended_note b (.destroying d.contextual d.inst e) s
    have hlisted : b.listed ((e.relist (front ++ back) s).note
        (.destroying d.contextual d.inst e)) = _ :=
      listed_update e (fun r => { r with dependents := front ++ back }) b s
    rw [hended, hlisted]
    by_cases he : b.episode = e
    · rw [if_pos he, Bag.listed, he, hd]
      simp only [List.count_append, List.count_cons, List.count_nil]
      by_cases hb : (⟨d.contextual, d.inst, e⟩ : Bag) = b
      · subst hb
        simp only [beq_self_eq_true, ↓reduceIte]
        omega
      · have hne : (⟨d.contextual, d.inst, e⟩ == b) = false := by simpa using hb
        simp only [hne, Bool.false_eq_true, ↓reduceIte]
        omega
    · rw [if_neg he]
      have hne : (⟨d.contextual, d.inst, e⟩ == b) = false := by
        rw [beq_eq_false_iff_ne]
        rintro rfl
        exact he rfl
      simp only [List.count_cons, List.count_nil, hne, Bool.false_eq_true, ↓reduceIte]
      omega
  · intro x hx
    have hnone : x ∈ (s.note (.destroying d.contextual d.inst e)).since Event.ended?
      s.journal.size := hx
    rw [Store.since_self_note] at hnone
    cases hnone

theorem listed_register (r : Episode.Record) (unit : Contextual) (inst : Instance) (d : Dependent)
    (hd : d ≠ ⟨unit, inst⟩) :
    (r.register unit inst).dependents.count d = r.dependents.count d := by
  have hne : ((⟨unit, inst⟩ : Dependent) == d) = false := by
    rw [beq_eq_false_iff_ne]
    exact Ne.symm hd
  obtain ⟨_, heq⟩ | ⟨_, heq | heq⟩ := r.register_cases unit inst
  · rw [heq]
  · rw [heq, List.count_cons, hne, if_neg Bool.false_ne_true, Nat.add_zero]
  · rw [heq, List.count_append, List.count_singleton, hne, if_neg Bool.false_ne_true, Nat.add_zero]

theorem ebbs_registered {e : Episode} {unit : Contextual} {inst : Instance}
    (hcontexts : u.contexts = s.contexts) (hnext : u.nextContext = s.nextContext)
    (hserials : u.nextCell = s.nextCell) (hepisodes : u.episodes = s.episodes)
    (hprecedes : s.Precedes u) (hanew : ∀ b : Bag, b.episode = e → b.contextual = unit →
      b.inst = inst → b.Anew s (e.addDependent unit (some inst) u))
    (hdestroyed : u.since Event.destruction? s.journal.size = [])
    (hended : u.since Event.ended? s.journal.size = [])
    (hattached : ∀ (m : Container) thread kind c, m.attached thread kind u = some c →
      m.attached thread kind s = some c) :
    w.Ebbs owed s (e.addDependent unit (some inst) u) := by
  refine ebbs_of_context ?_ hnext (Nat.le_of_eq hserials.symm)
    ⟨hprecedes.journal, hprecedes.seen⟩ ?_ hattached ?_
  · intro c
    change (u.contexts.get? c).getD default = _
    rw [hcontexts]
    rfl
  · intro b hb
    have hlisted := listed_update e (·.register unit inst) b u
    have hsame : ∀ x, u.episode x = s.episode x := Store.episode_congr hepisodes
    have hnone : b.ended s (e.addDependent unit (some inst) u) = 0 := by
      change (u.since Event.destruction? s.journal.size).count b = 0
      rw [hdestroyed, List.count_nil]
    change _ + b.listed (e.update (·.register unit inst) u) ≤ _
    rw [hnone, hlisted, Nat.zero_add]
    split
    · rename_i he
      have hne : (⟨b.contextual, b.inst⟩ : Dependent) ≠ ⟨unit, inst⟩ := by
        intro heq
        obtain ⟨hunit, hinst⟩ : b.contextual = unit ∧ b.inst = inst := by simpa using heq
        exact hb (hanew b he hunit hinst)
      exact Nat.le_of_eq (by rw [listed_register _ _ _ _ hne, hsame, Bag.listed, he])
    · exact Nat.le_of_eq (by rw [Bag.listed, hsame, Bag.listed])
  · intro x hx
    change x ∈ u.since Event.ended? s.journal.size at hx
    rw [hended] at hx
    cases hx

theorem anew_of_note {b : Bag} (event : Event) (hb : event.BringsUp b)
    (h : (s.note event).Precedes t) : b.Anew s t := by
  have hnoted : b.Anew s (s.note event) := by
    refine .inl ⟨event, ?_, hb⟩
    simp [Store.note]
  exact hnoted.sooner (precedes_note event s) h

theorem ebbs_conversation (v : Conversation) (f : Conversation.Record → Conversation.Record)
    (s : Store (Watched library σ)) : w.Ebbs owed s (v.update f s) :=
  ebbs_aside rfl rfl rfl rfl rfl (fun _ => Nat.le_refl _) fun _ _ _ _ h => h

theorem ebbs_wait (span : Duration) (s : Store (Watched library σ)) : w.Ebbs owed s (s.wait span) :=
  ebbs_aside rfl rfl rfl rfl rfl (fun _ => Nat.le_refl _) fun _ _ _ _ h => h

theorem ebbs_keep (own : σ) (s : Store (Watched library σ)) : w.Ebbs owed s (s.keep own) :=
  ebbs_aside rfl rfl rfl rfl rfl (fun _ => Nat.le_refl _) fun _ _ _ _ h => h

theorem ebbs_container {m : Container} {r : Container.Record} (hcontainers : t.containers =
      s.containers.insert m r) (hr : ∀ c, r.application = some c →
      (s.container m).application = some c)
    (hscopes : t.scopes = s.scopes) (hepisodes : t.episodes = s.episodes)
    (hcontexts : t.contexts = s.contexts) (hnext : t.nextContext = s.nextContext)
    (hserials : t.nextCell = s.nextCell) (hjournal : t.journal = s.journal)
    (hseen : t.seen = s.seen) : w.Ebbs owed s t := by
  refine ebbs_aside hcontexts hnext hserials hjournal hseen ?_ ?_
  · intro b
    rw [Bag.listed, Store.episode_congr hepisodes]
    exact Nat.le_refl _
  · intro m' thread kind c ht
    refine Container.attached_imp ht (fun hm => ?_) fun hm => ?_
    · rw [Container.application, Store.container, hcontainers, Table.get?_insert] at hm
      split at hm
      · rename_i heq
        rw [heq]
        exact hr c hm
      · exact hm
    · rwa [Container.slot_congr hscopes] at hm

theorem ebbs_scopes {m : Container} {thread : Thread} {f : ThreadScopes → ThreadScopes}
    (hf : ∀ r kind c, (f r).contexts.get? kind = some c → r.contexts.get? kind = some c)
    (s : Store (Watched library σ)) : w.Ebbs owed s (m.updateScopes thread f s) := by
  refine ebbs_aside rfl rfl rfl rfl rfl (fun _ => Nat.le_refl _) ?_
  intro m' thread' kind c ht
  refine Container.attached_imp ht (fun hm => hm) fun hm => ?_
  rw [Container.slot, Container.threadScopes_update] at hm
  split at hm
  · rename_i heq
    cases heq
    exact hf _ kind c hm
  · exact hm

theorem ebbs_swapConversation (m : Container) (thread : Thread) (slot : ConversationSlot)
    (s : Store (Watched library σ)) : w.Ebbs owed s (m.swapConversation thread slot s).2 :=
  ebbs_scopes (f := fun r => { r with conversation := slot }) (fun _ _ _ hc => hc) s

theorem ebbs_clearSlot (m : Container) (thread : Thread) (kind : ScopeKind)
    (s : Store (Watched library σ)) : w.Ebbs owed s (m.clearSlot thread kind s).2 := by
  refine ebbs_scopes (f := fun r => { r with contexts := r.contexts.erase kind }) ?_ s
  intro r kind' c hc
  rw [Table.get?_erase] at hc
  split at hc
  · cases hc
  · exact hc

theorem ebbs_forgetScopes (m : Container) (thread : Thread) (s : Store (Watched library σ)) :
    w.Ebbs owed s (m.forgetScopes thread s) := by
  refine ebbs_aside rfl rfl rfl rfl rfl (fun _ => Nat.le_refl _) ?_
  intro m' thread' kind c ht
  refine Container.attached_imp ht (fun hm => hm) fun hm => ?_
  rw [Container.slot, Container.threadScopes_forget] at hm
  split at hm
  · cases hm
  · exact hm

theorem ebbs_clearApplication (m : Container) (s : Store (Watched library σ)) :
    w.Ebbs owed s (m.swapApplication none s).2 :=
  ebbs_container (m := m) rfl (fun _ hc => by cases hc) rfl rfl rfl rfl rfl rfl rfl

theorem holding_other {x : ScopeContext} (h : t.context x = s.context x) (b : Bag) :
    x.holding b t = x.holding b s :=
  ScopeContext.holding_of_entries (by rw [h]) b

theorem context_of_insert {r : ScopeContext.Record} (h : t.contexts = s.contexts.insert c r)
    (x : ScopeContext) : t.context x = if x = c then r else s.context x := by
  rw [Store.context, h, Table.get?_insert]
  split <;> rfl

/-- A context changes, but not its entries. Old contexts are not activated, and get no more
conversations; and no context gets old ones. -/
theorem ebbs_context {f : ScopeContext.Record → ScopeContext.Record}
    (hentries : ∀ r, (f r).entries = r.entries)
    (hactive : (f (s.context c)).active = true → (s.context c).active = true ∨
      w.known ≤ c.number ∧ c.number < s.nextContext)
    (hemptied : ¬ owed (.context c) → c.number < w.known →
      (f (s.context c)).active = (s.context c).active)
    (hconversations : ∀ id v, (f (s.context c)).conversations.get? id = some v →
      (s.context c).conversations.get? id = some v ∨
        w.known ≤ c.number ∧ w.known ≤ v.context.number) :
    w.Ebbs owed s (c.update f s) := by
  have hself : (c.update f s).context c = f (s.context c) := ScopeContext.context_update c f s
  have hother : ∀ x : ScopeContext, x ≠ c → (c.update f s).context x = s.context x :=
    fun x hx => ScopeContext.context_update_of_ne hx f s
  have hsame : ∀ x : ScopeContext, ((c.update f s).context x).entries = (s.context x).entries := by
    intro x
    by_cases hx : x = c
    · rw [hx, hself, hentries]
    · rw [hother x hx]
  have hconversation : ∀ (x : ScopeContext) id v, x.conversation? id (c.update f s) = some v →
      x.conversation? id s = some v ∨ w.known ≤ x.number ∧ w.known ≤ v.context.number := by
    intro x id v hv
    by_cases hx : x = c
    · rw [ScopeContext.conversation?, hx, hself] at hv
      rw [hx]
      exact hconversations id v hv
    · rw [ScopeContext.conversation?, hother x hx] at hv
      exact .inl hv
  have hheld : ∀ (b : Bag) n, b.held (c.update f s) n = b.held s n := fun b n =>
    Bag.held_congr fun x _ => ScopeContext.holding_of_entries (hsame x) b
  have hquiet : (c.update f s).since Event.ended? s.journal.size = [] :=
    Store.since_of_journal rfl
  exact {
    toPrecedes := ⟨List.prefix_refl _, List.suffix_refl _⟩
    contexts := Nat.le_refl _
    serials := Nat.le_refl _
    cells := fun x id n ht => .inl (by rwa [ScopeContext.Record.holds, hsame] at ht)
    filling := fun x id n _ _ hs _ => by rwa [hsame]
    active := fun x ht => by
      by_cases hx : x = c
      · rw [hx, hself] at ht
        rw [hx]
        exact hactive ht
      · rw [hother x hx] at ht
        exact .inl ht
    refused := fun x _ _ id hid => by rwa [hsame]
    conversations := fun x id v hx hv => (hconversation x id v hv).resolve_right
      fun hnew => Nat.not_lt_of_le hnew.1 hx
    unclaimed := fun v hv hnone x id hid => by
      rcases hconversation x id v hid with hold | hnew
      · exact hnone x id hold
      · exact Nat.not_lt_of_le hnew.2 hv
    emptied := fun x hd hknown hs ht => by
      by_cases hx : x = c
      · subst hx
        rw [hself, hemptied hd hknown, hs] at ht
        cases ht
      · rw [hother x hx, hs] at ht
        cases ht
    entries := fun x id n b _ _ hs => .inl (by rwa [hsame])
    gone := fun b => by
      rw [hheld]
      exact Nat.le_add_left _ _
    once := fun b _ => by
      have hended : b.ended s (c.update f s) = 0 := b.ended_of_journal rfl
      rw [hended, hheld, Nat.zero_add]
      exact Nat.le_refl _
    attached := fun _ _ _ _ h => h
    silent := fun m kind x _ _ _ hin => by
      rw [hquiet] at hin
      cases hin
    heard := fun x _ _ _ => by
      rw [ScopeContext.heard, hquiet, List.countP_nil]
      exact ⟨Nat.zero_le _, fun _ => rfl⟩ }

theorem ebbs_deactivated (c : ScopeContext) (s : Store (Watched library σ)) :
    w.Ebbs (· = .context c) s (c.setActive false s) :=
  ebbs_context (f := fun r => { r with active := false }) (fun _ => rfl) (fun h => by cases h)
    (fun hd => absurd rfl hd) fun _ _ hv => .inl hv

theorem ebbs_activated (hnew : w.known ≤ c.number) (hissued : c.number < s.nextContext) :
    w.Ebbs owed s (c.setActive true s) :=
  ebbs_context (f := fun r => { r with active := true }) (fun _ => rfl)
    (fun _ => .inr ⟨hnew, hissued⟩) (fun _ hold => absurd hnew (Nat.not_le_of_lt hold))
    fun _ _ hv => .inl hv

theorem ebbs_putConversation {v : Conversation} (hnew : w.known ≤ c.number)
    (hv : w.known ≤ v.context.number) (id : String) :
    w.Ebbs owed s (c.putConversation id v s) := by
  refine ebbs_context (f := fun r => { r with conversations := r.conversations.insert id v })
    (fun _ => rfl) .inl (fun _ _ => rfl) ?_
  intro id' v' hv'
  rw [Table.get?_insert] at hv'
  split at hv'
  · cases hv'
    exact .inr ⟨hnew, hv⟩
  · exact .inl hv'

theorem ebbs_conversations {f : ScopeContext.Record → ScopeContext.Record}
    (hentries : ∀ r, (f r).entries = r.entries) (hactive : ∀ r, (f r).active = r.active)
    (hconversations : ∀ r id v, (f r).conversations.get? id = some v →
      r.conversations.get? id = some v) (c : ScopeContext) (s : Store (Watched library σ)) :
    w.Ebbs owed s (c.update f s) :=
  ebbs_context hentries (fun h => .inl (by rwa [hactive] at h)) (fun _ _ => hactive _)
    fun id v hv => .inl (hconversations _ id v hv)

theorem ebbs_takeConversations (c : ScopeContext) (s : Store (Watched library σ)) :
    w.Ebbs owed s (c.takeConversations s).2 :=
  ebbs_conversations (f := fun r => { r with conversations := ∅ }) (fun _ => rfl) (fun _ => rfl)
    (fun _ _ _ hv => by cases hv) c s

theorem ebbs_removeConversation (c : ScopeContext) (id : String)
    (s : Store (Watched library σ)) : w.Ebbs owed s (c.removeConversation id s).2 := by
  refine ebbs_conversations (f := fun r => { r with conversations := r.conversations.erase id })
    (fun _ => rfl) (fun _ => rfl) ?_ c s
  intro r id' v hv
  rw [Table.get?_erase] at hv
  split at hv
  · cases hv
  · exact hv

theorem ebbs_takeExpired (c : ScopeContext) (s : Store (Watched library σ)) :
    w.Ebbs owed s (c.takeExpired s).2 :=
  c.takeExpired_keeps (fun _ t ht => ht.trans (settles_note rfl rfl t).owing)
    (fun id _ ht => ht.trans (ebbs_removeConversation c id _)) (.refl owed s)

theorem ebbs_new (kind : ScopeKind) (hknown : w.known ≤ s.nextContext) :
    w.Ebbs owed s (ScopeContext.new kind s).2 := by
  let t := (ScopeContext.new kind s).2
  let c : ScopeContext := ⟨s.nextContext⟩
  have hcontext : ∀ x, t.context x = if x = c then { kind } else s.context x :=
    context_of_insert (r := { kind }) rfl
  have hold : ∀ x : ScopeContext, x.number < s.nextContext → t.context x = s.context x := by
    intro x hx
    rw [hcontext, if_neg]
    rintro rfl
    exact Nat.lt_irrefl _ hx
  have hbefore : ∀ x : ScopeContext, x.number < w.known → t.context x = s.context x :=
    fun x hx => hold x (Nat.lt_of_lt_of_le hx hknown)
  have hended : ∀ b : Bag, b.ended s t = 0 := fun b => b.ended_of_journal rfl
  have hheld : ∀ (b : Bag) n, n ≤ s.nextContext → b.held t n = b.held s n := fun b n hn =>
    Bag.held_congr fun x hx => holding_other (hold x (Nat.lt_of_lt_of_le hx hn)) b
  have hquiet : t.since Event.ended? s.journal.size = [] := Store.since_of_journal rfl
  exact {
    toPrecedes := ⟨List.prefix_refl _, List.suffix_refl _⟩
    contexts := Nat.le_succ _
    serials := Nat.le_refl _
    cells := fun x id n ht => by
      rw [hcontext] at ht
      split at ht
      · cases ht
      · exact .inl ht
    filling := fun x id n _ _ hs ht => by
      rw [hcontext] at ht ⊢
      split at ht
      · cases ht
      · rename_i hx
        rwa [if_neg hx]
    active := fun x ht => by
      rw [hcontext] at ht
      split at ht
      · cases ht
      · exact .inl ht
    refused := fun x hx _ id hid => by rwa [hbefore x hx]
    conversations := fun x id v hx hv => by
      rw [ScopeContext.conversation?, hbefore x hx] at hv
      exact hv
    unclaimed := fun v _ hnone x id hid => by
      rw [ScopeContext.conversation?, hcontext] at hid
      split at hid
      · cases hid
      · exact hnone x id hid
    emptied := fun x _ hx hs ht => by
      rw [hbefore x hx, hs] at ht
      cases ht
    entries := fun x id n b _ hx hs => .inl (by rwa [hbefore x hx])
    gone := fun b => by
      rw [hheld b _ hknown]
      exact Nat.le_add_left _ _
    once := fun b _ => by
      have hnew : c.holding b t = 0 := by
        rw [ScopeContext.holding, hcontext, if_pos rfl]
        rfl
      have hsum : b.held t t.nextContext = b.held t s.nextContext + c.holding b t := rfl
      rw [hended, hsum, hnew, hheld b _ (Nat.le_refl _)]
      simp only [Nat.zero_add, Nat.add_zero]
      exact Nat.le_refl _
    attached := fun _ _ _ _ h => h
    silent := fun m kind x _ _ _ hin => by
      rw [hquiet] at hin
      cases hin
    heard := fun x _ _ _ => by
      rw [ScopeContext.heard, hquiet, List.countP_nil]
      exact ⟨Nat.zero_le _, fun _ => rfl⟩ }

end ContextualLifecycle.Closing
