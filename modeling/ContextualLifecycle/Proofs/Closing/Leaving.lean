import ContextualLifecycle.Proofs.Closing.Clearing

namespace ContextualLifecycle

variable {σ : Type}

/-- The conversations that the context lists, but for those that were torn down before. -/
def ScopeContext.standing (c : ScopeContext) (s : Store σ) : List Conversation :=
  (s.context c).conversations.values.filter fun v => (s.context v.context).active

/-- What observers are told when the context of a scope is torn down. -/
def Container.farewell (m : Container) (kind : ScopeKind) (c : ScopeContext) (s : Store σ) :
    List Notice :=
  (if kind = .session then
    (c.standing s).map fun v => (.destroyed, m, .conversation, v.context) else []) ++
    [(.destroyed, m, kind, c)]

/-- The store once the thread has no scopes, and the container shares no context. -/
def Container.deserted (m : Container) (thread : Thread) (s : Store σ) : Store σ :=
  m.forgetScopes thread (m.swapApplication none s).2

theorem ScopeContext.standing_congr {s t : Store σ}
    (h : ∀ x : ScopeContext, t.context x = s.context x) (c : ScopeContext) :
    c.standing t = c.standing s := by
  simp only [standing, h]

theorem Container.farewell_congr {s t : Store σ}
    (h : ∀ x : ScopeContext, t.context x = s.context x) (m : Container) (kind : ScopeKind)
    (c : ScopeContext) : m.farewell kind c t = m.farewell kind c s := by
  simp only [farewell, c.standing_congr h]

theorem flatMap_if {α β : Type} (p : α → Bool) (f : α → β) (xs : List α) :
    xs.flatMap (fun a => if p a = true then [f a] else []) = (xs.filter p).map f := by
  induction xs with
  | nil => rfl
  | cons a xs ih =>
    rw [List.flatMap_cons, ih, List.filter_cons]
    split <;> rfl

namespace Closing

variable {w : Closing σ} {host : Host (Watched library σ)} {m : Container} {thread : Thread}
  {s t u : Store (Watched library σ)} {c x : ScopeContext}
  {gone : ScopeContext → Prop} {told : List Notice}

theorem endConversation_eq (host : Host (Watched library σ)) (m : Container) (v : Conversation) :
    m.endConversation host v = (do
      if ((← get).context v.context).active then m.teardownConversation host v) := by
  refine congrArg (get >>= ·) (funext fun s => ?_)
  rw [Conversation.isDestroyed]
  cases (s.context v.context).active <;> rfl

theorem Clears.of_taken (h : w.Clears gone told (c.takeConversations s).2 t) (hc : gone c) :
    w.Clears gone told s t := by
  let taken := (c.takeConversations s).2
  have hown : taken.context c = { s.context c with conversations := ∅ } :=
    ScopeContext.context_update c _ s
  have hother : ∀ x, x ≠ c → taken.context x = s.context x :=
    fun x hx => ScopeContext.context_update_of_ne hx _ s
  have hprecedes : s.Precedes taken := ⟨List.prefix_refl _, List.suffix_refl _⟩
  refine { h with
    remains := fun x hx => ?_
    kept := fun x hx => ?_
    passed := fun x hx id n b hb => ?_ }
  · rw [h.remains x hx]
    by_cases hxc : x = c
    · rw [hxc, hown]
      rfl
    · rw [hother x hxc]
  · rw [h.kept x hx, hother x]
    rintro rfl
    exact hx hc
  · refine (h.passed x hx id n b ?_).widen hprecedes (.refl t)
    by_cases hxc : x = c
    · rw [hxc, hown, ← hxc]
      exact hb
    · rwa [hother x hxc]

theorem within_of_bare (hbare : ∀ id, c.conversation? id s = none) : s.Within c x ↔ x = c := by
  constructor
  · intro hx
    obtain hself | ⟨id, v, hv, -⟩ := hx.cases_listed
    · exact hself
    · rw [hbare id] at hv
      cases hv
  · rintro rfl
    exact .self

theorem takeConversations_shrinks (c : ScopeContext) (s : Store (Watched library σ)) :
    s.Shrinks (c.takeConversations s).2 :=
  (Store.Quiet.takeConversations c s).shrinks rfl

theorem within_taken {id : String} {v : Conversation} (hs : s.Nested)
    (hv : c.conversation? id s = some v) :
    (c.takeConversations s).2.Within v.context x ↔ s.Within v.context x := by
  refine ⟨.of_shrinks (takeConversations_shrinks c s), fun hx => hx.of_kept fun y hy => ?_⟩
  refine ScopeContext.context_update_of_ne ?_ _ s
  rintro rfl
  exact Store.Within.not_back hs hv hy

namespace Defers

variable (h : w.Defers host)

include h

theorem conversationsEnded (hs : s.Nested) (hwords : s.nextContext ≤ UInt64.size)
    (c : ScopeContext) :
    Run.wp False (collectFailures (m.endConversation host) (c.takeConversations s).1)
      (fun _ t => w.Clears (fun x => ∃ id v, c.conversation? id s = some v ∧
        (s.context v.context).active = true ∧ s.Within v.context x)
        ((c.standing s).map fun v => (.destroyed, m, .conversation, v.context))
        (c.takeConversations s).2 t) (c.takeConversations s).2 := by
  let taken := (c.takeConversations s).2
  let notice : Conversation → Notice := fun v => (.destroyed, m, .conversation, v.context)
  have hshrinks : s.Shrinks taken := takeConversations_shrinks c s
  have htaken : taken.Nested := hshrinks.nested hs
  let reach : Conversation → ScopeContext → Prop := fun v x =>
    (taken.context v.context).active = true ∧ taken.Within v.context x
  have hsame : ∀ v ∈ (s.context c).conversations.values,
      taken.context v.context = s.context v.context := by
    intro v hv
    obtain ⟨id, hv⟩ := ScopeContext.mem_values.1 hv
    refine ScopeContext.context_update_of_ne ?_ _ s
    intro heq
    exact Nat.lt_irrefl _ (heq ▸ hs.ascending c id v hv)
  have hf : ∀ v ∈ (c.takeConversations s).1, ∀ gone told u, (∀ x, reach v x → ¬ gone x) →
      w.Clears gone told taken u →
      Act.wp False (m.endConversation host v) (fun _ t => w.Clears (reach v)
        (if (taken.context v.context).active then [notice v] else []) u t) u := by
    intro v _ gone told u hfree hu
    rw [endConversation_eq]
    refine conversation_turn _ htaken (fun {u'} hu' hnext => ?_) hfree hu
    refine h.teardownConversation hu' ?_ v
    rw [hnext]
    exact hwords
  have hapart : (c.takeConversations s).1.Pairwise fun v v' => ∀ x, reach v x → ¬ reach v' x := by
    refine (Store.Within.pairwise_apart hs c).imp fun hx x hreach hreach' => ?_
    exact hx x (hreach.2.of_shrinks hshrinks) (hreach'.2.of_shrinks hshrinks)
  apply (conversations hf hapart (Bypasses.refl taken) fun _ _ _ _ => not_false).mono
  intro _ t ht
  have htold : (c.takeConversations s).1.flatMap (fun v =>
      if (taken.context v.context).active then [notice v] else []) =
        (c.standing s).map notice := by
    rw [ScopeContext.standing, ← flatMap_if]
    refine List.flatMap_congr fun v hv => ?_
    rw [hsame v hv]
  rw [List.nil_append, htold] at ht
  refine ht.congr fun x => ?_
  rw [false_or]
  constructor
  · rintro ⟨v, hv, hactive, hx⟩
    rw [hsame v hv] at hactive
    obtain ⟨id, hv⟩ := ScopeContext.mem_values.1 hv
    exact ⟨id, v, hv, hactive, (within_taken hs hv).1 hx⟩
  · rintro ⟨id, v, hv, hactive, hx⟩
    have hin := ScopeContext.mem_values.2 ⟨id, hv⟩
    rw [← hsame v hin] at hactive
    exact ⟨v, hin, hactive, (within_taken hs hv).2 hx⟩

theorem teardown (hs : s.Nested) (hwords : s.nextContext ≤ UInt64.size) (kind : ScopeKind)
    (c : ScopeContext) : Act.wp False (m.teardown host kind c)
      (fun _ t => w.Clears (s.Within c) (m.farewell kind c s) s t) s := by
  rw [Container.farewell]
  apply Container.wp_teardown
  · intro hsession
    rw [if_pos hsession]
    apply (h.conversationsEnded hs hwords c).mono
    intro _ u hu
    have hnested := hu.shrinks.nested ((takeConversations_shrinks c s).nested hs)
    have hnext : u.nextContext ≤ UInt64.size := by
      rw [hu.nextContext]
      exact hwords
    apply (h.destroyContext hnested hnext kind c).mono
    intro _ t ht
    have hbare : ∀ id, c.conversation? id u = none := by
      intro id
      cases hv : c.conversation? id u with
      | none => rfl
      | some v =>
        have hbefore := hu.shrinks.listed c id v hv
        rw [ScopeContext.conversation?_takeConversations, if_pos rfl] at hbefore
        cases hbefore
    refine Clears.congr (Clears.of_taken (hu.trans ht) (.inr .self)) fun x => ?_
    rw [within_of_bare hbare]
    constructor
    · rintro (⟨id, v, hv, hactive, hx⟩ | rfl)
      · exact (Store.Within.conversation .self hv hactive).trans hx
      · exact .self
    · intro hx
      exact hx.cases_listed.symm
  · intro hother
    rw [if_neg hother]
    exact h.destroyContext hs hwords kind c

/-- A scope that is attached ends. -/
theorem stop (hs : s.Nested) (hwords : s.nextContext ≤ UInt64.size) {kind : ScopeKind}
    (hkind : kind ≠ .conversation) : Act.wp False (m.stop host kind)
      (fun _ t => w.Clears (fun x => ∃ c ∈ m.attached host.thread kind s, s.Within c x)
        ((m.attached host.thread kind s).toList.flatMap fun c => m.farewell kind c s)
        (m.vacate host.thread kind s) t) s := by
  let vacated := m.vacate host.thread kind s
  have hcontext : ∀ x, vacated.context x = s.context x := context_vacate m host.thread kind
  have hvacated : s.Shrinks vacated := by
    refine ⟨?_, fun x hx => hcontext x ▸ hx, fun x id v hv => ?_, fun v => ?_⟩
    · simp only [vacated, Container.vacate]
      split <;> rfl
    · rwa [ScopeContext.conversation?, hcontext] at hv
    · simp only [vacated, Container.vacate]
      split <;> rfl
  have hnext : vacated.nextContext ≤ UInt64.size := by
    rwa [hvacated.nextContext]
  apply Container.wp_stop hkind
  · intro c hattached
    apply (h.teardown (hvacated.nested hs) hnext kind c).mono
    intro _ t ht
    rw [Container.farewell_congr hcontext] at ht
    simp only [hattached, Option.toList_some, List.flatMap_singleton]
    refine ht.congr fun x => ?_
    rw [Store.Within.of_contexts hcontext]
    simp
  · intro hattached
    rw [hattached]
    refine (Bypasses.refl vacated).congr fun x => ⟨False.elim, ?_⟩
    rintro ⟨c, hc, -⟩
    cases hc

end Defers

/-- The same was journaled and seen in two stores, and the contexts of the second one are those of
the first one, each of them changed in the same way. -/
structure Reshaped (f : ScopeContext → ScopeContext.Record → ScopeContext.Record)
    (s s' : Store (Watched library σ)) : Prop where
  journal : s'.journal = s.journal
  seen : s'.seen = s.seen
  contexts : ∀ x, s'.context x = f x (s.context x)
  nextContext : s'.nextContext = s.nextContext

theorem Clears.reshaped {f : ScopeContext → ScopeContext.Record → ScopeContext.Record}
    {s' t' : Store (Watched library σ)} (h : w.Clears gone told s t)
    (hremains : ∀ x r, f x (ScopeContext.Record.remains r) = (f x r).remains)
    (hentries : ∀ x r, (f x r).entries = r.entries)
    (hs : Reshaped f s s') (ht : Reshaped f t t')
    (hconversations : ∀ v, t'.conversation v = s'.conversation v)
    (hscopes : ∀ (m : Container) thread, t'.threadScopes m thread = s'.threadScopes m thread)
    (happlication : ∀ m : Container, m.application t' = m.application s') :
    w.Clears gone told s' t' where
  journal := by
    rw [hs.journal, ht.journal]
    exact h.journal
  seen := by
    rw [hs.seen, ht.seen]
    exact h.seen
  remains x hx := by rw [ht.contexts, hs.contexts, h.remains x hx, hremains]
  kept x hx := by rw [ht.contexts, hs.contexts, h.kept x hx]
  passed x hx id n b hb := by
    rw [hs.contexts, hentries] at hb
    have hbefore : s'.Precedes s :=
      ⟨hs.journal ▸ List.prefix_refl _, hs.seen ▸ List.suffix_refl _⟩
    have hafter : t.Precedes t' :=
      ⟨ht.journal ▸ List.prefix_refl _, ht.seen ▸ List.suffix_refl _⟩
    exact (h.passed x hx id n b hb).widen hbefore hafter
  notices := by
    have hnotices := h.notices
    rw [Store.notices, Store.since] at hnotices ⊢
    rw [ht.journal, hnotices, Store.notices, Store.notices, Store.since, Store.since, hs.journal]
  conversations := hconversations
  scopes := hscopes
  nextContext := by rw [ht.nextContext, hs.nextContext, h.nextContext]
  application := happlication

/-- Contexts are torn down while the thread leaves scopes, and nothing else happens. -/
abbrev Departs (w : Closing σ) (m : Container) (thread : Thread) (gone : ScopeContext → Prop)
    (told : List Notice) (s t : Store (Watched library σ)) : Prop :=
  w.Clears gone told (m.deserted thread s) (m.deserted thread t)

theorem application_deserted (m m' : Container) (thread : Thread)
    (s : Store (Watched library σ)) : m'.application (m.deserted thread s) =
      if m' = m then none else m'.application s :=
  Container.application_update m m' (fun r => { r with application := none }) s

theorem threadScopes_deserted (m m' : Container) (thread thread' : Thread)
    (s : Store (Watched library σ)) : (m.deserted thread s).threadScopes m' thread' =
      if (m', thread') = (m, thread) then {} else s.threadScopes m' thread' :=
  Container.threadScopes_forget m m' thread thread' (m.swapApplication none s).2

theorem Departs.threadScopes {m' : Container} {thread' : Thread}
    (h : w.Departs m thread gone told s t) (hdesk : (m', thread') ≠ (m, thread)) :
    t.threadScopes m' thread' = s.threadScopes m' thread' := by
  have hother := h.scopes m' thread'
  rwa [threadScopes_deserted, threadScopes_deserted, if_neg hdesk, if_neg hdesk] at hother

theorem Departs.application {m' : Container} (h : w.Departs m thread gone told s t)
    (hm : m' ≠ m) : m'.application t = m'.application s := by
  have hother := Clears.application h m'
  rwa [application_deserted, application_deserted, if_neg hm, if_neg hm] at hother

theorem Departs.of_reshaped {f : ScopeContext → ScopeContext.Record → ScopeContext.Record}
    {s' t' : Store (Watched library σ)} (h : w.Departs m thread gone told s t)
    (hremains : ∀ x r, f x (ScopeContext.Record.remains r) = (f x r).remains)
    (hentries : ∀ x r, (f x r).entries = r.entries)
    (hs : Reshaped f s s') (ht : Reshaped f t t')
    (hconversations : ∀ v, t'.conversation v = s'.conversation v)
    (hscopes : ∀ (m' : Container) thread', (m', thread') ≠ (m, thread) →
      t'.threadScopes m' thread' = s'.threadScopes m' thread')
    (happlication : ∀ m' : Container, m' ≠ m → m'.application t' = m'.application s') :
    w.Departs m thread gone told s' t' := by
  refine Clears.reshaped h hremains hentries ⟨hs.journal, hs.seen, hs.contexts, hs.nextContext⟩
    ⟨ht.journal, ht.seen, ht.contexts, ht.nextContext⟩ hconversations ?_ ?_
  · intro m' thread'
    rw [threadScopes_deserted, threadScopes_deserted]
    split
    · rfl
    · rename_i hdesk
      exact hscopes m' thread' hdesk
  · intro m'
    rw [application_deserted, application_deserted]
    split
    · rfl
    · rename_i hm
      exact happlication m' hm

theorem Clears.deserted (h : w.Clears gone told s t) (m : Container) (thread : Thread) :
    w.Departs m thread gone told s t := by
  have hsame : ∀ u : Store (Watched library σ),
      Reshaped (fun _ r => r) u (m.deserted thread u) := fun _ => ⟨rfl, rfl, fun _ => rfl, rfl⟩
  refine Clears.reshaped (f := fun _ r => r) h (fun _ _ => rfl) (fun _ _ => rfl) (hsame s)
    (hsame t) ?_ ?_ ?_
  · exact h.conversations
  · intro m' thread'
    rw [threadScopes_deserted, threadScopes_deserted, h.scopes]
  · intro m'
    rw [application_deserted, application_deserted, h.application]

theorem Clears.departs {kind : ScopeKind} (h : w.Clears gone told (m.vacate thread kind s) t) :
    w.Departs m thread gone told s t := by
  have hvacated : Reshaped (fun _ r => r) (m.vacate thread kind s) s := by
    refine ⟨?_, ?_, fun x => (context_vacate m thread kind x).symm, ?_⟩ <;>
    · rw [Container.vacate]
      split <;> rfl
  refine Departs.of_reshaped (f := fun _ r => r) (h.deserted m thread) (fun _ _ => rfl)
    (fun _ _ => rfl) hvacated ⟨rfl, rfl, fun _ => rfl, rfl⟩ ?_ ?_ ?_
  · intro v
    rw [h.conversations, Container.vacate]
    split <;> rfl
  · intro m' thread' hdesk
    rw [h.scopes, Container.vacate]
    split
    · rfl
    · exact (Container.threadScopes_update ..).trans (if_neg hdesk)
  · intro m' hm
    rw [h.application, Container.vacate]
    split
    · exact (Container.application_update ..).trans (if_neg hm)
    · rfl

theorem attached_vacate_of_ne {kind kind' : ScopeKind} (hne : kind' ≠ kind) (m : Container)
    (thread : Thread) (s : Store (Watched library σ)) :
    m.attached thread kind' (m.vacate thread kind s) = m.attached thread kind' s := by
  rw [Container.attached, Container.attached, Container.vacate]
  by_cases hkind : kind = .application
  · have hslots : kind' ≠ .application := fun h => hne (h.trans hkind.symm)
    rw [if_pos hkind, if_neg hslots, if_neg hslots]
    rfl
  · rw [if_neg hkind]
    split
    · rfl
    · rw [Container.slot, Container.clearSlot, Container.threadScopes_update, if_pos rfl]
      exact (Table.get?_erase _ _ _).trans (if_neg hne)

theorem conversationSlot_vacate (m : Container) (thread : Thread) (kind : ScopeKind)
    (s : Store (Watched library σ)) :
    m.conversationSlot thread (m.vacate thread kind s) = m.conversationSlot thread s := by
  rw [Container.vacate]
  split
  · rfl
  · rw [Container.conversationSlot, Container.clearSlot, Container.threadScopes_update, if_pos rfl]
    rfl

/-- The thread is on its way out. The contexts of some scopes are gone with all that was in them,
and the scopes that are left have the contexts that they had at first. -/
structure Underway (w : Closing σ) (m : Container) (thread : Thread)
    (s base : Store (Watched library σ)) (roots : List ScopeContext) (told : List Notice)
    (left : List ScopeKind) (u : Store (Watched library σ)) : Prop where
  departs : w.Departs m thread (fun x => ∃ c ∈ roots, s.Within c x) told base u
  base : s.Shrinks base
  attached : ∀ kind ∈ left, m.attached thread kind u = m.attached thread kind s

/-- One more scope is left. Its context is gone too, with all that was in it, and the thread holds
the conversation that it held. -/
structure Leaves (w : Closing σ) (m : Container) (thread : Thread)
    (s base : Store (Watched library σ)) (roots : List ScopeContext) (told : List Notice)
    (kind : ScopeKind) (left : List ScopeKind) (u t : Store (Watched library σ)) : Prop where
  underway : w.Underway m thread s base (roots ++ (m.attached thread kind s).toList)
    (told ++ (m.attached thread kind s).toList.flatMap fun c => m.farewell kind c s) left t
  slot : m.conversationSlot thread t = m.conversationSlot thread u
  vacant : m.attached thread kind t = none

namespace Underway

variable {base : Store (Watched library σ)} {roots : List ScopeContext} {kind : ScopeKind}
  {left : List ScopeKind}

theorem start (w : Closing σ) (m : Container) (thread : Thread) (left : List ScopeKind)
    (s : Store (Watched library σ)) : w.Underway m thread s s [] [] left s where
  departs := by
    refine Clears.congr (Bypasses.refl _) fun x => ⟨False.elim, ?_⟩
    rintro ⟨c, hc, -⟩
    cases hc
  base := ⟨rfl, fun _ hx => hx, fun _ _ _ hv => hv, fun _ => rfl⟩
  attached _ _ := rfl

theorem shrinks (h : w.Underway m thread s base roots told left u) : s.Shrinks u :=
  have hbase : base.Shrinks u :=
    ⟨h.departs.shrinks.nextContext, h.departs.shrinks.active, h.departs.shrinks.listed,
      h.departs.shrinks.named⟩
  ⟨hbase.nextContext.trans h.base.nextContext, fun x hx => h.base.active x (hbase.active x hx),
    fun x id v hv => h.base.listed x id v (hbase.listed x id v hv),
    fun v => (hbase.named v).trans (h.base.named v)⟩

theorem kept (h : w.Underway m thread s base roots told left u)
    (hx : ¬ ∃ c ∈ roots, s.Within c x) : u.context x = base.context x :=
  h.departs.kept x hx

theorem leave (h : w.Underway m host.thread s base roots told (kind :: left) u)
    (hdefers : w.Defers host) (hs : s.Nested) (hwords : s.nextContext ≤ UInt64.size)
    (hkind : kind ≠ .conversation) (hleft : kind ∉ left)
    (hfarewell : ∀ c ∈ m.attached host.thread kind s, m.farewell kind c u = m.farewell kind c s)
    (hwithin : ∀ c ∈ m.attached host.thread kind s, ∀ x,
      (∃ r ∈ roots, s.Within r x) ∨ u.Within c x ↔ (∃ r ∈ roots, s.Within r x) ∨ s.Within c x) :
    Act.wp False (m.stop host kind)
      (fun _ t => w.Leaves m host.thread s base roots told kind left u t) u := by
  have hattached := h.attached kind List.mem_cons_self
  have hnext : u.nextContext ≤ UInt64.size := by
    rwa [h.shrinks.nextContext]
  apply (hdefers.stop (h.shrinks.nested hs) hnext hkind).mono
  intro _ t ht
  rw [hattached] at ht
  refine ⟨⟨?_, h.base, ?_⟩, ?_, ?_⟩
  · have htold : ((m.attached host.thread kind s).toList.flatMap fun c => m.farewell kind c u) =
        (m.attached host.thread kind s).toList.flatMap fun c => m.farewell kind c s :=
      List.flatMap_congr fun c hc => hfarewell c (Option.mem_toList.1 hc)
    rw [htold] at ht
    refine (h.departs.trans ht.departs).congr fun x => ?_
    simp only [List.mem_append, or_and_right, exists_or, Option.mem_toList]
    cases hc : m.attached host.thread kind s with
    | none => simp
    | some c => simpa using hwithin c hc x
  · intro kind' hin
    have hne : kind' ≠ kind := by
      rintro rfl
      exact hleft hin
    rw [ht.attached, attached_vacate_of_ne hne, h.attached kind' (List.mem_cons_of_mem _ hin)]
  · rw [ht.conversationSlot, conversationSlot_vacate]
  · rw [ht.attached, Container.attached_vacate]

theorem leave_bare (h : w.Underway m host.thread s base roots told (kind :: left) u)
    (hdefers : w.Defers host) (hs : s.Nested) (hwords : s.nextContext ≤ UInt64.size)
    (hkind : kind ≠ .conversation) (hleft : kind ∉ left) (hsession : kind ≠ .session)
    (hbare : ∀ c ∈ m.attached host.thread kind s, ∀ id, c.conversation? id s = none) :
    Act.wp False (m.stop host kind)
      (fun _ t => w.Leaves m host.thread s base roots told kind left u t) u := by
  refine h.leave hdefers hs hwords hkind hleft (fun c _ => ?_) fun c hc x => ?_
  · rw [Container.farewell, Container.farewell, if_neg hsession, if_neg hsession]
  · have hstill : ∀ id, c.conversation? id u = none := by
      intro id
      cases hv : c.conversation? id u with
      | none => rfl
      | some v =>
        have hbefore := h.shrinks.listed c id v hv
        rw [hbare c hc id] at hbefore
        cases hbefore
    rw [within_of_bare hstill, within_of_bare (hbare c hc)]

/-- The session ends, where nothing of what is in it is gone yet. -/
theorem leave_session (h : w.Underway m host.thread s s roots told (.session :: left) u)
    (hdefers : w.Defers host) (hs : s.Nested) (hwords : s.nextContext ≤ UInt64.size)
    (hleft : .session ∉ left) (hapart : ∀ c ∈ m.attached host.thread .session s, ∀ x,
      s.Within c x → ¬ ∃ r ∈ roots, s.Within r x) :
    Act.wp False (m.stop host .session)
      (fun _ t => w.Leaves m host.thread s s roots told .session left u t) u := by
  refine h.leave hdefers hs hwords nofun hleft (fun c hc => ?_) fun c hc x => ?_
  · have hown : u.context c = s.context c := h.kept (hapart c hc c .self)
    simp only [Container.farewell, ScopeContext.standing, hown]
    refine congrArg (fun vs => List.map _ vs ++ _) (List.filter_congr fun v hv => ?_)
    obtain ⟨id, hv⟩ := ScopeContext.mem_values.1 hv
    cases hactive : (s.context v.context).active with
    | true => rw [h.kept (hapart c hc _ (.conversation .self hv hactive)), hactive]
    | false =>
      cases hstill : (u.context v.context).active with
      | true => rw [← hactive, h.shrinks.active _ hstill]
      | false => rfl
  · refine or_congr_right ⟨.of_shrinks h.shrinks, fun hx => hx.of_kept fun y hy => ?_⟩
    exact h.kept (hapart c hc y hy)

end Underway

end Closing

end ContextualLifecycle
