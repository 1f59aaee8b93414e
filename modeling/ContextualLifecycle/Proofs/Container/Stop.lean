import ContextualLifecycle.Proofs.Container.Current
import ContextualLifecycle.Proofs.Library
import ContextualLifecycle.Proofs.ScopeContext.Cells

namespace ContextualLifecycle

variable {σ α : Type} {stuck : Prop} {host : Host σ} {m : Container} {Inv Goal : Store σ → Prop}
  {c : ScopeContext} {s t : Store σ}

/-- A step among others that leads from an invariant to a goal, which the others keep. -/
theorem Run.collectFailures_reaches {f : α → Act σ Unit} {x : α} {xs : List α}
    (hf : ∀ a, Act.Keeps stuck Inv (f a)) (hg : ∀ a, Act.Keeps stuck Goal (f a))
    (hx : ∀ s, Inv s → Act.wp stuck (f x) (fun _ t => Goal t) s) (hmem : x ∈ xs) {s : Store σ}
    (hs : Inv s) : Run.wp stuck (collectFailures f xs) (fun _ t => Goal t) s := by
  induction xs generalizing s with
  | nil => cases hmem
  | cons y ys ih =>
    rw [Run.wp_collectFailures_cons]
    rcases List.mem_cons.1 hmem with rfl | hmem
    · exact (hx s hs).mono fun _ t ht => Run.Keeps.collectFailures hg ys t ht
    · exact (hf y s hs).mono fun _ t ht => ih hmem ht

/-- Conversations come after the contexts that list them, and numbers of contexts are words. -/
def Store.Ascending (s : Store σ) : Prop :=
  ∀ (c : ScopeContext) id v, c.conversation? id s = some v →
    c.number < v.context.number ∧ v.context.number < UInt64.size

theorem Store.Ascending.mono (h : s.Ascending) (hlisted : ∀ (c : ScopeContext) id v,
    c.conversation? id t = some v → c.conversation? id s = some v) : t.Ascending :=
  fun c id v hv => h c id v (hlisted c id v hv)

namespace ScopeContext

/-- The bound is enough for everything that is nested in the context. -/
def Covered (c : ScopeContext) (depth : Nat) : Prop :=
  0 < depth ∧ UInt64.size ≤ c.number + depth

theorem covered_size (c : ScopeContext) : c.Covered UInt64.size :=
  ⟨by decide, Nat.le_add_left UInt64.size c.number⟩

theorem Covered.listed {depth : Nat} {v : Conversation} (h : c.Covered (depth + 1))
    (hs : s.Ascending) (hv : v ∈ (c.takeConversations s).1) : v.context.Covered depth := by
  obtain ⟨⟨id, w⟩, hrow, rfl⟩ := List.mem_map.1 hv
  have hlisted : c.conversation? id s = some w := Table.get?_eq_some_iff.2 hrow
  obtain ⟨hafter, hword⟩ := hs c id w hlisted
  obtain ⟨-, hbound⟩ := h
  change 0 < depth ∧ UInt64.size ≤ w.context.number + depth
  exact ⟨by omega, by omega⟩

end ScopeContext

/-- The steps in which scopes end keep an invariant, as long as only contexts are torn down that may
be. If they have to return, there has to be an end to the nesting of conversations. -/
structure Host.Closes (stuck : Prop) (host : Host σ) (Inv : Store σ → Prop)
    (May : ScopeContext → Prop) : Prop where
  ascending : stuck ∨ ∀ s, Inv s → s.Ascending
  reported : ∀ content s, Inv s → Inv (s.report content)
  entry : ∀ (c : ScopeContext) id, May c → Act.Keeps stuck Inv (c.destroyEntry host id)
  ended : ∀ listener m kind c, Run.Keeps stuck Inv (host.notify listener .destroyed m kind c)
  mourned : ∀ m kind c s, Inv s → Inv (s.note (.notified .destroyed m kind c))
  deactivated : ∀ (c : ScopeContext) s, May c → Inv s → Inv (c.setActive false s)
  emptied : ∀ (c : ScopeContext) s, May c → Inv s → Inv (c.takeConversations s).2 ∧
    ∀ v ∈ (c.takeConversations s).1, May v.context

namespace Host.Closes

variable {May : ScopeContext → Prop} {depth : Nat} (h : host.Closes stuck Inv May)

include h

theorem covered {v : Conversation} (hdepth : stuck ∨ c.Covered (depth + 1)) (hs : Inv s)
    (hv : v ∈ (c.takeConversations s).1) : stuck ∨ v.context.Covered depth := by
  rcases h.ascending with hstuck | hascending
  · exact .inl hstuck
  · exact hdepth.imp_right fun hbound => hbound.listed (hascending s hs) hv

theorem nested_of_entries (hc : May c) (hdepth : stuck ∨ c.Covered (depth + 1))
    (hnested : ∀ x : ScopeContext, May x → stuck ∨ x.Covered depth →
      Act.Keeps stuck Inv (x.destroyNested host depth))
    (hentries : Run.wp stuck (collectFailures (c.destroyEntry host)
      ((c.setActive false s).context c).entries.keys) (fun _ t => Inv t) (c.setActive false s)) :
    Act.wp stuck (c.destroyNested host (depth + 1)) (fun _ t => Inv t) s := by
  apply ScopeContext.wp_destroyNested
  apply hentries.mono
  intro failures t ht
  obtain ⟨htaken, hmay⟩ := h.emptied c t hc ht
  have hconversation : ∀ v ∈ (c.takeConversations t).1,
      Act.Keeps stuck Inv (ScopeContext.destroyActive host depth v) := by
    intro v hv u hu
    refine ScopeContext.wp_destroyActive (fun _ => hu) fun _ => ?_
    exact hnested _ (hmay v hv) (h.covered hdepth ht hv) u hu
  exact Run.Keeps.collectFailures_of_mem hconversation _ htaken

/-- The entries of a context go first, then its conversations. -/
theorem destroyNested (depth : Nat) : ∀ c : ScopeContext, May c → stuck ∨ c.Covered depth →
    Act.Keeps stuck Inv (c.destroyNested host depth) := by
  induction depth with
  | zero =>
    intro c _ hdepth s _
    simp only [ScopeContext.destroyNested, Act.wp_lift, Run.wp_never]
    exact hdepth.resolve_right fun hbound => Nat.lt_irrefl 0 hbound.1
  | succ depth ih =>
    intro c hc hdepth s hs
    apply h.nested_of_entries hc hdepth ih
    exact Run.Keeps.collectFailures (fun id => h.entry c id hc) _ _ (h.deactivated c s hc hs)

theorem destroyAll (hc : May c) : Act.Keeps stuck Inv (c.destroyAll host) :=
  h.destroyNested UInt64.size c hc (.inr c.covered_size)

theorem mourn (kind : ScopeKind) (c : ScopeContext) :
    Run.Keeps stuck Inv (m.announce host .destroyed kind c) :=
  Container.announce_keeps (h.mourned m kind c) h.reported fun l => h.ended l m kind c

theorem destroyContext_of_destroyAll {kind : ScopeKind}
    (hdestroy : Act.wp stuck (c.destroyAll host) (fun _ t => Inv t) s) :
    Run.wp stuck (m.destroyContext host kind c) (fun _ t => Inv t) s := by
  apply Container.wp_destroyContext
  exact hdestroy.mono fun _ t ht => h.mourn kind c t ht

theorem destroyContext (kind : ScopeKind) (hc : May c) :
    Run.Keeps stuck Inv (m.destroyContext host kind c) :=
  fun s hs => h.destroyContext_of_destroyAll (h.destroyAll hc s hs)

theorem teardownConversation {v : Conversation} (hv : May v.context) :
    Act.Keeps stuck Inv (m.teardownConversation host v) :=
  fun s hs => Container.wp_teardownConversation (h.destroyContext .conversation hv s hs)

theorem endConversation {v : Conversation} (hv : May v.context) :
    Act.Keeps stuck Inv (m.endConversation host v) :=
  fun s hs => Container.wp_endConversation (fun _ => hs) fun _ => h.teardownConversation hv s hs

theorem teardown (kind : ScopeKind) (hc : May c) :
    Act.Keeps stuck Inv (m.teardown host kind c) := by
  intro s hs
  apply Container.wp_teardown
  · intro _
    obtain ⟨htaken, hmay⟩ := h.emptied c s hc hs
    apply (Run.Keeps.collectFailures_of_mem (fun v hv => h.endConversation (hmay v hv)) _
      htaken).mono
    exact fun _ t ht => h.destroyContext kind hc t ht
  · exact fun _ => h.destroyContext kind hc s hs

theorem retire (kind : ScopeKind) (hc : May c) :
    Act.Keeps stuck Inv (m.retire host kind c) :=
  fun s hs => Container.wp_retire (fun _ => ⟨hs, fun _ => h.reported _ s hs⟩)
    fun _ => h.teardown kind hc s hs

end Host.Closes

/-- The steps in which a thread leaves its scopes keep an invariant. -/
structure Host.Exits (stuck : Prop) (host : Host σ) (Inv : Store σ → Prop) : Prop extends
    host.Closes stuck Inv fun _ => True where
  removed : ∀ (c : ScopeContext) id s, Inv s → Inv (c.removeConversation id s).2
  released : ∀ (v : Conversation) s, Inv s → Inv (v.release s)
  vacated : ∀ (m : Container) kind s, Inv s → Inv (m.vacate host.thread kind s)
  swapped : ∀ (m : Container) slot s, Inv s → Inv (m.swapConversation host.thread slot s).2
  forgotten : ∀ (m : Container) s, Inv s → Inv (m.forgetScopes host.thread s)

namespace Host.Exits

variable (h : host.Exits stuck Inv)

include h

theorem finishSlot (slot : ConversationSlot) : Act.Keeps stuck Inv (m.finishSlot host slot) := by
  intro s hs
  refine Container.wp_finishSlot (fun v session _ => ?_) fun _ => hs
  have hreleased := h.released v s hs
  have hremoved := h.removed session (s.conversation v).id _ hreleased
  exact Container.wp_finishConversation (fun _ => hreleased)
    fun _ => h.endConversation trivial _ hremoved

theorem stop (kind : ScopeKind) : Act.Keeps stuck Inv (m.stop host kind) := by
  intro s hs
  by_cases hkind : kind = .conversation
  · subst hkind
    rw [Container.wp_stop_conversation]
    exact h.finishSlot _ _ (h.swapped m _ s hs)
  · have hvacated := h.vacated m kind s hs
    exact Container.wp_stop hkind (fun _ _ => h.teardown kind trivial _ hvacated)
      fun _ => hvacated

theorem shutdown : Act.Keeps stuck Inv (m.shutdown host) := by
  intro s hs
  apply Container.wp_shutdown
  exact (Run.Keeps.collectFailures h.stop _ s hs).mono fun _ t ht => h.forgotten m t ht

end Host.Exits

/-- Two stores have the same journal, the same episodes and the same entries, and the second one
lists no more conversations. -/
structure Store.Alike (s t : Store σ) : Prop where
  journal : t.journal = s.journal
  episode : ∀ e, t.episode e = s.episode e
  live : ∀ (c : ScopeContext) id, c.live t id = c.live s id
  listed : ∀ (c : ScopeContext) id v, c.conversation? id t = some v → c.conversation? id s = some v

namespace Store.Alike

theorem of_contexts (hjournal : t.journal = s.journal) (hepisodes : t.episodes = s.episodes)
    (hcontexts : t.contexts = s.contexts) : s.Alike t where
  journal := hjournal
  episode := Store.episode_congr hepisodes
  live := ScopeContext.live_congr hcontexts
  listed c id _ hv := ScopeContext.conversation?_congr hcontexts c id ▸ hv

theorem update {f : ScopeContext.Record → ScopeContext.Record}
    (hf : ∀ r, (f r).entries = r.entries)
    (hlisted : ∀ r id v, (f r).conversations.get? id = some v → r.conversations.get? id = some v)
    (c : ScopeContext) (s : Store σ) : s.Alike (c.update f s) where
  journal := rfl
  episode _ := rfl
  live x id := ScopeContext.live_update_of_entries hf c x id s
  listed _ _ v := ScopeContext.conversation?_of_update fun r id => hlisted r id v

theorem setActive (c : ScopeContext) (active : Bool) (s : Store σ) :
    s.Alike (c.setActive active s) :=
  .update (f := fun r => { r with active }) (fun _ => rfl) (fun _ _ _ hv => hv) c s

theorem takeConversations (c : ScopeContext) (s : Store σ) : s.Alike (c.takeConversations s).2 :=
  .update (f := fun r => { r with conversations := ∅ }) (fun _ => rfl) (fun _ _ _ => nofun) c s

theorem removeConversation (c : ScopeContext) (id : String) (s : Store σ) :
    s.Alike (c.removeConversation id s).2 := by
  refine .update (f := fun r => { r with conversations := r.conversations.erase id })
    (fun _ => rfl) (fun r id' _ hv => ?_) c s
  rw [Table.get?_erase] at hv
  split at hv
  · cases hv
  · exact hv

theorem takeEntry {id : ContextualId} (h : c.live s id = none) : s.Alike (c.takeEntry id s).2 where
  journal := rfl
  episode _ := rfl
  live x id' := by
    by_cases hx : x = c
    · subst hx
      rw [ScopeContext.live_takeEntry]
      split
      · rename_i hid
        rw [hid, h]
      · rfl
    · rw [ScopeContext.takeEntry, ScopeContext.live_update, if_neg hx]
  listed x name v hv := by rwa [ScopeContext.conversation?_takeEntry] at hv

theorem release (v : Conversation) (s : Store σ) : s.Alike (v.release s) :=
  .of_contexts rfl rfl rfl

theorem vacate (m : Container) (thread : Thread) (kind : ScopeKind) (s : Store σ) :
    s.Alike (m.vacate thread kind s) := by
  rw [Container.vacate]
  split <;> exact .of_contexts rfl rfl rfl

end Store.Alike

/-- The destruction of entries and the observers who are told of ends keep an invariant, which is
about the journal, episodes, entries and the listing of conversations alone. -/
structure TeardownKeeps (stuck : Prop) (host : Host σ) (Inv : Store σ → Prop) : Prop where
  ascending : stuck ∨ ∀ s, Inv s → s.Ascending
  alike : ∀ s t, s.Alike t → Inv s → Inv t
  reported : ∀ content s, Inv s → Inv (s.report content)
  entry : ∀ (c : ScopeContext) id, Act.Keeps stuck Inv (c.destroyEntry host id)
  ended : ∀ listener m kind c, Run.Keeps stuck Inv (host.notify listener .destroyed m kind c)
  mourned : ∀ m kind c s, Inv s → Inv (s.note (.notified .destroyed m kind c))

theorem TeardownKeeps.exits (h : TeardownKeeps stuck host Inv) : host.Exits stuck Inv where
  ascending := h.ascending
  reported := h.reported
  entry c id _ := h.entry c id
  ended := h.ended
  mourned := h.mourned
  deactivated c s _ hs := h.alike _ _ (.setActive c false s) hs
  emptied c s _ hs := ⟨h.alike _ _ (.takeConversations c s) hs, fun _ _ => trivial⟩
  removed c id s hs := h.alike _ _ (.removeConversation c id s) hs
  released v s hs := h.alike _ _ (.release v s) hs
  vacated m kind s hs := h.alike _ _ (.vacate m host.thread kind s) hs
  swapped _ _ s hs := h.alike s _ (.of_contexts rfl rfl rfl) hs
  forgotten _ s hs := h.alike s _ (.of_contexts rfl rfl rfl) hs

/-- Where nothing has to return, nothing has to be known. -/
theorem Host.exits_open (host : Host σ) : host.Exits True fun _ => True :=
  have hopen : ∀ {β : Type} (x : Act σ β), Act.Keeps True (fun _ => True) x :=
    fun _ _ _ => Act.wp_true_iff.2 fun _ _ _ => trivial
  TeardownKeeps.exits
    { ascending := .inl trivial
      alike := fun _ _ _ _ => trivial
      reported := fun _ _ _ => trivial
      entry := fun _ _ => hopen _
      ended := fun _ _ _ _ s _ => (Run.wp_outcome _ s).mono fun _ _ _ => trivial
      mourned := fun _ _ _ _ _ => trivial }

theorem Host.Keeps.exits (h : host.Keeps stuck Store.Ascending) :
    host.Exits stuck Store.Ascending := by
  have hrelease : ∀ e : Episode, e.ReleaseKeeps stuck host Store.Ascending := fun e =>
    { taken := fun _ _ _ _ hs _ => hs
      reported := fun _ _ hs => hs
      destroy := fun unit inst => h.destroy unit inst e
      flagged := fun _ _ hs => hs
      released := fun _ _ hs => hs
      release := h.release }
  have htaken : ∀ (c : ScopeContext) id (s : Store σ), s.Ascending →
      (c.takeEntry id s).2.Ascending := by
    intro c id s hs
    refine hs.mono fun x name v hv => ?_
    rwa [ScopeContext.conversation?_takeEntry] at hv
  exact TeardownKeeps.exits
    { ascending := .inr fun _ hs => hs
      alike := fun s t hst hs => hs.mono hst.listed
      reported := fun _ _ hs => hs
      entry := fun c id => ScopeContext.destroyEntry_keeps (fun _ _ hs => hs)
        (fun s hs _ => htaken c id s hs)
        fun bag s hs _ => Bag.wp_destroy_of (hrelease bag.episode) (htaken c id s hs)
      ended := fun l => h.notify l .destroyed
      mourned := fun _ _ _ _ hs => hs }

/-- A teardown leads from an invariant to a goal, by way of one entry of a context. -/
structure TeardownReaches (stuck : Prop) (host : Host σ) (c : ScopeContext)
    (id : ContextualId) (Inv Goal : Store σ → Prop) : Prop where
  before : host.Exits stuck Inv
  after : host.Exits stuck Goal
  there : ∀ s, Inv s → Goal s ∨ id ∈ (s.context c).entries.keys
  destroyed : ∀ s, Inv s → Act.wp stuck (c.destroyEntry host id) (fun _ t => Goal t) s

/-- The context is the one that is torn down when the scope ends: a transient conversation that was
not torn down before, or else what is in the slot of the scope. -/
def Container.Ends (m : Container) (thread : Thread) (kind : ScopeKind) (c : ScopeContext)
    (s : Store σ) : Prop :=
  match kind with
  | .application => m.application s = some c
  | .conversation => ∃ session, m.conversationSlot thread s = .active ⟨c⟩ session ∧
      (s.conversation ⟨c⟩).transient = true ∧ (s.context c).active = true
  | _ => m.slot thread kind s = some c

namespace TeardownReaches

variable {id : ContextualId} (h : TeardownReaches stuck host c id Inv Goal)

include h

theorem destroyAll (hs : Inv s) :
    Act.wp stuck (c.destroyAll host) (fun _ t => Goal t) s := by
  have hdepth : c.destroyAll host = c.destroyNested host (UInt64.size - 1 + 1) := rfl
  rw [hdepth]
  apply h.after.nested_of_entries trivial (.inr c.covered_size) (h.after.destroyNested _)
  have hinactive := h.before.deactivated c s trivial hs
  rcases h.there _ hinactive with hdone | hmem
  · exact Run.Keeps.collectFailures (fun id => h.after.entry c id trivial) _ _ hdone
  · exact Run.collectFailures_reaches (fun id => h.before.entry c id trivial)
      (fun id => h.after.entry c id trivial) h.destroyed hmem hinactive

theorem destroyContext (kind : ScopeKind) (hs : Inv s) :
    Run.wp stuck (m.destroyContext host kind c) (fun _ t => Goal t) s :=
  h.after.destroyContext_of_destroyAll (h.destroyAll hs)

theorem teardown (kind : ScopeKind) (hs : Inv s) :
    Act.wp stuck (m.teardown host kind c) (fun _ t => Goal t) s := by
  apply Container.wp_teardown
  · intro _
    apply (Run.Keeps.collectFailures (fun v => h.before.endConversation trivial) _ _
      (h.before.emptied c s trivial hs).1).mono
    exact fun _ t ht => h.destroyContext kind ht
  · exact fun _ => h.destroyContext kind hs

theorem teardownConversation (hs : Inv s) :
    Act.wp stuck (m.teardownConversation host ⟨c⟩) (fun _ t => Goal t) s :=
  Container.wp_teardownConversation (h.destroyContext .conversation hs)

theorem finishConversation {session : ScopeContext}
    (htransient : (s.conversation ⟨c⟩).transient = true) (hactive : (s.context c).active = true)
    (hs : Inv s) :
    Act.wp stuck (m.finishConversation host ⟨c⟩ session) (fun _ t => Goal t) s := by
  let v : Conversation := ⟨c⟩
  let id := (s.conversation v).id
  have hremoved : Inv (session.removeConversation id (v.release s)).2 :=
    h.before.removed session id _ (h.before.released v s hs)
  have hkept : ((session.removeConversation id (v.release s)).2.context c).active = true := by
    by_cases hc : c = session
    · subst hc
      have hcontext := ScopeContext.context_update c (fun r => { r with
        conversations := r.conversations.erase id }) (v.release s)
      exact (congrArg (·.active) hcontext).trans hactive
    · change (((v.release s).contexts.insert session _).get? c |>.getD default).active = true
      rw [Table.get?_insert, if_neg hc]
      exact hactive
  apply Container.wp_finishConversation
  · intro hlasting
    rw [hlasting] at htransient
    cases htransient
  · intro _
    apply Container.wp_endConversation
    · intro hinactive
      rw [hinactive] at hkept
      cases hkept
    · exact fun _ => h.teardownConversation hremoved

theorem stop {kind : ScopeKind} (hends : m.Ends host.thread kind c s) (hs : Inv s) :
    Act.wp stuck (m.stop host kind) (fun _ t => Goal t) s := by
  by_cases hkind : kind = .conversation
  · subst hkind
    obtain ⟨session, hslot, htransient, hactive⟩ := hends
    rw [Container.wp_stop_conversation, hslot]
    exact h.finishConversation htransient hactive (h.before.swapped m _ s hs)
  · have hattached : m.attached host.thread kind s = some c := by
      cases kind with
      | conversation => exact absurd rfl hkind
      | _ => exact hends
    apply Container.wp_stop hkind
    · intro x hx
      cases hattached.symm.trans hx
      exact h.teardown kind (h.before.vacated m kind s hs)
    · intro hnone
      cases hattached.symm.trans hnone

end TeardownReaches

end ContextualLifecycle
