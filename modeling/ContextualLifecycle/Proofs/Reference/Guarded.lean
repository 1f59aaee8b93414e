import ContextualLifecycle.Proofs.Container.Current
import ContextualLifecycle.Proofs.Reference.CreationTree
import ContextualLifecycle.Proofs.Reference.Destruction

namespace ContextualLifecycle

variable {σ α : Type} {stuck : Prop}

/-- The slot for the dependent scope is empty, or its context is one of the dependent scope. -/
def Container.Ordinary (m : Container) (thread : Thread) (s : Store σ) : Prop :=
  ∀ c, m.slot thread .dependent s = some c →
    c.number < s.nextContext ∧ (s.context c).kind = .dependent

namespace Setting

/-- Callbacks leave an episode alone, once it was issued. -/
def Spares (w : Setting σ) (x : Episode) : Prop :=
  ∀ cb s, x.number < s.nextEpisode → Act.wp True (w.during cb) (fun _ t => x.Spared s t) s

/-- Callbacks issue no episode again and put no other context into the slot for the dependent
scope. -/
def Orderly (w : Setting σ) : Prop :=
  ∀ cb s, w.container.Ordinary w.supply.thread s →
    Act.wp True (w.during cb) (fun _ t => s.nextEpisode ≤ t.nextEpisode ∧
      w.container.Ordinary w.supply.thread t) s

end Setting

/-- Episodes have the given records, no entries but those given are kept with them, and the tree has
the given levels. -/
structure Guarded (w : Setting σ) (held : Bag → Prop) (ps : List (Episode × Episode.Record))
    (levels : List (List Creation)) (s : Store (Growing σ)) : Prop where
  kept : ∀ p ∈ ps, p.1.number < s.nextEpisode ∧ s.episode p.1 = p.2
  stored : ∀ p ∈ ps, ∀ (c : ScopeContext) id bag, c.live s id = some bag → p.1 = bag.episode →
    held bag
  grown : s.surroundings.levels = levels
  ordinary : w.container.Ordinary w.supply.thread s

namespace Guarded

variable {w : Setting σ} {held : Bag → Prop} {ps : List (Episode × Episode.Record)}
  {levels : List (List Creation)} {s t : Store (Growing σ)}

theorem frame (h : Guarded w held ps levels s)
    (hepisode : ∀ p ∈ ps, t.episode p.1 = s.episode p.1)
    (hnext : s.nextEpisode ≤ t.nextEpisode)
    (hlive : ∀ (c : ScopeContext) id bag, c.live t id = some bag → c.live s id = some bag ∨
      ∀ p ∈ ps, p.1 ≠ bag.episode)
    (hlevels : t.surroundings.levels = s.surroundings.levels)
    (hordinary : w.container.Ordinary w.supply.thread s →
      w.container.Ordinary w.supply.thread t) : Guarded w held ps levels t where
  kept p hp := by
    obtain ⟨hissued, hrecord⟩ := h.kept p hp
    exact ⟨Nat.lt_of_lt_of_le hissued hnext, (hepisode p hp).trans hrecord⟩
  stored p hp c id bag hbag heq := by
    rcases hlive c id bag hbag with hbag | hne
    · exact h.stored p hp c id bag hbag heq
    · exact absurd heq (hne p hp)
  grown := hlevels.trans h.grown
  ordinary := hordinary h.ordinary

theorem noted (h : Guarded w held ps levels s) (event : Event) :
    Guarded w held ps levels (s.note event) :=
  h.frame (fun _ _ => rfl) (Nat.le_refl _) (fun _ _ _ => .inl) rfl id

theorem stacked (h : Guarded w held ps levels s) (thread : Thread)
    (stack : List (ScopeContext × ContextualId)) :
    Guarded w held ps levels (s.setStack thread stack) :=
  h.frame (fun _ _ => rfl) (Nat.le_refl _) (fun _ _ _ => .inl) rfl id

theorem releveled (h : Guarded w held ps levels s) (levels' : List (List Creation)) :
    Guarded w held ps levels' (s.setLevels levels') where
  kept := h.kept
  stored := h.stored
  grown := rfl
  ordinary := h.ordinary

theorem descended (h : Guarded w held ps levels s) :
    Guarded w held ps ([] :: levels) s.descend := by
  rw [Store.descend, h.grown]
  exact h.releveled _

theorem updated (h : Guarded w held ps levels s) (c : ScopeContext)
    {f : ScopeContext.Record → ScopeContext.Record} (hf : ∀ r, (f r).kind = r.kind)
    (hlive : ∀ id bag, c.live (c.update f s) id = some bag → c.live s id = some bag ∨
      ∀ p ∈ ps, p.1 ≠ bag.episode) : Guarded w held ps levels (c.update f s) := by
  refine h.frame (fun _ _ => rfl) (Nat.le_refl _) ?_ rfl ?_
  · intro x id bag hbag
    by_cases hxc : x = c
    · rw [hxc] at hbag ⊢
      exact hlive id bag hbag
    · rw [ScopeContext.live_update, if_neg hxc] at hbag
      exact .inl hbag
  · intro hordinary x hx
    obtain ⟨hissued, hkind⟩ := hordinary x hx
    refine ⟨hissued, ?_⟩
    by_cases hxc : x = c
    · subst hxc
      rw [ScopeContext.context_update, hf]
      exact hkind
    · rw [ScopeContext.update, Store.context, Store.setContext, Table.get?_insert, if_neg hxc]
      exact hkind

theorem uncelled (h : Guarded w held ps levels s) (c : ScopeContext)
    {f : ScopeContext.Record → ScopeContext.Record} (hf : ∀ r, (f r).kind = r.kind)
    (hentries : ∀ r, (f r).entries = r.entries) : Guarded w held ps levels (c.update f s) := by
  apply h.updated c hf
  intro id bag hbag
  rw [ScopeContext.live_update_of_entries hentries] at hbag
  exact .inl hbag

theorem episodeUpdated (h : Guarded w held ps levels s) {y : Episode} (hy : ∀ p ∈ ps, p.1 ≠ y)
    (f : Episode.Record → Episode.Record) : Guarded w held ps levels (y.update f s) := by
  refine h.frame ?_ (Nat.le_refl _) (fun _ _ _ => .inl) rfl id
  intro p hp
  rw [Episode.episode_update, if_neg (hy p hp)]

theorem registered (h : Guarded w held ps levels s) {y : Episode} (hy : ∀ p ∈ ps, p.1 ≠ y)
    (unit : Contextual) (inst : Instance) :
    Guarded w held ps levels (y.addDependent unit (some inst) s) :=
  h.episodeUpdated hy (·.register unit inst)

theorem changed {x : Episode} {r : Episode.Record} (h : Guarded w held ((x, r) :: ps) levels s)
    (hx : ∀ p ∈ ps, p.1 ≠ x) (f : Episode.Record → Episode.Record) :
    Guarded w held ((x, f r) :: ps) levels (x.update f s) := by
  obtain ⟨hissued, hrecord⟩ := h.kept _ List.mem_cons_self
  refine ⟨?_, ?_, h.grown, h.ordinary⟩
  · intro p hp
    rcases List.mem_cons.1 hp with rfl | hp
    · exact ⟨hissued, (Episode.episode_update_self x f s).trans (congrArg f hrecord)⟩
    · obtain ⟨hissued, hrecord⟩ := h.kept p (List.mem_cons_of_mem _ hp)
      refine ⟨hissued, ?_⟩
      rw [Episode.episode_update, if_neg (hx p hp)]
      exact hrecord
  · intro p hp
    rcases List.mem_cons.1 hp with rfl | hp
    · exact h.stored (x, r) List.mem_cons_self
    · exact h.stored p (List.mem_cons_of_mem _ hp)

theorem claimed (h : Guarded w held ps levels s) (c : ScopeContext) (id : ContextualId) :
    Guarded w held ps levels (c.claimCell id s).2 := by
  obtain ⟨_, hs⟩ | ⟨hnone, _, hs⟩ := ScopeContext.claimCell_cases c id s
  · rw [hs]
    exact h
  · have hset : Guarded w held ps levels (c.setCell id ⟨s.nextCell, .empty⟩ s) := by
      refine h.updated c (fun _ => rfl) ?_
      intro x bag hbag
      have hlive : (if x = id then none else c.live s x) = some bag :=
        (ScopeContext.live_setCell id x _ s).symm.trans hbag
      split at hlive
      · cases hlive
      · exact .inl hlive
    rw [hs]
    exact hset.frame (fun _ _ => rfl) (Nat.le_refl _) (fun _ _ _ => .inl) rfl
      fun hordinary => hordinary

theorem dropped (h : Guarded w held ps levels s) (c : ScopeContext) (id : ContextualId) (n : Nat) :
    Guarded w held ps levels (c.dropCell id n s) := by
  refine h.updated c ?_ ?_
  · intro r
    split <;> rfl
  · intro x bag hbag
    have hlive := (ScopeContext.live_dropCell id x n s).symm.trans hbag
    split at hlive
    · cases hlive
    · exact .inl hlive

theorem unfilled (ps : List (Episode × Episode.Record)) (bag : Bag)
    (h : Cell.Content.filling = .live bag) : ∀ p ∈ ps, p.1 ≠ bag.episode := by
  cases h

theorem filled (h : Guarded w held ps levels s) (c : ScopeContext) (id : ContextualId) (n : Nat)
    (content : Cell.Content) (hcontent : ∀ bag, content = .live bag → ∀ p ∈ ps, p.1 ≠ bag.episode) :
    Guarded w held ps levels (c.fillCell id n content s) := by
  refine h.updated c ?_ ?_
  · intro r
    split <;> rfl
  · intro x bag hbag
    have hlive := (ScopeContext.live_fillCell id x n content s).symm.trans hbag
    split at hlive
    · cases content with
      | live bag' =>
        cases hlive
        exact .inr (hcontent _ rfl)
      | _ => cases hlive
    · exact .inl hlive

theorem cons {x : Episode} (h : Guarded w held ps levels s) (hissued : x.number < s.nextEpisode)
    (hnowhere : x.Nowhere s) : Guarded w held ((x, s.episode x) :: ps) levels s := by
  refine ⟨?_, ?_, h.grown, h.ordinary⟩
  · intro p hp
    rcases List.mem_cons.1 hp with rfl | hp
    · exact ⟨hissued, rfl⟩
    · exact h.kept p hp
  · intro p hp c id bag hbag heq
    rcases List.mem_cons.1 hp with rfl | hp
    · exact absurd heq.symm (hnowhere c id bag hbag)
    · exact h.stored p hp c id bag hbag heq

theorem issued (h : Guarded w held ps levels s) (unit : Contextual) :
    Guarded w held ps levels (w.container.newEpisode (some unit) s).2 ∧
      ∀ p ∈ ps, p.1 ≠ (w.container.newEpisode (some unit) s).1 := by
  have hne : ∀ p ∈ ps, p.1 ≠ (⟨s.nextEpisode⟩ : Episode) := by
    intro p hp heq
    have hissued := (h.kept p hp).1
    rw [heq] at hissued
    exact Nat.lt_irrefl _ hissued
  refine ⟨?_, hne⟩
  refine h.frame ?_ (Nat.le_succ _) (fun _ _ _ => .inl) rfl fun hordinary => hordinary
  intro p hp
  change ((s.episodes.insert ⟨s.nextEpisode⟩ _).get? p.1).getD {} = _
  rw [Table.get?_insert, if_neg (hne p hp)]
  rfl

variable {create : Contextual → Episode → Act (Growing σ) Instance}

theorem during (hw : w.Orderly) (hps : ∀ p ∈ ps, w.Spares p.1) (cb : Callback) :
    Act.Keeps True (Guarded w held ps levels) (w.during cb).beside := by
  intro s h
  rw [Act.wp_beside, Act.wp_true_iff]
  intro r t hrun
  have hspared : ∀ p ∈ ps, p.1.Spared s.outside t :=
    fun p hp => Act.wp_true_iff.1 (hps p hp cb s.outside (h.kept p hp).1) r t hrun
  obtain ⟨hnext, hordinary⟩ := Act.wp_true_iff.1 (hw cb s.outside h.ordinary) r t hrun
  refine ⟨?_, ?_, h.grown, hordinary⟩
  · intro p hp
    obtain ⟨hissued, hrecord⟩ := h.kept p hp
    exact ⟨Nat.lt_of_lt_of_le hissued hnext, (hspared p hp).record.trans hrecord⟩
  · intro p hp c id bag hbag heq
    exact h.stored p hp c id bag (((hspared p hp).entries c id bag heq.symm).1 hbag) heq

theorem releaseKeeps (hw : w.Orderly) (hps : ∀ p ∈ ps, w.Spares p.1) {y : Episode}
    (hy : ∀ p ∈ ps, p.1 ≠ y) :
    Episode.ReleaseKeeps True (w.host create) y (Guarded w held ps levels) where
  taken _ _ _ _ h _ := (h.episodeUpdated hy _).noted _
  reported _ _ h := h.noted _
  destroy _ _ := during hw hps _
  flagged _ _ h := h.episodeUpdated hy _
  released _ _ h := h.noted _
  release _ := during hw hps _

theorem bagDestroyed (hw : w.Orderly) (hps : ∀ p ∈ ps, w.Spares p.1) {bag : Bag}
    (hbag : ∀ p ∈ ps, p.1 ≠ bag.episode) :
    Act.Keeps True (Guarded w held ps levels) (bag.destroy (w.host create)) :=
  fun _ h => Bag.wp_destroy_of (releaseKeeps hw hps hbag) (h.noted _)

theorem newContext (h : Guarded w held ps levels s) (kind : ScopeKind) :
    Guarded w held ps levels (ScopeContext.new kind s).2 := by
  refine h.frame (fun _ _ => rfl) (Nat.le_refl _) ?_ rfl ?_
  · intro c id bag hbag
    rw [ScopeContext.live_new] at hbag
    split at hbag
    · cases hbag
    · exact .inl hbag
  · intro hordinary c hc
    obtain ⟨hissued, hkind⟩ := hordinary c hc
    have hne : c ≠ ⟨s.nextContext⟩ := by
      intro heq
      rw [heq] at hissued
      exact Nat.lt_irrefl _ hissued
    refine ⟨Nat.lt_succ_of_lt hissued, ?_⟩
    change ((s.contexts.insert ⟨s.nextContext⟩ _).get? c |>.getD default).kind = _
    rw [Table.get?_insert, if_neg hne]
    exact hkind

theorem added (h : Guarded w held ps levels s) (session : ScopeContext) (draw : Nat → String)
    (start : Nat) (timeout : Duration) :
    Guarded w held ps levels (session.addTransient draw start timeout s).2 := by
  have hactive : Guarded w held ps levels (ScopeContext.newActive .conversation s).2 :=
    (h.newContext .conversation).uncelled _ (f := fun r => { r with active := true })
      (fun _ => rfl) fun _ => rfl
  have haround : ∀ v r, Guarded w held ps levels
      ((ScopeContext.newActive .conversation s).2.setConversation v r) :=
    fun _ _ => hactive.frame (fun _ _ => rfl) (Nat.le_refl _) (fun _ _ _ => .inl) rfl
      fun hordinary => hordinary
  exact Guarded.uncelled (haround _ _) session (f := fun r => { r with
    conversations := r.conversations.insert _ _ }) (fun _ => rfl) fun _ => rfl

theorem swapped (h : Guarded w held ps levels s) (slot : ConversationSlot) :
    Guarded w held ps levels (w.container.swapConversation w.supply.thread slot s).2 := by
  refine h.frame (fun _ _ => rfl) (Nat.le_refl _) (fun _ _ _ => .inl) rfl ?_
  intro hordinary c hc
  refine hordinary c (Eq.trans ?_ hc)
  simp only [Container.slot, Container.swapConversation, Container.updateScopes,
    Store.threadScopes, Store.setThreadScopes, Table.get?_insert, ↓reduceIte, Option.getD_some]

theorem resolveKeeps (hw : w.Orderly) (hps : ∀ p ∈ ps, w.Spares p.1) :
    w.container.ResolveKeeps True (w.host create) (Guarded w held ps levels) where
  notified phase kind c s h := h.noted _
  reported content s h := h.noted _
  notify listener phase kind c s h := by
    simp only [Setting.host, Supply.host, Run.wp_bind, Run.wp_run]
    exact during hw hps _ s h
  added session draw start timeout s h := h.added session draw start timeout
  numbered next s h := h.frame (fun _ _ => rfl) (Nat.le_refl _) (fun _ _ _ => .inl) rfl id
  acquired v s h := by
    rw [Conversation.tryAcquire]
    split
    · exact h
    · exact h.frame (fun _ _ => rfl) (Nat.le_refl _) (fun _ _ _ => .inl) rfl id
  swapped slot _ h := h.swapped slot

end Guarded

end ContextualLifecycle
