import ContextualLifecycle.Container.Reference
import ContextualLifecycle.Proofs.Container.Stop
import ContextualLifecycle.Proofs.Reference.Destruction

namespace ContextualLifecycle

variable {σ τ : Type} {stuck : Prop}

namespace Episode

variable {x y : Episode} {host : Host τ} {Inv : Store τ → Prop} {c : ScopeContext}
  {id : ContextualId} {s t : Store τ}

theorem Spared.alike (h : s.Alike t) : x.Spared s t where
  record := h.episode x
  destroyed := by
    rw [h.journal]
    exact (Spared.refl x s).destroyed
  entries c id bag _ := by
    rw [h.live]

theorem Spared.leaveCreation (x : Episode) (thread : Thread) (s : Store τ) :
    x.Spared s (ScopeContext.leaveCreation thread s) :=
  Spared.alike (.of_contexts rfl rfl rfl)

theorem Spared.takeEntry (h : ∀ bag, c.live s id = some bag → bag.episode ≠ x) :
    x.Spared s (c.takeEntry id s).2 where
  record := rfl
  destroyed := (Spared.refl x s).destroyed
  entries z i bag hbag := by
    by_cases hz : z = c
    · subst hz
      rw [ScopeContext.live_takeEntry]
      split
      · rename_i hi
        rw [hi]
        constructor
        · intro hnone
          cases hnone
        · exact fun hlive => absurd hbag (h bag hlive)
      · rfl
    · rw [ScopeContext.takeEntry, ScopeContext.live_update, if_neg hz]

/-- Callbacks that are not given the episode keep an invariant. -/
structure OthersKeep (x : Episode) (host : Host τ) (Inv : Store τ → Prop) : Prop where
  destroy : ∀ unit inst y, y ≠ x → Act.Keeps True Inv (host.destroy unit inst y)
  release : ∀ outer, Act.Keeps True Inv (host.release outer)
  notify : ∀ listener phase m kind c, Run.Keeps True Inv (host.notify listener phase m kind c)

namespace OthersKeep

variable (h : x.OthersKeep host Inv) (hspared : ∀ s t, x.Spared s t → Inv s → Inv t)

include h hspared

theorem releaseKeeps (hy : y ≠ x) : y.ReleaseKeeps True host Inv where
  taken s front d back hs _ := by
    have hevent : (Event.destroying d.contextual d.inst y).destroyedFor? x = none := by
      rw [Event.destroyedFor?, if_neg hy]
    exact hspared _ _ (Spared.note hevent) (hspared _ _ (Spared.update hy.symm _ s) hs)
  reported _ _ hs := hspared _ _ (Spared.note rfl) hs
  destroy unit inst := h.destroy unit inst y hy
  flagged s _ hs := hspared _ _ (Spared.update hy.symm _ s) hs
  released _ _ hs := hspared _ _ (Spared.note rfl) hs
  release := h.release

theorem bagDestroyed {bag : Bag} (hbag : bag.episode ≠ x) :
    Act.Keeps True Inv (bag.destroy host) := by
  intro s hs
  have hevent : (Event.destroying bag.contextual bag.inst bag.episode).destroyedFor? x = none := by
    rw [Event.destroyedFor?, if_neg hbag]
  exact Bag.wp_destroy_of (h.releaseKeeps hspared hbag) (hspared _ _ (Spared.note hevent) hs)

theorem exits
    (hown : ∀ (c : ScopeContext) id bag s, Inv s → c.live s id = some bag → bag.episode = x →
      Act.wp True (bag.destroy host) (fun _ t => Inv t) (c.takeEntry id s).2) :
    host.Exits True Inv := by
  have hentry : ∀ (c : ScopeContext) id, Act.Keeps True Inv (c.destroyEntry host id) := by
    intro c id
    apply ScopeContext.destroyEntry_keeps
    · exact fun _ _ hs => hspared _ _ (Spared.note rfl) hs
    · intro s hs hlive
      refine hspared s _ (Spared.takeEntry ?_) hs
      intro bag hbag
      cases hlive.symm.trans hbag
    · intro bag s hs hlive
      by_cases hbag : bag.episode = x
      · exact hown c id bag s hs hlive hbag
      · apply h.bagDestroyed hspared hbag
        refine hspared s _ (Spared.takeEntry ?_) hs
        intro bag' hbag'
        rw [hlive] at hbag'
        cases hbag'
        exact hbag
  exact TeardownKeeps.exits
    { ascending := .inl trivial
      alike := fun s t hst hs => hspared s t (Spared.alike hst) hs
      reported := fun _ _ hs => hspared _ _ (Spared.note rfl) hs
      entry := hentry
      ended := fun listener => h.notify listener .destroyed
      mourned := fun _ _ _ _ hs => hspared _ _ (Spared.note rfl) hs }

end OthersKeep

end Episode

namespace Bag

variable {bag : Bag} {c : ScopeContext} {owned : List Dependent} {start : Nat}

/-- A stored instance is whole: nothing but its entry is kept with its episode, which lists what it
owns, and nothing was destroyed for it. -/
structure Whole (bag : Bag) (c : ScopeContext) (owned : List Dependent) (start : Nat)
    (s : Store τ) : Prop where
  started : start ≤ s.journal.size
  live : c.live s bag.contextual.id = some bag
  only : ∀ (x : ScopeContext) id other, x.live s id = some other → other.episode = bag.episode →
    x = c ∧ id = bag.contextual.id
  rests : (s.episode bag.episode).Rests owned
  undestroyed : s.destroyedSince start bag.episode = []

theorem Whole.restarted {s : Store τ} (h : bag.Whole c owned start s) :
    bag.Whole c owned s.journal.size s where
  started := Nat.le_refl _
  live := h.live
  only := h.only
  rests := h.rests
  undestroyed := Store.destroyedSince_size bag.episode s

/-- A stored instance is gone: it was destroyed first, and what its episode owned afterwards in
order, each once. -/
structure Gone (bag : Bag) (owned : List Dependent) (start : Nat) (s : Store τ) : Prop where
  started : start ≤ s.journal.size
  nowhere : bag.episode.Nowhere s
  destroyed : s.destroyedSince start bag.episode = ⟨bag.contextual, bag.inst⟩ :: owned

theorem Whole.spared {s : Store σ} {t : Store τ} (h : bag.Whole c owned start s)
    (hst : bag.episode.Spared s t) : bag.Whole c owned start t where
  started := hst.started h.started
  live := (hst.entries c _ bag rfl).2 h.live
  only x id other hother heq := h.only x id other ((hst.entries x id other heq).1 hother) heq
  rests := by
    rw [hst.record]
    exact h.rests
  undestroyed := (hst.destroyedSince h.started).trans h.undestroyed

theorem Gone.spared {s : Store σ} {t : Store τ} (h : bag.Gone owned start s)
    (hst : bag.episode.Spared s t) : bag.Gone owned start t where
  started := hst.started h.started
  nowhere := hst.nowhere h.nowhere
  destroyed := (hst.destroyedSince h.started).trans h.destroyed

variable {host : Host τ} {m : Container} {s t : Store τ}

theorem Whole.nowhere (h : bag.Whole c owned start s) :
    bag.episode.Nowhere (c.takeEntry bag.contextual.id s).2 := by
  intro x id other hother heq
  by_cases hx : x = c
  · subst hx
    rw [ScopeContext.live_takeEntry] at hother
    split at hother
    · cases hother
    · rename_i hid
      exact hid (h.only x id other hother heq).2
  · rw [ScopeContext.takeEntry, ScopeContext.live_update, if_neg hx] at hother
    exact hx (h.only x id other hother heq).1

/-- The destruction of a whole instance returns if its callbacks do, and the instance is gone. -/
theorem Whole.destroyed (h : bag.Whole c owned start s)
    (hreturns : Episode.Returns stuck host bag.episode) (hlength : owned.length < UInt64.size) :
    Act.wp stuck (bag.destroy host) (fun _ t => bag.Gone owned start t)
      (c.takeEntry bag.contextual.id s).2 := by
  let u := (c.takeEntry bag.contextual.id s).2.note
    (.destroying bag.contextual bag.inst bag.episode)
  have hstarted : start ≤ u.journal.size := by
    refine Nat.le_trans h.started ?_
    exact Nat.le_of_lt (by simp [u, Store.note, ScopeContext.takeEntry, ScopeContext.update,
      Store.setContext])
  have hnowhere : bag.episode.Nowhere u := h.nowhere
  have hrests : (u.episode bag.episode).Rests owned := h.rests
  have hnoted : u.destroyedSince start bag.episode = [⟨bag.contextual, bag.inst⟩] := by
    have hundestroyed : (c.takeEntry bag.contextual.id s).2.destroyedSince start bag.episode = [] :=
      h.undestroyed
    rw [Store.destroyedSince_destroying (by exact h.started), hundestroyed, List.nil_append]
  have hdestroy : Act.wp stuck (bag.contextual.destroy host bag.inst bag.episode)
      (fun _ t => bag.episode.Spared u t) (c.takeEntry bag.contextual.id s).2 :=
    Contextual.wp_destroy_of (.refl _ u) (hreturns _ _ u)
  apply Bag.wp_destroy hdestroy
  intro t ht
  have hrests' : (t.episode bag.episode).Rests owned := by
    rw [ht.record]
    exact hrests
  apply (Episode.release_destroys hreturns (ht.started hstarted) hrests' (ht.nowhere hnowhere)
    hlength).mono
  rintro _ v ⟨hstarted', hnowhere', hdestroyed⟩ _
  refine ⟨hstarted', hnowhere', ?_⟩
  rw [hdestroyed, ht.destroyedSince hstarted, hnoted]
  rfl

theorem Whole.destroyReference (h : bag.Whole c owned start t)
    (hreturns : Episode.Returns stuck host bag.episode) (hlength : owned.length < UInt64.size)
    (hcurrent : (m.current host bag.contextual.scope).run.run s = some (.ok (some c), t)) :
    Act.wp stuck (m.destroyReference host bag.contextual)
      (fun _ u => bag.Gone owned start u) s := by
  rw [Container.destroyReference, Act.wp_bind, Act.wp_of_run hcurrent]
  apply ScopeContext.wp_destroy_of_live h.live
  apply (h.destroyed hreturns hlength).mono
  exact fun _ u hu => ⟨hu, fun _ => hu⟩

/-- A stored instance is whole, or it is gone. -/
def Ordered (bag : Bag) (c : ScopeContext) (owned : List Dependent) (start : Nat) (s : Store τ) :
    Prop :=
  bag.Whole c owned start s ∨ bag.Gone owned start s

/-- Callbacks leave the episode alone that they are given, and otherwise break no whole instance and
have nothing more happen to one that is gone. -/
structure Heeded (bag : Bag) (c : ScopeContext) (owned : List Dependent) (start : Nat)
    (host : Host τ) : Prop where
  returns : Episode.Returns True host bag.episode
  whole : bag.episode.OthersKeep host (bag.Ordered c owned start)
  gone : bag.episode.OthersKeep host (bag.Gone owned start)

theorem Ordered.spared (h : bag.Ordered c owned start s) (hst : bag.episode.Spared s t) :
    bag.Ordered c owned start t := by
  rcases h with h | h
  · exact .inl (h.spared hst)
  · exact .inr (h.spared hst)

/-- A teardown in which the entry of a whole instance is destroyed makes an end of it. -/
theorem Heeded.teardownReaches (h : bag.Heeded c owned start host)
    (hlength : owned.length < UInt64.size) :
    TeardownReaches True host c bag.contextual.id (bag.Ordered c owned start)
      (bag.Gone owned start) := by
  have hgone : ∀ (x : ScopeContext) id other (s : Store τ), bag.Gone owned start s →
      x.live s id = some other → other.episode ≠ bag.episode :=
    fun x id other s hs => hs.nowhere x id other
  have hafter : host.Exits True (bag.Gone owned start) := by
    apply h.gone.exits fun _ _ hst hs => hs.spared hst
    intro x id other s hs hother heq
    exact absurd heq (hgone x id other s hs hother)
  refine ⟨?_, hafter, ?_, ?_⟩
  · apply h.whole.exits fun _ _ hst hs => hs.spared hst
    rintro x id other s (hs | hs) hother heq
    · obtain ⟨rfl, rfl⟩ := hs.only x id other hother heq
      have hsame : other = bag := Option.some.inj (hother.symm.trans hs.live)
      rw [hsame]
      exact (hs.destroyed h.returns hlength).mono fun _ _ ht => .inr ht
    · exact absurd heq (hgone x id other s hs hother)
  · rintro s (hs | hs)
    · have hlive := hs.live
      refine .inr (Table.mem_keys_iff.2 ?_)
      cases hcell : (s.context c).entries.get? bag.contextual.id with
      | some cell => rfl
      | none =>
        rw [ScopeContext.live, hcell] at hlive
        cases hlive
    · exact .inl hs
  · rintro s (hs | hs)
    · apply ScopeContext.wp_destroyEntry
      · intro hnone
        rw [hs.live] at hnone
        cases hnone
      · intro other hother
        have hsame : other = bag := Option.some.inj (hother.symm.trans hs.live)
        rw [hsame]
        apply (hs.destroyed h.returns hlength).mono
        exact fun _ t ht => ⟨ht, fun _ => ht.spared (Episode.Spared.note rfl)⟩
    · exact hafter.entry c _ trivial s hs

theorem Whole.stop (hs : bag.Whole c owned start s) (h : bag.Heeded c owned start host)
    (hlength : owned.length < UInt64.size) {kind : ScopeKind}
    (hends : m.Ends host.thread kind c s) :
    Act.wp True (m.stop host kind) (fun _ t => bag.Gone owned start t) s :=
  (h.teardownReaches hlength).stop hends (.inl hs)

theorem Whole.destroyAll (hs : bag.Whole c owned start s) (h : bag.Heeded c owned start host)
    (hlength : owned.length < UInt64.size) :
    Act.wp True (c.destroyAll host) (fun _ t => bag.Gone owned start t) s :=
  (h.teardownReaches hlength).destroyAll (.inl hs)

/-- However the entry of a stored instance comes to be destroyed, if its episode was left alone
until then, the instance goes first, and what is owned afterwards in order. -/
structure EndsInOrder (bag : Bag) (m : Container) (c : ScopeContext) (owned : List Dependent)
    (s : Store σ) : Prop where
  destroyReference : ∀ {τ : Type} (host : Host τ) (t u : Store τ),
    Episode.Returns True host bag.episode →
    (m.current host bag.contextual.scope).run.run t = some (.ok (some c), u) →
    bag.episode.Spared s u →
    ∀ r v, (m.destroyReference host bag.contextual).run.run t = some (r, v) →
      bag.Gone owned s.journal.size v
  /-- It does come to an end if the callbacks do that are given the episode. -/
  returns : ∀ {τ : Type} (host : Host τ) (t u : Store τ),
    Episode.Returns False host bag.episode →
    (m.current host bag.contextual.scope).run.run t = some (.ok (some c), u) →
    bag.episode.Spared s u →
    ∃ r v, (m.destroyReference host bag.contextual).run.run t = some (r, v)
  destroyAll : ∀ {τ : Type} (host : Host τ) (t : Store τ),
    bag.Heeded c owned s.journal.size host → bag.episode.Spared s t →
    ∀ r u, (c.destroyAll host).run.run t = some (r, u) → bag.Gone owned s.journal.size u
  stop : ∀ {τ : Type} (host : Host τ) (t : Store τ),
    bag.Heeded c owned s.journal.size host → bag.episode.Spared s t →
    m.Ends host.thread bag.contextual.scope c t →
    ∀ r u, (m.stop host bag.contextual.scope).run.run t = some (r, u) →
      bag.Gone owned s.journal.size u
  /-- So do these two if all callbacks do, and nest conversations in order. -/
  endReturns : ∀ {τ : Type} (host : Host τ) (t : Store τ),
    host.Keeps False Store.Ascending → t.Ascending →
    (∃ r u, (c.destroyAll host).run.run t = some (r, u)) ∧
    ∃ r u, (m.stop host bag.contextual.scope).run.run t = some (r, u)

theorem Whole.endsInOrder {s : Store σ} (h : bag.Whole c owned s.journal.size s)
    (hlength : owned.length < UInt64.size) (m : Container) : bag.EndsInOrder m c owned s where
  destroyReference _ _ _ hreturns hcurrent hspared :=
    Act.wp_true_iff.1 ((h.spared hspared).destroyReference hreturns hlength hcurrent)
  returns _ _ _ hreturns hcurrent hspared := by
    obtain ⟨r, v, hrun, _⟩ :=
      Act.wp_false_iff.1 ((h.spared hspared).destroyReference hreturns hlength hcurrent)
    exact ⟨r, v, hrun⟩
  destroyAll _ _ hheeded hspared :=
    Act.wp_true_iff.1 ((h.spared hspared).destroyAll hheeded hlength)
  stop _ _ hheeded hspared hends :=
    Act.wp_true_iff.1 ((h.spared hspared).stop hheeded hlength hends)
  endReturns _ t hkeeps ht := by
    obtain ⟨r, u, hrun, -⟩ := Act.wp_false_iff.1 (hkeeps.exits.destroyAll (c := c) trivial t ht)
    obtain ⟨r', u', hrun', -⟩ := Act.wp_false_iff.1
      (hkeeps.exits.stop (m := m) bag.contextual.scope t ht)
    exact ⟨⟨r, u, hrun⟩, r', u', hrun'⟩

end Bag

end ContextualLifecycle
