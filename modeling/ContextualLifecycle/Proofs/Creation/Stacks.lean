import ContextualLifecycle.Proofs.Container.Requests

namespace ContextualLifecycle

variable {σ : Type}

/-- What the threads are creating, the innermost creation of each first. -/
abbrev Stacks := Thread → List (ScopeContext × ContextualId)

def Stacks.enter (frames : Stacks) (thread : Thread) (c : ScopeContext) (id : ContextualId) :
    Stacks :=
  fun x => if x = thread then (c, id) :: frames x else frames x

/-- The stacks are known, and so are the first events of the journal. Of the surroundings something
is known besides. -/
structure Store.Stacked (P : σ → Prop) (frames : Stacks) (events : List Event) (s : Store σ) :
    Prop where
  stack : ∀ thread, s.stack thread = frames thread
  journal : events <+: s.journal.toList
  among : P s.surroundings

namespace Store.Stacked

variable {P : σ → Prop} {frames : Stacks} {events : List Event} {s t : Store σ}

theorem aside (h : s.Stacked P frames events) (hcreating : t.creating = s.creating)
    (hjournal : t.journal = s.journal) (hamong : t.surroundings = s.surroundings) :
    t.Stacked P frames events where
  stack thread := by
    rw [Store.stack, hcreating]
    exact h.stack thread
  journal := hjournal ▸ h.journal
  among := hamong ▸ h.among

theorem noted (h : s.Stacked P frames events) (event : Event) :
    (s.note event).Stacked P frames events :=
  { h with
    journal := by
      rw [Store.note, Array.toList_push]
      exact h.journal.trans (List.prefix_append _ _) }

theorem mono {earlier : List Event} (h : s.Stacked P frames events)
    (hearlier : earlier <+: events) : s.Stacked P frames earlier :=
  { h with journal := hearlier.trans h.journal }

theorem claimCell (h : s.Stacked P frames events) (c : ScopeContext) (id : ContextualId) :
    (c.claimCell id s).2.Stacked P frames events := by
  obtain ⟨_, _, heq⟩ := ScopeContext.claimCell_aside c id s
  rw [heq]
  exact h.aside rfl rfl rfl

theorem now (h : s.Stacked P frames events) : s.Stacked P frames s.journal.toList :=
  { h with journal := List.prefix_refl _ }

theorem enter (h : s.Stacked P frames events) (thread : Thread) (c : ScopeContext)
    (id : ContextualId) :
    (s.setStack thread ((c, id) :: s.stack thread)).Stacked P (frames.enter thread c id) events :=
  { h with
    stack := fun x => by
      rw [Store.stack_setStack_eq, Stacks.enter]
      split
      · rename_i hx
        rw [hx, h.stack thread]
      · exact h.stack x }

theorem leave {thread : Thread} {c : ScopeContext} {id : ContextualId}
    (h : s.Stacked P (frames.enter thread c id) events) :
    (ScopeContext.leaveCreation thread s).Stacked P frames events :=
  { h with
    stack := fun x => by
      have hx := h.stack x
      rw [ScopeContext.stack_leaveCreation_eq]
      rw [Stacks.enter] at hx
      split
      · rename_i heq
        rw [if_pos heq] at hx
        rw [← heq, hx, List.tail_cons]
      · rename_i hne
        rwa [if_neg hne] at hx }

section Operations

variable {host : Host σ} (h : host.Keeps True (Store.Stacked P frames events))

include h

theorem create (unit : Contextual) (e : Episode) :
    Act.Keeps True (Store.Stacked P frames events) (unit.create host e) := by
  intro s hs
  apply Contextual.wp_create (h.create unit e _ (hs.noted _))
  · exact fun inst t ht => ht.noted _
  · exact fun error t ht => ht

theorem treats : host.Treats (fun _ => True) fun _ => Store.Stacked P frames events where
  remarked _ _ _ _ hs := hs.noted _
  destroying _ _ _ hs := hs.noted _
  create _ unit e s hs := (create h unit e s hs).mono fun r t ht => by cases r <;> exact ht
  described _ _ _ _ _ _ hs := hs.aside rfl rfl rfl
  registered _ _ _ hs := hs.aside rfl rfl rfl
  unlisted _ _ _ _ _ _ _ hs := hs.aside rfl rfl rfl
  taken _ _ _ _ _ hs := hs.aside rfl rfl rfl
  tends _ := h.tends

theorem attends : host.Attends (Store.Stacked P frames events) where
  reported _ _ hs := hs.noted _
  entry _ := (treats h).destroyEntry [] trivial
  notify := h.notify
  notified _ _ _ _ _ hs := hs.noted _
  opened _ _ hs := hs.aside rfl rfl rfl
  switched _ _ _ hs := hs.aside rfl rfl rfl
  emptied _ _ hs := hs.aside rfl rfl rfl
  removed _ _ _ hs := hs.aside rfl rfl rfl
  vacated _ _ _ _ hs := hs.aside rfl rfl rfl
  occupied _ _ _ _ _ hs := hs.aside rfl rfl rfl
  shared _ _ _ hs := hs.aside rfl rfl rfl
  added _ _ _ _ _ hs := hs.aside rfl rfl rfl
  conversed _ _ _ _ hs := hs.aside rfl rfl rfl
  container _ _ _ hs := hs.aside rfl rfl rfl
  rescoped _ _ _ _ hs := hs.aside rfl rfl rfl
  forgotten _ _ _ hs := hs.aside rfl rfl rfl

theorem restores : host.Restores (fun _ => True) fun _ => Store.Stacked P frames events where
  restore _ := h.restore
  restored _ _ _ hs := hs.noted _
  begun _ _ _ _ _ hs := hs.aside rfl rfl rfl
  registered _ _ _ hs := hs.aside rfl rfl rfl
  placed _ _ _ _ _ hs := hs.aside rfl rfl rfl

theorem rebuilds : host.Rebuilds fun _ => Store.Stacked P frames events where
  entry _ _ m entry := (restores h).restoreEntry [] m trivial entry
  begun _ _ _ hs := hs.aside rfl rfl rfl
  done _ _ _ hs := hs
  converse _ _ _ _ _ hs := hs.aside rfl rfl rfl
  listed _ _ _ _ _ _ hs _ := hs.aside rfl rfl rfl

theorem restoreContext (m : Container) (snapshot : ContextSnapshot) :
    Act.Keeps True (Store.Stacked P frames events) (m.restoreContext host snapshot) :=
  (rebuilds h).restoreContext_keeps m snapshot []

theorem perform (call : Call) (hcall : ∀ c unit e, call ≠ .getOrCreate c unit e) :
    Act.Keeps True (Store.Stacked P frames events) (call.perform host) := by
  cases call with
  | newContainer | register | wait | newEpisode | describe | promote | demote | setTimeout
  | touch =>
    exact fun s hs => hs.aside rfl rfl rfl
  | wrap m outer unit =>
    cases outer with
    | episode e => exact fun s hs => hs
    | foreign f => exact fun s hs => hs.aside rfl rfl rfl
  | addDependent e unit inst =>
    cases inst with
    | none => exact fun s hs => hs
    | some inst => exact fun s hs => hs.aside rfl rfl rfl
  | push e inst => exact fun s hs => (Act.wp_lift _).2 ((treats h).push [] e inst s hs)
  | destroyDependent e inst =>
    exact ((treats h).releaseKeeps e []).toDrainKeeps.destroyDependent inst
  | removeAllDependents e => exact ((treats h).releaseKeeps e []).removeAllDependents
  | release e => exact ((treats h).releaseKeeps e []).release_keeps
  | newContext kind => exact (attends h).opened kind
  | setActive c active => exact (attends h).switched c active
  | getOrCreate c unit e => exact absurd rfl (hcall c unit e)
  | destroy c unit => exact (treats h).destroyUnit [] trivial unit
  | destroyExisting c unit => exact (treats h).destroyExisting [] trivial unit
  | destroyAll c => exact (attends h).destroyAll c
  | removeConversation c id => exact (attends h).removed c id
  | restoreContext m snapshot => exact restoreContext h m snapshot
  | _ => exact Call.perform_attended _ rfl (attends h) (restoreContext h)

end Operations

section Creation

variable {host : Host σ} {c : ScopeContext} {unit : Contextual} {e : Episode}

/-- A creation is on the stack of its thread from before its callback starts until after all of its
callbacks. -/
theorem createInto {n : Nat} (hjournal : s.journal.toList = events)
    (hs : s.Stacked P (frames.enter host.thread c unit.id) events)
    (h : host.Keeps True
      (Store.Stacked P (frames.enter host.thread c unit.id) (events ++ [.creating unit e]))) :
    Act.wp True (c.createInto host unit e n) (fun _ t => (ScopeContext.leaveCreation host.thread
      t).Stacked P frames (events ++ [.creating unit e])) s := by
  have hcalled : ((c.fillCell unit.id n .filling s).note (.creating unit e)).Stacked P
      (frames.enter host.thread c unit.id) (events ++ [.creating unit e]) :=
    { hs with
      journal := by
        have hpushed : (s.journal.push (.creating unit e)).toList =
            events ++ [.creating unit e] := by
          rw [Array.toList_push, hjournal]
        exact hpushed ▸ List.prefix_refl _ }
  apply ScopeContext.wp_createInto
    (P := fun _ => Store.Stacked P (frames.enter host.thread c unit.id)
      (events ++ [.creating unit e]))
  · apply Contextual.wp_create (h.create unit e _ hcalled)
    · exact fun inst t ht => ht.noted _
    · exact fun error t ht => ht
  · intro error t ht
    apply (((treats h).releaseKeeps e []).release_keeps t ht).mono
    exact fun _ u hu => ⟨leave (hu.aside rfl rfl rfl), fun left =>
      leave ((hu.noted (.report (.cleanupFailed unit.id left))).aside rfl rfl rfl)⟩
  · exact fun inst t ht _ _ => leave (ht.aside rfl rfl rfl)
  · intro inst t ht _
    have hlost : (c.dropCell unit.id n (c.fillCell unit.id n (.live ⟨unit, inst, e⟩) t)).Stacked P
        (frames.enter host.thread c unit.id) (events ++ [.creating unit e]) := ht.aside rfl rfl rfl
    exact (@Host.Treats.destroyBag _ _ _ _ [] (treats h) ⟨unit, inst, e⟩ _ hlost).mono
      fun _ u hu error => leave hu

end Creation

end Store.Stacked

/-- A request for an instance failed as circular, and nobody was called for it. -/
def Rejected (answer : Except LifecycleError Instance) (s t : Store σ) : Prop :=
  (∃ path, answer = .error (.circular path)) ∧ t.journal = s.journal

/-- What comes of a request for an instance that the context does not have. It is rejected just if
its creation is on the stack of the thread. Then the error is the way back to that, and neither an
entry nor an episode has changed. Otherwise the surroundings are called for the instance at once. -/
structure ScopeContext.Admission (thread : Thread) (c : ScopeContext) (unit : Contextual)
    (e : Episode) (s : Store σ) (answer : Except LifecycleError Instance) (t : Store σ) : Prop where
  rejected_iff : Rejected answer s t ↔ (c, unit.id) ∈ s.stack thread
  path : ∀ inner outer, s.stack thread = inner ++ (c, unit.id) :: outer →
    answer = .error (.circular
      ((unit.id :: inner.reverse.map Prod.snd ++ [unit.id]).map (·.text)))
  untouched : (c, unit.id) ∈ s.stack thread →
    t.episodes = s.episodes ∧ ∀ (x : ScopeContext) id, x.live t id = x.live s id
  called : (c, unit.id) ∉ s.stack thread →
    s.journal.toList ++ [.creating unit e] <+: t.journal.toList

namespace ScopeContext.Admission

variable {thread : Thread} {c : ScopeContext} {unit : Contextual} {e : Episode} {s t : Store σ}
  {answer : Except LifecycleError Instance}

theorem of_called (hin : (c, unit.id) ∉ s.stack thread)
    (hcalled : s.journal.toList ++ [.creating unit e] <+: t.journal.toList) :
    c.Admission thread unit e s answer t where
  rejected_iff := by
    refine ⟨fun hrejected => ?_, fun h => absurd h hin⟩
    rw [hrejected.2] at hcalled
    have hlength := hcalled.length_le
    rw [List.length_append, List.length_singleton] at hlength
    exact absurd hlength (Nat.not_succ_le_self _)
  path inner outer hstack := absurd (by rw [hstack]; simp) hin
  untouched h := absurd h hin
  called _ := hcalled

theorem of_cycle (hnodup : (s.stack thread).Nodup) (hin : (c, unit.id) ∈ s.stack thread)
    {path : List ContextualId} (hcycle : cycle? (s.stack thread) c unit.id = some path) :
    c.Admission thread unit e s (.error (.circular (path.map (·.text))))
      (c.claimCell unit.id s).2 := by
  obtain ⟨_, _, heq⟩ := claimCell_aside c unit.id s
  refine ⟨⟨fun _ => hin, fun _ => ⟨⟨_, rfl⟩, ?_⟩⟩, ?_, fun _ => ⟨?_, ?_⟩, absurd hin⟩
  · rw [heq]
  · intro inner outer hstack
    rw [hstack] at hnodup hcycle
    have hinner : (c, unit.id) ∉ inner := fun hmem =>
      (List.nodup_append.1 hnodup).2.2 _ hmem _ List.mem_cons_self rfl
    rw [cycle?_append hinner] at hcycle
    rw [Option.some.inj hcycle]
  · rw [heq]
  · exact fun x id => live_claimCell_eq c x unit.id id s

end ScopeContext.Admission

/-- A request for an instance leaves the stacks as they were. Only callbacks of a creation run with
other ones, where its own is on the stack of the thread. -/
theorem ScopeContext.getOrCreate_stacked {P : σ → Prop} {frames : Stacks} {events : List Event}
    {host : Host σ} {c : ScopeContext} {unit : Contextual} {e : Episode} {s : Store σ}
    (hs : s.Stacked P frames events) (hnodup : (s.stack host.thread).Nodup)
    (hdependent : (s.context c).kind = .dependent → host.Keeps True (Store.Stacked P frames events))
    (hentered : (s.context c).active = true → (s.context c).kind ≠ .dependent →
      c.live s unit.id = none → (c, unit.id) ∉ s.stack host.thread →
      host.Keeps True (Store.Stacked P (frames.enter host.thread c unit.id)
        (s.journal.toList ++ [.creating unit e]))) :
    Act.wp True (c.getOrCreate host unit e) (fun answer t => t.Stacked P frames events ∧
      ((s.context c).active = true → (s.context c).kind ≠ .dependent → c.live s unit.id = none →
        c.Admission host.thread unit e s answer t)) s := by
  cases hactive : (s.context c).active with
  | false =>
    rw [wp_getOrCreate_of_inactive hactive]
    exact ⟨hs, fun h => by cases h⟩
  | true =>
    by_cases hkind : (s.context c).kind = .dependent
    · rw [wp_getOrCreate_of_dependent hactive hkind]
      apply ((Store.Stacked.treats (hdependent hkind)).createDependent [] unit e s hs).mono
      exact fun _ t ht => ⟨ht, fun _ h => absurd hkind h⟩
    cases hlive : c.live s unit.id with
    | some bag =>
      rw [wp_getOrCreate_of_live hactive hkind hlive]
      exact ⟨hs, fun _ _ h => by cases h⟩
    | none =>
      have hclaimed := hs.now.claimCell c unit.id
      by_cases hin : (c, unit.id) ∈ s.stack host.thread
      · obtain ⟨inner, outer, hstack, hinner⟩ := List.eq_append_cons_of_mem hin
        have hcycle : cycle? (inner ++ (c, unit.id) :: outer) c unit.id = _ := cycle?_append hinner
        rw [← hstack] at hcycle
        rw [wp_getOrCreate_of_cycle hactive hkind hlive hcycle]
        exact ⟨hs.claimCell c unit.id, fun _ _ _ => .of_cycle hnodup hin hcycle⟩
      · apply wp_getOrCreate_of_absent hactive hkind hlive
        · exact fun _ h => absurd h hin
        · exact fun _ _ => trivial
        intro _ _
        have hstacked := hclaimed.enter host.thread c unit.id
        rw [stack_claimCell] at hstacked
        have hjournal : (((c.claimCell unit.id s).2.setStack host.thread
            ((c, unit.id) :: s.stack host.thread)).journal).toList = s.journal.toList := by
          obtain ⟨_, _, heq⟩ := claimCell_aside c unit.id s
          rw [heq]
          rfl
        apply (Store.Stacked.createInto hjournal hstacked
          (hentered hactive hkind hlive hin)).mono
        intro answer t ht
        exact ⟨ht.mono (hs.journal.trans (List.prefix_append _ _)),
          fun _ _ _ => .of_called hin ht.journal⟩

end ContextualLifecycle
