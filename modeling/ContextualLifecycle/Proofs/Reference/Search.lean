import ContextualLifecycle.Proofs.Episode.Teardown
import ContextualLifecycle.Proofs.Reference.Visit

namespace ContextualLifecycle

variable {σ α : Type}

/-- A search went on from where it stood, until the given definitions were done. -/
structure Reached (n : Network σ) (home : ScopeKind → ScopeContext) (s₀ : Store σ)
    (gray : List Pending) (done targets new : List Contextual) (s : Store σ) : Prop where
  visit : Visit n home s₀ gray (new ++ done) [] s
  found : ∀ x ∈ targets, x ∈ new ++ done
  asked : ∀ v ∈ new, ∃ x ∈ targets, n.Reach x v

/-- A search went on until a walk, which starts from one of the given definitions, led back. -/
structure Turned (n : Network σ) (home : ScopeKind → ScopeContext) (s₀ : Store σ)
    (gray : List Pending) (done targets new walk : List Contextual) (last : Contextual)
    (error : LifecycleError) (s : Store σ) : Prop where
  visit : Visit n home s₀ gray (new ++ done) walk s
  trapped : n.Trapped ((gray.map (·.unit)).reverse ++ walk) last
  error_eq : error = .circular
    ((Graph.ring ((gray.map (·.unit)).reverse ++ walk) last).map (·.id.text))
  first : ∃ x ∈ targets, (walk ++ [last]).head? = some x

/-- A search from given definitions on reaches all of them or is turned back. -/
def Searched (n : Network σ) (home : ScopeKind → ScopeContext) (s₀ : Store σ)
    (gray : List Pending) (done targets : List Contextual) :
    Except LifecycleError α → Store σ → Prop
  | .ok _, s => ∃ new, Reached n home s₀ gray done targets new s
  | .error error, s => ∃ new walk last, Turned n home s₀ gray done targets new walk last error s

section Search

variable {n : Network σ} {home : ScopeKind → ScopeContext} {s₀ s t : Store σ}
  {gray : List Pending} {done targets new : List Contextual} {u x : Contextual}
  {deeper : Contextual → Episode → Act σ Instance} {depth : Nat}

/-- A definition that is asked for while it is in progress closes a cycle. -/
theorem Visit.cycle?_stack (h : Visit n home s₀ gray done [] s) (hu : u ∈ gray.map (·.unit)) :
    ScopeContext.cycle? (s.stack n.host.thread) (home u.scope) u.id =
      some ((Graph.ring (gray.map (·.unit)).reverse u).map (·.id)) := by
  let mark := fun v : Contextual => (home v.scope, v.id)
  have hunits : ∀ v ∈ gray.map (·.unit), v ∈ n.units :=
    fun v hv => h.search.known v (List.mem_append_left done hv)
  have hnodup : (gray.map (·.unit)).Nodup := (List.nodup_append.1 h.search.apart).1
  have hstack : s.stack n.host.thread =
      (gray.map (·.unit)).map mark ++ s₀.stack n.host.thread := by
    rw [h.stack, List.map_map]
    rfl
  obtain ⟨inner, outer, hgray, hinner⟩ := List.eq_append_cons_of_mem hu
  rw [hgray] at hunits hnodup hstack ⊢
  have houter : u ∉ outer.reverse := by
    rw [List.mem_reverse]
    exact (List.nodup_cons.1 (List.nodup_append.1 hnodup).2.1).1
  have hmark : (home u.scope, u.id) ∉ inner.map mark := by
    intro hin
    obtain ⟨v, hv, heq⟩ := List.mem_map.1 hin
    have hvu := n.eq_of_id (hunits v (List.mem_append_left _ hv)) (hunits u (by simp))
      (congrArg Prod.snd heq)
    exact hinner (hvu ▸ hv)
  have hring : Graph.ring (inner ++ u :: outer).reverse u = u :: inner.reverse ++ [u] := by
    rw [List.reverse_append, List.reverse_cons, List.append_assoc, List.singleton_append,
      Graph.ring_of_append houter]
  rw [hstack, List.map_append, List.append_assoc, List.map_cons, List.cons_append,
    ScopeContext.cycle?_append hmark, hring]
  simp [mark, List.map_reverse]

theorem forM_searched {f : Contextual → Act σ PUnit} {xs : List Contextual}
    (hf : ∀ x ∈ xs, ∀ done s, Visit n home s₀ gray done [] s →
      Act.wp False (f x) (Searched n home s₀ gray done [x]) s)
    (h : Visit n home s₀ gray done [] s) :
    Act.wp False (xs.forM f) (Searched n home s₀ gray done xs) s := by
  induction xs generalizing done s with
  | nil => exact ⟨[], h, by simp, by simp⟩
  | cons x xs ih =>
    have hcons : (x :: xs).forM f = f x >>= fun _ => xs.forM f := rfl
    rw [hcons, Act.wp_bind]
    apply (hf x List.mem_cons_self done s h).mono
    intro r t ht
    cases r with
    | error error =>
      obtain ⟨new, walk, last, ht⟩ := ht
      obtain ⟨y, hy, hfirst⟩ := ht.first
      rw [List.mem_singleton.1 hy] at hfirst
      exact ⟨new, walk, last, ht.visit, ht.trapped, ht.error_eq, x, List.mem_cons_self, hfirst⟩
    | ok _ =>
      obtain ⟨new, ht⟩ := ht
      apply (ih (fun y hy => hf y (List.mem_cons_of_mem x hy)) ht.visit).mono
      intro r u hu
      cases r with
      | error error =>
        obtain ⟨new', walk, last, hu⟩ := hu
        obtain ⟨y, hy, hfirst⟩ := hu.first
        refine ⟨new' ++ new, walk, last, ?_, hu.trapped, hu.error_eq, y,
          List.mem_cons_of_mem x hy, hfirst⟩
        rw [List.append_assoc]
        exact hu.visit
      | ok _ =>
        obtain ⟨new', hu⟩ := hu
        refine ⟨new' ++ new, ?_, ?_, ?_⟩
        · rw [List.append_assoc]
          exact hu.visit
        · intro y hy
          rw [List.append_assoc]
          rcases List.mem_cons.1 hy with rfl | hy
          · exact List.mem_append_right new' (ht.found y List.mem_cons_self)
          · exact hu.found y hy
        · intro v hv
          rcases List.mem_append.1 hv with hv | hv
          · obtain ⟨y, hy, hreach⟩ := hu.asked v hv
            exact ⟨y, List.mem_cons_of_mem x hy, hreach⟩
          · obtain ⟨y, hy, hreach⟩ := ht.asked v hv
            exact ⟨y, List.mem_singleton.1 hy ▸ List.mem_cons_self, hreach⟩

/-- A creation in a cell has searched the successors of its definition. -/
def Created (n : Network σ) (home : ScopeKind → ScopeContext) (s₀ : Store σ) (p : Pending)
    (gray : List Pending) (done : List Contextual) :
    Except LifecycleError Instance → Store σ → Prop
  | .ok inst, t => ∃ new s, Reached n home s₀ (p :: gray) done (n.successors p.unit) new s ∧
      t = s.note (.created p.unit p.episode inst)
  | .error error, t =>
      Searched n home s₀ (p :: gray) done (n.successors p.unit) (α := Instance) (.error error) t

theorem Searched.failed {p : Pending} {error : LifecycleError}
    (h : Searched n home s₀ (p :: gray) done (n.successors p.unit) (α := Instance)
      (.error error) s) :
    Searched n home s₀ gray done [p.unit] (α := Instance) (.error error)
      (ScopeContext.leaveCreation n.host.thread
        ((home p.unit.scope).dropCell p.unit.id p.serial s)) := by
  obtain ⟨new, walk, last, h⟩ := h
  have hcell : Network.cell home p.unit s = some ⟨p.serial, .filling⟩ :=
    h.visit.pending p List.mem_cons_self
  have hholds : (s.context (home p.unit.scope)).holds p.unit.id p.serial = true := by
    rw [ScopeContext.Record.holds, ← Network.cell, hcell]
    exact beq_self_eq_true p.serial
  have hdropped := ScopeContext.recelled_dropCell (home p.unit.scope) p.unit.id p.serial s
  have hwalk : ((p :: gray).map (·.unit)).reverse ++ walk =
      (gray.map (·.unit)).reverse ++ p.unit :: walk := by
    simp
  refine ⟨new, p.unit :: walk, last, ?_, hwalk ▸ h.trapped, hwalk ▸ h.error_eq, p.unit,
    List.mem_cons_self, rfl⟩
  apply h.visit.fail (hdropped.stacked n.host.thread _)
  · change ((((home p.unit.scope).dropCell p.unit.id p.serial s).context _).entries.get? _) = none
    rw [ScopeContext.get?_dropCell, if_pos ⟨rfl, hholds⟩]
  · exact ScopeContext.stack_leaveCreation _ _
  · rfl

theorem Reached.completed {p : Pending} {inst : Instance}
    (h : Reached n home s₀ (p :: gray) done (n.successors p.unit) new s) :
    Reached n home s₀ gray done [p.unit] (p.unit :: new)
      (ScopeContext.leaveCreation n.host.thread ((home p.unit.scope).fillCell p.unit.id p.serial
        (.live ⟨p.unit, inst, p.episode⟩) (s.note (.created p.unit p.episode inst)))) := by
  have hcell : Network.cell home p.unit s = some ⟨p.serial, .filling⟩ :=
    h.visit.pending p List.mem_cons_self
  have hholds : ((s.note (.created p.unit p.episode inst)).context (home p.unit.scope)).holds
      p.unit.id p.serial = true := by
    change Option.any _ (Network.cell home p.unit s) = true
    rw [hcell]
    exact beq_self_eq_true p.serial
  have hfilled := ScopeContext.recelled_fillCell (home p.unit.scope) p.unit.id p.serial
    (.live ⟨p.unit, inst, p.episode⟩) (s.note (.created p.unit p.episode inst))
  refine ⟨?_, ?_, ?_⟩
  · apply h.visit.finish h.found (hfilled.of_note.stacked n.host.thread _)
    · change ((((home p.unit.scope).fillCell p.unit.id p.serial _ _).context _).entries.get? _) = _
      rw [ScopeContext.get?_fillCell, if_pos ⟨rfl, hholds⟩]
    · exact ScopeContext.stack_leaveCreation _ _
    · rfl
  · intro x hx
    rw [List.mem_singleton.1 hx]
    exact List.mem_cons_self
  · intro v hv
    refine ⟨p.unit, List.mem_cons_self, ?_⟩
    rcases List.mem_cons.1 hv with rfl | hv
    · exact .refl
    · obtain ⟨y, hy, hreach⟩ := h.asked v hv
      exact .head hy hreach

theorem Visit.getOrCreate {host : Host σ} {own : Episode}
    (h : Visit n home s₀ gray done [] s) (hready : n.Ready home s₀)
    (hthread : host.thread = n.host.thread) (hx : x ∈ n.units)
    (hgray : x ∉ gray.map (·.unit)) (hdone : x ∉ done)
    (hown : own.number < s.nextEpisode ∧ (s.episode own).dependents = [] ∧
      (s.episode own).outer = none)
    (hcreate : ∀ serial t, Visit n home s₀ (⟨x, serial, own⟩ :: gray) done [] t →
      Act.wp False (host.create x own)
        (Searched n home s₀ (⟨x, serial, own⟩ :: gray) done (n.successors x)) t) :
    Act.wp False ((home x.scope).getOrCreate host x own) (Searched n home s₀ gray done [x]) s := by
  have hempty := h.absent x hx hgray hdone
  have hlive : (home x.scope).live s x.id = none := by
    cases hcell : Network.cell home x s with
    | none => rw [ScopeContext.live, ← Network.cell, hcell, Option.bind_none]
    | some k =>
      rw [ScopeContext.live, ← Network.cell, hcell, Option.bind_some, Cell.bag?,
        hempty k hcell]
  have hidle : (home x.scope, x.id) ∉ s.stack host.thread := by
    rw [hthread, h.stack, List.mem_append, not_or]
    refine ⟨?_, hready.idle x hx⟩
    intro hin
    obtain ⟨p, hp, hmark⟩ := List.mem_map.1 hin
    have hsame := n.eq_of_id (h.mem_units_of_pending hp) hx (congrArg Prod.snd hmark)
    exact hgray (hsame ▸ List.mem_map_of_mem hp)
  have hclaimed : ((home x.scope).claimCell x.id s).1.content = .empty := by
    obtain ⟨hcell, _⟩ | ⟨_, hcell, _⟩ := ScopeContext.claimCell_cases (home x.scope) x.id s
    · exact hempty _ hcell
    · rw [hcell]
  apply ScopeContext.wp_getOrCreate_of_absent ((h.fixed.active _).trans (hready.active x hx))
    (by rw [h.fixed.kind]; exact hready.storing x hx) hlive
  · exact fun _ hin => absurd hin hidle
  · intro _ hfilling
    rw [hclaimed] at hfilling
    cases hfilling
  intro _ _
  obtain ⟨serial, hserial⟩ : ∃ serial, serial = ((home x.scope).claimCell x.id s).1.serial :=
    ⟨_, rfl⟩
  let p : Pending := ⟨x, serial, own⟩
  let claimed := (home x.scope).claimCell x.id s
  let s' := claimed.2.setStack host.thread ((home x.scope, x.id) :: s.stack host.thread)
  have hclaim := ScopeContext.recelled_claimCell (home x.scope) x.id s
  have hfill := ScopeContext.recelled_fillCell (home x.scope) x.id serial .filling s'
  have hholds : (s'.context (home x.scope)).holds x.id serial = true := by
    have hcell : (s'.context (home x.scope)).entries.get? x.id = some claimed.1 :=
      ScopeContext.get?_claimCell (home x.scope) x.id s
    rw [ScopeContext.Record.holds, hcell, hserial]
    exact beq_self_eq_true _
  have hentered : Visit n home s₀ (p :: gray) done []
      (((home x.scope).fillCell x.id serial .filling s').note (.creating x own)) := by
    apply h.enter hx hgray hdone ((hclaim.stacked _ _).trans hfill) _ hown
    · rw [← hthread]
      exact Store.stack_setStack _ _ _
    · obtain ⟨_, _, hs⟩ := ScopeContext.claimCell_aside (home x.scope) x.id s
      exact congrArg (·.journal) hs
    · rw [Network.cell, ScopeContext.get?_fillCell, if_pos ⟨rfl, hholds⟩]
  rw [← hserial]
  apply ScopeContext.wp_createInto (P := Created n home s₀ p gray done)
  · apply Contextual.wp_create (hcreate serial _ hentered)
    · rintro inst t ⟨new, ht⟩
      exact ⟨new, t, ht, rfl⟩
    · exact fun error t ht => ht
  · intro error t ht
    obtain ⟨new, walk, last, hturned⟩ := ht
    obtain ⟨_, hnone, houter⟩ := hturned.visit.unburdened p List.mem_cons_self
    apply Episode.wp_release_of_unwrapped
    rw [Episode.wp_removeAllDependents_of_nil hnone, hthread]
    refine ⟨houter, Searched.failed ⟨new, walk, last, hturned⟩, fun left => ?_⟩
    exact Searched.failed ⟨new, walk, last, hturned.visit.reported _, hturned.trapped,
      hturned.error_eq, hturned.first⟩
  · rintro inst t ⟨new, t, ht, rfl⟩ _ _
    rw [hthread]
    exact ⟨x :: new, ht.completed⟩
  · rintro inst t ⟨new, t, ht, rfl⟩ hlost
    have hcell : Network.cell home x t = some ⟨serial, .filling⟩ :=
      ht.visit.pending p List.mem_cons_self
    have hactive : (t.context (home x.scope)).active = true :=
      (ht.visit.fixed.active _).trans (hready.active x hx)
    have hkept : (t.context (home x.scope)).holds x.id serial = true := by
      rw [ScopeContext.Record.holds, ← Network.cell, hcell]
      exact beq_self_eq_true serial
    have hstays : ((t.context (home x.scope)).active &&
        (t.context (home x.scope)).holds x.id serial) = true := by
      rw [hactive, hkept]
      rfl
    exact absurd (hstays.symm.trans hlost) (by decide)

/-- A reference to a definition finds it done, finds it in progress, or has it created. -/
theorem Visit.reference_of_created {host : Host σ} (h : Visit n home s₀ gray done [] s)
    (hquiet : n.Quiet) (hready : n.Ready home s₀) (hhost : host.thread = n.host.thread)
    (hproxy : host.proxy = n.host.proxy) (hx : x ∈ n.units)
    (hchain : ((gray.map (·.unit)).reverse ++ [x]).IsChain n.Edge) (e : Episode)
    (hcreate : ∀ own serial t, Visit n home s₀ (⟨x, serial, own⟩ :: gray) done [] t →
      Act.wp False (host.create x own)
        (Searched n home s₀ (⟨x, serial, own⟩ :: gray) done (n.successors x)) t) :
    Act.wp False (n.container.reference host x e) (Searched n home s₀ gray done [x]) s := by
  obtain ⟨hdependent, hconversation⟩ := n.shared x hx
  have hattached : n.container.attached host.thread x.scope s = some (home x.scope) := by
    rw [hhost, h.fixed.attached]
    exact hready.attached x hx
  simp only [Container.reference, hdependent, ↓reduceIte, Act.wp_bind,
    Container.wp_activeContext_of_attached hconversation hattached, Act.wp_modifyGet]
  have hs := h.issued (some x)
  obtain ⟨own, s', hnew⟩ : ∃ own s', n.container.newEpisode (some x) s = (own, s') := ⟨_, _, rfl⟩
  have hown : own.number < s'.nextEpisode ∧ (s'.episode own).dependents = [] ∧
      (s'.episode own).outer = none := by
    cases hnew
    refine ⟨Nat.lt_succ_self _, ?_⟩
    simp [Store.episode, Store.setEpisode]
  rw [hnew] at hs ⊢
  have hactive : (s'.context (home x.scope)).active = true :=
    (hs.fixed.active _).trans (hready.active x hx)
  have hkind : (s'.context (home x.scope)).kind ≠ .dependent := by
    rw [hs.fixed.kind]
    exact hready.storing x hx
  have hsearched : Act.wp False ((home x.scope).getOrCreate host x own)
      (Searched n home s₀ gray done [x]) s' := by
    by_cases hdone : x ∈ done
    · obtain ⟨serial, bag, hcell⟩ := hs.stored x hdone
      have hlive : (home x.scope).live s' x.id = some bag := by
        rw [ScopeContext.live, ← Network.cell, hcell]
        rfl
      rw [ScopeContext.wp_getOrCreate_of_live hactive hkind hlive]
      exact ⟨[], hs, by simpa using hdone, by simp⟩
    by_cases hgray : x ∈ gray.map (·.unit)
    · obtain ⟨p, hp, rfl⟩ := List.mem_map.1 hgray
      have hcell := hs.pending p hp
      have hlive : (home p.unit.scope).live s' p.unit.id = none := by
        rw [ScopeContext.live, ← Network.cell, hcell]
        rfl
      have hclaim : ((home p.unit.scope).claimCell p.unit.id s').2 = s' := by
        obtain ⟨_, hs⟩ | ⟨hnone, _⟩ := ScopeContext.claimCell_cases (home p.unit.scope) p.unit.id s'
        · exact hs
        · rw [← Network.cell, hcell] at hnone
          cases hnone
      have hcycle := hs.cycle?_stack hgray
      rw [← hhost] at hcycle
      rw [ScopeContext.wp_getOrCreate_of_cycle hactive hkind hlive hcycle, hclaim, List.map_map]
      refine ⟨[], [], p.unit, hs, ⟨?_, ?_, ?_⟩, ?_, p.unit, List.mem_cons_self, rfl⟩
      · rw [List.append_nil]
        exact hchain
      · rw [List.append_nil, List.nodup_reverse]
        exact (List.nodup_append.1 hs.search.apart).1
      · rw [List.append_nil, List.mem_reverse]
        exact hgray
      · rw [List.append_nil]
        rfl
    · exact hs.getOrCreate hready hhost hx hgray hdone hown (hcreate own)
  apply hsearched.mono
  intro r t ht
  cases r with
  | error error => exact ht
  | ok inst =>
    simp only [Act.wp_get]
    split
    · obtain ⟨new, ht⟩ := ht
      simp only [Act.wp_liftM, hproxy]
      apply (ht.visit.aside (hquiet.proxy x x.scope inst)).mono
      exact fun _ u hu => ⟨new, hu, ht.found, ht.asked⟩
    · exact ht

/-- A reference goes on with the search at its definition. Creations nest no deeper than there are
definitions. -/
theorem Visit.reference (h : Visit n home s₀ gray done [] s) (hquiet : n.Quiet)
    (hready : n.Ready home s₀) (hdepth : n.units.length ≤ depth + gray.length)
    (hx : x ∈ n.units) (hchain : ((gray.map (·.unit)).reverse ++ [x]).IsChain n.Edge)
    (e : Episode) :
    Act.wp False (n.container.reference (n.hostTo deeper depth) x e)
      (Searched n home s₀ gray done [x]) s := by
  have hthread : (n.hostTo deeper depth).thread = n.host.thread := rfl
  have hproxy : (n.hostTo deeper depth).proxy = n.host.proxy := rfl
  induction depth generalizing gray done x s e with
  | zero =>
    apply h.reference_of_created hquiet hready hthread hproxy hx hchain e
    intro own serial t ht
    have hroom := ht.search.room
    rw [List.length_map, List.length_cons] at hroom
    omega
  | succ depth ih =>
    apply h.reference_of_created hquiet hready hthread hproxy hx hchain e
    intro own serial t ht
    have hnext : ∀ y ∈ n.successors x, ∀ done u,
        Visit n home s₀ (⟨x, serial, own⟩ :: gray) done [] u →
        Act.wp False (do let _ ← n.container.reference (n.hostTo deeper depth) y own)
          (Searched n home s₀ (⟨x, serial, own⟩ :: gray) done [y]) u := by
      intro y hy done u hu
      rw [Act.wp_bind]
      apply (ih hu (by rw [List.length_cons]; omega) (n.closed x hx y hy) _ own rfl rfl).mono
      · intro r v hv
        cases r <;> exact hv
      · rw [List.map_cons, List.reverse_cons]
        exact Graph.isChain_concat hchain hy
    change Act.wp False ((n.successors x).forM _ >>= fun _ => ExceptT.lift (n.make x own)) _ t
    rw [Act.wp_bind]
    apply (forM_searched hnext ht).mono
    intro r u hu
    cases r with
    | error error => exact hu
    | ok _ =>
      obtain ⟨new, hu⟩ := hu
      simp only [Act.wp_lift]
      apply (hu.visit.aside (hquiet.make x own)).mono
      exact fun _ v hv => ⟨new, hv, hu.found, hu.asked⟩

end Search

end ContextualLifecycle
