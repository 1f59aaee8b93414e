import ContextualLifecycle.Proofs.Reference.Ending
import ContextualLifecycle.Proofs.Reference.Ownership

namespace ContextualLifecycle

variable {σ : Type}

/-- The context for a stored definition is found active, and it holds no instance of it. -/
structure Setting.Vacant (w : Setting σ) (plan : Plan σ) (unit : Contextual) (s : Store σ)
    (c : ScopeContext) (t : Store (Growing σ)) : Prop where
  stored : unit.scope ≠ .dependent
  found : (w.container.activeContext (plan.host w) unit.scope).run.run s.growing = some (.ok c, t)
  kind : (t.context c).kind ≠ .dependent
  active : (t.context c).active = true
  absent : c.live t unit.id = none

theorem Setting.foreign_of_stored (w : Setting σ) {object : Nat}
    (hscope : (w.catalogue.unit object).scope ≠ .dependent) :
    w.Foreign ((some (w.catalogue.unit object)).bind Contextual.asBean?) := by
  intro other hother
  have hobject : (w.catalogue.unit other).isSame (w.catalogue.unit object) = false := by
    rw [Contextual.isSame, w.catalogue.object, w.catalogue.object, beq_eq_false_iff_ne]
    intro heq
    rw [heq] at hother
    exact hscope hother
  rw [Option.bind_some, Contextual.asBean?]
  split
  · exact hobject
  · rfl

/-- The root of a creation tree is stored with an episode that owns what the creations inside it
left. -/
structure Rooted (root : Contextual) (x : Episode) (c : ScopeContext) (inst : Instance)
    (inside : List Creation) (t : Store (Growing σ)) : Prop where
  tree : t.surroundings.levels = [[.node root (some inst) inside]]
  whole : Bag.Whole ⟨root, inst, x⟩ c (Creation.leftBy inside) t.journal.size t
  apart : Apart (⟨root, inst⟩ :: Creation.leftBy inside)

section Root

variable {w : Setting σ} {plan : Plan σ} {e x : Episode} {c : ScopeContext} {n : Nat}
  {r re : Episode.Record} {s t : Store (Growing σ)} {root : Contextual} {inst : Instance}

theorem Rooted.spared {inside : List Creation} (h : Rooted root x c inst inside s)
    (hst : x.Spared s t) (htree : t.surroundings.levels = s.surroundings.levels) :
    Rooted root x c inst inside t where
  tree := htree.trans h.tree
  whole := (h.whole.spared hst).restarted
  apart := h.apart

theorem Bound.rooted
    (h : Bound w (fun bag => bag.episode = e) [(e, re)] x r root [] [] (.ok inst) t)
    (hr : r.Rests []) (hne : e ≠ x) (hholds : (t.context c).holds root.id n = true) :
    ∃ inside, Rooted root x c inst inside (c.fillCell root.id n (.live ⟨root, inst, x⟩) t) := by
  obtain ⟨inside, ht, hapart, hinst⟩ := h
  obtain ⟨hdependents, hidle, houter, hfactor⟩ := hr
  have howned : (r.plus (Creation.leftBy inside)).dependents = Creation.leftBy inside := by
    rw [Episode.Record.plus, hdependents]
    rfl
  have hrecord : t.episode x = r.plus (Creation.leftBy inside) :=
    (ht.kept _ List.mem_cons_self).2
  have hlive : c.live (c.fillCell root.id n (.live ⟨root, inst, x⟩) t) root.id =
      some ⟨root, inst, x⟩ := by
    rw [ScopeContext.live_fillCell, if_pos ⟨rfl, hholds⟩]
    rfl
  refine ⟨inside, ht.grown, ⟨Nat.le_refl _, hlive, ?_, ?_, Store.destroyedSince_size _ _⟩, ?_⟩
  · intro z id other hother heq
    -- Of the guarded episodes only the caller's may have entries so far.
    have hstored : ∀ (z : ScopeContext) id, z.live t id ≠ some other := by
      intro z id hother
      exact hne ((ht.stored _ List.mem_cons_self z id other hother heq.symm).symm.trans heq)
    by_cases hz : z = c
    · subst hz
      rw [ScopeContext.live_fillCell] at hother
      split at hother
      · rename_i hid
        exact ⟨rfl, hid.1⟩
      · exact absurd hother (hstored z id)
    · rw [ScopeContext.fillCell, ScopeContext.live_update, if_neg hz] at hother
      exact absurd hother (hstored z id)
  · have hrests : (r.plus (Creation.leftBy inside)).Rests (Creation.leftBy inside) :=
      ⟨howned, hidle, houter, hfactor⟩
    rw [← hrecord] at hrests
    exact hrests
  · rw [howned] at hapart hinst
    refine List.nodup_cons.2 ⟨?_, hapart⟩
    intro hmem
    obtain ⟨d, hd, heq⟩ := List.mem_map.1 hmem
    exact hinst inst rfl d hd heq

/-- The creation of a root into an episode that is its own. -/
theorem getOrCreate_root (hw : w.Orderly) (hfresh : w.supply.Fresh) (he : w.Spares e)
    (hx : w.Spares x) (hforeign : w.Foreign r.bean) (hr : r.Rests []) (hne : e ≠ x)
    (hactive : (s.context c).active = true) (hkind : (s.context c).kind ≠ .dependent)
    (habsent : c.live s root.id = none)
    (h : Guarded w (fun bag => bag.episode = e) [(x, r), (e, re)] [[]] s) :
    Act.wp True (c.getOrCreate (plan.host w) root x)
      (fun answer t => ∀ inst, answer = .ok inst → ∃ inside, Rooted root x c inst inside t ∧
        x.number < t.nextEpisode ∧ e.number < t.nextEpisode ∧ t.episode e = re) s := by
  have hspares : ∀ p ∈ [(e, re)], w.Spares p.1 := by
    intro p hp
    rw [List.mem_singleton.1 hp]
    exact he
  have hother : ∀ p ∈ [(e, re)], p.1 ≠ x := by
    intro p hp
    rw [List.mem_singleton.1 hp]
    exact hne
  have hapart : Apart r.dependents := by
    rw [hr.dependents]
    exact List.nodup_nil
  apply ScopeContext.wp_getOrCreate_of_absent hactive hkind habsent
  · exact fun path _ => Act.of_failed
  · exact fun _ _ => trivial
  · intro _ _
    have hfilling := ((h.claimed c root.id).stacked (plan.host w).thread
      ((c, root.id) :: s.stack (plan.host w).thread)).filled c root.id
      (c.claimCell root.id s).1.serial .filling (Guarded.unfilled [(x, r), (e, re)])
    have hplan : ∀ s, Guarded w (fun bag => bag.episode = e) [(x, r), (e, re)] [[]] s →
        Act.wp True (branch root (plan.run w root x))
          (Bound w (fun bag => bag.episode = e) [(e, re)] x r root [] []) s := by
      intro s h
      apply branch_home _ h
      intro s h
      exact plan.run_home hw hfresh hx hspares hother hforeign hapart h
    apply ScopeContext.wp_createInto (create_home hplan hfilling)
    · intro error t _
      exact Act.wp_true_iff.2 fun _ _ _ => ⟨Act.of_failed, fun _ => Act.of_failed⟩
    · rintro inst t ht _ hholds _ ⟨⟩
      obtain ⟨inside, hrooted⟩ := ht.rooted hr hne hholds
      obtain ⟨_, hguarded, _⟩ := ht
      have hxt := (hguarded.kept _ List.mem_cons_self).1
      have het := hguarded.kept (e, re) (List.mem_cons_of_mem _ List.mem_cons_self)
      have hleft := Episode.Spared.leaveCreation x (plan.host w).thread
        (c.fillCell root.id (c.claimCell root.id s).1.serial (.live ⟨root, inst, x⟩) t)
      exact ⟨inside, hrooted.spared hleft rfl, hxt, het⟩
    · intro inst t _ _
      exact Act.wp_true_iff.2 fun _ _ _ _ => Act.of_failed

/-- A creation tree that succeeds under a stored root leaves everything of the dependent scope to
the episode of the root and nothing to that of the caller, and comes to its end with the entry of
the root. -/
theorem reference_owns (w : Setting σ) (plan : Plan σ) (object : Nat) (e : Episode)
    (s : Store σ) (c : ScopeContext) (s' : Store (Growing σ))
    (hw : w.Orderly) (hfresh : w.supply.Fresh)
    (hordinary : w.container.Ordinary w.supply.thread s)
    (hvacant : w.Vacant plan (w.catalogue.unit object) s c s')
    (hissued : e.number < s.nextEpisode) (hcaller : w.Spares e)
    (hnew : Episode.Nowhere ⟨s'.nextEpisode⟩ s') (hown : w.Spares ⟨s'.nextEpisode⟩) :
    ∀ ref t, (w.container.reference (plan.host w) (w.catalogue.unit object) e).run.run s.growing =
      some (.ok ref, t) → ∃ inst inside,
        Rooted (w.catalogue.unit object) ⟨s'.nextEpisode⟩ c inst inside t ∧
        t.episode e = s.episode e ∧
        ((Creation.leftBy inside).length < UInt64.size →
          Bag.EndsInOrder ⟨w.catalogue.unit object, inst, ⟨s'.nextEpisode⟩⟩ w.container c
            (Creation.leftBy inside) t) := by
  intro ref t hrun
  let root := w.catalogue.unit object
  let x : Episode := ⟨s'.nextEpisode⟩
  have hstart : Guarded w (fun bag => bag.episode = e) [(e, s.episode e)] [[]] s.growing := by
    refine ⟨?_, ?_, rfl, hordinary⟩
    · intro p hp
      rw [List.mem_singleton.1 hp]
      exact ⟨hissued, rfl⟩
    · intro p hp c id bag _ heq
      rw [List.mem_singleton.1 hp] at heq
      exact heq.symm
  have hspares : ∀ p ∈ [(e, s.episode e)], w.Spares p.1 := by
    intro p hp
    rw [List.mem_singleton.1 hp]
    exact hcaller
  have hfound : Guarded w (fun bag => bag.episode = e) [(e, s.episode e)] [[]] s' :=
    (Act.wp_of_run hvacant.found).1
      ((Guarded.resolveKeeps hw hspares).activeContext root.scope s.growing hstart)
  obtain ⟨hissue, hother⟩ := hfound.issued root
  have hguarded := hissue.cons (Nat.lt_succ_self _) hnew
  let s'' := (w.container.newEpisode (some root) s').2
  have hrecord : s''.episode x = _ := Episode.episode_new (some root) none _ s'
  have hforeign : w.Foreign (s''.episode x).bean := by
    rw [hrecord]
    exact w.foreign_of_stored hvacant.stored
  have hrests : (s''.episode x).Rests [] := by
    rw [hrecord]
    exact ⟨rfl, rfl, rfl, Episode.one_le_factor _⟩
  have hactive : (s''.context c).active = true := hvacant.active
  have hkind : (s''.context c).kind ≠ .dependent := hvacant.kind
  have habsent : c.live s'' root.id = none := hvacant.absent
  have hroot : Act.wp True (c.getOrCreate (plan.host w) root x)
      (fun answer t => ∀ inst, answer = .ok inst → ∃ inside, Rooted root x c inst inside t ∧
        x.number < t.nextEpisode ∧ e.number < t.nextEpisode ∧ t.episode e = s.episode e) s'' :=
    getOrCreate_root hw hfresh hcaller hown hforeign hrests (hother _ List.mem_cons_self)
      hactive hkind habsent hguarded
  have hreference : Act.wp True (w.container.reference (plan.host w) root e)
      (fun answer t => ∀ ref, answer = .ok ref → ∃ inst inside, Rooted root x c inst inside t ∧
        t.episode e = s.episode e) s.growing := by
    simp only [Container.reference, root, hvacant.stored, ↓reduceIte, Act.wp_bind,
      Act.wp_modifyGet]
    rw [Act.wp_of_run hvacant.found]
    apply hroot.mono
    intro answer t ht
    cases answer with
    | error error => exact Act.of_failed
    | ok inst =>
      obtain ⟨inside, hrooted, hxt, het, hcaller'⟩ := ht inst rfl
      simp only [Act.wp_get]
      split
      · simp only [Act.wp_liftM, Plan.host, Setting.host, Supply.host, Run.wp_bind, Run.wp_run,
          Act.wp_beside]
        apply ((hown _ t.outside hxt).and (hcaller _ t.outside het)).mono
        rintro _ u ⟨hx, he⟩ ref _
        have hspared : x.Spared t (u.inside t.surroundings.levels) :=
          ⟨hx.record, hx.destroyed, hx.entries⟩
        have hcaller'' : (u.inside t.surroundings.levels).episode e = s.episode e :=
          he.record.trans hcaller'
        exact ⟨inst, inside, hrooted.spared hspared rfl, hcaller''⟩
      · rintro ref _
        exact ⟨inst, inside, hrooted, hcaller'⟩
  obtain ⟨inst, inside, hrooted, hcaller'⟩ := Act.wp_true_iff.1 hreference _ t hrun ref rfl
  exact ⟨inst, inside, hrooted, hcaller', fun hlength =>
    hrooted.whole.endsInOrder hlength w.container⟩

/-- The hypotheses hold of a request bean whose creation asks for a dependent bean with one inside,
and for another one that fails after the creation of one inside it. -/
theorem reference_owns_request :
    let w : Setting Unit := {
      container := ⟨1⟩
      catalogue := ⟨fun n => {
        object := n
        id := ⟨n.repr⟩
        variety := .bean (if n = 0 then .request else .dependent) none }, fun _ => rfl⟩
      supply := Supply.numbered ⟨"main"⟩
      during := fun _ => pure () }
    let plan : Plan Unit := .ask 1 (.ask 2 .finish fun _ => .finish) fun _ =>
      .ask 3 (.ask 4 .finish fun _ => .fail .serialization) fun _ => .finish
    let made :=
      ScopeContext.newActive .request ({ surroundings := (), nextEpisode := 2 } : Store Unit)
    let s := (w.container.fillSlot w.supply.thread .request made.1 made.2).2
    w.Orderly ∧ w.supply.Fresh ∧ w.container.Ordinary w.supply.thread s ∧
      w.Vacant plan (w.catalogue.unit 0) s made.1 s.growing ∧ 1 < s.nextEpisode ∧
      w.Spares ⟨1⟩ ∧ Episode.Nowhere ⟨2⟩ s.growing ∧ w.Spares ⟨2⟩ ∧
      ∃ ref t, (w.container.reference (plan.host w) (w.catalogue.unit 0) ⟨1⟩).run.run s.growing =
          some (.ok ref, t) ∧
        (t.episode ⟨2⟩).dependents.map (·.contextual.object) = [2, 1, 4] ∧
        ∃ inst inside, Rooted (w.catalogue.unit 0) ⟨2⟩ made.1 inst inside t ∧
          t.episode ⟨1⟩ = s.episode ⟨1⟩ ∧
          ((Creation.leftBy inside).length < UInt64.size →
            Bag.EndsInOrder ⟨w.catalogue.unit 0, inst, ⟨2⟩⟩ w.container made.1
              (Creation.leftBy inside) t) := by
  intro w plan made s
  have horderly : w.Orderly := fun _ _ hs => ⟨Nat.le_refl _, hs⟩
  have hfresh : w.supply.Fresh := Supply.numbered_fresh _
  have hordinary : w.container.Ordinary w.supply.thread s := by
    intro c hc
    have hnone : w.container.slot w.supply.thread .dependent s = none := rfl
    rw [hnone] at hc
    cases hc
  have hvacant : w.Vacant plan (w.catalogue.unit 0) s made.1 s.growing := by
    have hstored : (w.catalogue.unit 0).scope ≠ .dependent := by decide
    have hkind : (s.growing.context made.1).kind ≠ .dependent := by decide
    exact ⟨hstored, rfl, hkind, rfl, rfl⟩
  have hspares : ∀ x, w.Spares x := fun x _ s _ => Episode.Spared.refl x s
  have hnowhere : Episode.Nowhere ⟨2⟩ s.growing := by
    intro c id bag hbag
    let new := ScopeContext.new .request ({ surroundings := (), nextEpisode := 2 } : Store Unit)
    have hlive : c.live s.growing id = c.live new.2 id := ScopeContext.live_update_of_entries
      (f := fun r => { r with active := true }) (fun _ => rfl) new.1 c id new.2
    rw [hlive, ScopeContext.live_new] at hbag
    split at hbag <;> cases hbag
  have hrun : ∃ ref t, (w.container.reference (plan.host w) (w.catalogue.unit 0) ⟨1⟩).run.run
      s.growing = some (.ok ref, t) ∧
      (t.episode ⟨2⟩).dependents.map (·.contextual.object) = [2, 1, 4] := ⟨_, _, rfl, rfl⟩
  obtain ⟨ref, t, hrun, hdependents⟩ := hrun
  have hissued : 1 < s.nextEpisode := by decide
  have howns := reference_owns w plan 0 ⟨1⟩ s made.1 s.growing horderly hfresh hordinary hvacant
    hissued (hspares ⟨1⟩) hnowhere (hspares ⟨2⟩) ref t hrun
  exact ⟨horderly, hfresh, hordinary, hvacant, hissued, hspares ⟨1⟩, hnowhere, hspares ⟨2⟩, ref, t,
    hrun, hdependents, howns⟩

end Root

end ContextualLifecycle
