import ContextualLifecycle.Proofs.Reference.Search
import ContextualLifecycle.Proofs.Surroundings

namespace ContextualLifecycle

variable {σ : Type}

namespace Network

def Stored (home : ScopeKind → ScopeContext) (unit : Contextual) (s : Store σ) : Prop :=
  (s.context (home unit.scope)).contains unit = true

/-- What can be reached was created, each definition once, and it alone is stored. -/
structure Completed (n : Network σ) (home : ScopeKind → ScopeContext) (u : Contextual)
    (s t : Store σ) : Prop where
  stored : ∀ v ∈ n.units, Stored home v t ↔ n.Reach u v
  created : ∀ v, v ∈ t.since Event.made? s.journal.size ↔ n.Reach u v
  once : (t.since Event.made? s.journal.size).Nodup
  begun : (t.since Event.begun? s.journal.size).Perm (t.since Event.made? s.journal.size)

/-- A cycle was met on a walk from a definition. The creations on the walk were begun and not
completed, and what was completed is stored. -/
structure Interrupted (n : Network σ) (home : ScopeKind → ScopeContext) (u : Contextual)
    (path walk : List Contextual) (s t : Store σ) : Prop where
  cycle : n.IsCycle path
  met : ∀ v ∈ path, v ∈ walk
  start : walk.head? = some u
  edges : walk.IsChain n.Edge
  begun : (t.since Event.begun? s.journal.size).Perm (walk ++ t.since Event.made? s.journal.size)
  once : (walk ++ t.since Event.made? s.journal.size).Nodup
  unstored : ∀ v ∈ walk, ¬ Stored home v t
  stored : ∀ v ∈ n.units, Stored home v t ↔ v ∈ t.since Event.made? s.journal.size

end Network

section Start

variable {n : Network σ} {home : ScopeKind → ScopeContext} {s₀ s : Store σ}
  {done new : List Contextual} {u : Contextual}

theorem Visit.stored_iff (h : Visit n home s₀ [] done new s) (hu : u ∈ n.units) :
    Network.Stored home u s ↔ u ∈ done := by
  have hcontains : Network.Stored home u s ↔ ∃ serial bag,
      Network.cell home u s = some ⟨serial, .live bag⟩ := by
    rw [Network.Stored, ScopeContext.Record.contains, ScopeContext.Record.get?,
      ScopeContext.Record.bag?, ← Network.cell]
    rcases Network.cell home u s with _ | ⟨serial, _ | _ | bag⟩ <;> simp [Cell.bag?]
  rw [hcontains]
  refine ⟨?_, h.stored u⟩
  rintro ⟨serial, bag, hcell⟩
  by_contra hdone
  have hempty := h.absent u hu (by simp) hdone _ hcell
  cases hempty

theorem Reached.completed_of_start (h : Reached n home s₀ [] [] [u] new s) :
    ¬ n.Cyclic u ∧ n.Completed home u s₀ s := by
  have hvisit : Visit n home s₀ [] new [] s := List.append_nil new ▸ h.visit
  have hnodup : new.Nodup := hvisit.search.apart
  have hfound : u ∈ new := List.append_nil new ▸ h.found u List.mem_cons_self
  have hreach : ∀ v, v ∈ new ↔ n.Reach u v := by
    intro v
    refine ⟨fun hv => ?_, fun hv => hvisit.search.settled.reach hfound hv⟩
    obtain ⟨x, hx, hreach⟩ := h.asked v hv
    exact List.mem_singleton.1 hx ▸ hreach
  refine ⟨hvisit.search.settled.not_cyclic hnodup hfound, ?_, ?_, ?_, ?_⟩
  · exact fun v hv => (hvisit.stored_iff hv).trans (hreach v)
  · intro v
    rw [hvisit.made, List.mem_reverse]
    exact hreach v
  · rw [hvisit.made]
    exact List.nodup_reverse.2 hnodup
  · rw [hvisit.made]
    exact hvisit.begun.trans (List.reverse_perm new).symm

theorem Turned.interrupted_of_start {walk : List Contextual} {last : Contextual}
    {error : LifecycleError} (h : Turned n home s₀ [] [] [u] new walk last error s) :
    n.Cyclic u ∧ error = .circular ((Graph.ring walk last).map (·.id.text)) ∧
      n.Interrupted home u (Graph.ring walk last) walk s₀ s := by
  have hvisit : Visit n home s₀ [] new walk s := List.append_nil new ▸ h.visit
  have htrapped : n.Trapped walk last := h.trapped
  have hstart : walk.head? = some u := by
    obtain ⟨x, hx, hfirst⟩ := h.first
    rw [List.mem_singleton.1 hx, List.head?_append_of_ne_nil] at hfirst
    · exact hfirst
    · rintro rfl
      cases htrapped.back
  have hbegun : (walk ++ [] ++ new).Perm (walk ++ new.reverse) := by
    rw [List.append_nil]
    exact (List.reverse_perm new).symm.append_left walk
  have hapart : (walk ++ new.reverse).Nodup := hbegun.nodup_iff.1 hvisit.search.apart
  have hcyclic : n.Cyclic u := by
    cases walk with
    | nil => cases hstart
    | cons x rest =>
      cases hstart
      exact htrapped.cyclic
  refine ⟨hcyclic, h.error_eq, htrapped.isCycle, ?_, hstart,
    (List.isChain_append.1 htrapped.edges).1, ?_, ?_, ?_, ?_⟩
  · exact fun v => Graph.mem_ring htrapped.back
  · rw [hvisit.made]
    exact hvisit.begun.trans hbegun
  · rw [hvisit.made]
    exact hapart
  · intro v hv
    rw [hvisit.stored_iff (hvisit.search.known v (by simp [hv]))]
    intro hdone
    exact List.disjoint_of_nodup_append hapart hv (List.mem_reverse.2 hdone)
  · intro v hv
    rw [hvisit.stored_iff hv, hvisit.made, List.mem_reverse]

end Start

/-- A reference to a definition of a graph returns. It succeeds if and only if no cycle can be
reached, and then exactly what can be reached is stored and was created once. Otherwise the error
tells a cycle of the graph; nothing on the walk that led to it is stored, and exactly what was
completed is. Creations that are nested deeper than there are definitions do not matter. -/
theorem reference_circular_iff (n : Network σ) (deeper : Contextual → Episode → Act σ Instance)
    (depth : Nat) (home : ScopeKind → ScopeContext) (s : Store σ) (u : Contextual) (e : Episode)
    (hquiet : n.Quiet) (hready : n.Ready home s) (hdepth : n.units.length ≤ depth)
    (hu : u ∈ n.units) :
    ∃ r t, (n.container.reference (n.hostTo deeper depth) u e).run.run s = some (r, t) ∧
      ((∃ inst, r = .ok inst) ↔ ¬ n.Cyclic u) ∧
      (¬ n.Cyclic u → n.Completed home u s t) ∧
      (n.Cyclic u → ∃ path walk, r = .error (.circular (path.map (·.id.text))) ∧
        n.Interrupted home u path walk s t) := by
  have hchain : (([] : List Pending).map (·.unit)).reverse ++ [u] |>.IsChain n.Edge := .singleton u
  have hsearched : Act.wp False (n.container.reference (n.hostTo deeper depth) u e)
      (Searched n home s [] [] [u]) s :=
    (Visit.start hready).reference hquiet hready hdepth hu hchain e
  obtain ⟨r, t, hrun, ht⟩ := Act.wp_false_iff.1 hsearched
  refine ⟨r, t, hrun, ?_⟩
  cases r with
  | ok inst =>
    obtain ⟨new, ht⟩ := ht
    obtain ⟨hacyclic, hcompleted⟩ := ht.completed_of_start
    exact ⟨⟨fun _ => hacyclic, fun _ => ⟨inst, rfl⟩⟩, fun _ => hcompleted,
      fun hcyclic => absurd hcyclic hacyclic⟩
  | error error =>
    obtain ⟨new, walk, last, ht⟩ := ht
    obtain ⟨hcyclic, rfl, hinterrupted⟩ := ht.interrupted_of_start
    refine ⟨⟨?_, fun hacyclic => absurd hcyclic hacyclic⟩,
      fun hacyclic => absurd hcyclic hacyclic, fun _ => ⟨_, walk, rfl, hinterrupted⟩⟩
    rintro ⟨inst, hok⟩
    cases hok

/-- The hypotheses hold of four definitions in three scopes, the second of which two others share.
The cycle does not go through the definition that is asked for, nor through the shared one, which
alone is stored in the end. -/
theorem reference_circular_iff_shared :
    let unit : Nat → ScopeKind → Contextual := fun object kind =>
      { object, id := ⟨object.repr⟩, variety := .bean kind none }
    let page := unit 0 .request
    let user := unit 1 .session
    let order := unit 2 .request
    let stock := unit 3 .application
    let n : Network Unit := {
      units := [page, user, order, stock]
      successors := fun u => if u = page then [user, order] else if u = order then [stock]
        else if u = stock then [user, order] else []
      closed := by decide
      distinct := by decide
      shared := by decide
      container := ⟨1⟩
      host := (Supply.numbered ⟨"main"⟩).host fun _ => pure ()
      make := fun _ e => pure ⟨e.number⟩ }
    let home : ScopeKind → ScopeContext := fun kind =>
      if kind = .request then ⟨1⟩ else if kind = .session then ⟨2⟩ else ⟨3⟩
    let request := ScopeContext.newActive .request ({ surroundings := () } : Store Unit)
    let session := ScopeContext.newActive .session request.2
    let application := ScopeContext.newActive .application session.2
    let s := (n.container.fillSlot n.host.thread .request request.1
      (n.container.fillSlot n.host.thread .session session.1
        (n.container.swapApplication (some application.1) application.2).2).2).2
    n.Quiet ∧ n.Ready home s ∧ n.units.length ≤ 4 ∧ page ∈ n.units ∧ n.Cyclic page ∧
      ∃ path walk t,
        (n.container.reference (n.hostTo (fun _ _ => throw .serialization) 4) page ⟨1⟩).run.run s =
          some (.error (.circular (path.map (·.id.text))), t) ∧
        (LifecycleError.circular (path.map (·.id.text))).message =
          "circular creation: 2 -> 3 -> 2" ∧
        t.since Event.made? s.journal.size = [user] ∧
        n.Interrupted home page path walk s t := by
  intro unit page user order stock n home request session application s
  have hquiet : n.Quiet := by
    constructor
    · exact fun _ _ s => ⟨s.surroundings, rfl⟩
    · exact fun _ _ _ s => ⟨s.surroundings, rfl⟩
  have hcell : ∀ u ∈ n.units, Network.cell home u s = none := by decide
  have hready : n.Ready home s := by
    refine ⟨by decide, by decide, by decide, ?_, by decide⟩
    intro u hu k hk
    rw [hcell u hu] at hk
    cases hk
  have hcyclic : n.Cyclic page := by
    have hout : n.Edge order stock := by decide
    have hback : n.Edge stock order := by decide
    exact ⟨order, .single (by decide), .tail (.single hout) hback⟩
  have hlength : n.units.length ≤ 4 := by decide
  have hpage : page ∈ n.units := by decide
  obtain ⟨r, t, hrun, _, _, hcircular⟩ := reference_circular_iff n (fun _ _ => throw .serialization)
    4 home s page ⟨1⟩ hquiet hready hlength hpage
  obtain ⟨path, walk, rfl, hinterrupted⟩ := hcircular hcyclic
  have hseen : ((n.container.reference (n.hostTo (fun _ _ => throw .serialization) 4) page
      ⟨1⟩).run.run s).map (fun o => (o.1.mapError (·.message),
        o.2.since Event.made? s.journal.size)) =
      some (.error "circular creation: 2 -> 3 -> 2", [user]) := by
    decide +kernel
  rw [hrun, Option.map_some] at hseen
  have hmessage := Except.error.inj (congrArg Prod.fst (Option.some.inj hseen))
  have hmade := congrArg Prod.snd (Option.some.inj hseen)
  exact ⟨hquiet, hready, hlength, hpage, hcyclic, path, walk, t, hrun, hmessage, hmade,
    hinterrupted⟩

end ContextualLifecycle
