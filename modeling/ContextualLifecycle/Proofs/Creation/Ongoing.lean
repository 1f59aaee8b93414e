import ContextualLifecycle.Proofs.Creation.Stacks

namespace ContextualLifecycle

variable {σ : Type}

/-- A request in progress, with the store at its beginning. -/
structure Ongoing where
  request : Request
  before : Store Unit

/-- A look around, or a request, with the requests in progress around it. -/
inductive Located where
  | here (within : List Ongoing)
  | request (within : List Ongoing) (request : Request)

def located : Interface where
  Call := Located
  Answer
    | .here _ => Unit
    | .request _ request => request.call.Answer
  perform host
    | .here _ => pure ()
    | .request _ request => library.perform host request

def Program.lookAround (within : List Ongoing) (p : Program located σ) : Program located σ :=
  .call (.here within) (fun _ => .done) fun _ => p

/-- The program, with a look around before every step, and with what is in progress. A callback runs
within the request that it belongs to. -/
def Program.locate : List Ongoing → Program library σ → Program located σ
  | within, .done => lookAround within .done
  | within, .fail error => lookAround within (.fail error)
  | within, .look next => lookAround within (.look fun s => (next s).locate within)
  | within, .keep own next => lookAround within (.keep own (next.locate within))
  | within, .call request meanwhile next => lookAround within (.look fun s =>
      .call (.request within request)
        (fun cb => (meanwhile cb).locate (⟨request, s.bare⟩ :: within))
        fun answer => (next answer).locate within)

/-- The creation on a thread that a request is for, if it is for an instance of a context that
stores what it creates. -/
def Ongoing.creation? (thread : Thread) (o : Ongoing) : Option (ScopeContext × ContextualId) :=
  match o.request.call with
  | .getOrCreate c unit _ =>
    if o.request.thread = thread ∧ (o.before.context c).kind ≠ .dependent then some (c, unit.id)
    else none
  | _ => none

def creations (within : List Ongoing) : Stacks :=
  fun thread => within.filterMap fun o => o.creation? thread

/-- A request for an instance of a context that stores what it creates did not find the instance,
and its creation was not in progress. -/
def Ongoing.Entered (o : Ongoing) : Prop :=
  ∀ c unit e, o.request.call = .getOrCreate c unit e → (o.before.context c).kind ≠ .dependent →
    (o.before.context c).active = true ∧ c.live o.before unit.id = none ∧
      (c, unit.id) ∉ o.before.stack o.request.thread

/-- The stack of each thread lists the creations in progress on it, the innermost first and none
twice, and all of them were entered. -/
structure Standing (within : List Ongoing) (s : Store Unit) : Prop where
  stack : ∀ thread, s.stack thread = creations within thread
  nodup : ∀ thread, (s.stack thread).Nodup
  entered : ∀ o ∈ within, o.Entered

/-- What was seen is in line with what is in progress around it. -/
structure Sighting.Disciplined (sighting : Sighting located) : Prop where
  here : ∀ within before answer after,
    sighting = .call (.here within) before answer after → Standing within before
  request : ∀ within request before answer after,
    sighting = .call (.request within request) before answer after →
    Standing within before ∧ ∀ thread, after.stack thread = before.stack thread
  creation : ∀ within thread (c : ScopeContext) unit e before answer after,
    sighting = .call (.request within ⟨thread, .getOrCreate c unit e⟩) before answer after →
    (before.context c).active = true → (before.context c).kind ≠ .dependent →
    c.live before unit.id = none → c.Admission thread unit e before answer after

theorem Sighting.disciplined_moment (s : Store Unit) :
    (Sighting.moment s : Sighting located).Disciplined where
  here _ _ _ _ heq := by cases heq
  request _ _ _ _ _ heq := by cases heq
  creation _ _ _ _ _ _ _ _ heq := by cases heq

/-- No creation is in progress twice on a thread, and all were entered. -/
structure Ongoing.Nested (within : List Ongoing) : Prop where
  nodup : ∀ thread, (creations within thread).Nodup
  entered : ∀ o ∈ within, o.Entered

section Requests

variable {within : List Ongoing} {request : Request}

theorem Ongoing.Nested.nil : Ongoing.Nested [] :=
  ⟨fun _ => .nil, fun _ ho => by cases ho⟩

theorem creations_other {before : Store Unit}
    (h : ∀ c unit e, request.call = .getOrCreate c unit e →
      (before.context c).kind = .dependent) :
    creations (⟨request, before⟩ :: within) = creations within := by
  funext thread
  refine List.filterMap_cons_none ?_
  rw [Ongoing.creation?]
  split
  · rename_i c unit e hcall
    exact if_neg fun hstored => hstored.2 (h c unit e hcall)
  · rfl

theorem Ongoing.Nested.other (hwithin : Ongoing.Nested within) {before : Store Unit}
    (h : ∀ c unit e, request.call = .getOrCreate c unit e →
      (before.context c).kind = .dependent) : Ongoing.Nested (⟨request, before⟩ :: within) where
  nodup := by
    rw [creations_other h]
    exact hwithin.nodup
  entered := List.forall_mem_cons.2
    ⟨fun c unit e hcall hstored => absurd (h c unit e hcall) hstored, hwithin.entered⟩

variable {thread : Thread} {c : ScopeContext} {unit : Contextual} {e : Episode}
  {before : Store Unit}

theorem creations_enter (hstored : (before.context c).kind ≠ .dependent) :
    creations (⟨⟨thread, .getOrCreate c unit e⟩, before⟩ :: within) =
      (creations within).enter thread c unit.id := by
  funext x
  rw [Stacks.enter]
  split
  · rename_i hx
    exact List.filterMap_cons_some (if_pos ⟨hx.symm, hstored⟩)
  · rename_i hx
    exact List.filterMap_cons_none (if_neg fun h => hx h.1.symm)

theorem Ongoing.Nested.enter (hwithin : Ongoing.Nested within)
    (hstack : before.stack thread = creations within thread)
    (hactive : (before.context c).active = true) (hstored : (before.context c).kind ≠ .dependent)
    (habsent : c.live before unit.id = none) (hin : (c, unit.id) ∉ before.stack thread) :
    Ongoing.Nested (⟨⟨thread, .getOrCreate c unit e⟩, before⟩ :: within) where
  nodup x := by
    rw [creations_enter hstored, Stacks.enter]
    split
    · rename_i hx
      rw [hx, ← hstack]
      exact List.nodup_cons.2 ⟨hin, hstack ▸ hwithin.nodup thread⟩
    · exact hwithin.nodup x
  entered := by
    refine List.forall_mem_cons.2 ⟨fun c' unit' e' hcall _ => ?_, hwithin.entered⟩
    cases hcall
    exact ⟨hactive, habsent, hin⟩

end Requests

def Watched.Disciplined (surroundings : Watched located σ) : Prop :=
  ∀ sighting ∈ surroundings.seen, sighting.Disciplined

section Runs

variable {within : List Ongoing} {events : List Event} {s : Store (Watched located σ)}

theorem Store.Stacked.saw {frames : Stacks} (hs : s.Stacked Watched.Disciplined frames events)
    {sighting : Sighting located} (hsighting : sighting.Disciplined) :
    (s.saw sighting).Stacked Watched.Disciplined frames events :=
  { hs with among := List.forall_mem_cons.2 ⟨hsighting, hs.among⟩ }

theorem Ongoing.Nested.standing (hwithin : Ongoing.Nested within)
    (hs : s.Stacked Watched.Disciplined (creations within) events) : Standing within s.bare where
  stack := hs.stack
  nodup thread := by
    have hstack : s.bare.stack thread = creations within thread := hs.stack thread
    rw [hstack]
    exact hwithin.nodup thread
  entered := hwithin.entered

/-- A request is in line with what is in progress, if its callbacks are as long as it is itself in
progress around them. -/
theorem Ongoing.Nested.request_disciplined (hwithin : Ongoing.Nested within)
    {host : Host (Watched located σ)} (request : Request) (hthread : host.thread = request.thread)
    (hs : s.Stacked Watched.Disciplined (creations within) events)
    (hhost : Ongoing.Nested (⟨request, s.bare⟩ :: within) → ∀ events, host.Keeps True
      (Store.Stacked Watched.Disciplined (creations (⟨request, s.bare⟩ :: within)) events)) :
    Act.wp True (request.call.perform host) (fun answer t =>
      t.Stacked Watched.Disciplined (creations within) events ∧
        (Sighting.call (.request within request) s.bare answer t.bare : Sighting
          located).Disciplined) s := by
  have hstanding := hwithin.standing hs
  have hreturned : ∀ t : Store (Watched located σ),
      t.Stacked Watched.Disciplined (creations within) events →
      ∀ thread, t.bare.stack thread = s.bare.stack thread :=
    fun t ht thread => (ht.stack thread).trans (hs.stack thread).symm
  have hother : (∀ c unit e, request.call = .getOrCreate c unit e →
      (s.bare.context c).kind = .dependent) →
      host.Keeps True (Store.Stacked Watched.Disciplined (creations within) events) := by
    intro h
    have hkeeps := hhost (hwithin.other h) events
    rwa [creations_other h] at hkeeps
  obtain ⟨thread, call⟩ := request
  obtain rfl : host.thread = thread := hthread
  by_cases hcall : ∃ c unit e, call = .getOrCreate c unit e
  · obtain ⟨c, unit, e, rfl⟩ := hcall
    have hnodup : (s.stack host.thread).Nodup := hstanding.nodup host.thread
    apply (ScopeContext.getOrCreate_stacked hs hnodup ?_ ?_).mono
    · rintro answer t ⟨ht, hadmission⟩
      refine ⟨ht, ?_, ?_, ?_⟩
      · exact fun _ _ _ _ heq => by cases heq
      · intro _ _ _ _ _ heq
        cases heq
        exact ⟨hstanding, hreturned t ht⟩
      · intro _ _ _ _ _ _ _ _ heq hactive hstored habsent
        cases heq
        have h := hadmission hactive hstored habsent
        exact ⟨h.rejected_iff, h.path, h.untouched, h.called⟩
    · intro hkind
      refine hother fun _ _ _ heq => ?_
      cases heq
      exact hkind
    · intro hactive hstored habsent hin
      have hkeeps := hhost (hwithin.enter (hs.stack host.thread) hactive hstored habsent hin)
        (s.journal.toList ++ [.creating unit e])
      rwa [creations_enter hstored] at hkeeps
  · have hnone : ∀ c unit e, call ≠ .getOrCreate c unit e :=
      fun c unit e heq => hcall ⟨c, unit, e, heq⟩
    have hkeeps := hother fun c unit e heq => absurd heq (hnone c unit e)
    apply (Store.Stacked.perform hkeeps call hnone s hs).mono
    intro answer t ht
    refine ⟨ht, ?_, ?_, ?_⟩
    · exact fun _ _ _ _ heq => by cases heq
    · intro _ _ _ _ _ heq
      cases heq
      exact ⟨hstanding, hreturned t ht⟩
    · intro _ _ c unit e _ _ _ heq
      cases heq
      exact absurd rfl (hnone c unit e)

theorem Ongoing.Nested.lookAround_keeps (hwithin : Ongoing.Nested within) (supply : Supply σ)
    {p : Program located σ}
    (hp : Act.Keeps True (Store.Stacked Watched.Disciplined (creations within) events)
      (p.run supply)) :
    Act.Keeps True (Store.Stacked Watched.Disciplined (creations within) events)
      ((Program.lookAround within p).run supply) := by
  intro s hs
  have hmoment := hs.saw (Sighting.disciplined_moment s.bare)
  simp only [Program.lookAround, Program.run, Act.wp_bind, Act.wp_modify, Act.wp_get,
    Act.wp_attempt]
  apply hp
  refine hmoment.saw ⟨?_, ?_, ?_⟩
  · intro _ _ _ _ heq
    cases heq
    exact hwithin.standing hmoment
  · exact fun _ _ _ _ _ heq => by cases heq
  · exact fun _ _ _ _ _ _ _ _ heq => by cases heq

/-- A program is in line with what is in progress around it, and so is all that runs meanwhile. -/
theorem Program.locate_keeps (supply : Supply σ) (p : Program library σ) :
    ∀ within, Ongoing.Nested within → ∀ events,
      Act.Keeps True (Store.Stacked Watched.Disciplined (creations within) events)
        ((p.locate within).run supply) := by
  have hmoment : ∀ {within events} {s : Store (Watched located σ)},
      s.Stacked Watched.Disciplined (creations within) events →
      s.sawMoment.Stacked Watched.Disciplined (creations within) events :=
    fun hs => hs.saw (Sighting.disciplined_moment _)
  induction p with
  | done | fail =>
    intro within hwithin events
    exact hwithin.lookAround_keeps supply fun s hs => hmoment hs
  | look next ih =>
    intro within hwithin events
    refine hwithin.lookAround_keeps supply fun s hs => ?_
    simp only [Program.run, Act.wp_bind, Act.wp_modify, Act.wp_get]
    exact ih _ within hwithin events _ (hmoment hs)
  | keep own next ih =>
    intro within hwithin events
    refine hwithin.lookAround_keeps supply fun s hs => ?_
    simp only [Program.run, Act.wp_bind, Act.wp_modify]
    exact ih within hwithin events _ { hmoment hs with }
  | call request meanwhile next ihm ihn =>
    intro within hwithin events
    refine hwithin.lookAround_keeps supply fun s hs => ?_
    simp only [Program.run, Act.wp_bind, Act.wp_modify, Act.wp_get, Act.wp_attempt]
    have hs' := hmoment (hmoment hs)
    refine (hwithin.request_disciplined request rfl hs' ?_).mono ?_
    · intro hinner events
      exact (supply.watched.host_keeps fun cb => ihm cb _ hinner events).on request.thread
    · rintro answer t ⟨ht, hseen⟩
      exact ihn answer within hwithin events _ (ht.saw hseen)

end Runs

/-- From where nothing is being created, a program may request whatever it likes, on any thread and
within any callbacks. At each point the stack of a thread lists just the creations that are in
progress there, and none twice. Each request leaves the stacks as it found them. One for an instance
that a context does not have is rejected just if its creation is in progress on the thread. -/
theorem creation_stacks (supply : Supply σ) (p : Program library σ) {s : Store σ}
    (hs : ∀ thread, s.stack thread = []) {r : Except LifecycleError Unit}
    {t : Store (Watched located σ)}
    (hrun : ((p.locate []).run supply).run.run s.watched = some (r, t)) :
    (∀ sighting ∈ t.seen, sighting.Disciplined) ∧ ∀ thread, t.stack thread = [] := by
  have hstart : (s.watched : Store (Watched located σ)).Stacked Watched.Disciplined (creations [])
      [] :=
    ⟨hs, List.nil_prefix, fun _ hin => by cases hin⟩
  have hend := (Act.wp_of_run hrun).1 (p.locate_keeps supply [] .nil [] _ hstart)
  exact ⟨hend.among, hend.stack⟩

/-- The way back to the creation for which a request was rejected. -/
def Sighting.circle? : Sighting located → Option (List String)
  | .call (.request _ ⟨_, .getOrCreate ..⟩) _ (.error (.circular path)) _ => some path
  | _ => none

/-- The hypotheses hold where a creation asks for another one, which asks for the first and goes on
without it, before the context is torn down. -/
theorem creation_stacks_circular :
    let thread : Thread := ⟨"main"⟩
    let a : Contextual := { object := 1, id := ⟨"a"⟩, variety := .plain }
    let b : Contextual := { object := 2, id := ⟨"b"⟩, variety := .plain }
    let made := ScopeContext.newActive .request ({ surroundings := () } : Store Unit)
    let c := made.1
    let s := made.2
    let supply : Supply Unit := Supply.numbered thread
    let quiet : Callback → Program library Unit := fun _ => .done
    let asks : Callback → Program library Unit
      | .create .. => .call (⟨thread, .getOrCreate c a ⟨1⟩⟩ : Request) quiet fun _ => .done
      | _ => .done
    let tears : Callback → Program library Unit
      | .create .. =>
        .call (⟨thread, .getOrCreate c b ⟨1⟩⟩ : Request) asks fun _ =>
        .call (⟨thread, .destroyAll c⟩ : Request) quiet fun _ => .done
      | _ => .done
    let p : Program library Unit :=
      .call (⟨thread, .getOrCreate c a ⟨1⟩⟩ : Request) tears fun _ => .done
    (∀ thread, s.stack thread = []) ∧ ∃ r t,
      ((p.locate []).run supply).run.run s.watched = some (r, t) ∧
      t.seen.filterMap Sighting.circle? = [["a", "b", "a"]] ∧
      (∀ sighting ∈ t.seen, sighting.Disciplined) ∧ ∀ thread, t.stack thread = [] := by
  intro thread a b made c s supply quiet asks tears p
  have hs : ∀ thread, s.stack thread = [] := fun _ => rfl
  have hseen : (((p.locate []).run supply).run.run s.watched).map
      (fun o => o.2.seen.filterMap Sighting.circle?) = some [["a", "b", "a"]] := by
    decide +kernel
  obtain ⟨⟨r, t⟩, hrun, ht⟩ := Option.map_eq_some_iff.1 hseen
  exact ⟨hs, r, t, hrun, ht, creation_stacks supply p hs hrun⟩

end ContextualLifecycle
