import ContextualLifecycle.Proofs.Outcome

namespace ContextualLifecycle

/-- A call of the library to its surroundings. -/
inductive Callback where
  | create (unit : Contextual) (episode : Episode)
  | destroy (unit : Contextual) (inst : Instance) (episode : Episode)
  | capture (unit : Contextual) (inst : Instance)
  | restore (unit : Contextual) (state : Json)
  | proxy (unit : Contextual) (scope : ScopeKind) (inst : Instance)
  | notify (listener : Listener) (phase : Phase) (container : Container) (scope : ScopeKind)
      (context : ScopeContext)
  | push (outer : Foreign) (inst : Instance)
  | release (outer : Foreign)

/-- Operations that surroundings may call, with the type of their answers. -/
structure Interface where
  Call : Type
  Answer : Call → Type
  perform {σ : Type} (host : Host σ) : (op : Call) → Act σ (Answer op)

/-- What surroundings do, with data `σ` of their own. -/
inductive Program (api : Interface) (σ : Type) where
  | done
  | fail (error : LifecycleError)
  | look (next : Store σ → Program api σ)
  | keep (own : σ) (next : Program api σ)
  | call (op : api.Call) (meanwhile : Callback → Program api σ)
      (next : Except LifecycleError (api.Answer op) → Program api σ)

/-- Something that was seen of a run. -/
inductive Sighting (api : Interface) where
  | moment (s : Store Unit)
  | call (op : api.Call) (before : Store Unit)
      (answer : Except LifecycleError (api.Answer op)) (after : Store Unit)

/-- The data of surroundings with all that was seen, the latest first. -/
structure Watched (api : Interface) (σ : Type) where
  own : σ
  seen : List (Sighting api) := []

/-- The values that callbacks hand out: instances, and captured states. -/
structure Supply (σ : Type) where
  thread : Thread
  inst : Callback → Store σ → Instance
  state : Contextual → Instance → Store σ → Json

variable {api : Interface} {σ : Type}

namespace Store

/-- The same objects among other surroundings. -/
def among {τ : Type} (s : Store σ) (surroundings : τ) : Store τ where
  episodes := s.episodes
  contexts := s.contexts
  conversations := s.conversations
  containers := s.containers
  scopes := s.scopes
  creating := s.creating
  nextEpisode := s.nextEpisode
  nextContext := s.nextContext
  nextContainer := s.nextContainer
  nextCell := s.nextCell
  clock := s.clock
  journal := s.journal
  surroundings := surroundings

def bare (s : Store σ) : Store Unit := s.among ()

/-- The store at the start of a run. -/
def watched (s : Store σ) : Store (Watched api σ) := s.among { own := s.surroundings }

/-- What the surroundings see of a store in a run. -/
def unwatched (s : Store (Watched api σ)) : Store σ := s.among s.surroundings.own

def seen (s : Store (Watched api σ)) : List (Sighting api) := s.surroundings.seen

def saw (sighting : Sighting api) (s : Store (Watched api σ)) : Store (Watched api σ) :=
  { s with surroundings := { s.surroundings with seen := sighting :: s.surroundings.seen } }

def keep (own : σ) (s : Store (Watched api σ)) : Store (Watched api σ) :=
  { s with surroundings := { s.surroundings with own } }

def sawMoment (s : Store (Watched api σ)) : Store (Watched api σ) := s.saw (.moment s.bare)

def sawCall (op : api.Call) (before : Store (Watched api σ))
    (answer : Except LifecycleError (api.Answer op)) (s : Store (Watched api σ)) :
    Store (Watched api σ) :=
  s.saw (.call op before.bare answer s.bare)

@[simp]
theorem seen_saw (sighting : Sighting api) (s : Store (Watched api σ)) :
    (s.saw sighting).seen = sighting :: s.seen := rfl

end Store

/-- The host whose callbacks are the given steps, with the supplied values. -/
def Supply.host (supply : Supply σ) (during : Callback → Act σ Unit) : Host σ where
  thread := supply.thread
  create unit e := do
    during (.create unit e)
    return supply.inst (.create unit e) (← get)
  destroy unit inst e := during (.destroy unit inst e)
  capture unit inst := do
    during (.capture unit inst)
    return supply.state unit inst (← get)
  restore unit state := do
    during (.restore unit state)
    return supply.inst (.restore unit state) (← get)
  proxy unit scope inst := do
    let _ ← (during (.proxy unit scope inst)).run
    return supply.inst (.proxy unit scope inst) (← get)
  notify listener phase m scope c := do
    let _ ← (during (.notify listener phase m scope c)).run
  push outer inst := do
    let _ ← (during (.push outer inst)).run
  release outer := during (.release outer)

def Supply.watched (supply : Supply σ) : Supply (Watched api σ) where
  thread := supply.thread
  inst cb s := supply.inst cb s.unwatched
  state unit inst s := supply.state unit inst s.unwatched

/-- Runs a program, and notes what is seen of it. -/
def Program.run (supply : Supply σ) : Program api σ → Act (Watched api σ) Unit
  | .done => modify Store.sawMoment
  | .fail error => do
    modify Store.sawMoment
    throw error
  | .look next => do
    modify Store.sawMoment
    (next (← get).unwatched).run supply
  | .keep own next => do
    modify Store.sawMoment
    modify (Store.keep own)
    next.run supply
  | .call op meanwhile next => do
    modify Store.sawMoment
    let before ← get
    let answer ← Act.attempt
      (api.perform (supply.watched.host fun cb => (meanwhile cb).run supply) op)
    modify (Store.sawCall op before answer)
    (next answer).run supply

def Supply.hostOf (supply : Supply σ) (meanwhile : Callback → Program api σ) :
    Host (Watched api σ) :=
  supply.watched.host fun cb => (meanwhile cb).run supply

variable {stuck : Prop}

theorem Supply.wp_create {supply : Supply σ} {during : Callback → Act σ Unit}
    {P : Except LifecycleError Unit → Store σ → Prop}
    {Q : Except LifecycleError Instance → Store σ → Prop} {s : Store σ} {unit : Contextual}
    {e : Episode} (h : Act.wp stuck (during (.create unit e)) P s)
    (hok : ∀ t, P (.ok ()) t → Q (.ok (supply.inst (.create unit e) t)) t)
    (herror : ∀ error t, P (.error error) t → Q (.error error) t) :
    Act.wp stuck ((supply.host during).create unit e) Q s := by
  simp only [Supply.host, Act.wp_bind, Act.wp_get, Act.wp_pure]
  apply h.mono
  intro r t ht
  cases r with
  | ok _ => exact hok t ht
  | error error => exact herror error t ht

/-- Invariants that every call keeps, if the callbacks do that run meanwhile, are kept by programs
of any depth. They come in a family where a call has its callbacks run under another one. -/
theorem Program.run_keeps_each {ι : Type} {Inv : ι → Store (Watched api σ) → Prop}
    (supply : Supply σ) (hmoment : ∀ i s, Inv i s → Inv i s.sawMoment)
    (hkeep : ∀ i own s, Inv i s → Inv i (s.keep own))
    (hcall : ∀ during, (∀ i cb, Act.Keeps stuck (Inv i) (during cb)) → ∀ i op s, Inv i s →
      Act.wp stuck (api.perform (supply.watched.host during) op)
        (fun answer t => Inv i (Store.sawCall op s answer t)) s)
    (p : Program api σ) : ∀ i, Act.Keeps stuck (Inv i) (p.run supply) := by
  induction p with
  | done => exact fun i s hs => hmoment i s hs
  | fail error => exact fun i s hs => hmoment i s hs
  | look next ih =>
    intro i s hs
    simp only [Program.run, Act.wp_bind, Act.wp_modify, Act.wp_get]
    exact ih _ i _ (hmoment i s hs)
  | keep own next ih =>
    intro i s hs
    simp only [Program.run, Act.wp_bind, Act.wp_modify]
    exact ih i _ (hkeep i own _ (hmoment i s hs))
  | call op meanwhile next ihm ihn =>
    intro i s hs
    simp only [Program.run, Act.wp_bind, Act.wp_modify, Act.wp_get, Act.wp_attempt]
    have hs' := hmoment i s hs
    -- A callback may run under any member of the family, not only under that of the call.
    have hduring : ∀ j cb, Act.Keeps stuck (Inv j) ((meanwhile cb).run supply) :=
      fun j cb => ihm cb j
    apply (hcall _ hduring i op _ hs').mono
    intro answer t ht
    exact ihn answer i _ ht

theorem Program.run_keeps {Inv : Store (Watched api σ) → Prop} (supply : Supply σ)
    (hmoment : ∀ s, Inv s → Inv s.sawMoment) (hkeep : ∀ own s, Inv s → Inv (s.keep own))
    (hcall : ∀ during, (∀ cb, Act.Keeps stuck Inv (during cb)) → ∀ op s, Inv s →
      Act.wp stuck (api.perform (supply.watched.host during) op)
        (fun answer t => Inv (Store.sawCall op s answer t)) s)
    (p : Program api σ) : Act.Keeps stuck Inv (p.run supply) :=
  @Program.run_keeps_each _ _ _ Unit (fun _ => Inv) supply (fun _ => hmoment) (fun _ => hkeep)
    (fun during hduring _ => hcall during (hduring ())) p ()

/-- A program makes only the allowed calls, also from within the callbacks of its calls. -/
def Program.Only (allowed : api.Call → Prop) : Program api σ → Prop
  | .done | .fail _ => True
  | .look next => ∀ s, (next s).Only allowed
  | .keep _ next => next.Only allowed
  | .call op meanwhile next =>
    allowed op ∧ (∀ cb, (meanwhile cb).Only allowed) ∧ ∀ answer, (next answer).Only allowed

/-- An invariant of the allowed calls is kept by the programs that make no others. -/
theorem Program.run_keeps_only {allowed : api.Call → Prop} {Inv : Store (Watched api σ) → Prop}
    (supply : Supply σ) (hmoment : ∀ s, Inv s → Inv s.sawMoment)
    (hkeep : ∀ own s, Inv s → Inv (s.keep own))
    (hcall : ∀ during, (∀ cb, Act.Keeps stuck Inv (during cb)) → ∀ op, allowed op → ∀ s, Inv s →
      Act.wp stuck (api.perform (supply.watched.host during) op)
        (fun answer t => Inv (Store.sawCall op s answer t)) s)
    (p : Program api σ) (hp : p.Only allowed) : Act.Keeps stuck Inv (p.run supply) := by
  induction p with
  | done => exact fun s hs => hmoment s hs
  | fail error => exact fun s hs => hmoment s hs
  | look next ih =>
    intro s hs
    simp only [Program.run, Act.wp_bind, Act.wp_modify, Act.wp_get]
    exact ih _ (hp _) _ (hmoment s hs)
  | keep own next ih =>
    intro s hs
    simp only [Program.run, Act.wp_bind, Act.wp_modify]
    exact ih hp _ (hkeep own _ (hmoment s hs))
  | call op meanwhile next ihm ihn =>
    intro s hs
    obtain ⟨hop, hmeanwhile, hnext⟩ := hp
    simp only [Program.run, Act.wp_bind, Act.wp_modify, Act.wp_get, Act.wp_attempt]
    apply (hcall _ (fun cb => ihm cb (hmeanwhile cb)) op hop _ (hmoment s hs)).mono
    intro answer t ht
    exact ihn answer (hnext answer) _ ht

theorem Program.saw_end (supply : Supply σ) (p : Program api σ) (s : Store (Watched api σ)) :
    Act.wp True (p.run supply) (fun _ t => .moment t.bare ∈ t.seen) s := by
  induction p generalizing s with
  | done => exact List.mem_cons_self
  | fail error => exact List.mem_cons_self
  | look next ih =>
    simp only [Program.run, Act.wp_bind, Act.wp_modify, Act.wp_get]
    exact ih _ _
  | keep own next ih =>
    simp only [Program.run, Act.wp_bind, Act.wp_modify]
    exact ih _
  | call op meanwhile next _ ih =>
    simp only [Program.run, Act.wp_bind, Act.wp_modify, Act.wp_get, Act.wp_attempt]
    exact (Act.wp_true_iff.2 fun _ _ _ => trivial).mono fun answer t (_ : True) => ih answer _

def Event.instance? : Event → Option Instance
  | .created _ _ inst | .destroying _ inst _ | .restored _ inst | .pushing _ inst => some inst
  | _ => none

def Store.Owns (s : Store σ) (inst : Instance) : Prop :=
  ∃ e, ∃ d ∈ (s.episode e).dependents, d.inst = inst

/-- An instance that something happened to, or that an episode owns. -/
def Store.Knows (s : Store σ) (inst : Instance) : Prop :=
  (∃ event ∈ s.journal.toList, event.instance? = some inst) ∨ s.Owns inst

/-- Creations give instances that were not there before. -/
def Supply.Fresh (supply : Supply σ) : Prop :=
  ∀ unit e (s : Store σ), ¬ s.Knows (supply.inst (.create unit e) s)

def tokenAbove : List Instance → Nat
  | [] => 1
  | inst :: rest => inst.token + tokenAbove rest

theorem tokenAbove_pos (known : List Instance) : 0 < tokenAbove known := by
  induction known with
  | nil => exact Nat.one_pos
  | cons inst rest ih => exact Nat.lt_of_lt_of_le ih (Nat.le_add_left _ _)

theorem lt_tokenAbove {known : List Instance} {inst : Instance} (h : inst ∈ known) :
    inst.token < tokenAbove known := by
  induction known with
  | nil => cases h
  | cons other rest ih =>
    rw [tokenAbove]
    rcases List.mem_cons.1 h with rfl | h
    · exact Nat.lt_add_of_pos_right (tokenAbove_pos rest)
    · exact Nat.lt_of_lt_of_le (ih h) (Nat.le_add_left _ _)

def Store.nextToken (s : Store σ) : Nat :=
  tokenAbove (s.journal.toList.filterMap Event.instance? ++
    s.episodes.values.flatMap fun r => r.dependents.map (·.inst))

/-- A supply that numbers the instances. -/
def Supply.numbered (thread : Thread) : Supply σ where
  thread
  inst _ s := ⟨s.nextToken⟩
  state _ _ _ := .null

theorem Supply.numbered_fresh (thread : Thread) : (numbered thread : Supply σ).Fresh := by
  intro unit e s hknown
  have hmem : (⟨s.nextToken⟩ : Instance) ∈ s.journal.toList.filterMap Event.instance? ++
      s.episodes.values.flatMap fun r => r.dependents.map (·.inst) := by
    rw [List.mem_append]
    rcases hknown with ⟨event, hevent, hinst⟩ | ⟨x, d, hd, hinst⟩
    · exact .inl (List.mem_filterMap.2 ⟨event, hevent, hinst⟩)
    · cases hx : s.episodes.get? x with
      | none => simp [Store.episode, hx] at hd
      | some r =>
        have hr : r ∈ s.episodes.values :=
          List.mem_map.2 ⟨(x, r), Table.get?_eq_some_iff.1 hx, rfl⟩
        have hd' : d ∈ r.dependents := by simpa [Store.episode, hx] using hd
        exact .inr (List.mem_flatMap.2 ⟨r, hr, List.mem_map.2 ⟨d, hd', hinst⟩⟩)
  exact Nat.lt_irrefl _ (lt_tokenAbove hmem)

end ContextualLifecycle
