import ContextualLifecycle.Proofs.Surroundings
import ContextualLifecycle.Snapshot.Passivation

namespace ContextualLifecycle

inductive Call where
  | newContainer (config : Config) (observers : List Observer) (proxying : Bool)
  | register (container : Container) (id : String) (unit : Contextual)
  | wait (span : Duration)
  | newEpisode (container : Container) (contextual : Option Contextual)
  | wrap (container : Container) (outer : Container.Outer) (unit : Contextual)
  /-- Changes what an episode tells of its own instance, but none of its dependents. -/
  | describe (episode : Episode) (change : Episode.Record → Episode.Record)
  | addDependent (episode : Episode) (unit : Contextual) (inst : Option Instance)
  | push (episode : Episode) (inst : Instance)
  | destroyDependent (episode : Episode) (inst : Instance)
  | removeAllDependents (episode : Episode)
  | release (episode : Episode)
  | newContext (kind : ScopeKind)
  | setActive (context : ScopeContext) (active : Bool)
  | getOrCreate (context : ScopeContext) (unit : Contextual) (episode : Episode)
  | destroy (context : ScopeContext) (unit : Contextual)
  | destroyExisting (context : ScopeContext) (unit : Contextual)
  | destroyAll (context : ScopeContext)
  | removeConversation (session : ScopeContext) (id : String)
  | promote (conversation : Conversation)
  | demote (conversation : Conversation)
  | setTimeout (conversation : Conversation) (timeout : Duration)
  | touch (conversation : Conversation)
  | restoreContext (container : Container) (snapshot : ContextSnapshot)
  | start (container : Container) (kind : ScopeKind) (params : ScopeParams)
  | current (container : Container) (kind : ScopeKind)
  | stop (container : Container) (kind : ScopeKind)
  | detach (container : Container) (kind : ScopeKind)
  | destroyExpired (container : Container)
  | restoreSession (container : Container) (snapshot : ContextSnapshot)
  | shutdown (container : Container)

namespace Call

def Answer : Call → Type
  | newContainer .. => Container
  | newEpisode .. | wrap .. => Episode
  | getOrCreate .. => Instance
  | destroyDependent .. | destroy .. => Bool
  | newContext .. | restoreContext .. | restoreSession .. => ScopeContext
  | removeConversation .. => Option Conversation
  | current .. | detach .. => Option ScopeContext
  | destroyExpired .. => Nat
  | _ => Unit

variable {σ : Type}

def perform (host : Host σ) : (call : Call) → Act σ call.Answer
  | newContainer config observers proxying => modifyGet (Container.new config observers proxying)
  | register m id unit => modify (m.registerAs id unit)
  | wait span => modify (·.wait span)
  | newEpisode m contextual => modifyGet (m.newEpisode contextual)
  | wrap m outer unit => modifyGet (m.wrap outer unit)
  | describe e change => modify (e.update fun r => { change r with
      dependents := r.dependents
      destroying := r.destroying
      outer := r.outer
      teardownFactor := r.teardownFactor })
  | addDependent e unit inst => modify (e.addDependent unit inst)
  | push e inst => ExceptT.lift (e.push host inst)
  | destroyDependent e inst => e.destroyDependent host inst
  | removeAllDependents e => e.removeAllDependents host
  | release e => e.release host
  | newContext kind => modifyGet (ScopeContext.new kind)
  | setActive c active => modify (c.setActive active)
  | getOrCreate c unit e => c.getOrCreate host unit e
  | destroy c unit => c.destroy host unit
  | destroyExisting c unit => c.destroyExisting host unit
  | destroyAll c => c.destroyAll host
  | removeConversation c id => modifyGet (c.removeConversation id)
  | promote v => modify v.promote
  | demote v => modify v.demote
  | setTimeout v timeout => modify (v.setTimeout timeout)
  | touch v => modify v.touch
  | restoreContext m snapshot => m.restoreContext host snapshot
  | start m kind params => m.start host kind params
  | current m kind => m.current host kind
  | stop m kind => m.stop host kind
  | detach m kind => modifyGet (m.detach host.thread kind)
  | destroyExpired m => m.destroyExpired host
  | restoreSession m snapshot => m.restoreSession host snapshot
  | shutdown m => m.shutdown host

def entersScopes : Call → Bool
  | start .. | current .. | stop .. | detach .. | destroyExpired .. | restoreSession ..
  | shutdown .. => true
  | _ => false

end Call

/-- A call on a thread. -/
structure Request where
  thread : Thread
  call : Call

def library : Interface where
  Call := Request
  Answer request := request.call.Answer
  perform host request := request.call.perform { host with thread := request.thread }

/-- A rule says which request may be made within those that are in progress, the innermost first. -/
abbrev Rule := List Request → Request → Prop

variable {σ : Type} {rule : Rule}

/-- All requests of a program are within a rule. -/
def Program.Obeys (rule : Rule) : List Request → Program library σ → Prop
  | _, .done | _, .fail _ => True
  | within, .look next => ∀ s, (next s).Obeys rule within
  | within, .keep _ next => next.Obeys rule within
  | within, .call request meanwhile next => rule within request ∧
      (∀ cb, (meanwhile cb).Obeys rule (request :: within)) ∧
      ∀ answer, (next answer).Obeys rule within

theorem Program.obeys_of_forall (h : ∀ within request, rule within request)
    (p : Program library σ) (within : List Request) : p.Obeys rule within := by
  induction p generalizing within with
  | done | fail => trivial
  | look next ih => exact fun s => ih s within
  | keep own next ih => exact ih within
  | call request meanwhile next ihm ihn =>
    exact ⟨h within request, fun cb => ihm cb _, fun answer => ihn answer within⟩

theorem Program.Obeys.mono {rule' : Rule} {p : Program library σ} {within : List Request}
    (hobeys : p.Obeys rule within)
    (hrule : ∀ within request, rule within request → rule' within request) :
    p.Obeys rule' within := by
  induction p generalizing within with
  | done | fail => trivial
  | look next ih => exact fun s => ih s (hobeys s)
  | keep own next ih => exact ih hobeys
  | call request meanwhile next ihm ihn =>
    obtain ⟨hrequest, hmeanwhile, hnext⟩ := hobeys
    exact ⟨hrule _ _ hrequest, fun cb => ihm cb (hmeanwhile cb), fun answer =>
      ihn answer (hnext answer)⟩

/-- Invariants that every request keeps, if the callbacks do that run meanwhile, are kept by
programs within the rule. They depend on the requests in progress, and come in a family as a request
may have its callbacks run under another member. -/
theorem Program.run_keeps_within {ι : Type} {stuck : Prop}
    (Inv : ι → List Request → Store (Watched library σ) → Prop) (supply : Supply σ)
    (hmoment : ∀ i within s, Inv i within s → Inv i within s.sawMoment)
    (hkeep : ∀ i within own s, Inv i within s → Inv i within (s.keep own))
    (hcall : ∀ (meanwhile : Callback → Program library σ) within (request : Request),
      rule within request →
      (∀ i cb, Act.Keeps stuck (Inv i (request :: within)) ((meanwhile cb).run supply)) →
      ∀ i s, Inv i within s →
        Act.wp stuck (library.perform (supply.hostOf meanwhile) request)
          (fun answer t => Inv i within
            (Store.sawCall request s answer t : Store (Watched library σ))) s)
    (p : Program library σ) : ∀ within, p.Obeys rule within → ∀ i,
      Act.Keeps stuck (Inv i within) (p.run supply) := by
  induction p with
  | done => exact fun within _ i s hs => hmoment i within s hs
  | fail error => exact fun within _ i s hs => hmoment i within s hs
  | look next ih =>
    intro within hobeys i s hs
    simp only [Program.run, Act.wp_bind, Act.wp_modify, Act.wp_get]
    exact ih _ within (hobeys _) i _ (hmoment i within s hs)
  | keep own next ih =>
    intro within hobeys i s hs
    simp only [Program.run, Act.wp_bind, Act.wp_modify]
    exact ih within hobeys i _ (hkeep i within own _ (hmoment i within s hs))
  | call request meanwhile next ihm ihn =>
    intro within hobeys i s hs
    obtain ⟨hrule, hmeanwhile, hnext⟩ := hobeys
    simp only [Program.run, Act.wp_bind, Act.wp_modify, Act.wp_get, Act.wp_attempt]
    apply (hcall meanwhile within request hrule
      (fun j cb => ihm cb (request :: within) (hmeanwhile cb) j) i _ (hmoment i within s hs)).mono
    intro answer t ht
    exact ihn answer within (hnext answer) i _ ht

/-- Whatever the surroundings are called for keeps an invariant. -/
structure Host.Keeps (stuck : Prop) (Inv : Store σ → Prop) (host : Host σ) : Prop where
  create : ∀ unit e, Act.Keeps stuck Inv (host.create unit e)
  destroy : ∀ unit inst e, Act.Keeps stuck Inv (host.destroy unit inst e)
  restore : ∀ unit state, Act.Keeps stuck Inv (host.restore unit state)
  notify : ∀ listener phase m kind c, Run.Keeps stuck Inv (host.notify listener phase m kind c)
  push : ∀ outer inst, Run.Keeps stuck Inv (host.push outer inst)
  release : ∀ outer, Act.Keeps stuck Inv (host.release outer)

/-- Whatever the surroundings are called for with instances keeps an invariant. -/
structure Host.Tends (stuck : Prop) (Inv : Store σ → Prop) (host : Host σ) : Prop where
  create : ∀ unit e, Act.Keeps stuck Inv (host.create unit e)
  destroy : ∀ unit inst e, Act.Keeps stuck Inv (host.destroy unit inst e)
  restore : ∀ unit state, Act.Keeps stuck Inv (host.restore unit state)
  push : ∀ outer inst, Run.Keeps stuck Inv (host.push outer inst)
  release : ∀ outer, Act.Keeps stuck Inv (host.release outer)

theorem Host.Keeps.tends {stuck : Prop} {Inv : Store σ → Prop} {host : Host σ}
    (h : host.Keeps stuck Inv) : host.Tends stuck Inv :=
  ⟨h.create, h.destroy, h.restore, h.push, h.release⟩

theorem Host.Tends.on {stuck : Prop} {Inv : Store σ → Prop} {host : Host σ}
    (h : host.Tends stuck Inv) (thread : Thread) :
    ({ host with thread } : Host σ).Tends stuck Inv :=
  ⟨h.create, h.destroy, h.restore, h.push, h.release⟩

theorem Host.Keeps.on {stuck : Prop} {Inv : Store σ → Prop} {host : Host σ}
    (h : host.Keeps stuck Inv) (thread : Thread) :
    ({ host with thread } : Host σ).Keeps stuck Inv :=
  ⟨h.create, h.destroy, h.restore, h.notify, h.push, h.release⟩

/-- Callbacks keep an invariant that goes through one of those that they keep from each store on. -/
theorem Host.Keeps.through {ι : Type} {stuck : Prop} {Through : ι → Store σ → Prop}
    {Inv : Store σ → Prop} {host : Host σ} (h : ∀ i, host.Keeps stuck (Through i))
    (hthrough : ∀ s, Inv s → ∃ i, Through i s ∧ ∀ t, Through i t → Inv t) :
    host.Keeps stuck Inv := by
  have hact : ∀ {α : Type} {x : Act σ α}, (∀ i, Act.Keeps stuck (Through i) x) →
      Act.Keeps stuck Inv x := by
    intro α x hx s hs
    obtain ⟨i, hi, hback⟩ := hthrough s hs
    exact (hx i s hi).mono fun _ t ht => hback t ht
  have hrun : ∀ {α : Type} {x : Run σ α}, (∀ i, Run.Keeps stuck (Through i) x) →
      Run.Keeps stuck Inv x := by
    intro α x hx s hs
    obtain ⟨i, hi, hback⟩ := hthrough s hs
    exact (hx i s hi).mono fun _ t ht => hback t ht
  exact {
    create := fun unit e => hact fun i => (h i).create unit e
    destroy := fun unit inst e => hact fun i => (h i).destroy unit inst e
    restore := fun unit state => hact fun i => (h i).restore unit state
    notify := fun listener phase m kind c => hrun fun i => (h i).notify listener phase m kind c
    push := fun outer inst => hrun fun i => (h i).push outer inst
    release := fun outer => hact fun i => (h i).release outer }

def Callback.tellsBeginning : Callback → Bool
  | .notify _ .initialized _ _ _ => true
  | _ => false

section Supply

variable {stuck : Prop} {Inv : Store σ → Prop} (supply : Supply σ)
  {during : Callback → Act σ Unit}

theorem Supply.notify_keeps {listener : Listener} {phase : Phase} {m : Container}
    {kind : ScopeKind} {c : ScopeContext}
    (h : Act.Keeps stuck Inv (during (.notify listener phase m kind c))) :
    Run.Keeps stuck Inv ((supply.host during).notify listener phase m kind c) := by
  intro s hs
  simp only [Supply.host, Run.wp_bind, Run.wp_run]
  exact h s hs

theorem Supply.host_tends (h : ∀ cb, cb.tellsBeginning = false → Act.Keeps stuck Inv (during cb)) :
    (supply.host during).Tends stuck Inv where
  create unit e s hs := Supply.wp_create (h _ rfl s hs) (fun _ ht => ht) fun _ _ ht => ht
  destroy unit inst e := h _ rfl
  restore unit state s hs := by
    simp only [Supply.host, Act.wp_bind, Act.wp_get, Act.wp_pure]
    apply (h _ rfl s hs).mono
    intro r t ht
    cases r <;> exact ht
  push outer inst s hs := by
    simp only [Supply.host, Run.wp_bind, Run.wp_run]
    exact h _ rfl s hs
  release outer := h _ rfl

theorem Supply.host_keeps (h : ∀ cb, Act.Keeps stuck Inv (during cb)) :
    (supply.host during).Keeps stuck Inv :=
  { supply.host_tends fun cb _ => h cb with
    notify := fun _ _ _ _ _ => supply.notify_keeps (h _) }

end Supply

end ContextualLifecycle
