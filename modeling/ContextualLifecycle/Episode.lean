import ContextualLifecycle.Store

namespace ContextualLifecycle

variable {σ : Type}

namespace Episode

namespace Record

/-- How messages name the owner: by its bean, else by its contextual, else by its number. -/
def ownerName (r : Episode.Record) (e : Episode) : String :=
  match r.bean, r.contextual with
  | some bean, _ => bean.id.text
  | none, some contextual => contextual.id.text
  | none, none => s!"creational context #{e.number}"

def owns (r : Episode.Record) (contextual : Contextual) (inst : Instance) : Bool :=
  r.dependents.any (·.isFor contextual inst)

/-- Registers a dependent, if it is not registered yet. Records of the own bean go to the front. -/
def register (r : Episode.Record) (contextual : Contextual) (inst : Instance) : Episode.Record :=
  if r.owns contextual inst then r
  else
    let d : Dependent := ⟨contextual, inst⟩
    let isOwn := r.bean.any contextual.isSame
    { r with dependents := if isOwn then d :: r.dependents else r.dependents ++ [d] }

def maxBudget : Nat := UInt64.size - 1

def budget (r : Episode.Record) : Nat :=
  min (r.dependents.length * r.teardownFactor.toNat) maxBudget

end Record

def update (e : Episode) (f : Episode.Record → Episode.Record) (s : Store σ) : Store σ :=
  s.setEpisode e (f (s.episode e))

/-- A new episode for a definition, perhaps around a foreign one. At least one destroy attempt is
allowed for each dependent. -/
def new (contextual : Option Contextual) (outer : Option Foreign) (teardownFactor : UInt64)
    (s : Store σ) : Episode × Store σ :=
  let e : Episode := ⟨s.nextEpisode⟩
  let r : Episode.Record := {
    contextual
    bean := contextual.bind Contextual.asBean?
    outer
    teardownFactor := max teardownFactor 1 }
  (e, { s.setEpisode e r with nextEpisode := s.nextEpisode + 1 })

def putContextual (e : Episode) (contextual : Option Contextual) (s : Store σ) :
    Option Contextual × Store σ :=
  ((s.episode e).contextual, e.update (fun r => { r with contextual }) s)

def putBean (e : Episode) (bean : Option Contextual) (s : Store σ) :
    Option Contextual × Store σ :=
  ((s.episode e).bean, e.update (fun r => { r with bean }) s)

def putDelegate (e : Episode) (delegate : Option Instance) (s : Store σ) :
    Option Instance × Store σ :=
  ((s.episode e).delegate, e.update (fun r => { r with delegate }) s)

def pushInjectionPoint (e : Episode) (point : InjectionPoint) : Store σ → Store σ :=
  e.update fun r => { r with injectionPoints := point :: r.injectionPoints }

def popInjectionPoint (e : Episode) (s : Store σ) : Option InjectionPoint × Store σ :=
  ((s.episode e).injectionPoints.head?,
    e.update (fun r => { r with injectionPoints := r.injectionPoints.tail }) s)

def pushEvent (e : Episode) (event : EventMetadata) : Store σ → Store σ :=
  e.update fun r => { r with events := event :: r.events }

def popEvent (e : Episode) (s : Store σ) : Option EventMetadata × Store σ :=
  ((s.episode e).events.head?, e.update (fun r => { r with events := r.events.tail }) s)

/-- Registers a dependent instance; a missing one is ignored. -/
def addDependent (e : Episode) (contextual : Contextual) : Option Instance → Store σ → Store σ
  | none, s => s
  | some inst, s => e.update (·.register contextual inst) s

def takeDependent (e : Episode) (test : Dependent → Bool) (s : Store σ) :
    Option Dependent × Store σ :=
  match (s.episode e).dependents.find? test with
  | none => (none, s)
  | some d => (some d, e.update (fun r => { r with dependents := r.dependents.eraseP test }) s)

def setDestroying (e : Episode) (destroying : Bool) : Store σ → Store σ :=
  e.update fun r => { r with destroying }

/-- Notes the incomplete instance, in the foreign episode too. -/
def push (host : Host σ) (e : Episode) (inst : Instance) : Run σ Unit := do
  modify (e.update fun r => { r with incomplete := some inst })
  if let some outer := ((← get).episode e).outer then
    modify (·.note (.pushing outer inst))
    host.push outer inst

/-- Destroys the dependent that holds an instance, if there is one. Its record is gone before the
destruction starts. -/
def destroyDependent (host : Host σ) (e : Episode) (inst : Instance) : Act σ Bool := do
  match ← modifyGet (e.takeDependent (·.inst == inst)) with
  | none => return false
  | some d =>
    d.contextual.destroy host d.inst e
    return true

/-- Destroys dependents front to back, at most `budget` of them. Tells whether some are left when
the budget is used up, and the failures in order. -/
def drain (host : Host σ) (e : Episode) : (budget : Nat) → Run σ (Bool × List LifecycleError)
  | 0 => return (!((← get).episode e).dependents.isEmpty, [])
  | budget + 1 => do
    match ← modifyGet (e.takeDependent fun _ => true) with
    | none => return (false, [])
    | some d =>
      match ← (d.contextual.destroy host d.inst e).run with
      | .ok () => drain host e budget
      | .error error =>
        modify (·.report (.dependentFailed e d.contextual.id error))
        let (exhausted, failures) ← drain host e budget
        return (exhausted, error :: failures)

/-- Destroys all dependents. A call from within does nothing. Failures are reported together at the
end; when the budget is used up, the rest stays registered. -/
def removeAllDependents (host : Host σ) (e : Episode) : Act σ Unit := do
  let r := (← get).episode e
  unless r.destroying || r.dependents.isEmpty do
    let limit := r.budget
    modify (e.setDestroying true)
    let (exhausted, failures) ← e.drain host limit
    let owner := ((← get).episode e).ownerName e
    if exhausted then modify (·.report (.teardownDiverged e owner limit))
    modify (e.setDestroying false)
    if exhausted then throw (.teardownLoop owner limit)
    failIfAny owner failures

/-- Destroys everything that was created in an episode, and then releases the foreign one, whose
failure goes before. -/
def release (host : Host σ) (e : Episode) : Act σ Unit := do
  let outcome ← Act.attempt (e.removeAllDependents host)
  if let some outer := ((← get).episode e).outer then
    modify (·.note (.releasing outer))
    host.release outer
  liftExcept outcome

end Episode

/-- Creates an instance that an episode owns from then on. -/
def Contextual.createDependent (host : Host σ) (unit : Contextual) (e : Episode) :
    Act σ Instance := do
  let inst ← unit.create host e
  modify (e.addDependent unit (some inst))
  return inst

end ContextualLifecycle
