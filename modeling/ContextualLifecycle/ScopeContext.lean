import ContextualLifecycle.Episode

namespace ContextualLifecycle

variable {σ : Type}

/-- Destroys a stored instance, and then releases its episode, also when the destruction failed. -/
def Bag.destroy (host : Host σ) (bag : Bag) : Act σ Unit := do
  let destroyed ← Act.attempt (bag.contextual.destroy host bag.inst bag.episode)
  let released ← Act.attempt (bag.episode.release host)
  match destroyed, released with
  | .ok (), .ok () => pure ()
  | .error e, .ok () | .ok (), .error e => throw e
  | .error e, .error f => throw (.teardown (bag.contextual.id.text ++ " instance") [e, f])

namespace ScopeContext

namespace Record

def bag? (r : ScopeContext.Record) (unit : Contextual) : Option Bag :=
  (r.entries.get? unit.id).bind Cell.bag?

/-- The instance of a definition, if one was created here and not yet destroyed. -/
def get? (r : ScopeContext.Record) (unit : Contextual) : Option Instance :=
  (r.bag? unit).map (·.inst)

def contains (r : ScopeContext.Record) (unit : Contextual) : Bool := (r.get? unit).isSome

def bags (r : ScopeContext.Record) : List Bag := r.entries.values.filterMap Cell.bag?

def size (r : ScopeContext.Record) : Nat := r.bags.length

def isEmpty (r : ScopeContext.Record) : Bool := r.size == 0

def holds (r : ScopeContext.Record) (id : ContextualId) (serial : Nat) : Bool :=
  (r.entries.get? id).any (·.serial == serial)

end Record

def update (c : ScopeContext) (f : ScopeContext.Record → ScopeContext.Record) (s : Store σ) :
    Store σ :=
  s.setContext c (f (s.context c))

def new (kind : ScopeKind) (s : Store σ) : ScopeContext × Store σ :=
  let c : ScopeContext := ⟨s.nextContext⟩
  (c, { s.setContext c { kind } with nextContext := s.nextContext + 1 })

def setActive (c : ScopeContext) (active : Bool) : Store σ → Store σ :=
  c.update fun r => { r with active }

def newActive (kind : ScopeKind) (s : Store σ) : ScopeContext × Store σ :=
  let (c, s) := new kind s
  (c, c.setActive true s)

def setCell (c : ScopeContext) (id : ContextualId) (cell : Cell) : Store σ → Store σ :=
  c.update fun r => { r with entries := r.entries.insert id cell }

/-- The cell for an id, an empty one if there was none. -/
def claimCell (c : ScopeContext) (id : ContextualId) (s : Store σ) : Cell × Store σ :=
  match (s.context c).entries.get? id with
  | some cell => (cell, s)
  | none =>
    let cell : Cell := ⟨s.nextCell, .empty⟩
    (cell, { c.setCell id cell s with nextCell := s.nextCell + 1 })

def takeEntry (c : ScopeContext) (id : ContextualId) (s : Store σ) : Option Bag × Store σ :=
  (((s.context c).entries.get? id).bind Cell.bag?,
    c.update (fun r => { r with entries := r.entries.erase id }) s)

def dropCell (c : ScopeContext) (id : ContextualId) (serial : Nat) : Store σ → Store σ :=
  c.update fun r => if r.holds id serial then { r with entries := r.entries.erase id } else r

def fillCell (c : ScopeContext) (id : ContextualId) (serial : Nat) (content : Cell.Content) :
    Store σ → Store σ :=
  c.update fun r =>
    if r.holds id serial then { r with entries := r.entries.insert id ⟨serial, content⟩ } else r

/-- The ids from a creation in progress up to the innermost one, closed by the id itself, if the
id is being created in a context already. -/
def cycle? (stack : List (ScopeContext × ContextualId)) (c : ScopeContext) (id : ContextualId) :
    Option (List ContextualId) :=
  if stack.contains (c, id) then
    some (id :: (stack.takeWhile (· != (c, id))).reverse.map Prod.snd ++ [id])
  else none

/-- Puts a creation on the stack of its thread, unless it is in progress there already. -/
def enterCreation (thread : Thread) (c : ScopeContext) (id : ContextualId) : Act σ Unit := do
  let stack := (← get).stack thread
  match cycle? stack c id with
  | some path => throw (.circular (path.map (·.text)))
  | none => modify (·.setStack thread ((c, id) :: stack))

def leaveCreation (thread : Thread) (s : Store σ) : Store σ :=
  s.setStack thread (s.stack thread).tail

/-- Creates an instance into a cell. If the creation fails, its dependents are released and the
place is given up. If the context was deactivated meanwhile or the place is lost, the instance is
destroyed. -/
def createInto (host : Host σ) (c : ScopeContext) (unit : Contextual) (e : Episode)
    (serial : Nat) : Act σ Instance := do
  modify (c.fillCell unit.id serial .filling)
  match ← Act.attempt (unit.create host e) with
  | .error error =>
    if let .error left ← Act.attempt (e.release host) then
      modify (·.report (.cleanupFailed unit.id left))
    modify (c.dropCell unit.id serial)
    throw error
  | .ok inst =>
    let bag : Bag := ⟨unit, inst, e⟩
    modify (c.fillCell unit.id serial (.live bag))
    let r := (← get).context c
    if r.active && r.holds unit.id serial then return inst
    modify (c.dropCell unit.id serial)
    bag.destroy host
    throw (.contextNotActive r.kind)

/-- The instance of a definition, created into the episode if there is none. An inactive context
refuses; a context of the dependent scope creates each time and leaves the instance to the episode.
A place that another thread is filling is waited for. -/
def getOrCreate (host : Host σ) (c : ScopeContext) (unit : Contextual) (e : Episode) :
    Act σ Instance := do
  let r := (← get).context c
  if !r.active then throw (.contextNotActive r.kind)
  if r.kind = .dependent then unit.createDependent host e
  else if let some inst := r.get? unit then return inst
  else
    let cell ← modifyGet (c.claimCell unit.id)
    enterCreation host.thread c unit.id
    if cell.content = .filling then ExceptT.lift Run.never
    let outcome ← Act.attempt (c.createInto host unit e cell.serial)
    modify (leaveCreation host.thread)
    liftExcept outcome

def destroy (host : Host σ) (c : ScopeContext) (unit : Contextual) : Act σ Bool := do
  match ← modifyGet (c.takeEntry unit.id) with
  | none => return false
  | some bag =>
    bag.destroy host
    return true

def destroyExisting (host : Host σ) (c : ScopeContext) (unit : Contextual) : Act σ Unit := do
  unless ← c.destroy host unit do
    throw (.missingEntry ((← get).context c).kind unit.id.text)

def destroyEntry (host : Host σ) (c : ScopeContext) (id : ContextualId) : Act σ Unit := do
  if let some bag ← modifyGet (c.takeEntry id) then
    if let .error error ← Act.attempt (bag.destroy host) then
      modify fun s => s.report (.entryFailed (s.context c).kind id error)
      throw error

def takeConversations (c : ScopeContext) (s : Store σ) : List Conversation × Store σ :=
  ((s.context c).conversations.values, c.update (fun r => { r with conversations := ∅ }) s)

/-- How messages name a context. -/
def ownerName (c : ScopeContext) (kind : ScopeKind) : String :=
  s!"{kind.name} context #{c.number}"

/-- Deactivates a context and destroys its entries, and then its conversations in the same way if
they are active still. The first argument bounds how deep conversations are nested. -/
def destroyNested (host : Host σ) : Nat → ScopeContext → Act σ Unit
  | 0, _ => ExceptT.lift Run.never
  | depth + 1, c => do
    modify (c.setActive false)
    let ids := ((← get).context c).entries.keys
    let entryFailures ← collectFailures (c.destroyEntry host) ids
    let conversations ← modifyGet c.takeConversations
    let failures ← collectFailures (fun v : Conversation => do
      if ((← get).context v.context).active then destroyNested host depth v.context) conversations
    failIfAny (c.ownerName ((← get).context c).kind) (entryFailures ++ failures)

/-- Deactivates a context and destroys everything in it. A failure does not stop the rest; all are
reported together. A conversation has a greater number than the context that holds it, and numbers
are words of 64 bits. -/
def destroyAll (host : Host σ) (c : ScopeContext) : Act σ Unit := c.destroyNested host UInt64.size

end ScopeContext

end ContextualLifecycle
