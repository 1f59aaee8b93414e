import ContextualLifecycle.Container.Scopes

namespace ContextualLifecycle.Container

variable {σ : Type}

/-- A reference to an instance of a definition. A dependent instance is created into the episode of
the caller. Any other one is created into an episode of its own, stored in the current context of
its scope, and handed out in a proxy if the scope is normal. -/
def reference (host : Host σ) (m : Container) (unit : Contextual) (e : Episode) :
    Act σ Instance := do
  let scope := unit.scope
  if scope = .dependent then
    match ← m.current host .dependent with
    | some c => c.getOrCreate host unit e
    | none => unit.createDependent host e
  else
    let c ← m.activeContext host scope
    let own ← modifyGet (m.newEpisode (some unit))
    let inst ← c.getOrCreate host unit own
    if ((← get).container m).proxying && scope.isNormal then host.proxy unit scope inst
    else return inst

/-- Destroys the instance of a definition in the current context of its scope; tells whether there
was one. -/
def destroyReference (host : Host σ) (m : Container) (unit : Contextual) : Act σ Bool := do
  match ← m.current host unit.scope with
  | some c => c.destroy host unit
  | none => return false

end ContextualLifecycle.Container
