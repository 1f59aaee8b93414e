import ContextualLifecycle.Container.Reference
import ContextualLifecycle.Proofs.Surroundings

namespace ContextualLifecycle

variable {σ α : Type}

/-- A creation as it went: what was created, the instance if it succeeded, and the creations inside
it in order. -/
inductive Creation where
  | node (unit : Contextual) (outcome : Option Instance) (inside : List Creation)

namespace Creation

mutual

/-- What a creation leaves to the stored one around it: instances of the dependent scope, each after
those that were created inside it. A stored creation leaves nothing. -/
def left : Creation → List Dependent
  | node unit outcome inside =>
    if unit.scope = .dependent then leftBy inside ++ (outcome.map (Dependent.mk unit)).toList
    else []

def leftBy : List Creation → List Dependent
  | [] => []
  | x :: xs => x.left ++ leftBy xs

end

theorem leftBy_append (xs ys : List Creation) : leftBy (xs ++ ys) = leftBy xs ++ leftBy ys := by
  induction xs with
  | nil => rfl
  | cons x xs ih =>
    rw [List.cons_append, leftBy, leftBy, ih, List.append_assoc]

theorem leftBy_singleton (x : Creation) : leftBy [x] = x.left := by
  rw [leftBy, leftBy, List.append_nil]

end Creation

/-- The data of surroundings with the creations so far, by level, the innermost first. -/
structure Growing (σ : Type) where
  own : σ
  levels : List (List Creation)

namespace Store

def growing (s : Store σ) : Store (Growing σ) := s.among ⟨s.surroundings, [[]]⟩

/-- What the surroundings see of a store beside which a tree grows. -/
def outside (s : Store (Growing σ)) : Store σ := s.among s.surroundings.own

def inside (levels : List (List Creation)) (s : Store σ) : Store (Growing σ) :=
  s.among ⟨s.surroundings, levels⟩

def setLevels (levels : List (List Creation)) (s : Store (Growing σ)) : Store (Growing σ) :=
  { s with surroundings := { s.surroundings with levels } }

/-- A creation begins a level. -/
def descend (s : Store (Growing σ)) : Store (Growing σ) :=
  s.setLevels ([] :: s.surroundings.levels)

def ascend (unit : Contextual) (outcome : Option Instance) (s : Store (Growing σ)) :
    Store (Growing σ) :=
  match s.surroundings.levels with
  | inside :: level :: rest => s.setLevels ((level ++ [.node unit outcome inside]) :: rest)
  | _ => s

end Store

/-- A step of the surroundings beside a growing tree. -/
def Act.beside (x : Act σ α) : Act (Growing σ) α :=
  ExceptT.mk fun s =>
    (x.run.run s.outside).map fun o => (o.1, o.2.inside s.surroundings.levels)

theorem Act.wp_beside {stuck : Prop} {x : Act σ α}
    {Q : Except LifecycleError α → Store (Growing σ) → Prop} {s : Store (Growing σ)} :
    Act.wp stuck x.beside Q s ↔
      Act.wp stuck x (fun r t => Q r (t.inside s.surroundings.levels)) s.outside := by
  have hrun : x.beside.run.run s =
      (x.run.run s.outside).map fun o => (o.1, o.2.inside s.surroundings.levels) := rfl
  rw [Act.wp, Run.wp, Act.wp, Run.wp, hrun]
  cases x.run.run s.outside <;> rfl

/-- Definitions, told apart by their objects. -/
structure Catalogue where
  unit : Nat → Contextual
  object : ∀ n, (unit n).object = n

/-- A container in its surroundings: the definitions, the values that callbacks supply, and what
they do besides creating. -/
structure Setting (σ : Type) where
  container : Container
  catalogue : Catalogue
  supply : Supply σ
  during : Callback → Act σ Unit

def Supply.growing (supply : Supply σ) : Supply (Growing σ) where
  thread := supply.thread
  inst cb s := supply.inst cb s.outside
  state unit inst s := supply.state unit inst s.outside

/-- The host that has instances created by a given step. -/
def Setting.host (w : Setting σ) (create : Contextual → Episode → Act (Growing σ) Instance) :
    Host (Growing σ) :=
  { w.supply.growing.host fun cb => (w.during cb).beside with create }

/-- A creation on a level of its own. -/
def branch (unit : Contextual) (creation : Act (Growing σ) Instance) :
    Act (Growing σ) Instance := do
  modify Store.descend
  match ← Act.attempt creation with
  | .ok inst =>
    modify (Store.ascend unit (some inst))
    return inst
  | .error error =>
    modify (Store.ascend unit none)
    throw error

/-- However a creation comes back, it becomes the last node of the level around it. -/
theorem wp_branch {stuck : Prop} {unit : Contextual} {creation : Act (Growing σ) Instance}
    {P Q : Except LifecycleError Instance → Store (Growing σ) → Prop} {s : Store (Growing σ)}
    (hcreation : Act.wp stuck creation P s.descend)
    (hnode : ∀ answer t, P answer t → ∃ inside level rest,
      t.surroundings.levels = inside :: level :: rest ∧
      Q answer (t.setLevels ((level ++ [.node unit answer.toOption inside]) :: rest))) :
    Act.wp stuck (branch unit creation) Q s := by
  simp only [branch, Act.wp_bind, Act.wp_modify, Act.wp_attempt]
  apply hcreation.mono
  intro answer t ht
  obtain ⟨inside, level, rest, hlevels, hQ⟩ := hnode answer t ht
  have hascend : ∀ outcome, t.ascend unit outcome =
      t.setLevels ((level ++ [.node unit outcome inside]) :: rest) := by
    intro outcome
    simp only [Store.ascend, hlevels]
  cases answer with
  | ok inst =>
    simp only [Act.wp_bind, Act.wp_modify, Act.wp_pure, hascend]
    exact hQ
  | error error =>
    simp only [Act.wp_bind, Act.wp_modify, Act.wp_throw, hascend]
    exact hQ

/-- What the callback of a creation does. -/
inductive Plan (σ : Type) where
  /-- Returns a new instance. -/
  | finish
  | fail (error : LifecycleError)
  | look (next : Store σ → Plan σ)
  /-- Asks for a reference. If that takes a creation, it goes by a plan of its own. -/
  | ask (object : Nat) (creation : Plan σ) (next : Except LifecycleError Instance → Plan σ)

/-- The creation of an instance into an episode by a plan. -/
def Plan.run (w : Setting σ) : Plan σ → Contextual → Episode → Act (Growing σ) Instance
  | .finish, unit, e => return w.supply.inst (.create unit e) (← get).outside
  | .fail error, _, _ => throw error
  | .look next, unit, e => do (next (← get).outside).run w unit e
  | .ask object creation next, unit, e => do
    let host := w.host fun u x => branch u (creation.run w u x)
    let answer ← Act.attempt (w.container.reference host (w.catalogue.unit object) e)
    (next answer).run w unit e

def Plan.host (plan : Plan σ) (w : Setting σ) : Host (Growing σ) :=
  w.host fun unit e => branch unit (plan.run w unit e)

end ContextualLifecycle
