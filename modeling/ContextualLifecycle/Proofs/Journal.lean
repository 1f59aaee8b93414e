import ContextualLifecycle.Store

namespace ContextualLifecycle

variable {σ β : Type}

/-- What a selection gives of the events after the first `start`, in order. -/
def Store.since (select : Event → Option β) (start : Nat) (s : Store σ) : List β :=
  (s.journal.toList.drop start).filterMap select

variable {select : Event → Option β} {start : Nat} {s : Store σ}

@[simp]
theorem Store.since_size (select : Event → Option β) (s : Store σ) :
    s.since select s.journal.size = [] := by
  rw [since, List.drop_eq_nil_of_le (by simp), List.filterMap_nil]

theorem Store.since_note (hs : start ≤ s.journal.size) (event : Event) :
    (s.note event).since select start = s.since select start ++ (select event).toList := by
  have hdrop : (s.note event).journal.toList.drop start =
      s.journal.toList.drop start ++ [event] := by
    simp [note, List.drop_append_of_le_length, hs]
  rw [since, hdrop, List.filterMap_append]
  cases hevent : select event <;> simp [since, hevent]

/-- The instance that a creation gave, for its episode. -/
def Event.creation? : Event → Option Bag
  | .created unit e inst => some ⟨unit, inst, e⟩
  | _ => none

/-- The instance that is passed to its destruction, for its episode. -/
def Event.destruction? : Event → Option Bag
  | .destroying unit inst e => some ⟨unit, inst, e⟩
  | _ => none

def Event.begun? : Event → Option Contextual
  | .creating unit _ => some unit
  | _ => none

def Event.made? : Event → Option Contextual
  | .created unit _ _ => some unit
  | _ => none

end ContextualLifecycle
