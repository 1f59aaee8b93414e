import ContextualLifecycle.Conversation
import Mathlib.Data.List.Nodup
import Mathlib.Data.List.Perm.Subperm

namespace ContextualLifecycle

namespace ScopeContext

variable {taken : String → Bool} {draw : Nat → String} {n last : Nat}

/-- The search from a draw on, for as long as the ids are taken, and the draw at which it ends. -/
inductive Seeks (taken : String → Bool) (draw : Nat → String) : Nat → Nat → Prop where
  | found {n : Nat} (hfree : taken (draw n) = false) : Seeks taken draw n n
  | skipped {n last : Nat} (htaken : taken (draw n) = true)
      (hrest : Seeks taken draw (n + 1) last) : Seeks taken draw n last

/-- The search ends at the first free id. -/
theorem seeks_iff : Seeks taken draw n last ↔
    n ≤ last ∧ taken (draw last) = false ∧ ∀ i, n ≤ i → i < last → taken (draw i) = true := by
  constructor
  · intro h
    induction h with
    | found hfree => exact ⟨Nat.le_refl _, hfree, fun i hi hlt => absurd hi (Nat.not_le.2 hlt)⟩
    | @skipped n last htaken _ ih =>
      obtain ⟨hle, hfree, hall⟩ := ih
      refine ⟨Nat.le_of_succ_le hle, hfree, fun i hi hlt => ?_⟩
      obtain rfl | hlater := Nat.eq_or_lt_of_le hi
      · exact htaken
      · exact hall i hlater hlt
  · rintro ⟨hle, hfree, hall⟩
    obtain ⟨k, rfl⟩ := Nat.exists_eq_add_of_le hle
    induction k generalizing n with
    | zero => exact .found hfree
    | succ k ih =>
      have hlast : n + (k + 1) = n + 1 + k := by omega
      rw [hlast] at hfree hall ⊢
      refine .skipped (hall n (Nat.le_refl n) (by omega)) ?_
      exact ih (by omega) hfree fun i hi => hall i (Nat.le_of_succ_le hi)

/-- No id occurs twice among so many draws from one on. -/
def Distinct (draw : Nat → String) (start count : Nat) : Prop :=
  ((List.range' start count).map draw).Nodup

instance (draw : Nat → String) (start count : Nat) : Decidable (Distinct draw start count) :=
  inferInstanceAs (Decidable (List.Nodup _))

theorem distinct_of_injective (hdraw : Function.Injective draw) (start count : Nat) :
    Distinct draw start count :=
  List.Nodup.map hdraw List.nodup_range'

theorem toString_injective : Function.Injective fun n : Nat => toString n := by
  intro n k h
  have hdigits : Nat.toDigits 10 n = Nat.toDigits 10 k := by
    rw [← Nat.toList_repr, ← Nat.toList_repr]
    exact congrArg String.toList h
  calc
    n = Nat.ofDigitChars 10 (Nat.toDigits 10 n) 0 := Nat.ofDigitChars_ten_toDigits.symm
    _ = Nat.ofDigitChars 10 (Nat.toDigits 10 k) 0 := by rw [hdigits]
    _ = k := Nat.ofDigitChars_ten_toDigits

/-- The search with a number of tries is the one without, or all that it could draw is taken. -/
theorem seeks_firstFree_or (taken : String → Bool) (draw : Nat → String) (tries n : Nat) :
    Seeks taken draw n (firstFree taken draw tries n) ∨
      ∀ id ∈ (List.range' n (tries + 1)).map draw, taken id = true := by
  induction tries generalizing n with
  | zero =>
    cases hn : taken (draw n) with
    | false => exact .inl (.found hn)
    | true =>
      refine .inr fun id hid => ?_
      obtain rfl := List.mem_singleton.1 hid
      exact hn
  | succ tries ih =>
    rw [firstFree]
    split
    · rename_i htaken
      obtain hrest | hall := ih (n + 1)
      · exact .inl (.skipped htaken hrest)
      · refine .inr fun id hid => ?_
        rw [List.range'_succ, List.map_cons, List.mem_cons] at hid
        obtain rfl | hid := hid
        · exact htaken
        · exact hall id hid
    · rename_i hfree
      exact .inl (.found (Bool.eq_false_iff.2 hfree))

theorem firstFree_le (taken : String → Bool) (draw : Nat → String) (tries n : Nat) :
    firstFree taken draw tries n ≤ n + tries := by
  induction tries generalizing n with
  | zero => exact Nat.le_refl n
  | succ tries ih =>
    rw [firstFree]
    split
    · have hrest := ih (n + 1)
      omega
    · exact Nat.le_add_right n _

/-- Of distinct ids, one more than are taken, one is free. -/
theorem seeks_firstFree (ids : List String) (htaken : ∀ id, taken id = true → id ∈ ids)
    (hdraw : Distinct draw n (ids.length + 1)) :
    Seeks taken draw n (firstFree taken draw ids.length n) := by
  obtain hseeks | hall := seeks_firstFree_or taken draw ids.length n
  · exact hseeks
  · have hsub : (List.range' n (ids.length + 1)).map draw ⊆ ids :=
      fun id hid => htaken id (hall id hid)
    have hlength := (List.subperm_of_subset hdraw hsub).length_le
    rw [List.length_map, List.length_range'] at hlength
    exact absurd hlength (Nat.not_succ_le_self _)

theorem seeks_held {σ : Type} {session : ScopeContext} {start : Nat} {s : Store σ}
    (hdraw : Distinct draw start ((s.context session).conversations.size + 1)) :
    Seeks (s.context session).conversations.contains draw start
      (firstFree (s.context session).conversations.contains draw
        (s.context session).conversations.size start) := by
  let held := (s.context session).conversations
  have hsize : held.size = held.keys.length := (List.length_map ..).symm
  rw [hsize] at hdraw ⊢
  exact seeks_firstFree held.keys (fun id hid => Table.mem_keys_iff.2 hid) hdraw

theorem Seeks.conversation? {σ : Type} {session : ScopeContext} {start : Nat} {s : Store σ}
    (h : Seeks (s.context session).conversations.contains draw start last) :
    session.conversation? (draw last) s = none := by
  have hfree := (seeks_iff.1 h).2.1
  rwa [Table.contains, Option.isSome_eq_false_iff, Option.isNone_iff_eq_none] at hfree

end ScopeContext

end ContextualLifecycle
