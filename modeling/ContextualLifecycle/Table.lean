namespace ContextualLifecycle

structure Table (κ α : Type) where
  rows : List (κ × α)
  nodup : (rows.map Prod.fst).Nodup

namespace Table

variable {κ α : Type} [DecidableEq κ]

def find? (key : κ) : List (κ × α) → Option α
  | [] => none
  | (k, v) :: rows => if k = key then some v else find? key rows

/-- Rows with the row of a key replaced in its place, or added at the end. -/
def put (key : κ) (value : α) : List (κ × α) → List (κ × α)
  | [] => [(key, value)]
  | (k, v) :: rows => if k = key then (key, value) :: rows else (k, v) :: put key value rows

theorem mem_keys_put {key k : κ} {value : α} {rows : List (κ × α)} :
    k ∈ (put key value rows).map Prod.fst ↔ k = key ∨ k ∈ rows.map Prod.fst := by
  induction rows with
  | nil => simp [put]
  | cons row rows ih =>
    rw [put]
    split
    · rename_i h
      simp [h]
    · simp only [List.map_cons, List.mem_cons, ih]
      exact ⟨fun h => by rcases h with h | h | h <;> simp [h],
        fun h => by rcases h with h | h | h <;> simp [h]⟩

theorem nodup_put {key : κ} {value : α} {rows : List (κ × α)}
    (h : (rows.map Prod.fst).Nodup) : ((put key value rows).map Prod.fst).Nodup := by
  induction rows with
  | nil => simp [put]
  | cons row rows ih =>
    rw [put]
    simp only [List.map_cons, List.nodup_cons] at h
    split
    · rename_i hk
      subst hk
      simpa using h
    · rename_i hk
      simp only [List.map_cons, List.nodup_cons, mem_keys_put, not_or]
      exact ⟨⟨hk, h.1⟩, ih h.2⟩

def empty : Table κ α := ⟨[], List.nodup_nil⟩

instance : EmptyCollection (Table κ α) := ⟨empty⟩

instance : Inhabited (Table κ α) := ⟨empty⟩

def get? (t : Table κ α) (key : κ) : Option α := find? key t.rows

def contains (t : Table κ α) (key : κ) : Bool := (t.get? key).isSome

def insert (t : Table κ α) (key : κ) (value : α) : Table κ α :=
  ⟨put key value t.rows, nodup_put t.nodup⟩

def erase (t : Table κ α) (key : κ) : Table κ α :=
  ⟨t.rows.filter fun row => row.1 ≠ key,
    t.nodup.sublist (List.filter_sublist.map Prod.fst)⟩

def keys (t : Table κ α) : List κ := t.rows.map Prod.fst

def values (t : Table κ α) : List α := t.rows.map Prod.snd

def size (t : Table κ α) : Nat := t.rows.length

def findKey? (t : Table κ α) (test : α → Bool) : Option κ :=
  (t.rows.find? fun row => test row.2).map Prod.fst

theorem find?_put {key k : κ} {value : α} {rows : List (κ × α)} :
    find? k (put key value rows) = if k = key then some value else find? k rows := by
  induction rows with
  | nil =>
    by_cases h : key = k
    · simp [put, find?, h]
    · simp [put, find?, h, Ne.symm h]
  | cons row rows ih =>
    obtain ⟨k', v'⟩ := row
    rw [put]
    split
    · rename_i h
      subst h
      by_cases hk : k' = k
      · simp [find?, hk]
      · simp [find?, hk, Ne.symm hk]
    · rename_i h
      simp only [find?, ih]
      by_cases hk : k' = k
      · subst hk
        simp [h]
      · simp [hk]

theorem find?_filter {key k : κ} {rows : List (κ × α)} :
    find? k (rows.filter fun row => row.1 ≠ key) = if k = key then none else find? k rows := by
  induction rows with
  | nil => simp [find?]
  | cons row rows ih =>
    by_cases h : row.1 = key
    · rw [List.filter_cons_of_neg (by simpa using h), ih]
      by_cases hk : k = key
      · simp [hk]
      · simp [hk, find?, h, Ne.symm hk]
    · rw [List.filter_cons_of_pos (by simpa using h)]
      simp only [find?, ih]
      by_cases hr : row.1 = k
      · subst hr
        simp [h]
      · simp [hr]

@[simp]
theorem get?_empty (key : κ) : (∅ : Table κ α).get? key = none := rfl

@[simp]
theorem get?_insert (t : Table κ α) (key k : κ) (value : α) :
    (t.insert key value).get? k = if k = key then some value else t.get? k :=
  find?_put

@[simp]
theorem get?_erase (t : Table κ α) (key k : κ) :
    (t.erase key).get? k = if k = key then none else t.get? k :=
  find?_filter

theorem mem_of_find? {key : κ} {value : α} {rows : List (κ × α)}
    (h : find? key rows = some value) : (key, value) ∈ rows := by
  induction rows with
  | nil => simp [find?] at h
  | cons row rows ih =>
    rw [find?] at h
    split at h
    · rename_i hk
      obtain rfl := Option.some.inj h
      exact hk ▸ List.mem_cons_self
    · exact List.mem_cons_of_mem _ (ih h)

theorem find?_of_mem {key : κ} {value : α} {rows : List (κ × α)}
    (hn : (rows.map Prod.fst).Nodup) (h : (key, value) ∈ rows) : find? key rows = some value := by
  induction rows with
  | nil => simp at h
  | cons row rows ih =>
    simp only [List.map_cons, List.nodup_cons] at hn
    rw [find?]
    rcases List.mem_cons.1 h with rfl | h
    · simp
    · rw [if_neg, ih hn.2 h]
      rintro rfl
      exact hn.1 (List.mem_map.2 ⟨_, h, rfl⟩)

theorem get?_eq_some_iff {t : Table κ α} {key : κ} {value : α} :
    t.get? key = some value ↔ (key, value) ∈ t.rows :=
  ⟨mem_of_find?, find?_of_mem t.nodup⟩

theorem mem_keys_iff {t : Table κ α} {key : κ} : key ∈ t.keys ↔ (t.get? key).isSome := by
  rw [keys, List.mem_map, Option.isSome_iff_exists]
  exact ⟨fun ⟨row, h, hk⟩ => ⟨row.2, get?_eq_some_iff.2 (hk ▸ h)⟩,
    fun ⟨value, h⟩ => ⟨(key, value), get?_eq_some_iff.1 h, rfl⟩⟩

end Table

end ContextualLifecycle
