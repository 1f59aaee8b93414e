import ContextualLifecycle.Proofs.Json.Tokens

namespace ContextualLifecycle.Json

def Number.tree (x : Number) : Tree := ((value? 1 x.text).map Prod.fst).getD .null

mutual

/-- The tree that the text of a value is read as. -/
def tree : Json → Tree
  | null => .null
  | bool b => .bool b
  | number x => x.tree
  | string s => .string (some s)
  | array items => .array (trees items)
  | object members => .object (memberTrees members)

def trees : List Json → List Tree
  | [] => []
  | item :: items => item.tree :: trees items

def memberTrees : List (String × Json) → List (Option String × Tree)
  | [] => []
  | (key, value) :: members => (some key, value.tree) :: memberTrees members

end

mutual

def Whole : Json → Prop
  | number x => x.IsWord
  | array items => ItemsWhole items
  | object members => MembersWhole members
  | _ => True

def ItemsWhole : List Json → Prop
  | [] => True
  | item :: items => item.Whole ∧ ItemsWhole items

def MembersWhole : List (String × Json) → Prop
  | [] => True
  | (_, value) :: members => value.Whole ∧ MembersWhole members

end

theorem itemsWhole_iff {items : List Json} : ItemsWhole items ↔ ∀ item ∈ items, item.Whole := by
  induction items with
  | nil => exact ⟨fun _ => List.forall_mem_nil _, fun _ => trivial⟩
  | cons item items ih => rw [ItemsWhole, ih, List.forall_mem_cons]

theorem skipBlanks_cons {c : Char} (hc : isBlank c = false) (cs : List Char) :
    skipBlanks (c :: cs) = c :: cs :=
  List.dropWhile_cons_of_neg (by simp [hc])

theorem ne_of_isDigit {c d : Char} (hc : c.isDigit = true) (hd : d.isDigit = false) : c ≠ d := by
  rintro rfl
  rw [hc] at hd
  cases hd

theorem isBlank_of_isDigit {c : Char} (hc : c.isDigit = true) : isBlank c = false := by
  simp only [isBlank, Bool.or_eq_false_iff, beq_eq_false_iff_ne]
  exact ⟨⟨⟨ne_of_isDigit hc rfl, ne_of_isDigit hc rfl⟩, ne_of_isDigit hc rfl⟩,
    ne_of_isDigit hc rfl⟩

theorem value?_digit {c : Char} (hc : c.isDigit = true) (n : Nat) (cs : List Char) :
    value? (n + 1) (c :: cs) = numeral? false (c :: cs) := by
  rw [value?, skipBlanks_cons (isBlank_of_isDigit hc)]
  split
  any_goals
    rename_i heq
    exact absurd (List.cons.inj heq).1 (ne_of_isDigit hc rfl)
  rfl

theorem value?_integer (i : Int) (n : Nat) (rest : List Char) (h : Ends rest) :
    value? (n + 1) ((Number.integer i).text ++ rest) = some (.number (Numeral.ofInt i), rest) := by
  cases i with
  | ofNat k =>
    have hread := numeral?_toDigits false k h
    cases hdigits : Nat.toDigits 10 k with
    | nil => exact absurd hdigits Nat.toDigits_ne_nil
    | cons d ds =>
      have hd : d.isDigit = true := Nat.isDigit_of_mem_toDigits (by decide) (by decide)
        (hdigits ▸ List.mem_cons_self)
      rw [hdigits] at hread
      rw [Number.text, Numeral.ofInt, hdigits, List.cons_append, value?_digit hd]
      exact hread
  | negSucc k =>
    rw [Number.text, List.cons_append, value?, skipBlanks_cons rfl]
    exact numeral?_toDigits true (k + 1) h

theorem Number.tree_integer (i : Int) : (Number.integer i).tree = .number (Numeral.ofInt i) := by
  have hread := value?_integer i 0 [] trivial
  rw [List.append_nil] at hread
  rw [Number.tree, hread]
  rfl

/-- The text of a value starts with a mark of its own. -/
theorem text_eq_cons {v : Json} (hv : v.Whole) :
    ∃ c cs, v.text = c :: cs ∧ isBlank c = false ∧ c ≠ ']' := by
  cases v with
  | null | string => exact ⟨_, _, rfl, rfl, by decide⟩
  | bool b => cases b <;> exact ⟨_, _, rfl, rfl, by decide⟩
  | array items => cases items <;> exact ⟨_, _, rfl, rfl, by decide⟩
  | object members => cases members <;> exact ⟨_, _, rfl, rfl, by decide⟩
  | number x =>
    cases x with
    | real x => exact absurd hv id
    | integer i =>
      cases i with
      | negSucc k => exact ⟨_, _, rfl, rfl, by decide⟩
      | ofNat k =>
        cases hdigits : Nat.toDigits 10 k with
        | nil => exact absurd hdigits Nat.toDigits_ne_nil
        | cons d ds =>
          have hd : d.isDigit = true := Nat.isDigit_of_mem_toDigits (by decide) (by decide)
            (hdigits ▸ List.mem_cons_self)
          refine ⟨d, ds, hdigits, isBlank_of_isDigit hd, ?_⟩
          rintro rfl
          cases hd

theorem ends_itemsText (items : List Json) (rest : List Char) : Ends (itemsText items ++ rest) := by
  cases items with
  | nil => exact .inr (.inl rfl)
  | cons item items => exact .inl rfl

theorem ends_membersText (members : List (String × Json)) (rest : List Char) :
    Ends (membersText members ++ rest) := by
  cases members with
  | nil => exact .inr (.inr rfl)
  | cons member members => exact .inl rfl

theorem value?_items {n : Nat} {cs rest : List Char} {items : List Tree} {c : Char}
    (hblank : isBlank c = false) (hc : c ≠ ']')
    (h : items? n (c :: cs) = some (items, rest)) :
    value? (n + 1) ('[' :: c :: cs) = some (.array items, rest) := by
  rw [value?, skipBlanks_cons rfl]
  simp only [skipBlanks_cons hblank]
  split
  · rename_i heq
    exact absurd (List.cons.inj heq).1 hc
  · rw [h]
    rfl

theorem value?_members {n : Nat} {cs rest : List Char} {members : List (Option String × Tree)}
    (h : members? n ('"' :: cs) = some (members, rest)) :
    value? (n + 1) ('\x7b' :: '"' :: cs) = some (.object members, rest) := by
  rw [value?, skipBlanks_cons rfl]
  simp only [skipBlanks_cons (c := '"') rfl]
  change Option.map _ (members? n ('"' :: cs)) = _
  rw [h]
  rfl

theorem members?_cons (key : String) (n : Nat) (valueText more rest : List Char) :
    members? (n + 1) (stringText key ++ ':' :: valueText ++ more ++ rest) = (do
      let (value, rest) ← value? n (valueText ++ (more ++ rest))
      match skipBlanks rest with
      | ',' :: rest =>
        let (members, rest) ← members? n rest
        return ((some key, value) :: members, rest)
      | '\x7d' :: rest => return ([(some key, value)], rest)
      | _ => none) := by
  rw [members?, stringText]
  simp only [List.cons_append, List.append_assoc, List.nil_append,
    skipBlanks_cons (c := '"') rfl, string?_escaped, String.ofList_toList]
  rfl

mutual

/-- The text of a value is parsed into its tree. -/
theorem value?_text : (v : Json) → v.Whole → (n : Nat) → (rest : List Char) →
    v.text.length ≤ n → Ends rest → value? n (v.text ++ rest) = some (v.tree, rest)
  | v, hv, 0, _, hn, _ => by
    obtain ⟨c, cs, htext, _⟩ := text_eq_cons hv
    rw [htext] at hn
    exact absurd hn (Nat.not_succ_le_zero _)
  | null, _, n + 1, rest, _, _ => rfl
  | bool true, _, n + 1, rest, _, _ => rfl
  | bool false, _, n + 1, rest, _, _ => rfl
  | number (.integer i), _, n + 1, rest, _, h => by
    rw [text, tree, Number.tree_integer]
    exact value?_integer i n _ h
  | number (.real x), hx, _, _, _, _ => absurd hx id
  | string s, _, n + 1, rest, _, _ => by
    rw [text, stringText, List.cons_append, List.cons_append, List.append_assoc,
      List.singleton_append, value?, skipBlanks_cons rfl]
    simp only [string?_escaped, Option.map_some, String.ofList_toList]
    rfl
  | array [], _, n + 1, rest, _, _ => rfl
  | array (item :: items), hv, n + 1, rest, hn, _ => by
    obtain ⟨c, cs, htext, hblank, hc⟩ := text_eq_cons hv.1
    have hread := items?_text item items hv.1 hv.2 n rest (by simpa [text] using hn)
    rw [htext, List.cons_append, List.cons_append] at hread
    rw [text, htext]
    exact value?_items hblank hc hread
  | object [], _, n + 1, rest, _, _ => rfl
  | object ((key, value) :: members), hv, n + 1, rest, hn, _ => by
    have hread := members?_text key value members hv.1 hv.2 n rest (by simpa [text] using hn)
    exact value?_members hread
termination_by v => sizeOf v

theorem items?_text : (item : Json) → (items : List Json) → item.Whole → ItemsWhole items →
    (n : Nat) → (rest : List Char) → (item.text ++ itemsText items).length ≤ n →
    items? n (item.text ++ itemsText items ++ rest) = some (item.tree :: trees items, rest)
  | item, items, hitem, _, 0, _, hn => by
    obtain ⟨c, cs, htext, _⟩ := text_eq_cons hitem
    rw [htext] at hn
    exact absurd hn (Nat.not_succ_le_zero _)
  | item, [], hitem, _, n + 1, rest, hn => by
    have hread := value?_text item hitem n (itemsText [] ++ rest)
      (by simpa [itemsText] using hn) (ends_itemsText _ _)
    rw [List.append_assoc, items?, hread]
    rfl
  | item, next :: items, hitem, hitems, n + 1, rest, hn => by
    have hread := value?_text item hitem n (itemsText (next :: items) ++ rest)
      (by simp [itemsText] at hn; omega) (ends_itemsText _ _)
    have hmore := items?_text next items hitems.1 hitems.2 n rest
      (by simp [itemsText] at hn ⊢; omega)
    rw [List.append_assoc, items?, hread]
    simp only [itemsText, List.cons_append, Option.bind_eq_bind, Option.bind_some,
      skipBlanks_cons (c := ',') rfl, hmore]
    rfl
termination_by item items => sizeOf (item :: items)

theorem members?_text : (key : String) → (value : Json) → (members : List (String × Json)) →
    value.Whole → MembersWhole members → (n : Nat) → (rest : List Char) →
    (stringText key ++ ':' :: value.text ++ membersText members).length ≤ n →
    members? n (stringText key ++ ':' :: value.text ++ membersText members ++ rest) =
      some ((some key, value.tree) :: memberTrees members, rest)
  | key, value, members, hvalue, _, 0, _, hn => by
    exact absurd hn (Nat.not_succ_le_zero _)
  | key, value, [], hvalue, _, n + 1, rest, hn => by
    have hread := value?_text value hvalue n (membersText [] ++ rest)
      (by simp [stringText, membersText] at hn; omega) (ends_membersText _ _)
    rw [members?_cons, hread]
    rfl
  | key, value, (next, value') :: members, hvalue, hmembers, n + 1, rest, hn => by
    have hread := value?_text value hvalue n (membersText ((next, value') :: members) ++ rest)
      (by simp [stringText, membersText] at hn; omega) (ends_membersText _ _)
    have hmore := members?_text next value' members hmembers.1 hmembers.2 n rest
      (by simp [stringText, membersText] at hn ⊢; omega)
    rw [members?_cons, hread]
    simp only [membersText, List.cons_append, Option.bind_eq_bind, Option.bind_some,
      skipBlanks_cons (c := ',') rfl, hmore]
    rfl
termination_by key value members => sizeOf ((key, value) :: members)

end

theorem Tree.ofText?_text {v : Json} (hv : v.Whole) : Tree.ofText? v.text = some v.tree := by
  have hread := value?_text v hv (2 * v.text.length + 2) [] (by omega) trivial
  rw [List.append_nil] at hread
  rw [Tree.ofText?, hread]
  rfl

end ContextualLifecycle.Json
