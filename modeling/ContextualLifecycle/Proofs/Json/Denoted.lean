import ContextualLifecycle.Proofs.Json.Printed

namespace ContextualLifecycle.Json

mutual

/-- The members of objects are in ascending order of their keys, one member a key. -/
def Ordered : Json → Prop
  | array items => ItemsOrdered items
  | object members => (members.map Prod.fst).Pairwise (· < ·) ∧ MembersOrdered members
  | _ => True

def ItemsOrdered : List Json → Prop
  | [] => True
  | item :: items => item.Ordered ∧ ItemsOrdered items

def MembersOrdered : List (String × Json) → Prop
  | [] => True
  | (_, value) :: members => value.Ordered ∧ MembersOrdered members

end

mutual

/-- How many containers are open at once. -/
def depth : Json → Nat
  | array items => depthOfItems items + 1
  | object members => depthOfMembers members + 1
  | _ => 0

def depthOfItems : List Json → Nat
  | [] => 0
  | item :: items => max item.depth (depthOfItems items)

def depthOfMembers : List (String × Json) → Nat
  | [] => 0
  | (_, value) :: members => max value.depth (depthOfMembers members)

end

theorem membersOrdered_iff {members : List (String × Json)} :
    MembersOrdered members ↔ ∀ member ∈ members, member.2.Ordered := by
  induction members with
  | nil => exact ⟨fun _ => List.forall_mem_nil _, fun _ => trivial⟩
  | cons member members ih => rw [MembersOrdered, ih, List.forall_mem_cons]

theorem depthOfItems_le {items : List Json} {n : Nat} :
    depthOfItems items ≤ n ↔ ∀ item ∈ items, item.depth ≤ n := by
  induction items with
  | nil => exact ⟨fun _ => List.forall_mem_nil _, fun _ => Nat.zero_le _⟩
  | cons item items ih => rw [depthOfItems, Nat.max_le, ih, List.forall_mem_cons]

theorem room_of_depth_object {members : List (String × Json)} {room : Nat}
    (h : (object members).depth ≤ room) : ∃ inner, room = inner + 1 :=
  Nat.exists_eq_add_one.2 (Nat.lt_of_lt_of_le (Nat.succ_pos _) h)

theorem depth_object_le {members : List (String × Json)} {n : Nat} :
    (object members).depth ≤ n + 1 ↔ ∀ member ∈ members, member.2.depth ≤ n := by
  rw [depth, Nat.add_le_add_iff_right]
  induction members with
  | nil => exact ⟨fun _ => List.forall_mem_nil _, fun _ => Nat.zero_le _⟩
  | cons member members ih => rw [depthOfMembers, Nat.max_le, ih, List.forall_mem_cons]

theorem insertMember_of_last {key : String} {sorted : List (String × Json)}
    (h : ∀ member ∈ sorted, member.1 < key) (value : Json) :
    insertMember key value sorted = sorted ++ [(key, value)] := by
  induction sorted with
  | nil => rfl
  | cons member sorted ih =>
    have hkey : member.1 < key := h member List.mem_cons_self
    have hne : key ≠ member.1 := fun heq => String.lt_irrefl _ (heq ▸ hkey)
    rw [insertMember, if_neg (String.lt_asymm hkey), if_neg hne,
      ih fun m hm => h m (List.mem_cons_of_mem _ hm)]
    rfl

theorem ofMembers_of_ascending {members : List (String × Json)}
    (h : (members.map Prod.fst).Pairwise (· < ·)) : ofMembers members = object members := by
  have happend : ∀ sorted : List (String × Json),
      ((sorted ++ members).map Prod.fst).Pairwise (· < ·) →
      members.foldl (fun sorted member => insertMember member.1 member.2 sorted) sorted =
        sorted ++ members := by
    clear h
    induction members with
    | nil => exact fun sorted _ => (List.append_nil sorted).symm
    | cons member members ih =>
      intro sorted hsorted
      obtain ⟨key, value⟩ := member
      have hlast : ∀ m ∈ sorted, m.1 < key := by
        intro m hm
        rw [List.map_append, List.pairwise_append] at hsorted
        exact hsorted.2.2 m.1 (List.mem_map_of_mem hm) key List.mem_cons_self
      rw [List.foldl_cons]
      dsimp only
      rw [insertMember_of_last hlast, ih]
      · rw [List.append_assoc, List.singleton_append]
      · rw [List.append_assoc, List.singleton_append]
        exact hsorted
  rw [ofMembers, happend [] h, List.nil_append]

theorem mem_insertMember {key : String} {value : Json} {sorted : List (String × Json)}
    {member : String × Json} (h : member ∈ insertMember key value sorted) :
    member = (key, value) ∨ member ∈ sorted := by
  induction sorted with
  | nil => exact .inl (List.mem_singleton.1 h)
  | cons m sorted ih =>
    rw [insertMember] at h
    split at h
    · exact List.mem_cons.1 h
    · split at h
      · exact (List.mem_cons.1 h).imp id (List.mem_cons_of_mem _)
      · obtain h | h := List.mem_cons.1 h
        · exact .inr (h ▸ List.mem_cons_self)
        · exact (ih h).imp id (List.mem_cons_of_mem _)

theorem insertMember_ascending {sorted : List (String × Json)}
    (h : (sorted.map Prod.fst).Pairwise (· < ·)) (key : String) (value : Json) :
    ((insertMember key value sorted).map Prod.fst).Pairwise (· < ·) := by
  induction sorted with
  | nil => exact List.pairwise_singleton _ _
  | cons m sorted ih =>
    rw [List.map_cons, List.pairwise_cons] at h
    rw [insertMember]
    split
    · rename_i hlt
      rw [List.map_cons, List.map_cons, List.pairwise_cons, List.pairwise_cons]
      refine ⟨fun k hk => ?_, h⟩
      obtain rfl | hk := List.mem_cons.1 hk
      · exact hlt
      · exact String.lt_trans hlt (h.1 k hk)
    · rename_i hnlt
      split
      · rename_i heq
        rw [List.map_cons, List.pairwise_cons]
        exact ⟨heq ▸ h.1, h.2⟩
      · rename_i hne
        have hlt : m.1 < key :=
          String.not_le.1 fun hle => hne (String.le_antisymm hle (String.not_lt.1 hnlt))
        rw [List.map_cons, List.pairwise_cons]
        refine ⟨fun k hk => ?_, ih h.2⟩
        obtain ⟨member, hmember, rfl⟩ := List.mem_map.1 hk
        obtain rfl | hmember := mem_insertMember hmember
        · exact hlt
        · exact h.1 _ (List.mem_map_of_mem hmember)

theorem ofMembers_ordered {members : List (String × Json)}
    (h : ∀ member ∈ members, member.2.Ordered) : (ofMembers members).Ordered := by
  have hsorted : ∀ sorted : List (String × Json),
      (sorted.map Prod.fst).Pairwise (· < ·) → (∀ member ∈ sorted, member.2.Ordered) →
      (object (members.foldl (fun sorted member => insertMember member.1 member.2 sorted)
        sorted)).Ordered := by
    induction members with
    | nil => exact fun sorted hkeys hvalues => ⟨hkeys, membersOrdered_iff.2 hvalues⟩
    | cons member members ih =>
      intro sorted hkeys hvalues
      refine ih (fun m hm => h m (List.mem_cons_of_mem _ hm)) _
        (insertMember_ascending hkeys _ _) fun m hm => ?_
      obtain rfl | hm := mem_insertMember hm
      · exact h member List.mem_cons_self
      · exact hvalues m hm
  exact hsorted [] List.Pairwise.nil (List.forall_mem_nil _)

theorem depthOfMembers_insertMember (key : String) (value : Json)
    (sorted : List (String × Json)) :
    depthOfMembers (insertMember key value sorted) ≤ max value.depth (depthOfMembers sorted) := by
  induction sorted with
  | nil => exact Nat.le_refl _
  | cons m sorted ih =>
    rw [insertMember]
    split
    · exact Nat.le_refl _
    · split
      · simp only [depthOfMembers]
        omega
      · simp only [depthOfMembers]
        omega

theorem depth_ofMembers {members : List (String × Json)} {room : Nat}
    (h : ∀ member ∈ members, member.2.depth ≤ room) : (ofMembers members).depth ≤ room + 1 := by
  have hsorted : ∀ sorted : List (String × Json), depthOfMembers sorted ≤ room →
      depthOfMembers (members.foldl (fun sorted member => insertMember member.1 member.2 sorted)
        sorted) ≤ room := by
    induction members with
    | nil => exact fun _ h => h
    | cons member members ih =>
      intro sorted hsorted
      exact ih (fun m hm => h m (List.mem_cons_of_mem _ hm)) _
        (Nat.le_trans (depthOfMembers_insertMember _ _ _)
          (Nat.max_le.2 ⟨h member List.mem_cons_self, hsorted⟩))
  exact Nat.succ_le_succ (hsorted [] (Nat.zero_le _))

mutual

/-- The tree of a value denotes it. -/
theorem value?_tree : (v : Json) → v.Whole → v.Ordered → ∀ room, v.depth ≤ room →
    v.tree.value? room = some v
  | null, _, _, _, _ => rfl
  | bool _, _, _, _, _ => rfl
  | number (.integer i), hi, _, room, _ => by
    rw [tree, Number.tree_integer, Tree.value?, Numeral.number?_ofInt hi]
    rfl
  | number (.real _), hx, _, _, _ => absurd hx id
  | string s, _, _, _, _ => rfl
  | array items, hv, ho, room, hroom => by
    cases room with
    | zero => exact absurd hroom (Nat.not_succ_le_zero _)
    | succ room =>
      rw [tree, Tree.value?, itemValues?_trees items hv ho room (Nat.le_of_succ_le_succ hroom)]
      rfl
  | object members, hv, ho, room, hroom => by
    cases room with
    | zero => exact absurd hroom (Nat.not_succ_le_zero _)
    | succ room =>
      rw [tree, Tree.value?,
        memberValues?_memberTrees members hv ho.2 room (Nat.le_of_succ_le_succ hroom),
        Option.map_some, ofMembers_of_ascending ho.1]

theorem itemValues?_trees : (items : List Json) → ItemsWhole items → ItemsOrdered items →
    ∀ room, depthOfItems items ≤ room → Tree.itemValues? (trees items) room = some items
  | [], _, _, _, _ => rfl
  | item :: items, hv, ho, room, hroom => by
    obtain ⟨hitem, hitems⟩ := Nat.max_le.1 hroom
    rw [trees, Tree.itemValues?, value?_tree item hv.1 ho.1 room hitem,
      itemValues?_trees items hv.2 ho.2 room hitems]
    rfl

theorem memberValues?_memberTrees : (members : List (String × Json)) → MembersWhole members →
    MembersOrdered members → ∀ room, depthOfMembers members ≤ room →
    Tree.memberValues? (memberTrees members) room = some members
  | [], _, _, _, _ => rfl
  | (key, value) :: members, hv, ho, room, hroom => by
    obtain ⟨hvalue, hmembers⟩ := Nat.max_le.1 hroom
    rw [memberTrees, Tree.memberValues?, value?_tree value hv.1 ho.1 room hvalue,
      memberValues?_memberTrees members hv.2 ho.2 room hmembers]
    rfl

end

mutual

theorem Tree.ordered_of_value? : (t : Tree) → ∀ {room v}, t.value? room = some v →
    v.Ordered ∧ v.depth ≤ room
  | .null, _, _, h => by
    cases h
    exact ⟨trivial, Nat.zero_le _⟩
  | .bool _, _, _, h => by
    cases h
    exact ⟨trivial, Nat.zero_le _⟩
  | .number n, room, v, h => by
    obtain ⟨x, _, rfl⟩ := Option.map_eq_some_iff.1 h
    exact ⟨trivial, Nat.zero_le _⟩
  | .string s, room, v, h => by
    obtain ⟨x, _, rfl⟩ := Option.map_eq_some_iff.1 h
    exact ⟨trivial, Nat.zero_le _⟩
  | .array _, 0, _, h => nomatch h
  | .array items, room + 1, v, h => by
    obtain ⟨values, hvalues, rfl⟩ := Option.map_eq_some_iff.1 h
    obtain ⟨hordered, hdepth⟩ := Tree.ordered_of_itemValues? items hvalues
    exact ⟨hordered, Nat.succ_le_succ hdepth⟩
  | .object _, 0, _, h => nomatch h
  | .object members, room + 1, v, h => by
    obtain ⟨values, hvalues, rfl⟩ := Option.map_eq_some_iff.1 h
    have hmembers := Tree.ordered_of_memberValues? members hvalues
    exact ⟨ofMembers_ordered fun m hm => (hmembers m hm).1,
      depth_ofMembers fun m hm => (hmembers m hm).2⟩

theorem Tree.ordered_of_itemValues? : (ts : List Tree) → ∀ {room vs},
    Tree.itemValues? ts room = some vs → ItemsOrdered vs ∧ depthOfItems vs ≤ room
  | [], _, _, h => by
    cases h
    exact ⟨trivial, Nat.zero_le _⟩
  | t :: ts, room, vs, h => by
    simp only [Tree.itemValues?, Option.bind_eq_bind, Option.bind_eq_some_iff,
      Option.pure_def, Option.some.injEq] at h
    obtain ⟨v, hv, vs, hvs, rfl⟩ := h
    obtain ⟨hordered, hdepth⟩ := t.ordered_of_value? hv
    obtain ⟨hordereds, hdepths⟩ := Tree.ordered_of_itemValues? ts hvs
    exact ⟨⟨hordered, hordereds⟩, Nat.max_le.2 ⟨hdepth, hdepths⟩⟩

theorem Tree.ordered_of_memberValues? : (ts : List (Option String × Tree)) → ∀ {room vs},
    Tree.memberValues? ts room = some vs → ∀ m ∈ vs, m.2.Ordered ∧ m.2.depth ≤ room
  | [], _, _, h => by
    cases h
    exact List.forall_mem_nil _
  | (key, t) :: ts, room, vs, h => by
    simp only [Tree.memberValues?, Option.bind_eq_bind, Option.bind_eq_some_iff,
      Option.pure_def, Option.some.injEq] at h
    obtain ⟨key, _, v, hv, vs, hvs, rfl⟩ := h
    exact List.forall_mem_cons.2 ⟨t.ordered_of_value? hv, Tree.ordered_of_memberValues? ts hvs⟩

end

theorem Tree.room_of_items? {t : Tree} {items : List Tree} {room inner : Nat}
    (h : t.items? room = some (items, inner)) : room = inner + 1 := by
  cases t with
  | array _ =>
    cases room with
    | zero => cases h
    | succ room =>
      cases h
      rfl
  | _ => cases h

end ContextualLifecycle.Json
