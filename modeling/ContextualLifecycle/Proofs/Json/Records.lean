import ContextualLifecycle.Proofs.Json.Denoted

namespace ContextualLifecycle.Json

theorem isWord_toNat (w : UInt64) : (Number.integer w.toNat).IsWord :=
  ⟨by omega, Int.ofNat_lt.2 w.toNat_lt⟩

theorem word?_tree_ofNat (w : UInt64) : (ofNat w.toNat).tree.word? = some w := by
  rw [ofNat, tree, Number.tree_integer, Tree.word?, Numeral.number?_ofInt (isWord_toNat w)]
  exact congrArg some (UInt64.ofNat_toNat)

namespace Fields

theorem mapM_memberTrees (members : List (String × Json)) :
    (memberTrees members).mapM (fun (key, value) => key.map fun key => (key, value)) =
      some (members.map fun member => (member.1, member.2.tree)) := by
  induction members with
  | nil => rfl
  | cons member members ih =>
    rw [memberTrees, List.mapM_cons, ih]
    rfl

theorem filter_memberTrees (members : List (String × Json)) :
    (members.map fun member => (member.1, member.2.tree)).filter
      (fun (key, _) => (members.map Prod.fst).contains key) =
        members.map fun member => (member.1, member.2.tree) := by
  refine List.filter_eq_self.2 fun found hfound => ?_
  obtain ⟨member, hmember, rfl⟩ := List.mem_map.1 hfound
  exact List.contains_iff_mem.2 (List.mem_map_of_mem hmember)

theorem ofTree?_memberTrees (names : List String) (members : List (String × Json)) (room : Nat)
    (hkeys : members.map Prod.fst = names) (hnodup : names.Nodup) :
    Fields.ofTree? names (.object (memberTrees members)) (room + 1) =
      some ⟨true, members.map fun member => (member.1, member.2.tree), room⟩ := by
  subst hkeys
  have hkeys : (members.map fun member => (member.1, member.2.tree)).map Prod.fst =
      members.map Prod.fst := List.map_map
  simp only [Fields.ofTree?, mapM_memberTrees, Option.bind_eq_bind, Option.bind_some,
    filter_memberTrees, hkeys, hnodup, decide_true, guard]
  rfl

theorem room_of_ofTree? {names : List String} {tree : Tree} {room : Nat} {fields : Fields}
    (h : Fields.ofTree? names tree room = some fields) : room = fields.room + 1 := by
  cases room with
  | zero => cases tree <;> cases h
  | succ room =>
    cases tree with
    | object members =>
      simp only [Fields.ofTree?, Option.bind_eq_bind, Option.bind_eq_some_iff, Option.pure_def,
        Option.some.injEq] at h
      obtain ⟨_, _, _, _, rfl⟩ := h
      rfl
    | array items =>
      simp only [Fields.ofTree?, Option.bind_eq_bind, Option.bind_eq_some_iff, Option.pure_def,
        Option.some.injEq] at h
      obtain ⟨_, _, rfl⟩ := h
      rfl
    | _ => cases h

theorem defaulted?_of_lookup {α : Type} {fields : Fields} {name : String} {default : α}
    {read : Tree → Option α} {tree : Tree} (h : fields.found.lookup name = some tree) :
    fields.defaulted? name default read = read tree := by
  rw [defaulted?, h]

end Fields

end ContextualLifecycle.Json
