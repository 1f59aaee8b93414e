import ContextualLifecycle.Proofs.Json.Records
import ContextualLifecycle.Snapshot.Basic

namespace ContextualLifecycle

structure SnapshotFormat (α : Type) where
  write : α → Json
  read? : Json.Tree → (room : Nat) → Option α
  /-- The states of the instances that a snapshot tells of. -/
  states : α → List Json

namespace SnapshotFormat

variable {α : Type}

def text (f : SnapshotFormat α) (x : α) : String := (f.write x).print

/-- With so much room, what is written is read again, and what is read fits when it is written. -/
structure Faithful (f : SnapshotFormat α) (room : Nat) : Prop where
  whole : ∀ x, (f.write x).depth ≤ room → (∀ v ∈ f.states x, v.Whole) → (f.write x).Whole
  reads : ∀ x, (f.write x).depth ≤ room → (∀ v ∈ f.states x, v.Whole) →
    (∀ v ∈ f.states x, v.Ordered) → f.read? (f.write x).tree room = some x
  fits : ∀ tree x, f.read? tree room = some x →
    (f.write x).depth ≤ room ∧ ∀ v ∈ f.states x, v.Ordered

def many (f : SnapshotFormat α) : SnapshotFormat (List α) where
  write xs := .array (xs.map f.write)
  read? tree room := (tree.items? room).bind fun (items, room) => items.mapM (f.read? · room)
  states xs := xs.flatMap f.states

theorem Faithful.many {f : SnapshotFormat α} {room : Nat}
    (hf : ∀ inner, room = inner + 1 → f.Faithful inner) : f.many.Faithful room where
  whole xs hdepth hwhole := by
    obtain ⟨inner, rfl⟩ := Nat.exists_eq_add_one.2 (Nat.lt_of_lt_of_le (Nat.succ_pos _) hdepth)
    have hitems := Json.depthOfItems_le.1 (Nat.le_of_succ_le_succ hdepth)
    refine Json.itemsWhole_iff.2 fun item hitem => ?_
    have hroom := hitems item hitem
    obtain ⟨x, hx, rfl⟩ := List.mem_map.1 hitem
    exact (hf inner rfl).whole x hroom fun v hv => hwhole v (List.mem_flatMap_of_mem hx hv)
  reads xs hdepth hwhole hordered := by
    obtain ⟨inner, rfl⟩ := Nat.exists_eq_add_one.2 (Nat.lt_of_lt_of_le (Nat.succ_pos _) hdepth)
    have hitems := Json.depthOfItems_le.1 (Nat.le_of_succ_le_succ hdepth)
    have hread : ∀ x ∈ xs, f.read? (f.write x).tree inner = some x := fun x hx =>
      (hf inner rfl).reads x (hitems _ (List.mem_map_of_mem hx))
        (fun v hv => hwhole v (List.mem_flatMap_of_mem hx hv))
        fun v hv => hordered v (List.mem_flatMap_of_mem hx hv)
    have hall : (Json.trees (xs.map f.write)).mapM (f.read? · inner) = some xs := by
      clear hdepth hwhole hordered hitems
      induction xs with
      | nil => rfl
      | cons x xs ih =>
        rw [List.forall_mem_cons] at hread
        rw [List.map_cons, Json.trees, List.mapM_cons, hread.1, ih hread.2]
        rfl
    exact hall
  fits tree xs h := by
    obtain ⟨⟨items, inner⟩, hitems, hall⟩ := Option.bind_eq_some_iff.1 h
    have hroom : room = inner + 1 := Json.Tree.room_of_items? hitems
    have hfits : ∀ x ∈ xs, (f.write x).depth ≤ inner ∧ ∀ v ∈ f.states x, v.Ordered := by
      clear h hitems
      induction items generalizing xs with
      | nil =>
        cases hall
        exact List.forall_mem_nil _
      | cons item items ih =>
        simp only [List.mapM_cons, Option.bind_eq_bind, Option.bind_eq_some_iff, Option.pure_def,
          Option.some.injEq] at hall
        obtain ⟨x, hx, xs, hxs, rfl⟩ := hall
        exact List.forall_mem_cons.2 ⟨(hf inner hroom).fits item x hx, ih xs hxs⟩
    subst hroom
    constructor
    · refine Nat.succ_le_succ (Json.depthOfItems_le.2 fun item hitem => ?_)
      obtain ⟨x, hx, rfl⟩ := List.mem_map.1 hitem
      exact (hfits x hx).1
    · intro v hv
      obtain ⟨x, hx, hv⟩ := List.mem_flatMap.1 hv
      exact (hfits x hx).2 v hv

end SnapshotFormat

def DependentSnapshot.format : SnapshotFormat DependentSnapshot where
  write := toJson
  read? := ofTree?
  states d := [d.state]

def EpisodeSnapshot.format : SnapshotFormat EpisodeSnapshot where
  write := toJson
  read? := ofTree?
  states e := DependentSnapshot.format.many.states e.dependents

def EntrySnapshot.format : SnapshotFormat EntrySnapshot where
  write := toJson
  read? := ofTree?
  states e := e.state :: EpisodeSnapshot.format.states e.episode

namespace DependentSnapshot

theorem depth_toJson_le {d : DependentSnapshot} {n : Nat} :
    d.toJson.depth ≤ n + 1 ↔ d.state.depth ≤ n := by
  rw [toJson, Json.depth_object_le]
  simp [Json.depth]

theorem ofTree?_toJson (d : DependentSnapshot) (room : Nat) :
    ofTree? d.toJson.tree (room + 1) =
      (d.state.tree.value? room).bind fun state => some ⟨d.contextual, state⟩ := by
  have hfields := Json.Fields.ofTree?_memberTrees ["contextual", "state"]
    [("contextual", .string d.contextual), ("state", d.state)] room rfl (by decide)
  rw [ofTree?, toJson, Json.tree, hfields]
  dsimp only [List.map, Json.tree, Json.Fields.required?, Option.pure_def,
    Option.bind_eq_bind, Option.bind_some, List.lookup_cons, Json.Tree.text?, String.reduceBEq]

theorem faithful (room : Nat) : format.Faithful room where
  whole d _ hwhole := ⟨trivial, hwhole _ (List.mem_singleton_self _), trivial⟩
  reads d hdepth hwhole hordered := by
    obtain ⟨room, rfl⟩ := Json.room_of_depth_object hdepth
    have hstate : d.state.tree.value? room = some d.state :=
      Json.value?_tree d.state (hwhole _ (List.mem_singleton_self _))
        (hordered _ (List.mem_singleton_self _)) room (depth_toJson_le.1 hdepth)
    exact (ofTree?_toJson d room).trans (by rw [hstate]; rfl)
  fits tree d h := by
    simp only [format, ofTree?, Json.Fields.required?, Option.bind_eq_bind,
      Option.bind_eq_some_iff, Option.pure_def, Option.some.injEq] at h
    obtain ⟨fields, hfields, contextual, _, state, ⟨_, _, hstate⟩, rfl⟩ := h
    obtain ⟨hordered, hdepth⟩ := Json.Tree.ordered_of_value? _ hstate
    rw [Json.Fields.room_of_ofTree? hfields]
    exact ⟨depth_toJson_le.2 hdepth, List.forall_mem_singleton.2 hordered⟩

theorem many_faithful (room : Nat) : format.many.Faithful room :=
  .many fun inner _ => faithful inner

end DependentSnapshot

namespace EpisodeSnapshot

theorem depth_toJson_le {e : EpisodeSnapshot} {n : Nat} :
    e.toJson.depth ≤ n + 1 ↔ (DependentSnapshot.format.many.write e.dependents).depth ≤ n := by
  have hcontextual : ((e.contextual.map Json.string).getD .null).depth = 0 := by
    cases e.contextual <;> rfl
  rw [toJson, Json.depth_object_le]
  simp [hcontextual, SnapshotFormat.many, DependentSnapshot.format]

theorem ofTree?_toJson (e : EpisodeSnapshot) (room : Nat) :
    ofTree? e.toJson.tree (room + 1) =
      (DependentSnapshot.format.many.read? (DependentSnapshot.format.many.write e.dependents).tree
        room).bind fun dependents => some ⟨e.contextual, dependents⟩ := by
  have hcontextual : ((e.contextual.map Json.string).getD .null).tree.optionalText? =
      some e.contextual := by
    cases e.contextual <;> rfl
  have hfields := Json.Fields.ofTree?_memberTrees ["contextual", "dependents"]
    [("contextual", (e.contextual.map Json.string).getD .null),
      ("dependents", .array (e.dependents.map DependentSnapshot.toJson))] room rfl (by decide)
  rw [ofTree?, toJson, Json.tree, hfields]
  simp only [List.map_cons, List.map_nil, Json.Fields.optionalText?, Json.Fields.required?,
    Option.pure_def, Option.bind_eq_bind, Option.bind_assoc, Option.bind_some, List.lookup_cons,
    BEq.rfl, hcontextual, String.reduceBEq, SnapshotFormat.many, DependentSnapshot.format]

theorem faithful (room : Nat) : format.Faithful room where
  whole e hdepth hwhole := by
    obtain ⟨room, rfl⟩ := Json.room_of_depth_object hdepth
    have hdependents := (DependentSnapshot.many_faithful room).whole e.dependents
      (depth_toJson_le.1 hdepth) hwhole
    refine ⟨?_, hdependents, trivial⟩
    cases e.contextual <;> exact trivial
  reads e hdepth hwhole hordered := by
    obtain ⟨room, rfl⟩ := Json.room_of_depth_object hdepth
    have hdependents := (DependentSnapshot.many_faithful room).reads e.dependents
      (depth_toJson_le.1 hdepth) hwhole hordered
    exact (ofTree?_toJson e room).trans (by rw [hdependents]; rfl)
  fits tree e h := by
    simp only [format, ofTree?, Json.Fields.required?, Option.bind_eq_bind,
      Option.bind_eq_some_iff, Option.pure_def, Option.some.injEq] at h
    obtain ⟨fields, hfields, contextual, _, ⟨items, inner⟩, ⟨_, _, hitems⟩, dependents, hall,
      rfl⟩ := h
    obtain ⟨hdepth, hordered⟩ := (DependentSnapshot.many_faithful fields.room).fits _ dependents
      (Option.bind_eq_some_iff.2 ⟨_, hitems, hall⟩)
    rw [Json.Fields.room_of_ofTree? hfields]
    exact ⟨depth_toJson_le.2 hdepth, hordered⟩

end EpisodeSnapshot

namespace EntrySnapshot

theorem depth_toJson_le {e : EntrySnapshot} {n : Nat} :
    e.toJson.depth ≤ n + 1 ↔ e.state.depth ≤ n ∧ e.episode.toJson.depth ≤ n := by
  rw [toJson, Json.depth_object_le]
  simp [Json.depth]

theorem ofTree?_toJson (e : EntrySnapshot) (room : Nat) :
    ofTree? e.toJson.tree (room + 1) = (e.state.tree.value? room).bind fun state =>
      (EpisodeSnapshot.ofTree? e.episode.toJson.tree room).bind fun episode =>
        some ⟨e.contextual, state, episode⟩ := by
  have hfields := Json.Fields.ofTree?_memberTrees ["contextual", "state", "creational_context"]
    [("contextual", .string e.contextual), ("state", e.state),
      ("creational_context", e.episode.toJson)] room rfl (by decide)
  rw [ofTree?, toJson, Json.tree, hfields]
  dsimp only [List.map, Json.tree, Json.Fields.required?, Option.pure_def,
    Option.bind_eq_bind, Option.bind_some, List.lookup_cons, Json.Tree.text?, String.reduceBEq]

theorem faithful (room : Nat) : format.Faithful room where
  whole e hdepth hwhole := by
    obtain ⟨room, rfl⟩ := Json.room_of_depth_object hdepth
    obtain ⟨hstate, hstates⟩ := List.forall_mem_cons.1 hwhole
    exact ⟨trivial, hstate,
      (EpisodeSnapshot.faithful room).whole e.episode (depth_toJson_le.1 hdepth).2 hstates, trivial⟩
  reads e hdepth hwhole hordered := by
    obtain ⟨room, rfl⟩ := Json.room_of_depth_object hdepth
    obtain ⟨hroom, hrooms⟩ := depth_toJson_le.1 hdepth
    obtain ⟨hwhole, hwholes⟩ := List.forall_mem_cons.1 hwhole
    obtain ⟨hordered, hordereds⟩ := List.forall_mem_cons.1 hordered
    have hstate := Json.value?_tree e.state hwhole hordered room hroom
    have hepisode : EpisodeSnapshot.ofTree? e.episode.toJson.tree room = some e.episode :=
      (EpisodeSnapshot.faithful room).reads e.episode hrooms hwholes hordereds
    exact (ofTree?_toJson e room).trans (by rw [hstate, hepisode]; rfl)
  fits tree e h := by
    simp only [format, ofTree?, Json.Fields.required?, Option.bind_eq_bind,
      Option.bind_eq_some_iff, Option.pure_def, Option.some.injEq] at h
    obtain ⟨fields, hfields, contextual, _, state, ⟨_, _, hstate⟩, episode, ⟨_, _, hepisode⟩,
      rfl⟩ := h
    obtain ⟨hordered, hdepth⟩ := Json.Tree.ordered_of_value? _ hstate
    obtain ⟨hdepths, hordereds⟩ := (EpisodeSnapshot.faithful fields.room).fits _ episode hepisode
    rw [Json.Fields.room_of_ofTree? hfields]
    exact ⟨depth_toJson_le.2 ⟨hdepth, hdepths⟩, List.forall_mem_cons.2 ⟨hordered, hordereds⟩⟩

theorem many_faithful (room : Nat) : format.many.Faithful room :=
  .many fun inner _ => faithful inner

end EntrySnapshot

end ContextualLifecycle
