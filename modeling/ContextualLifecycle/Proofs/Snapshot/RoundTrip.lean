import ContextualLifecycle.Proofs.Snapshot.Format

namespace ContextualLifecycle

mutual

def ContextSnapshot.states : ContextSnapshot → List Json
  | ⟨_, entries, conversations⟩ =>
    EntrySnapshot.format.many.states entries ++ ContextSnapshot.statesInConversations conversations

def ContextSnapshot.statesInConversations : List ConversationSnapshot → List Json
  | [] => []
  | v :: vs => v.states ++ ContextSnapshot.statesInConversations vs

def ConversationSnapshot.states : ConversationSnapshot → List Json
  | ⟨_, _, context⟩ => context.states

end

def ContextSnapshot.format : SnapshotFormat ContextSnapshot where
  write := toJson
  read? := ofTree?
  states := states

def ConversationSnapshot.format : SnapshotFormat ConversationSnapshot where
  write := toJson
  read? := ofTree?
  states := states

namespace ContextSnapshot

theorem conversationsToJson_eq (vs : List ConversationSnapshot) :
    Json.array (conversationsToJson vs) = ConversationSnapshot.format.many.write vs := by
  have hmap : conversationsToJson vs = vs.map ConversationSnapshot.toJson := by
    induction vs with
    | nil => rfl
    | cons v vs ih => rw [conversationsToJson, ih, List.map_cons]
  rw [hmap]
  rfl

theorem conversationsOfTree?_eq (tree : Json.Tree) (room : Nat) :
    conversationsOfTree? tree room = ConversationSnapshot.format.many.read? tree room := by
  cases room with
  | zero =>
    rw [conversationsOfTree?]
    cases tree <;> rfl
  | succ room =>
    rw [conversationsOfTree?]
    cases tree <;> rfl

theorem statesInConversations_eq (vs : List ConversationSnapshot) :
    statesInConversations vs = ConversationSnapshot.format.many.states vs := by
  induction vs with
  | nil => rfl
  | cons v vs ih =>
    rw [statesInConversations, ih]
    rfl

theorem depth_toJson_le {x : ContextSnapshot} {n : Nat} :
    x.toJson.depth ≤ n + 1 ↔ (EntrySnapshot.format.many.write x.entries).depth ≤ n ∧
      (ConversationSnapshot.format.many.write x.conversations).depth ≤ n := by
  obtain ⟨kind, entries, conversations⟩ := x
  rw [toJson, conversationsToJson_eq, Json.depth_object_le]
  simp [Json.depth, SnapshotFormat.many, EntrySnapshot.format]

theorem ofTree?_toJson (x : ContextSnapshot) (room : Nat) :
    ofTree? x.toJson.tree (room + 1) =
      (EntrySnapshot.format.many.read? (EntrySnapshot.format.many.write x.entries).tree room).bind
        fun entries => (ConversationSnapshot.format.many.read?
          (ConversationSnapshot.format.many.write x.conversations).tree room).bind
            fun conversations => some ⟨x.kind, entries, conversations⟩ := by
  obtain ⟨kind, entries, conversations⟩ := x
  have hfields := Json.Fields.ofTree?_memberTrees ["kind", "entries", "conversations"]
    [("kind", .string kind.name), ("entries", .array (entries.map EntrySnapshot.toJson)),
      ("conversations", .array (conversationsToJson conversations))] room rfl (by decide)
  rw [ofTree?, toJson, Json.tree, hfields, conversationsToJson_eq]
  simp only [List.map_cons, Json.tree, List.map_nil, Json.Fields.required?, Json.Tree.variant?,
    Json.Fields.defaulted?, conversationsOfTree?_eq, Option.pure_def, Option.bind_eq_bind,
    Option.bind_some, List.lookup_cons, BEq.rfl, ScopeKind.ofName?_name, String.reduceBEq]
  simp only [SnapshotFormat.many, Json.tree, Option.bind_assoc, EntrySnapshot.format]

theorem whole_toJson {x : ContextSnapshot} : x.toJson.Whole ↔
    (EntrySnapshot.format.many.write x.entries).Whole ∧
      (ConversationSnapshot.format.many.write x.conversations).Whole := by
  obtain ⟨kind, entries, conversations⟩ := x
  rw [toJson, conversationsToJson_eq]
  exact ⟨fun h => ⟨h.2.1, h.2.2.1⟩, fun h => ⟨trivial, h.1, h.2, trivial⟩⟩

theorem forall_mem_states {x : ContextSnapshot} {P : Json → Prop} : (∀ v ∈ x.states, P v) ↔
    (∀ v ∈ EntrySnapshot.format.many.states x.entries, P v) ∧
      ∀ v ∈ ConversationSnapshot.format.many.states x.conversations, P v := by
  obtain ⟨kind, entries, conversations⟩ := x
  rw [states, statesInConversations_eq, List.forall_mem_append]

theorem room_of_depth_toJson {x : ContextSnapshot} {room : Nat} (h : x.toJson.depth ≤ room) :
    ∃ inner, room = inner + 1 := by
  obtain ⟨kind, entries, conversations⟩ := x
  exact Json.room_of_depth_object h

theorem faithful_of {room : Nat}
    (h : ∀ inner, room = inner + 1 → ConversationSnapshot.format.many.Faithful inner) :
    format.Faithful room where
  whole x hdepth hwhole := by
    obtain ⟨inner, rfl⟩ := room_of_depth_toJson hdepth
    obtain ⟨hentries, hconversations⟩ := depth_toJson_le.1 hdepth
    obtain ⟨hwholes, hwholes'⟩ := forall_mem_states.1 hwhole
    exact whole_toJson.2 ⟨(EntrySnapshot.many_faithful inner).whole _ hentries hwholes,
      (h inner rfl).whole _ hconversations hwholes'⟩
  reads x hdepth hwhole hordered := by
    obtain ⟨inner, rfl⟩ := room_of_depth_toJson hdepth
    obtain ⟨hentries, hconversations⟩ := depth_toJson_le.1 hdepth
    obtain ⟨hwholes, hwholes'⟩ := forall_mem_states.1 hwhole
    obtain ⟨hordereds, hordereds'⟩ := forall_mem_states.1 hordered
    have hread := (EntrySnapshot.many_faithful inner).reads _ hentries hwholes hordereds
    have hread' := (h inner rfl).reads _ hconversations hwholes' hordereds'
    refine (ofTree?_toJson x inner).trans ?_
    rw [hread, hread']
    cases x
    rfl
  fits tree x hread := by
    change ofTree? tree room = some x at hread
    cases room with
    | zero => cases tree <;> cases hread
    | succ room =>
      rw [ofTree?] at hread
      simp only [Json.Fields.required?, Option.bind_eq_bind, Option.bind_eq_some_iff,
        Option.pure_def, Option.some.injEq] at hread
      obtain ⟨fields, hfields, kind, _, ⟨items, inner⟩, ⟨_, _, hitems⟩, entries, hall,
        conversations, hconversations, rfl⟩ := hread
      obtain rfl : room = fields.room := Nat.succ.inj (Json.Fields.room_of_ofTree? hfields)
      obtain ⟨hdepth, hordered⟩ := (EntrySnapshot.many_faithful fields.room).fits _ entries
        (Option.bind_eq_some_iff.2 ⟨_, hitems, hall⟩)
      have hnested : (ConversationSnapshot.format.many.write conversations).depth ≤ fields.room ∧
          ∀ v ∈ ConversationSnapshot.format.many.states conversations, v.Ordered := by
        rw [Json.Fields.defaulted?] at hconversations
        split at hconversations
        · rw [conversationsOfTree?_eq] at hconversations
          exact (h fields.room rfl).fits _ conversations hconversations
        · -- No conversations are written as an array, for which the entries show the room.
          cases hconversations
          rw [Json.Tree.room_of_items? hitems]
          exact ⟨Nat.succ_le_succ (Nat.zero_le _), List.forall_mem_nil _⟩
      exact ⟨depth_toJson_le.2 ⟨hdepth, hnested.1⟩, forall_mem_states.2 ⟨hordered, hnested.2⟩⟩

end ContextSnapshot

namespace ConversationSnapshot

theorem depth_toJson_le {x : ConversationSnapshot} {n : Nat} :
    x.toJson.depth ≤ n + 1 ↔ x.context.toJson.depth ≤ n := by
  obtain ⟨id, timeoutMs, context⟩ := x
  rw [toJson, Json.depth_object_le]
  simp [Json.depth, Json.ofNat]

theorem ofTree?_toJson (x : ConversationSnapshot) (room : Nat) :
    ofTree? x.toJson.tree (room + 1) = (ContextSnapshot.ofTree? x.context.toJson.tree room).bind
      fun context => some ⟨x.id, x.timeoutMs, context⟩ := by
  obtain ⟨id, timeoutMs, context⟩ := x
  have hfields := Json.Fields.ofTree?_memberTrees ["id", "timeout_ms", "context"]
    [("id", .string id), ("timeout_ms", .ofNat timeoutMs.toNat),
      ("context", context.toJson)] room rfl (by decide)
  rw [ofTree?, toJson, Json.tree, hfields]
  simp only [List.map_cons, Json.tree, List.map_nil, Json.Fields.required?, Option.pure_def,
    Option.bind_eq_bind, Option.bind_some, List.lookup_cons, BEq.rfl, Json.Tree.text?,
    String.reduceBEq, Json.word?_tree_ofNat]

theorem room_of_depth_toJson {x : ConversationSnapshot} {room : Nat} (h : x.toJson.depth ≤ room) :
    ∃ inner, room = inner + 1 := by
  obtain ⟨id, timeoutMs, context⟩ := x
  exact Json.room_of_depth_object h

theorem forall_mem_states {x : ConversationSnapshot} {P : Json → Prop} :
    (∀ v ∈ x.states, P v) ↔ ∀ v ∈ x.context.states, P v := by
  obtain ⟨id, timeoutMs, context⟩ := x
  rw [states]

theorem faithful_of {room : Nat}
    (h : ∀ inner, room = inner + 1 → ContextSnapshot.format.Faithful inner) :
    format.Faithful room where
  whole x hdepth hwhole := by
    obtain ⟨inner, rfl⟩ := room_of_depth_toJson hdepth
    have hcontext := (h inner rfl).whole x.context (depth_toJson_le.1 hdepth)
      (forall_mem_states.1 hwhole)
    obtain ⟨id, timeoutMs, context⟩ := x
    exact ⟨trivial, Json.isWord_toNat timeoutMs, hcontext, trivial⟩
  reads x hdepth hwhole hordered := by
    obtain ⟨inner, rfl⟩ := room_of_depth_toJson hdepth
    have hcontext : ContextSnapshot.ofTree? x.context.toJson.tree inner = some x.context :=
      (h inner rfl).reads x.context (depth_toJson_le.1 hdepth) (forall_mem_states.1 hwhole)
        (forall_mem_states.1 hordered)
    refine (ofTree?_toJson x inner).trans ?_
    rw [hcontext]
    cases x
    rfl
  fits tree x hread := by
    change ofTree? tree room = some x at hread
    cases room with
    | zero => cases tree <;> cases hread
    | succ room =>
      rw [ofTree?] at hread
      simp only [Json.Fields.required?, Option.bind_eq_bind, Option.bind_eq_some_iff,
        Option.pure_def, Option.some.injEq] at hread
      obtain ⟨fields, hfields, id, _, timeoutMs, _, context, ⟨_, _, hcontext⟩, rfl⟩ := hread
      obtain rfl : room = fields.room := Nat.succ.inj (Json.Fields.room_of_ofTree? hfields)
      obtain ⟨hdepth, hordered⟩ := (h fields.room rfl).fits _ context hcontext
      exact ⟨depth_toJson_le.2 hdepth, forall_mem_states.2 hordered⟩

end ConversationSnapshot

theorem ContextSnapshot.faithful (room : Nat) : format.Faithful room := by
  induction room using Nat.strongRecOn with
  | ind room ih =>
    refine faithful_of fun a ha => .many fun b hb => ConversationSnapshot.faithful_of fun c hc => ?_
    exact ih c (by omega)

theorem ConversationSnapshot.faithful (room : Nat) : format.Faithful room :=
  faithful_of fun inner _ => ContextSnapshot.faithful inner

namespace SnapshotFormat

variable {α : Type}

/-- What is written is read as it was. What is read from any text can be written, and gives the same
snapshot and the same text when that is read again. -/
def RoundTrips (f : SnapshotFormat α) : Prop :=
  (∀ x, (∀ v ∈ f.states x, v.Whole ∧ v.Ordered) → (f.write x).depth ≤ Json.maxNesting →
    readSnapshot f.read? (f.text x) = .ok x) ∧
  ∀ text x, readSnapshot f.read? text = .ok x → (∀ v ∈ f.states x, v.Whole) →
    ∃ y, readSnapshot f.read? (f.text x) = .ok y ∧ y = x ∧ f.text y = f.text x

theorem readSnapshot_text {f : SnapshotFormat α} (hf : f.Faithful Json.maxNesting) {x : α}
    (hdepth : (f.write x).depth ≤ Json.maxNesting) (hwhole : ∀ v ∈ f.states x, v.Whole)
    (hordered : ∀ v ∈ f.states x, v.Ordered) : readSnapshot f.read? (f.text x) = .ok x := by
  rw [readSnapshot, text, Json.print, String.toList_ofList,
    Json.Tree.ofText?_text (hf.whole x hdepth hwhole), Option.bind_some,
    hf.reads x hdepth hwhole hordered]

theorem Faithful.roundTrips {f : SnapshotFormat α} (hf : f.Faithful Json.maxNesting) :
    f.RoundTrips := by
  constructor
  · intro x hstates hdepth
    exact readSnapshot_text hf hdepth (fun v hv => (hstates v hv).1) fun v hv => (hstates v hv).2
  · intro text x hread hwhole
    have hfits : (f.write x).depth ≤ Json.maxNesting ∧ ∀ v ∈ f.states x, v.Ordered := by
      rw [readSnapshot] at hread
      split at hread
      · rename_i snapshot hsome
        cases hread
        obtain ⟨tree, _, htree⟩ := Option.bind_eq_some_iff.1 hsome
        exact hf.fits tree x htree
      · cases hread
    exact ⟨x, readSnapshot_text hf hfits.1 hwhole hfits.2, rfl, rfl⟩

end SnapshotFormat

/-- Snapshots of every kind survive the round trip through JSON text. -/
theorem snapshots_roundTrip : ContextSnapshot.format.RoundTrips ∧
    ConversationSnapshot.format.RoundTrips ∧ EntrySnapshot.format.RoundTrips ∧
    EpisodeSnapshot.format.RoundTrips ∧ DependentSnapshot.format.RoundTrips :=
  ⟨(ContextSnapshot.faithful _).roundTrips, (ConversationSnapshot.faithful _).roundTrips,
    (EntrySnapshot.faithful _).roundTrips, (EpisodeSnapshot.faithful _).roundTrips,
    (DependentSnapshot.faithful _).roundTrips⟩

/-- A session with an instance that has a dependent, and with a conversation. Its strings have to be
escaped, and its numbers are the least and the greatest. -/
def escapedSnapshot : ContextSnapshot :=
  ⟨.session,
    [⟨"cart",
      .object [("\"", .number (.integer (2 ^ 64 - 1))), ("é", .number (.integer (-2 ^ 63)))],
      ⟨none, [⟨"log\n", .string "\x01"⟩]⟩⟩],
    [⟨"\\", UInt64.ofNat (2 ^ 64 - 1), ⟨.conversation, [], []⟩⟩]⟩

theorem readSnapshot_escapedSnapshot :
    readSnapshot ContextSnapshot.format.read? (ContextSnapshot.format.text escapedSnapshot) =
      .ok escapedSnapshot := by
  have hstates : ∀ v ∈ ContextSnapshot.format.states escapedSnapshot, v.Whole ∧ v.Ordered := by
    have heq : ContextSnapshot.format.states escapedSnapshot =
        [.object [("\"", .number (.integer (2 ^ 64 - 1))), ("é", .number (.integer (-2 ^ 63)))],
          .string "\x01"] := rfl
    rw [heq, List.forall_mem_cons, List.forall_mem_singleton]
    have hleast : (Json.Number.integer (-2 ^ 63)).IsWord := by constructor <;> decide
    have hgreatest : (Json.Number.integer (2 ^ 64 - 1)).IsWord := by constructor <;> decide
    exact ⟨⟨⟨hgreatest, hleast, trivial⟩, by decide, trivial, trivial, trivial⟩, trivial, trivial⟩
  exact snapshots_roundTrip.1.1 escapedSnapshot hstates (by decide)

end ContextualLifecycle
