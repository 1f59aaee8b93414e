import ContextualLifecycle.Error
import ContextualLifecycle.Json.Printer
import ContextualLifecycle.Json.Reader

namespace ContextualLifecycle

structure DependentSnapshot where
  contextual : String
  state : Json
deriving Inhabited

structure EpisodeSnapshot where
  contextual : Option String
  /-- In the order in which a teardown destroys them. -/
  dependents : List DependentSnapshot
deriving Inhabited

structure EntrySnapshot where
  contextual : String
  state : Json
  episode : EpisodeSnapshot
deriving Inhabited

mutual

structure ContextSnapshot where
  kind : ScopeKind
  entries : List EntrySnapshot
  /-- The long-running conversations; a transient one ends with its request. -/
  conversations : List ConversationSnapshot

structure ConversationSnapshot where
  id : String
  timeoutMs : UInt64
  context : ContextSnapshot

end

instance : Inhabited ContextSnapshot := ⟨⟨.session, [], []⟩⟩

instance : Inhabited ConversationSnapshot := ⟨⟨"", 0, default⟩⟩

namespace DependentSnapshot

def toJson (d : DependentSnapshot) : Json :=
  .object [("contextual", .string d.contextual), ("state", d.state)]

def ofTree? (tree : Json.Tree) (room : Nat) : Option DependentSnapshot := do
  let fields ← Json.Fields.ofTree? ["contextual", "state"] tree room
  let contextual ← fields.required? "contextual" Json.Tree.text?
  let state ← fields.required? "state" fun tree => tree.value? fields.room
  return { contextual, state }

def eqv (a b : DependentSnapshot) : Bool := a.contextual == b.contextual && a.state == b.state

instance : BEq DependentSnapshot := ⟨eqv⟩

end DependentSnapshot

namespace EpisodeSnapshot

def toJson (e : EpisodeSnapshot) : Json :=
  .object [("contextual", (e.contextual.map Json.string).getD .null),
    ("dependents", .array (e.dependents.map DependentSnapshot.toJson))]

def ofTree? (tree : Json.Tree) (room : Nat) : Option EpisodeSnapshot := do
  let fields ← Json.Fields.ofTree? ["contextual", "dependents"] tree room
  let contextual ← fields.optionalText? "contextual"
  let (items, room) ← fields.required? "dependents" fun tree => tree.items? fields.room
  let dependents ← items.mapM fun item => DependentSnapshot.ofTree? item room
  return { contextual, dependents }

def eqv (a b : EpisodeSnapshot) : Bool :=
  a.contextual == b.contextual && a.dependents == b.dependents

instance : BEq EpisodeSnapshot := ⟨eqv⟩

end EpisodeSnapshot

namespace EntrySnapshot

def toJson (e : EntrySnapshot) : Json :=
  .object [("contextual", .string e.contextual), ("state", e.state),
    ("creational_context", e.episode.toJson)]

def ofTree? (tree : Json.Tree) (room : Nat) : Option EntrySnapshot := do
  let fields ← Json.Fields.ofTree? ["contextual", "state", "creational_context"] tree room
  let contextual ← fields.required? "contextual" Json.Tree.text?
  let state ← fields.required? "state" fun tree => tree.value? fields.room
  let episode ← fields.required? "creational_context"
    fun tree => EpisodeSnapshot.ofTree? tree fields.room
  return { contextual, state, episode }

def eqv (a b : EntrySnapshot) : Bool :=
  a.contextual == b.contextual && a.state == b.state && a.episode == b.episode

instance : BEq EntrySnapshot := ⟨eqv⟩

end EntrySnapshot

mutual

def ContextSnapshot.toJson : ContextSnapshot → Json
  | ⟨kind, entries, conversations⟩ =>
    .object [("kind", .string kind.name), ("entries", .array (entries.map EntrySnapshot.toJson)),
      ("conversations", .array (ContextSnapshot.conversationsToJson conversations))]

def ContextSnapshot.conversationsToJson : List ConversationSnapshot → List Json
  | [] => []
  | v :: vs => v.toJson :: ContextSnapshot.conversationsToJson vs

def ConversationSnapshot.toJson : ConversationSnapshot → Json
  | ⟨id, timeoutMs, context⟩ =>
    .object [("id", .string id), ("timeout_ms", .ofNat timeoutMs.toNat),
      ("context", context.toJson)]

end

mutual

/-- Reads a context; the conversations may be left out. The number is the room, which the nested
records use up one by one. -/
def ContextSnapshot.ofTree? (tree : Json.Tree) : Nat → Option ContextSnapshot
  | 0 => none
  | room + 1 => do
    let fields ← Json.Fields.ofTree? ["kind", "entries", "conversations"] tree (room + 1)
    let kind ← fields.required? "kind" fun tree => tree.variant? ScopeKind.ofName? fields.room
    let (items, inner) ← fields.required? "entries" fun tree => tree.items? fields.room
    let entries ← items.mapM fun item => EntrySnapshot.ofTree? item inner
    let conversations ← fields.defaulted? "conversations" []
      fun tree => ContextSnapshot.conversationsOfTree? tree room
    return ⟨kind, entries, conversations⟩

def ContextSnapshot.conversationsOfTree? (tree : Json.Tree) :
    Nat → Option (List ConversationSnapshot)
  | 0 => none
  | room + 1 => do
    let (items, _) ← tree.items? (room + 1)
    items.mapM fun item => ConversationSnapshot.ofTree? item room

def ConversationSnapshot.ofTree? (tree : Json.Tree) : Nat → Option ConversationSnapshot
  | 0 => none
  | room + 1 => do
    let fields ← Json.Fields.ofTree? ["id", "timeout_ms", "context"] tree (room + 1)
    let id ← fields.required? "id" Json.Tree.text?
    let timeoutMs ← fields.required? "timeout_ms" Json.Tree.word?
    let context ← fields.required? "context" fun tree => ContextSnapshot.ofTree? tree room
    return ⟨id, timeoutMs, context⟩

end

mutual

def ContextSnapshot.eqv : ContextSnapshot → ContextSnapshot → Bool
  | ⟨k, es, vs⟩, ⟨l, fs, ws⟩ => k == l && es == fs && ContextSnapshot.eqvConversations vs ws

def ContextSnapshot.eqvConversations :
    List ConversationSnapshot → List ConversationSnapshot → Bool
  | [], [] => true
  | v :: vs, w :: ws => v.eqv w && ContextSnapshot.eqvConversations vs ws
  | _, _ => false

def ConversationSnapshot.eqv : ConversationSnapshot → ConversationSnapshot → Bool
  | ⟨i, t, c⟩, ⟨j, u, d⟩ => i == j && t == u && c.eqv d

end

instance : BEq ContextSnapshot := ⟨ContextSnapshot.eqv⟩

instance : BEq ConversationSnapshot := ⟨ConversationSnapshot.eqv⟩

def readSnapshot (read : Json.Tree → Nat → Option α) (text : String) :
    Except LifecycleError α :=
  match (Json.Tree.ofText? text.toList).bind (read · Json.maxNesting) with
  | some snapshot => .ok snapshot
  | none => .error .serialization

end ContextualLifecycle
