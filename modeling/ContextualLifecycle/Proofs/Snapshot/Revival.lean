import ContextualLifecycle.Proofs.Episode.Order
import ContextualLifecycle.Proofs.Snapshot.Growth

namespace ContextualLifecycle

variable {σ : Type}

section Revives

variable (a : Archive σ) (s : Store σ)

structure EpisodeSnapshot.Revives (x : EpisodeSnapshot) (e : Episode) : Prop where
  issued : e.number < s.nextEpisode
  contextual : Option.Rel a.Names x.contextual (s.episode e).contextual
  dependents : ∃ ds : List Dependent, ds.Perm (s.episode e).dependents ∧
    List.Forall₂ (fun y d => a.Revives s y.contextual y.state d.contextual d.inst) x.dependents ds

/-- The dependents of which a snapshot tells were registered one after the other, for an episode
that had none before. -/
structure EpisodeSnapshot.Replays (x : EpisodeSnapshot) (e : Episode) : Prop where
  issued : e.number < s.nextEpisode
  contextual : Option.Rel a.Names x.contextual (s.episode e).contextual
  bean : (s.episode e).bean = (s.episode e).contextual.bind Contextual.asBean?
  dependents : ∃ ds : List Dependent,
    (s.episode e).dependents = Episode.arranged (s.episode e).bean ds ∧
    List.Forall₂ (fun y d => a.Revives s y.contextual y.state d.contextual d.inst) x.dependents ds

inductive EntrySnapshot.Revives : EntrySnapshot → ContextualId × Cell → Prop where
  | live {x : EntrySnapshot} {b : Bag} {serial : Nat}
      (hinst : a.Revives s x.contextual x.state b.contextual b.inst)
      (hepisode : x.episode.Revives a s b.episode) :
      Revives x (b.contextual.id, ⟨serial, .live b⟩)

mutual

/-- A context has what a snapshot tells of, and nothing else. Its conversations are newer. -/
def ContextSnapshot.Revives : ContextSnapshot → ScopeContext → Prop
  | ⟨kind, entries, conversations⟩, c => c.number < s.nextContext ∧
      (s.context c).kind = kind ∧ kind.isPassivating = true ∧
      List.Forall₂ (EntrySnapshot.Revives a s) entries (s.context c).entries.rows ∧
      (∀ row ∈ (s.context c).conversations.rows, c.number < row.2.context.number) ∧
      ConversationSnapshot.AllRevive conversations (s.context c).conversations.rows

def ConversationSnapshot.AllRevive :
    List ConversationSnapshot → List (String × Conversation) → Prop
  | [], rows => rows = []
  | x :: xs, rows => ∃ row rest, rows = row :: rest ∧ x.Revives row ∧
      ConversationSnapshot.AllRevive xs rest

def ConversationSnapshot.Revives : ConversationSnapshot → String × Conversation → Prop
  | ⟨id, timeoutMs, context⟩, row => row.1 = id ∧
      (∃ lastAccess, s.conversation row.2 =
        { id, transient := false, lastAccess, timeout := .ofMillis timeoutMs.toNat }) ∧
      (s.context row.2.context).active = true ∧ context.Revives row.2.context

end

end Revives

variable {a : Archive σ} {kept : ScopeContext → Prop} {s t : Store σ}

theorem ConversationSnapshot.allRevive_iff {xs : List ConversationSnapshot}
    {rows : List (String × Conversation)} : ConversationSnapshot.AllRevive a s xs rows ↔
      List.Forall₂ (ConversationSnapshot.Revives a s) xs rows :=
  forall₂_iff_of_cons (fun _ => Iff.rfl) fun _ _ _ => Iff.rfl

theorem ContextSnapshot.Revives.issued {x : ContextSnapshot} {c : ScopeContext}
    (h : x.Revives a s c) : c.number < s.nextContext := by
  cases x
  exact h.1

theorem EpisodeSnapshot.Revives.grow {x : EpisodeSnapshot} {e : Episode} (h : x.Revives a s e)
    (hst : s.Grows a kept t) : x.Revives a t e where
  issued := Nat.lt_of_lt_of_le h.issued hst.episodes
  contextual := by
    rw [hst.episode e h.issued]
    exact h.contextual
  dependents := by
    obtain ⟨ds, hperm, hall⟩ := h.dependents
    rw [hst.episode e h.issued]
    exact ⟨ds, hperm, hall.imp fun _ _ hd => hd.recall hst.toRecalls⟩

theorem EpisodeSnapshot.Replays.grow {x : EpisodeSnapshot} {e : Episode} (h : x.Replays a s e)
    (hst : s.Grows a kept t) : x.Replays a t e where
  issued := Nat.lt_of_lt_of_le h.issued hst.episodes
  contextual := by
    rw [hst.episode e h.issued]
    exact h.contextual
  bean := by
    rw [hst.episode e h.issued]
    exact h.bean
  dependents := by
    obtain ⟨ds, harranged, hall⟩ := h.dependents
    rw [hst.episode e h.issued]
    exact ⟨ds, harranged, hall.imp fun _ _ hd => hd.recall hst.toRecalls⟩

theorem EpisodeSnapshot.Replays.revives {x : EpisodeSnapshot} {e : Episode}
    (h : x.Replays a s e) : x.Revives a s e where
  issued := h.issued
  contextual := h.contextual
  dependents := by
    obtain ⟨ds, harranged, hall⟩ := h.dependents
    exact ⟨ds, harranged ▸ (Episode.arranged_perm _ ds).symm, hall⟩

theorem EntrySnapshot.Revives.grow {x : EntrySnapshot} {row : ContextualId × Cell}
    (h : x.Revives a s row) (hst : s.Grows a kept t) : x.Revives a t row := by
  cases h with
  | live hinst hepisode => exact .live (hinst.recall hst.toRecalls) (hepisode.grow hst)

mutual

/-- A restored context stays as it is, if the newer ones are kept. It may become active. -/
theorem ContextSnapshot.Revives.grow (hst : s.Grows a kept t) :
    (x : ContextSnapshot) → ∀ c : ScopeContext, x.Revives a s c →
      (∀ y : ScopeContext, c.number < y.number → kept y) →
      t.context c = { s.context c with active := (t.context c).active } → x.Revives a t c
  | ⟨kind, entries, conversations⟩ => by
    rintro c ⟨hissued, hkind, hpassivating, hentries, hnewer, hconversations⟩ hkept hsame
    rw [ContextSnapshot.Revives, hsame]
    refine ⟨Nat.lt_of_lt_of_le hissued hst.contexts, hkind, hpassivating,
      hentries.imp fun _ _ hx => hx.grow hst, hnewer, ?_⟩
    apply ConversationSnapshot.AllRevive.grow hst conversations _ hconversations
    intro row hrow y hy
    exact hkept y (Nat.lt_of_lt_of_le (hnewer row hrow) hy)

theorem ConversationSnapshot.AllRevive.grow (hst : s.Grows a kept t) :
    (xs : List ConversationSnapshot) → ∀ rows : List (String × Conversation),
      ConversationSnapshot.AllRevive a s xs rows →
      (∀ row ∈ rows, ∀ y : ScopeContext, row.2.context.number ≤ y.number → kept y) →
      ConversationSnapshot.AllRevive a t xs rows
  | [] => fun _ h _ => h
  | x :: xs => by
    rintro _ ⟨row, rest, rfl, hx, hxs⟩ hkept
    exact ⟨row, rest, rfl, ConversationSnapshot.Revives.grow hst x row hx
      (hkept row List.mem_cons_self), ConversationSnapshot.AllRevive.grow hst xs rest hxs
      fun row' hrow' => hkept row' (List.mem_cons_of_mem row hrow')⟩

theorem ConversationSnapshot.Revives.grow (hst : s.Grows a kept t) :
    (x : ConversationSnapshot) → ∀ row : String × Conversation, x.Revives a s row →
      (∀ y : ScopeContext, row.2.context.number ≤ y.number → kept y) → x.Revives a t row
  | ⟨id, timeoutMs, context⟩ => by
    rintro row ⟨hid, hrecord, hactive, hcontext⟩ hkept
    have hissued := hcontext.issued
    have hself := hkept row.2.context (Nat.le_refl _)
    have hsame := hst.context row.2.context hself hissued
    rw [ConversationSnapshot.Revives, hst.conversation row.2 hself hissued, hsame]
    refine ⟨hid, hrecord, hactive, ContextSnapshot.Revives.grow hst context _ hcontext ?_ ?_⟩
    · exact fun y hy => hkept y (Nat.le_of_lt hy)
    · rw [hsame]

end

theorem Episode.Record.register_contextual (r : Episode.Record) (unit : Contextual)
    (inst : Instance) : (r.register unit inst).contextual = r.contextual := by
  rw [register]
  split <;> rfl

theorem Episode.Record.register_bean (r : Episode.Record) (unit : Contextual) (inst : Instance) :
    (r.register unit inst).bean = r.bean := by
  rw [register]
  split <;> rfl

theorem EpisodeSnapshot.Replays.registered {e : Episode} {contextual : Option String}
    {done : List DependentSnapshot} {y : DependentSnapshot} {unit : Contextual} {inst : Instance}
    (h : EpisodeSnapshot.Replays a s ⟨contextual, done⟩ e)
    (hy : a.Revives s y.contextual y.state unit inst)
    (hnew : ∀ d ∈ (s.episode e).dependents, d.inst ≠ inst) :
    EpisodeSnapshot.Replays a (e.update (·.register unit inst) s) ⟨contextual, done ++ [y]⟩ e := by
  let t := e.update (·.register unit inst) s
  have ht : t.episode e = (s.episode e).register unit inst := Episode.episode_update_self e _ s
  have hrecalls : s.Recalls a t := ⟨fun _ => id, fun _ _ _ _ => rfl⟩
  obtain ⟨ds, harranged, hall⟩ := h.dependents
  have hadded : Episode.enlist ds (unit, some inst) = ds ++ [⟨unit, inst⟩] := by
    refine if_neg fun hlisted => ?_
    obtain ⟨d, hd, hfor⟩ := List.any_eq_true.1 hlisted
    exact hnew d (harranged ▸ Episode.mem_arranged.2 hd) ((d.isFor_iff unit inst).1 hfor).2
  refine ⟨h.issued, ?_, ?_, ds ++ [⟨unit, inst⟩], ?_, ?_⟩
  · rw [ht, Episode.Record.register_contextual]
    exact h.contextual
  · rw [ht, Episode.Record.register_contextual, Episode.Record.register_bean]
    exact h.bean
  · rw [ht, Episode.Record.register_bean, Episode.arranged_enlist harranged, hadded]
  · exact List.rel_append (hall.imp fun _ _ hd => hd.recall hrecalls)
      (.cons (hy.recall hrecalls) .nil)

theorem Table.put_of_find?_none {κ α : Type} [DecidableEq κ] {key : κ} {value : α}
    {rows : List (κ × α)} (h : find? key rows = none) :
    put key value rows = rows ++ [(key, value)] := by
  induction rows with
  | nil => rfl
  | cons row rows ih =>
    rw [find?] at h
    split at h
    · cases h
    · rename_i hne
      rw [put, if_neg hne, ih h, List.cons_append]

theorem Table.rows_insert {κ α : Type} [DecidableEq κ] {t : Table κ α} {key : κ} (value : α)
    (h : t.get? key = none) : (t.insert key value).rows = t.rows ++ [(key, value)] :=
  put_of_find?_none h

section More

variable {c : ScopeContext} {kind : ScopeKind} {entries : List EntrySnapshot}
  {conversations : List ConversationSnapshot}

theorem ContextSnapshot.Revives.entered {x : EntrySnapshot} {id : ContextualId} {cell : Cell}
    (h : ContextSnapshot.Revives a s ⟨kind, entries, conversations⟩ c) (hst : s.AddsTo a c t)
    (hx : x.Revives a t (id, cell)) (hfree : (s.context c).entries.get? id = none)
    (ht : t.context c = { s.context c with entries := (s.context c).entries.insert id cell }) :
    ContextSnapshot.Revives a t ⟨kind, entries ++ [x], conversations⟩ c := by
  obtain ⟨hissued, hkind, hpassivating, hentries, hnewer, hconversations⟩ := h
  rw [ContextSnapshot.Revives, ht]
  refine ⟨Nat.lt_of_lt_of_le hissued hst.contexts, hkind, hpassivating, ?_, hnewer, ?_⟩
  · change List.Forall₂ _ _ ((s.context c).entries.insert id cell).rows
    rw [Table.rows_insert cell hfree]
    exact List.rel_append (hentries.imp fun _ _ h => h.grow hst) (.cons hx .nil)
  · apply ConversationSnapshot.AllRevive.grow hst conversations _ hconversations
    rintro row hrow _ hle rfl
    exact Nat.not_le_of_lt (hnewer row hrow) hle

theorem ContextSnapshot.Revives.conversed {x : ConversationSnapshot} {id : String}
    {v : Conversation} (h : ContextSnapshot.Revives a s ⟨kind, entries, conversations⟩ c)
    (hst : s.AddsTo a c t) (hx : x.Revives a t (id, v)) (hv : c.number < v.context.number)
    (hfree : c.conversation? id s = none)
    (ht : t.context c =
      { s.context c with conversations := (s.context c).conversations.insert id v }) :
    ContextSnapshot.Revives a t ⟨kind, entries, conversations ++ [x]⟩ c := by
  obtain ⟨hissued, hkind, hpassivating, hentries, hnewer, hconversations⟩ := h
  rw [ContextSnapshot.Revives, ht]
  refine ⟨Nat.lt_of_lt_of_le hissued hst.contexts, hkind, hpassivating,
    hentries.imp fun _ _ h => h.grow hst, ?_⟩
  change (∀ row ∈ ((s.context c).conversations.insert id v).rows, _) ∧
    ConversationSnapshot.AllRevive a t _ ((s.context c).conversations.insert id v).rows
  rw [Table.rows_insert v hfree]
  have hkept : ∀ row ∈ (s.context c).conversations.rows, ∀ y : ScopeContext,
      row.2.context.number ≤ y.number → y ≠ c := by
    rintro row hrow _ hle rfl
    exact Nat.not_le_of_lt (hnewer row hrow) hle
  have hgrown := ConversationSnapshot.AllRevive.grow hst _ _ hconversations hkept
  rw [ConversationSnapshot.allRevive_iff] at hgrown ⊢
  refine ⟨?_, List.rel_append hgrown (.cons hx .nil)⟩
  intro row hrow
  rcases List.mem_append.1 hrow with hrow | hrow
  · exact hnewer row hrow
  · obtain rfl := List.mem_singleton.1 hrow
    exact hv

end More

end ContextualLifecycle
