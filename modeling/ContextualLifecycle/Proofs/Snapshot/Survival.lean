import ContextualLifecycle.Proofs.Snapshot.Recapture
import ContextualLifecycle.Proofs.Snapshot.Restoration

namespace ContextualLifecycle

variable {σ : Type}

def ScopeContext.lasting? (c : ScopeContext) (s : Store σ) (id : String) : Option Conversation :=
  (c.conversation? id s).filter (·.lasts s)

/-- The dependents of an episode, each with its state. -/
def Archive.owned (a : Archive σ) (s : Store σ) (e : Episode) :
    List (Contextual × Except LifecycleError Json) :=
  (s.episode e).dependents.map fun d => (d.contextual, a.state s.surroundings d.contextual d.inst)

section Survives

variable (a : Archive σ) (s t : Store σ)

structure Bag.Survives (b b' : Bag) : Prop where
  contextual : b'.contextual = b.contextual
  state : ∃ state, a.state s.surroundings b.contextual b.inst = .ok state ∧
    a.state t.surroundings b'.contextual b'.inst = .ok state
  owner : (t.episode b'.episode).contextual = (s.episode b.episode).contextual
  dependents : (a.owned t b'.episode).Perm (a.owned s b.episode)

/-- A conversation is long-running, held by nobody and active, with the timeout in milliseconds. -/
structure Conversation.Survives (id : String) (v w : Conversation) : Prop where
  name : (t.conversation w).id = id
  longRunning : (t.conversation w).transient = false
  free : (t.conversation w).busy = false
  timeout : (t.conversation w).timeout =
    .ofMillis (min (s.conversation v).timeout.millis (UInt64.size - 1))
  active : (t.context w.context).active = true

/-- One context in one store survives as another one in another store. -/
inductive ScopeContext.Survives : ScopeContext → ScopeContext → Prop where
  | intro {c r : ScopeContext}
      (kind : (t.context r).kind = (s.context c).kind)
      (entries : ∀ id, Option.Rel (Bag.Survives a s t) (c.live s id) (r.live t id))
      (full : ∀ id cell, (t.context r).entries.get? id = some cell → (r.live t id).isSome)
      (conversations : ∀ id,
        Option.Rel (Conversation.Survives s t id) (c.lasting? s id) (r.conversation? id t))
      (nested : ∀ id v w, c.lasting? s id = some v → r.conversation? id t = some w →
        Survives v.context w.context) : Survives c r

end Survives

variable {a : Archive σ} {s t : Store σ}

theorem Duration.toNat_cappedMillis (d : Duration) :
    d.cappedMillis.toNat = min d.millis (UInt64.size - 1) := by
  have hlt : min d.millis (UInt64.size - 1) < UInt64.size :=
    Nat.lt_of_le_of_lt (Nat.min_le_right _ _) (by decide)
  exact UInt64.toNat_ofNat_of_lt hlt

theorem Duration.cappedMillis_ofMillis (n : UInt64) : (ofMillis n.toNat).cappedMillis = n := by
  have hle : n.toNat ≤ UInt64.size - 1 := Nat.le_pred_of_lt n.toNat_lt
  rw [← UInt64.toNat_inj, toNat_cappedMillis, millis_ofMillis, Nat.min_eq_left hle]

theorem Archive.Names.unique {id : String} {u v : Contextual} (hu : a.Names id u)
    (hv : a.Names id v) : u = v :=
  Option.some_inj.1 (hu.registered.symm.trans hv.registered)

theorem EpisodeSnapshot.Revives.depicts {x : EpisodeSnapshot} {e : Episode}
    (h : x.Revives a t e) : x.Depicts a t e where
  contextual := h.contextual
  dependents := by
    obtain ⟨ds, hperm, hall⟩ := h.dependents
    exact ⟨ds, hperm, hall.imp fun _ _ hd => hd.toTells⟩

theorem EntrySnapshot.depicts_bags {xs : List EntrySnapshot} {rows : List (ContextualId × Cell)}
    (h : List.Forall₂ (EntrySnapshot.Revives a t) xs rows) :
    List.Forall₂ (EntrySnapshot.Depicts a t) xs ((rows.map Prod.snd).filterMap Cell.bag?) := by
  induction h with
  | nil => exact .nil
  | cons hx _ ih =>
    cases hx with
    | live hinst hepisode => exact .cons ⟨hinst.toTells, hepisode.depicts⟩ ih

mutual

theorem ContextSnapshot.Revives.depicts : (x : ContextSnapshot) → ∀ c : ScopeContext,
    x.Revives a t c → x.Depicts a t c
  | ⟨kind, entries, conversations⟩ => by
    rintro c ⟨-, hkind, hpassivating, hentries, -, hconversations⟩
    exact ⟨hkind, hpassivating, EntrySnapshot.depicts_bags hentries,
      ConversationSnapshot.AllRevive.depicts conversations _ hconversations⟩

theorem ConversationSnapshot.AllRevive.depicts : (xs : List ConversationSnapshot) →
    ∀ rows, ConversationSnapshot.AllRevive a t xs rows →
      ConversationSnapshot.DepictAll a t xs (rows.filter fun row => row.2.lasts t)
  | [] => by
    rintro _ rfl
    rfl
  | x :: xs => by
    rintro _ ⟨row, rest, rfl, hx, hxs⟩
    obtain ⟨hdepicts, hlasts⟩ := ConversationSnapshot.Revives.depicts x row hx
    have hfilter : (row :: rest).filter (fun row => row.2.lasts t) =
        row :: rest.filter fun row => row.2.lasts t := List.filter_cons_of_pos hlasts
    rw [hfilter]
    exact ⟨row, _, rfl, hdepicts, ConversationSnapshot.AllRevive.depicts xs rest hxs⟩

theorem ConversationSnapshot.Revives.depicts : (x : ConversationSnapshot) →
    ∀ row : String × Conversation, x.Revives a t row →
      x.Depicts a t row ∧ row.2.lasts t = true
  | ⟨id, timeoutMs, context⟩ => by
    rintro row ⟨hid, ⟨lastAccess, hrecord⟩, hactive, hcontext⟩
    refine ⟨⟨hid, ?_, ContextSnapshot.Revives.depicts context _ hcontext⟩, ?_⟩
    · rw [hrecord]
      exact Duration.cappedMillis_ofMillis timeoutMs
    · rw [Conversation.lasts, Conversation.isDestroyed, hrecord, hactive]
      rfl

end

theorem forall₂_exists_right {α β : Type} {R : α → β → Prop} {xs : List α} {ys : List β}
    (h : List.Forall₂ R xs ys) {x : α} (hx : x ∈ xs) : ∃ y ∈ ys, R x y := by
  induction h with
  | nil => cases hx
  | cons hxy _ ih =>
    rcases List.mem_cons.1 hx with rfl | hx
    · exact ⟨_, List.mem_cons_self, hxy⟩
    · obtain ⟨y, hy, hxy⟩ := ih hx
      exact ⟨y, List.mem_cons_of_mem _ hy, hxy⟩

theorem forall₂_exists_left {α β : Type} {R : α → β → Prop} {xs : List α} {ys : List β}
    (h : List.Forall₂ R xs ys) {y : β} (hy : y ∈ ys) : ∃ x ∈ xs, R x y :=
  forall₂_exists_right h.flip hy

theorem rel_of_exists {α β : Type} {R : α → β → Prop} {x : Option α} {y : Option β}
    (hright : ∀ v, x = some v → ∃ w, y = some w ∧ R v w)
    (hleft : ∀ w, y = some w → ∃ v, x = some v) : Option.Rel R x y := by
  cases x with
  | none =>
    cases y with
    | none => exact .none
    | some w =>
      obtain ⟨v, hv⟩ := hleft w rfl
      cases hv
  | some v =>
    obtain ⟨w, rfl, hvw⟩ := hright v rfl
    exact .some hvw

theorem ScopeContext.mem_bags {c : ScopeContext} {b : Bag} :
    b ∈ (s.context c).bags ↔ ∃ id, c.live s id = some b := by
  simp only [Record.bags, Table.values, List.mem_filterMap, List.mem_map, live,
    Option.bind_eq_some_iff, Table.get?_eq_some_iff]
  constructor
  · rintro ⟨_, ⟨row, hrow, rfl⟩, hb⟩
    exact ⟨row.1, row.2, hrow, hb⟩
  · rintro ⟨id, cell, hrow, hb⟩
    exact ⟨cell, ⟨(id, cell), hrow, rfl⟩, hb⟩

theorem ScopeContext.lasting?_eq_some_iff {c : ScopeContext} {id : String} {v : Conversation} :
    c.lasting? s id = some v ↔ (id, v) ∈ c.lasting s := by
  rw [lasting?, Option.filter_eq_some_iff, mem_lasting]

theorem DependentSnapshot.survive {ys : List DependentSnapshot} {ds ds' : List Dependent}
    (h : List.Forall₂ (fun y d => a.Tells s y.contextual y.state d.contextual d.inst) ys ds)
    (h' : List.Forall₂ (fun y d => a.Revives t y.contextual y.state d.contextual d.inst) ys ds') :
    ds'.map (fun d => (d.contextual, a.state t.surroundings d.contextual d.inst)) =
      ds.map fun d => (d.contextual, a.state s.surroundings d.contextual d.inst) := by
  induction h generalizing ds' with
  | nil =>
    cases h'
    rfl
  | cons hd _ ih =>
    cases h' with
    | cons hd' hrest =>
      rw [List.map_cons, List.map_cons, ih hrest, hd.state, hd'.state, hd.named.unique hd'.named]

theorem EpisodeSnapshot.Depicts.survives {x : EpisodeSnapshot} {e e' : Episode}
    (h : x.Depicts a s e) (h' : x.Revives a t e') :
    (t.episode e').contextual = (s.episode e).contextual ∧
      (a.owned t e').Perm (a.owned s e) := by
  constructor
  · have howner := h.contextual
    have howner' := h'.contextual
    generalize (s.episode e).contextual = owner at howner ⊢
    generalize (t.episode e').contextual = owner' at howner' ⊢
    generalize x.contextual = id at howner howner'
    cases howner with
    | none => cases howner' with | none => rfl
    | some hnames => cases howner' with | some hnames' => rw [hnames.unique hnames']
  · obtain ⟨ds, hperm, hall⟩ := h.dependents
    obtain ⟨ds', hperm', hall'⟩ := h'.dependents
    have hsame := DependentSnapshot.survive hall hall'
    exact ((hperm'.map _).symm.trans (.of_eq hsame)).trans (hperm.map _)

theorem EntrySnapshot.Depicts.survives {x : EntrySnapshot} {b : Bag} {row : ContextualId × Cell}
    (h : x.Depicts a s b) (h' : x.Revives a t row) :
    ∃ b', row.1 = b.contextual.id ∧ row.2.bag? = some b' ∧ b.Survives a s t b' := by
  cases h' with
  | @live b' serial hinst hepisode =>
    have hunit := hinst.named.unique h.instance_.named
    obtain ⟨howner, hdependents⟩ := h.episode.survives hepisode
    exact ⟨b', by rw [hunit], rfl, hunit, ⟨x.state, h.instance_.state, hinst.state⟩, howner,
      hdependents⟩

theorem EntrySnapshot.survive {c r : ScopeContext} {xs : List EntrySnapshot} (hs : s.Keyed)
    (h : List.Forall₂ (EntrySnapshot.Depicts a s) xs (s.context c).bags)
    (h' : List.Forall₂ (EntrySnapshot.Revives a t) xs (t.context r).entries.rows)
    (id : ContextualId) :
    Option.Rel (Bag.Survives a s t) (c.live s id) (r.live t id) := by
  apply rel_of_exists
  · intro b hb
    obtain ⟨x, hx, hdepicts⟩ := forall₂_exists_left h (ScopeContext.mem_bags.2 ⟨id, hb⟩)
    obtain ⟨row, hrow, hrevives⟩ := forall₂_exists_right h' hx
    obtain ⟨b', hid, hb', hsurvives⟩ := hdepicts.survives hrevives
    refine ⟨b', ?_, hsurvives⟩
    rw [ScopeContext.live, ← hs c id b hb, ← hid, Table.get?_eq_some_iff.2 hrow]
    exact hb'
  · intro b' hb'
    obtain ⟨cell, hcell, hbag⟩ := Option.bind_eq_some_iff.1 hb'
    obtain ⟨x, hx, hrevives⟩ := forall₂_exists_left h' (Table.get?_eq_some_iff.1 hcell)
    obtain ⟨b, hb, hdepicts⟩ := forall₂_exists_right h hx
    obtain ⟨_, hid, _, _⟩ := hdepicts.survives hrevives
    obtain ⟨id', hlive⟩ := ScopeContext.mem_bags.1 hb
    obtain rfl : id = b.contextual.id := hid
    rw [← hs c id' b hlive] at hlive
    exact ⟨b, hlive⟩

theorem ConversationSnapshot.Depicts.survives {x : ConversationSnapshot}
    {row row' : String × Conversation} (h : x.Depicts a s row) (h' : x.Revives a t row') :
    row'.1 = row.1 ∧ row.2.Survives s t row'.1 row'.2 := by
  obtain ⟨id, timeoutMs, context⟩ := x
  obtain ⟨rfl, rfl, -⟩ := h
  obtain ⟨hid, ⟨lastAccess, hrecord⟩, hactive, -⟩ := h'
  refine ⟨hid, ?_, ?_, ?_, ?_, hactive⟩
  · rw [hrecord, hid]
  · rw [hrecord]
  · rw [hrecord]
  · rw [hrecord, Duration.toNat_cappedMillis]

theorem ConversationSnapshot.survive {c r : ScopeContext} {xs : List ConversationSnapshot}
    (h : ConversationSnapshot.DepictAll a s xs (c.lasting s))
    (h' : ConversationSnapshot.AllRevive a t xs (t.context r).conversations.rows) (id : String) :
    Option.Rel (Conversation.Survives s t id) (c.lasting? s id) (r.conversation? id t) := by
  rw [depictAll_iff] at h
  rw [allRevive_iff] at h'
  apply rel_of_exists
  · intro v hv
    obtain ⟨x, hx, hdepicts⟩ := forall₂_exists_left h (ScopeContext.lasting?_eq_some_iff.1 hv)
    obtain ⟨row, hrow, hrevives⟩ := forall₂_exists_right h' hx
    obtain ⟨hid, hsurvives⟩ := hdepicts.survives hrevives
    obtain rfl : row.1 = id := hid
    exact ⟨row.2, Table.get?_eq_some_iff.2 hrow, hsurvives⟩
  · intro w hw
    obtain ⟨x, hx, hrevives⟩ := forall₂_exists_left h' (Table.get?_eq_some_iff.1 hw)
    obtain ⟨row, hrow, hdepicts⟩ := forall₂_exists_right h hx
    obtain ⟨hid, _⟩ := hdepicts.survives hrevives
    obtain rfl : id = row.1 := hid
    exact ⟨row.2, ScopeContext.lasting?_eq_some_iff.2 hrow⟩

mutual

/-- A context survives, if one snapshot depicts it and was restored. -/
theorem ContextSnapshot.survives (hs : s.Keyed) : (x : ContextSnapshot) →
    ∀ c r : ScopeContext, x.Depicts a s c → x.Revives a t r → c.Survives a s t r
  | ⟨kind, entries, conversations⟩ => by
    rintro c r ⟨hkind, -, hentries, hconversations⟩
      ⟨-, hkind', -, hentries', -, hconversations'⟩
    refine .intro (hkind'.trans hkind.symm) (EntrySnapshot.survive hs hentries hentries') ?_
      (ConversationSnapshot.survive hconversations hconversations') ?_
    · intro id cell hcell
      have hrow := Table.get?_eq_some_iff.1 hcell
      obtain ⟨x, _, hrevives⟩ := forall₂_exists_left hentries' hrow
      cases hrevives
      rw [ScopeContext.live, hcell]
      rfl
    · intro id v w hv hw
      rw [ConversationSnapshot.depictAll_iff] at hconversations
      rw [ConversationSnapshot.allRevive_iff] at hconversations'
      obtain ⟨x, hx, hdepicts⟩ :=
        forall₂_exists_left hconversations (ScopeContext.lasting?_eq_some_iff.1 hv)
      obtain ⟨row, hrow, hrevives⟩ := forall₂_exists_right hconversations' hx
      -- The conversation of this id is the one that was restored from the snapshot.
      obtain ⟨hid, _⟩ := hdepicts.survives hrevives
      obtain rfl : row.1 = id := hid
      obtain rfl : row.2 = w := by
        rw [ScopeContext.conversation?, Table.get?_eq_some_iff.2 hrow] at hw
        exact Option.some_inj.1 hw
      exact ConversationSnapshot.nested_survive hs conversations x hx _ _ hdepicts hrevives

theorem ConversationSnapshot.nested_survive (hs : s.Keyed) : (xs : List ConversationSnapshot) →
    ∀ x ∈ xs, ∀ row row' : String × Conversation, x.Depicts a s row → x.Revives a t row' →
      row.2.context.Survives a s t row'.2.context
  | [] => by
    intro x hx
    cases hx
  | ⟨id, timeoutMs, context⟩ :: xs => by
    rintro x hx row row' hdepicts hrevives
    rcases List.mem_cons.1 hx with rfl | hx
    · obtain ⟨_, _, hcontext⟩ := hdepicts
      obtain ⟨_, _, _, hcontext'⟩ := hrevives
      exact ContextSnapshot.survives hs context _ _ hcontext hcontext'
    · exact ConversationSnapshot.nested_survive hs xs x hx row row' hdepicts hrevives

end

end ContextualLifecycle
