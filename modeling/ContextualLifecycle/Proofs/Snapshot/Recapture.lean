import ContextualLifecycle.Proofs.Snapshot.Depiction
import Mathlib.Data.List.Perm.Basic

namespace ContextualLifecycle

variable {σ : Type}

structure EpisodeSnapshot.Alike (x y : EpisodeSnapshot) : Prop where
  contextual : x.contextual = y.contextual
  dependents : x.dependents.Perm y.dependents

structure EntrySnapshot.Alike (x y : EntrySnapshot) : Prop where
  contextual : x.contextual = y.contextual
  state : x.state = y.state
  episode : x.episode.Alike y.episode

mutual

/-- Two snapshots say the same, but perhaps in another order. -/
def ContextSnapshot.Alike : ContextSnapshot → ContextSnapshot → Prop
  | ⟨kind, entries, conversations⟩, ⟨kind', entries', conversations'⟩ => kind = kind' ∧
      (∃ es, es.Perm entries' ∧ List.Forall₂ EntrySnapshot.Alike entries es) ∧
      ∃ vs, vs.Perm conversations' ∧ ConversationSnapshot.AllAlike conversations vs

def ConversationSnapshot.AllAlike :
    List ConversationSnapshot → List ConversationSnapshot → Prop
  | [], ys => ys = []
  | x :: xs, ys => ∃ y rest, ys = y :: rest ∧ x.Alike y ∧ ConversationSnapshot.AllAlike xs rest

def ConversationSnapshot.Alike : ConversationSnapshot → ConversationSnapshot → Prop
  | ⟨id, timeoutMs, context⟩, ⟨id', timeoutMs', context'⟩ => id = id' ∧ timeoutMs = timeoutMs' ∧
      context.Alike context'

end

namespace Container

variable {a : Archive σ} {s : Store σ} {host : Host σ} {m : Container}
  (hbeans : a.beans = (s.container m).beans) (hhost : a.Captures host)

include hbeans hhost

theorem captureEpisode_again {x : EpisodeSnapshot} {e : Episode} (h : x.Lists a s e) :
    Act.Answers (m.captureEpisode host e) (· = x) s := by
  have hdependent : ∀ y d, a.Tells s y.contextual y.state d.contextual d.inst →
      Act.Answers (m.captureDependent host d) (· = y) s := by
    intro y d hd
    refine (portableId_answers hbeans hd.named).bind ?_
    rintro _ rfl
    refine (hhost.answers hd).bind ?_
    rintro _ rfl
    exact .pure rfl
  have hrest : Act.Answers (do
      let dependents ← ((← get).episode e).dependents.mapM (m.captureDependent host)
      return { contextual := x.contextual, dependents }) (· = x) s := by
    refine Act.Answers.get.bind ?_
    rintro _ rfl
    refine (Act.Answers.mapM h.dependents hdependent).bind fun ys hys => .pure ?_
    rw [List.forall₂_eq_eq_eq] at hys
    rw [hys]
  refine Act.Answers.get.bind ?_
  rintro _ rfl
  have hcontextual := h.contextual
  split
  · rename_i unit hunit
    rw [hunit] at hcontextual
    obtain ⟨id, hid, hnames⟩ : ∃ id, x.contextual = some id ∧ a.Names id unit := by
      generalize x.contextual = o at hcontextual
      cases hcontextual with
      | some hnames => exact ⟨_, rfl, hnames⟩
    rw [hid] at hrest
    refine (portableId_answers hbeans hnames).bind ?_
    rintro _ rfl
    exact hrest
  · rename_i hunit
    rw [hunit] at hcontextual
    have hid : x.contextual = none := by
      generalize x.contextual = o at hcontextual
      cases hcontextual
      rfl
    rw [hid] at hrest
    exact hrest

theorem captureEpisode_answers {x : EpisodeSnapshot} {e : Episode} (h : x.Depicts a s e) :
    Act.Answers (m.captureEpisode host e) (·.Alike x) s := by
  obtain ⟨ds, hperm, hall⟩ := h.dependents
  -- The capture takes the dependents in the order in which the episode has them.
  obtain ⟨ys, hys, hyperm⟩ := List.perm_comp_forall₂ hperm.symm hall.flip
  let y : EpisodeSnapshot := ⟨x.contextual, ys⟩
  have hlists : y.Lists a s e := ⟨h.contextual, hys.flip⟩
  apply (captureEpisode_again hbeans hhost hlists).imp
  rintro _ rfl
  exact ⟨rfl, hyperm⟩

theorem captureEntry_answers {x : EntrySnapshot} {b : Bag} (h : x.Depicts a s b) :
    Act.Answers (m.captureEntry host b) (·.Alike x) s := by
  refine (portableId_answers hbeans h.instance_.named).bind ?_
  rintro _ rfl
  refine (hhost.answers h.instance_).bind ?_
  rintro _ rfl
  refine (captureEpisode_answers hbeans hhost h.episode).bind fun episode hepisode => ?_
  exact .pure ⟨rfl, rfl, hepisode⟩

omit hbeans hhost in
theorem captureConversation_answers {c : ScopeContext} {depth : Nat} {row : String × Conversation}
    {x : ConversationSnapshot} (hrow : c.conversation? row.1 s = some row.2)
    (hlasts : row.2.lasts s = true) (h : x.Depicts a s row) (hdepth : x.depth ≤ depth)
    (hnested : ∀ y : ContextSnapshot, y.Depicts a s row.2.context → y.depth ≤ depth →
      Act.Answers (m.captureNested host depth row.2.context) (·.Alike y) s) :
    Act.Answers (m.captureConversation host depth c row.1) (fun o => ∃ y, o = some y ∧ y.Alike x)
      s := by
  obtain ⟨id, timeoutMs, context⟩ := x
  obtain ⟨rfl, rfl, hcontext⟩ := h
  refine Act.Answers.get.bind ?_
  rintro _ rfl
  simp only [hrow, Conversation.not_lasts, hlasts]
  refine (hnested context hcontext hdepth).bind fun y hy => ?_
  exact .pure ⟨_, rfl, rfl, rfl, hy⟩

omit hbeans hhost in
theorem captureConversations_answers {c : ScopeContext} {depth : Nat}
    (hnested : ∀ row ∈ c.lasting s, ∀ y : ContextSnapshot, y.Depicts a s row.2.context →
      y.depth ≤ depth → Act.Answers (m.captureNested host depth row.2.context) (·.Alike y) s)
    {rows : List (String × Conversation)}
    (hrows : ∀ row ∈ rows, c.conversation? row.1 s = some row.2) {xs : List ConversationSnapshot}
    (h : ConversationSnapshot.DepictAll a s xs (rows.filter fun row => row.2.lasts s))
    (hdepth : ConversationSnapshot.depthOf xs ≤ depth) :
    Act.Answers ((rows.map Prod.fst).filterMapM (m.captureConversation host depth c))
      (fun ys => ConversationSnapshot.AllAlike ys xs) s := by
  induction rows generalizing xs with
  | nil =>
    cases xs with
    | nil => exact .pure rfl
    | cons x xs =>
      obtain ⟨_, _, hcons, _⟩ := h
      cases hcons
  | cons row rows ih =>
    have hrow := hrows row List.mem_cons_self
    have hrest := fun x hx => hrows x (List.mem_cons_of_mem row hx)
    rw [List.map_cons, List.filterMapM_cons]
    cases hlasts : row.2.lasts s with
    | false =>
      rw [List.filter_cons_of_neg (by simp [hlasts])] at h
      have hnone : Act.Answers (m.captureConversation host depth c row.1) (none = ·) s := by
        refine Act.Answers.get.bind ?_
        rintro _ rfl
        simp only [hrow, Conversation.not_lasts, hlasts]
        exact .pure rfl
      refine hnone.bind ?_
      rintro _ rfl
      exact ih hrest h hdepth
    | true =>
      have hfilter : (row :: rows).filter (fun row => row.2.lasts s) =
          row :: rows.filter fun row => row.2.lasts s := List.filter_cons_of_pos hlasts
      rw [hfilter] at h
      cases xs with
      | nil => cases h
      | cons x xs =>
        obtain ⟨_, _, hcons, hx, hxs⟩ := h
        cases hcons
        obtain ⟨hxdepth, hxsdepth⟩ := Nat.max_le.1 hdepth
        have hlasting := ScopeContext.mem_lasting.2 ⟨hrow, hlasts⟩
        refine (captureConversation_answers hrow hlasts hx hxdepth
          (hnested row hlasting)).bind ?_
        rintro _ ⟨y, rfl, hy⟩
        exact (ih hrest hxs hxsdepth).bind fun ys hys => .pure ⟨x, xs, rfl, hy, hys⟩

/-- A context that a snapshot depicts is captured as one that says the same. -/
theorem captureNested_answers (depth : Nat) : ∀ (c : ScopeContext) (x : ContextSnapshot),
    x.Depicts a s c → x.depth ≤ depth →
    Act.Answers (m.captureNested host depth c) (·.Alike x) s := by
  induction depth with
  | zero =>
    rintro c ⟨kind, entries, conversations⟩ _ hdepth
    exact absurd hdepth (Nat.not_succ_le_zero _)
  | succ depth ih =>
    rintro c ⟨kind, entries, conversations⟩ ⟨rfl, hpassivating, hentries, hconversations⟩ hdepth
    rw [captureNested_succ]
    refine Act.Answers.get.bind ?_
    rintro _ rfl
    dsimp only
    rw [if_pos hpassivating]
    have hcaptured := Act.Answers.mapM hentries fun x b hb =>
      captureEntry_answers hbeans hhost hb
    refine hcaptured.bind fun es hes => ?_
    refine Act.Answers.get.bind ?_
    rintro _ rfl
    refine (captureConversations_answers (fun row _ => ih row.2.context)
      (fun row hrow => Table.get?_eq_some_iff.2 hrow) hconversations
      (Nat.le_of_succ_le_succ hdepth)).bind fun vs hvs => ?_
    exact .pure ⟨rfl, ⟨entries, .refl _, hes⟩, conversations, .refl _, hvs⟩

end Container

end ContextualLifecycle
