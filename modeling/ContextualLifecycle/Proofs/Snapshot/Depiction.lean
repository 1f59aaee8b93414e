import ContextualLifecycle.Proofs.Outcome
import ContextualLifecycle.Proofs.ScopeContext.Cells
import ContextualLifecycle.Snapshot.Passivation
import Mathlib.Data.List.Forall2

namespace ContextualLifecycle

variable {σ : Type}

section Reading

variable {α β γ : Type} {s : Store σ}

/-- A step changes nothing, and what it answers, if it does not fail, is as said. -/
def Act.Reads (x : Act σ α) (P : α → Prop) (s : Store σ) : Prop :=
  Act.wp True x (fun r t => t = s ∧ ∀ a, r = .ok a → P a) s

/-- A step changes nothing, and it answers as said. -/
def Act.Answers (x : Act σ α) (P : α → Prop) (s : Store σ) : Prop :=
  Act.wp False x (fun r t => t = s ∧ ∃ a, r = .ok a ∧ P a) s

theorem Act.Reads.bind {x : Act σ α} {f : α → Act σ β} {P : α → Prop} {Q : β → Prop}
    (hx : x.Reads P s) (hf : ∀ a, P a → (f a).Reads Q s) : Act.Reads (x >>= f) Q s := by
  simp only [Act.Reads, Act.wp_bind]
  apply hx.mono
  rintro (error | a) _ ⟨rfl, ha⟩
  · exact ⟨rfl, fun _ h => by cases h⟩
  · exact hf a (ha a rfl)

theorem Act.Answers.imp {x : Act σ α} {P Q : α → Prop} (hx : x.Answers P s)
    (h : ∀ a, P a → Q a) : x.Answers Q s := by
  apply Run.wp.mono hx
  rintro _ _ ⟨hsame, a, ha, hp⟩
  exact ⟨hsame, a, ha, h a hp⟩

theorem Act.Reads.pure {P : α → Prop} {a : α} (ha : P a) :
    Act.Reads (Pure.pure a : Act σ α) P s := by
  rw [Act.Reads, Act.wp_pure]
  refine ⟨rfl, fun b hb => ?_⟩
  cases hb
  exact ha

theorem Act.Answers.bind {x : Act σ α} {f : α → Act σ β} {P : α → Prop} {Q : β → Prop}
    (hx : x.Answers P s) (hf : ∀ a, P a → (f a).Answers Q s) : Act.Answers (x >>= f) Q s := by
  simp only [Act.Answers, Act.wp_bind]
  apply hx.mono
  rintro _ _ ⟨rfl, a, rfl, ha⟩
  exact hf a ha

theorem Act.Answers.pure {P : α → Prop} {a : α} (ha : P a) :
    Act.Answers (Pure.pure a : Act σ α) P s := by
  rw [Act.Answers, Act.wp_pure]
  exact ⟨rfl, a, rfl, ha⟩

theorem Act.Reads.get : Act.Reads (MonadState.get : Act σ (Store σ)) (s = ·) s := by
  rw [Act.Reads, Act.wp_get]
  refine ⟨rfl, fun u hu => ?_⟩
  cases hu
  rfl

theorem Act.Answers.get : Act.Answers (MonadState.get : Act σ (Store σ)) (s = ·) s :=
  Act.wp_get.2 ⟨rfl, s, rfl, rfl⟩

theorem Act.Reads.mapM {f : α → Act σ β} {R : β → α → Prop} {xs : List α}
    (h : ∀ x ∈ xs, (f x).Reads (R · x) s) :
    Act.Reads (xs.mapM f) (fun ys => List.Forall₂ R ys xs) s := by
  induction xs with
  | nil => exact .pure .nil
  | cons x xs ih =>
    rw [List.mapM_cons]
    refine (h x List.mem_cons_self).bind fun y hy => ?_
    refine (ih fun z hz => h z (List.mem_cons_of_mem x hz)).bind fun ys hys => ?_
    exact .pure (.cons hy hys)

theorem Act.Answers.mapM {f : α → Act σ β} {Q : γ → α → Prop} {R : β → γ → Prop} {ws : List γ}
    {xs : List α} (hall : List.Forall₂ Q ws xs) (h : ∀ w x, Q w x → (f x).Answers (R · w) s) :
    Act.Answers (xs.mapM f) (fun ys => List.Forall₂ R ys ws) s := by
  induction hall with
  | nil => exact .pure .nil
  | cons hw _ ih =>
    rw [List.mapM_cons]
    refine (h _ _ hw).bind fun y hy => ih.bind fun ys hys => ?_
    exact .pure (.cons hy hys)

end Reading

/-- Whether a conversation outlasts its request: it is long-running, and was not torn down. -/
def Conversation.lasts (v : Conversation) (s : Store σ) : Bool :=
  !(s.conversation v).transient && !v.isDestroyed s

theorem Conversation.not_lasts (v : Conversation) (s : Store σ) :
    ((s.conversation v).transient || v.isDestroyed s) = !v.lasts s := by
  simp only [lasts, Bool.not_and, Bool.not_not]

/-- The conversations of a context that outlast their request. -/
def ScopeContext.lasting (c : ScopeContext) (s : Store σ) : List (String × Conversation) :=
  (s.context c).conversations.rows.filter fun row => row.2.lasts s

/-- The definitions that a capture of a context comes across. -/
inductive ScopeContext.Involves (s : Store σ) : ScopeContext → Contextual → Prop where
  | entry {c : ScopeContext} {b : Bag} (hb : b ∈ (s.context c).bags) : Involves s c b.contextual
  | owner {c : ScopeContext} {b : Bag} {unit : Contextual} (hb : b ∈ (s.context c).bags)
      (howner : (s.episode b.episode).contextual = some unit) : Involves s c unit
  | dependent {c : ScopeContext} {b : Bag} {d : Dependent} (hb : b ∈ (s.context c).bags)
      (hd : d ∈ (s.episode b.episode).dependents) : Involves s c d.contextual
  | nested {c : ScopeContext} {row : String × Conversation} {unit : Contextual}
      (hrow : row ∈ c.lasting s) (hunit : Involves s row.2.context unit) : Involves s c unit

/-- What a capture depends on: the registered contextuals, the state of each instance among given
surroundings, and the definitions of which all this is known. -/
structure Archive (σ : Type) where
  beans : Beans
  state : σ → Contextual → Instance → Except LifecycleError Json
  covers : Contextual → Prop

namespace Archive

/-- A portable id stands for a definition, and for no other one. -/
structure Names (a : Archive σ) (id : String) (unit : Contextual) : Prop where
  covered : a.covers unit
  portable : a.beans.idOf? unit = some id
  registered : a.beans.get? id = some unit

structure Tells (a : Archive σ) (s : Store σ) (id : String) (state : Json) (unit : Contextual)
    (inst : Instance) : Prop where
  named : a.Names id unit
  kept : unit.keepsState = true
  state : a.state s.surroundings unit inst = .ok state

/-- Surroundings give the state of an instance, and change nothing when they do. -/
def Captures (a : Archive σ) (host : Host σ) : Prop :=
  ∀ unit inst s, a.covers unit →
    (host.capture unit inst).run.run s = some (a.state s.surroundings unit inst, s)

end Archive

variable (a : Archive σ) (s : Store σ)

/-- A snapshot tells of the dependents of an episode in their order. -/
structure EpisodeSnapshot.Lists (x : EpisodeSnapshot) (e : Episode) : Prop where
  contextual : Option.Rel a.Names x.contextual (s.episode e).contextual
  dependents : List.Forall₂ (fun y d => a.Tells s y.contextual y.state d.contextual d.inst)
    x.dependents (s.episode e).dependents

structure EpisodeSnapshot.Depicts (x : EpisodeSnapshot) (e : Episode) : Prop where
  contextual : Option.Rel a.Names x.contextual (s.episode e).contextual
  /-- The dependents in some order. -/
  dependents : ∃ ds : List Dependent, ds.Perm (s.episode e).dependents ∧
    List.Forall₂ (fun y d => a.Tells s y.contextual y.state d.contextual d.inst) x.dependents ds

variable {a s} in
theorem EpisodeSnapshot.Lists.depicts {x : EpisodeSnapshot} {e : Episode} (h : x.Lists a s e) :
    x.Depicts a s e :=
  ⟨h.contextual, _, .refl _, h.dependents⟩

structure EntrySnapshot.Depicts (x : EntrySnapshot) (b : Bag) : Prop where
  instance_ : a.Tells s x.contextual x.state b.contextual b.inst
  episode : x.episode.Depicts a s b.episode

mutual

def ContextSnapshot.Depicts : ContextSnapshot → ScopeContext → Prop
  | ⟨kind, entries, conversations⟩, c => (s.context c).kind = kind ∧ kind.isPassivating = true ∧
      List.Forall₂ (EntrySnapshot.Depicts a s) entries (s.context c).bags ∧
      ConversationSnapshot.DepictAll conversations (c.lasting s)

def ConversationSnapshot.DepictAll :
    List ConversationSnapshot → List (String × Conversation) → Prop
  | [], rows => rows = []
  | x :: xs, rows => ∃ row rest, rows = row :: rest ∧ x.Depicts row ∧
      ConversationSnapshot.DepictAll xs rest

def ConversationSnapshot.Depicts : ConversationSnapshot → String × Conversation → Prop
  | ⟨id, timeoutMs, context⟩, row => row.1 = id ∧
      (s.conversation row.2).timeout.cappedMillis = timeoutMs ∧ context.Depicts row.2.context

end

theorem forall₂_iff_of_cons {α β : Type} {R : α → β → Prop} {All : List α → List β → Prop}
    (hnil : ∀ ys, All [] ys ↔ ys = [])
    (hcons : ∀ x xs ys, All (x :: xs) ys ↔ ∃ y rest, ys = y :: rest ∧ R x y ∧ All xs rest)
    {xs : List α} {ys : List β} : All xs ys ↔ List.Forall₂ R xs ys := by
  induction xs generalizing ys with
  | nil => exact (hnil ys).trans List.forall₂_nil_left_iff.symm
  | cons x xs ih =>
    rw [hcons, List.forall₂_cons_left_iff]
    constructor
    · rintro ⟨y, rest, rfl, hx, hxs⟩
      exact ⟨y, rest, hx, ih.1 hxs, rfl⟩
    · rintro ⟨y, rest, hx, hxs, rfl⟩
      exact ⟨y, rest, rfl, hx, ih.2 hxs⟩

variable {a s} in
theorem ConversationSnapshot.depictAll_iff {xs : List ConversationSnapshot}
    {rows : List (String × Conversation)} : ConversationSnapshot.DepictAll a s xs rows ↔
      List.Forall₂ (ConversationSnapshot.Depicts a s) xs rows :=
  forall₂_iff_of_cons (fun _ => Iff.rfl) fun _ _ _ => Iff.rfl

mutual

/-- How deep conversations are nested, the context itself included. -/
def ContextSnapshot.depth : ContextSnapshot → Nat
  | ⟨_, _, conversations⟩ => ConversationSnapshot.depthOf conversations + 1

def ConversationSnapshot.depthOf : List ConversationSnapshot → Nat
  | [] => 0
  | x :: xs => max x.depth (ConversationSnapshot.depthOf xs)

def ConversationSnapshot.depth : ConversationSnapshot → Nat
  | ⟨_, _, context⟩ => context.depth

end

def Container.captureConversation (host : Host σ) (m : Container) (depth : Nat) (c : ScopeContext)
    (id : String) : Act σ (Option ConversationSnapshot) := do
  let s ← get
  match c.conversation? id s with
  | none => return none
  | some v =>
    if (s.conversation v).transient || v.isDestroyed s then return none
    let timeoutMs := (s.conversation v).timeout.cappedMillis
    return some { id, timeoutMs, context := ← m.captureNested host depth v.context }

theorem Container.captureNested_succ (host : Host σ) (m : Container) (depth : Nat)
    (c : ScopeContext) : m.captureNested host (depth + 1) c = do
      let r := (← get).context c
      unless r.kind.isPassivating do throw (.notPassivationCapable s!"{r.kind.name} context")
      let entries ← r.bags.mapM (m.captureEntry host)
      let ids := ((← get).context c).conversations.keys
      let conversations ← ids.filterMapM (m.captureConversation host depth c)
      return { kind := r.kind, entries, conversations } := rfl

theorem ScopeContext.mem_lasting {c : ScopeContext} {s : Store σ} {row : String × Conversation} :
    row ∈ c.lasting s ↔ c.conversation? row.1 s = some row.2 ∧ row.2.lasts s = true := by
  rw [lasting, List.mem_filter, conversation?, Table.get?_eq_some_iff]

section Capture

variable {a s} {host : Host σ} {m : Container} {c : ScopeContext}

theorem Container.portableId_reads (hbeans : a.beans = (s.container m).beans) (unit : Contextual) :
    Act.Reads (m.portableId unit) (fun id => a.beans.idOf? unit = some id) s := by
  simp only [Act.Reads, Container.portableId, Beans.portableId, Act.wp_bind, Act.wp_get,
    Act.wp_liftExcept, ← hbeans]
  split
  · rename_i id hid
    refine ⟨trivial, fun _ h => ?_⟩
    cases h
    exact hid
  · exact ⟨trivial, fun _ h => by cases h⟩

theorem Container.portableId_answers (hbeans : a.beans = (s.container m).beans) {id : String}
    {unit : Contextual} (h : a.Names id unit) : Act.Answers (m.portableId unit) (· = id) s := by
  have hid := h.portable
  rw [hbeans] at hid
  simp only [Act.Answers, Container.portableId, Beans.portableId, Act.wp_bind, Act.wp_get,
    Act.wp_liftExcept, hid]
  exact ⟨trivial, id, rfl, rfl⟩

theorem Archive.Captures.reads (h : a.Captures host) {unit : Contextual} (hunit : a.covers unit)
    (inst : Instance) : Act.Reads (unit.capture host inst)
      (fun state => unit.keepsState = true ∧ a.state s.surroundings unit inst = .ok state) s := by
  rw [Act.Reads, Contextual.capture]
  split
  · rename_i hkept
    rw [Act.wp_of_run (h unit inst s hunit)]
    exact ⟨rfl, fun _ hstate => ⟨hkept, hstate⟩⟩
  · exact ⟨rfl, fun _ h => by cases h⟩

theorem Archive.Captures.answers (h : a.Captures host) {id : String} {state : Json}
    {unit : Contextual} {inst : Instance} (hinst : a.Tells s id state unit inst) :
    Act.Answers (unit.capture host inst) (· = state) s := by
  rw [Act.Answers, Contextual.capture, if_pos hinst.kept,
    Act.wp_of_run (h unit inst s hinst.named.covered), hinst.state]
  exact ⟨rfl, state, rfl, rfl⟩

def Archive.Knows (a : Archive σ) (unit : Contextual) : Prop :=
  a.covers unit ∧ ∀ id, a.beans.idOf? unit = some id → a.beans.get? id = some unit

theorem Archive.Knows.names {unit : Contextual} (h : a.Knows unit) {id : String}
    (hid : a.beans.idOf? unit = some id) : a.Names id unit :=
  ⟨h.1, hid, h.2 id hid⟩

variable (hbeans : a.beans = (s.container m).beans) (hhost : a.Captures host)

include hbeans hhost

theorem Container.captureDependent_reads {d : Dependent} (hd : a.Knows d.contextual) :
    Act.Reads (m.captureDependent host d)
      (fun y => a.Tells s y.contextual y.state d.contextual d.inst) s := by
  refine (portableId_reads hbeans d.contextual).bind fun id hid => ?_
  refine (hhost.reads hd.1 d.inst).bind fun state hstate => ?_
  exact .pure ⟨hd.names hid, hstate.1, hstate.2⟩

theorem Container.captureEpisode_lists {e : Episode}
    (howner : ∀ unit, (s.episode e).contextual = some unit → a.Knows unit)
    (hdependents : ∀ d ∈ (s.episode e).dependents, a.Knows d.contextual) :
    Act.Reads (m.captureEpisode host e) (fun x => x.Lists a s e) s := by
  have hrest : ∀ contextual, Option.Rel a.Names contextual (s.episode e).contextual →
      Act.Reads (do
        let dependents ← ((← get).episode e).dependents.mapM (m.captureDependent host)
        return { contextual, dependents }) (fun x : EpisodeSnapshot => x.Lists a s e) s := by
    intro contextual hcontextual
    refine Act.Reads.get.bind ?_
    rintro _ rfl
    refine (Act.Reads.mapM fun d hd =>
      captureDependent_reads hbeans hhost (hdependents d hd)).bind fun dependents hall => ?_
    exact .pure ⟨hcontextual, hall⟩
  refine Act.Reads.get.bind ?_
  rintro _ rfl
  split
  · rename_i unit hunit
    refine (portableId_reads hbeans unit).bind fun id hid => hrest (some id) ?_
    rw [hunit]
    exact .some ((howner unit hunit).names hid)
  · rename_i hunit
    refine hrest none ?_
    rw [hunit]
    exact .none

theorem Container.captureEntry_reads {b : Bag} (hb : b ∈ (s.context c).bags)
    (hknown : ∀ unit, c.Involves s unit → a.Knows unit) :
    Act.Reads (m.captureEntry host b) (fun x => x.Depicts a s b) s := by
  have hunit := hknown _ (.entry hb)
  refine (portableId_reads hbeans b.contextual).bind fun id hid => ?_
  refine (hhost.reads hunit.1 b.inst).bind fun state hstate => ?_
  refine (captureEpisode_lists hbeans hhost (fun unit howner => hknown unit (.owner hb howner))
    fun d hd => hknown _ (.dependent hb hd)).bind fun episode hepisode => ?_
  exact .pure ⟨⟨hunit.names hid, hstate.1, hstate.2⟩, hepisode.depicts⟩

omit hbeans hhost in
theorem Container.captureConversation_reads {depth : Nat} {row : String × Conversation}
    (hrow : c.conversation? row.1 s = some row.2)
    (hnested : row ∈ c.lasting s → Act.Reads (m.captureNested host depth row.2.context)
      (fun x => x.Depicts a s row.2.context ∧ x.depth ≤ depth) s) :
    Act.Reads (m.captureConversation host depth c row.1) (fun x => Option.Rel
      (fun x row => x.Depicts a s row ∧ x.depth ≤ depth) x
      (if row.2.lasts s then some row else none)) s := by
  refine Act.Reads.get.bind ?_
  rintro _ rfl
  simp only [hrow, Conversation.not_lasts]
  cases hlasts : row.2.lasts s with
  | false => exact .pure .none
  | true =>
    refine (hnested (ScopeContext.mem_lasting.2 ⟨hrow, hlasts⟩)).bind fun x hx => ?_
    exact .pure (.some ⟨⟨rfl, rfl, hx.1⟩, hx.2⟩)

omit hbeans hhost in
theorem Container.captureConversations_reads {depth : Nat} {rows : List (String × Conversation)}
    (hrows : ∀ row ∈ rows, c.conversation? row.1 s = some row.2)
    (hnested : ∀ row ∈ c.lasting s, Act.Reads (m.captureNested host depth row.2.context)
      (fun x => x.Depicts a s row.2.context ∧ x.depth ≤ depth) s) :
    Act.Reads ((rows.map Prod.fst).filterMapM (m.captureConversation host depth c)) (fun xs =>
      ConversationSnapshot.DepictAll a s xs (rows.filter fun row => row.2.lasts s) ∧
        ConversationSnapshot.depthOf xs ≤ depth) s := by
  induction rows with
  | nil => exact .pure ⟨rfl, Nat.zero_le _⟩
  | cons row rows ih =>
    have hrest := ih fun x hx => hrows x (List.mem_cons_of_mem row hx)
    rw [List.map_cons, List.filterMapM_cons]
    refine (captureConversation_reads (hrows row List.mem_cons_self)
      (hnested row)).bind fun x hx => ?_
    cases hlasts : row.2.lasts s with
    | false =>
      rw [hlasts, if_neg Bool.false_ne_true] at hx
      cases hx
      rw [List.filter_cons_of_neg (by simp [hlasts])]
      exact hrest
    | true =>
      rw [hlasts, if_pos rfl] at hx
      cases hx with
      | some hx =>
        have hfilter : (row :: rows).filter (fun row => row.2.lasts s) =
            row :: rows.filter fun row => row.2.lasts s := List.filter_cons_of_pos hlasts
        rw [hfilter]
        refine hrest.bind fun xs hxs => .pure ⟨⟨row, _, rfl, hx.1, hxs.1⟩, ?_⟩
        exact Nat.max_le.2 ⟨hx.2, hxs.2⟩

/-- What a capture gives depicts the context. -/
theorem Container.captureNested_reads (depth : Nat) : ∀ c : ScopeContext,
    (∀ unit, c.Involves s unit → a.Knows unit) →
    Act.Reads (m.captureNested host depth c) (fun x => x.Depicts a s c ∧ x.depth ≤ depth) s := by
  induction depth with
  | zero =>
    intro c _
    rw [Act.Reads, captureNested, Act.wp_lift, Run.wp_never]
    trivial
  | succ depth ih =>
    intro c hknown
    rw [captureNested_succ]
    refine Act.Reads.get.bind ?_
    rintro _ rfl
    dsimp only
    split
    · rename_i hpassivating
      have hentries := Act.Reads.mapM fun b hb => captureEntry_reads hbeans hhost hb hknown
      refine hentries.bind fun entries hall => ?_
      refine Act.Reads.get.bind ?_
      rintro _ rfl
      have hnested : ∀ row ∈ c.lasting s, _ := fun row hrow =>
        ih row.2.context fun unit hunit => hknown unit (.nested hrow hunit)
      refine (captureConversations_reads (fun row hrow => Table.get?_eq_some_iff.2 hrow)
        hnested).bind fun conversations hconversations => ?_
      exact .pure ⟨⟨rfl, hpassivating, hall, hconversations.1⟩,
        Nat.succ_le_succ hconversations.2⟩
    · exact ⟨rfl, fun _ h => by cases h⟩

end Capture

end ContextualLifecycle
