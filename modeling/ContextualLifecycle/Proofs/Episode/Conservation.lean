import ContextualLifecycle.Proofs.Episode.Teardown
import ContextualLifecycle.Proofs.Journal
import ContextualLifecycle.Proofs.Surroundings

namespace ContextualLifecycle

open scoped List

variable {σ τ : Type} {stuck : Prop}

/-- The dependent that an event starts to destroy on behalf of an episode. -/
def Event.destroyedFor? (e : Episode) : Event → Option Dependent
  | .destroying unit inst x => if x = e then some ⟨unit, inst⟩ else none
  | _ => none

def Store.destroyedSince (start : Nat) (e : Episode) (s : Store σ) : List Dependent :=
  (s.journal.toList.drop start).filterMap (Event.destroyedFor? e)

theorem Store.destroyedSince_note {start : Nat} {s : Store σ} (hs : start ≤ s.journal.size)
    (e : Episode) (event : Event) :
    (s.note event).destroyedSince start e =
      s.destroyedSince start e ++ (event.destroyedFor? e).toList :=
  since_note hs event

theorem Store.destroyedSince_destroying {start : Nat} {s : Store σ} (hs : start ≤ s.journal.size)
    (e : Episode) (unit : Contextual) (inst : Instance) :
    (s.note (.destroying unit inst e)).destroyedSince start e =
      s.destroyedSince start e ++ [⟨unit, inst⟩] := by
  rw [Store.destroyedSince_note hs, Event.destroyedFor?, if_pos rfl, Option.toList_some]

theorem Store.destroyedSince_note_of_none {start : Nat} {s : Store σ} {e : Episode} {event : Event}
    (hs : start ≤ s.journal.size) (hevent : event.destroyedFor? e = none) :
    (s.note event).destroyedSince start e = s.destroyedSince start e := by
  rw [Store.destroyedSince_note hs, hevent, Option.toList_none, List.append_nil]

theorem Store.destroyedSince_size (e : Episode) (s : Store σ) :
    s.destroyedSince s.journal.size e = [] :=
  since_size (Event.destroyedFor? e) s

/-- The same definition to storage and the very same instance. -/
def Dependent.Twin (a b : Dependent) : Prop := a.contextual.id = b.contextual.id ∧ a.inst = b.inst

theorem Dependent.isFor_iff (d : Dependent) (unit : Contextual) (inst : Instance) :
    d.isFor unit inst = true ↔ d.Twin ⟨unit, inst⟩ := by
  simp [isFor, Contextual.agrees, Twin]

theorem Dependent.Twin.symm {a b : Dependent} (h : a.Twin b) : b.Twin a := ⟨h.1.symm, h.2.symm⟩

namespace Episode

theorem Record.owns_iff (r : Episode.Record) (unit : Contextual) (inst : Instance) :
    r.owns unit inst = true ↔ ∃ d ∈ r.dependents, d.Twin ⟨unit, inst⟩ := by
  simp only [owns, List.any_eq_true, Dependent.isFor_iff]

theorem Record.register_cases (r : Episode.Record) (unit : Contextual) (inst : Instance) :
    ((∃ d ∈ r.dependents, d.Twin ⟨unit, inst⟩) ∧ r.register unit inst = r) ∨
      (∀ d ∈ r.dependents, ¬ d.Twin ⟨unit, inst⟩) ∧
        ((r.register unit inst).dependents = ⟨unit, inst⟩ :: r.dependents ∨
          (r.register unit inst).dependents = r.dependents ++ [⟨unit, inst⟩]) := by
  rw [register]
  split
  · rename_i h
    exact .inl ⟨(r.owns_iff unit inst).1 h, rfl⟩
  · rename_i h
    refine .inr ⟨fun d hd ht => h ((r.owns_iff unit inst).2 ⟨d, hd, ht⟩), ?_⟩
    by_cases hown : r.bean.any unit.isSame = true
    · exact .inl (by simp only [hown, ↓reduceIte])
    · exact .inr (by simp only [hown, Bool.false_eq_true, ↓reduceIte])

/-- What the surroundings may call on an episode. -/
inductive Call where
  | add (unit : Contextual) (inst : Option Instance)
  | contains (unit : Contextual) (inst : Instance)
  | destroy (inst : Instance)
  | release

def Call.Answer : Call → Type
  | add .. => Unit
  | contains .. => Bool
  | destroy _ => Bool
  | release => Unit

def interface (e : Episode) : Interface where
  Call := Call
  Answer := Call.Answer
  perform host
    | .add unit inst => modify (e.addDependent unit inst)
    | .contains unit inst => return ((← get).episode e).owns unit inst
    | .destroy inst => e.destroyDependent host inst
    | .release => e.release host

def accepted? (e : Episode) : Sighting e.interface → Option Dependent
  | .call (Call.add unit (some inst)) before _ after =>
    if (after.episode e).dependents = (before.episode e).dependents then none
    else some ⟨unit, inst⟩
  | _ => none

def accepted (e : Episode) (seen : List (Sighting e.interface)) : List Dependent :=
  seen.filterMap e.accepted?

def Distinct (dependents : List Dependent) : Prop := dependents.Pairwise fun a b => ¬ a.Twin b

theorem Record.register_keeps (r : Episode.Record) (unit : Contextual) (inst : Instance) :
    (Distinct r.dependents → Distinct (r.register unit inst).dependents) ∧
      r.dependents.Sublist (r.register unit inst).dependents := by
  obtain ⟨_, hsame⟩ | ⟨hnew, hplace⟩ := r.register_cases unit inst
  · rw [hsame]
    exact ⟨id, List.Sublist.refl _⟩
  · rcases hplace with hplace | hplace
    · rw [hplace]
      exact ⟨fun h => List.pairwise_cons.2 ⟨fun d hd ht => hnew d hd ht.symm, h⟩,
        List.sublist_cons_self _ _⟩
    · rw [hplace]
      refine ⟨fun h => List.pairwise_append.2 ⟨h, List.pairwise_singleton _ _, ?_⟩,
        List.sublist_append_left _ _⟩
      intro d hd x hx
      rw [List.mem_singleton] at hx
      exact hx ▸ hnew d hd

/-- Accepted registrations are listed or destroyed, each once, and no two listed ones are twins. -/
structure Conserved (e : Episode) (start : Nat) (seen : List (Sighting e.interface))
    (s : Store τ) : Prop where
  accounted : (e.accepted seen).Perm ((s.episode e).dependents ++ s.destroyedSince start e)
  distinct : Distinct (s.episode e).dependents

/-- A refused registration had no instance, or a twin was listed. -/
def Justified (e : Episode) (seen : List (Sighting e.interface)) : Prop :=
  ∀ unit inst before answer after,
    (.call (Call.add unit inst) before answer after : Sighting e.interface) ∈ seen →
    (after.episode e).dependents = (before.episode e).dependents →
    inst = none ∨ ∃ d ∈ (before.episode e).dependents,
      d.contextual.id = unit.id ∧ inst = some d.inst

/-- The same for an episode that held dependents at the start. -/
structure Tallied (e : Episode) (start : Nat) (held : List Dependent)
    (seen : List (Sighting e.interface)) (s : Store τ) : Prop where
  accounted :
    (held ++ e.accepted seen).Perm ((s.episode e).dependents ++ s.destroyedSince start e)
  distinct : Distinct held → Distinct (s.episode e).dependents

/-- The books of a run are right: at present, at each moment before, and for each refusal. -/
structure Balanced (e : Episode) (start : Nat) (held : List Dependent)
    (s : Store (Watched e.interface σ)) : Prop where
  started : start ≤ s.journal.size
  now : e.Tallied start held s.seen s
  moments : ∀ m older, .moment m :: older <:+ s.seen → e.Tallied start held older m
  refusals : e.Justified s.seen

variable {e : Episode} {start : Nat} {held : List Dependent}

/-- A dependent that is taken out and destroyed moves from one side of the books to the other. -/
theorem Tallied.taken {seen : List (Sighting e.interface)} {s : Store σ}
    (h : e.Tallied start held seen s) (hs : start ≤ s.journal.size) {front back : List Dependent}
    {d : Dependent} (hd : (s.episode e).dependents = front ++ d :: back) :
    e.Tallied start held seen
      ((e.relist (front ++ back) s).note (.destroying d.contextual d.inst e)) := by
  have hlist : (((e.relist (front ++ back) s).note
      (.destroying d.contextual d.inst e)).episode e).dependents = front ++ back := by
    simp only [episode_note, episode_relist]
  have hgone : ((e.relist (front ++ back) s).note
      (.destroying d.contextual d.inst e)).destroyedSince start e =
        s.destroyedSince start e ++ [d] :=
    Store.destroyedSince_destroying (by exact hs) ..
  constructor
  · rw [hlist, hgone]
    have hmove : (front ++ d :: back).Perm (front ++ back ++ [d]) :=
      List.perm_middle.trans (List.perm_append_singleton d _).symm
    calc held ++ e.accepted seen
      _ ~ front ++ d :: back ++ s.destroyedSince start e := hd ▸ h.accounted
      _ ~ front ++ back ++ [d] ++ s.destroyedSince start e := hmove.append_right _
      _ ~ front ++ back ++ (s.destroyedSince start e ++ [d]) := by
        rw [List.append_assoc _ [d]]
        exact List.perm_append_comm.append_left _
  · rw [hlist]
    have hsub : (front ++ back).Sublist (front ++ d :: back) :=
      (List.sublist_cons_self d back).append_left front
    exact fun hheld => (hd ▸ h.distinct hheld).sublist hsub

theorem Balanced.taken {s : Store (Watched e.interface σ)} (h : e.Balanced start held s)
    {front back : List Dependent} {d : Dependent}
    (hd : (s.episode e).dependents = front ++ d :: back) :
    e.Balanced start held
      ((e.relist (front ++ back) s).note (.destroying d.contextual d.inst e)) where
  started := Nat.le_trans h.started (by simp [Store.note, relist, update, Store.setEpisode])
  now := h.now.taken h.started hd
  moments := h.moments
  refusals := h.refusals

theorem Balanced.noted {s : Store (Watched e.interface σ)} (h : e.Balanced start held s)
    {event : Event} (hevent : event.destroyedFor? e = none) :
    e.Balanced start held (s.note event) where
  started := Nat.le_trans h.started (by simp [Store.note])
  now := by
    refine ⟨?_, h.now.distinct⟩
    rw [Store.destroyedSince_note_of_none h.started hevent]
    exact h.now.accounted
  moments := h.moments
  refusals := h.refusals

theorem Balanced.flagged {s : Store (Watched e.interface σ)} (h : e.Balanced start held s)
    (destroying : Bool) : e.Balanced start held (e.setDestroying destroying s) where
  started := h.started
  now := by
    constructor
    · rw [episode_setDestroying]
      exact h.now.accounted
    · rw [episode_setDestroying]
      exact h.now.distinct
  moments := h.moments
  refusals := h.refusals

theorem Balanced.sawMoment {s : Store (Watched e.interface σ)} (h : e.Balanced start held s) :
    e.Balanced start held s.sawMoment where
  started := h.started
  now := ⟨h.now.accounted, h.now.distinct⟩
  moments m older hm := by
    rw [Store.sawMoment, Store.seen_saw, List.suffix_cons_iff] at hm
    rcases hm with hm | hm
    · cases hm
      exact ⟨h.now.accounted, h.now.distinct⟩
    · exact h.moments m older hm
  refusals unit inst before answer after hmem := by
    rw [Store.sawMoment, Store.seen_saw, List.mem_cons] at hmem
    exact h.refusals unit inst before answer after (hmem.resolve_left (by simp))

theorem Balanced.sawCall {s : Store (Watched e.interface σ)} (h : e.Balanced start held s)
    (op : Episode.Call) (hop : ∀ unit inst, op ≠ .add unit inst)
    (before : Store (Watched e.interface σ)) (answer : Except LifecycleError op.Answer) :
    e.Balanced start held (s.saw (.call (op : e.interface.Call) before.bare answer s.bare)) := by
  have haccepted :
      e.accepted? (.call (op : e.interface.Call) before.bare answer s.bare) = none := by
    cases op with
    | add unit inst => exact absurd rfl (hop unit inst)
    | _ => rfl
  refine ⟨h.started, ⟨?_, h.now.distinct⟩, fun m older hm => ?_, fun unit inst b a t hmem => ?_⟩
  · rw [Store.seen_saw, accepted, List.filterMap_cons_none haccepted]
    exact h.now.accounted
  · rw [Store.seen_saw, List.suffix_cons_iff] at hm
    exact h.moments m older (hm.resolve_left (by simp))
  · rw [Store.seen_saw, List.mem_cons] at hmem
    refine h.refusals unit inst b a t (hmem.resolve_left fun heq => ?_)
    cases heq
    exact hop unit inst rfl

theorem addDependent_cases (e : Episode) (unit : Contextual) (inst : Option Instance)
    (s : Store σ) (answer : Except LifecycleError Unit) :
    let after := e.addDependent unit inst s
    let sighting : Sighting e.interface := .call (Call.add unit inst) s.bare answer after.bare
    (e.accepted? sighting = none ∧ (after.episode e).dependents = (s.episode e).dependents ∧
        (inst = none ∨ ∃ d ∈ (s.episode e).dependents,
          d.contextual.id = unit.id ∧ inst = some d.inst)) ∨
      ∃ new : Dependent, e.accepted? sighting = some new ∧
        (∀ d ∈ (s.episode e).dependents, ¬ d.Twin new) ∧
        (after.episode e).dependents ≠ (s.episode e).dependents ∧
        ((after.episode e).dependents = new :: (s.episode e).dependents ∨
          (after.episode e).dependents = (s.episode e).dependents ++ [new]) := by
  intro after sighting
  cases inst with
  | none => exact .inl ⟨rfl, rfl, .inl rfl⟩
  | some inst =>
    have hafter : after.episode e = (s.episode e).register unit inst := episode_update_self e _ s
    have hseen : e.accepted? sighting =
        if (after.episode e).dependents = (s.episode e).dependents then none
        else some ⟨unit, inst⟩ := rfl
    obtain ⟨⟨d, hd, htwin⟩, hsame⟩ | ⟨hnew, hplace⟩ :=
      (s.episode e).register_cases unit inst
    · have hlist : (after.episode e).dependents = (s.episode e).dependents := by
        rw [hafter, hsame]
      refine .inl ⟨by rw [hseen, if_pos hlist], hlist, .inr ⟨d, hd, htwin.1, ?_⟩⟩
      exact congrArg some htwin.2.symm
    · rw [← hafter] at hplace
      -- The list tells an accepted registration from a refused one by its length.
      have hgrown : (after.episode e).dependents ≠ (s.episode e).dependents := by
        intro h
        have hlength := congrArg List.length h
        rcases hplace with hplace | hplace <;>
          simp only [hplace, List.length_cons, List.length_append, List.length_nil] at hlength <;>
          omega
      exact .inr ⟨⟨unit, inst⟩, by rw [hseen, if_neg hgrown], hnew, hgrown, hplace⟩

theorem Balanced.sawAdd {s : Store (Watched e.interface σ)} (h : e.Balanced start held s)
    (unit : Contextual) (inst : Option Instance) (answer : Except LifecycleError Unit) :
    let after := e.addDependent unit inst s
    e.Balanced start held
      (after.saw (.call (Call.add unit inst : e.interface.Call) s.bare answer after.bare)) := by
  intro after
  have hjournal : after.journal = s.journal := by cases inst <;> rfl
  have hseen : after.seen = s.seen := by cases inst <;> rfl
  have hgone : after.destroyedSince start e = s.destroyedSince start e := by
    rw [Store.destroyedSince, hjournal]
    rfl
  have hcases := addDependent_cases e unit inst s answer
  refine ⟨hjournal ▸ h.started, ⟨?_, ?_⟩, fun m older hm => ?_, fun u i b a t hmem hsame => ?_⟩
  · change (held ++ e.accepted (_ :: after.seen)).Perm
      ((after.episode e).dependents ++ after.destroyedSince start e)
    rw [hseen, hgone, accepted]
    obtain ⟨hnone, hlist, _⟩ | ⟨new, hsome, _, _, hplace⟩ := hcases
    · rw [List.filterMap_cons_none hnone, hlist]
      exact h.now.accounted
    · rw [List.filterMap_cons_some hsome]
      have hentered : held ++ new :: e.accepted s.seen ~
          new :: (s.episode e).dependents ++ s.destroyedSince start e :=
        List.perm_middle.trans (h.now.accounted.cons new)
      rcases hplace with hplace | hplace
      · rw [hplace]
        exact hentered
      · rw [hplace]
        exact hentered.trans ((List.perm_append_singleton new _).symm.append_right _)
  · intro hheld
    change Distinct (after.episode e).dependents
    have hlisted := h.now.distinct hheld
    obtain ⟨_, hlist, _⟩ | ⟨new, _, hnew, _, hplace⟩ := hcases
    · rw [hlist]
      exact hlisted
    · rcases hplace with hplace | hplace
      · rw [hplace]
        exact List.pairwise_cons.2 ⟨fun d hd ht => hnew d hd ht.symm, hlisted⟩
      · rw [hplace]
        refine List.pairwise_append.2 ⟨hlisted, List.pairwise_singleton _ _, ?_⟩
        intro d hd x hx
        rw [List.mem_singleton] at hx
        exact hx ▸ hnew d hd
  · rw [Store.seen_saw, hseen, List.suffix_cons_iff] at hm
    exact h.moments m older (hm.resolve_left (by simp))
  · rw [Store.seen_saw, hseen, List.mem_cons] at hmem
    rcases hmem with hmem | hmem
    · cases hmem
      obtain ⟨_, _, hwhy⟩ | ⟨_, _, _, hgrown, _⟩ := hcases
      · exact hwhy
      · exact absurd hsame hgrown
    · exact h.refusals u i b a t hmem hsame

theorem Balanced.watched (e : Episode) (s : Store σ) :
    e.Balanced s.journal.size (s.episode e).dependents
      (s.watched : Store (Watched e.interface σ)) := by
  refine ⟨Nat.le_refl _, ⟨?_, id⟩, fun m older h => ?_, fun _ _ _ _ _ h => ?_⟩
  · change ((s.episode e).dependents ++ []).Perm
      ((s.episode e).dependents ++ s.destroyedSince s.journal.size e)
    rw [Store.destroyedSince_size]
  · simp [Store.seen, Store.watched, Store.among] at h
  · simp [Store.seen, Store.watched, Store.among] at h

theorem Balanced.releaseKeeps {supply : Supply σ}
    {during : Callback → Act (Watched e.interface σ) Unit}
    (hduring : ∀ cb, Act.Keeps stuck (e.Balanced start held) (during cb)) :
    ReleaseKeeps stuck (supply.watched.host during) e (e.Balanced start held) where
  taken _ _ _ _ h hd := h.taken hd
  reported _ _ h := h.noted rfl
  destroy _ _ := hduring _
  flagged _ _ h := h.flagged _
  released _ _ h := h.noted rfl
  release _ := hduring _

/-- Every program keeps the books. -/
theorem Balanced.run (supply : Supply σ) (p : Program e.interface σ) :
    Act.Keeps stuck (e.Balanced start held) (p.run supply) := by
  refine p.run_keeps supply (fun s h => h.sawMoment)
    (fun own s h => ⟨h.started, ⟨h.now.accounted, h.now.distinct⟩, h.moments, h.refusals⟩)
    fun during hduring op s h => ?_
  have hkeeps : ReleaseKeeps stuck (supply.watched.host during) e (e.Balanced start held) :=
    Balanced.releaseKeeps hduring
  cases op with
  | add unit inst => exact h.sawAdd unit inst (.ok ())
  | contains unit inst => exact h.sawCall (.contains unit inst) (by simp) s _
  | destroy inst =>
    exact (hkeeps.destroyDependent inst s h).mono fun answer t ht =>
      ht.sawCall (.destroy inst) (by simp) s answer
  | release =>
    exact (hkeeps.release_keeps s h).mono fun answer t ht =>
      ht.sawCall .release (by simp) s answer

/-- Dependents are conserved. From the making of an episode on, in every run of calls on it, nested
in callbacks to any depth, each accepted registration is at every moment either listed or destroyed,
once; no two listed ones are twins; and only a missing instance or a listed twin is refused. -/
theorem dependents_conserved (supply : Supply σ) (contextual : Option Contextual)
    (outer : Option Foreign) (factor : UInt64) (s₀ : Store σ) :
    let e := (Episode.new contextual outer factor s₀).1
    let s := (Episode.new contextual outer factor s₀).2
    ∀ p : Program e.interface σ, ∃ r t, (p.run supply).run.run s.watched = some (r, t) ∧
      e.Conserved s.journal.size t.seen t ∧
      (∀ m older, .moment m :: older <:+ t.seen → e.Conserved s.journal.size older m) ∧
      e.Justified t.seen := by
  intro e s p
  have hempty : (s.episode e).dependents = [] :=
    congrArg Episode.Record.dependents (episode_new contextual outer factor s₀)
  have hstart : e.Balanced s.journal.size [] (s.watched : Store (Watched e.interface σ)) :=
    hempty ▸ Balanced.watched e s
  have htallied : ∀ {seen : List (Sighting e.interface)} {τ : Type} {u : Store τ},
      e.Tallied s.journal.size [] seen u → e.Conserved s.journal.size seen u :=
    fun h => ⟨h.accounted, h.distinct .nil⟩
  obtain ⟨r, t, hrun, ht⟩ := Act.wp_false_iff.1 (Balanced.run supply p _ hstart)
  exact ⟨r, t, hrun, htallied ht.now, fun m older h => htallied (ht.moments m older h), ht.refusals⟩

end Episode

end ContextualLifecycle
