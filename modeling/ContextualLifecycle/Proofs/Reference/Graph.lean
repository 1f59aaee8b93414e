import ContextualLifecycle.Contextual
import Mathlib.Data.List.Chain
import Mathlib.Data.List.Nodup
import Mathlib.Data.List.Perm.Subperm
import Mathlib.Logic.Relation

namespace ContextualLifecycle

/-- Definitions of shared scopes with distinct ids. Each one asks for its successors in order. -/
structure Graph where
  units : List Contextual
  successors : Contextual → List Contextual
  closed : ∀ u ∈ units, ∀ v ∈ successors u, v ∈ units
  distinct : (units.map (·.id)).Nodup
  shared : ∀ u ∈ units, u.scope ≠ .dependent ∧ u.scope ≠ .conversation

namespace Graph

variable {g : Graph} {u v w last : Contextual} {done walk : List Contextual}

def Edge (g : Graph) (u v : Contextual) : Prop := v ∈ g.successors u

instance (g : Graph) (u v : Contextual) : Decidable (g.Edge u v) :=
  inferInstanceAs (Decidable (v ∈ g.successors u))

def Reach (g : Graph) : Contextual → Contextual → Prop := Relation.ReflTransGen g.Edge

/-- A cycle can be reached. -/
def Cyclic (g : Graph) (u : Contextual) : Prop :=
  ∃ v, g.Reach u v ∧ Relation.TransGen g.Edge v v

/-- A cycle, written out from a definition back to itself. -/
structure IsCycle (g : Graph) (path : List Contextual) : Prop where
  closed : path.head? = path.getLast?
  edges : path.IsChain g.Edge
  simple : path.dropLast.Nodup
  long : 1 < path.length

theorem eq_of_id (hu : u ∈ g.units) (hv : v ∈ g.units) (h : u.id = v.id) : u = v :=
  List.inj_on_of_nodup_map g.distinct hu hv h

theorem length_le (hnodup : walk.Nodup) (hunits : ∀ u ∈ walk, u ∈ g.units) :
    walk.length ≤ g.units.length :=
  (hnodup.subperm hunits).length_le

/-- Definitions after all their successors, the latest first. -/
def Settled (g : Graph) : List Contextual → Prop
  | [] => True
  | u :: rest => (∀ v ∈ g.successors u, v ∈ rest) ∧ g.Settled rest

theorem Settled.edge (h : g.Settled done) (hu : u ∈ done) (huv : g.Edge u v) : v ∈ done := by
  induction done with
  | nil => cases hu
  | cons x rest ih =>
    obtain ⟨hx, hrest⟩ := h
    rcases List.mem_cons.1 hu with rfl | hu
    · exact List.mem_cons_of_mem _ (hx v huv)
    · exact List.mem_cons_of_mem _ (ih hrest hu)

theorem Settled.reach (h : g.Settled done) (hu : u ∈ done) (huv : g.Reach u v) : v ∈ done := by
  induction huv with
  | refl => exact hu
  | tail _ hedge ih => exact h.edge ih hedge

theorem Settled.acyclic (h : g.Settled done) (hnodup : done.Nodup) (hu : u ∈ done) :
    ¬ Relation.TransGen g.Edge u u := by
  induction done with
  | nil => cases hu
  | cons x rest ih =>
    obtain ⟨hx, hrest⟩ := h
    obtain ⟨hnotin, hnodup⟩ := List.nodup_cons.1 hnodup
    rcases List.mem_cons.1 hu with rfl | hu
    · intro hcycle
      obtain ⟨v, huv, hvu⟩ := Relation.TransGen.head'_iff.1 hcycle
      exact hnotin (hrest.reach (hx v huv) hvu)
    · exact ih hrest hnodup hu

theorem Settled.not_cyclic (h : g.Settled done) (hnodup : done.Nodup) (hu : u ∈ done) :
    ¬ g.Cyclic u := by
  rintro ⟨v, huv, hvv⟩
  exact h.acyclic hnodup (h.reach hu huv) hvv

/-- A depth-first search stands on definitions in progress, the innermost first; some are done, the
latest first, and some were given up, the outermost first. -/
structure Search (g : Graph) (gray done failed : List Contextual) : Prop where
  known : ∀ u ∈ failed ++ gray ++ done, u ∈ g.units
  apart : (failed ++ gray ++ done).Nodup
  settled : g.Settled done

variable {gray failed : List Contextual}

theorem Search.start (g : Graph) : g.Search [] [] [] := ⟨by simp, by simp, trivial⟩

theorem Search.enter (h : g.Search gray done []) (hu : u ∈ g.units) (hgray : u ∉ gray)
    (hdone : u ∉ done) : g.Search (u :: gray) done [] where
  known v hv := by
    rcases List.mem_cons.1 hv with rfl | hv
    · exact hu
    · exact h.known v hv
  apart := List.nodup_cons.2 ⟨by simp [hgray, hdone], h.apart⟩
  settled := h.settled

theorem Search.finish (h : g.Search (u :: gray) done []) (hu : ∀ v ∈ g.successors u, v ∈ done) :
    g.Search gray (u :: done) [] := by
  have hmove : (gray ++ u :: done).Perm (u :: gray ++ done) := List.perm_middle
  exact ⟨fun v hv => h.known v (hmove.mem_iff.1 hv), hmove.nodup_iff.2 h.apart, hu, h.settled⟩

theorem Search.fail (h : g.Search (u :: gray) done failed) : g.Search gray done (u :: failed) := by
  have htop : (failed ++ u :: gray).Perm (u :: (failed ++ gray)) := List.perm_middle
  have hmove : (u :: failed ++ gray ++ done).Perm (failed ++ u :: gray ++ done) :=
    htop.symm.append_right done
  exact ⟨fun v hv => h.known v (hmove.mem_iff.1 hv), hmove.nodup_iff.2 h.apart, h.settled⟩

/-- No more definitions are in progress than there are. -/
theorem Search.room (h : g.Search gray done []) : gray.length ≤ g.units.length :=
  length_le (List.nodup_append.1 h.apart).1 fun u hu =>
    h.known u (List.mem_append_left done hu)

/-- A walk along edges from whose end one leads back to a definition on it. -/
structure Trapped (g : Graph) (walk : List Contextual) (last : Contextual) : Prop where
  edges : (walk ++ [last]).IsChain g.Edge
  nodup : walk.Nodup
  back : last ∈ walk

/-- The part of a walk from a definition on, closed by the definition. -/
def ring (walk : List Contextual) (last : Contextual) : List Contextual :=
  walk.dropWhile (· ≠ last) ++ [last]

theorem ring_of_append {front back : List Contextual} (h : last ∉ front) :
    ring (front ++ last :: back) last = last :: back ++ [last] := by
  have hfront : ∀ x ∈ front, decide (x ≠ last) = true := by
    intro x hx
    rw [decide_eq_true_eq]
    rintro rfl
    exact h hx
  rw [ring, List.dropWhile_append_of_pos hfront, List.dropWhile_cons_of_neg (by simp)]

theorem isChain_reach (h : (u :: walk).IsChain g.Edge) (hv : v ∈ u :: walk) : g.Reach u v := by
  induction walk generalizing u with
  | nil =>
    rw [List.mem_singleton] at hv
    rw [hv]
    exact .refl
  | cons w walk ih =>
    rw [List.isChain_cons_cons] at h
    rcases List.mem_cons.1 hv with rfl | hv
    · exact .refl
    · exact .head h.1 (ih h.2 hv)

theorem isChain_concat (h : (walk ++ [u]).IsChain g.Edge) (huv : g.Edge u v) :
    (walk ++ [u] ++ [v]).IsChain g.Edge := by
  rw [List.isChain_append]
  refine ⟨h, .singleton v, ?_⟩
  intro x hx y hy
  rw [List.getLast?_concat] at hx
  cases hx
  cases hy
  exact huv

theorem Trapped.split (h : g.Trapped walk last) :
    ∃ front back, walk = front ++ last :: back ∧ last ∉ front ∧
      (last :: back ++ [last]).IsChain g.Edge ∧ (last :: back).Nodup := by
  obtain ⟨front, back, rfl, hfront⟩ := List.eq_append_cons_of_mem h.back
  refine ⟨front, back, rfl, hfront, ?_, (List.nodup_append.1 h.nodup).2.1⟩
  have hedges := h.edges
  rw [List.append_assoc, List.isChain_append] at hedges
  exact hedges.2.1

theorem Trapped.isCycle (h : g.Trapped walk last) : g.IsCycle (ring walk last) := by
  obtain ⟨front, back, rfl, hfront, hedges, hnodup⟩ := h.split
  rw [ring_of_append hfront]
  refine ⟨?_, hedges, ?_, ?_⟩
  · rw [List.getLast?_concat]
    rfl
  · rw [List.dropLast_concat]
    exact hnodup
  · simp

theorem Trapped.cyclic (h : g.Trapped (u :: walk) last) : g.Cyclic u := by
  have hback := h.back
  obtain ⟨front, back, hwalk, _, hedges, _⟩ := h.split
  have hreach : g.Reach u last :=
    isChain_reach (List.isChain_append.1 h.edges).1 hback
  refine ⟨last, hreach, ?_⟩
  cases back with
  | nil =>
    have hloop : g.Edge last last := (List.isChain_cons_cons.1 hedges).1
    exact .single hloop
  | cons w back =>
    rw [List.cons_append, List.cons_append, List.isChain_cons_cons] at hedges
    have hrest : g.Reach w last := isChain_reach hedges.2 (by simp)
    exact Relation.TransGen.head'_iff.2 ⟨w, hedges.1, hrest⟩

theorem mem_ring (hback : last ∈ walk) (hv : v ∈ ring walk last) : v ∈ walk := by
  rcases List.mem_append.1 hv with hv | hv
  · exact List.dropWhile_sublist _ |>.subset hv
  · rw [List.mem_singleton.1 hv]
    exact hback

end Graph

end ContextualLifecycle
