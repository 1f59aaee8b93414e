import ContextualLifecycle.Proofs.Container.Requests
import ContextualLifecycle.Proofs.Episode.Conservation

namespace ContextualLifecycle

variable {σ : Type} {s : Store σ}

/-- Each record is listed once, and there is an attempt for each. -/
structure Episode.Record.Orderly (r : Episode.Record) : Prop where
  distinct : Episode.Distinct r.dependents
  factor : 1 ≤ r.teardownFactor.toNat

def Store.Orderly (s : Store σ) : Prop := ∀ e : Episode, (s.episode e).Orderly

namespace Store.Orderly

theorem update (h : s.Orderly) (e : Episode) {f : Episode.Record → Episode.Record}
    (hf : (s.episode e).Orderly → (f (s.episode e)).Orderly) : (e.update f s).Orderly := by
  intro x
  rw [Episode.episode_update]
  split
  · exact hf (h e)
  · exact h x

theorem begun (h : s.Orderly) (contextual : Option Contextual) (outer : Option Foreign)
    (factor : UInt64) : (Episode.new contextual outer factor s).2.Orderly :=
  h.update ⟨s.nextEpisode⟩ (f := fun _ => {
      contextual, bean := contextual.bind Contextual.asBean?, outer,
      teardownFactor := max factor 1 }) fun _ => ⟨List.Pairwise.nil, Episode.one_le_factor factor⟩

theorem registered (h : s.Orderly) (b : Bag) :
    (b.episode.update (·.register b.contextual b.inst) s).Orderly := by
  refine h.update b.episode fun hr => ⟨(Episode.Record.register_keeps _ _ _).1 hr.distinct, ?_⟩
  rw [Episode.Record.register]
  split <;> exact hr.factor

theorem unlisted (h : s.Orderly) (e : Episode) {front back : List Dependent} {d : Dependent}
    (hd : (s.episode e).dependents = front ++ d :: back) :
    (e.relist (front ++ back) s).Orderly := by
  refine h.update e fun hr => ⟨?_, hr.factor⟩
  have hsub : (front ++ back).Sublist (front ++ d :: back) :=
    (List.sublist_cons_self d back).append_left front
  exact (hd ▸ hr.distinct).sublist hsub

variable {host : Host σ}

theorem handles (h : host.Tends True Store.Orderly) : host.Handles fun _ => Store.Orderly where
  remarked _ _ _ _ := id
  destroying _ _ _ := id
  create _ unit e _ hs :=
    (show host.Tends True ((fun _ : List Bag => Store.Orderly) []) from h).gives (fun _ _ _ => id)
      (fun _ _ _ _ => id) unit e hs
  restored _ _ _ := id
  described _ e f s hf hfactor hs :=
    hs.update e fun hr => ⟨by rw [hf]; exact hr.distinct, by rw [hfactor]; exact hr.factor⟩
  begun _ contextual outer factor _ hs := hs.begun contextual outer factor
  registered _ b _ hs := hs.registered b
  unlisted _ e _ _ _ _ hd hs := hs.unlisted e hd
  stacked _ _ _ _ := id
  claimed _ c id s hs := by
    obtain ⟨_, _, heq⟩ := ScopeContext.claimCell_aside c id s
    rw [heq]
    exact hs
  filling _ _ _ _ _ := id
  filled _ _ _ _ _ := id
  dropped _ _ _ _ _ := id
  discarded _ _ _ _ _ := id
  placed _ _ _ _ := id
  taken _ _ _ _ := id
  tends _ := h

theorem upholds (h : host.Keeps True Store.Orderly) : host.Upholds fun _ _ => Store.Orderly where
  handles _ := handles h.tends
  sustains _ := {
    toHandles := handles h.tends
    notify := fun _ => h.notify
    notified := fun _ _ _ _ _ _ => id
    opened := fun _ _ _ => id
    switched := fun _ _ _ _ => id
    emptied := fun _ _ _ => id
    removed := fun _ _ _ _ => id
    vacated := fun _ _ _ _ _ => id
    occupied := fun _ _ _ _ _ _ => id
    shared := fun _ _ _ _ => id }
  added _ _ _ _ _ _ _ := id
  conversed _ _ _ _ _ _ := id
  container _ _ _ _ _ := id
  counted _ _ _ _ := id
  waited _ _ _ _ := id
  rescoped _ _ _ _ _ _ := id
  forgotten _ _ _ _ _ := id
  begun _ _ _ _ := id
  done _ _ _ _ := id
  converse _ _ _ _ _ _ := id
  listed _ _ _ _ _ _ _ hs _ := hs

end Store.Orderly

theorem Program.run_orderly (supply : Supply σ) (p : Program library σ) :
    Act.Keeps True Store.Orderly (p.run supply) := by
  refine Program.run_keeps supply (fun _ => id) (fun _ _ => id) ?_ p
  intro during hduring request s hs
  have hhost := (supply.watched.host_keeps hduring).on request.thread
  exact request.call.perform_upheld (Store.Orderly.upholds hhost) [] []
    (fun b _ _ hs => hs.registered b) s hs

/-- From the empty store on, episodes are in order. -/
theorem Program.orderly (supply : Supply σ) (own : σ) (p : Program library σ)
    {r : Except LifecycleError Unit} {t : Store (Watched library σ)}
    (h : (p.run supply).run.run (Store.watched { surroundings := own }) = some (r, t)) :
    t.Orderly := by
  have hstart : (Store.watched { surroundings := own } : Store (Watched library σ)).Orderly :=
    fun _ => ⟨List.Pairwise.nil, Nat.le_refl 1⟩
  exact (Act.wp_of_run h).1 (p.run_orderly supply _ hstart)

end ContextualLifecycle
