import ContextualLifecycle.Proofs.Snapshot.Depiction

namespace ContextualLifecycle

variable {σ α β : Type} {stuck : Prop} {host : Host σ} {m : Container} {Inv : Store σ → Prop}

theorem Act.Keeps.bind {x : Act σ α} {f : α → Act σ β} (hx : Act.Keeps stuck Inv x)
    (hf : ∀ a, Act.Keeps stuck Inv (f a)) : Act.Keeps stuck Inv (x >>= f) := by
  intro s hs
  rw [Act.wp_bind]
  apply (hx s hs).mono
  intro r t ht
  cases r with
  | ok a => exact hf a t ht
  | error error => exact ht

theorem Act.Keeps.pure (a : α) : Act.Keeps stuck Inv (Pure.pure a : Act σ α) := fun _ hs => hs

theorem Act.Keeps.get : Act.Keeps stuck Inv (MonadState.get : Act σ (Store σ)) := fun _ hs => hs

theorem Act.Keeps.throw (error : LifecycleError) :
    Act.Keeps stuck Inv (MonadExcept.throw error : Act σ α) := fun _ hs => hs

theorem Act.Keeps.mapM {f : α → Act σ β} (hf : ∀ a, Act.Keeps stuck Inv (f a)) (xs : List α) :
    Act.Keeps stuck Inv (xs.mapM f) := by
  induction xs with
  | nil => exact .pure []
  | cons x xs ih =>
    rw [List.mapM_cons]
    exact (hf x).bind fun y => ih.bind fun ys => .pure (y :: ys)

theorem Act.Keeps.filterMapM {f : α → Act σ (Option β)} (hf : ∀ a, Act.Keeps stuck Inv (f a))
    (xs : List α) : Act.Keeps stuck Inv (xs.filterMapM f) := by
  induction xs with
  | nil => exact .pure []
  | cons x xs ih =>
    rw [List.filterMapM_cons]
    refine (hf x).bind fun y => ?_
    cases y with
    | none => exact ih
    | some y => exact ih.bind fun ys => .pure (y :: ys)

variable (hcapture : ∀ unit inst, Act.Keeps stuck Inv (host.capture unit inst))

include hcapture

theorem Contextual.capture_keeps (unit : Contextual) (inst : Instance) :
    Act.Keeps stuck Inv (unit.capture host inst) := by
  rw [Contextual.capture]
  split
  · exact hcapture unit inst
  · exact .throw _

namespace Container

omit hcapture in
theorem portableId_keeps (unit : Contextual) : Act.Keeps stuck Inv (m.portableId unit) := by
  intro s hs
  simp only [portableId, Act.wp_bind, Act.wp_get, Act.wp_liftExcept]
  exact hs

theorem captureEpisode_keeps (e : Episode) : Act.Keeps stuck Inv (m.captureEpisode host e) := by
  have hdependent : ∀ d, Act.Keeps stuck Inv (m.captureDependent host d) := fun d =>
    (portableId_keeps d.contextual).bind fun _ =>
      (Contextual.capture_keeps hcapture d.contextual d.inst).bind fun _ => .pure _
  have hrest : ∀ contextual, Act.Keeps stuck Inv (do
      let dependents ← ((← get).episode e).dependents.mapM (m.captureDependent host)
      return { contextual, dependents : EpisodeSnapshot }) := fun _ =>
    Act.Keeps.get.bind fun _ => (Act.Keeps.mapM hdependent _).bind fun _ => .pure _
  refine Act.Keeps.get.bind fun s => ?_
  split
  · exact (portableId_keeps _).bind fun id => (Act.Keeps.pure (some id)).bind hrest
  · exact (Act.Keeps.pure none).bind hrest

theorem captureEntry_keeps (b : Bag) : Act.Keeps stuck Inv (m.captureEntry host b) :=
  (portableId_keeps b.contextual).bind fun _ =>
    (Contextual.capture_keeps hcapture b.contextual b.inst).bind fun _ =>
      (captureEpisode_keeps hcapture b.episode).bind fun _ => .pure _

theorem captureNested_keeps (hstuck : stuck) (depth : Nat) (c : ScopeContext) :
    Act.Keeps stuck Inv (m.captureNested host depth c) := by
  induction depth generalizing c with
  | zero => exact fun _ _ => hstuck
  | succ depth ih =>
    rw [captureNested_succ]
    have hconversation : ∀ id, Act.Keeps stuck Inv (m.captureConversation host depth c id) := by
      intro id
      refine Act.Keeps.get.bind fun s => ?_
      split
      · exact .pure _
      · rename_i v _
        split
        · exact .pure _
        · exact (ih v.context).bind fun _ => .pure _
    refine Act.Keeps.get.bind fun s => ?_
    have hrest : Act.Keeps stuck Inv (do
        let entries ← (s.context c).bags.mapM (m.captureEntry host)
        let ids := ((← get).context c).conversations.keys
        let conversations ← ids.filterMapM (m.captureConversation host depth c)
        return { kind := (s.context c).kind, entries, conversations : ContextSnapshot }) :=
      (Act.Keeps.mapM (captureEntry_keeps hcapture) _).bind fun _ => Act.Keeps.get.bind fun _ =>
        (Act.Keeps.filterMapM hconversation _).bind fun _ => .pure _
    dsimp only
    split
    · exact hrest
    · exact .throw _

end Container

end ContextualLifecycle
