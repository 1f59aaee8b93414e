import ContextualLifecycle.Proofs.Snapshot.Depiction

namespace ContextualLifecycle

variable {σ α β : Type}

def EpisodeSnapshot.ids (x : EpisodeSnapshot) : List String :=
  x.contextual.toList ++ x.dependents.map (·.contextual)

def EntrySnapshot.ids (x : EntrySnapshot) : List String := x.contextual :: x.episode.ids

mutual

def ContextSnapshot.ids : ContextSnapshot → List String
  | ⟨_, entries, conversations⟩ =>
    entries.flatMap EntrySnapshot.ids ++ ConversationSnapshot.allIds conversations

def ConversationSnapshot.allIds : List ConversationSnapshot → List String
  | [] => []
  | v :: vs => v.ids ++ ConversationSnapshot.allIds vs

def ConversationSnapshot.ids : ConversationSnapshot → List String
  | ⟨_, _, context⟩ => context.ids

end

theorem ConversationSnapshot.mem_allIds {id : String} {vs : List ConversationSnapshot} :
    id ∈ ConversationSnapshot.allIds vs ↔ ∃ v ∈ vs, id ∈ v.ids := by
  induction vs with
  | nil => simp [allIds]
  | cons v vs ih => simp [allIds, ih]

def Beans.Names (beans : Beans) (involved : Contextual → Prop) (id : String) : Prop :=
  ∃ unit, involved unit ∧ beans.idOf? unit = some id

/-- The definitions that a capture of an episode comes across. -/
def Episode.Involves (s : Store σ) (e : Episode) (unit : Contextual) : Prop :=
  (s.episode e).contextual = some unit ∨ ∃ d ∈ (s.episode e).dependents, d.contextual = unit

/-- Containers, contexts, conversations and episodes stay as they are. -/
structure Store.Stays (s t : Store σ) : Prop where
  containers : t.containers = s.containers
  contexts : t.contexts = s.contexts
  conversations : t.conversations = s.conversations
  episodes : t.episodes = s.episodes

theorem Store.Stays.refl (s : Store σ) : s.Stays s := ⟨rfl, rfl, rfl, rfl⟩

section Stays

variable {s t u : Store σ} (h : s.Stays t)

include h

theorem Store.Stays.trans (h' : t.Stays u) : s.Stays u where
  containers := h'.containers.trans h.containers
  contexts := h'.contexts.trans h.contexts
  conversations := h'.conversations.trans h.conversations
  episodes := h'.episodes.trans h.episodes

theorem Store.Stays.container (m : Container) : t.container m = s.container m :=
  Store.container_congr h.containers m

theorem Store.Stays.context (c : ScopeContext) : t.context c = s.context c :=
  Store.context_congr h.contexts c

theorem Store.Stays.conversation (v : Conversation) : t.conversation v = s.conversation v :=
  Store.conversation_congr h.conversations v

theorem Store.Stays.episode (e : Episode) : t.episode e = s.episode e :=
  Store.episode_congr h.episodes e

end Stays

/-- What tells the state of an instance leaves objects alone. -/
def Host.CapturesAside (host : Host σ) : Prop :=
  ∀ unit inst s, Act.wp True (host.capture unit inst) (fun _ t => s.Stays t) s

theorem Act.Achieves.get {Q : Store σ → Store σ → Prop} {s : Store σ} (h : Q s s) :
    (MonadState.get : Act σ (Store σ)).Achieves Q s := by
  rw [Achieves, Act.wp_get]
  rintro _ ⟨⟩
  exact h

theorem Act.Achieves.mapM {Inv : Store σ → Prop} {P : β → Prop} {f : α → Act σ β} {xs : List α}
    (h : ∀ x ∈ xs, ∀ s, Inv s → (f x).Achieves (fun y t => Inv t ∧ P y) s) {s : Store σ}
    (hs : Inv s) : (xs.mapM f).Achieves (fun ys t => Inv t ∧ ∀ y ∈ ys, P y) s := by
  induction xs generalizing s with
  | nil => exact .pure ⟨hs, List.forall_mem_nil P⟩
  | cons x xs ih =>
    rw [List.mapM_cons]
    refine .bind ((h x List.mem_cons_self s hs).mono ?_)
    rintro y t ⟨ht, hy⟩
    refine .bind ((ih (fun x hx => h x (List.mem_cons_of_mem _ hx)) ht).mono ?_)
    rintro ys u ⟨hu, hys⟩
    exact .pure ⟨hu, List.forall_mem_cons.2 ⟨hy, hys⟩⟩

theorem Act.Achieves.filterMapM {Inv : Store σ → Prop} {P : β → Prop} {f : α → Act σ (Option β)}
    {xs : List α}
    (h : ∀ x ∈ xs, ∀ s, Inv s → (f x).Achieves (fun o t => Inv t ∧ ∀ y, o = some y → P y) s)
    {s : Store σ} (hs : Inv s) :
    (xs.filterMapM f).Achieves (fun ys t => Inv t ∧ ∀ y ∈ ys, P y) s := by
  induction xs generalizing s with
  | nil => exact .pure ⟨hs, List.forall_mem_nil P⟩
  | cons x xs ih =>
    have hrest := fun t ht => ih (fun x hx => h x (List.mem_cons_of_mem _ hx)) (s := t) ht
    rw [List.filterMapM_cons]
    refine .bind ((h x List.mem_cons_self s hs).mono ?_)
    rintro (_ | y) t ⟨ht, hy⟩
    · exact hrest t ht
    · refine .bind ((hrest t ht).mono ?_)
      rintro ys u ⟨hu, hys⟩
      exact .pure ⟨hu, List.forall_mem_cons.2 ⟨hy y rfl, hys⟩⟩

namespace Container

variable {host : Host σ} {m : Container} {s₀ s : Store σ} {beans : Beans}
  {involved : Contextual → Prop} {c : ScopeContext} (hbeans : (s₀.container m).beans = beans)

include hbeans

theorem portableId_names (hs : s₀.Stays s) {unit : Contextual} (hunit : involved unit) :
    (m.portableId unit).Achieves
      (fun id t => s₀.Stays t ∧ beans.Names involved id) s := by
  rw [Act.Achieves]
  simp only [portableId, Beans.portableId, Act.wp_bind, Act.wp_get, Act.wp_liftExcept,
    hs.container m, hbeans]
  split
  · rename_i id hid
    rintro _ ⟨⟩
    exact ⟨hs, unit, hunit, hid⟩
  · exact fun _ h => by cases h

variable (hhost : host.CapturesAside)

include hhost

omit hbeans in
theorem capture_stays (hs : s₀.Stays s) (unit : Contextual) (inst : Instance) :
    (unit.capture host inst).Achieves (fun _ t => s₀.Stays t) s := by
  rw [Contextual.capture]
  split
  · exact (hhost unit inst s).mono fun _ t ht _ _ => hs.trans ht
  · exact fun _ h => by cases h

theorem captureEpisode_names (hs : s₀.Stays s) {e : Episode}
    (hinvolved : ∀ unit, e.Involves s₀ unit → involved unit) :
    (m.captureEpisode host e).Achieves (fun x t => s₀.Stays t ∧
      ∀ id ∈ x.ids, beans.Names involved id) s := by
  have hdependent : ∀ d ∈ (s₀.episode e).dependents, ∀ t, s₀.Stays t →
      (m.captureDependent host d).Achieves (fun y u => s₀.Stays u ∧
        beans.Names involved y.contextual) t := by
    intro d hd t ht
    refine .bind ((portableId_names hbeans ht (hinvolved _ (.inr ⟨d, hd, rfl⟩))).mono ?_)
    rintro id u ⟨hu, hid⟩
    exact .bind ((capture_stays hhost hu d.contextual d.inst).mono fun _ v hv => .pure ⟨hv, hid⟩)
  have hrest : ∀ contextual t, s₀.Stays t →
      (∀ id ∈ contextual.toList, beans.Names involved id) →
      (do
        let dependents ← ((← get).episode e).dependents.mapM (m.captureDependent host)
        return { contextual, dependents } : Act σ EpisodeSnapshot).Achieves (fun x u =>
          s₀.Stays u ∧ ∀ id ∈ x.ids, beans.Names involved id) t := by
    intro contextual t ht hcontextual
    refine .bind (.get (.bind ?_))
    rw [ht.episode e]
    apply (Act.Achieves.mapM hdependent ht).mono
    rintro dependents u ⟨hu, hall⟩
    refine .pure ⟨hu, fun id hid => ?_⟩
    rcases List.mem_append.1 hid with hid | hid
    · exact hcontextual id hid
    · obtain ⟨y, hy, rfl⟩ := List.mem_map.1 hid
      exact hall y hy
  refine .bind (.get ?_)
  rw [hs.episode e]
  cases howner : (s₀.episode e).contextual with
  | none => exact .bind (.pure (hrest none s hs (List.forall_mem_nil _)))
  | some unit =>
    refine .bind ((portableId_names hbeans hs (hinvolved unit (.inl howner))).mono ?_)
    rintro id t ⟨ht, hid⟩
    exact hrest (some id) t ht (List.forall_mem_singleton.2 hid)

theorem captureEntry_names (hs : s₀.Stays s) {b : Bag} (hb : b ∈ (s₀.context c).bags)
    (hinvolved : ∀ unit, c.Involves s₀ unit → involved unit) :
    (m.captureEntry host b).Achieves (fun x t => s₀.Stays t ∧
      ∀ id ∈ x.ids, beans.Names involved id) s := by
  have hepisode : ∀ unit, b.episode.Involves s₀ unit → involved unit := by
    rintro unit (howner | ⟨d, hd, rfl⟩)
    · exact hinvolved unit (.owner hb howner)
    · exact hinvolved _ (.dependent hb hd)
  refine .bind ((portableId_names hbeans hs (hinvolved _ (.entry hb))).mono ?_)
  rintro id t ⟨ht, hid⟩
  refine .bind ((capture_stays hhost ht b.contextual b.inst).mono fun _ u hu => ?_)
  refine .bind ((captureEpisode_names hbeans hhost hu hepisode).mono ?_)
  rintro episode v ⟨hv, hall⟩
  exact .pure ⟨hv, List.forall_mem_cons.2 ⟨hid, hall⟩⟩

theorem captureNested_names (depth : Nat) : ∀ (c : ScopeContext) (s : Store σ), s₀.Stays s →
    (∀ unit, c.Involves s₀ unit → involved unit) →
    (m.captureNested host depth c).Achieves (fun x t => s₀.Stays t ∧
      ∀ id ∈ x.ids, beans.Names involved id) s := by
  induction depth with
  | zero =>
    intro c s _ _
    rw [Act.Achieves, captureNested, Act.wp_lift, Run.wp_never]
    trivial
  | succ depth ih =>
    intro c s hs hinvolved
    rw [captureNested_succ]
    refine .bind (.get ?_)
    rw [hs.context c]
    dsimp only
    split
    · have hentries := Act.Achieves.mapM (fun b hb t ht =>
        captureEntry_names hbeans hhost ht hb hinvolved) hs
      refine .bind (hentries.mono ?_)
      rintro entries t ⟨ht, hall⟩
      refine .bind (.get (.bind ?_))
      rw [ht.context c]
      have hconversation : ∀ id ∈ (s₀.context c).conversations.keys, ∀ u, s₀.Stays u →
          (m.captureConversation host depth c id).Achieves (fun o v => s₀.Stays v ∧
            ∀ x, o = some x → ∀ id ∈ x.ids, beans.Names involved id) u := by
        intro id _ u hu
        refine .bind (.get ?_)
        rw [ScopeContext.conversation?_congr hu.contexts]
        cases hv : c.conversation? id s₀ with
        | none => exact .pure ⟨hu, fun _ h => by cases h⟩
        | some v =>
          have hlasts : v.lasts u = v.lasts s₀ := by
            simp only [Conversation.lasts, Conversation.isDestroyed, hu.conversation,
              hu.context]
          simp only [Conversation.not_lasts, hlasts]
          cases hlasting : v.lasts s₀ with
          | false => exact .pure ⟨hu, fun _ h => by cases h⟩
          | true =>
            have hrow : (id, v) ∈ c.lasting s₀ := ScopeContext.mem_lasting.2 ⟨hv, hlasting⟩
            refine .bind ((ih v.context u hu fun unit hunit =>
              hinvolved unit (.nested hrow hunit)).mono ?_)
            rintro context w ⟨hw, hids⟩
            refine .pure ⟨hw, ?_⟩
            rintro _ ⟨⟩
            exact hids
      apply (Act.Achieves.filterMapM hconversation ht).mono
      rintro conversations u ⟨hu, hnested⟩
      refine .pure ⟨hu, fun id hid => ?_⟩
      rcases List.mem_append.1 hid with hid | hid
      · obtain ⟨x, hx, hid⟩ := List.mem_flatMap.1 hid
        exact hall x hx id hid
      · obtain ⟨x, hx, hid⟩ := ConversationSnapshot.mem_allIds.1 hid
        exact hnested x hx id hid
    · exact fun _ h => by cases h

end Container

end ContextualLifecycle
