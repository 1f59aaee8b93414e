import ContextualLifecycle.Proofs.Closing.Operations

namespace ContextualLifecycle.Closing

variable {σ : Type} {w : Closing σ} {host : Host (Watched library σ)} {m : Container}
  {s t u : Store (Watched library σ)} {c : ScopeContext}

/-- The context was torn down, without a word to observers of conversations. -/
structure Downed (w : Closing σ) (c : ScopeContext) (s t : Store (Watched library σ)) : Prop where
  ebbs : w.Settles s t
  inactive : c.number < w.known → (t.context c).active = false
  vacant : c.number < w.known → c.Vacant t
  unheard : c.number < w.known → Conversation.Unclaimed ⟨c⟩ s → c.heard s t = 0

theorem ebbs_collectFailures {α : Type} {owed : Debt → Prop}
    {f : α → Act (Watched library σ) Unit} {xs : List α}
    (hf : ∀ a ∈ xs, ∀ s, w.Sound s → Act.wp True (f a) (fun _ t => w.Ebbs owed s t) s)
    (hs : w.Sound s) : Run.wp True (collectFailures f xs) (fun _ t => w.Ebbs owed s t) s := by
  induction xs generalizing s with
  | nil => exact .refl owed s
  | cons x xs ih =>
    rw [Run.wp_collectFailures_cons]
    apply (hf x List.mem_cons_self s hs).mono
    intro _ t ht
    apply (ih (fun a ha => hf a (List.mem_cons_of_mem x ha)) (ht.sound hs)).mono
    exact fun _ u hu => ht.trans hu

theorem settles_collectFailures {α : Type} {f : α → Act (Watched library σ) Unit}
    (hf : ∀ a, Act.Settles w (f a)) (xs : List α) : Run.Settles w (collectFailures f xs) :=
  fun _ hs => ebbs_collectFailures (fun a _ => hf a) hs

namespace Serves

variable (h : w.Serves host)

include h

theorem destroyEntry_settles (id : ContextualId) : Act.Settles w (c.destroyEntry host id) :=
  fun _ hs => (h.destroyEntry id hs).mono fun _ _ ht => ht.1

/-- After all ids that there were, an inactive context has no entries. -/
theorem entriesDestroyed (hc : c.number < w.known) (ids : List ContextualId) (hs : w.Sound s)
    (hinactive : (s.context c).active = false)
    (hids : ∀ id, (s.context c).entries.get? id ≠ none → id ∈ ids) :
    Run.wp True (collectFailures (c.destroyEntry host) ids) (fun _ t =>
      w.Settles s t ∧ ∀ id, (t.context c).entries.get? id = none) s := by
  induction ids generalizing s with
  | nil =>
    refine ⟨.refl _ s, fun id => ?_⟩
    cases hid : (s.context c).entries.get? id with
    | none => rfl
    | some cell => cases hids id (by rw [hid]; exact Option.some_ne_none cell)
  | cons id ids ih =>
    rw [Run.wp_collectFailures_cons]
    apply (h.destroyEntry id hs).mono
    rintro _ t ⟨ht, hgone⟩
    -- What is left was there before, as an inactive context gets no entries.
    have hrest : ∀ x, (t.context c).entries.get? x ≠ none → x ∈ ids := by
      intro x hx
      have hbefore : (s.context c).entries.get? x ≠ none :=
        fun hnone => hx (ht.refused c hc hinactive x hnone)
      rcases List.mem_cons.1 (hids x hbefore) with rfl | hin
      · exact absurd (hgone hc hinactive) hx
      · exact hin
    apply (ih (ht.sound hs) (ht.inactive hc hinactive) hrest).mono
    exact fun _ u hu => ⟨ht.trans hu.1, hu.2⟩

theorem destroyNested (depth : Nat) (c : ScopeContext) (hs : w.Sound s) :
    Act.wp True (c.destroyNested host depth) (fun _ t => w.Downed c s t) s := by
  induction depth generalizing c s with
  | zero => exact Act.wp_true_iff.2 fun _ _ hrun => nomatch hrun
  | succ depth ih =>
    let s₁ := c.setActive false s
    have hdown : w.Ebbs (· = .context c) s s₁ := ebbs_deactivated c s
    have hinactive : (s₁.context c).active = false :=
      congrArg (·.active) (ScopeContext.context_update c _ s)
    have hs₁ := hdown.sound hs
    have hentries : Run.wp True (collectFailures (c.destroyEntry host)
        (s₁.context c).entries.keys) (fun _ t => w.Settles s₁ t ∧
          (c.number < w.known → ∀ id, (t.context c).entries.get? id = none)) s₁ := by
      by_cases hc : c.number < w.known
      · refine (h.entriesDestroyed hc _ hs₁ hinactive ?_).mono fun _ t ht => ⟨ht.1, fun _ => ht.2⟩
        intro id hid
        rw [Table.mem_keys_iff]
        exact Option.isSome_iff_ne_none.2 hid
      · exact (settles_collectFailures h.destroyEntry_settles _ s₁ hs₁).mono
          fun _ t ht => ⟨ht, fun hc' => absurd hc' hc⟩
    apply ScopeContext.wp_destroyNested
    apply hentries.mono
    rintro failures s₂ ⟨hs₂, hempty⟩
    let s₃ := (c.takeConversations s₂).2
    have hs₃ : w.Settles s₁ s₃ := hs₂.trans (ebbs_takeConversations c s₂)
    have hconversation : ∀ v, Act.Settles w (ScopeContext.destroyActive host depth v) :=
      fun v u hu => ScopeContext.wp_destroyActive (fun _ => .refl _ u)
        fun _ => (ih v.context hu).mono fun _ t ht => ht.ebbs
    apply (settles_collectFailures hconversation _ s₃ (hs₃.sound hs₁)).mono
    intro _ t ht
    have hafter := hs₃.trans ht
    have hvacant : c.number < w.known → c.Vacant t := by
      intro hc
      refine ht.vacant hc (hs₃.inactive hc hinactive) ⟨fun id => ?_, fun id => ?_⟩
      · refine (congrArg (·.entries.get? id) (ScopeContext.context_update c _ s₂)).trans ?_
        exact hempty hc id
      · exact congrArg (·.conversations.get? id) (ScopeContext.context_update c _ s₂)
    refine ⟨?_, fun hc => hafter.inactive hc hinactive, hvacant, ?_⟩
    · refine (hdown.trans hafter.owing).settle ?_
      rintro _ rfl hc _
      exact hvacant hc
    · intro hc hunclaimed
      have hkept := hdown.unclaimed ⟨c⟩ hc hunclaimed
      exact (hafter.heard c (fun _ hd => hd) hc hkept).2 (.inl hinactive)

theorem destroyAll (c : ScopeContext) (hs : w.Sound s) :
    Act.wp True (c.destroyAll host) (fun _ t => w.Downed c s t) s :=
  h.destroyNested UInt64.size c hs

theorem told (phase : Phase) (kind : ScopeKind) (c : ScopeContext) (observers : List Observer) :
    Run.Settles w (observers.forM (m.tell host phase kind c)) := by
  apply Run.settles_of_keeps
  intro s
  apply Run.Keeps.forM
  intro observer t ht
  cases observer with
  | listener l => exact (h.keeps s).notify l phase m kind c t ht
  | logging label => exact ht.step (settles_note rfl rfl t)

theorem announce (phase : Phase) (kind : ScopeKind) (c : ScopeContext)
    (hs : w.Sound (s.note (.notified phase m kind c))) :
    Run.wp True (m.announce host phase kind c)
      (fun _ t => w.Settles (s.note (.notified phase m kind c)) t) s := by
  simp only [Container.announce, Run.wp_bind, Run.wp_modify, Run.wp_get]
  exact h.told phase kind c _ _ hs

theorem destroyContext (kind : ScopeKind) (c : ScopeContext) (hs : w.Sound s) :
    Run.wp True (m.destroyContext host kind c) (fun _ t => ∃ u, w.Downed c s u ∧
      (m.announce host .destroyed kind c).run u = some ((), t) ∧
      w.Settles (u.note (.notified .destroyed m kind c)) t) s := by
  apply Container.wp_destroyContext
  apply (h.destroyAll c hs).mono
  intro _ u hu
  have hnoted : w.Ebbs (· = .notice m kind c) u (u.note (.notified .destroyed m kind c)) :=
    ebbs_notified m kind c u
  have hannounce := h.announce .destroyed kind c (hnoted.sound (hu.ebbs.sound hs))
  apply ((Run.wp_outcome (m.announce host .destroyed kind c) u).and hannounce).mono
  exact fun _ t ⟨hrun, ht⟩ => ⟨u, hu, hrun, ht⟩

end Serves

theorem Downed.announced {kind : ScopeKind} (hu : w.Downed c s u)
    (ht : w.Settles (u.note (.notified .destroyed m kind c)) t) :
    w.Ebbs (· = .notice m kind c) s t :=
  (hu.ebbs.owing.trans (ebbs_notified m kind c u)).trans ht.owing

/-- The context of a conversation was torn down, and observers were told once. -/
structure TornDown (w : Closing σ) (c : ScopeContext) (s t : Store (Watched library σ)) : Prop where
  inactive : c.number < w.known → (t.context c).active = false
  vacant : c.number < w.known → c.Vacant t
  heard : c.number < w.known → Conversation.Unclaimed ⟨c⟩ s → c.heard s t = 1

theorem Downed.tornDown (hu : w.Downed c s u)
    (ht : w.Settles (u.note (.notified .destroyed m .conversation c)) t) : w.TornDown c s t where
  inactive hc := ht.inactive hc (hu.inactive hc)
  vacant hc := ht.vacant hc (hu.inactive hc) ⟨(hu.vacant hc).entries, (hu.vacant hc).conversations⟩
  heard hc hs := by
    have hprecedes := precedes_note (.notified .destroyed m .conversation c) u
    have hafter := (ht.heard c (fun _ hd => hd) hc (hu.ebbs.unclaimed ⟨c⟩ hc hs)).2
      (.inl (hu.inactive hc))
    have honce : c.heard u (u.note (.notified .destroyed m .conversation c)) = 1 := by
      rw [ScopeContext.heard, Store.since_self_note]
      simp [Event.ended?]
    rw [c.heard_trans hu.ebbs.journal (hprecedes.journal.trans ht.journal),
      c.heard_trans hprecedes.journal ht.journal, hu.unheard hc hs, honce, hafter]

theorem TornDown.settle (h : w.TornDown c s t) (ht : w.Ebbs (· = .notice m .conversation c) s t)
    (hs : (s.context c).active = true ∨ ¬ Conversation.Unclaimed ⟨c⟩ s) : w.Settles s t := by
  refine ht.settle ?_
  rintro _ rfl
  refine ⟨fun hkind => absurd rfl hkind, fun _ hc hunclaimed => ?_⟩
  rcases hs with hactive | hclaimed
  · rw [h.heard hc hunclaimed, hactive, h.inactive hc]
    exact ⟨Nat.le_refl _, fun hor => by simp at hor⟩
  · exact absurd hunclaimed hclaimed

end ContextualLifecycle.Closing

namespace ContextualLifecycle

variable {σ : Type} {w : Closing σ} {host : Host (Watched library σ)} {m : Container}
  {s t u : Store (Watched library σ)} {c : ScopeContext}

namespace Closing.Serves

variable (h : w.Serves host)

include h

theorem teardownConversation (v : Conversation) (hs : w.Sound s) :
    Act.wp True (m.teardownConversation host v) (fun _ t =>
      w.Ebbs (· = .notice m .conversation v.context) s t ∧ w.TornDown v.context s t) s := by
  apply Container.wp_teardownConversation
  apply (h.destroyContext .conversation v.context hs).mono
  rintro _ t ⟨u, hu, -, ht⟩
  exact ⟨hu.announced ht, hu.tornDown ht⟩

theorem endConversation_cases (v : Conversation) (hs : w.Sound s) :
    Act.wp True (m.endConversation host v) (fun _ t =>
      ((s.context v.context).active = true ∧ w.Settles s t ∧ w.TornDown v.context s t) ∨
      (s.context v.context).active = false ∧ t = s) s := by
  apply Container.wp_endConversation
  · exact fun hinactive => .inr ⟨hinactive, rfl⟩
  · intro hactive
    apply (h.teardownConversation v hs).mono
    rintro _ t ⟨hebbs, ht⟩
    exact .inl ⟨hactive, ht.settle hebbs (.inl hactive), ht⟩

theorem endConversation (v : Conversation) : Act.Settles w (m.endConversation host v) := by
  intro s hs
  apply (h.endConversation_cases v hs).mono
  rintro _ t (⟨_, ht, _⟩ | ⟨_, rfl⟩)
  · exact ht
  · exact .refl _ t

end Closing.Serves

end ContextualLifecycle
