import ContextualLifecycle.Proofs.Conversation.Holders

namespace ContextualLifecycle

variable {σ : Type} {s t : Store σ} {c x : ScopeContext} {v w : Conversation} {id id' : String}

/-- The context is another one, or one of the conversations in it, at any depth. Conversations that
were torn down do not count, nor do those in them. -/
inductive Store.Within (s : Store σ) (c : ScopeContext) : ScopeContext → Prop
  | self : s.Within c c
  | conversation {x : ScopeContext} {id : String} {v : Conversation} (h : s.Within c x)
      (hv : x.conversation? id s = some v) (hactive : (s.context v.context).active = true) :
      s.Within c v.context

/-- Conversations come after the contexts that list them, and are listed once. -/
structure Store.Nested (s : Store σ) : Prop where
  ascending : ∀ (x : ScopeContext) id v, x.conversation? id s = some v →
    x.number < v.context.number
  made : ∀ (x : ScopeContext) id v, x.conversation? id s = some v →
    v.context.number < s.nextContext
  home : ∀ (x x' : ScopeContext) id id' v, x.conversation? id s = some v →
    x'.conversation? id' s = some v → x' = x
  named : ∀ (x : ScopeContext) id v, x.conversation? id s = some v → (s.conversation v).id = id

theorem Store.Nested.ascends (h : s.Nested) (hwords : s.nextContext ≤ UInt64.size) :
    s.Ascending := fun c id v hv =>
  ⟨h.ascending c id v hv, Nat.lt_of_lt_of_le (h.made c id v hv) hwords⟩

theorem Store.nested_bare {u : Store (Watched library σ)} : u.bare.Nested ↔ u.Nested :=
  ⟨fun h => ⟨h.ascending, h.made, h.home, h.named⟩, fun h => ⟨h.ascending, h.made, h.home, h.named⟩⟩

/-- No context becomes active, and none lists more conversations. -/
structure Store.Shrinks (s t : Store σ) : Prop where
  nextContext : t.nextContext = s.nextContext
  active : ∀ x : ScopeContext, (t.context x).active = true → (s.context x).active = true
  listed : ∀ (x : ScopeContext) id v, x.conversation? id t = some v → x.conversation? id s = some v
  named : ∀ v, (t.conversation v).id = (s.conversation v).id

theorem Store.Shrinks.nested (h : s.Shrinks t) (hs : s.Nested) : t.Nested where
  ascending x id v hv := hs.ascending x id v (h.listed x id v hv)
  made x id v hv := h.nextContext ▸ hs.made x id v (h.listed x id v hv)
  home x x' id id' v hv hv' :=
    hs.home x x' id id' v (h.listed x id v hv) (h.listed x' id' v hv')
  named x id v hv := (h.named v).trans (hs.named x id v (h.listed x id v hv))

theorem Store.Quiet.shrinks {u u' : Store (Watched library σ)} (h : u.Quiet u')
    (hnext : u'.nextContext = u.nextContext) : u.Shrinks u' :=
  ⟨hnext, h.inactive, h.listed, h.id⟩

theorem ScopeContext.mem_values :
    v ∈ (s.context c).conversations.values ↔ ∃ id, c.conversation? id s = some v := by
  constructor
  · intro hv
    obtain ⟨⟨id, _⟩, hrow, rfl⟩ := List.mem_map.1 hv
    exact ⟨id, Table.get?_eq_some_iff.2 hrow⟩
  · rintro ⟨id, hv⟩
    exact List.mem_map.2 ⟨(id, v), Table.get?_eq_some_iff.1 hv, rfl⟩

theorem Store.Nested.nodup (h : s.Nested) (c : ScopeContext) :
    (s.context c).conversations.values.Nodup := by
  have hrows : ((s.context c).conversations.rows.map Prod.fst).Nodup :=
    (s.context c).conversations.nodup
  refine List.Nodup.map_on ?_ (List.Nodup.of_map _ hrows)
  rintro ⟨id, v⟩ hrow ⟨id', v'⟩ hrow' heq
  cases heq
  have hid := h.named c id v (Table.get?_eq_some_iff.2 hrow)
  have hid' := h.named c id' v (Table.get?_eq_some_iff.2 hrow')
  rw [← hid, ← hid']

namespace Store.Within

theorem trans {y : ScopeContext} (h : s.Within c x) (h' : s.Within x y) : s.Within c y := by
  induction h' with
  | self => exact h
  | conversation _ hv hactive ih => exact .conversation ih hv hactive

/-- What is in a context is the context itself, or it is in one of the conversations that it
lists. -/
theorem cases_listed (h : s.Within c x) : x = c ∨ ∃ id v, c.conversation? id s = some v ∧
    (s.context v.context).active = true ∧ s.Within v.context x := by
  induction h with
  | self => exact .inl rfl
  | @conversation y id v _ hv hactive ih =>
    right
    rcases ih with rfl | ⟨id', w, hw, hw', hin⟩
    · exact ⟨id, v, hv, hactive, .self⟩
    · exact ⟨id', w, hw, hw', .conversation hin hv hactive⟩

theorem le (hs : s.Nested) (h : s.Within c x) : c.number ≤ x.number := by
  induction h with
  | self => exact Nat.le_refl _
  | conversation _ hv _ ih => exact Nat.le_trans ih (Nat.le_of_lt (hs.ascending _ _ _ hv))

theorem not_back (hs : s.Nested) (hv : c.conversation? id s = some v) :
    ¬ s.Within v.context c :=
  fun h => Nat.lt_irrefl _ (Nat.lt_of_lt_of_le (hs.ascending c id v hv) (h.le hs))

/-- A conversation of a context is in no other one of that context. -/
theorem eq_of_listed (hs : s.Nested) (hv : c.conversation? id s = some v)
    (hw : c.conversation? id' s = some w) (h : s.Within w.context v.context) : v = w := by
  generalize hx : v.context = x at h
  cases h with
  | self => exact congrArg Conversation.mk hx
  | @conversation y name u hin hu _ =>
    obtain rfl : v = u := congrArg Conversation.mk hx
    obtain rfl := hs.home c y id name v hv hu
    exact absurd hin (not_back hs hw)

theorem apart (hs : s.Nested) (hv : c.conversation? id s = some v)
    (hw : c.conversation? id' s = some w) (h : s.Within v.context x)
    (h' : s.Within w.context x) : v = w := by
  induction h with
  | self => exact eq_of_listed hs hv hw h'
  | @conversation y name u hin hu hactive ih =>
    generalize hx : u.context = x at h'
    cases h' with
    | self =>
      obtain rfl : u = w := congrArg Conversation.mk hx
      exact (eq_of_listed hs hw hv (.conversation hin hu hactive)).symm
    | @conversation y' name' u' hin' hu' _ =>
      obtain rfl : u = u' := congrArg Conversation.mk hx
      obtain rfl := hs.home y y' name name' u hu hu'
      exact ih hin'

theorem pairwise_apart (hs : s.Nested) (c : ScopeContext) :
    (s.context c).conversations.values.Pairwise
      fun v w => ∀ x, s.Within v.context x → ¬ s.Within w.context x := by
  refine (hs.nodup c).pairwise_of_forall_ne fun v hv w hw hne x hx hx' => hne ?_
  obtain ⟨id, hv⟩ := ScopeContext.mem_values.1 hv
  obtain ⟨id', hw⟩ := ScopeContext.mem_values.1 hw
  exact hx.apart hs hv hw hx'

theorem of_shrinks (hst : s.Shrinks t) (h : t.Within c x) : s.Within c x := by
  induction h with
  | self => exact .self
  | conversation _ hv hactive ih =>
    exact .conversation ih (hst.listed _ _ _ hv) (hst.active _ hactive)

theorem of_kept (h : s.Within c x) (hkept : ∀ y, s.Within c y → t.context y = s.context y) :
    t.Within c x := by
  induction h with
  | self => exact .self
  | @conversation y id v hin hv hactive ih =>
    have hlisted : y.conversation? id t = some v := by
      rw [ScopeContext.conversation?, hkept y hin]
      exact hv
    refine .conversation ih hlisted ?_
    rw [hkept _ (.conversation hin hv hactive)]
    exact hactive

theorem of_contexts (h : ∀ y : ScopeContext, t.context y = s.context y) :
    t.Within c x ↔ s.Within c x :=
  ⟨fun hx => hx.of_kept fun y _ => (h y).symm, fun hx => hx.of_kept fun y _ => h y⟩

/-- What is in a context stays there, or goes, while contexts go with all that is in them. -/
theorem or_of_kept {gone : ScopeContext → Prop} (hst : s.Shrinks t)
    (hclosed : ∀ (y : ScopeContext) id v, gone y → y.conversation? id s = some v →
      (s.context v.context).active = true → gone v.context)
    (hkept : ∀ y, s.Within c y → ¬ gone y → t.context y = s.context y) :
    gone x ∨ t.Within c x ↔ gone x ∨ s.Within c x := by
  constructor
  · exact Or.imp_right (of_shrinks hst)
  · rintro (hgone | hx)
    · exact .inl hgone
    induction hx with
    | self => exact .inr .self
    | @conversation y id v hin hv hactive ih =>
      by_cases hgone : gone v.context
      · exact .inl hgone
      have hstays : ¬ gone y := fun hy => hgone (hclosed y id v hy hv hactive)
      have hlisted : y.conversation? id t = some v := by
        rw [ScopeContext.conversation?, hkept y hin hstays]
        exact hv
      refine .inr (.conversation (ih.resolve_left hstays) hlisted ?_)
      rw [hkept _ (.conversation hin hv hactive) hgone]
      exact hactive

end Store.Within

variable {rule : Rule} {fair : Container → Thread → ScopeContext → Store Unit → Prop}
  {request : Request} {γ γ' : Hand} {rest : List Errand} {a b : Situation σ}

theorem Move.restoring_cases {s s' : Store (Watched library σ)}
    (h : Move fair request γ s γ' s') : γ'.restoring = γ.restoring ∨
      (∃ kind, γ'.restoring = (⟨s.nextContext⟩, kind) :: γ.restoring) ∨
      ∃ first, γ.restoring = first :: γ'.restoring := by
  cases h with
  | reviving => exact .inr (.inl ⟨_, rfl⟩)
  | installed | revived | conversed | listed => exact .inr (.inr ⟨_, rfl⟩)
  | _ => exact .inl rfl

namespace Situation

/-- Conversations come after the contexts that list them, and so do contexts after those in which
they are restored. -/
structure Tiered (a : Situation σ) : Prop where
  ascending : ∀ (x : ScopeContext) id v, x.conversation? id a.store = some v →
    x.number < v.context.number
  descending : ∀ errand ∈ a.errands,
    (errand.hand.restoring.map fun first => first.1.number).Pairwise (· > ·)

section Moved

variable {s s' s₀ : Store (Watched library σ)} (h : Tiered ⟨⟨request, γ⟩ :: rest, s⟩)
  (hcatalogued : Catalogued s₀ ⟨⟨request, γ⟩ :: rest, s⟩) (hmove : Move fair request γ s γ' s')

include h hcatalogued hmove

theorem Tiered.ascending_moved (hv : x.conversation? id s' = some v) :
    x.number < v.context.number := by
  obtain hbefore | hlists := hmove.listing hv
  · exact h.ascending x id v hbefore
  · cases hlists with
    | begun _ hsession hnew =>
      rw [hnew]
      exact hcatalogued.known.attached _ _ _ x hsession
    | restored _ hsession hpopped =>
      have hdescending := h.descending _ List.mem_cons_self
      simp only [hpopped, List.map_cons, List.pairwise_cons] at hdescending
      obtain ⟨first, hin, rfl⟩ := List.mem_map.1 hsession
      exact hdescending.1 _ (List.mem_map_of_mem hin)

theorem Tiered.descending_moved :
    (γ'.restoring.map fun first => first.1.number).Pairwise (· > ·) := by
  have hbefore : (γ.restoring.map fun first => first.1.number).Pairwise (· > ·) :=
    h.descending _ List.mem_cons_self
  obtain hsame | ⟨kind, hpushed⟩ | ⟨first, hpopped⟩ := hmove.restoring_cases
  · rwa [hsame]
  · rw [hpushed, List.map_cons, List.pairwise_cons]
    refine ⟨?_, hbefore⟩
    intro number hnumber
    obtain ⟨first, hin, rfl⟩ := List.mem_map.1 hnumber
    have hrestoring : first.1 ∈ restoring ⟨⟨request, γ⟩ :: rest, s⟩ :=
      mem_restoring.2 (.inl (List.mem_map_of_mem hin))
    exact (hcatalogued.filed.apart _ hrestoring).2.1
  · rw [hpopped, List.map_cons, List.pairwise_cons] at hbefore
    exact hbefore.2

end Moved

theorem Tiered.step {s₀ : Store (Watched library σ)} (h : a.Tiered)
    (hcatalogued : a.Catalogued s₀) (hstep : Step rule fair a b) : b.Tiered := by
  cases hstep with
  | moved hmove =>
    refine ⟨fun _ _ _ => h.ascending_moved hcatalogued hmove, ?_⟩
    intro errand hin
    rcases List.mem_cons.1 hin with rfl | hin
    · exact h.descending_moved hcatalogued hmove
    · exact h.descending errand (List.mem_cons_of_mem _ hin)
  | asked =>
    refine ⟨h.ascending, ?_⟩
    intro errand hin
    rcases List.mem_cons.1 hin with rfl | hin
    · exact .nil
    · exact h.descending errand hin
  | answered => exact ⟨h.ascending, fun errand hin => h.descending errand (.tail _ hin)⟩
  | noticed | kept => exact ⟨h.ascending, h.descending⟩

/-- Conversations are in one hand each, listed by one session, and nested. -/
structure Ordered (s₀ : Store (Watched library σ)) (a : Situation σ) : Prop where
  catalogued : a.Catalogued s₀
  manned : a.Manned
  homed : a.Homed
  tiered : a.Tiered

theorem Ordered.step {s₀ : Store (Watched library σ)} (hfair : Container.OnlyMade fair)
    (h : a.Ordered s₀) (hstep : Step rule fair a b) : b.Ordered s₀ where
  catalogued := h.catalogued.step hfair hstep
  manned := h.manned.step h.catalogued hstep
  homed := h.homed.step h.manned h.catalogued hstep
  tiered := h.tiered.step h.catalogued hstep

theorem ordered_start (own : σ) :
    (start own).Ordered (Store.watched { surroundings := own }) where
  catalogued := catalogued_start own
  manned := manned_start own
  homed := homed_start own
  tiered := ⟨fun _ _ _ hv => absurd hv (unlisted_start own), fun _ hin => nomatch hin⟩

theorem Ordered.nested {s₀ : Store (Watched library σ)} (h : a.Ordered s₀) :
    a.store.Nested where
  ascending := h.tiered.ascending
  made x id v hv := (h.catalogued.filed.listed x id v hv).1
  home := h.homed.home
  named x id v hv := (h.catalogued.filed.listed x id v hv).2

end Situation

theorem Steps.ordered {own : σ} (hfair : Container.OnlyMade fair)
    (h : Steps rule fair (.start own) b) :
    b.Ordered (Store.watched { surroundings := own }) :=
  h.keeps (fun _ _ hstep ha => ha.step hfair hstep) (Situation.ordered_start own)

/-- Conversations are nested in every store that is reached. -/
theorem Store.Reachable.nested {u : Store Unit} (h : u.Reachable) : u.Nested := by
  obtain ⟨σ, own, a, rfl, hway⟩ := Store.ReachableBy.way h
  exact nested_bare.2 (hway.ordered fun _ _ _ _ h => h).nested

end ContextualLifecycle
