import ContextualLifecycle.Proofs.Container.Sustained
import ContextualLifecycle.Proofs.Conversation.Handover

namespace ContextualLifecycle

variable {σ : Type}

def Stage.without (g : Stage) (conversations : List Conversation) (v : Conversation) : Stage :=
  if v ∈ conversations then { g with off := true, begun := true } else g

namespace Conversation

/-- Callbacks leave the conversation in custody, wherever operations in progress have it. -/
def Guards (host : Host (Watched library σ)) (v : Conversation) : Prop :=
  ∀ g, host.Keeps True (v.Custody g)

/-- A context may be torn down: that of the conversation in custody only if no session has the
conversation any more, and nobody waits to tear it down. -/
def Allows (v : Conversation) (g : Stage) (x : ScopeContext) : Prop :=
  x = v.context → g.off = true ∧ g.due = false

variable {host : Host (Watched library σ)} {v w : Conversation} {g : Stage} {m : Container}
  {x : ScopeContext} {thread : Thread} {kind : ScopeKind} {s t : Store (Watched library σ)}

theorem context_ne (h : w ≠ v) : w.context ≠ v.context := by
  intro heq
  apply h
  cases w
  cases v
  cases heq
  rfl

theorem allows_of_ne (h : x ≠ v.context) : v.Allows g x := fun heq => absurd heq h

theorem Custody.of_without {conversations : List Conversation}
    (h : v.Custody (g.without conversations v) s) : v.Custody g s := by
  rw [Stage.without] at h
  split at h
  · exact (Custody.unknow (g := { g with off := true }) h).forget
  · exact h

theorem Custody.emptied (h : v.Custody g s) (x : ScopeContext) :
    v.Custody (g.without (x.takeConversations s).1 v) (x.takeConversations s).2 ∧
      (v ∈ (x.takeConversations s).1 → g.due = false) := by
  let taken := (x.takeConversations s).2
  have hquiet : s.Quiet taken := .takeConversations x s
  have htaken : v.Custody g taken := h.untouched (.of_quiet hquiet)
  rw [Stage.without]
  split
  · rename_i hin
    obtain ⟨⟨id, w⟩, hrow, rfl⟩ := List.mem_map.1 hin
    have hlisted : w.IsListed x s := ⟨id, Table.get?_eq_some_iff.2 hrow⟩
    have hnone : ∀ y, ¬ w.IsListed y taken := by
      rintro y ⟨id', hid'⟩
      have hy := h.home y x (.inl ⟨id', hquiet.listed y id' w hid'⟩) (.inl hlisted)
      have hempty : (taken.context x).conversations = ∅ :=
        congrArg (·.conversations) (ScopeContext.context_update x _ s)
      rw [hy, ScopeContext.conversation?, hempty] at hid'
      cases hid'
    have hstory : w.story taken ≠ [] := by
      have hsame : w.story taken = w.story s := (Untouched.of_quiet hquiet).story
      rw [hsame]
      exact h.begun (.inl ⟨x, .inl hlisted⟩)
    refine ⟨(htaken.take hnone ?_).know hstory, fun _ => ?_⟩
    · exact Nat.lt_of_lt_of_le (h.issued_of_listed hlisted) hquiet.nextContext
    · exact Bool.eq_false_iff.2 fun hdue => (h.due hdue).2 x (.inl hlisted)
  · rename_i hout
    exact ⟨htaken, fun hin => absurd hin hout⟩

/-- Any conversation that was taken out may be torn down. -/
theorem allows_of_taken {conversations : List Conversation} (hw : w ∈ conversations)
    (hdue : v ∈ conversations → g.due = false) :
    v.Allows (g.without conversations v) w.context := by
  by_cases heq : w = v
  · subst heq
    rw [Stage.without, if_pos hw]
    exact fun _ => ⟨rfl, hdue hw⟩
  · exact allows_of_ne (context_ne heq)

variable (h : Guards host v)

include h

theorem Guards.handles (g : Stage) : host.Handles fun _ => v.Custody g :=
  (h g).tends.handles fun _ _ hquiet hs => hs.untouched (.of_quiet hquiet)

theorem Guards.nested_of_deactivated {depth : Nat}
    (hnested : ∀ g x, v.Allows g x → Act.Keeps True (v.Custody g) (x.destroyNested host depth))
    (hs : v.Custody g (x.setActive false s)) :
    Act.wp True (x.destroyNested host (depth + 1)) (fun _ t => v.Custody g t) s := by
  apply ScopeContext.wp_destroyNested
  have hentries := Run.Keeps.collectFailures
    (fun id => (h.handles g).destroyEntry [] x id)
    ((x.setActive false s).context x).entries.keys
  apply (hentries _ hs).mono
  intro failures t ht
  obtain ⟨htaken, hdue⟩ := ht.emptied x
  have hconversation : ∀ w ∈ (x.takeConversations t).1,
      Act.Keeps True (v.Custody (g.without (x.takeConversations t).1 v))
        (ScopeContext.destroyActive host depth w) :=
    fun w hw u hu => ScopeContext.wp_destroyActive (fun _ => hu)
      fun _ => hnested _ w.context (allows_of_taken hw hdue) u hu
  apply (Run.Keeps.collectFailures_of_mem hconversation _ htaken).mono
  exact fun _ u hu => hu.of_without

theorem Guards.destroyNested (depth : Nat) : ∀ g x, v.Allows g x →
    Act.Keeps True (v.Custody g) (x.destroyNested host depth) := by
  induction depth with
  | zero =>
    intro g x _ s _
    simp only [ScopeContext.destroyNested, Act.wp_lift, Run.wp_never]
  | succ depth ih =>
    intro g x hx s hs
    apply h.nested_of_deactivated ih
    by_cases heq : x = v.context
    · obtain ⟨hoff, hdue⟩ := hx heq
      have hstage : { g with due := false, owed := g.owed } = g := by
        rw [← hdue]
      rw [heq, ← hstage]
      refine hs.deactivate hoff g.owed fun howed => ⟨hs.begun (.inr (.inr (.inr howed))), ?_⟩
      exact fun hended => Bool.false_ne_true ((hs.ended hended).2.symm.trans howed)
    · exact hs.untouched (.setActive heq false s)

theorem Guards.announce {phase : Phase} (hother : kind = .conversation → x ≠ v.context) :
    Run.Keeps True (v.Custody g) (m.announce host phase kind x) := by
  apply Container.announce_keeps
  · intro s hs
    refine hs.untouched (.note ?_ s)
    cases kind with
    | conversation => exact if_neg (hother rfl)
    | _ => rfl
  · exact fun content s hs => hs.untouched (.of_quiet (.note rfl s))
  · exact fun l => (h g).notify l _ m kind x

theorem Guards.destroyContext (hother : kind = .conversation → x ≠ v.context)
    (hx : v.Allows g x) : Run.Keeps True (v.Custody g) (m.destroyContext host kind x) := by
  intro s hs
  apply Container.wp_destroyContext
  exact (h.destroyNested UInt64.size g x hx s hs).mono fun _ t ht => h.announce hother t ht

theorem Guards.teardownSelf (hoff : g.off = true) (hbegun : g.begun = true)
    (hactive : (s.context v.context).active = true) (hs : v.Custody g s) :
    Act.wp True (m.teardownConversation host v)
      (fun _ t => v.Custody { g with due := false } t) s := by
  have howed : g.owed = false := Bool.eq_false_iff.2 fun howed =>
    Bool.false_ne_true ((hs.owed howed).symm.trans hactive)
  have hstage : { g with due := false } = { g with due := false, owed := false } := by
    rw [← howed]
  have hfirst : v.Custody { g with due := false, owed := true } (v.context.setActive false s) := by
    refine hs.deactivate hoff true fun _ => ⟨hs.begun (.inr (.inl hbegun)), ?_⟩
    exact fun hended => Bool.false_ne_true ((hs.ended hended).1.symm.trans hactive)
  have hdepth : v.context.destroyAll host =
      v.context.destroyNested host (UInt64.size - 1 + 1) := rfl
  have hdestroyed : Run.wp True (m.destroyContext host .conversation v.context)
      (fun _ t => v.Custody { g with due := false } t) s := by
    apply Container.wp_destroyContext
    rw [hdepth]
    apply (h.nested_of_deactivated (h.destroyNested _) hfirst).mono
    intro r t ht
    rw [hstage]
    apply Container.wp_announce
    · exact ht.conclude hoff rfl m
    · exact fun content s hs => hs.untouched (.of_quiet (.note rfl s))
    · exact fun l => (h _).notify l _ m _ _
  exact Container.wp_teardownConversation hdestroyed

theorem Guards.teardownOther (hw : w ≠ v) :
    Act.Keeps True (v.Custody g) (m.teardownConversation host w) := by
  intro s hs
  have hne := context_ne hw
  exact Container.wp_teardownConversation
    (h.destroyContext (fun _ => hne) (allows_of_ne hne) s hs)

theorem Guards.endConversation (hw : w = v → g.off = true ∧ g.begun = true ∧ g.due = false) :
    Act.Keeps True (v.Custody g) (m.endConversation host w) := by
  intro s hs
  refine Container.wp_endConversation (fun _ => hs) fun hactive => ?_
  by_cases heq : w = v
  · subst heq
    obtain ⟨hoff, hbegun, hdue⟩ := hw rfl
    have hstage : { g with due := false } = g := by rw [← hdue]
    have htorn := h.teardownSelf (m := m) hoff hbegun hactive hs
    rwa [hstage] at htorn
  · exact h.teardownOther heq s hs

theorem Guards.teardown (hkind : kind ≠ .conversation) (hx : v.Allows g x) :
    Act.Keeps True (v.Custody g) (m.teardown host kind x) := by
  have hown : ∀ (g : Stage), v.Allows g x →
      Run.Keeps True (v.Custody g) (m.destroyContext host kind x) :=
    fun g hx => h.destroyContext (fun heq => absurd heq hkind) hx
  intro s hs
  apply Container.wp_teardown
  · intro _
    obtain ⟨htaken, hdue⟩ := hs.emptied x
    let g' := g.without (x.takeConversations s).1 v
    have hallowed : v.Allows g' x := by
      intro heq
      obtain ⟨hoff, hidle⟩ := hx heq
      simp only [g', Stage.without]
      split
      · exact ⟨rfl, hidle⟩
      · exact ⟨hoff, hidle⟩
    have hturn : ∀ w ∈ (x.takeConversations s).1, w = v →
        g'.off = true ∧ g'.begun = true ∧ g'.due = false := by
      rintro w hw rfl
      simp only [g', Stage.without, if_pos hw]
      exact ⟨trivial, trivial, hdue hw⟩
    apply (Run.Keeps.collectFailures_of_mem (fun w hw => h.endConversation (hturn w hw)) _
      htaken).mono
    exact fun _ t ht => (hown g' hallowed t ht).mono fun _ _ hu => hu.of_without
  · exact fun _ => hown g hx s hs

theorem Guards.teardownScope (hkind : kind ≠ .conversation)
    (hx : v.IsForeign x s) (hs : v.Custody g s) :
    Act.wp True (m.teardown host kind x) (fun _ t => v.Custody g t) s := by
  by_cases heq : x = v.context
  · obtain ⟨hissued, hother⟩ := hx heq
    -- It is no conversation's, so observers never heard of one.
    have hidle := mt hs.begun fun hstory => hother (hs.kind hstory)
    simp only [not_or, not_exists, Bool.not_eq_true] at hidle
    have hoff := hs.take (fun y hy => hidle.1 y (.inl hy)) hissued
    apply (h.teardown (g := { g with off := true }) hkind ?_ s hoff).mono
    · exact fun _ _ ht => ht.forget
    · exact fun _ => ⟨rfl, hidle.2.2.1⟩
  · exact h.teardown hkind (allows_of_ne heq) s hs

end Conversation

end ContextualLifecycle
