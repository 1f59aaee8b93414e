import ContextualLifecycle.Proofs.Closing.Programs
import ContextualLifecycle.Proofs.Container.Isolation

namespace ContextualLifecycle

variable {σ : Type}

/-- Everything in use was issued, and no two sessions share a conversation. Stores are in order at
every moment of a run, see `Program.inOrder`. -/
structure Store.InOrder (s : Store σ) : Prop where
  issued : s.Issued
  attached : ∀ (m : Container) thread kind c, m.attached thread kind s = some c →
    c.number < s.nextContext
  listed : ∀ (c : ScopeContext) id v, c.conversation? id s = some v →
    v.context.number < s.nextContext
  apart : ∀ (c c' : ScopeContext) id id' v, c.conversation? id s = some v →
    c'.conversation? id' s = some v → c = c'

theorem Store.inOrder_of_tables {s : Store σ}
    (hcontexts : ∀ row ∈ s.contexts.rows, row.1.number < s.nextContext ∧
      (∀ x ∈ row.2.entries.rows, x.2.serial < s.nextCell) ∧
      ∀ x ∈ row.2.conversations.rows, x.2.context.number < s.nextContext)
    (hapart : ∀ row ∈ s.contexts.rows, ∀ row' ∈ s.contexts.rows,
      ∀ x ∈ row.2.conversations.rows, ∀ x' ∈ row'.2.conversations.rows, x.2 = x'.2 → row.1 = row'.1)
    (hscopes : ∀ row ∈ s.scopes.rows, ∀ x ∈ row.2.contexts.rows, x.2.number < s.nextContext)
    (happlications : ∀ row ∈ s.containers.rows, ∀ c ∈ row.2.application,
      c.number < s.nextContext) : s.InOrder := by
  have hrow : ∀ c : ScopeContext, s.context c = default ∨ (c, s.context c) ∈ s.contexts.rows := by
    intro c
    cases hc : s.contexts.get? c with
    | none => exact .inl (by rw [Store.context, hc, Option.getD_none])
    | some r =>
      refine .inr (Table.get?_eq_some_iff.1 ?_)
      rw [hc, Store.context, hc, Option.getD_some]
  have hlisted : ∀ (c : ScopeContext) id v, c.conversation? id s = some v →
      (c, s.context c) ∈ s.contexts.rows ∧ (id, v) ∈ (s.context c).conversations.rows := by
    intro c id v hv
    rcases hrow c with hdefault | hin
    · rw [ScopeContext.conversation?, hdefault] at hv
      cases hv
    · exact ⟨hin, Table.get?_eq_some_iff.1 hv⟩
  refine ⟨⟨?_, ?_⟩, ?_, ?_, ?_⟩
  · intro c id cell hcell
    rcases hrow c with hdefault | hin
    · rw [hdefault] at hcell
      cases hcell
    · obtain ⟨hc, hentries, _⟩ := hcontexts _ hin
      exact ⟨hentries _ (Table.get?_eq_some_iff.1 hcell), hc⟩
  · intro c hactive
    rcases hrow c with hdefault | hin
    · rw [hdefault] at hactive
      cases hactive
    · exact (hcontexts _ hin).1
  · intro m thread kind c hattached
    rw [Container.attached] at hattached
    split at hattached
    · cases hm : s.containers.get? m with
      | none =>
        rw [Container.application, Store.container, hm] at hattached
        cases hattached
      | some r =>
        rw [Container.application, Store.container, hm] at hattached
        exact happlications _ (Table.get?_eq_some_iff.1 hm) c hattached
    · cases hm : s.scopes.get? (m, thread) with
      | none =>
        rw [Container.slot, Store.threadScopes, hm] at hattached
        cases hattached
      | some r =>
        rw [Container.slot, Store.threadScopes, hm] at hattached
        exact hscopes _ (Table.get?_eq_some_iff.1 hm) _ (Table.get?_eq_some_iff.1 hattached)
  · intro c id v hv
    obtain ⟨hin, hv⟩ := hlisted c id v hv
    exact (hcontexts _ hin).2.2 _ hv
  · intro c c' id id' v hv hv'
    obtain ⟨hin, hv⟩ := hlisted c id v hv
    obtain ⟨hin', hv'⟩ := hlisted c' id' v hv'
    exact hapart _ hin _ hin' _ hv _ hv' rfl

theorem Table.eq_empty_of_get? {κ α : Type} [DecidableEq κ] {table : Table κ α}
    (h : ∀ key, table.get? key = none) : table = ∅ := by
  obtain ⟨rows, hnodup⟩ := table
  cases rows with
  | nil => rfl
  | cons row rows =>
    have hrow := Table.get?_eq_some_iff (t := ⟨row :: rows, hnodup⟩).2 List.mem_cons_self
    rw [h row.1] at hrow
    cases hrow

namespace Closing

variable {w : Closing σ} {host : Host (Watched library σ)} {m : Container} {kind : ScopeKind}
  {c : ScopeContext} {thread : Thread} {s t u : Store (Watched library σ)}

theorem Passed.ended {id : ContextualId} {n : Nat} {b : Bag} (h : w.Passed c id n b s t) :
    1 ≤ b.ended s t := by
  obtain ⟨_, _, before, between, after, _, _, hbefore, _, _, hnoted, _, hbetween, hafter⟩ := h
  let noted := (c.takeEntry id before).2.note (.destroying b.contextual b.inst b.episode)
  have hprecedes : before.Precedes noted :=
    ⟨(precedes_note (.destroying b.contextual b.inst b.episode) before).journal,
      List.suffix_refl _⟩
  have hrest := (hnoted.trans hbetween).trans hafter
  have honce : b.ended before noted = 1 :=
    (ended_note b (.destroying b.contextual b.inst b.episode) before).trans
      List.count_singleton_self
  rw [b.ended_trans hbefore.journal (hprecedes.trans hrest).journal,
    b.ended_trans hprecedes.journal hrest.journal, honce]
  omega

/-- Nothing is lost without being destroyed, and nothing is destroyed that was not held. -/
theorem Ebbs.counted {owed : Debt → Prop} (h : w.Ebbs owed s t) (hknown : w.known = s.nextContext)
    {b : Bag} (hlisted : b.listed s = 0) (hanew : ¬ b.Anew s t) :
    b.ended s t + b.held t t.nextContext = b.held s s.nextContext := by
  have hmost := h.once b hanew
  have hleast := h.gone b
  have hheld := b.held_mono t h.contexts
  rw [hknown] at hleast
  omega

theorem Ebbs.passed {owed : Debt → Prop} (h : w.Ebbs owed s t) (hc : c.number < w.known)
    (hvacant : c.Vacant t) {id : ContextualId} {n : Nat} {b : Bag} (howed : ¬ owed (.entry c id))
    (hb : (s.context c).entries.get? id = some ⟨n, .live b⟩) : w.Passed c id n b s t := by
  rcases h.entries c id n b howed hc hb with hstill | hpassed
  · rw [hvacant.entries id] at hstill
    cases hstill
  · exact hpassed

/-- What the teardown of a session makes of a conversation in it, which is through before the
session's own entries are destroyed. Observers are told once if it was active at its turn. -/
structure Buried (w : Closing σ) (host : Host (Watched library σ)) (m : Container)
    (c : ScopeContext) (v : Conversation) (s u t : Store (Watched library σ)) : Prop where
  inactive : (u.context v.context).active = false
  vacant : (s.context v.context).active = true → v.context.Vacant u
  passed : (s.context v.context).active = true → ∀ id n b,
    (s.context v.context).entries.get? id = some ⟨n, .live b⟩ → w.Passed v.context id n b s u
  through : v.context.heard u t = 0
  ended : (s.context v.context).active = false → v.context.heard s u = 0
  turn : ∃ before after failures turn, (c.takeConversations s).1 = before ++ v :: after ∧
    (collectFailures (m.endConversation host) before).run (c.takeConversations s).2 =
      some (failures, turn) ∧
    ((turn.context v.context).active = true → v.context.heard s u = 1) ∧
    ((turn.context v.context).active = false → v.context.heard turn u = 0)

/-- What the end of a session makes of a conversation in it. The conversation is through before the
session's own entries are destroyed, and observers are told once if it was active at its turn. -/
structure Concluded (w : Closing σ) (host : Host (Watched library σ)) (m : Container)
    (c : ScopeContext) (thread : Thread) (v : Conversation) (s u t : Store (Watched library σ)) :
    Prop where
  inactive : (u.context v.context).active = false
  vacant : (s.context v.context).active = true → v.context.Vacant u
  passed : (s.context v.context).active = true → ∀ id n b,
    (s.context v.context).entries.get? id = some ⟨n, .live b⟩ → w.Passed v.context id n b s u
  through : v.context.heard u t = 0
  ended : (s.context v.context).active = false → v.context.heard s u = 0
  turn : ∃ before after failures turn,
    (c.takeConversations (m.vacate thread .session s)).1 = before ++ v :: after ∧
    (collectFailures (m.endConversation host) before).run
      (c.takeConversations (m.vacate thread .session s)).2 = some (failures, turn) ∧
    ((turn.context v.context).active = true → v.context.heard s u = 1) ∧
    ((turn.context v.context).active = false → v.context.heard turn u = 0)

/-- The end of a scope is complete: whatever was attached and in the context is gone. First the
conversations of a session end, then the context itself is emptied, and observers are told last. -/
structure Complete (w : Closing σ) (host : Host (Watched library σ)) (m : Container)
    (kind : ScopeKind) (c : ScopeContext) (thread : Thread) (s u t : Store (Watched library σ)) :
    Prop where
  vacated : m.attached thread kind t = none
  inactive : (t.context c).active = false
  entries : (t.context c).entries = ∅
  conversations : (t.context c).conversations = ∅
  passed : ∀ id n b, (s.context c).entries.get? id = some ⟨n, .live b⟩ → w.Passed c id n b s t
  /-- What is held no more was destroyed, as often as it was held. -/
  counted : ∀ b : Bag, b.listed s = 0 → ¬ b.Anew s t →
    b.ended s t + b.held t t.nextContext = b.held s s.nextContext
  once : ∀ id n b, (s.context c).entries.get? id = some ⟨n, .live b⟩ →
    b.held s s.nextContext = 1 → b.listed s = 0 → ¬ b.Anew s t → b.ended s t = 1
  concluded : kind = .session → ∀ id v, c.conversation? id s = some v →
    w.Concluded host m c thread v s u t
  first : kind = .session → ∃ failures,
    (collectFailures (m.endConversation host)
      (c.takeConversations (m.vacate thread kind s)).1).run
      (c.takeConversations (m.vacate thread kind s)).2 = some (failures, u)
  own : ∃ failures, (m.destroyContext host kind c).run u = some (failures, t)
  last : ∃ x, u.Precedes x ∧ (m.announce host .destroyed kind c).run x = some ((), t) ∧
    (x.context c).active = false ∧ c.Vacant x
  /-- Only the end of the scope on another thread, which has the same session, tells it again. -/
  notice : (∀ thread', thread' ≠ thread → m.slot thread' kind s = some c →
      m.slot thread' kind t = some c) →
    (t.since Event.ended? s.journal.size).count (m, kind, c) = 1

theorem journal_vacate (m : Container) (thread : Thread) (kind : ScopeKind) :
    (m.vacate thread kind s).journal = s.journal := by
  rw [Container.vacate]
  split <;> rfl

theorem context_vacate (m : Container) (thread : Thread) (kind : ScopeKind) (c : ScopeContext) :
    (m.vacate thread kind s).context c = s.context c := by
  rw [Container.vacate]
  split <;> rfl

theorem unclaimed_taken {v : Conversation}
    (hv : ∀ (x : ScopeContext) id, x.conversation? id s = some v → x = c) :
    v.Unclaimed (c.takeConversations s).2 := by
  intro x id hx
  rw [ScopeContext.conversation?_takeConversations] at hx
  split at hx
  · cases hx
  · rename_i hxc
    exact hxc (hv x id hx)

/-- A conversation has its turn among those that are ended one after the other. -/
theorem Serves.turn (h : w.Serves host) (hs : w.Sound s) {before after : List Conversation}
    {v : Conversation} {failures : List LifecycleError}
    (hrun : (collectFailures (m.endConversation host) (before ++ v :: after)).run s =
      some (failures, u)) :
    ∃ earlier turn next, (collectFailures (m.endConversation host) before).run s =
      some (earlier, turn) ∧ w.Settles s turn ∧ w.Settles turn next ∧ w.Settles next u ∧
      (((turn.context v.context).active = true ∧ w.TornDown v.context turn next) ∨
        (turn.context v.context).active = false ∧ next = turn) := by
  have hreturns : Run.wp False (collectFailures (m.endConversation host) (before ++ v :: after))
      (fun _ t => t = u) s := (Run.wp_of_run hrun).2 rfl
  rw [Run.wp_collectFailures_append] at hreturns
  obtain ⟨earlier, turn, hearlier, hrest⟩ := Run.wp_false_iff.1 hreturns
  have hturn : w.Settles s turn :=
    (Run.wp_of_run hearlier).1 (settles_collectFailures (h.endConversation (m := m)) before s hs)
  have hnext : ∀ t, w.Sound t → Run.wp False (collectFailures (m.endConversation host) after)
      (fun _ t => t = u) t → w.Settles t u := by
    intro t ht hloop
    obtain ⟨later, _, hlater, rfl⟩ := Run.wp_false_iff.1 hloop
    exact (Run.wp_of_run hlater).1
      (settles_collectFailures (h.endConversation (m := m)) after t ht)
  obtain ⟨outcome, next, houtcome, hafter⟩ :=
    Act.wp_false_iff.1 (Run.wp_collectFailures_cons.1 hrest)
  refine ⟨earlier, turn, next, hearlier, hturn, ?_⟩
  rcases (Act.wp_of_run houtcome).1 (h.endConversation_cases v (hturn.sound hs)) with
    ⟨hactive, hnow, htorn⟩ | ⟨hinactive, rfl⟩
  · exact ⟨hnow, hnext next (hnow.sound (hturn.sound hs)) hafter, .inl ⟨hactive, htorn⟩⟩
  · exact ⟨.refl _ next, hnext next (hturn.sound hs) hafter, .inr ⟨hinactive, rfl⟩⟩

theorem Course.buried (h : w.Serves host) (hcourse : w.Course host m .session c s u t)
    (hs : w.Sound s) {id : String} {v : Conversation} (hv : c.conversation? id s = some v)
    (hhome : ∀ (x : ScopeContext) id, x.conversation? id s = some v → x = c)
    (hknown : v.context.number < w.known) : w.Buried host m c v s u t := by
  let taken := (c.takeConversations s).2
  have htaken : w.Settles s taken := ebbs_takeConversations c s
  have hu := hcourse.first
  have hunclaimed : v.Unclaimed taken := unclaimed_taken hhome
  have hmem : v ∈ (c.takeConversations s).1 :=
    List.mem_map.2 ⟨(id, v), Table.get?_eq_some_iff.1 hv, rfl⟩
  obtain ⟨before, after, hsplit⟩ := List.append_of_mem hmem
  obtain ⟨failures, hrun⟩ := hcourse.conversations rfl
  have hloop : w.Settles taken u := (Run.wp_of_run hrun).1
    (settles_collectFailures (h.endConversation (m := m)) _ taken (htaken.sound hs))
  rw [hsplit] at hrun
  obtain ⟨earlier, turn, next, hearlier, hturn, hnow, hnext, hends⟩ :=
    h.turn (htaken.sound hs) hrun
  -- Once the conversation is inactive, observers hear of it no more.
  have hquiet : ∀ x y, w.Settles taken x → w.Settles x y → (x.context v.context).active = false →
      v.context.heard x y = 0 := fun x y hx hxy hinactive =>
    (hxy.heard v.context (fun _ hd => hd) hknown (hx.unclaimed v hknown hunclaimed)).2
      (.inl hinactive)
  have hinactive : (u.context v.context).active = false := by
    rcases hends with ⟨_, htorn⟩ | ⟨hinactive, rfl⟩
    · exact hnext.inactive hknown (htorn.inactive hknown)
    · exact hnext.inactive hknown hinactive
  have hvacant : (s.context v.context).active = true → v.context.Vacant u := fun hactive =>
    hu.emptied v.context (fun hd => hd) hknown hactive hinactive
  obtain ⟨x, hdowned, -, htold⟩ := hcourse.last
  have hlast := hdowned.announced htold
  refine ⟨hinactive, hvacant, ?_, ?_, ?_, before, after, earlier, turn, hsplit, hearlier, ?_, ?_⟩
  · exact fun hactive id n b hb => hu.passed hknown (hvacant hactive) (fun hd => hd) hb
  · exact (hlast.heard v.context (fun _ hd => by cases hd) hknown
      (hloop.unclaimed v hknown hunclaimed)).2 (.inl hinactive)
  · exact fun hbefore => hquiet taken u (.refl _ taken) hloop (htaken.inactive hknown hbefore)
  · intro hactive
    rcases hends with ⟨_, htorn⟩ | ⟨hinactive, rfl⟩
    · have hearly := (hturn.heard v.context (fun _ hd => hd) hknown hunclaimed).2 (.inr hactive)
      have honce := htorn.heard hknown (hturn.unclaimed v hknown hunclaimed)
      have hlate := hquiet next u (hturn.trans hnow) hnext (htorn.inactive hknown)
      have hall := v.context.heard_trans hturn.journal (hnow.trans hnext).journal
      rw [v.context.heard_trans hnow.journal hnext.journal, hearly, honce, hlate] at hall
      exact hall
    · rw [hinactive] at hactive
      cases hactive
  · intro hbefore
    rcases hends with ⟨hactive, _⟩ | ⟨_, rfl⟩
    · rw [hbefore] at hactive
      cases hactive
    · exact hquiet next u hturn hnext hbefore

theorem Course.concluded (h : w.Serves host)
    (hcourse : w.Course host m .session c (m.vacate thread .session s) u t) (hs : w.Sound s)
    (horder : s.InOrder) {id : String} {v : Conversation} (hv : c.conversation? id s = some v)
    (hknown : v.context.number < w.known) : w.Concluded host m c thread v s u t := by
  let vacated := m.vacate thread .session s
  have hvacated : w.Settles s vacated := settles_vacate m thread .session s
  have hcontext : ∀ x, vacated.context x = s.context x := context_vacate m thread .session
  have hlisted : ∀ (x : ScopeContext) id, x.conversation? id vacated = x.conversation? id s := by
    intro x id
    rw [ScopeContext.conversation?, hcontext]
    rfl
  have hsame : v.context.heard s u = v.context.heard vacated u := by
    have hjournal : vacated.journal = s.journal := journal_vacate m thread .session
    rw [ScopeContext.heard, ScopeContext.heard, hjournal]
  have hburied := hcourse.buried h (hvacated.sound hs) ((hlisted c id).trans hv)
    (fun x id' hx => horder.apart x c id' id v ((hlisted x id').symm.trans hx) hv) hknown
  refine ⟨hburied.inactive, ?_, ?_, hburied.through, ?_, ?_⟩
  · rw [← hcontext]
    exact hburied.vacant
  · rw [← hcontext]
    exact fun hactive id n b hb => (hburied.passed hactive id n b hb).widen hvacated.toPrecedes
      (.refl u)
  · rw [hsame, ← hcontext]
    exact hburied.ended
  · rw [hsame]
    exact hburied.turn

theorem Course.noticed (hcourse : w.Course host m kind c s u t) (hkind : kind ≠ .conversation)
    (hkept : ∀ thread, m.attached thread kind s = some c → m.attached thread kind t = some c) :
    (t.since Event.ended? s.journal.size).count (m, kind, c) = 1 := by
  obtain ⟨x, hdowned, -, htold⟩ := hcourse.last
  let event : Event := .notified .destroyed m kind c
  have hnoted : x.Precedes (x.note event) := precedes_note event x
  have hbefore : w.Settles s x := hcourse.first.trans hdowned.ebbs
  -- No thread that still has the context loses it, so no other end of it is told.
  have hearly := hbefore.silent m kind c hkind (fun hd => hd) fun thread hs =>
    htold.attached m thread kind c (hkept thread hs)
  have hlate := htold.silent m kind c hkind (fun hd => hd) fun thread hx =>
    hkept thread (hbefore.attached m thread kind c hx)
  rw [Store.since_append hbefore.size (hnoted.trans htold.toPrecedes).journal,
    Store.since_append hnoted.size htold.journal, List.count_append, List.count_append,
    Store.since_self_note event x, List.count_eq_zero.2 hearly, List.count_eq_zero.2 hlate]
  simp [event, Event.ended?]

/-- Observers are told of the context once if it is not taken from other threads as well. -/
theorem Course.notice (hcourse : w.Course host m kind c (m.vacate thread kind s) u t)
    (hkind : kind ≠ .conversation) (hkept : ∀ thread', thread' ≠ thread →
      m.slot thread' kind s = some c → m.slot thread' kind t = some c) :
    (t.since Event.ended? s.journal.size).count (m, kind, c) = 1 := by
  have hjournal : (m.vacate thread kind s).journal = s.journal := journal_vacate m thread kind
  rw [← hjournal]
  refine hcourse.noticed hkind fun thread' hvacated => ?_
  have hs := (settles_vacate (w := w) m thread kind s).attached m thread' kind c hvacated
  have hnone : m.attached thread kind (m.vacate thread kind s) = none :=
    Container.attached_vacate m thread kind s
  by_cases happlication : kind = .application
  · rw [Container.attached, if_pos happlication] at hvacated hnone
    rw [hvacated] at hnone
    cases hnone
  · have hne : thread' ≠ thread := by
      rintro rfl
      rw [hvacated] at hnone
      cases hnone
    rw [Container.attached, if_neg happlication] at hs ⊢
    exact hkept thread' hne hs

theorem Course.complete (h : w.Serves host)
    (hcourse : w.Course host m kind c (m.vacate thread kind s) u t) (hkind : kind ≠ .conversation)
    (horder : s.InOrder) (hknown : w.known = s.nextContext)
    (hattached : m.attached thread kind s = some c) : w.Complete host m kind c thread s u t := by
  have hs : w.Sound s := ⟨horder.issued, Nat.le_of_eq hknown⟩
  have hc : c.number < w.known := hknown ▸ horder.attached m thread kind c hattached
  have hall : w.Settles s t := hcourse.settle hkind hattached
  obtain ⟨x, hdowned, hannounced, htold⟩ := hcourse.last
  have hinactive := htold.inactive hc (hdowned.inactive hc)
  have hvacant : c.Vacant t := htold.vacant hc (hdowned.inactive hc)
    ⟨(hdowned.vacant hc).entries, (hdowned.vacant hc).conversations⟩
  have hpassed : ∀ id n b, (s.context c).entries.get? id = some ⟨n, .live b⟩ →
      w.Passed c id n b s t := fun id n b hb => hall.passed hc hvacant (fun hd => hd) hb
  have hcounted : ∀ b : Bag, b.listed s = 0 → ¬ b.Anew s t →
      b.ended s t + b.held t t.nextContext = b.held s s.nextContext :=
    fun b => hall.counted hknown
  refine ⟨?_, hinactive, ?_, ?_, hpassed, hcounted, ?_, ?_, ?_, hcourse.own, ?_,
    hcourse.notice hkind⟩
  · cases ht : m.attached thread kind t with
    | none => rfl
    | some c' =>
      have hvacated := hcourse.ebbs.attached m thread kind c' ht
      rw [Container.attached_vacate] at hvacated
      cases hvacated
  · exact Table.eq_empty_of_get? hvacant.entries
  · exact Table.eq_empty_of_get? hvacant.conversations
  · intro id n b hb honce hlisted hanew
    have hleast := (hpassed id n b hb).ended
    have hcount := hcounted b hlisted hanew
    omega
  · rintro rfl id v hv
    exact hcourse.concluded h hs horder hv (hknown ▸ horder.listed c id v hv)
  · exact hcourse.conversations
  · exact ⟨x, hdowned.ebbs.toPrecedes, hannounced, hdowned.inactive hc, hdowned.vacant hc⟩

end Closing

/-- A scope end is complete. Callbacks may fail, destroy what they like and end scopes, on any
thread, as long as they do not open any. -/
theorem scope_end_complete (supply : Supply σ) (thread : Thread) (m : Container) (kind : ScopeKind)
    (c : ScopeContext) (meanwhile : Callback → Program library σ)
    (s t : Store (Watched library σ)) (answer : Except LifecycleError Unit)
    (hkind : kind ≠ .conversation) (horder : s.InOrder)
    (hattached : m.attached thread kind s = some c)
    (hobeys : ∀ cb, (meanwhile cb).Obeys windingDown [⟨thread, .stop m kind⟩])
    (hrun : (library.perform (supply.hostOf meanwhile) ⟨thread, .stop m kind⟩).run.run s =
      some (answer, t)) :
    let w : Closing σ := ⟨supply, s.nextContext⟩
    ∃ u, w.Complete (w.host thread meanwhile) m kind c thread s u t := by
  intro w
  have hserves := w.serves meanwhile _ hobeys thread
  have hcourse := hserves.stop_course (m := m) hkind ⟨horder.issued, Nat.le_refl _⟩ hattached
  obtain ⟨u, hu⟩ := (Act.wp_of_run hrun).1 hcourse
  exact ⟨u, hu.complete hserves hkind horder rfl hattached⟩

/-- The hypotheses hold of a session with a conversation, where every callback destroys one of the
session's entries and fails. -/
theorem scope_end_complete_session :
    let supply : Supply Unit := Supply.numbered ⟨"main"⟩
    let thread : Thread := ⟨"main"⟩
    let m : Container := ⟨1⟩
    let session : ScopeContext := ⟨1⟩
    let nested : ScopeContext := ⟨2⟩
    let plain : Nat → String → Contextual :=
      fun object text => { object, id := ⟨text⟩, variety := .plain }
    let lamp : Bag := ⟨plain 3 "lamp", ⟨3⟩, ⟨3⟩⟩
    let made : Store (Watched library Unit) :=
      { Store.watched { surroundings := () } with nextContext := 3, nextCell := 4 }
    let s := (m.fillSlot thread .session session (session.putConversation "1" ⟨nested⟩
      (session.setCell ⟨"lamp"⟩ ⟨3, .live lamp⟩
      (session.setCell ⟨"cart"⟩ ⟨2, .live ⟨plain 2 "cart", ⟨2⟩, ⟨2⟩⟩⟩
      (nested.setCell ⟨"form"⟩ ⟨1, .live ⟨plain 1 "form", ⟨1⟩, ⟨1⟩⟩⟩
      (session.setActive true (nested.setActive true
        (Container.new {} [.listener ⟨1⟩] false made).2))))))).2
    let meanwhile : Callback → Program library Unit := fun _ =>
      .call (⟨thread, .destroy session lamp.contextual⟩ : Request) (fun _ => .done)
        fun _ => .fail (.destruction "lamp" "refused")
    let w : Closing Unit := ⟨supply, s.nextContext⟩
    ∃ error t u, ScopeKind.session ≠ .conversation ∧ s.InOrder ∧
      m.attached thread .session s = some session ∧
      (∀ cb, (meanwhile cb).Obeys windingDown [⟨thread, .stop m .session⟩]) ∧
      (library.perform (supply.hostOf meanwhile) ⟨thread, .stop m .session⟩).run.run s =
        some (.error error, t) ∧
      t.since Event.destruction? s.journal.size = [⟨plain 1 "form", ⟨1⟩, ⟨1⟩⟩, lamp,
        ⟨plain 2 "cart", ⟨2⟩, ⟨2⟩⟩] ∧
      t.since Event.ended? s.journal.size = [(m, .conversation, nested), (m, .session, session)] ∧
      w.Complete (w.host thread meanwhile) m .session session thread s u t := by
  intro supply thread m session nested plain lamp made s meanwhile w
  have horder : s.InOrder := Store.inOrder_of_tables (by decide +kernel) (by decide +kernel)
    (by decide +kernel) (by decide +kernel)
  have hattached : m.attached thread .session s = some session := by decide +kernel
  have hobeys : ∀ cb, (meanwhile cb).Obeys windingDown [⟨thread, .stop m .session⟩] := by
    simp [meanwhile, Program.Obeys, windingDown, Call.opensScopes]
  have hseen : ((library.perform (supply.hostOf meanwhile)
      ⟨thread, .stop m .session⟩).run.run s).map (fun o => (o.1.isOk,
        o.2.since Event.destruction? s.journal.size, o.2.since Event.ended? s.journal.size)) =
      some (false, [⟨plain 1 "form", ⟨1⟩, ⟨1⟩⟩, lamp, ⟨plain 2 "cart", ⟨2⟩, ⟨2⟩⟩],
        [(m, .conversation, nested), (m, .session, session)]) := by
    decide +kernel
  obtain ⟨⟨answer, t⟩, hrun, ht⟩ := Option.map_eq_some_iff.1 hseen
  obtain ⟨hanswer, hdestroyed, hended⟩ : _ ∧ _ ∧ _ := by simpa using ht
  cases answer with
  | ok _ => cases hanswer
  | error error =>
    obtain ⟨u, hcomplete⟩ := scope_end_complete supply thread m .session session meanwhile s t
      (.error error) (by decide) horder hattached hobeys hrun
    exact ⟨error, t, u, by decide, horder, hattached, hobeys, hrun, hdestroyed, hended, hcomplete⟩

/-- Observers are told of the context once if callbacks ask nobody but the container, and on the
thread of the request. -/
theorem scope_end_told_once (supply : Supply σ) (thread : Thread) (m : Container)
    (kind : ScopeKind) (c : ScopeContext) (meanwhile : Callback → Program library σ)
    (s t : Store (Watched library σ)) (answer : Except LifecycleError Unit)
    (hkind : kind ≠ .conversation) (hissued : s.Issued)
    (hattached : m.attached thread kind s = some c)
    (hobeys : ∀ cb, (meanwhile cb).Obeys windingDown [⟨thread, .stop m kind⟩])
    (hconfined : ∀ cb, (meanwhile cb).Obeys (confined m thread (m.Reaches thread [] s))
      [⟨thread, .stop m kind⟩])
    (hrun : (library.perform (supply.hostOf meanwhile) ⟨thread, .stop m kind⟩).run.run s =
      some (answer, t)) :
    (t.since Event.ended? s.journal.size).count (m, kind, c) = 1 := by
  let w : Closing σ := ⟨supply, s.nextContext⟩
  have hserves := w.serves meanwhile _ hobeys thread
  have hcourse := hserves.stop_course (m := m) hkind ⟨hissued, Nat.le_refl _⟩ hattached
  obtain ⟨u, hu⟩ := (Act.wp_of_run hrun).1 hcourse
  have hisolated := (Act.wp_of_run hrun).1
    (Call.run_isolated supply (.stop m kind) rfl hconfined)
  refine hu.notice hkind fun thread' hne hc => ?_
  have hscopes := hisolated.scopes m thread' fun hsame => hne (Prod.mk.inj hsame).2
  rw [Container.slot, hscopes]
  exact hc

end ContextualLifecycle
