import ContextualLifecycle.Proofs.Closing.Complete
import ContextualLifecycle.Proofs.Conversation.Nesting

namespace ContextualLifecycle

variable {σ : Type}

/-- The call leaves contexts, conversations and scopes alone. -/
def Call.staysOut : Call → Bool
  | register .. | wait .. | newEpisode .. | wrap .. | describe .. | addDependent .. | push ..
  | destroyDependent .. | removeAllDependents .. | release .. => true
  | _ => false

def stayingOut : Rule := fun _ request => request.call.staysOut = true

namespace ScopeContext

/-- What remains of a context that was torn down. -/
def Record.remains (r : ScopeContext.Record) : ScopeContext.Record := { kind := r.kind }

/-- Some entries are taken out, one after the other. -/
def Record.strip (ids : List ContextualId) (r : ScopeContext.Record) : ScopeContext.Record :=
  { r with entries := ids.foldl Table.erase r.entries }

theorem Record.get?_strip (ids : List ContextualId) (r : ScopeContext.Record) (id : ContextualId) :
    (r.strip ids).entries.get? id = if id ∈ ids then none else r.entries.get? id := by
  induction ids generalizing r with
  | nil => rfl
  | cons first ids ih =>
    refine (ih { r with entries := r.entries.erase first }).trans ?_
    rw [Table.get?_erase]
    by_cases hid : id ∈ ids
    · rw [if_pos hid, if_pos (List.mem_cons_of_mem _ hid)]
    · rw [if_neg hid]
      by_cases hfirst : id = first
      · rw [if_pos hfirst, if_pos (hfirst ▸ List.mem_cons_self)]
      · rw [if_neg hfirst, if_neg fun hin => (List.mem_cons.1 hin).elim hfirst hid]

theorem Record.strip_keys (r : ScopeContext.Record) :
    r.strip r.entries.keys = { r with entries := ∅ } := by
  have hempty : (r.strip r.entries.keys).entries = ∅ := by
    apply Table.eq_empty_of_get?
    intro id
    rw [get?_strip]
    split
    · rfl
    · rename_i hid
      rw [Table.mem_keys_iff] at hid
      simpa using hid
  rw [← hempty]
  rfl

end ScopeContext

namespace Closing

variable {w : Closing σ} {host : Host (Watched library σ)} {m : Container}
  {s t u : Store (Watched library σ)} {c x : ScopeContext}
  {gone gone' : ScopeContext → Prop} {told told' : List Notice}

/-- From one store to another some contexts are torn down, with all that was in them, and observers
are told some ends. Nothing else happens to contexts, conversations and scopes. -/
structure Clears (w : Closing σ) (gone : ScopeContext → Prop) (told : List Notice)
    (s t : Store (Watched library σ)) : Prop extends s.Precedes t where
  remains : ∀ x, gone x → t.context x = (s.context x).remains
  kept : ∀ x, ¬ gone x → t.context x = s.context x
  passed : ∀ x, gone x → ∀ id n b, (s.context x).entries.get? id = some ⟨n, .live b⟩ →
    w.Passed x id n b s t
  notices : t.notices = s.notices ++ told
  conversations : ∀ v : Conversation, t.conversation v = s.conversation v
  scopes : ∀ (m : Container) thread, t.threadScopes m thread = s.threadScopes m thread
  nextContext : t.nextContext = s.nextContext
  application : ∀ m : Container, m.application t = m.application s

/-- Contexts, conversations and scopes are left alone. -/
abbrev Bypasses (w : Closing σ) (s t : Store (Watched library σ)) : Prop :=
  w.Clears (fun _ => False) [] s t

theorem Bypasses.context (h : w.Bypasses s t) (x : ScopeContext) : t.context x = s.context x :=
  h.kept x fun hgone => hgone

theorem clears_none (hprecedes : s.Precedes t) (hcontexts : t.contexts = s.contexts)
    (hnotices : t.notices = s.notices ++ told) (hconversations : t.conversations = s.conversations)
    (hscopes : t.scopes = s.scopes) (hnext : t.nextContext = s.nextContext)
    (happlication : ∀ m : Container, m.application t = m.application s) :
    w.Clears (fun _ => False) told s t where
  toPrecedes := hprecedes
  remains _ hgone := hgone.elim
  kept x _ := Store.context_congr hcontexts x
  passed _ hgone := hgone.elim
  notices := hnotices
  conversations := Store.conversation_congr hconversations
  scopes := Store.threadScopes_congr hscopes
  nextContext := hnext
  application := happlication

theorem bypasses_aside (hjournal : t.journal = s.journal) (hseen : t.seen = s.seen)
    (hcontexts : t.contexts = s.contexts) (hconversations : t.conversations = s.conversations)
    (hscopes : t.scopes = s.scopes) (hnext : t.nextContext = s.nextContext)
    (happlication : ∀ m : Container, m.application t = m.application s) : w.Bypasses s t := by
  refine clears_none ⟨?_, ?_⟩ hcontexts ?_ hconversations hscopes hnext happlication
  · exact hjournal ▸ List.prefix_refl _
  · exact hseen ▸ List.suffix_refl _
  · rw [Store.notices, Store.since, hjournal, List.append_nil]
    rfl

theorem Bypasses.refl (s : Store (Watched library σ)) : w.Bypasses s s :=
  bypasses_aside rfl rfl rfl rfl rfl rfl fun _ => rfl

theorem Bypasses.recontext {contexts contexts' : Table ScopeContext ScopeContext.Record}
    (h : w.Bypasses s t)
    (hsame : ∀ x, { t with contexts := contexts' }.context x = { s with contexts }.context x) :
    w.Bypasses { s with contexts } { t with contexts := contexts' } :=
  { h with
    remains := fun _ hgone => hgone.elim
    kept := fun x _ => hsame x
    passed := fun _ hgone => hgone.elim }

theorem bypasses_note {event : Event} (h : event.notice? = none) (s : Store (Watched library σ)) :
    w.Bypasses s (s.note event) := by
  refine clears_none (precedes_note event s) rfl ?_ rfl rfl rfl fun _ => rfl
  rw [Store.notices_note, h, Option.toList_none]

namespace Clears

theorem congr (h : w.Clears gone told s t) (hgone : ∀ x, gone x ↔ gone' x) :
    w.Clears gone' told s t := by
  have heq : gone = gone' := funext fun x => propext (hgone x)
  exact heq ▸ h

theorem trans (h : w.Clears gone told s u) (h' : w.Clears gone' told' u t) :
    w.Clears (fun x => gone x ∨ gone' x) (told ++ told') s t where
  toPrecedes := h.toPrecedes.trans h'.toPrecedes
  remains x hx := by
    by_cases hgone : gone x
    · by_cases hgone' : gone' x
      · rw [h'.remains x hgone', h.remains x hgone]
        rfl
      · rw [h'.kept x hgone', h.remains x hgone]
    · rw [h'.remains x (hx.resolve_left hgone), h.kept x hgone]
  kept x hx := by
    rw [not_or] at hx
    rw [h'.kept x hx.2, h.kept x hx.1]
  passed x hx id n b hb := by
    by_cases hgone : gone x
    · exact (h.passed x hgone id n b hb).widen (.refl s) h'.toPrecedes
    · rw [← h.kept x hgone] at hb
      exact (h'.passed x (hx.resolve_left hgone) id n b hb).widen h.toPrecedes (.refl t)
  notices := by rw [h'.notices, h.notices, List.append_assoc]
  conversations v := (h'.conversations v).trans (h.conversations v)
  scopes m thread := (h'.scopes m thread).trans (h.scopes m thread)
  nextContext := h'.nextContext.trans h.nextContext
  application m := (h'.application m).trans (h.application m)

theorem bypass (h : w.Clears gone told s u) (h' : w.Bypasses u t) : w.Clears gone told s t := by
  have hboth := (h.trans h').congr fun x => iff_of_eq (or_false (gone x))
  rwa [List.append_nil] at hboth

theorem shrinks (h : w.Clears gone told s t) : s.Shrinks t where
  nextContext := h.nextContext
  active x hx := by
    by_cases hgone : gone x
    · rw [h.remains x hgone] at hx
      cases hx
    · rwa [h.kept x hgone] at hx
  listed x id v hv := by
    rw [ScopeContext.conversation?] at hv
    by_cases hgone : gone x
    · rw [h.remains x hgone] at hv
      cases hv
    · rwa [h.kept x hgone] at hv
  named v := congrArg (·.id) (h.conversations v)

theorem attached (h : w.Clears gone told s t) (m : Container) (thread : Thread)
    (kind : ScopeKind) : m.attached thread kind t = m.attached thread kind s := by
  simp only [Container.attached, Container.slot, h.application, h.scopes]

theorem conversationSlot (h : w.Clears gone told s t) (m : Container) (thread : Thread) :
    m.conversationSlot thread t = m.conversationSlot thread s := by
  rw [Container.conversationSlot, h.scopes, Container.conversationSlot]

end Clears

theorem clears_self (hprecedes : s.Precedes t)
    (hpassed : ∀ id n b, (s.context c).entries.get? id = some ⟨n, .live b⟩ → w.Passed c id n b s t)
    (h : w.Bypasses (c.update ScopeContext.Record.remains s) t) : w.Clears (· = c) [] s t where
  toPrecedes := hprecedes
  remains x hx := by
    subst hx
    rw [h.context, ScopeContext.context_update]
  kept x hx := by rw [h.context, ScopeContext.context_update_of_ne hx]
  passed x hx := hx ▸ hpassed
  notices := h.notices
  conversations := h.conversations
  scopes := h.scopes
  nextContext := h.nextContext
  application := h.application

/-- A host whose callbacks are programs that leave contexts, conversations and scopes alone. -/
structure Defers (w : Closing σ) (host : Host (Watched library σ)) : Prop where
  program : ∃ thread meanwhile, host = w.host thread meanwhile
  keeps : ∀ s, host.Keeps False (w.Bypasses s)

section Callbacks

variable (h : host.Keeps False (w.Bypasses s))

include h

theorem release_bypasses (e : Episode) : Episode.ReleaseKeeps False host e (w.Bypasses s) where
  taken t front _ back ht _ :=
    (ht.bypass (bypasses_aside (t := e.relist (front ++ back) t) rfl rfl rfl rfl rfl rfl
      fun _ => rfl)).bypass (bypasses_note rfl _)
  reported t _ ht := ht.bypass (bypasses_note rfl t)
  destroy unit inst := h.destroy unit inst e
  flagged _ _ ht :=
    ht.bypass (bypasses_aside rfl rfl rfl rfl rfl rfl fun _ => rfl)
  released t _ ht := ht.bypass (bypasses_note rfl t)
  release outer := h.release outer

theorem push_bypasses (e : Episode) (inst : Instance) :
    Run.Keeps False (w.Bypasses s) (e.push host inst) := by
  apply Episode.push_keeps
  · exact fun t ht => ht.bypass (bypasses_aside rfl rfl rfl rfl rfl rfl fun _ => rfl)
  · exact fun t _ ht => ht.bypass (bypasses_note rfl t)
  · exact fun outer => h.push outer inst

/-- The calls of callbacks that stay out return, and stay out. -/
theorem perform_bypasses (call : Call) (hcall : call.staysOut = true) :
    Act.Keeps False (w.Bypasses s) (call.perform host) := by
  cases call with
  | register m id unit =>
    intro t ht
    refine ht.bypass (bypasses_aside rfl rfl rfl rfl rfl rfl fun m' => ?_)
    refine (Container.application_update m m' _ t).trans ?_
    split
    · rename_i hm
      rw [hm]
      rfl
    · rfl
  | wait span => exact fun t ht => ht.bypass (bypasses_aside rfl rfl rfl rfl rfl rfl fun _ => rfl)
  | newEpisode m contextual =>
    exact fun t ht => ht.bypass (bypasses_aside rfl rfl rfl rfl rfl rfl fun _ => rfl)
  | wrap m outer unit =>
    cases outer with
    | episode e => exact fun t ht => ht
    | foreign f => exact fun t ht => ht.bypass (bypasses_aside rfl rfl rfl rfl rfl rfl fun _ => rfl)
  | describe e change =>
    exact fun t ht => ht.bypass (bypasses_aside rfl rfl rfl rfl rfl rfl fun _ => rfl)
  | addDependent e unit inst =>
    cases inst with
    | none => exact fun t ht => ht
    | some inst => exact fun t ht => ht.bypass (bypasses_aside rfl rfl rfl rfl rfl rfl fun _ => rfl)
  | push e inst => exact fun t ht => (Act.wp_lift _).2 (push_bypasses h e inst t ht)
  | destroyDependent e inst => exact (release_bypasses h e).toDrainKeeps.destroyDependent inst
  | removeAllDependents e => exact (release_bypasses h e).removeAllDependents
  | release e => exact (release_bypasses h e).release_keeps
  | _ => cases hcall

end Callbacks

theorem run_bypasses (p : Program library σ) (within : List Request)
    (hobeys : p.Obeys stayingOut within) (s : Store (Watched library σ)) :
    Act.Keeps False (w.Bypasses s) (p.run w.supply) := by
  refine Program.run_keeps_within (fun (_ : Unit) _ => w.Bypasses s) w.supply ?_ ?_ ?_ p within
    hobeys ()
  · exact fun _ _ t ht => ht.bypass (clears_none ⟨List.prefix_refl _, List.suffix_cons _ _⟩ rfl
      (List.append_nil _).symm rfl rfl rfl fun _ => rfl)
  · exact fun _ _ own t ht => ht.bypass (bypasses_aside rfl rfl rfl rfl rfl rfl fun _ => rfl)
  · intro meanwhile within request hrule hmeanwhile _ t ht
    have hhost : ({ w.supply.hostOf meanwhile with thread := request.thread } :
        Host (Watched library σ)).Keeps False (w.Bypasses s) :=
      (w.supply.watched.host_keeps (hmeanwhile ())).on request.thread
    apply (perform_bypasses hhost request.call hrule t ht).mono
    exact fun _ u hu => hu.bypass (clears_none ⟨List.prefix_refl _, List.suffix_cons _ _⟩ rfl
      (List.append_nil _).symm rfl rfl rfl fun _ => rfl)

theorem defers (meanwhile : Callback → Program library σ) (within : List Request)
    (hobeys : ∀ cb, (meanwhile cb).Obeys stayingOut within) (thread : Thread) :
    w.Defers (w.host thread meanwhile) where
  program := ⟨thread, meanwhile, rfl⟩
  keeps s := (w.supply.watched.host_keeps fun cb =>
    run_bypasses (meanwhile cb) within (hobeys cb) s).on thread

theorem Defers.keepsAscending (h : w.Defers host) : host.Keeps False Store.Ascending := by
  refine .through h.keeps fun s hs => ⟨s, .refl s, fun t ht => hs.mono fun c id v hv => ?_⟩
  rwa [ScopeContext.conversation?, ht.context] at hv

namespace Defers

variable (h : w.Defers host)

include h

theorem bagDestroyed {id : ContextualId} {n : Nat} {b : Bag}
    (hlive : (s.context c).entries.get? id = some ⟨n, .live b⟩) :
    Act.wp False (b.destroy host)
      (fun _ t => w.Bypasses (c.takeEntry id s).2 t ∧ w.Passed c id n b s t)
      (c.takeEntry id s).2 := by
  let taken := (c.takeEntry id s).2
  let noted := taken.note (.destroying b.contextual b.inst b.episode)
  have hdestroy : Act.wp False (b.contextual.destroy host b.inst b.episode)
      (fun _ t => w.Bypasses noted t) taken :=
    Contextual.wp_destroy_of (.refl noted) ((h.keeps noted).destroy _ _ _ _ (.refl noted))
  simp only [Bag.destroy, Act.wp_bind, Act.wp_attempt]
  apply hdestroy.run.mono
  rintro destroyed between ⟨hrun, hbetween⟩
  apply ((release_bypasses (h.keeps between) b.episode).release_keeps between
    (.refl between)).run.mono
  rintro released t ⟨hrun', ht⟩
  have hnoted : w.Bypasses taken noted := bypasses_note rfl taken
  have hall : w.Bypasses taken t := (hnoted.bypass hbetween).bypass ht
  obtain ⟨thread, meanwhile, rfl⟩ := h.program
  have hpassed : w.Passed c id n b s t := ⟨thread, meanwhile, s, between, t, destroyed, released,
    .refl s, hlive, hrun, hbetween.toPrecedes, hrun', ht.toPrecedes, .refl t⟩
  rcases destroyed with error | _ <;> rcases released with error' | _ <;> exact ⟨hall, hpassed⟩

theorem destroyEntry (id : ContextualId) (s : Store (Watched library σ)) :
    Act.wp False (c.destroyEntry host id) (fun _ t => w.Bypasses (c.takeEntry id s).2 t ∧
      ∀ n b, (s.context c).entries.get? id = some ⟨n, .live b⟩ → w.Passed c id n b s t) s := by
  let Done : Store (Watched library σ) → Prop := fun t => w.Bypasses (c.takeEntry id s).2 t ∧
    ∀ n b, (s.context c).entries.get? id = some ⟨n, .live b⟩ → w.Passed c id n b s t
  have hdone : Act.wp False (c.destroyEntry host id) (fun _ t => Done t) s := by
    apply ScopeContext.wp_destroyEntry
    · intro habsent
      refine ⟨.refl _, fun n b hb => ?_⟩
      rw [ScopeContext.live, hb] at habsent
      cases habsent
    · intro bag hlive
      have hcell : ∃ n, (s.context c).entries.get? id = some ⟨n, .live bag⟩ := by
        obtain ⟨⟨n, content⟩, hcell, hbag⟩ := Option.bind_eq_some_iff.1 hlive
        cases content with
        | live b =>
          obtain rfl : b = bag := Option.some.inj hbag
          exact ⟨n, hcell⟩
        | _ => cases hbag
      obtain ⟨n, hcell⟩ := hcell
      apply (h.bagDestroyed hcell).mono
      rintro _ t ⟨ht, hpassed⟩
      have honly : ∀ n' b, (s.context c).entries.get? id = some ⟨n', .live b⟩ →
          w.Passed c id n' b s t := by
        intro n' b hb
        rw [hcell] at hb
        cases hb
        exact hpassed
      have hreport : ∀ content, w.Bypasses t (t.report content) :=
        fun content => bypasses_note rfl t
      exact ⟨⟨ht, honly⟩, fun content => ⟨ht.bypass (hreport content), fun n' b hb =>
        (honly n' b hb).widen (.refl s) (hreport content).toPrecedes⟩⟩
  exact hdone

theorem entriesDestroyed (ids : List ContextualId) (s : Store (Watched library σ)) :
    Run.wp False (collectFailures (c.destroyEntry host) ids) (fun _ t =>
      w.Bypasses (c.update (ScopeContext.Record.strip ids) s) t ∧
        ∀ id ∈ ids, ∀ n b, (s.context c).entries.get? id = some ⟨n, .live b⟩ →
          w.Passed c id n b s t) s := by
  induction ids generalizing s with
  | nil =>
    have hsame : w.Bypasses (c.update (ScopeContext.Record.strip []) s) s := by
      refine (Bypasses.refl s).recontext fun x => ?_
      change s.context x = (c.update (ScopeContext.Record.strip []) s).context x
      rw [ScopeContext.context_update_eq]
      split
      · rename_i hx
        rw [hx]
        rfl
      · rfl
    exact ⟨hsame, fun _ hin => nomatch hin⟩
  | cons id ids ih =>
    rw [Run.wp_collectFailures_cons]
    apply (h.destroyEntry id s).mono
    rintro _ u ⟨hu, hpassed⟩
    apply (ih u).mono
    rintro _ t ⟨ht, hrest⟩
    let taken := (c.takeEntry id s).2
    have hprecedes : s.Precedes u := ⟨hu.journal, hu.seen⟩
    have hstripped : w.Bypasses (c.update (ScopeContext.Record.strip (id :: ids)) s)
        (c.update (ScopeContext.Record.strip ids) u) := by
      refine hu.recontext fun x => ?_
      change (c.update (ScopeContext.Record.strip ids) u).context x =
        (c.update (ScopeContext.Record.strip (id :: ids)) s).context x
      rw [ScopeContext.context_update_eq, ScopeContext.context_update_eq, hu.context, hu.context,
        ScopeContext.takeEntry, ScopeContext.context_update_eq, ScopeContext.context_update_eq,
        if_pos rfl]
      split <;> rfl
    refine ⟨hstripped.bypass ht, fun x hx n b hb => ?_⟩
    by_cases hid : x = id
    · subst hid
      have hrest : u.Precedes t := ⟨ht.journal, ht.seen⟩
      exact (hpassed n b hb).widen (.refl s) hrest
    · refine (hrest x ((List.mem_cons.1 hx).resolve_left hid) n b ?_).widen hprecedes (.refl t)
      rw [hu.context, ScopeContext.takeEntry, ScopeContext.context_update, Table.get?_erase,
        if_neg hid]
      exact hb

omit h in
/-- Conversations that have nothing in common are torn down one after the other, if each of them can
be while the others are as they were or gone. -/
theorem conversations {f : Conversation → Act (Watched library σ) Unit}
    {reach : Conversation → ScopeContext → Prop} {notices : Conversation → List Notice}
    {vs : List Conversation}
    (hf : ∀ v ∈ vs, ∀ gone told u, (∀ x, reach v x → ¬ gone x) → w.Clears gone told s u →
      Act.wp False (f v) (fun _ t => w.Clears (reach v) (notices v) u t) u)
    (hapart : vs.Pairwise fun v v' => ∀ x, reach v x → ¬ reach v' x)
    (hu : w.Clears gone told s u) (hfree : ∀ v ∈ vs, ∀ x, reach v x → ¬ gone x) :
    Run.wp False (collectFailures f vs) (fun _ t =>
      w.Clears (fun x => gone x ∨ ∃ v ∈ vs, reach v x) (told ++ vs.flatMap notices) s t) u := by
  induction vs generalizing gone told u with
  | nil =>
    rw [List.flatMap_nil, List.append_nil]
    refine hu.congr fun x => ⟨.inl, ?_⟩
    rintro (hx | ⟨_, hin, _⟩)
    · exact hx
    · cases hin
  | cons v vs ih =>
    obtain ⟨hfirst, hapart⟩ := List.pairwise_cons.1 hapart
    rw [Run.wp_collectFailures_cons]
    apply (hf v List.mem_cons_self gone told u (hfree v List.mem_cons_self) hu).mono
    intro _ t ht
    have hfree' : ∀ v' ∈ vs, ∀ x, reach v' x → ¬ (gone x ∨ reach v x) := by
      rintro v' hin x hx (hgone | hreach)
      · exact hfree v' (List.mem_cons_of_mem _ hin) x hx hgone
      · exact hfirst v' hin x hreach hx
    apply (ih (fun v' hin => hf v' (List.mem_cons_of_mem _ hin)) hapart (hu.trans ht)
      hfree').mono
    intro _ t' ht'
    rw [List.flatMap_cons, ← List.append_assoc]
    refine ht'.congr fun x => ?_
    rw [or_assoc]
    simp only [List.mem_cons, exists_eq_or_imp]

/-- A context that is made inactive loses its entries, and then its conversations. -/
theorem emptied (s : Store (Watched library σ)) :
    Run.wp False (collectFailures (c.destroyEntry host)
      ((c.setActive false s).context c).entries.keys) (fun _ t =>
        (c.takeConversations t).1 = (s.context c).conversations.values ∧
        w.Clears (· = c) [] s (c.takeConversations t).2) (c.setActive false s) := by
  let inactive := c.setActive false s
  have hinactive : inactive.context c = { s.context c with active := false } :=
    ScopeContext.context_update c _ s
  have hprecedes : s.Precedes inactive := ⟨List.prefix_refl _, List.suffix_refl _⟩
  apply (h.entriesDestroyed (inactive.context c).entries.keys inactive).mono
  rintro failures t ⟨ht, hpassed⟩
  have hown : t.context c = { s.context c with active := false, entries := ∅ } := by
    rw [ht.context, ScopeContext.context_update, ScopeContext.Record.strip_keys, hinactive]
  refine ⟨by rw [ScopeContext.takeConversations, hown], clears_self ⟨?_, ?_⟩ ?_ ?_⟩
  · exact ht.journal
  · exact ht.seen
  · intro id n b hb
    have hb' : (inactive.context c).entries.get? id = some ⟨n, .live b⟩ := by
      rw [hinactive]
      exact hb
    have hid : id ∈ (inactive.context c).entries.keys := by
      rw [Table.mem_keys_iff, hb']
      rfl
    exact (hpassed id hid n b hb').widen hprecedes ⟨List.prefix_refl _, List.suffix_refl _⟩
  · refine ht.recontext fun x => ?_
    change (c.takeConversations t).2.context x =
      (c.update ScopeContext.Record.remains s).context x
    rw [ScopeContext.takeConversations, ScopeContext.context_update_eq,
      ScopeContext.context_update_eq, hown]
    split
    · rfl
    · rename_i hx
      rw [ht.context, ScopeContext.context_update_of_ne hx]
      exact ScopeContext.context_update_of_ne hx _ s

omit h in
theorem conversation_turn {v : Conversation} {action : Act (Watched library σ) Unit}
    (notices : List Notice) (hs : s.Nested)
    (haction : ∀ {u : Store (Watched library σ)}, u.Nested → u.nextContext = s.nextContext →
      Act.wp False action (fun _ t => w.Clears (u.Within v.context) notices u t) u)
    (hfree : ∀ x, (s.context v.context).active = true ∧ s.Within v.context x → ¬ gone x)
    (hu : w.Clears gone told s u) :
    Act.wp False (do if ((← get).context v.context).active then action)
      (fun _ t => w.Clears (fun x => (s.context v.context).active = true ∧ s.Within v.context x)
        (if (s.context v.context).active then notices else []) u t) u := by
  simp only [Act.wp_bind, Act.wp_get]
  cases hactive : (s.context v.context).active with
  | true =>
    have hkept : ∀ x, s.Within v.context x → u.context x = s.context x :=
      fun x hx => hu.kept x (hfree x ⟨hactive, hx⟩)
    rw [hkept v.context .self, if_pos hactive, if_pos rfl]
    apply (haction (hu.shrinks.nested hs) hu.nextContext).mono
    intro _ t ht
    refine ht.congr fun x => ⟨fun hx => ⟨rfl, hx.of_shrinks hu.shrinks⟩, fun hx => ?_⟩
    exact hx.2.of_kept hkept
  | false =>
    have hstill : (u.context v.context).active = false := by
      cases hup : (u.context v.context).active with
      | false => rfl
      | true =>
        rw [hu.shrinks.active _ hup] at hactive
        cases hactive
    rw [if_neg (by simp [hstill]), if_neg Bool.false_ne_true]
    exact (Bypasses.refl u).congr fun x => ⟨False.elim, fun hx => (Bool.false_ne_true hx.1).elim⟩

/-- A context is torn down together with what is in it. -/
theorem destroyNested (depth : Nat) (hs : s.Nested) (hpositive : 0 < depth)
    (hdepth : s.nextContext ≤ c.number + depth) :
    Act.wp False (c.destroyNested host depth) (fun _ t => w.Clears (s.Within c) [] s t) s := by
  induction depth generalizing c s with
  | zero => cases hpositive
  | succ depth ih =>
    apply ScopeContext.wp_destroyNested
    apply (h.emptied s).mono
    rintro failures emptied ⟨hlisted, htaken⟩
    let reach : Conversation → ScopeContext → Prop := fun v x =>
      (s.context v.context).active = true ∧ s.Within v.context x
    have hconversation : ∀ v ∈ (s.context c).conversations.values, ∀ gone told u,
        (∀ x, reach v x → ¬ gone x) → w.Clears gone told s u →
        Act.wp False (ScopeContext.destroyActive host depth v)
          (fun _ t => w.Clears (reach v) [] u t) u := by
      intro v hv gone told u hfree hu
      obtain ⟨id, hv⟩ := ScopeContext.mem_values.1 hv
      have hascends := hs.ascending c id v hv
      have hmade := hs.made c id v hv
      have hturn := conversation_turn [] hs
        (fun hu hnext => ih hu (by omega) (by omega)) hfree hu
      rwa [ite_self] at hturn
    have hapart : (s.context c).conversations.values.Pairwise
        fun v v' => ∀ x, reach v x → ¬ reach v' x :=
      (Store.Within.pairwise_apart hs c).imp fun hx x hreach hreach' => hx x hreach.2 hreach'.2
    have hfree : ∀ v ∈ (s.context c).conversations.values, ∀ x, reach v x → ¬ x = c := by
      rintro v hv x hx rfl
      obtain ⟨id, hv⟩ := ScopeContext.mem_values.1 hv
      exact Store.Within.not_back hs hv hx.2
    rw [hlisted]
    apply (conversations hconversation hapart htaken hfree).mono
    intro _ t ht
    rw [List.flatMap_eq_nil_iff.2 fun _ _ => rfl] at ht
    refine ht.congr fun x => ⟨?_, fun hx => ?_⟩
    · rintro (rfl | ⟨v, hv, hactive, hx⟩)
      · exact .self
      · obtain ⟨id, hv⟩ := ScopeContext.mem_values.1 hv
        exact (Store.Within.conversation .self hv hactive).trans hx
    · obtain rfl | ⟨id, v, hv, hactive, hin⟩ := hx.cases_listed
      · exact .inl rfl
      · exact .inr ⟨v, ScopeContext.mem_values.2 ⟨id, hv⟩, hactive, hin⟩

theorem destroyAll (hs : s.Nested) (hwords : s.nextContext ≤ UInt64.size) (c : ScopeContext) :
    Act.wp False (c.destroyAll host) (fun _ t => w.Clears (s.Within c) [] s t) s :=
  h.destroyNested UInt64.size hs (Nat.lt_of_lt_of_le Nat.one_pos (by decide))
    (Nat.le_trans hwords (Nat.le_add_left _ _))

theorem announce (phase : Phase) (kind : ScopeKind) (c : ScopeContext)
    (s : Store (Watched library σ)) : Run.wp False (m.announce host phase kind c)
      (fun _ t => w.Clears (fun _ => False) [(phase, m, kind, c)] s t) s := by
  let noted := s.note (.notified phase m kind c)
  have htold : w.Clears (fun _ => False) [(phase, m, kind, c)] s noted :=
    clears_none (precedes_note _ s) rfl (Store.notices_note _ s) rfl rfl rfl fun _ => rfl
  refine Container.wp_announce htold (fun content t ht => ht.bypass (bypasses_note rfl t)) ?_
  intro l t ht
  exact ((h.keeps t).notify l phase m kind c t (.refl t)).mono fun _ u hu => ht.bypass hu

theorem destroyContext (hs : s.Nested) (hwords : s.nextContext ≤ UInt64.size) (kind : ScopeKind)
    (c : ScopeContext) : Run.wp False (m.destroyContext host kind c)
      (fun _ t => w.Clears (s.Within c) [(.destroyed, m, kind, c)] s t) s := by
  apply Container.wp_destroyContext
  apply (h.destroyAll hs hwords c).mono
  intro _ u hu
  apply (h.announce .destroyed kind c u).mono
  exact fun _ t ht => (hu.trans ht).congr fun x => iff_of_eq (or_false (s.Within c x))

theorem teardownConversation (hs : s.Nested) (hwords : s.nextContext ≤ UInt64.size)
    (v : Conversation) : Act.wp False (m.teardownConversation host v)
      (fun _ t => w.Clears (s.Within v.context) [(.destroyed, m, .conversation, v.context)] s t)
      s :=
  Container.wp_teardownConversation (h.destroyContext hs hwords .conversation v.context)

end Defers

end Closing

end ContextualLifecycle
