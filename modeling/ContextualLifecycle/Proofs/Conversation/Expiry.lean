import ContextualLifecycle.Proofs.Closing.Clearing
import ContextualLifecycle.Proofs.Closing.Failures
import ContextualLifecycle.Proofs.Conversation.Departure

namespace ContextualLifecycle

variable {σ : Type}

/-- The conversation is long-running, nobody holds it, and it has been idle for longer than its
timeout. -/
structure Conversation.Forsaken (v : Conversation) (s : Store σ) : Prop where
  lasting : (s.conversation v).transient = false
  free : (s.conversation v).busy = false
  idle : (s.conversation v).lastAccess.nanos + (s.conversation v).timeout.nanos < s.clock.nanos

theorem Conversation.isAbandoned_iff {v : Conversation} {s : Store σ} :
    v.isAbandoned s = true ↔ v.Forsaken s := by
  have hidle : v.isExpired s = true ↔ (s.conversation v).lastAccess.nanos +
      (s.conversation v).timeout.nanos < s.clock.nanos := by
    rw [Conversation.isExpired, decide_eq_true_iff]
    change (s.conversation v).timeout.nanos <
      s.clock.nanos - (s.conversation v).lastAccess.nanos ↔ _
    omega
  rw [Conversation.isAbandoned, Bool.and_eq_true, Bool.and_eq_true, Bool.not_eq_true',
    Bool.not_eq_true', hidle]
  constructor
  · intro h
    exact ⟨h.1.1, h.1.2, h.2⟩
  · intro h
    exact ⟨⟨h.lasting, h.free⟩, h.idle⟩

namespace ScopeContext

variable {s : Store (Watched library σ)} {c x : ScopeContext} {v : Conversation} {id : String}

theorem mem_takeExpired :
    v ∈ (c.takeExpired s).1 ↔ (∃ id, c.conversation? id s = some v) ∧ v.Forsaken s := by
  rw [← Conversation.isAbandoned_iff]
  constructor
  · intro hv
    obtain ⟨⟨id, _⟩, hrow, rfl⟩ := List.mem_map.1 hv
    obtain ⟨hin, habandoned⟩ := List.mem_filter.1 hrow
    exact ⟨⟨id, Table.get?_eq_some_iff.2 hin⟩, habandoned⟩
  · rintro ⟨⟨id, hv⟩, habandoned⟩
    have hin := Table.get?_eq_some_iff.1 hv
    exact List.mem_map.2 ⟨(id, v), List.mem_filter.2 ⟨hin, habandoned⟩, rfl⟩

theorem conversation?_takeExpired_iff : c.conversation? id (c.takeExpired s).2 = some v ↔
    c.conversation? id s = some v ∧ ¬ v.Forsaken s := by
  rw [← Conversation.isAbandoned_iff]
  constructor
  · intro hv
    have hbefore := (Store.Quiet.takeExpired c s).listed c id v hv
    refine ⟨hbefore, fun habandoned => ?_⟩
    have hrow : id ∈ (Conversation.expiredRows c s).map Prod.fst := List.mem_map.2
      ⟨(id, v), List.mem_filter.2 ⟨Table.get?_eq_some_iff.1 hbefore, habandoned⟩, rfl⟩
    rw [Conversation.conversation?_takeExpired c hrow] at hv
    cases hv
  · rintro ⟨hv, hkept⟩
    exact (conversation?_takeExpired_or c hv).resolve_right fun h => hkept h.2

theorem takeExpired_shrinks (c : ScopeContext) (s : Store (Watched library σ)) :
    s.Shrinks (c.takeExpired s).2 := by
  obtain ⟨contexts, journal, heq⟩ := takeExpired_eq c s
  exact (Store.Quiet.takeExpired c s).shrinks (by rw [heq])

theorem within_takeExpired (hs : s.Nested) (hv : c.conversation? id s = some v) :
    (c.takeExpired s).2.Within v.context x ↔ s.Within v.context x := by
  refine ⟨.of_shrinks (takeExpired_shrinks c s), fun hx => hx.of_kept fun y hy => ?_⟩
  obtain ⟨conversations, heq⟩ := context_takeExpired c y s
  rw [heq, if_neg]
  rintro rfl
  exact Store.Within.not_back hs hv hy

end ScopeContext

/-- A conversation that is torn down in its turn: the instances that are destroyed meanwhile, and
what comes of it. -/
structure Container.Turn where
  conversation : Conversation
  ends : List Ended
  answer : Except LifecycleError Unit

/-- The conversation fails if one of the instances does, and tells of all of them. -/
def Container.Turn.failures (turn : Container.Turn) : List LifecycleError := failureOf turn.answer

/-- From one store to another conversations are torn down one after the other. -/
inductive Container.Turns (host : Host σ) (m : Container) : List Turn → Store σ → Store σ → Prop
  | here (s : Store σ) : Turns host m [] s s
  | turn {first : Turn} {rest : List Turn} {s u t : Store σ}
    (hrun : (m.teardownConversation host first.conversation).run.run s = some (first.answer, u))
    (hends : Destroys host m first.ends s u)
    (htells : Tells first.failures (first.ends.flatMap Ended.failures))
    (hrest : Turns host m rest u t) : Turns host m (first :: rest) s t

theorem Container.collectFailures_turns (host : Host σ) (m : Container) (vs : List Conversation)
    (s : Store σ) : Run.wp True (collectFailures (m.teardownConversation host) vs)
      (fun errors t => ∃ turns, turns.map Turn.conversation = vs ∧ Turns host m turns s t ∧
        errors = turns.flatMap Turn.failures) s := by
  induction vs generalizing s with
  | nil => exact ⟨[], rfl, .here s, rfl⟩
  | cons v vs ih =>
    simp only [collectFailures, Run.wp_bind, Run.wp_run]
    apply (told_teardownConversation host.exits_open v s trivial).run.mono
    rintro r u ⟨hrun, -, ⟨ends, hends, htells⟩, -⟩
    have hrest : ∀ errors t, (∃ turns, turns.map Turn.conversation = vs ∧ Turns host m turns u t ∧
        errors = turns.flatMap Turn.failures) →
        ∃ turns, turns.map Turn.conversation = v :: vs ∧ Turns host m turns s t ∧
          failureOf r ++ errors = turns.flatMap Turn.failures := by
      rintro errors t ⟨turns, hturns, hrest, rfl⟩
      refine ⟨⟨v, ends, r⟩ :: turns, ?_, .turn hrun hends htells hrest, rfl⟩
      rw [List.map_cons, hturns]
    cases r with
    | ok _ => exact (ih u).mono hrest
    | error e =>
      simp only [Run.wp_bind]
      exact (ih u).mono hrest

namespace Closing

variable {w : Closing σ} {host : Host (Watched library σ)} {m : Container}
  {session : ScopeContext} {s t : Store (Watched library σ)}
  {answer : Except LifecycleError Nat}

/-- The session was rid of the conversations that were forsaken, and all else is as it was. -/
structure Swept (w : Closing σ) (host : Host (Watched library σ)) (m : Container)
    (session : ScopeContext) (s t : Store (Watched library σ))
    (answer : Except LifecycleError Nat) : Prop where
  listed : ∀ id v, session.conversation? id t = some v ↔
    session.conversation? id s = some v ∧ ¬ v.Forsaken s
  own : ∃ conversations, t.context session = { s.context session with conversations }
  /-- Of a conversation that is gone nothing is left, and all instances in it were destroyed. -/
  torn : ∀ id v, session.conversation? id s = some v → v.Forsaken s →
    ∀ x, s.Within v.context x → t.context x = (s.context x).remains ∧
      ∀ id n b, (s.context x).entries.get? id = some ⟨n, .live b⟩ → w.Passed x id n b s t
  kept : ∀ id v, session.conversation? id s = some v → ¬ v.Forsaken s →
    ∀ x, s.Within v.context x → t.context x = s.context x
  elsewhere : ∀ x, x ≠ session →
    (∀ id v, session.conversation? id s = some v → s.Within v.context x → ¬ v.Forsaken s) →
    t.context x = s.context x
  /-- All conversations, those that are gone included, keep their flags and their timeouts. -/
  records : ∀ v, t.conversation v = s.conversation v
  attached : ∀ (m : Container) thread kind, m.attached thread kind t = m.attached thread kind s
  slots : ∀ (m : Container) thread, m.conversationSlot thread t = m.conversationSlot thread s
  /-- Each of them has its turn, and observers are told of each of them once. -/
  turns : ∃ turns : List Container.Turn,
    (turns.map (·.conversation)).Nodup ∧
    (∀ v, v ∈ turns.map (·.conversation) ↔
      (∃ id, session.conversation? id s = some v) ∧ v.Forsaken s) ∧
    Container.Turns host m turns (session.takeExpired s).2 t ∧
    t.notices = s.notices ++
      turns.map (fun turn => (.destroyed, m, .conversation, turn.conversation.context)) ∧
    answer = if turns.flatMap (·.failures) = [] then .ok turns.length
      else .error (.teardown "expired conversations" (turns.flatMap (·.failures)))

theorem Defers.expired (h : w.Defers host) (m : Container) (session : ScopeContext)
    (hs : s.Nested) (hwords : s.nextContext ≤ UInt64.size) :
    Run.wp False (collectFailures (m.teardownConversation host) (session.takeExpired s).1)
      (fun _ t => w.Clears (fun x => ∃ v ∈ (session.takeExpired s).1, s.Within v.context x)
        ((session.takeExpired s).1.map fun v => (.destroyed, m, .conversation, v.context))
        (session.takeExpired s).2 t) (session.takeExpired s).2 := by
  let taken := (session.takeExpired s).2
  have hshrinks : s.Shrinks taken := ScopeContext.takeExpired_shrinks session s
  have htaken := hshrinks.nested hs
  have hf : ∀ v ∈ (session.takeExpired s).1, ∀ gone told u,
      (∀ x, taken.Within v.context x → ¬ gone x) → w.Clears gone told taken u →
      Act.wp False (m.teardownConversation host v) (fun _ t =>
        w.Clears (taken.Within v.context) [(.destroyed, m, .conversation, v.context)] u t) u := by
    intro v _ gone told u hfree hu
    have hnext : u.nextContext ≤ UInt64.size := by
      rwa [hu.nextContext, hshrinks.nextContext]
    apply (h.teardownConversation (hu.shrinks.nested htaken) hnext v).mono
    intro _ t ht
    exact ht.congr fun x => ⟨.of_shrinks hu.shrinks, fun hx =>
      hx.of_kept fun y hy => hu.kept y (hfree y hy)⟩
  have hapart : (session.takeExpired s).1.Pairwise
      fun v v' => ∀ x, taken.Within v.context x → ¬ taken.Within v'.context x := by
    have hsub : (session.takeExpired s).1.Sublist (s.context session).conversations.values :=
      List.filter_sublist.map _
    refine ((Store.Within.pairwise_apart hs session).sublist hsub).imp ?_
    exact fun hx x hin hin' => hx x (hin.of_shrinks hshrinks) (hin'.of_shrinks hshrinks)
  apply (Defers.conversations hf hapart (Bypasses.refl taken) fun _ _ _ _ => not_false).mono
  intro _ t ht
  rw [List.nil_append, ← List.map_eq_flatMap] at ht
  refine ht.congr fun x => ?_
  rw [false_or]
  refine exists_congr fun v => and_congr_right fun hv => ?_
  obtain ⟨⟨id, hv⟩, _⟩ := ScopeContext.mem_takeExpired.1 hv
  exact ScopeContext.within_takeExpired hs hv

theorem Clears.swept {turns : List Container.Turn} (hs : s.Nested)
    (h : w.Clears (fun x => ∃ v ∈ (session.takeExpired s).1, s.Within v.context x)
      ((session.takeExpired s).1.map fun v => (.destroyed, m, .conversation, v.context))
      (session.takeExpired s).2 t)
    (hturns : turns.map Container.Turn.conversation = (session.takeExpired s).1)
    (hrun : Container.Turns host m turns (session.takeExpired s).2 t)
    (hanswer : answer = if turns.flatMap (·.failures) = [] then .ok turns.length
      else .error (.teardown "expired conversations" (turns.flatMap (·.failures)))) :
    w.Swept host m session s t answer := by
  let taken := (session.takeExpired s).2
  have hprecedes : s.Precedes taken :=
    (ebbs_takeExpired session s : w.Settles s taken).toPrecedes
  obtain ⟨contexts, journal, heq⟩ := ScopeContext.takeExpired_eq session s
  have hother : ∀ x, x ≠ session → taken.context x = s.context x := by
    intro x hx
    obtain ⟨conversations, hcontext⟩ := ScopeContext.context_takeExpired session x s
    rw [hcontext, if_neg hx]
  have hback : ∀ {id v x}, session.conversation? id s = some v → s.Within v.context x →
      x ≠ session := by
    rintro id v x hv hx rfl
    exact Store.Within.not_back hs hv hx
  have helsewhere : ∀ x, x ≠ session →
      (∀ id v, session.conversation? id s = some v → s.Within v.context x → ¬ v.Forsaken s) →
      t.context x = s.context x := by
    intro x hx hfree
    rw [h.kept x, hother x hx]
    rintro ⟨v, hv, hin⟩
    obtain ⟨⟨id, hlisted⟩, hforsaken⟩ := ScopeContext.mem_takeExpired.1 hv
    exact hfree id v hlisted hin hforsaken
  have hown : t.context session = taken.context session := by
    refine h.kept session ?_
    rintro ⟨v, hv, hin⟩
    obtain ⟨⟨id, hlisted⟩, _⟩ := ScopeContext.mem_takeExpired.1 hv
    exact hback hlisted hin rfl
  refine ⟨?_, ?_, ?_, ?_, helsewhere, ?_, ?_, ?_, turns, ?_, ?_, hrun, ?_, hanswer⟩
  · intro id v
    rw [← ScopeContext.conversation?_takeExpired_iff, ScopeContext.conversation?, hown]
    rfl
  · obtain ⟨conversations, hcontext⟩ := ScopeContext.context_takeExpired session session s
    rw [if_pos rfl] at hcontext
    exact ⟨conversations, hown.trans hcontext⟩
  · intro id v hv hforsaken x hx
    have hgone : ∃ v ∈ (session.takeExpired s).1, s.Within v.context x :=
      ⟨v, ScopeContext.mem_takeExpired.2 ⟨⟨id, hv⟩, hforsaken⟩, hx⟩
    have hsame := hother x (hback hv hx)
    refine ⟨by rw [h.remains x hgone, hsame], fun id n b hb => ?_⟩
    rw [← hsame] at hb
    exact (h.passed x hgone id n b hb).widen hprecedes (.refl t)
  · intro id v hv hkept x hx
    refine helsewhere x (hback hv hx) fun id' v' hv' hx' => ?_
    rwa [← hx.apart hs hv hv' hx']
  · intro v
    rw [h.conversations, heq]
    rfl
  · intro m thread kind
    rw [h.attached, heq]
    rfl
  · intro m thread
    rw [h.conversationSlot, heq]
    rfl
  · rw [hturns]
    exact (hs.nodup session).sublist (List.filter_sublist.map _)
  · intro v
    rw [hturns, ScopeContext.mem_takeExpired]
  · rw [h.notices, (Store.Quiet.takeExpired session s).notices, ← hturns, List.map_map]
    rfl

end Closing

/-- The conversations of the session of a thread are swept, in any store that is reached, if
callbacks leave contexts, conversations and scopes alone. Numbers of contexts are words. -/
theorem expiry_exact (supply : Supply σ) (thread : Thread) (m : Container) (session : ScopeContext)
    (meanwhile : Callback → Program library σ) (s : Store (Watched library σ))
    (hreachable : s.bare.Reachable) (hwords : s.nextContext ≤ UInt64.size)
    (hsession : m.slot thread .session s = some session)
    (hobeys : ∀ cb, (meanwhile cb).Obeys stayingOut [⟨thread, .destroyExpired m⟩]) :
    let w : Closing σ := ⟨supply, s.nextContext⟩
    ∃ answer t, (library.perform (supply.hostOf meanwhile)
        ⟨thread, .destroyExpired m⟩).run.run s = some (answer, t) ∧
      w.Swept (w.host thread meanwhile) m session s t answer := by
  intro w
  have hs : s.Nested := Store.nested_bare.1 hreachable.nested
  have hdefers := Closing.defers (w := w) meanwhile _ hobeys thread
  have hexpired := hdefers.expired m session hs hwords
  have hturns := (Container.collectFailures_turns (w.host thread meanwhile) m
    (session.takeExpired s).1 (session.takeExpired s).2).returns hexpired
  have hdone : Act.wp False (m.destroyExpired (w.host thread meanwhile)) (fun answer t =>
      w.Swept (w.host thread meanwhile) m session s t answer) s := by
    have hslot : m.slot (w.host thread meanwhile).thread .session s = some session := hsession
    simp only [Container.destroyExpired, Container.current, Act.wp_bind, Act.wp_get, Act.wp_pure,
      hslot, Act.wp_modifyGet, Act.wp_liftM]
    apply (hexpired.and hturns).mono
    rintro failures t ⟨hcleared, turns, hconversations, hrun, rfl⟩
    have hswept := hcleared.swept hs hconversations hrun rfl
    have hlength : turns.length = (session.takeExpired s).1.length := by
      rw [← hconversations, List.length_map]
    rw [hlength] at hswept
    simp only [Act.wp_failIfAny]
    cases hfailures : turns.flatMap Container.Turn.failures with
    | nil =>
      rw [hfailures] at hswept
      exact hswept
    | cons first rest =>
      rw [hfailures] at hswept
      exact hswept
  exact Act.wp_false_iff.1 hdone

/-- A session is given four long-running conversations. Time passes over three of them, and a second
thread makes the fourth. The first thread still holds the last one that it made. -/
def oldAndNew : Program library Unit :=
  let a : Thread := ⟨"a"⟩
  let b : Thread := ⟨"b"⟩
  let m : Container := ⟨1⟩
  let unit : Contextual := { object := 1, id := ⟨"form"⟩, variety := .plain, hasDestroy := true }
  let quiet : Callback → Program library Unit := fun _ => .done
  let begun (thread : Thread) (next : Program library Unit) : Program library Unit :=
    .call (⟨thread, .start m .conversation {}⟩ : Request) quiet fun _ =>
    .call (⟨thread, .current m .conversation⟩ : Request) quiet fun _ => next
  .call (⟨a, .newContainer {} [.listener ⟨1⟩] false⟩ : Request) quiet fun _ =>
  .call (⟨a, .start m .session {}⟩ : Request) quiet fun _ =>
  begun a <|
  .call (⟨a, .promote ⟨⟨2⟩⟩⟩ : Request) quiet fun _ =>
  .call (⟨a, .getOrCreate ⟨2⟩ unit ⟨1⟩⟩ : Request) quiet fun _ =>
  begun a <|
  .call (⟨a, .promote ⟨⟨3⟩⟩⟩ : Request) quiet fun _ =>
  begun a <|
  .call (⟨a, .promote ⟨⟨4⟩⟩⟩ : Request) quiet fun _ =>
  .call (⟨b, .start m .session { session := some ⟨1⟩ }⟩ : Request) quiet fun _ =>
  .call (⟨a, .wait Duration.longest⟩ : Request) quiet fun _ =>
  begun b <|
  .call (⟨b, .promote ⟨⟨5⟩⟩⟩ : Request) quiet fun _ =>
  .call (⟨b, .stop m .conversation⟩ : Request) quiet fun _ => .done

/-- The hypotheses hold of a session with two conversations that are forsaken, one that a thread
holds, and one that was used just now. Of the two that go, the first one fails. -/
theorem expiry_exact_batch :
    let supply : Supply Unit := Supply.numbered ⟨"main"⟩
    let a : Thread := ⟨"a"⟩
    let m : Container := ⟨1⟩
    let session : ScopeContext := ⟨1⟩
    let quiet : Callback → Program library Unit := fun _ => .done
    let refused : LifecycleError := .destruction "form" "refused"
    let meanwhile : Callback → Program library Unit := fun cb =>
      .call (⟨a, .newEpisode m none⟩ : Request) quiet fun _ => match cb with
        | .destroy .. => .fail refused
        | _ => .done
    ∃ s : Store (Watched library Unit), s.bare.Reachable ∧ s.nextContext ≤ UInt64.size ∧
      m.slot a .session s = some session ∧
      (∀ cb, (meanwhile cb).Obeys stayingOut [⟨a, .destroyExpired m⟩]) ∧
      ∃ error t, (library.perform (supply.hostOf meanwhile) ⟨a, .destroyExpired m⟩).run.run s =
        some (.error error, t) ∧
        error.leaves.map (·.message) = ["failed to destroy form: refused"] ∧
        (s.context session).conversations.keys = ["1", "2", "3", "4"] ∧
        (t.context session).conversations.keys = ["3", "4"] ∧
        let w : Closing Unit := ⟨supply, s.nextContext⟩
        w.Swept (w.host a meanwhile) m session s t (.error error) := by
  intro supply a m session quiet refused meanwhile
  have hchecked : ((oldAndNew.run supply).run.run (Store.watched { surroundings := () })).map
      (fun o => decide (o.2.seen.filterMap Sighting.reattached? = [(session, 5)] ∧
        o.2.nextContext ≤ UInt64.size ∧ m.slot a .session o.2 = some session ∧
        (o.2.context session).conversations.keys = ["1", "2", "3", "4"] ∧
        ((library.perform (supply.hostOf meanwhile) ⟨a, .destroyExpired m⟩).run.run o.2).map
          (fun o => ((failureOf o.1).flatMap fun e => e.leaves.map (·.message),
            (o.2.context session).conversations.keys)) =
              some (["failed to destroy form: refused"], ["3", "4"]))) = some true := by
    decide +kernel
  obtain ⟨⟨r, s⟩, hrun, hs⟩ := Option.map_eq_some_iff.1 hchecked
  obtain ⟨hreattached, hwords, hsession, hlisted, hswept⟩ := of_decide_eq_true hs
  have hfair : ∀ x ∈ s.seen, x.Fair Container.ReattachesMade :=
    Sighting.fair_of_reattached (by rw [hreattached]; decide)
  have hreachable : s.bare.Reachable := Store.ReachableBy.of_run hrun hfair
  have hobeys : ∀ cb, (meanwhile cb).Obeys stayingOut [⟨a, .destroyExpired m⟩] := by
    intro cb
    refine ⟨rfl, fun _ => trivial, fun _ => ?_⟩
    cases cb <;> trivial
  obtain ⟨answer, t, ht, hexact⟩ :=
    expiry_exact supply a m session meanwhile s hreachable hwords hsession hobeys
  rw [ht, Option.map_some, Option.some_inj] at hswept
  obtain ⟨hmessages, hkept⟩ := Prod.mk.inj hswept
  cases answer with
  | ok n => cases hmessages
  | error e =>
    refine ⟨s, hreachable, hwords, hsession, hobeys, e, t, ht, ?_, hlisted, hkept, hexact⟩
    exact (List.append_nil _).symm.trans hmessages

end ContextualLifecycle
