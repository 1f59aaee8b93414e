import ContextualLifecycle.Proofs.Conversation.Drawing
import ContextualLifecycle.Proofs.Conversation.Filing

namespace ContextualLifecycle

variable {σ : Type}

def ScopeContext.nextName (session : ScopeContext) (m : Container) (s : Store σ) : String :=
  let held := (s.context session).conversations
  toString (firstFree held.contains toString held.size (s.container m).nextConversation)

theorem ScopeContext.conversation?_nextName (session : ScopeContext) (m : Container) (s : Store σ) :
    session.conversation? (session.nextName m s) s = none :=
  (seeks_held (distinct_of_injective toString_injective _ _)).conversation?

/-- A request that asked for a conversation was given a new one of the session in its place. -/
structure Substituted (m : Container) (thread : Thread) (id fresh : String) (v : Conversation)
    (session : ScopeContext) (s t : Store σ) : Prop where
  pending : m.conversationSlot thread s = .pending (some id)
  attached : m.slot thread .session s = some session
  installed : m.conversationSlot thread t = .active v session
  named : (t.conversation v).id = fresh
  new : s.nextContext ≤ v.context.number
  apart : ∀ id' w, session.conversation? id' s = some w → w ≠ v ∧ (s.conversation w).id ≠ fresh
  other : session.conversation? id s ≠ none → fresh ≠ id
  drawn : fresh = session.nextName m s

/-- An answer that was a substitute for a conversation, and whether the session knew that one. -/
inductive Refusal (id fresh : String) (known : Prop) : LifecycleError → Prop where
  | nonexistent : Refusal id fresh known (.nonexistentConversation id fresh)
  | busy (hknown : known) : Refusal id fresh known (.busyConversation id fresh)

section Steps

variable {Sound : Sighting library → Prop} {host : Host (Watched library σ)} {m : Container}
  {session : ScopeContext} {s t : Store (Watched library σ)}
  (h : ∀ s₀ restoring, host.Keeps True (Filed Sound s₀ restoring))

include h

theorem beginTransient_named (m : Container) (session : ScopeContext) (hs : Filed Sound s [] s) :
    Run.wp True (m.beginTransient host session) (fun v t => s.nextContext ≤ v.context.number ∧
      (t.conversation v).id = session.nextName m s) s := by
  apply Container.wp_beginTransient
  let name := session.nextName m s
  let v : Conversation := ⟨⟨s.nextContext⟩⟩
  let added := session.addTransient toString (s.container m).nextConversation
    (s.container m).config.conversationTimeout s
  let held := (v.tryAcquire
    (m.update (fun r => { r with nextConversation := added.1.2 }) added.2)).2
  have hupholds := Filed.upholds (h s)
  have hheld : Filed Sound s [] held :=
    (hupholds.attends [] []).acquired v (hupholds.container [] [] m _ _ (hs.add session _ _ _))
  have hlisted : session.conversation? name held = some v := by
    let made := (Conversation.newTransient name (s.container m).config.conversationTimeout s).2
    have hput : session.conversation? name (session.putConversation name v made) = some v := by
      rw [conversation?_put, if_pos ⟨rfl, rfl⟩]
    have hsame : ∀ u : Store (Watched library σ), session.conversation? name (v.tryAcquire u).2 =
        session.conversation? name u := by
      intro u
      rw [Conversation.tryAcquire]
      split <;> rfl
    rw [hsame]
    exact hput
  obtain ⟨hissued, hname⟩ := hheld.listed session name v hlisted
  apply (((Filed.upholds (h held)).attends [] []).announce m .initialized .conversation
    v.context held hheld.now).mono
  exact fun _ t ht => ⟨Nat.le_refl _, (ht.named v hissued).trans hname⟩

theorem chooseConversation_substitutes (m : Container) (session : ScopeContext) (id : String)
    (hs : Filed Sound s [] s) :
    Run.wp True (m.chooseConversation host session (some id)) (fun o t => ∀ error,
      o.2 = some error →
      s.nextContext ≤ o.1.context.number ∧ (t.conversation o.1).id = session.nextName m s ∧
        Refusal id (session.nextName m s) (session.conversation? id s ≠ none) error) s := by
  have hbegin := beginTransient_named h m session hs
  apply Container.wp_chooseConversation
  · exact fun hunasked => by cases hunasked
  · exact fun _ _ _ _ _ _ error herror => by cases herror
  · rintro _ v ⟨⟩ hlisted _ _
    apply hbegin.mono
    rintro w t ⟨hnew, hname⟩ error herror
    cases herror
    rw [hname]
    exact ⟨hnew, rfl, .busy (by rw [hlisted]; exact Option.some_ne_none v)⟩
  · rintro _ ⟨⟩ _
    apply hbegin.mono
    rintro w t ⟨hnew, hname⟩ error herror
    cases herror
    rw [hname]
    exact ⟨hnew, rfl, .nonexistent⟩

/-- The conversation scope fails only if it has a substitute. -/
theorem current_substitutes (hs : Filed Sound s [] s) :
    Act.wp True (m.current host .conversation) (fun r t => ∀ error, r = .error error →
      ∃ id fresh v session, Refusal id fresh (session.conversation? id s ≠ none) error ∧
        Substituted m host.thread id fresh v session s t) s := by
  simp only [Container.current, Container.conversationContext, Act.wp_bind, Act.wp_get]
  split
  · exact fun error herror => by cases herror
  · exact fun error herror => by cases herror
  · rename_i propagatedId hpending
    simp only [Act.wp_bind, Act.wp_get]
    split
    · simp only [Act.wp_bind, Act.wp_modify, Act.wp_pure]
      exact fun error herror => by cases herror
    · rename_i session hsession
      simp only [Act.wp_bind, Act.wp_liftM, Act.wp_modifyGet]
      cases propagatedId with
      | none =>
        simp only [Container.chooseConversation, Run.wp_bind]
        apply (beginTransient_named h m session hs).mono
        exact fun _ _ _ error herror => by cases herror
      | some id =>
        apply (chooseConversation_substitutes h m session id hs).mono
        rintro ⟨v, failure⟩ t ht
        cases failure with
        | none => exact fun error herror => by cases herror
        | some error =>
          obtain ⟨hnew, hname, hrefusal⟩ := ht error rfl
          simp only [Act.wp_bind, Act.wp_modify, Act.wp_throw]
          intro error' herror
          cases herror
          have hunknown := session.conversation?_nextName m s
          refine ⟨id, session.nextName m s, v, session, hrefusal, {
            pending := hpending
            attached := hsession
            installed := ?_
            named := hname
            new := hnew
            apart := ?_
            other := ?_
            drawn := rfl }⟩
          · exact (conversationSlot_swap m m host.thread host.thread _ t).trans (if_pos rfl)
          · intro id' w hw
            obtain ⟨hissued, hkey⟩ := hs.listed session id' w hw
            refine ⟨?_, ?_⟩
            · rintro rfl
              exact Nat.lt_irrefl _ (Nat.lt_of_lt_of_le hissued hnew)
            · rintro hsame
              rw [← hsame, hkey, hw] at hunknown
              cases hunknown
          · intro hknown hsame
            rw [hsame] at hunknown
            exact hknown hunknown

end Steps

/-- What was seen of the conversation scope: it failed only if it had a substitute. -/
def Sighting.Substitutes (sighting : Sighting library) : Prop :=
  ∀ thread (m : Container) before error after,
    sighting = .call ⟨thread, .current m .conversation⟩ before (.error error) after →
    ∃ id fresh v session, Refusal id fresh (session.conversation? id before ≠ none) error ∧
      Substituted m thread id fresh v session before after

theorem request_substitutes {host : Host (Watched library σ)} {request : Request}
    {s : Store (Watched library σ)} (hthread : host.thread = request.thread)
    (h : ∀ s₀ restoring, host.Keeps True (Filed Sighting.Substitutes s₀ restoring))
    (hs : Filed Sighting.Substitutes s [] s) :
    Act.wp True (request.call.perform host)
      (fun answer t => Sighting.Substitutes (.call request s.bare answer t.bare)) s := by
  obtain ⟨thread, call⟩ := request
  obtain rfl : host.thread = thread := hthread
  by_cases hcall : ∃ m, call = .current m .conversation
  · obtain ⟨m, rfl⟩ := hcall
    apply (current_substitutes (m := m) h hs).mono
    intro answer t ht thread' m' before error after heq
    cases heq
    obtain ⟨id, fresh, v, session, hrefusal, hnew⟩ := ht error rfl
    exact ⟨id, fresh, v, session, hrefusal, hnew.pending, hnew.attached, hnew.installed, hnew.named,
      hnew.new, hnew.apart, hnew.other, hnew.drawn⟩
  · refine Act.wp_true_iff.2 fun answer t _ thread' m' before error after heq => ?_
    cases heq
    exact absurd ⟨m', rfl⟩ hcall

/-- Wherever a program asks for the conversation of a thread, at the outside of all calls or within
callbacks, and is told that the conversation that was propagated is not there or is busy, the thread
has got another one, which is new. It has a name that no conversation of the session had, so it has
that of the propagated conversation only if the session does not know one. Then the name is the
number of the next draw. -/
theorem substitute_conversation (supply : Supply σ) (own : σ) (p : Program library σ)
    {r : Except LifecycleError Unit} {t : Store (Watched library σ)}
    (h : (p.run supply).run.run (Store.watched { surroundings := own }) = some (r, t))
    {thread : Thread} {m : Container} {before after : Store Unit} {error : LifecycleError}
    (hseen : .call ⟨thread, .current m .conversation⟩ before (.error error) after ∈ t.seen) :
    ∃ id fresh v session, Refusal id fresh (session.conversation? id before ≠ none) error ∧
      Substituted m thread id fresh v session before after := by
  have hrun : Act.Keeps True
      (Filed Sighting.Substitutes (Store.watched { surroundings := own }) []) (p.run supply) := by
    refine Filed.run ?_ ?_ supply p _ _
    · exact fun s _ _ _ _ _ _ heq => by cases heq
    · exact fun host request s => request_substitutes
  exact ((Act.wp_of_run h).1 (hrun _ (.watched own))).seen _ hseen thread m before error after rfl

/-- The conversation that was seen not to be there, and the one in its place. -/
def Sighting.refusal? : Sighting library → Option (String × String)
  | .call ⟨_, .current _ .conversation⟩ _ (.error (.nonexistentConversation id fresh)) _ =>
    some (id, fresh)
  | _ => none

theorem Sighting.of_refusal {sighting : Sighting library} {id fresh : String}
    (h : sighting.refusal? = some (id, fresh)) : ∃ thread m before after, sighting =
      .call ⟨thread, .current m .conversation⟩ before
        (.error (.nonexistentConversation id fresh)) after := by
  unfold Sighting.refusal? at h
  split at h
  · cases h
    exact ⟨_, _, _, _, rfl⟩
  · cases h

/-- The hypotheses hold where a second thread asks for the transient conversation of a first. -/
theorem substitute_conversation_transient :
    let supply : Supply Unit := Supply.numbered ⟨"a"⟩
    let a : Thread := ⟨"a"⟩
    let b : Thread := ⟨"b"⟩
    let m : Container := ⟨1⟩
    let quiet : Callback → Program library Unit := fun _ => .done
    let p : Program library Unit :=
      .call (⟨a, .newContainer {} [] false⟩ : Request) quiet fun _ =>
      .call (⟨a, .start m .session {}⟩ : Request) quiet fun _ =>
      .call (⟨a, .start m .conversation {}⟩ : Request) quiet fun _ =>
      .call (⟨a, .current m .conversation⟩ : Request) quiet fun _ =>
      .call (⟨b, .start m .session { session := some ⟨1⟩ }⟩ : Request) quiet fun _ =>
      .call (⟨b, .start m .conversation { conversationId := some "1" }⟩ : Request) quiet fun _ =>
      .call (⟨b, .current m .conversation⟩ : Request) quiet fun _ => .done
    ∃ r t thread m before after,
      (p.run supply).run.run (Store.watched { surroundings := () }) = some (r, t) ∧
      .call ⟨thread, .current m .conversation⟩ before
        (.error (.nonexistentConversation "1" "2")) after ∈ t.seen ∧
      ∃ id fresh v session, Refusal id fresh (session.conversation? id before ≠ none)
          (.nonexistentConversation "1" "2") ∧
        Substituted m thread id fresh v session before after := by
  intro supply a b m quiet p
  have hseen : ((p.run supply).run.run (Store.watched { surroundings := () })).map
      (fun o => o.2.seen.filterMap Sighting.refusal?) = some [("1", "2")] := by
    decide +kernel
  obtain ⟨⟨r, t⟩, hrun, ht⟩ := Option.map_eq_some_iff.1 hseen
  have hmem : ("1", "2") ∈ t.seen.filterMap Sighting.refusal? := by
    rw [ht]
    exact List.mem_cons_self
  obtain ⟨sighting, hin, hrefusal⟩ := List.mem_filterMap.1 hmem
  obtain ⟨thread, m, before, after, rfl⟩ := Sighting.of_refusal hrefusal
  exact ⟨r, t, thread, m, before, after, hrun, hin, substitute_conversation supply () p hrun hin⟩

/-- A session without conversations does not know the one that is asked for, and the first name that
it gives is just that one. -/
theorem substitute_conversation_echoes :
    let supply : Supply Unit := Supply.numbered ⟨"main"⟩
    let thread : Thread := ⟨"main"⟩
    let m : Container := ⟨1⟩
    let quiet : Callback → Program library Unit := fun _ => .done
    let p : Program library Unit :=
      .call (⟨thread, .newContainer {} [] false⟩ : Request) quiet fun _ =>
      .call (⟨thread, .start m .session {}⟩ : Request) quiet fun _ =>
      .call (⟨thread, .start m .conversation { conversationId := some "1" }⟩ : Request) quiet
        fun _ =>
      .call (⟨thread, .current m .conversation⟩ : Request) quiet fun _ => .done
    ((p.run supply).run.run (Store.watched { surroundings := () })).map
      (fun o => o.2.seen.filterMap Sighting.refusal?) = some [("1", "1")] := by
  decide +kernel

end ContextualLifecycle
