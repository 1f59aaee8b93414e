import ContextualLifecycle.Proofs.Container.Undisturbed
import ContextualLifecycle.Proofs.Conversation.Filing

namespace ContextualLifecycle

variable {σ : Type}

def Call.opening? (s : Store σ) : Call → Option ScopeContext
  | .start _ .conversation _ => none
  | .start _ kind params => some (Container.contextToStart kind params.session s).1
  | _ => none

def Call.reattached? : Call → Option ScopeContext
  | .start _ .session params => params.session
  | _ => none

/-- The request starts a scope, or asks for the context of one. -/
def Call.seeksContext : Call → Bool
  | .start .. | .current .. => true
  | _ => false

/-- Whoever asks for a scope on a thread is given the context, and nothing else happens. -/
def Container.Finds (m : Container) (thread : Thread) (kind : ScopeKind) (c : ScopeContext)
    (s : Store σ) : Prop :=
  ∀ host : Host σ, host.thread = thread →
    (m.current host kind).run.run s = some (.ok (some c), s)

theorem Container.finds_of_attached {m : Container} {thread : Thread} {kind : ScopeKind}
    {c : ScopeContext} {s : Store σ} (hkind : kind ≠ .conversation)
    (hc : m.attached thread kind s = some c) : m.Finds thread kind c s := by
  rintro host rfl
  have hcurrent : Act.wp False (m.current host kind) (fun r t => r = .ok (some c) ∧ t = s) s := by
    cases kind with
    | conversation => exact absurd rfl hkind
    | application =>
      have happlication : m.application s = some c := hc
      simp only [current, Act.wp_bind, Act.wp_get, Act.wp_pure, happlication, and_self]
    | _ =>
      have hslot : m.slot host.thread _ s = some c := hc
      simp only [current, Act.wp_bind, Act.wp_get, Act.wp_pure, hslot, and_self]
  obtain ⟨r, t, hrun, rfl, rfl⟩ := Act.wp_false_iff.1 hcurrent
  exact hrun

/-- Observers are told of a context that is active, and no other one has begun before. -/
structure Announced (host : Host σ) (m : Container) (kind : ScopeKind) (c : ScopeContext)
    (s u t : Store σ) : Prop where
  silent : u.beginnings = s.beginnings
  active : (u.context c).active = true
  delivered : (m.announce host .initialized kind c).run u = some ((), t)

/-- How a request has observers hear of beginnings: it has them hear of none, of a context that the
scope has by then, or of a conversation that the scope has only afterwards. -/
inductive Heralded (host : Host σ) : Call → Store σ → Store σ → Prop where
  | silent {call : Call} {s t : Store σ} (h : t.beginnings = s.beginnings) : Heralded host call s t
  | attached {m : Container} {kind : ScopeKind} {params : ScopeParams} {c : ScopeContext}
      {s u t : Store σ} (h : Announced host m kind c s u t)
      (hattached : m.attached host.thread kind u = some c)
      (hfound : m.Finds host.thread kind c (u.note (.notified .initialized m kind c))) :
      Heralded host (.start m kind params) s t
  | pending {m : Container} {v : Conversation} {session : ScopeContext} {id : String}
      {propagatedId : Option String} {s u w t : Store σ}
      (h : Announced host m .conversation v.context s u w)
      (hsession : m.slot host.thread .session s = some session)
      (hlisted : session.conversation? id u = some v)
      (hpending : m.conversationSlot host.thread u = .pending propagatedId)
      (hlater : t.beginnings = w.beginnings)
      (hheld : m.conversationSlot host.thread t = .active v session) :
      Heralded host (.current m .conversation) s t

section Steps

variable {host : Host σ} {m : Container} {s : Store σ}

theorem Container.contextToStart_cases (kind : ScopeKind) (session : Option ScopeContext)
    (s : Store σ) :
    (∃ c, kind = .session ∧ session = some c ∧ contextToStart kind session s = (c, s)) ∨
      contextToStart kind session s = ScopeContext.new kind s := by
  cases kind with
  | session =>
    cases session with
    | none => exact .inr rfl
    | some c => exact .inl ⟨c, rfl, rfl, rfl⟩
  | _ => exact .inr rfl

theorem Container.contextToStart_apart {kind : ScopeKind} {session : Option ScopeContext}
    (hlisted : ∀ (x : ScopeContext) id v, x.conversation? id s = some v →
      v.context.number < s.nextContext)
    (hsession : ∀ c, kind = .session → session = some c → c.number < s.nextContext ∧
      ∀ (x : ScopeContext) id, x.conversation? id s ≠ some ⟨c⟩) :
    let opened := contextToStart kind session s
    opened.1.number < opened.2.nextContext ∧ opened.2.beginnings = s.beginnings ∧
      ∀ (x : ScopeContext) id, x.conversation? id opened.2 ≠ some ⟨opened.1⟩ := by
  obtain ⟨c, hkind, hsome, heq⟩ | heq := contextToStart_cases kind session s
  · rw [heq]
    exact ⟨(hsession c hkind hsome).1, rfl, (hsession c hkind hsome).2⟩
  · rw [heq]
    have hquiet := Store.Quiet.newContext kind s
    refine ⟨Nat.lt_succ_self _, ?_, fun x id hv => ?_⟩
    · rw [Store.beginnings, hquiet.notices, Store.beginnings]
    · exact Nat.lt_irrefl _ (hlisted x id _ (hquiet.listed x id _ hv))

theorem startSlot_heralded {kind : ScopeKind} {params : ScopeParams} (hkind : kind ≠ .application)
    (hkind' : kind ≠ .conversation)
    (h : ∀ s₀, host.Leaves (some (Container.contextToStart kind params.session s).1) s₀)
    (hlisted : ∀ (x : ScopeContext) id v, x.conversation? id s = some v →
      v.context.number < s.nextContext)
    (hsession : ∀ c, kind = .session → params.session = some c → c.number < s.nextContext ∧
      ∀ (x : ScopeContext) id, x.conversation? id s ≠ some ⟨c⟩) :
    Act.wp True (m.startSlot host kind params.session)
      (fun _ t => Heralded host (.start m kind params) s t) s := by
  let opened := Container.contextToStart kind params.session s
  let c := opened.1
  let filled := m.place host.thread kind opened
  obtain ⟨hissued, hsilent, hunlisted⟩ := Container.contextToStart_apart hlisted hsession
  have hfilled : Undisturbed (some c) filled [] filled := by
    apply Undisturbed.start
    intro x hx
    cases hx
    refine ⟨hissued, fun x id hv => hunlisted x id ?_⟩
    rwa [← conversation?_setActive c x true id opened.2]
  have hslot : m.slot host.thread kind filled = some c := by
    simp only [filled, Container.place, Container.fillSlot, Container.slot, Container.updateScopes,
      Store.threadScopes, Store.setThreadScopes, Table.get?_insert, ↓reduceIte, Option.getD_some]
    rfl
  have hactive : (filled.context c).active = true := by
    change ((c.setActive true opened.2).context c).active = true
    rw [ScopeContext.context_setActive]
  -- Whatever happened to the previous context, this one is still where it was put.
  have hannounce : ∀ u, Undisturbed (some c) filled [] u →
      Run.wp True (m.announce host .initialized kind c)
        (fun _ t => Heralded host (.start m kind params) s t) u := by
    intro u hu
    apply (Run.wp_outcome _ u).mono
    intro _ t hdelivered
    have hattached : m.attached host.thread kind u = some c := by
      rw [Container.attached, if_neg hkind, Container.slot_congr hu.scopes]
      exact hslot
    exact .attached ⟨hu.beginnings.trans hsilent, (hu.active c rfl).trans hactive, hdelivered⟩
      hattached (Container.finds_of_attached hkind' hattached)
  apply Container.wp_startSlot rfl
  · intro p _ hp
    have hspared : some c ≠ some p := fun heq => hp (Option.some.inj heq).symm
    have hretired : Act.Keeps True (Undisturbed (some c) filled []) (m.retire host kind p) :=
      (((h filled).buries []).closes []).retire kind hspared
    apply (hretired filled hfilled).mono
    exact fun _ u hu => ⟨.silent (hu.beginnings.trans hsilent), hannounce u hu⟩
  · exact fun _ => hannounce filled hfilled

theorem startApplication_heralded (params : ScopeParams) :
    Act.wp True (m.startApplication host)
      (fun _ t => Heralded host (.start m .application params) s t) s := by
  refine Container.wp_startApplication (fun _ => ?_) fun _ => .silent rfl
  let made := ScopeContext.newActive .application s
  let shared := (m.swapApplication (some made.1) made.2).2
  apply (Run.wp_outcome _ shared).mono
  intro _ t hdelivered
  have hactive : (shared.context made.1).active = true := by
    change (made.2.context made.1).active = true
    rw [ScopeContext.context_newActive]
  have hattached : m.attached host.thread .application shared = some made.1 := by
    simp only [shared, Container.attached, ↓reduceIte, Container.application,
      Container.swapApplication, Container.update, Store.container, Store.setContainer,
      Table.get?_insert, Option.getD_some]
  have hannounced : Announced host m .application made.1 s shared t := ⟨rfl, hactive, hdelivered⟩
  exact .attached hannounced hattached (Container.finds_of_attached (by decide) hattached)

theorem startConversation_silent {params : ScopeParams} (h : ∀ s₀, host.Leaves none s₀) :
    Act.wp True (m.startConversation host params.conversationId)
      (fun _ t => Heralded host (.start m .conversation params) s t) s := by
  let started := (m.swapConversation host.thread (.pending params.conversationId) s).2
  have hkeeps : Act.Keeps True (Undisturbed none started [])
      (m.finishSlot host (m.conversationSlot host.thread s)) := by
    intro u hu
    refine Container.wp_finishSlot (fun v session _ => ?_) fun _ => hu
    have hreleased := hu.release v
    have hfree : none ≠ some v.context := (Option.some_ne_none v.context).symm
    exact Container.wp_finishConversation (fun _ => hreleased) fun _ =>
      (((h started).buries []).closes []).endConversation hfree _
        (.of_quiet (.removeConversation session _ _) hreleased)
  rw [Container.wp_startConversation]
  apply (hkeeps started (.start fun _ hx => by cases hx)).mono
  exact fun _ t ht => .silent ht.beginnings

/-- Observers hear of a new conversation when its session has it, but no slot does. -/
def Begun (host : Host σ) (m : Container) (session : ScopeContext) (s : Store σ)
    (v : Conversation) (w : Store σ) : Prop :=
  ∃ u id, Announced host m .conversation v.context s u w ∧ session.conversation? id u = some v ∧
    m.conversationSlot host.thread u = m.conversationSlot host.thread s

theorem beginTransient_begun (session : ScopeContext) :
    Run.wp True (m.beginTransient host session) (Begun host m session s) s := by
  apply Container.wp_beginTransient
  let r := s.container m
  let added := session.addTransient toString r.nextConversation r.config.conversationTimeout s
  let v : Conversation := ⟨⟨s.nextContext⟩⟩
  let id := toString (ScopeContext.firstFree (s.context session).conversations.contains toString
    (s.context session).conversations.size r.nextConversation)
  let made := (Conversation.newTransient id r.config.conversationTimeout s).2
  let numbered := m.update (fun r => { r with nextConversation := added.1.2 }) added.2
  let held := (v.tryAcquire numbered).2
  have hacquired : held.journal = numbered.journal ∧ held.contexts = numbered.contexts ∧
      held.scopes = numbered.scopes := by
    simp only [held, Conversation.tryAcquire]
    split <;> exact ⟨rfl, rfl, rfl⟩
  obtain ⟨hjournal, hcontexts, hscopes⟩ := hacquired
  have hcontext : ∀ c, held.context c = (session.putConversation id v made).context c :=
    Store.context_congr hcontexts
  have hactive : (held.context v.context).active = true := by
    have hnew : (made.context v.context).active = true :=
      congrArg (·.active) (ScopeContext.context_newActive .conversation s)
    rw [hcontext, (context_putConversation session v.context id v made).2]
    exact hnew
  have hlisted : session.conversation? id held = some v := by
    rw [ScopeContext.conversation?, hcontext]
    exact (conversation?_put session session id id v made).trans (if_pos ⟨rfl, rfl⟩)
  have hsilent : held.beginnings = s.beginnings := by
    rw [Store.beginnings, Store.notices, Store.since, hjournal]
    rfl
  have hslot : m.conversationSlot host.thread held = m.conversationSlot host.thread s := by
    rw [Container.conversationSlot_congr hscopes]
    rfl
  apply (Run.wp_outcome _ held).mono
  exact fun _ w hdelivered => ⟨held, id, ⟨hsilent, hactive, hdelivered⟩, hlisted, hslot⟩

theorem chooseConversation_begun (session : ScopeContext) (propagatedId : Option String) :
    Run.wp True (m.chooseConversation host session propagatedId)
      (fun o t => t.beginnings = s.beginnings ∨ Begun host m session s o.1 t) s := by
  have hbegin : Run.wp True (m.beginTransient host session) (fun v t =>
      t.beginnings = s.beginnings ∨ Begun host m session s v t) s :=
    (beginTransient_begun session).mono fun _ _ => .inr
  refine Container.wp_chooseConversation_of hbegin fun id v _ _ _ hidle => ?_
  have hjournal : (v.tryAcquire s).2.journal = s.journal := by
    rw [Conversation.tryAcquire, if_neg (Bool.eq_false_iff.1 hidle)]
    rfl
  refine .inl ?_
  rw [Store.beginnings, Store.notices, Store.since, hjournal]
  rfl

theorem current_heralded (kind : ScopeKind) : Act.wp True (m.current host kind)
    (fun _ t => Heralded host (.current m kind) s t) s := by
  cases kind with
  | conversation =>
    apply Container.wp_conversationContext (fun _ => .silent rfl)
      (fun _ => .silent (s.beginnings_note fun _ hnotice => by cases hnotice))
    intro propagatedId session hpending hsession
    apply (chooseConversation_begun session propagatedId).mono
    intro choice w hw
    let swapped := (m.swapConversation host.thread (.active choice.1 session) w).2
    have hheld : m.conversationSlot host.thread swapped = .active choice.1 session :=
      (conversationSlot_swap m m host.thread host.thread _ w).trans (if_pos rfl)
    -- The slot changes after the announcement, and an error is reported after that.
    have hdone : ∀ t, t.beginnings = w.beginnings →
        m.conversationSlot host.thread t = .active choice.1 session →
        Heralded host (.current m .conversation) s t := by
      intro t hlater ht
      rcases hw with hsilent | ⟨u, id, hannounced, hlisted, hslot⟩
      · exact .silent (hlater.trans hsilent)
      · exact .pending hannounced hsession hlisted (hslot.trans hpending) hlater ht
    exact ⟨hdone swapped rfl hheld, fun _ =>
      hdone _ (swapped.beginnings_note fun _ hnotice => by cases hnotice) hheld⟩
  | _ => exact .silent rfl

theorem start_heralded (kind : ScopeKind) (params : ScopeParams)
    (h : ∀ s₀, host.Leaves ((Call.start m kind params).opening? s) s₀)
    (hlisted : ∀ (x : ScopeContext) id v, x.conversation? id s = some v →
      v.context.number < s.nextContext)
    (hsession : ∀ c, (Call.start m kind params).reattached? = some c → c.number < s.nextContext ∧
      ∀ (x : ScopeContext) id, x.conversation? id s ≠ some ⟨c⟩) :
    Act.wp True (m.start host kind params)
      (fun _ t => Heralded host (.start m kind params) s t) s := by
  apply Container.wp_start
  · rintro rfl
    exact startApplication_heralded params
  · rintro rfl
    exact startConversation_silent h
  · intro happlication hconversation
    apply startSlot_heralded happlication hconversation
    · cases kind <;> first | exact h | exact absurd rfl hconversation
    · exact hlisted
    · rintro c rfl hc
      exact hsession c hc

end Steps

/-- In every run, where a request starts a scope or asks for one, observers hear of no context but
the one that the scope gets, and that is active. In the case of a conversation they hear of it
before the scope has it, and in all other cases afterwards: then whoever asks for the scope is given
the context. Callbacks are free to do anything when they are told of a beginning; otherwise they
leave scopes and the context to the request. A session that is attached again is not a conversation.
-/
theorem beginnings_heralded (supply : Supply σ) (own : σ) (p : Program library σ)
    {r : Except LifecycleError Unit} {w : Store (Watched library σ)}
    (hp : (p.run supply).run.run (Store.watched { surroundings := own }) = some (r, w))
    {s t : Store (Watched library σ)} (hs : .moment s.bare ∈ w.seen) (request : Request)
    (hseeks : request.call.seeksContext = true)
    (hsession : ∀ c, request.call.reattached? = some c → c.number < s.nextContext ∧
      ∀ (x : ScopeContext) id, x.conversation? id s ≠ some ⟨c⟩)
    (meanwhile : Callback → Program library σ)
    (hobeys : ∀ cb, cb.tellsBeginning = false →
      (meanwhile cb).Obeys (leaving (request.call.opening? s)) [request])
    {answer : Except LifecycleError request.call.Answer}
    (hrun : (library.perform (supply.hostOf meanwhile) request).run.run s = some (answer, t)) :
    Heralded { supply.hostOf meanwhile with thread := request.thread } request.call s t := by
  have hlisted : ∀ (x : ScopeContext) id v, x.conversation? id s = some v →
      v.context.number < s.nextContext := fun x id v hv =>
    Program.listed_issued supply own p hp hs (show x.conversation? id s.bare = some v from hv)
  have hleaves := supply.leaves hobeys request.thread
  obtain ⟨thread, call⟩ := request
  cases call with
  | start m kind params =>
    exact (Act.wp_of_run hrun).1 (start_heralded kind params hleaves hlisted hsession)
  | current m kind => exact (Act.wp_of_run hrun).1 (current_heralded kind)
  | _ => cases hseeks

/-- What was found of a scope by those that asked for it, the latest answer first. -/
def Sighting.found? : Sighting library → Option (Option ScopeContext)
  | .call ⟨_, .current _ _⟩ _ (.ok c) _ => some c
  | _ => none

/-- The hypotheses hold where a session replaces another one, which the observer activates when it
is told of its end. When it is told of the new session it asks for it. -/
theorem beginnings_heralded_restart :
    let supply : Supply Unit := Supply.numbered ⟨"main"⟩
    let thread : Thread := ⟨"main"⟩
    let m : Container := ⟨1⟩
    let quiet : Callback → Program library Unit := fun _ => .done
    let config : Config := { restartPolicy := .destroyPrevious }
    let p : Program library Unit :=
      .call (⟨thread, .newContainer config [.listener ⟨1⟩] false⟩ : Request) quiet fun _ =>
      .call (⟨thread, .start m .session {}⟩ : Request) quiet fun _ => .done
    let request : Request := ⟨thread, .start m .session {}⟩
    let meanwhile : Callback → Program library Unit := fun cb =>
      if cb.tellsBeginning then .call (⟨thread, .current m .session⟩ : Request) quiet fun _ => .done
      else .call (⟨thread, .setActive ⟨1⟩ true⟩ : Request) quiet fun _ => .done
    ∃ r s answer t, (p.run supply).run.run (Store.watched { surroundings := () }) = some (r, s) ∧
      .moment s.bare ∈ s.seen ∧ request.call.seeksContext = true ∧
      (∀ c, request.call.reattached? = some c → c.number < s.nextContext ∧
        ∀ (x : ScopeContext) id, x.conversation? id s ≠ some ⟨c⟩) ∧
      (∀ cb, cb.tellsBeginning = false →
        (meanwhile cb).Obeys (leaving (request.call.opening? s)) [request]) ∧
      (library.perform (supply.hostOf meanwhile) request).run.run s = some (answer, t) ∧
      t.seen.filterMap Sighting.found? = [some ⟨2⟩] ∧
      Heralded { supply.hostOf meanwhile with thread := request.thread } request.call s t := by
  intro supply thread m quiet config p request meanwhile
  have hseen : ((p.run supply).run.run (Store.watched { surroundings := () })).bind (fun before =>
      ((library.perform (supply.hostOf meanwhile) request).run.run before.2).map fun after =>
        (before.2.nextContext, after.2.seen.filterMap Sighting.found?)) =
      some (2, [some ⟨2⟩]) := by
    decide +kernel
  obtain ⟨⟨r, s⟩, hp, hrest⟩ := Option.bind_eq_some_iff.1 hseen
  obtain ⟨⟨answer, t⟩, hrun, hfound⟩ := Option.map_eq_some_iff.1 hrest
  obtain ⟨hnext, hfound⟩ := Prod.mk.inj hfound
  have hs : .moment s.bare ∈ s.seen := (Act.wp_of_run hp).1 (p.saw_end supply _)
  have hsession : ∀ c, request.call.reattached? = some c → c.number < s.nextContext ∧
      ∀ (x : ScopeContext) id, x.conversation? id s ≠ some ⟨c⟩ := nofun
  have hobeys : ∀ cb, cb.tellsBeginning = false →
      (meanwhile cb).Obeys (leaving (request.call.opening? s)) [request] := by
    intro cb hcb
    have hother : (⟨s.nextContext⟩ : ScopeContext) ≠ ⟨1⟩ := by
      rw [show s.nextContext = 2 from hnext]
      decide
    simp only [meanwhile, hcb, Bool.false_eq_true, ↓reduceIte, Program.Obeys, leaving, quiet,
      implies_true, and_self, and_true]
    exact fun heq => hother (Option.some.inj heq)
  exact ⟨r, s, answer, t, hp, hs, rfl, hsession, hobeys, hrun, hfound,
    beginnings_heralded supply () p hp hs request rfl hsession meanwhile hobeys hrun⟩

/-- An observer that asks for the conversation when it is told of its beginning is given another
one, and the one that it was told of is given to nobody but the request. -/
theorem conversation_announced_early :
    let supply : Supply Unit := Supply.numbered ⟨"main"⟩
    let thread : Thread := ⟨"main"⟩
    let m : Container := ⟨1⟩
    let quiet : Callback → Program library Unit := fun _ => .done
    let asking : Callback → Program library Unit := fun _ =>
      .call (⟨thread, .current m .conversation⟩ : Request) quiet fun _ => .done
    let p : Program library Unit :=
      .call (⟨thread, .newContainer {} [.listener ⟨1⟩] false⟩ : Request) quiet fun _ =>
      .call (⟨thread, .start m .session {}⟩ : Request) quiet fun _ =>
      .call (⟨thread, .start m .conversation {}⟩ : Request) quiet fun _ =>
      .call (⟨thread, .current m .conversation⟩ : Request) asking fun _ => .done
    ((p.run supply).run.run (Store.watched { surroundings := () })).map (fun o =>
      (o.2.seen.filterMap Sighting.found?, o.2.beginnings)) =
      some ([some ⟨2⟩, some ⟨3⟩], [(.initialized, m, .session, ⟨1⟩),
        (.initialized, m, .conversation, ⟨2⟩), (.initialized, m, .conversation, ⟨3⟩)]) := by
  decide +kernel

end ContextualLifecycle
