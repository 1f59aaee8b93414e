import ContextualLifecycle.Proofs.Closing.Complete
import ContextualLifecycle.Proofs.Conversation.Listing

namespace ContextualLifecycle

variable {σ : Type} {m : Container} {kind : ScopeKind}

theorem Call.opensScopes_of_begins {call : Call} (h : call.begins m kind) :
    call.opensScopes = true := by
  unfold Call.begins at h
  split at h <;> first | rfl | exact h.elim

theorem Move.beginnings {fair : Container → Thread → ScopeContext → Store Unit → Prop}
    {request : Request} {γ γ' : Hand} {s s' : Store σ} (h : Move fair request γ s γ' s')
    (hcall : request.call.opensScopes = false) : s'.beginnings = s.beginnings := by
  have hopens : ∀ {call}, request.call = call → call.opensScopes = true → False := by
    rintro _ rfl hopens
    rw [hcall] at hopens
    cases hopens
  cases h with
  | aside h => rw [Store.beginnings, h.notices, Store.beginnings]
  | noted h =>
    refine s.beginnings_note fun notice hnotice => ?_
    cases hnotice
    exact (h.resolve_right fun h => hopens rfl (Call.opensScopes_of_begins h)).2
  | expired =>
    rw [Store.beginnings, (Store.Quiet.takeExpired _ s).notices, Store.beginnings]
  | begun h | seated h | resumed h => exact (hopens h rfl).elim
  | _ => rfl

section Told

variable {host : Host (Watched library σ)} {told : List Notice} {c : ScopeContext}
  {s : Store (Watched library σ)}

/-- Observers hear of no beginning while scopes only end. -/
theorem Program.run_beginnings (supply : Supply σ) (p : Program library σ) (within : List Request)
    (hobeys : p.Obeys windingDown within) :
    Act.Keeps True (fun s => s.beginnings = told) (p.run supply) := by
  refine Program.run_keeps_within (fun _ _ s => s.beginnings = told) supply ?_ ?_ ?_ p within
    hobeys ()
  · exact fun _ _ s hs => hs
  · exact fun _ _ own s hs => hs
  · intro meanwhile within request hrule hmeanwhile _ s hs
    have hmoves : Host.Moves { supply.hostOf meanwhile with thread := request.thread }
        (fun _ _ _ _ => True) request fun _ s => s.beginnings = told :=
      ⟨rfl, fun hmove hs => (hmove.beginnings hrule).trans hs,
        fun _ => (supply.watched.host_keeps (hmeanwhile ())).on request.thread⟩
    exact (hmoves.perform (fun _ _ _ _ _ => trivial) hs).mono fun _ _ ht => ht

theorem Container.teardown_beginnings (h : ∀ told, host.Keeps True fun s => s.beginnings = told) :
    Act.wp True (m.teardown host kind c) (fun _ t => t.beginnings = s.beginnings) s := by
  have hmoves : host.Moves (fun _ _ _ _ => True) ⟨host.thread, .stop m kind⟩
      fun _ t => t.beginnings = s.beginnings :=
    ⟨rfl, fun hmove ht => (hmove.beginnings rfl).trans ht, fun _ => h _⟩
  exact hmoves.teardown (γ := {}) rfl kind rfl

theorem Container.announce_beginning (h : ∀ told, host.Keeps True fun s => s.beginnings = told) :
    Run.wp True (m.announce host .initialized kind c) (fun _ t =>
      t.beginnings = s.beginnings ++ [(.initialized, m, kind, c)]) s := by
  have htell : ∀ (told : List Notice) observer,
      Run.Keeps True (fun s => s.beginnings = told) (m.tell host .initialized kind c observer) := by
    rintro told (l | label) s hs
    · exact (h told).notify l .initialized m kind c s hs
    · exact (s.beginnings_note fun _ hnotice => by cases hnotice).trans hs
  have hnoted : (s.note (.notified .initialized m kind c)).beginnings =
      s.beginnings ++ [(.initialized, m, kind, c)] := by
    rw [Store.beginnings, Store.notices_note, List.filter_append]
    rfl
  simp only [Container.announce, Run.wp_bind, Run.wp_modify, Run.wp_get]
  exact Run.Keeps.forM (htell _) _ _ hnoted

end Told

section Placed

variable {s : Store (Watched library σ)} {thread : Thread} {c : ScopeContext}

theorem Store.InOrder.new (h : s.InOrder) (kind : ScopeKind) :
    (ScopeContext.new kind s).2.InOrder := by
  have hnext : s.nextContext ≤ (ScopeContext.new kind s).2.nextContext := Nat.le_succ _
  have hlisted : ∀ {x : ScopeContext} {id v}, x.conversation? id (ScopeContext.new kind s).2 =
      some v → x.conversation? id s = some v :=
    fun hv => (Store.Quiet.newContext kind s).listed _ _ _ hv
  refine ⟨⟨?_, ?_⟩, ?_, ?_, ?_⟩
  · intro x id cell hcell
    rw [ScopeContext.context_new_eq] at hcell
    split at hcell
    · cases hcell
    · exact ⟨(h.issued.cell x id cell hcell).1,
        Nat.lt_of_lt_of_le (h.issued.cell x id cell hcell).2 hnext⟩
  · intro x hx
    rw [ScopeContext.context_new_eq] at hx
    split at hx
    · cases hx
    · exact Nat.lt_of_lt_of_le (h.issued.active x hx) hnext
  · exact fun m' thread' kind' x hx => Nat.lt_of_lt_of_le (h.attached m' thread' kind' x hx) hnext
  · exact fun x id v hv => Nat.lt_of_lt_of_le (h.listed x id v (hlisted hv)) hnext
  · exact fun x x' id id' v hv hv' => h.apart x x' id id' v (hlisted hv) (hlisted hv')

theorem Store.InOrder.place (h : s.InOrder) (hc : c.number < s.nextContext) :
    (m.place thread kind (c, s)).InOrder := by
  have hcontext : ∀ x, (m.place thread kind (c, s)).context x = (c.setActive true s).context x :=
    fun _ => rfl
  have hlisted : ∀ {x : ScopeContext} {id}, x.conversation? id (m.place thread kind (c, s)) =
      x.conversation? id s := conversation?_place m thread kind (c, s)
  refine ⟨⟨?_, ?_⟩, ?_, ?_, ?_⟩
  · intro x id cell hcell
    refine h.issued.cell x id cell ?_
    rw [hcontext, ScopeContext.setActive, ScopeContext.context_update_eq] at hcell
    split at hcell
    · rename_i hx
      rw [hx]
      exact hcell
    · exact hcell
  · intro x hx
    rw [hcontext, ScopeContext.setActive, ScopeContext.context_update_eq] at hx
    split at hx
    · rename_i heq
      rw [heq]
      exact hc
    · exact h.issued.active x hx
  · intro m' thread' kind' x hx
    rw [Container.attached] at hx
    split at hx
    · exact h.attached m' thread' .application x hx
    · rename_i hkind
      rw [Container.slot_place] at hx
      split at hx
      · cases hx
        exact hc
      · refine h.attached m' thread' kind' x ?_
        rwa [Container.attached, if_neg hkind]
  · exact fun x id v hv => h.listed x id v (hlisted ▸ hv)
  · exact fun x x' id id' v hv hv' => h.apart x x' id id' v (hlisted ▸ hv) (hlisted ▸ hv')

theorem Store.InOrder.start (h : s.InOrder) {session : Option ScopeContext}
    (hsession : ∀ x, kind = .session → session = some x → x.number < s.nextContext) :
    (m.place thread kind (Container.contextToStart kind session s)).InOrder := by
  obtain ⟨x, hkind, hsome, heq⟩ | heq := Container.contextToStart_cases kind session s
  · rw [heq]
    exact h.place (hsession x hkind hsome)
  · rw [heq]
    exact (h.new kind).place (Nat.lt_succ_self _)

theorem Container.contextToStart_same (kind : ScopeKind) (session : Option ScopeContext)
    (s : Store (Watched library σ)) :
    let opened := contextToStart kind session s
    opened.2.scopes = s.scopes ∧ opened.2.containers = s.containers ∧
      opened.2.journal = s.journal ∧ s.nextContext ≤ opened.2.nextContext ∧
      ∀ c, c ≠ opened.1 → opened.2.context c = s.context c := by
  obtain ⟨_, _, _, heq⟩ | heq := contextToStart_cases kind session s
  · rw [heq]
    exact ⟨rfl, rfl, rfl, Nat.le_refl _, fun _ _ => rfl⟩
  · rw [heq]
    exact ⟨rfl, rfl, rfl, Nat.le_succ _,
      fun c hc => (ScopeContext.context_new_eq kind c s).trans (if_neg hc)⟩

end Placed

namespace Closing

variable {w : Closing σ} {host : Host (Watched library σ)} {c : ScopeContext}
  {s t u : Store (Watched library σ)}

/-- The teardown of a context is complete. First the conversations of a session end, then the
context itself is emptied, and observers are told last. -/
structure Emptied (w : Closing σ) (host : Host (Watched library σ)) (m : Container)
    (kind : ScopeKind) (c : ScopeContext) (s u t : Store (Watched library σ)) : Prop where
  inactive : (t.context c).active = false
  entries : (t.context c).entries = ∅
  conversations : (t.context c).conversations = ∅
  passed : ∀ id n b, (s.context c).entries.get? id = some ⟨n, .live b⟩ → w.Passed c id n b s t
  /-- What is held no more was destroyed, as often as it was held. -/
  counted : ∀ b : Bag, b.listed s = 0 → ¬ b.Anew s t →
    b.ended s t + b.held t t.nextContext = b.held s s.nextContext
  once : ∀ id n b, (s.context c).entries.get? id = some ⟨n, .live b⟩ →
    b.held s s.nextContext = 1 → b.listed s = 0 → ¬ b.Anew s t → b.ended s t = 1
  buried : kind = .session → ∀ id v, c.conversation? id s = some v → w.Buried host m c v s u t
  own : ∃ failures, (m.destroyContext host kind c).run u = some (failures, t)
  last : ∃ x, u.Precedes x ∧ (m.announce host .destroyed kind c).run x = some ((), t) ∧
    (x.context c).active = false ∧ c.Vacant x
  /-- Only the end of the scope on another thread, which has the same session, tells it again. -/
  notice : (∀ thread, m.attached thread kind s = some c → m.attached thread kind t = some c) →
    (t.since Event.ended? s.journal.size).count (m, kind, c) = 1

theorem Course.emptied (h : w.Serves host) (hcourse : w.Course host m kind c s u t)
    (hkind : kind ≠ .conversation) (horder : s.InOrder) (hknown : w.known = s.nextContext)
    (hc : c.number < w.known) : w.Emptied host m kind c s u t := by
  have hs : w.Sound s := ⟨horder.issued, Nat.le_of_eq hknown⟩
  obtain ⟨x, hdowned, hannounced, htold⟩ := hcourse.last
  have hvacant : c.Vacant t := htold.vacant hc (hdowned.inactive hc)
    ⟨(hdowned.vacant hc).entries, (hdowned.vacant hc).conversations⟩
  have hpassed : ∀ id n b, (s.context c).entries.get? id = some ⟨n, .live b⟩ →
      w.Passed c id n b s t :=
    fun id n b hb => hcourse.ebbs.passed hc hvacant (fun hd => by cases hd) hb
  refine ⟨htold.inactive hc (hdowned.inactive hc), Table.eq_empty_of_get? hvacant.entries,
    Table.eq_empty_of_get? hvacant.conversations, hpassed, fun b => hcourse.ebbs.counted hknown,
    ?_, ?_, hcourse.own, ?_, hcourse.noticed hkind⟩
  · intro id n b hb honce hlisted hanew
    have hleast := (hpassed id n b hb).ended
    have hcount := hcourse.ebbs.counted hknown hlisted hanew
    omega
  · rintro rfl id v hv
    exact hcourse.buried h hs hv (fun y id' hy => horder.apart y c id' id v hy hv)
      (hknown ▸ horder.listed c id v hv)
  · exact ⟨x, hdowned.ebbs.toPrecedes, hannounced, hdowned.inactive hc, hdowned.vacant hc⟩

/-- How a scope is started again, whose previous context is to be destroyed. -/
structure Restarted (w : Closing σ) (host : Host (Watched library σ)) (m : Container)
    (kind : ScopeKind) (opened : ScopeContext × Store (Watched library σ)) (previous : ScopeContext)
    (s t : Store (Watched library σ)) (answer : Except LifecycleError Unit) : Prop where
  /-- The slot exposes the new context while the previous one is as it was. -/
  exposed : m.slot host.thread kind (m.place host.thread kind opened) = some opened.1
  active : ((m.place host.thread kind opened).context opened.1).active = true
  untouched : (m.place host.thread kind opened).context previous = s.context previous
  untold : (m.place host.thread kind opened).notices = s.notices
  /-- The previous one is torn down after that. Observers hear of the new one last, and if something
  failed they do not hear of it at all. -/
  torn : ∃ outcome u x,
    (m.teardown host kind previous).run.run (m.place host.thread kind opened) = some (outcome, x) ∧
    w.Emptied host m kind previous (m.place host.thread kind opened) u x ∧
    x.beginnings = s.beginnings ∧ answer = outcome.mapError (·.intoContext kind) ∧
    (answer = .ok () ∧ (m.announce host .initialized kind opened.1).run x = some ((), t) ∧
        t.beginnings = s.beginnings ++ [(.initialized, m, kind, opened.1)] ∨
      (∃ error, answer = .error error) ∧ t = x)
  kept : ∀ c, m.slot host.thread kind t = some c → c = opened.1

theorem Serves.startSlot_restarted (h : w.Serves host)
    (htold : ∀ told, host.Keeps True fun s => s.beginnings = told)
    (happlication : kind ≠ .application) (hconversation : kind ≠ .conversation)
    {session : Option ScopeContext} (horder : s.InOrder)
    (hsession : ∀ x, kind = .session → session = some x → x.number < s.nextContext)
    (hpolicy : (s.container m).config.restartPolicy = .destroyPrevious)
    (hslot : m.slot host.thread kind s = some c)
    (hnew : c ≠ (Container.contextToStart kind session s).1)
    (hknown : w.known =
      (m.place host.thread kind (Container.contextToStart kind session s)).nextContext) :
    Act.wp True (m.startSlot host kind session) (fun r t =>
      w.Restarted host m kind (Container.contextToStart kind session s) c s t
        (r.mapError (·.intoContext kind))) s := by
  let opened := Container.contextToStart kind session s
  let placed := m.place host.thread kind opened
  obtain ⟨hscopes, hcontainers, hjournal, hnext, hcontexts⟩ :=
    Container.contextToStart_same kind session s
  have hprevious : m.slot host.thread kind (opened.1.setActive true opened.2) = some c := by
    rw [← hslot]
    exact Container.slot_congr hscopes m host.thread kind
  have hcontext : placed.context c = s.context c :=
    (ScopeContext.context_update_of_ne hnew (fun r => { r with active := true }) opened.2).trans
      (hcontexts c hnew)
  have hnotices : placed.notices = s.notices := by
    rw [Store.notices, Store.since, Store.notices, Store.since, ← hjournal]
    rfl
  have hbeginnings : placed.beginnings = s.beginnings := by
    rw [Store.beginnings, hnotices, Store.beginnings]
  have hexposed : m.slot host.thread kind placed = some opened.1 :=
    (Container.slot_place m m host.thread host.thread kind kind opened).trans (if_pos ⟨rfl, rfl⟩)
  have hactive : (placed.context opened.1).active = true :=
    congrArg (·.active)
      (ScopeContext.context_update opened.1 (fun r => { r with active := true }) opened.2)
  have hplaced : placed.InOrder := horder.start hsession
  have hc : c.number < w.known := by
    have hattached : m.attached host.thread kind s = some c := by
      rw [Container.attached, if_neg happlication]
      exact hslot
    rw [hknown]
    exact Nat.lt_of_lt_of_le (horder.attached m host.thread kind c hattached) hnext
  have hs : w.Sound placed := ⟨hplaced.issued, Nat.le_of_eq hknown⟩
  -- What the slot has later on, it had when the new context was placed.
  have hkept : ∀ {owed t}, w.Ebbs owed placed t → ∀ x, m.slot host.thread kind t = some x →
      x = opened.1 := by
    intro owed t ht x hx
    have hattached := ht.attached m host.thread kind x (by
      rwa [Container.attached, if_neg happlication])
    rw [Container.attached, if_neg happlication, hexposed] at hattached
    exact (Option.some.inj hattached).symm
  have hpolicy' : (placed.container m).config.restartPolicy = .destroyPrevious := by
    rw [← hpolicy]
    exact congrArg (·.config.restartPolicy) (Store.container_congr hcontainers m)
  simp only [Container.startSlot, Act.wp_bind, Act.wp_modifyGet, Act.wp_modify]
  split
  swap
  · rename_i hvacant
    exact absurd hprevious (hvacant c)
  rename_i p hp
  obtain rfl : c = p := Option.some.inj (hprevious.symm.trans hp)
  rw [if_pos hnew]
  change Act.wp True (m.retire host kind c >>= fun _ => _) _ placed
  simp only [Act.wp_bind, Container.retire, Act.wp_get, hpolicy', Act.wp_liftM]
  have hteardown := ((Act.wp_outcome (m.teardown host kind c) placed).and
    (h.teardown kind c hs)).and (Container.teardown_beginnings htold)
  apply hteardown.mono
  rintro outcome x ⟨⟨hrun, u, hcourse⟩, hsilent⟩
  have hemptied := hcourse.emptied h hconversation hplaced hknown hc
  cases outcome with
  | ok _ =>
    let event : Event := .notified .initialized m kind opened.1
    have hnoted : w.Settles x (x.note event) := settles_note rfl rfl x
    have hx : w.Sound x := hcourse.ebbs.sound hs
    have hannounce := ((Run.wp_outcome (m.announce host .initialized kind opened.1) x).and
      (h.announce .initialized kind opened.1 (hnoted.sound hx))).and
      (Container.announce_beginning htold)
    apply hannounce.mono
    rintro _ t ⟨⟨hdelivered, hlater⟩, htail⟩
    rw [hsilent, hbeginnings] at htail
    have hebbs := hcourse.ebbs.trans (hnoted.trans hlater).owing
    exact ⟨hexposed, hactive, hcontext, hnotices, ⟨_, u, x, hrun, hemptied,
      hsilent.trans hbeginnings, rfl, .inl ⟨rfl, hdelivered, htail⟩⟩, hkept hebbs⟩
  | error error =>
    simp only
    exact ⟨hexposed, hactive, hcontext, hnotices, ⟨_, u, x, hrun, hemptied,
      hsilent.trans hbeginnings, rfl, .inr ⟨⟨_, rfl⟩, rfl⟩⟩, hkept hcourse.ebbs⟩

end Closing

/-- A scope that is started again has its previous context destroyed completely, whatever fails. But
the slot exposes the new context before that, and if something failed observers do not hear of the
new one. Callbacks may fail, destroy what they like and end scopes, on any thread, as long as they
do not open any. -/
theorem restart_destroys_previous (supply : Supply σ) (thread : Thread) (m : Container)
    (kind : ScopeKind) (params : ScopeParams) (previous : ScopeContext)
    (meanwhile : Callback → Program library σ) (s t : Store (Watched library σ))
    (answer : Except LifecycleError Unit) (happlication : kind ≠ .application)
    (hconversation : kind ≠ .conversation) (horder : s.InOrder)
    (hpolicy : (s.container m).config.restartPolicy = .destroyPrevious)
    (hslot : m.slot thread kind s = some previous)
    (hnew : previous ≠ (Container.contextToStart kind params.session s).1)
    (hsession : ∀ c, kind = .session → params.session = some c → c.number < s.nextContext)
    (hobeys : ∀ cb, (meanwhile cb).Obeys windingDown [⟨thread, .start m kind params⟩])
    (hrun : (library.perform (supply.hostOf meanwhile) ⟨thread, .start m kind params⟩).run.run s =
      some (answer, t)) :
    let opened := Container.contextToStart kind params.session s
    let w : Closing σ := ⟨supply, opened.2.nextContext⟩
    w.Restarted (w.host thread meanwhile) m kind opened previous s t answer := by
  intro opened w
  have hserves := w.serves meanwhile _ hobeys thread
  have htold : ∀ told, (w.host thread meanwhile).Keeps True fun s => s.beginnings = told :=
    fun told => (supply.watched.host_keeps
      fun cb => (meanwhile cb).run_beginnings supply _ (hobeys cb)).on thread
  have hstart : Act.wp True (m.start (w.host thread meanwhile) kind params)
      (fun answer t => w.Restarted (w.host thread meanwhile) m kind opened previous s t answer)
      s := by
    have hslot' := hserves.startSlot_restarted htold happlication hconversation horder hsession
      hpolicy hslot hnew rfl
    cases kind with
    | application => exact absurd rfl happlication
    | conversation => exact absurd rfl hconversation
    | _ =>
      simp only [Container.start, Act.wp_inScope]
      exact hslot'
  exact (Act.wp_of_run hrun).1 hstart

/-- The hypotheses hold of a session with a conversation, where every callback destroys one of the
session's entries and fails. Observers hear of both ends, and not of the new session. -/
theorem restart_destroys_previous_session :
    let supply : Supply Unit := Supply.numbered ⟨"main"⟩
    let thread : Thread := ⟨"main"⟩
    let m : Container := ⟨1⟩
    let session : ScopeContext := ⟨1⟩
    let nested : ScopeContext := ⟨2⟩
    let plain : Nat → String → Contextual :=
      fun object text => { object, id := ⟨text⟩, variety := .plain }
    let lamp : Bag := ⟨plain 3 "lamp", ⟨3⟩, ⟨3⟩⟩
    let made : Store (Watched library Unit) :=
      { Store.watched { surroundings := () } with nextContext := 3, nextCell := 4 }
    let s := (m.fillSlot thread .session session (session.putConversation "1" ⟨nested⟩
      (session.setCell ⟨"lamp"⟩ ⟨3, .live lamp⟩
      (session.setCell ⟨"cart"⟩ ⟨2, .live ⟨plain 2 "cart", ⟨2⟩, ⟨2⟩⟩⟩
      (nested.setCell ⟨"form"⟩ ⟨1, .live ⟨plain 1 "form", ⟨1⟩, ⟨1⟩⟩⟩
      (session.setActive true (nested.setActive true
        (Container.new { restartPolicy := .destroyPrevious } [.listener ⟨1⟩] false
          made).2))))))).2
    let meanwhile : Callback → Program library Unit := fun _ =>
      .call (⟨thread, .destroy session lamp.contextual⟩ : Request) (fun _ => .done)
        fun _ => .fail (.destruction "lamp" "refused")
    let opened := Container.contextToStart .session none s
    let w : Closing Unit := ⟨supply, opened.2.nextContext⟩
    ∃ error t, s.InOrder ∧ (s.container m).config.restartPolicy = .destroyPrevious ∧
      m.slot thread .session s = some session ∧ session ≠ opened.1 ∧
      (∀ cb, (meanwhile cb).Obeys windingDown [⟨thread, .start m .session {}⟩]) ∧
      (library.perform (supply.hostOf meanwhile) ⟨thread, .start m .session {}⟩).run.run s =
        some (.error error, t) ∧
      t.since Event.destruction? s.journal.size = [⟨plain 1 "form", ⟨1⟩, ⟨1⟩⟩, lamp,
        ⟨plain 2 "cart", ⟨2⟩, ⟨2⟩⟩] ∧
      t.notices = [(.destroyed, m, .conversation, nested), (.destroyed, m, .session, session)] ∧
      w.Restarted (w.host thread meanwhile) m .session opened session s t (.error error) := by
  intro supply thread m session nested plain lamp made s meanwhile opened w
  have horder : s.InOrder := Store.inOrder_of_tables (by decide +kernel) (by decide +kernel)
    (by decide +kernel) (by decide +kernel)
  have hpolicy : (s.container m).config.restartPolicy = .destroyPrevious := by decide +kernel
  have hslot : m.slot thread .session s = some session := by decide +kernel
  have hnew : session ≠ opened.1 := by decide +kernel
  have hsession : ∀ c, ScopeKind.session = .session → (none : Option ScopeContext) = some c →
      c.number < s.nextContext := by
    rintro c - hc
    cases hc
  have hobeys : ∀ cb, (meanwhile cb).Obeys windingDown [⟨thread, .start m .session {}⟩] := by
    simp [meanwhile, Program.Obeys, windingDown, Call.opensScopes]
  have hseen : ((library.perform (supply.hostOf meanwhile)
      ⟨thread, .start m .session {}⟩).run.run s).map (fun o => decide (o.1.isOk = false ∧
        o.2.since Event.destruction? s.journal.size = [⟨plain 1 "form", ⟨1⟩, ⟨1⟩⟩, lamp,
          ⟨plain 2 "cart", ⟨2⟩, ⟨2⟩⟩] ∧
        o.2.notices = [(.destroyed, m, .conversation, nested),
          (.destroyed, m, .session, session)])) = some true := by
    decide +kernel
  obtain ⟨⟨answer, t⟩, hrun, ht⟩ := Option.map_eq_some_iff.1 hseen
  obtain ⟨hanswer, hdestroyed, hnotices⟩ := of_decide_eq_true ht
  cases answer with
  | ok _ => cases hanswer
  | error error =>
    exact ⟨error, t, horder, hpolicy, hslot, hnew, hobeys, hrun, hdestroyed, hnotices,
      restart_destroys_previous supply thread m .session {} session meanwhile s t (.error error)
        (by decide) (by decide) horder hpolicy hslot hnew hsession hobeys hrun⟩

/-- How the start of a scope went, and what its slot has afterwards. -/
def Sighting.started? : Sighting library → Option (Bool × Option ScopeContext)
  | .call ⟨thread, .start m kind _⟩ _ answer after => some (answer.isOk, m.slot thread kind after)
  | _ => none

/-- Where a session is started again and the destruction of its entry fails, whoever asks for the
session during that destruction is given the new one. It stays in the slot, observers never hear of
its beginning, and in the end they hear that it was destroyed. -/
theorem restart_exposes_early :
    let thread : Thread := ⟨"main"⟩
    let m : Container := ⟨1⟩
    let cart : Contextual := { object := 1, id := ⟨"cart"⟩, variety := .plain }
    let quiet : Callback → Program library Unit := fun _ => .done
    let refusing : Callback → Program library Unit
      | .destroy .. => .call (⟨thread, .current m .session⟩ : Request) quiet fun _ =>
          .fail (.destruction "cart" "refused")
      | _ => .done
    let config : Config := { restartPolicy := .destroyPrevious }
    let p : Program library Unit :=
      .call (⟨thread, .newContainer config [.listener ⟨1⟩] false⟩ : Request) quiet fun _ =>
      .call (⟨thread, .start m .session {}⟩ : Request) quiet fun _ =>
      .call (⟨thread, .newEpisode m none⟩ : Request) quiet fun _ =>
      .call (⟨thread, .getOrCreate ⟨1⟩ cart ⟨1⟩⟩ : Request) quiet fun _ =>
      .call (⟨thread, .start m .session {}⟩ : Request) refusing fun _ =>
      .call (⟨thread, .stop m .session⟩ : Request) quiet fun _ => .done
    ∃ r t, (p.run (Supply.numbered ⟨"main"⟩)).run.run (Store.watched { surroundings := () }) =
        some (r, t) ∧
      t.seen.filterMap Sighting.found? = [some ⟨2⟩] ∧
      t.seen.filterMap Sighting.started? = [(false, some ⟨2⟩), (true, some ⟨1⟩)] ∧
      t.notices = [(.initialized, m, .session, ⟨1⟩), (.destroyed, m, .session, ⟨1⟩),
        (.destroyed, m, .session, ⟨2⟩)] := by
  intro thread m cart quiet refusing config p
  have hseen : ((p.run (Supply.numbered ⟨"main"⟩)).run.run
      (Store.watched { surroundings := () })).map (fun o => decide
        (o.2.seen.filterMap Sighting.found? = [some ⟨2⟩] ∧
          o.2.seen.filterMap Sighting.started? = [(false, some ⟨2⟩), (true, some ⟨1⟩)] ∧
          o.2.notices = [(.initialized, m, .session, ⟨1⟩), (.destroyed, m, .session, ⟨1⟩),
            (.destroyed, m, .session, ⟨2⟩)])) = some true := by
    decide +kernel
  obtain ⟨⟨r, t⟩, hrun, ht⟩ := Option.map_eq_some_iff.1 hseen
  exact ⟨r, t, hrun, of_decide_eq_true ht⟩

end ContextualLifecycle
