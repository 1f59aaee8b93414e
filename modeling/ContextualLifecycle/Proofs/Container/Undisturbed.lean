import ContextualLifecycle.Proofs.Container.Quiet
import ContextualLifecycle.Proofs.Container.Reviving
import ContextualLifecycle.Proofs.Container.Sustained
import ContextualLifecycle.Proofs.Conversation.Tally

namespace ContextualLifecycle

variable {σ : Type}

def Store.beginnings (s : Store σ) : List Notice :=
  s.notices.filter fun notice => notice.1 = .initialized

theorem Store.beginnings_note {event : Event} (s : Store σ)
    (h : ∀ notice, event.notice? = some notice → notice.1 = .destroyed) :
    (s.note event).beginnings = s.beginnings := by
  rw [beginnings, notices_note, List.filter_append]
  cases hnotice : event.notice? with
  | none => exact List.append_nil _
  | some notice =>
    have hphase : notice.1 ≠ .initialized := by
      rw [h notice hnotice]
      exact fun heq => by cases heq
    rw [Option.toList_some, List.filter_cons_of_neg (by simpa using hphase)]
    exact List.append_nil _

/-- No scope is entered, and one context is left as it is. -/
def leaving (spared : Option ScopeContext) : Rule := fun _ request =>
  match request.call with
  | .setActive c _ | .destroyAll c => spared ≠ some c
  | .restoreContext .. => True
  | call => call.isQuiet = true

/-- Since some store no scope was entered and no context has begun, and one context was left as it
is. Contexts that are being restored are others, and no session has it as a conversation. -/
structure Undisturbed (spared : Option ScopeContext) (s₀ : Store σ)
    (restoring : List ScopeContext) (s : Store σ) : Prop where
  scopes : s.scopes = s₀.scopes
  beginnings : s.beginnings = s₀.beginnings
  issued : ∀ c, spared = some c → c.number < s.nextContext
  active : ∀ c, spared = some c → (s.context c).active = (s₀.context c).active
  unlisted : ∀ c, spared = some c → ∀ (x : ScopeContext) id, x.conversation? id s ≠ some ⟨c⟩
  apart : ∀ c, spared = some c → c ∉ restoring

namespace Undisturbed

variable {spared : Option ScopeContext} {s₀ s t : Store σ} {restoring : List ScopeContext}
  {c : ScopeContext}

theorem start (h : ∀ c, spared = some c → c.number < s.nextContext ∧
    ∀ (x : ScopeContext) id, x.conversation? id s ≠ some ⟨c⟩) : Undisturbed spared s [] s where
  scopes := rfl
  beginnings := rfl
  issued c hc := (h c hc).1
  active _ _ := rfl
  unlisted c hc := (h c hc).2
  apart _ _ hin := by cases hin

theorem of_quiet (hst : s.Quiet t) (h : Undisturbed spared s₀ restoring s) :
    Undisturbed spared s₀ restoring t where
  scopes := hst.scopes.trans h.scopes
  beginnings := by rw [Store.beginnings, hst.notices, ← h.beginnings, Store.beginnings]
  issued c hc := Nat.lt_of_lt_of_le (h.issued c hc) hst.nextContext
  active c hc := (hst.active c (h.issued c hc)).trans (h.active c hc)
  unlisted c hc x id hv := h.unlisted c hc x id (hst.listed x id ⟨c⟩ hv)
  apart := h.apart

theorem surrounded (h : Undisturbed spared s₀ restoring s) (surroundings : σ) :
    Undisturbed spared s₀ restoring { s with surroundings } :=
  ⟨h.scopes, h.beginnings, h.issued, h.active, h.unlisted, h.apart⟩

theorem release (h : Undisturbed spared s₀ restoring s) (v : Conversation) :
    Undisturbed spared s₀ restoring (v.release s) :=
  ⟨h.scopes, h.beginnings, h.issued, h.active, h.unlisted, h.apart⟩

theorem mourned (h : Undisturbed spared s₀ restoring s) (m : Container) (kind : ScopeKind)
    (c : ScopeContext) : Undisturbed spared s₀ restoring (s.note (.notified .destroyed m kind c)) :=
  { h with
    beginnings := by
      rw [Store.beginnings_note s fun notice hnotice => by cases hnotice; rfl]
      exact h.beginnings }

theorem setActive (h : Undisturbed spared s₀ restoring s) (hc : spared ≠ some c) (active : Bool) :
    Undisturbed spared s₀ restoring (c.setActive active s) :=
  { h with
    active := by
      intro x hx
      have hne : x ≠ c := by
        rintro rfl
        exact hc hx
      rw [ScopeContext.setActive, ScopeContext.context_update_of_ne hne]
      exact h.active x hx
    unlisted := by
      intro x hx y id
      rw [conversation?_setActive]
      exact h.unlisted x hx y id }

theorem begin (h : Undisturbed spared s₀ restoring s) (kind : ScopeKind) :
    Undisturbed spared s₀ ((ScopeContext.new kind s).1 :: restoring) (ScopeContext.new kind s).2 :=
  { of_quiet (.newContext kind s) h with
    apart := by
      intro c hc hin
      rcases List.mem_cons.1 hin with rfl | hin
      · exact Nat.lt_irrefl _ (h.issued _ hc)
      · exact h.apart c hc hin }

theorem done (h : Undisturbed spared s₀ (c :: restoring) s) : Undisturbed spared s₀ restoring s :=
  { h with apart := fun x hx hin => h.apart x hx (List.mem_cons_of_mem c hin) }

theorem ne_restoring (h : Undisturbed spared s₀ (c :: restoring) s) : spared ≠ some c :=
  fun hc => h.apart c hc List.mem_cons_self

theorem converse (h : Undisturbed spared s₀ (c :: restoring) s) (id : String)
    (timeout : Duration) : Undisturbed spared s₀ restoring (c.converse id timeout s) :=
  let hactive := h.done.setActive h.ne_restoring true
  ⟨hactive.scopes, hactive.beginnings, hactive.issued, hactive.active, hactive.unlisted,
    hactive.apart⟩

theorem list (h : Undisturbed spared s₀ (c :: restoring) s) (session : ScopeContext) (id : String)
    (timeout : Duration) : Undisturbed spared s₀ restoring
      (session.putConversation id ⟨c⟩ (c.converse id timeout s)) :=
  let hmade := h.converse id timeout
  { hmade with
    active := by
      intro x hx
      rw [(context_putConversation session x id ⟨c⟩ _).2]
      exact hmade.active x hx
    unlisted := by
      intro x hx y id' hv
      rw [conversation?_put] at hv
      split at hv
      · cases hv
        exact h.ne_restoring hx
      · exact hmade.unlisted x hx y id' hv }

end Undisturbed

/-- Callbacks leave scopes to the operation, but for those that are told of a beginning. -/
structure Host.Leaves (host : Host σ) (spared : Option ScopeContext) (s₀ : Store σ) : Prop where
  tends : ∀ restoring, host.Tends True (Undisturbed spared s₀ restoring)
  ended : ∀ restoring listener m kind c, Run.Keeps True (Undisturbed spared s₀ restoring)
    (host.notify listener .destroyed m kind c)

namespace Host.Leaves

variable {host : Host σ} {spared : Option ScopeContext} {s₀ : Store σ}
  (h : host.Leaves spared s₀)

include h

theorem buries (restoring : List ScopeContext) :
    host.Buries (fun _ => Undisturbed spared s₀ restoring) fun c => spared ≠ some c where
  toHandles := (h.tends restoring).handles fun _ _ => Undisturbed.of_quiet
  ended _ := h.ended restoring
  mourned _ m kind c _ hs := hs.mourned m kind c
  deactivated _ _ _ hc hs := hs.setActive hc false
  emptied _ c s _ hs := by
    refine ⟨Undisturbed.of_quiet (.takeConversations c s) hs, fun v hv hspared => ?_⟩
    obtain ⟨row, hrow, rfl⟩ := List.mem_map.1 hv
    exact hs.unlisted row.2.context hspared c row.1 (Table.get?_eq_some_iff.2 hrow)

theorem revives : host.Revives fun restoring _ => Undisturbed spared s₀ restoring where
  handles restoring := (h.buries restoring).toHandles
  begun _ _ kind _ hs := hs.begin kind
  done _ _ _ _ hs := hs.done
  converse _ _ _ id timeout _ hs := hs.converse id timeout
  listed _ _ _ id timeout session _ hs _ := hs.list session id timeout

/-- A request that leaves scopes to the operation is no disturbance, if its callbacks are none. -/
theorem perform {request : Request} {within : List Request} (hrule : leaving spared within request)
    (restoring : List ScopeContext) :
    Act.Keeps True (Undisturbed spared s₀ restoring) (request.call.perform host) := by
  obtain ⟨thread, call⟩ := request
  cases call with
  | setActive c active => exact fun s hs => hs.setActive hrule active
  | destroyAll c => exact ((h.buries restoring).closes []).destroyAll hrule
  | restoreContext m snapshot =>
    exact (h.revives.rebuilds []).restoreContext_keeps m snapshot restoring
  | _ => exact Call.perform_quiet _ hrule (h.tends restoring) fun _ _ => Undisturbed.of_quiet

end Host.Leaves

theorem Program.run_undisturbed (supply : Supply σ) (p : Program library σ) {within : List Request}
    {spared : Option ScopeContext} (hobeys : p.Obeys (leaving spared) within)
    (s₀ : Store (Watched library σ)) (restoring : List ScopeContext) :
    Act.Keeps True (Undisturbed spared s₀ restoring) (p.run supply) := by
  refine Program.run_keeps_within (fun restoring _ => Undisturbed spared s₀ restoring) supply
    ?_ ?_ ?_ p within hobeys restoring
  · exact fun restoring _ s hs => hs.surrounded _
  · exact fun restoring _ own s hs => hs.surrounded _
  · intro meanwhile within request hrule hmeanwhile restoring s hs
    have hkeeps := fun restoring =>
      (supply.watched.host_keeps (hmeanwhile restoring)).on request.thread
    have hleaves : ({ supply.hostOf meanwhile with thread := request.thread } :
        Host (Watched library σ)).Leaves spared s₀ :=
      ⟨fun restoring => (hkeeps restoring).tends, fun restoring l => (hkeeps restoring).notify l _⟩
    exact (hleaves.perform hrule restoring s hs).mono fun answer t ht => ht.surrounded _

theorem Supply.leaves (supply : Supply σ) {meanwhile : Callback → Program library σ}
    {within : List Request} {spared : Option ScopeContext}
    (hobeys : ∀ cb, cb.tellsBeginning = false → (meanwhile cb).Obeys (leaving spared) within)
    (thread : Thread) (s₀ : Store (Watched library σ)) :
    ({ supply.hostOf meanwhile with thread } : Host (Watched library σ)).Leaves spared s₀ := by
  have hrun := fun restoring cb (hcb : cb.tellsBeginning = false) =>
    (meanwhile cb).run_undisturbed supply (hobeys cb hcb) s₀ restoring
  have hended : ∀ restoring l m kind c, Run.Keeps True (Undisturbed spared s₀ restoring)
      ((supply.hostOf meanwhile).notify l .destroyed m kind c) := fun restoring l m kind c =>
    supply.watched.notify_keeps (hrun restoring (.notify l .destroyed m kind c) rfl)
  exact ⟨fun restoring => (supply.watched.host_tends (hrun restoring)).on thread, hended⟩

end ContextualLifecycle
