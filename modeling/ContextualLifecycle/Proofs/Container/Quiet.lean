import ContextualLifecycle.Proofs.Journal
import ContextualLifecycle.Proofs.ScopeContext.Handling

namespace ContextualLifecycle

variable {σ : Type}

abbrev Notice := Phase × Container × ScopeKind × ScopeContext

def Event.notice? : Event → Option Notice
  | .notified phase m kind c => some (phase, m, kind, c)
  | _ => none

def Store.notices (s : Store σ) : List Notice := s.since Event.notice? 0

theorem Store.notices_note (event : Event) (s : Store σ) :
    (s.note event).notices = s.notices ++ event.notice?.toList :=
  Store.since_note (Nat.zero_le _) event

namespace ScopeContext

variable {s : Store σ}

theorem takeExpired_eq (c : ScopeContext) (s : Store σ) :
    ∃ contexts journal, (c.takeExpired s).2 = { s with contexts, journal } := by
  refine c.takeExpired_keeps (P := fun t => ∃ contexts journal, t = { s with contexts, journal })
    ?_ ?_ ⟨s.contexts, s.journal, rfl⟩
  · rintro id _ ⟨_, _, rfl⟩
    exact ⟨_, _, rfl⟩
  · rintro id _ ⟨_, _, rfl⟩
    exact ⟨_, _, rfl⟩

theorem context_takeExpired (c x : ScopeContext) (s : Store σ) :
    ∃ conversations, (c.takeExpired s).2.context x =
      if x = c then { s.context c with conversations } else s.context x := by
  refine c.takeExpired_keeps (P := fun t => ∃ conversations, t.context x =
    if x = c then { s.context c with conversations } else s.context x) (fun _ _ ht => ht) ?_ ?_
  · rintro id t ⟨conversations, ht⟩
    by_cases hx : x = c
    · subst hx
      rw [if_pos rfl] at ht
      refine ⟨conversations.erase id, (context_update x _ t).trans ?_⟩
      rw [if_pos rfl, ht]
    · exact ⟨conversations, (context_update_of_ne hx _ t).trans ht⟩
  · refine ⟨(s.context c).conversations, ?_⟩
    split
    · rename_i hx
      rw [hx]
    · rfl

end ScopeContext

/-- Only quiet steps lead from one store to the other. -/
structure Store.Quiet (s t : Store σ) : Prop where
  surroundings : t.surroundings = s.surroundings
  scopes : t.scopes = s.scopes
  notices : t.notices = s.notices
  nextContext : s.nextContext ≤ t.nextContext
  application : ∀ (m : Container) c, m.application t = some c → m.application s = some c
  id : ∀ v, (t.conversation v).id = (s.conversation v).id
  busy : ∀ v, (t.conversation v).busy = (s.conversation v).busy
  kind : ∀ c : ScopeContext, c.number < s.nextContext → (t.context c).kind = (s.context c).kind
  active : ∀ c : ScopeContext, c.number < s.nextContext →
    (t.context c).active = (s.context c).active
  inactive : ∀ c : ScopeContext, (t.context c).active = true → (s.context c).active = true
  listed : ∀ (c : ScopeContext) id v, c.conversation? id t = some v → c.conversation? id s = some v

namespace Store.Quiet

variable {s t u : Store σ}

theorem trans (h : s.Quiet t) (h' : t.Quiet u) : s.Quiet u where
  surroundings := h'.surroundings.trans h.surroundings
  scopes := h'.scopes.trans h.scopes
  notices := h'.notices.trans h.notices
  nextContext := Nat.le_trans h.nextContext h'.nextContext
  application m c hc := h.application m c (h'.application m c hc)
  id v := (h'.id v).trans (h.id v)
  busy v := (h'.busy v).trans (h.busy v)
  kind c hc := (h'.kind c (Nat.lt_of_lt_of_le hc h.nextContext)).trans (h.kind c hc)
  active c hc := (h'.active c (Nat.lt_of_lt_of_le hc h.nextContext)).trans (h.active c hc)
  inactive c hc := h.inactive c (h'.inactive c hc)
  listed c id v hv := h.listed c id v (h'.listed c id v hv)

theorem attached (h : s.Quiet t) {m : Container} {thread : Thread} {kind : ScopeKind}
    {c : ScopeContext} (hm : m.attached thread kind t = some c) :
    m.attached thread kind s = some c := by
  refine Container.attached_imp hm (h.application m c) fun hm => ?_
  rwa [← Container.slot_congr h.scopes]

theorem of_eq (hcontexts : t.contexts = s.contexts)
    (hconversations : t.conversations = s.conversations) (hcontainers : t.containers = s.containers)
    (hscopes : t.scopes = s.scopes) (hnext : t.nextContext = s.nextContext)
    (hsurroundings : t.surroundings = s.surroundings) (hnotices : t.notices = s.notices) :
    s.Quiet t := by
  have hcontext := Store.context_congr hcontexts
  have hconversation := Store.conversation_congr hconversations
  refine ⟨hsurroundings, hscopes, hnotices, Nat.le_of_eq hnext.symm, ?_, ?_, ?_, ?_, ?_, ?_, ?_⟩
  · intro m c hc
    rwa [Container.application_congr hcontainers] at hc
  · exact fun v => congrArg (·.id) (hconversation v)
  · exact fun v => congrArg (·.busy) (hconversation v)
  · exact fun c _ => congrArg (·.kind) (hcontext c)
  · exact fun c _ => congrArg (·.active) (hcontext c)
  · intro c hc
    rwa [hcontext] at hc
  · intro c id v hv
    rwa [ScopeContext.conversation?_congr hcontexts] at hv

theorem note {event : Event} (h : event.notice? = none) (s : Store σ) : s.Quiet (s.note event) :=
  of_eq rfl rfl rfl rfl rfl rfl (by rw [Store.notices_note, h, Option.toList_none, List.append_nil])

theorem episode (e : Episode) (f : Episode.Record → Episode.Record) (s : Store σ) :
    s.Quiet (e.update f s) :=
  of_eq rfl rfl rfl rfl rfl rfl rfl

theorem context {c : ScopeContext} {f : ScopeContext.Record → ScopeContext.Record}
    (hkind : ∀ r, (f r).kind = r.kind) (hactive : ∀ r, (f r).active = r.active)
    (hlisted : ∀ r id v, (f r).conversations.get? id = some v → r.conversations.get? id = some v)
    (s : Store σ) : s.Quiet (c.update f s) := by
  have hsame : ∀ x, ((c.update f s).context x).kind = (s.context x).kind ∧
      ((c.update f s).context x).active = (s.context x).active := by
    intro x
    by_cases hx : x = c
    · rw [hx, ScopeContext.context_update]
      exact ⟨hkind _, hactive _⟩
    · rw [ScopeContext.context_update_of_ne hx]
      exact ⟨rfl, rfl⟩
  refine ⟨rfl, rfl, rfl, Nat.le_refl _, fun _ _ hc => hc, fun _ => rfl, fun _ => rfl,
    fun x _ => (hsame x).1, fun x _ => (hsame x).2, ?_, ?_⟩
  · intro x hx
    rwa [(hsame x).2] at hx
  · exact fun _ _ v => ScopeContext.conversation?_of_update fun r id => hlisted r id v

theorem fillCell (c : ScopeContext) (id : ContextualId) (n : Nat) (content : Cell.Content)
    (s : Store σ) : s.Quiet (c.fillCell id n content s) :=
  context (fun r => by split <;> rfl) (fun r => by split <;> rfl)
    (fun r _ _ hv => by split at hv <;> exact hv) s

theorem dropCell (c : ScopeContext) (id : ContextualId) (n : Nat) (s : Store σ) :
    s.Quiet (c.dropCell id n s) :=
  context (fun r => by split <;> rfl) (fun r => by split <;> rfl)
    (fun r _ _ hv => by split at hv <;> exact hv) s

theorem setCell (c : ScopeContext) (id : ContextualId) (cell : Cell) (s : Store σ) :
    s.Quiet (c.setCell id cell s) :=
  context (f := fun r => { r with entries := r.entries.insert id cell })
    (fun _ => rfl) (fun _ => rfl) (fun _ _ _ hv => hv) s

theorem serials (n : Nat) (s : Store σ) : s.Quiet { s with nextCell := n } :=
  of_eq rfl rfl rfl rfl rfl rfl rfl

theorem claimCell (c : ScopeContext) (id : ContextualId) (s : Store σ) :
    s.Quiet (c.claimCell id s).2 := by
  obtain ⟨_, heq⟩ | ⟨_, _, heq⟩ := ScopeContext.claimCell_cases c id s
  · rw [heq]
    exact of_eq rfl rfl rfl rfl rfl rfl rfl
  · rw [heq]
    exact (setCell c id ⟨s.nextCell, .empty⟩ s).trans (serials (s.nextCell + 1) _)

theorem takeEntry (c : ScopeContext) (id : ContextualId) (s : Store σ) :
    s.Quiet (c.takeEntry id s).2 :=
  context (f := fun r => { r with entries := r.entries.erase id })
    (fun _ => rfl) (fun _ => rfl) (fun _ _ _ hv => hv) s

theorem takeConversations (c : ScopeContext) (s : Store σ) : s.Quiet (c.takeConversations s).2 :=
  context (f := fun r => { r with conversations := ∅ }) (fun _ => rfl) (fun _ => rfl)
    (fun _ _ _ hv => by cases hv) s

theorem removeConversation (c : ScopeContext) (id : String) (s : Store σ) :
    s.Quiet (c.removeConversation id s).2 := by
  refine context (f := fun r => { r with conversations := r.conversations.erase id })
    (fun _ => rfl) (fun _ => rfl) ?_ s
  intro r id' v hv
  rw [Table.get?_erase] at hv
  split at hv
  · cases hv
  · exact hv

theorem takeExpired (c : ScopeContext) (s : Store σ) : s.Quiet (c.takeExpired s).2 :=
  c.takeExpired_keeps (fun _ _ ht => ht.trans (note rfl _))
    (fun id _ ht => ht.trans (removeConversation c id _)) (of_eq rfl rfl rfl rfl rfl rfl rfl)

theorem conversation (v : Conversation) {f : Conversation.Record → Conversation.Record}
    (hid : ∀ r, (f r).id = r.id) (hbusy : ∀ r, (f r).busy = r.busy) (s : Store σ) :
    s.Quiet (v.update f s) := by
  have hsame : ∀ w, ((v.update f s).conversation w).id = (s.conversation w).id ∧
      ((v.update f s).conversation w).busy = (s.conversation w).busy := by
    intro w
    rw [Conversation.conversation_update]
    split
    · rename_i hw
      rw [hw]
      exact ⟨hid _, hbusy _⟩
    · exact ⟨rfl, rfl⟩
  exact ⟨rfl, rfl, rfl, Nat.le_refl _, fun _ _ hc => hc, fun w => (hsame w).1, fun w => (hsame w).2,
    fun _ _ => rfl, fun _ _ => rfl, fun _ hc => hc, fun _ _ _ hv => hv⟩

theorem container (m : Container) (r : Container.Record) (s : Store σ)
    (happlication : ∀ c, r.application = some c → m.application s = some c) :
    s.Quiet (s.setContainer m r) := by
  refine ⟨rfl, rfl, rfl, Nat.le_refl _, ?_, fun _ => rfl, fun _ => rfl, fun _ _ => rfl,
    fun _ _ => rfl, fun _ hc => hc, fun _ _ _ hv => hv⟩
  intro m' c hc
  rw [Container.application, Store.container, Store.setContainer, Table.get?_insert] at hc
  split at hc
  · rename_i hm
    exact hm ▸ happlication c hc
  · exact hc

theorem newContainer (config : Config) (observers : List Observer) (proxying : Bool)
    (s : Store σ) : s.Quiet (Container.new config observers proxying s).2 :=
  (container ⟨s.nextContainer⟩ { config, observers, proxying } s fun _ hc => by cases hc).trans
    (of_eq rfl rfl rfl rfl rfl rfl rfl)

theorem newContext (kind : ScopeKind) (s : Store σ) : s.Quiet (ScopeContext.new kind s).2 := by
  have hcontext : ∀ x : ScopeContext, (ScopeContext.new kind s).2.context x =
      if x = ⟨s.nextContext⟩ then { kind } else s.context x := by
    intro x
    simp only [ScopeContext.new, Store.context, Store.setContext, Table.get?_insert]
    split <;> rfl
  have hold : ∀ x : ScopeContext, x.number < s.nextContext →
      (ScopeContext.new kind s).2.context x = s.context x := by
    intro x hx
    rw [hcontext, if_neg]
    rintro rfl
    exact Nat.lt_irrefl _ hx
  refine ⟨rfl, rfl, rfl, Nat.le_succ _, fun _ _ hc => hc, fun _ => rfl, fun _ => rfl,
    fun x hx => by rw [hold x hx], fun x hx => by rw [hold x hx], ?_, ?_⟩
  · intro x hx
    rw [hcontext] at hx
    split at hx
    · cases hx
    · exact hx
  · intro x id v hv
    rw [ScopeContext.conversation?, hcontext] at hv
    split at hv
    · cases hv
    · exact hv

end Store.Quiet

variable {host : Host σ} {Inv : Store σ → Prop}

/-- Invariants that quiet steps keep are kept however instances are handled. -/
theorem Host.Tends.handles (h : host.Tends True Inv) (hquiet : ∀ s t, s.Quiet t → Inv s → Inv t) :
    host.Handles fun _ => Inv where
  remarked _ event s hevent hs := by
    refine hquiet _ _ (.note ?_ s) hs
    cases event <;> first | rfl | cases hevent
  destroying _ _ s := hquiet _ _ (.note rfl s)
  create _ unit e _ hs := (show host.Tends True ((fun _ : List Bag => Inv) []) from h).gives
    (fun _ _ s => hquiet _ _ (.note rfl s)) (fun _ _ _ s => hquiet _ _ (.note rfl s)) unit e hs
  restored _ _ s := hquiet _ _ (.note rfl s)
  described _ e f s _ _ := hquiet _ _ (.episode e f s)
  begun _ _ _ _ _ := hquiet _ _ (.of_eq rfl rfl rfl rfl rfl rfl rfl)
  registered _ b s := hquiet _ _ (.episode b.episode _ s)
  unlisted _ e _ _ _ s _ := hquiet _ _ (.episode e _ s)
  stacked _ _ _ _ := hquiet _ _ (.of_eq rfl rfl rfl rfl rfl rfl rfl)
  claimed _ c id s := hquiet _ _ (.claimCell c id s)
  filling _ c id n s := hquiet _ _ (.fillCell c id n _ s)
  filled _ c n b s := hquiet _ _ (.fillCell c b.contextual.id n _ s)
  dropped _ c id n s := hquiet _ _ (.dropCell c id n s)
  discarded _ c n b s :=
    hquiet _ _ ((Store.Quiet.fillCell c _ n (.live b) s).trans (.dropCell c _ n _))
  placed _ c b s :=
    hquiet _ _ ((Store.Quiet.serials (s.nextCell + 1) s).trans (.setCell c b.contextual.id _ _))
  taken _ c id s := hquiet _ _ (.takeEntry c id s)
  tends _ := h

/-- The call neither enters scopes, nor changes whether contexts are active, nor restores any. -/
def Call.isQuiet : Call → Bool
  | .setActive .. | .destroyAll .. | .restoreContext .. => false
  | call => !call.entersScopes

theorem Call.perform_quiet (call : Call) (hcall : call.isQuiet = true) (h : host.Tends True Inv)
    (hquiet : ∀ s t, s.Quiet t → Inv s → Inv t) : Act.Keeps True Inv (call.perform host) := by
  have hhandles := h.handles hquiet
  cases call with
  | newContainer config observers proxying => exact fun s => hquiet _ _ (.newContainer _ _ _ s)
  | register m id unit => exact fun s => hquiet _ _ (.container m _ s fun _ hc => hc)
  | wait span => exact fun s => hquiet _ _ (.of_eq rfl rfl rfl rfl rfl rfl rfl)
  | newEpisode m contextual => exact fun s => hquiet _ _ (.of_eq rfl rfl rfl rfl rfl rfl rfl)
  | wrap m outer unit =>
    cases outer with
    | episode e => exact fun s hs => hs
    | foreign f => exact fun s => hquiet _ _ (.of_eq rfl rfl rfl rfl rfl rfl rfl)
  | describe e change => exact fun s => hquiet _ _ (.episode e _ s)
  | addDependent e unit inst =>
    cases inst with
    | none => exact fun s hs => hs
    | some inst => exact fun s => hquiet _ _ (.episode e (·.register unit inst) s)
  | push e inst => exact fun s hs => (Act.wp_lift _).2 (hhandles.push [] e inst s hs)
  | destroyDependent e inst => exact (hhandles.releaseKeeps e []).toDrainKeeps.destroyDependent inst
  | removeAllDependents e => exact (hhandles.releaseKeeps e []).removeAllDependents
  | release e => exact (hhandles.releaseKeeps e []).release_keeps
  | newContext kind => exact fun s => hquiet _ _ (.newContext kind s)
  | getOrCreate c unit e => exact hhandles.getOrCreate [] c unit e
  | destroy c unit => exact hhandles.destroyUnit [] c unit
  | destroyExisting c unit => exact hhandles.destroyExisting [] c unit
  | removeConversation c id => exact fun s => hquiet _ _ (.removeConversation c id s)
  | promote v =>
    exact fun s => hquiet _ _ (.conversation v (f := fun r => { r with transient := false })
      (fun _ => rfl) (fun _ => rfl) s)
  | demote v =>
    exact fun s => hquiet _ _ (.conversation v (f := fun r => { r with transient := true })
      (fun _ => rfl) (fun _ => rfl) s)
  | setTimeout v timeout =>
    exact fun s => hquiet _ _ (.conversation v (f := fun r => { r with timeout })
      (fun _ => rfl) (fun _ => rfl) s)
  | touch v =>
    exact fun s => hquiet _ _ (.conversation v (f := fun r => { r with lastAccess := s.clock })
      (fun _ => rfl) (fun _ => rfl) s)
  | _ => cases hcall

end ContextualLifecycle
