import ContextualLifecycle.Proofs.Container.Effects
import ContextualLifecycle.Proofs.Container.Undisturbed
import ContextualLifecycle.Proofs.Conversation.Resolution

namespace ContextualLifecycle

variable {σ : Type} {fair : Container → Thread → ScopeContext → Store Unit → Prop}
  {request : Request} {γ γ' : Hand} {s₀ s s' t : Store (Watched library σ)} {m : Container}
  {x : ScopeContext} {v : Conversation} {id : String} {calls : List Call}

def outsideScopes : Rule := fun _ request => request.call.entersScopes = false

theorem Call.finishes.entersScopes {call : Call} {slot : ConversationSlot}
    (h : call.finishes m slot) : call.entersScopes = true := by
  unfold Call.finishes at h
  split at h <;> first | rfl | exact h.elim

theorem Call.leaves.entersScopes {call : Call} {slot : ConversationSlot}
    (h : call.leaves m slot) : call.entersScopes = true := by
  rcases h with hfinishes | ⟨rfl, _⟩
  · exact Call.finishes.entersScopes hfinishes
  · rfl

theorem Call.ends.entersScopes {call : Call} {kind : ScopeKind} (h : call.ends m kind) :
    call.entersScopes = true := by
  unfold Call.ends at h
  split at h <;> first | rfl | exact h.elim

theorem Call.ne_of_outside {call call' : Call} (hscopes : call.entersScopes = false)
    (henters : call'.entersScopes = true) : call ≠ call' := by
  rintro rfl
  exact Bool.false_ne_true (hscopes.symm.trans henters)

section Moves

variable (h : Move fair request γ s γ' s') (hscopes : request.call.entersScopes = false)

include h hscopes

theorem Move.record_or (hv : v.context ∉ γ.restoring.map Prod.fst) :
    s'.conversation v = s.conversation v ∨ request.call.marks? = some v ∧
      (s'.conversation v).id = (s.conversation v).id ∧
      (s'.conversation v).busy = (s.conversation v).busy := by
  have hconverse : ∀ {c : ScopeContext} {kind id timeout}, γ.restoring = (c, kind) :: γ'.restoring →
      (c.converse id timeout s).conversation v = s.conversation v := by
    intro c kind id timeout hpopped
    rw [ScopeContext.conversation_converse, if_neg]
    rintro rfl
    exact hv (by rw [hpopped]; exact List.mem_cons_self)
  cases h with
  | aside h => exact .inl (Store.conversation_congr h.conversations v)
  | @marked _ _ w _ hmarks hid hbusy =>
    rw [Conversation.conversation_update]
    split
    · rename_i heq
      rw [heq]
      exact .inr ⟨hmarks, hid _, hbusy _⟩
    · exact .inl rfl
  | released hcall => exact absurd rfl (Call.ne_of_outside hscopes hcall.entersScopes)
  | finished hcall =>
    exact absurd rfl (Call.ne_of_outside hscopes (Call.finishes.entersScopes hcall))
  | @expired _ _ _ session =>
    exact .inl (Store.conversation_congr session.conversations_takeExpired v)
  | begun hcall | resumed hcall => exact absurd hcall (Call.ne_of_outside hscopes rfl)
  | conversed => exact .inl (hconverse rfl)
  | listed => exact .inl (hconverse rfl)
  | _ => exact .inl rfl

theorem Move.listing_eq (hmade : x.number < s.nextContext)
    (hx : x ∉ γ.restoring.map Prod.fst) (hremoved : request.call ≠ .removeConversation x id)
    (htorn : x ∉ γ.doomed ∧ x ∉ γ.falling) : x.conversation? id s' = x.conversation? id s := by
  refine Option.ext fun v => ⟨fun hv => ?_, fun hv => ?_⟩
  · refine (h.listing hv).resolve_right fun hlists => ?_
    cases hlists with
    | begun hcall => exact Call.ne_of_outside hscopes rfl hcall
    | restored _ hsession hpopped =>
      exact hx (by rw [hpopped]; exact List.mem_cons_of_mem _ hsession)
  · refine (h.loss hmade hv).resolve_right fun htakes => ?_
    cases htakes with
    | removed hcall => exact hremoved hcall
    | finished hcall => exact Call.ne_of_outside hscopes (Call.finishes.entersScopes hcall) rfl
    | expired hcall => exact Call.ne_of_outside hscopes rfl hcall
    | torn hgoing => exact hgoing.elim htorn.1 htorn.2

theorem Move.idle (hdestroy : ∀ c, request.call ≠ .destroyAll c)
    (hidle : γ.doomed = [] ∧ γ.falling = []) : γ'.doomed = [] ∧ γ'.falling = [] := by
  cases h with
  | doomed hcall => exact absurd hcall (hdestroy _)
  | deactivated | spared => cases hidle.1
  | fallen => cases hidle.2
  | emptied hgoing =>
    rw [hidle.1, hidle.2] at hgoing
    rcases hgoing with hin | hin <;> cases hin
  | started hcall | reattached hcall | installed hcall | expired hcall =>
    exact absurd hcall (Call.ne_of_outside hscopes rfl)
  | vacated hcall | unshared hcall =>
    exact absurd rfl (Call.ne_of_outside hscopes (Call.ends.entersScopes hcall))
  | finished hcall =>
    exact absurd rfl (Call.ne_of_outside hscopes (Call.finishes.entersScopes hcall))
  | _ => exact hidle

end Moves

theorem outsideScopes.leaving {within : List Request} {request : Request}
    (h : outsideScopes within request) : leaving none within request := by
  obtain ⟨thread, call⟩ := request
  cases call with
  | setActive c _ | destroyAll c => exact (Option.some_ne_none c).symm
  | restoreContext => trivial
  | _ => first | rfl | cases h

/-- Since some store, the conversations that were made before have kept their names and are in the
hands that they were in. Those that no call has changed or taken out are what and where they
were. -/
structure Spared (calls : List Call) (s₀ s : Store (Watched library σ)) : Prop where
  next : s₀.nextContext ≤ s.nextContext
  id : ∀ v : Conversation, v.context.number < s₀.nextContext →
    (s.conversation v).id = (s₀.conversation v).id
  busy : ∀ v : Conversation, v.context.number < s₀.nextContext →
    (s.conversation v).busy = (s₀.conversation v).busy
  unchanged : ∀ v : Conversation, v.context.number < s₀.nextContext →
    (∀ call ∈ calls, call.marks? ≠ some v) → s.conversation v = s₀.conversation v
  listing : ∀ (x : ScopeContext) id, x.number < s₀.nextContext →
    (∀ call ∈ calls, ¬ call.Unlists x id) → x.conversation? id s = x.conversation? id s₀

namespace Spared

theorem refl (calls : List Call) (s : Store (Watched library σ)) : Spared calls s s :=
  ⟨Nat.le_refl _, fun _ _ => rfl, fun _ _ => rfl, fun _ _ _ => rfl, fun _ _ _ _ => rfl⟩

theorem mono {calls' : List Call} (h : Spared calls s₀ s) (hcalls : calls ⊆ calls') :
    Spared calls' s₀ s :=
  { h with
    unchanged := fun v hv hleft => h.unchanged v hv fun call hin => hleft call (hcalls hin)
    listing := fun x id hx hleft => h.listing x id hx fun call hin => hleft call (hcalls hin) }

theorem steady (h : Spared calls s₀ s) (hcontexts : t.contexts = s.contexts)
    (hconversations : t.conversations = s.conversations) (hnext : t.nextContext = s.nextContext) :
    Spared calls s₀ t := by
  have hconversation := Store.conversation_congr hconversations
  refine ⟨hnext ▸ h.next, fun v hv => ?_, fun v hv => ?_, fun v hv hleft => ?_,
    fun x id hx hleft => ?_⟩
  · rw [hconversation, h.id v hv]
  · rw [hconversation, h.busy v hv]
  · rw [hconversation, h.unchanged v hv hleft]
  · rw [ScopeContext.conversation?_congr hcontexts, h.listing x id hx hleft]

end Spared

/-- A request restores contexts that are new since some store, and tears contexts down only on
demand. -/
structure Hand.Spares (request : Request) (s₀ : Store (Watched library σ)) (γ : Hand) : Prop where
  restoring : ∀ c kind, (c, kind) ∈ γ.restoring → s₀.nextContext ≤ c.number
  idle : (∀ c, request.call ≠ .destroyAll c) → γ.doomed = [] ∧ γ.falling = []

theorem Hand.Spares.not_restoring (h : γ.Spares request s₀) (hx : x.number < s₀.nextContext) :
    x ∉ γ.restoring.map Prod.fst := by
  intro hin
  obtain ⟨⟨_, kind⟩, hpair, rfl⟩ := List.mem_map.1 hin
  exact Nat.lt_irrefl _ (Nat.lt_of_lt_of_le hx (h.restoring _ kind hpair))

theorem Move.spares (h : Move fair request γ s γ' s') (hscopes : request.call.entersScopes = false)
    (hcall : request.call ∈ calls) (hs : Spared calls s₀ s) (hγ : γ.Spares request s₀) :
    Spared calls s₀ s' ∧ γ'.Spares request s₀ := by
  have hrecord := fun (v : Conversation) (hv : v.context.number < s₀.nextContext) =>
    h.record_or hscopes (hγ.not_restoring hv)
  refine ⟨⟨Nat.le_trans hs.next h.next, fun v hv => ?_, fun v hv => ?_, fun v hv hleft => ?_,
    fun x id hx hleft => ?_⟩, fun c kind hin => ?_, fun hdestroy => ?_⟩
  · obtain heq | ⟨_, hid, _⟩ := hrecord v hv
    · rw [heq, hs.id v hv]
    · rw [hid, hs.id v hv]
  · obtain heq | ⟨_, _, hbusy⟩ := hrecord v hv
    · rw [heq, hs.busy v hv]
    · rw [hbusy, hs.busy v hv]
  · obtain heq | ⟨hmarks, _⟩ := hrecord v hv
    · rw [heq, hs.unchanged v hv hleft]
    · exact absurd hmarks (hleft _ hcall)
  · have hkept := hleft _ hcall
    obtain ⟨hdoomed, hfalling⟩ := hγ.idle fun c heq => hkept (.inr ⟨c, heq⟩)
    refine (h.listing_eq hscopes (Nat.lt_of_lt_of_le hx hs.next) (hγ.not_restoring hx)
      (fun heq => hkept (.inl heq)) ?_).trans (hs.listing x id hx hleft)
    rw [hdoomed, hfalling]
    exact ⟨List.not_mem_nil, List.not_mem_nil⟩
  · obtain hbefore | ⟨_, rfl, _⟩ := h.restoring_or hin
    · exact hγ.restoring c kind hbefore
    · exact hs.next
  · exact h.idle hscopes hdestroy (hγ.idle hdestroy)

def Sighting.call? : Sighting library → Option Call
  | .call request .. => some request.call
  | .moment _ => none

/-- Since something was seen, conversations were spared but for what was seen of calls, and what
calls in progress do. -/
def SparedSince (earlier : List (Sighting library)) (s₀ : Store (Watched library σ))
    (within : List Request) (t : Store (Watched library σ)) : Prop :=
  ∃ later, t.seen = later ++ earlier ∧
    Spared (later.filterMap Sighting.call? ++ within.map (·.call)) s₀ t

/-- Programs outside of scopes spare the conversations that they do not handle themselves. -/
theorem Program.run_spares (supply : Supply σ) (p : Program library σ) {within : List Request}
    (hobeys : p.Obeys outsideScopes within) (earlier : List (Sighting library))
    (s₀ : Store (Watched library σ)) :
    Act.Keeps True (SparedSince earlier s₀ within) (p.run supply) := by
  refine Program.run_keeps_within (ι := Unit) (fun _ within s => SparedSince earlier s₀ within s)
    supply ?_ ?_ ?_ p within hobeys ()
  · rintro _ within s ⟨later, hseen, hs⟩
    exact ⟨.moment s.bare :: later, congrArg _ hseen, hs.steady rfl rfl rfl⟩
  · rintro _ within own s ⟨later, hseen, hs⟩
    exact ⟨later, hseen, hs.steady rfl rfl rfl⟩
  · intro meanwhile within request hscopes hmeanwhile _ s ⟨later, hseen, hs⟩
    have hmoves : Host.Moves { supply.hostOf meanwhile with thread := request.thread }
        (fun _ _ _ _ => True) request fun γ t =>
          SparedSince earlier s₀ (request :: within) t ∧ γ.Spares request s₀ := by
      refine ⟨rfl, ?_, fun γ => ?_⟩
      · rintro γ u γ' u' hmove ⟨⟨later, hseen, hu⟩, hγ⟩
        obtain ⟨hu', hγ'⟩ := hmove.spares hscopes
          (List.mem_append_right _ List.mem_cons_self) hu hγ
        exact ⟨⟨later, hmove.seen.trans hseen, hu'⟩, hγ'⟩
      · refine (supply.watched.host_keeps fun cb u hu => ?_).on request.thread
        exact (hmeanwhile () cb u hu.1).mono fun _ _ ht => ⟨ht, hu.2⟩
    have hasked : SparedSince earlier s₀ (request :: within) s := by
      refine ⟨later, hseen, hs.mono fun call hin => ?_⟩
      rcases List.mem_append.1 hin with hin | hin
      · exact List.mem_append_left _ hin
      · exact List.mem_append_right _ (List.mem_cons_of_mem _ hin)
    have hhand : ({} : Hand).Spares request s₀ :=
      ⟨fun _ _ hin => (by cases hin), fun _ => ⟨rfl, rfl⟩⟩
    apply (hmoves.perform (fun _ _ _ _ _ => trivial) ⟨hasked, hhand⟩).mono
    rintro answer t ⟨⟨later, hseen, ht⟩, _⟩
    refine ⟨.call request s.bare answer t.bare :: later, congrArg _ hseen, ?_⟩
    refine (ht.mono fun call hin => ?_).steady rfl rfl rfl
    change call ∈ request.call :: (later.filterMap Sighting.call? ++ within.map (·.call))
    exact List.perm_middle.subset hin

end ContextualLifecycle
