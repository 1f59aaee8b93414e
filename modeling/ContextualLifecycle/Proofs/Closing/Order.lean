import ContextualLifecycle.Proofs.Closing.Complete
import ContextualLifecycle.Proofs.Container.Confined
import ContextualLifecycle.Proofs.Container.Keyed
import ContextualLifecycle.Proofs.Conversation.Nesting

namespace ContextualLifecycle

variable {σ : Type}

/-- Every cell has a serial that was given out. -/
def Store.Numbered (s : Store σ) : Prop :=
  ∀ (c : ScopeContext) id cell, (s.context c).entries.get? id = some cell →
    cell.serial < s.nextCell

namespace Store.Numbered

variable {s t : Store σ}

theorem sheds (h : s.Numbered) (hst : s.Sheds t) : t.Numbered :=
  fun c id cell hcell => Nat.lt_of_lt_of_le (h c id cell (hst.cells c id cell hcell)) hst.serials

theorem setCell {c : ScopeContext} {id : ContextualId} {cell : Cell} (h : s.Numbered)
    (hserial : cell.serial < s.nextCell ∨ (s.context c).holds id cell.serial = true) :
    (c.setCell id cell s).Numbered := by
  have hgiven : cell.serial < s.nextCell := by
    rcases hserial with hlt | hholds
    · exact hlt
    · obtain ⟨old, hold, heq⟩ := (Option.any_eq_true _ _).1 hholds
      rw [← eq_of_beq heq]
      exact h c id old hold
  intro x y found hfound
  rw [ScopeContext.setCell, ScopeContext.context_update_eq] at hfound
  split at hfound
  · rw [Table.get?_insert] at hfound
    split at hfound
    · cases hfound
      exact hgiven
    · exact h c y found hfound
  · exact h x y found hfound

end Store.Numbered

/-- At every moment of a run, within callbacks too, cells have serials that were given out. -/
theorem Program.numbered (supply : Supply σ) (own : σ) (p : Program library σ)
    {r : Except LifecycleError Unit} {t : Store (Watched library σ)}
    (h : (p.run supply).run.run (Store.watched { surroundings := own }) = some (r, t))
    {u : Store Unit} (hu : .moment u ∈ t.seen) : u.Numbered :=
  Program.moments_of_cells (fun _ _ hst hs => hs.sheds hst)
    (fun _ _ _ _ hserial _ hs => hs.setCell hserial) supply own p
    (fun _ _ _ hcell => by cases hcell) h hu

def ScopeContext.Relisted (x : ScopeContext) (s t : Store σ) : Prop :=
  ∃ conversations, t.context x = { s.context x with conversations }

namespace ScopeContext.Relisted

variable {s t : Store σ} {c x : ScopeContext}

theorem of_eq (h : t.context x = s.context x) : x.Relisted s t := ⟨(s.context x).conversations, h⟩

theorem refl (x : ScopeContext) (s : Store σ) : x.Relisted s s := of_eq rfl

theorem update {f : Record → Record} (h : x.Relisted s t) (hx : x ≠ c) :
    x.Relisted s (c.update f t) := by
  obtain ⟨conversations, ht⟩ := h
  exact ⟨conversations, (context_update_of_ne hx f t).trans ht⟩

theorem setActive (h : x.Relisted s t) (hx : x ≠ c) (active : Bool) :
    x.Relisted s (c.setActive active t) :=
  h.update hx

theorem relist (f : Table String Conversation → Table String Conversation)
    (h : x.Relisted s t) (c : ScopeContext) :
    x.Relisted s (c.update (fun r => { r with conversations := f r.conversations }) t) := by
  by_cases hx : x = c
  · obtain ⟨conversations, ht⟩ := h
    refine ⟨f conversations, ?_⟩
    rw [← hx, context_update, ht]
  · exact h.update hx

theorem new (hx : x ≠ ⟨s.nextContext⟩) (kind : ScopeKind) : x.Relisted s (new kind s).2 :=
  of_eq ((context_new_eq kind x s).trans (if_neg hx))

theorem place {m : Container} {thread : Thread} {kind : ScopeKind} {opened : ScopeContext × Store σ}
    (h : x.Relisted s opened.2) (hx : x ≠ opened.1) : x.Relisted s (m.place thread kind opened) :=
  h.setActive hx true

theorem converse (hx : x ≠ c) (id : String) (timeout : Duration) :
    x.Relisted s (c.converse id timeout s) :=
  (refl x s).setActive hx true

theorem takeExpired (c x : ScopeContext) (s : Store σ) : x.Relisted s (c.takeExpired s).2 := by
  obtain ⟨conversations, heq⟩ := c.context_takeExpired x s
  refine ⟨if x = c then conversations else (s.context x).conversations, ?_⟩
  rw [heq]
  split
  · rename_i hx
    rw [hx]
  · rfl

end ScopeContext.Relisted

section Moves

variable {fair : Container → Thread → ScopeContext → Store Unit → Prop} {request : Request}
  {γ γ' : Hand} {s s' : Store (Watched library σ)} {x : ScopeContext}

theorem Container.relisted_beginning (m : Container) (session : ScopeContext)
    (hx : x ≠ ⟨s.nextContext⟩) : x.Relisted s (m.beginning session s).2 := by
  obtain ⟨conversations, heq⟩ := m.context_beginning_eq session x (s := s)
  rw [if_neg hx] at heq
  exact ⟨conversations, heq⟩

/-- A context stays as it is, but for the list of its conversations, if it is not made in the move,
and the request does not name it and does not have it in hand. -/
theorem Move.relisted (h : Move fair request γ s γ' s')
    (hmade : x.number < s.nextContext ∨ s'.nextContext ≤ x.number)
    (hcall : x ∉ request.call.contexts) (hdoomed : x ∉ γ.doomed) (hfalling : x ∉ γ.falling)
    (hrestoring : x ∉ γ.restoring.map Prod.fst) : x.Relisted s s' := by
  have hold : s'.nextContext = s.nextContext + 1 → x ≠ ⟨s.nextContext⟩ := by
    rintro hnext rfl
    simp only [hnext] at hmade
    omega
  have hnamed : ∀ {call : Call} {c : ScopeContext}, request.call = call → c ∈ call.contexts →
      x ≠ c := by
    rintro _ c rfl hc rfl
    exact hcall hc
  have hpopped : ∀ {c : ScopeContext} {kind : ScopeKind}, (c, kind) ∈ γ.restoring → x ≠ c := by
    rintro c kind hc rfl
    exact hrestoring (List.mem_map_of_mem hc)
  cases h with
  | aside h => exact .of_eq (Store.context_congr h.contexts x)
  | entered hc =>
    refine (ScopeContext.Relisted.refl x s).update ?_
    rintro rfl
    rcases hc with hasks | hin | hin
    · exact hcall (Call.mem_contexts_of_asksOf hasks)
    · exact hfalling hin
    · exact hrestoring hin
  | opened | reviving => exact .new (hold rfl) _
  | switched hcall =>
    exact (ScopeContext.Relisted.refl x s).setActive (hnamed hcall (List.mem_singleton_self _)) _
  | removed => exact (ScopeContext.Relisted.refl x s).relist (·.erase _) _
  | deactivated =>
    refine (ScopeContext.Relisted.refl x s).setActive ?_ false
    rintro rfl
    exact hdoomed List.mem_cons_self
  | emptied => exact (ScopeContext.Relisted.refl x s).relist (fun _ => ∅) _
  | @started _ _ _ kind =>
    have hopened : x.Relisted s (ScopeContext.new kind s).2 := .new (hold rfl) kind
    exact hopened.place (hold rfl)
  | @reattached _ _ params c hcall hsession =>
    obtain ⟨_, session⟩ := params
    cases hsession
    exact (ScopeContext.Relisted.refl x s).place (hnamed hcall (List.mem_singleton_self c))
  | installed => exact (ScopeContext.Relisted.refl x s).place (hpopped List.mem_cons_self)
  | shared =>
    have hopened : x.Relisted s (ScopeContext.new .application s).2 := .new (hold rfl) _
    exact hopened.setActive (hold rfl) true
  | @finished _ _ m slot v session =>
    exact (ScopeContext.Relisted.refl x s).relist (·.erase (s.conversation v).id) session
  | expired => exact .takeExpired _ x s
  | @begun _ _ m session =>
    refine m.relisted_beginning session (hold ?_)
    rw [Container.beginning, Conversation.tryAcquire]
    split <;> rfl
  | resumed =>
    refine .of_eq ?_
    rw [Conversation.tryAcquire]
    split <;> rfl
  | conversed => exact .converse (hpopped List.mem_cons_self) _ _
  | @listed _ _ c session _ id timeout =>
    have hconversed : x.Relisted s (c.converse id timeout s) :=
      .converse (hpopped List.mem_cons_self) id timeout
    exact hconversed.relist (·.insert id ⟨c⟩) session
  | _ => exact .refl x s

end Moves

def Request.NamesMade (request : Request) (before : Store Unit) : Prop :=
  ∀ c ∈ request.call.contexts, c.number < before.nextContext

theorem Request.NamesMade.fair {request : Request} {before : Store Unit}
    (h : request.NamesMade before) : request.Fair Container.ReattachesMade before := by
  rintro m ⟨_, session⟩ c hcall hsession
  cases hsession
  refine h c ?_
  rw [hcall]
  exact List.mem_singleton_self c

theorem Store.inOrder_bare {u : Store (Watched library σ)} : u.bare.InOrder ↔ u.InOrder :=
  ⟨fun h => ⟨⟨h.issued.cell, h.issued.active⟩, h.attached, h.listed, h.apart⟩,
    fun h => ⟨⟨h.issued.cell, h.issued.active⟩, h.attached, h.listed, h.apart⟩⟩

namespace Situation

variable {rule : Rule} {request : Request} {γ γ' : Hand} {rest : List Errand}
  {s₀ s s' : Store (Watched library σ)} {a b : Situation σ}

/-- A context that was not made yet is blank and is shared by no container. Requests in progress
name only contexts that were made, and tear down no other ones. -/
structure Grounded (s₀ : Store (Watched library σ)) (a : Situation σ) : Prop where
  ordered : a.Ordered s₀
  blank : ∀ x : ScopeContext, a.store.nextContext ≤ x.number →
    (a.store.context x).active = false ∧ (a.store.context x).entries = ∅
  shared : ∀ (m : Container) c, m.application a.store = some c → c.number < a.store.nextContext
  named : ∀ errand ∈ a.errands, ∀ c ∈ errand.request.call.contexts,
    c.number < a.store.nextContext
  going : ∀ errand ∈ a.errands, ∀ c, c ∈ errand.hand.doomed ∨ c ∈ errand.hand.falling →
    c.number < a.store.nextContext

theorem Grounded.inOrder (h : a.Grounded s₀) (hnumbered : a.store.Numbered) :
    a.store.InOrder where
  issued := {
    cell := by
      intro c id cell hcell
      refine ⟨hnumbered c id cell hcell, Nat.lt_of_not_le fun hfresh => ?_⟩
      rw [(h.blank c hfresh).2] at hcell
      cases hcell
    active := by
      intro c hactive
      refine Nat.lt_of_not_le fun hfresh => ?_
      rw [(h.blank c hfresh).1] at hactive
      cases hactive }
  attached m thread kind c hc := by
    rw [Container.attached] at hc
    split at hc
    · exact h.shared m c hc
    · exact h.ordered.catalogued.known.attached m thread kind c hc
  listed := h.ordered.nested.made
  apart c c' id id' v hv hv' := (h.ordered.nested.home c c' id id' v hv hv').symm

section Moved

variable (h : Grounded s₀ ⟨⟨request, γ⟩ :: rest, s⟩)
  (hmove : Move Container.ReattachesMade request γ s γ' s')

include h hmove

theorem Grounded.blank_moved {x : ScopeContext} (hx : s'.nextContext ≤ x.number) :
    (s'.context x).active = false ∧ (s'.context x).entries = ∅ := by
  have hfresh : s.nextContext ≤ x.number := Nat.le_trans hmove.next hx
  have hout : ¬ x.number < s.nextContext := Nat.not_lt_of_le hfresh
  have hrestoring : x ∉ γ.restoring.map Prod.fst := fun hin =>
    hout (h.ordered.catalogued.filed.apart x (mem_restoring.2 (.inl hin))).2.1
  obtain ⟨_, heq⟩ := hmove.relisted (.inr hx)
    (fun hin => hout (h.named _ List.mem_cons_self x hin))
    (fun hin => hout (h.going _ List.mem_cons_self x (.inl hin)))
    (fun hin => hout (h.going _ List.mem_cons_self x (.inr hin))) hrestoring
  rw [heq]
  exact h.blank x hfresh

theorem Grounded.shared_moved {m : Container} {c : ScopeContext}
    (hc : m.application s' = some c) : c.number < s'.nextContext := by
  obtain hbefore | ⟨_, _, hnew, hshared⟩ := hmove.application_or hc
  · exact Nat.lt_of_lt_of_le (h.shared m c hbefore) hmove.next
  · rw [hshared, hnew]
    exact Nat.lt_succ_self _

theorem Grounded.going_moved {c : ScopeContext} (hc : c ∈ γ'.doomed ∨ c ∈ γ'.falling) :
    c.number < s'.nextContext := by
  refine Nat.lt_of_lt_of_le ?_ hmove.next
  have hbefore := h.going _ List.mem_cons_self c
  rcases hc with hdoomed | hfalling
  · obtain hdoomed | hdooms := hmove.dooms_or hdoomed
    · exact hbefore (.inl hdoomed)
    cases hdooms with
    | asked hcall =>
      refine h.named _ List.mem_cons_self c ?_
      rw [hcall]
      exact List.mem_singleton_self c
    | detached spot hspot =>
      cases spot with
      | slot m thread kind => exact h.ordered.catalogued.known.attached m thread kind c hspot
      | shared m => exact h.shared m c hspot
    | unlisted session id hlisted => exact h.ordered.nested.made session id ⟨c⟩ hlisted
    | released hheld => exact h.ordered.manned.made ⟨c⟩ _ (.inl ⟨_, _, hheld⟩)
  · exact hbefore (hmove.falls hfalling).symm

end Moved

theorem Grounded.step (h : a.Grounded s₀) (hstep : Step rule Container.ReattachesMade a b)
    (hasked : ∀ request, b.errands = ⟨request, {}⟩ :: a.errands →
      request.NamesMade a.store.bare) : b.Grounded s₀ := by
  have hordered := h.ordered.step (fun _ _ _ _ hmade => hmade) hstep
  cases hstep with
  | moved hmove =>
    refine ⟨hordered, fun x => h.blank_moved hmove, fun m c => h.shared_moved hmove, ?_, ?_⟩
    · intro errand hin c hc
      refine Nat.lt_of_lt_of_le ?_ hmove.next
      rcases List.mem_cons.1 hin with rfl | hin
      · exact h.named _ List.mem_cons_self c hc
      · exact h.named errand (.tail _ hin) c hc
    · intro errand hin c hc
      rcases List.mem_cons.1 hin with rfl | hin
      · exact h.going_moved hmove hc
      · exact Nat.lt_of_lt_of_le (h.going errand (.tail _ hin) c hc) hmove.next
  | asked =>
    refine ⟨hordered, h.blank, h.shared, ?_, ?_⟩
    · intro errand hin c hc
      rcases List.mem_cons.1 hin with rfl | hin
      · exact hasked _ rfl c hc
      · exact h.named errand hin c hc
    · intro errand hin c hc
      rcases List.mem_cons.1 hin with rfl | hin
      · rcases hc with hc | hc <;> cases hc
      · exact h.going errand hin c hc
  | answered =>
    exact ⟨hordered, h.blank, h.shared, fun errand hin => h.named errand (.tail _ hin),
      fun errand hin => h.going errand (.tail _ hin)⟩
  | noticed | kept => exact ⟨hordered, h.blank, h.shared, h.named, h.going⟩

theorem grounded_start (own : σ) :
    (start own).Grounded (Store.watched { surroundings := own }) where
  ordered := ordered_start own
  blank _ _ := ⟨rfl, rfl⟩
  shared _ _ hc := nomatch hc
  named _ hin := nomatch hin
  going _ hin := nomatch hin

end Situation

section Order

variable (supply : Supply σ) (own : σ) (p : Program library σ)
  {r : Except LifecycleError Unit} {t : Store (Watched library σ)}
  (h : (p.run supply).run.run (Store.watched { surroundings := own }) = some (r, t))
  (hnamed : ∀ x ∈ t.seen, x.Meets Request.NamesMade)

include h hnamed

/-- If callers name no contexts but those that were made before, the store is in order at every
moment of a run, within callbacks too. -/
theorem Program.inOrder {u : Store Unit} (hu : .moment u ∈ t.seen) : u.InOrder := by
  let s₀ : Store (Watched library σ) := Store.watched { surroundings := own }
  let P : Situation σ → Prop := fun a => a.Grounded s₀ ∧
    ∀ u : Store Unit, .moment u ∈ a.store.seen → u.Numbered → u.InOrder
  have hstep : ∀ a b : Situation σ, Step (fun _ _ => True) Container.ReattachesMade a b →
      (∀ request, b.errands = ⟨request, {}⟩ :: a.errands → request.NamesMade a.store.bare) →
      P a → P b := by
    rintro a b hstep hasked ⟨hgrounded, hseen⟩
    refine ⟨hgrounded.step hstep hasked, fun u hu hnumbered => ?_⟩
    obtain hsame | ⟨x, hx⟩ := hstep.seen
    · exact hseen u (hsame ▸ hu) hnumbered
    · rw [hx] at hu
      rcases List.mem_cons.1 hu with rfl | hu
      · obtain ⟨hmoment, _⟩ | ⟨_, _, _, _, _, hcall, _⟩ := hstep.sees hx
        · cases hmoment
          exact Store.inOrder_bare.2 (hgrounded.inOrder hnumbered)
        · cases hcall
      · exact hseen u hu hnumbered
  have hrun := Program.run_situations (fun _ _ hrequest => hrequest.fair) hstep supply p []
    (p.obeys_of_forall (fun _ _ => trivial) []) [] rfl
  have hstart : P (.start own) := ⟨Situation.grounded_start own, fun _ hu => nomatch hu⟩
  have hend := (Act.wp_of_run h).1 (hrun _ fun _ => hstart) hnamed
  exact hend.2 u hu (p.numbered supply own h hu)

theorem Program.inOrder_end : t.InOrder :=
  Store.inOrder_bare.1 (p.inOrder supply own h hnamed ((Act.wp_of_run h).1 (p.saw_end supply _)))

end Order

end ContextualLifecycle
