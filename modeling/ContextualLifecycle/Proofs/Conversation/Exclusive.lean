import ContextualLifecycle.Proofs.Conversation.Slots
import Mathlib.Logic.ExistsUnique

namespace ContextualLifecycle

variable {σ : Type}

/-- The conversations that are busy are those in exactly one slot, and none is in two. -/
structure Store.Exclusive (s : Store σ) : Prop where
  busy_iff : ∀ v, (s.conversation v).busy = true ↔ ∃! desk : Desk, desk.Holds v s
  alone : ∀ (desk desk' : Desk) v, desk.Holds v s → desk'.Holds v s → desk = desk'

/-- Within a request to its scopes a thread makes no other one. -/
def noReentry : Rule := fun within request => request.call.entersScopes = true →
  ∀ r ∈ within, r.call.entersScopes = true → r.thread ≠ request.thread

/-- Where a process can come to, request by request, from the beginning. -/
inductive Reaches (supply : Supply σ) : Store (Watched library σ) → Prop where
  | start (own : σ) : Reaches supply (Store.watched { surroundings := own })
  | keep {s : Store (Watched library σ)} (own : σ) : Reaches supply s → Reaches supply (s.keep own)
  | step {s t : Store (Watched library σ)} (request : Request)
      (meanwhile : Callback → Program library σ)
      {answer : Except LifecycleError (library.Answer request)} : Reaches supply s →
      (∀ cb, (meanwhile cb).Obeys noReentry [request]) →
      (library.perform (supply.hostOf meanwhile) request).run.run s = some (answer, t) →
      Reaches supply t

def entered (within : List Request) : List Thread :=
  (within.filter (·.call.entersScopes)).map (·.thread)

variable {still : List Thread} {s t : Store (Watched library σ)}

theorem evolves_keep (own : σ) (s : Store (Watched library σ)) : Evolves still s (s.keep own) :=
  (calm_of_eq rfl rfl rfl rfl rfl : s.Calm (s.keep own)).evolves still

theorem evolves_saw {sighting : Sighting library}
    (h : ∀ u, sighting = .moment u → s.Apart → u.Apart) : Evolves still s (s.saw sighting) where
  tally hand hs := by
    refine ⟨hs.busy_iff, hs.alone, hs.free, hs.nodup, hs.issued, hs.listed, ?_⟩
    intro u hu
    rcases List.mem_cons.1 hu with heq | hu
    · exact h u heq.symm hs.apart
    · exact hs.watched u hu
  unlisted _ hv := ⟨hv.issued, hv.free, hv.absent⟩
  slots _ _ _ := rfl
  next := Nat.le_refl _

theorem evolves_sawMoment (s : Store (Watched library σ)) : Evolves still s s.sawMoment := by
  apply evolves_saw
  rintro _ ⟨⟩ hs
  exact ⟨hs.busy, hs.alone⟩

/-- A request keeps the account of conversations, if the callbacks do that run meanwhile. -/
theorem request_evolves {supply : Supply σ} {meanwhile : Callback → Program library σ}
    {within : List Request} {request : Request} (hrule : noReentry within request)
    (hmeanwhile : ∀ s cb, Act.Keeps True (Tallied (entered (request :: within)) s)
      ((meanwhile cb).run supply)) :
    Act.Evolves (entered within) (library.perform (supply.hostOf meanwhile) request) := by
  let host : Host (Watched library σ) := { supply.hostOf meanwhile with thread := request.thread }
  have hserves : host.Serves (entered (request :: within)) :=
    fun s => (supply.watched.host_keeps (hmeanwhile s)).on request.thread
  cases hcall : request.call.entersScopes with
  | false =>
    have hentered : entered (request :: within) = entered within := by simp [entered, hcall]
    rw [hentered] at hserves
    exact request.call.perform_keeps hcall hserves
  | true =>
    have hentered : entered (request :: within) = request.thread :: entered within := by
      simp [entered, hcall]
    rw [hentered] at hserves
    apply request.call.perform_entering hcall hserves
    intro hin
    obtain ⟨r, hr, hthread⟩ := List.mem_map.1 hin
    obtain ⟨hwithin, hentered⟩ := List.mem_filter.1 hr
    exact hrule hcall r hwithin hentered hthread

theorem Program.run_evolves (supply : Supply σ) (p : Program library σ) (within : List Request)
    (hobeys : p.Obeys noReentry within) (s : Store (Watched library σ)) :
    Act.Keeps True (Tallied (entered within) s) (p.run supply) := by
  refine Program.run_keeps_within (fun s within => Tallied (entered within) s) supply ?_ ?_ ?_ p
    within hobeys s
  · exact fun _ _ t ht => ht.trans (evolves_sawMoment t)
  · exact fun _ _ own t ht => ht.trans (evolves_keep own t)
  · intro meanwhile within request hrule hmeanwhile i s hs
    obtain ⟨hand, hnow⟩ := hs.now
    apply (request_evolves hrule hmeanwhile s hand hnow).mono
    intro answer t ht
    exact hs.trans (ht.trans (evolves_saw fun _ heq => by cases heq))

theorem tally_start (own : σ) :
    Tally [] (Store.watched { surroundings := own } : Store (Watched library σ)) where
  busy_iff v := by
    have hidle : ¬ ∃ desk : Desk, desk.Holds v
        (Store.watched { surroundings := own } : Store (Watched library σ)) := by
      rintro ⟨desk, hdesk⟩
      cases hdesk
    exact ⟨fun hbusy => (by cases hbusy), fun hheld => absurd hheld (by simpa using hidle)⟩
  alone _ _ _ h := by cases h
  free _ h := by cases h
  nodup := .nil
  issued _ h := by cases h
  listed _ _ _ h := by cases h
  watched _ h := by cases h

theorem Reaches.tally {supply : Supply σ} (h : Reaches supply s) : Tally [] s := by
  induction h with
  | start own => exact tally_start own
  | keep own _ ih => exact (evolves_keep own _ : Evolves [] _ _).tally [] ih
  | @step s t request meanwhile answer _ hobeys hrun ih =>
    have hrule : noReentry [] request := fun _ r hr => by cases hr
    have hevolves := request_evolves hrule
      (fun s cb => (meanwhile cb).run_evolves supply [request] (hobeys cb) s) s [] ih
    exact ((Act.wp_of_run hrun).1 hevolves).tally [] ih

theorem Tally.exclusive (h : Tally [] s) : s.Exclusive where
  busy_iff v := by
    rw [h.busy_iff v]
    refine ⟨?_, fun ⟨desk, hdesk, _⟩ => .inl ⟨desk, hdesk⟩⟩
    rintro (⟨desk, hdesk⟩ | hin)
    · exact ⟨desk, hdesk, fun desk' hdesk' => h.alone desk' desk v hdesk' hdesk⟩
    · cases hin
  alone := h.alone

/-- Wherever a process comes to, each conversation is busy if and only if exactly one slot holds it,
and no two slots hold the same one, nor did they at any moment within a request. -/
theorem conversations_exclusive (supply : Supply σ) (s : Store (Watched library σ))
    (h : Reaches supply s) : s.Exclusive ∧ ∀ u, .moment u ∈ s.seen → u.Apart :=
  ⟨h.tally.exclusive, h.tally.watched⟩

/-- Where requests lead one after the other, each with what goes on within it. -/
def Supply.course (supply : Supply σ) (steps : List (Request × (Callback → Program library σ))) :
    Store (Watched library σ) → Option (Store (Watched library σ)) :=
  steps.foldlM fun s x => ((library.perform (supply.hostOf x.2) x.1).run.run s).map Prod.snd

theorem Reaches.course {supply : Supply σ}
    {steps : List (Request × (Callback → Program library σ))} (h : Reaches supply s)
    (hobeys : ∀ x ∈ steps, ∀ cb, (x.2 cb).Obeys noReentry [x.1])
    (hrun : supply.course steps s = some t) : Reaches supply t := by
  unfold Supply.course at hrun
  induction steps generalizing s with
  | nil =>
    cases hrun
    exact h
  | cons x steps ih =>
    rw [List.foldlM_cons] at hrun
    obtain ⟨next, hnext, hrest⟩ := Option.bind_eq_some_iff.1 hrun
    obtain ⟨o, ho, rfl⟩ := Option.map_eq_some_iff.1 hnext
    exact ih (.step x.1 x.2 h (hobeys x List.mem_cons_self) ho)
      (fun y hy => hobeys y (List.mem_cons_of_mem x hy)) hrest

/-- The hypothesis holds where two containers share a session. The first holds a conversation that
the second is refused, and gives it up while an observer hears of the other one that the second
gets. -/
theorem conversations_exclusive_shared :
    let supply : Supply Unit := Supply.numbered ⟨"main"⟩
    let a : Thread := ⟨"a"⟩
    let b : Thread := ⟨"b"⟩
    let quiet : Callback → Program library Unit := fun _ => .done
    let steps : List (Request × (Callback → Program library Unit)) := [
      (⟨a, .newContainer {} [] false⟩, quiet),
      (⟨b, .newContainer {} [.listener ⟨1⟩] false⟩, quiet),
      (⟨a, .start ⟨1⟩ .session {}⟩, quiet),
      (⟨a, .start ⟨1⟩ .conversation {}⟩, quiet),
      (⟨a, .current ⟨1⟩ .conversation⟩, quiet),
      (⟨a, .promote ⟨⟨2⟩⟩⟩, quiet),
      (⟨b, .start ⟨2⟩ .session { session := some ⟨1⟩ }⟩, quiet),
      (⟨b, .start ⟨2⟩ .conversation { conversationId := some "1" }⟩, quiet),
      (⟨b, .current ⟨2⟩ .conversation⟩,
        fun _ => .call (⟨a, .detach ⟨1⟩ .conversation⟩ : Request) quiet fun _ => .done)]
    ∃ s, supply.course steps (Store.watched { surroundings := () }) = some s ∧
      Reaches supply s ∧ Desk.Holds (⟨2⟩, b) ⟨⟨3⟩⟩ s ∧
      (s.conversation ⟨⟨2⟩⟩).busy = false ∧ (s.conversation ⟨⟨3⟩⟩).busy = true ∧
      s.Exclusive ∧ ∀ u, .moment u ∈ s.seen → u.Apart := by
  intro supply a b quiet steps
  have hseen : (supply.course steps (Store.watched { surroundings := () })).map
      (fun s => (Container.currentConversation ⟨2⟩ b s,
      (s.conversation ⟨⟨2⟩⟩).busy, (s.conversation ⟨⟨3⟩⟩).busy)) =
      some (some ⟨⟨3⟩⟩, false, true) := by
    decide +kernel
  obtain ⟨s, hrun, hs⟩ := Option.map_eq_some_iff.1 hseen
  have hobeys : ∀ x ∈ steps, ∀ cb, (x.2 cb).Obeys noReentry [x.1] := by
    simp [steps, quiet, Program.Obeys, noReentry, Call.entersScopes, a, b]
  have hreaches : Reaches supply s := (Reaches.start ()).course hobeys hrun
  obtain ⟨hheld, hfree, hbusy⟩ : _ ∧ _ ∧ _ := by simpa using hs
  exact ⟨s, hrun, hreaches, hheld, hfree, hbusy, conversations_exclusive supply s hreaches⟩

end ContextualLifecycle
