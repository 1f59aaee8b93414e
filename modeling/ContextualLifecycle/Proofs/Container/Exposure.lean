import ContextualLifecycle.Proofs.Container.Alive
import ContextualLifecycle.Proofs.Container.Beginnings

namespace ContextualLifecycle

variable {σ : Type}

/-- The situations of a run, from the first one on, the latest first. -/
inductive Trail (rule : Rule) (fair : Container → Thread → ScopeContext → Store Unit → Prop)
    (first : Situation σ) : List (Situation σ) → Prop
  | start : Trail rule fair first [first]
  | step {a b past} (h : Trail rule fair first (a :: past)) (hstep : Step rule fair a b) :
      Trail rule fair first (b :: a :: past)

variable {rule : Rule} {fair : Container → Thread → ScopeContext → Store Unit → Prop}
  {a b first : Situation σ} {past way : List (Situation σ)}

theorem Steps.trail (h : Steps rule fair first b) : ∃ past, Trail rule fair first (b :: past) := by
  induction h with
  | refl => exact ⟨[], .start⟩
  | tail _ hstep ih =>
    obtain ⟨past, htrail⟩ := ih
    exact ⟨_, htrail.step hstep⟩

namespace Trail

theorem steps (h : Trail rule fair first way) (ha : a ∈ way) : Steps rule fair first a := by
  induction h generalizing a with
  | start =>
    obtain rfl := List.mem_singleton.1 ha
    exact .refl
  | step _ hstep ih =>
    rcases List.mem_cons.1 ha with rfl | ha
    · exact (ih List.mem_cons_self).tail hstep
    · exact ih ha

theorem suffix (h : Trail rule fair first way) (hsuffix : a :: past <:+ way) :
    Trail rule fair first (a :: past) := by
  induction h with
  | start =>
    rcases List.suffix_cons_iff.1 hsuffix with heq | hnil
    · cases heq
      exact .start
    · cases List.suffix_nil.1 hnil
  | step h hstep ih =>
    rcases List.suffix_cons_iff.1 hsuffix with heq | hsuffix
    · cases heq
      exact h.step hstep
    · exact ih hsuffix

theorem answer (h : Trail rule fair first (b :: past)) (hfirst : first.store.seen = [])
    {request : Request} {before after : Store Unit}
    {answer : Except LifecycleError (library.Answer request)}
    (hseen : .call request before answer after ∈ b.store.seen) :
    ∃ a earlier, (a :: earlier) <:+ past ∧ a.store.bare = after ∧
      Sighting.Found (.call request before answer after) := by
  generalize hway : b :: past = way at h
  induction h generalizing b past with
  | start =>
    cases hway
    rw [hfirst] at hseen
    cases hseen
  | @step c d earlier _ hstep ih =>
    cases hway
    have hearlier : .call request before answer after ∈ c.store.seen →
        ∃ a earlier', (a :: earlier') <:+ c :: earlier ∧ a.store.bare = after ∧
          Sighting.Found (.call request before answer after) := by
      intro hseen
      obtain ⟨a, earlier', hsuffix, ha⟩ := ih hseen rfl
      exact ⟨a, earlier', hsuffix.trans (List.suffix_cons c earlier), ha⟩
    obtain hsame | ⟨x, hx⟩ := hstep.seen
    · exact hearlier (hsame ▸ hseen)
    · rw [hx] at hseen
      rcases List.mem_cons.1 hseen with rfl | hseen
      · obtain ⟨hmoment, _⟩ | ⟨_, _, _, _, _, hcall, hfound⟩ := hstep.sees hx
        · cases hmoment
        · cases hcall
          exact ⟨c, earlier, List.suffix_rfl, rfl, hfound⟩
      · exact hearlier hseen

end Trail

namespace Situation

/-- The end of the context began on the trail. -/
def EndedIn (way : List (Situation σ)) (c : ScopeContext) : Prop :=
  ∃ a ∈ way, c ∈ a.ending

/-- A snapshot that was restored on the trail keeps a conversation with a context of that kind. -/
def NestedIn (way : List (Situation σ)) (kind : ScopeKind) : Prop :=
  ∃ a ∈ way, ∃ errand ∈ a.errands, errand.request.call.nests kind

/-- No session is attached again whose end began, or that is still being restored. -/
def Heedful : List (Situation σ) → Prop
  | b :: a :: past => (∀ c, Reattaches a b c → c ∉ a.restoring ∧ ¬ EndedIn (a :: past) c) ∧
      Heedful (a :: past)
  | _ => True

theorem Heedful.tail (h : Heedful (b :: way)) : Heedful way := by
  cases way with
  | nil => trivial
  | cons => exact h.2

theorem Heedful.suffix {earlier : List (Situation σ)} (h : Heedful way)
    (hsuffix : earlier <:+ way) : Heedful earlier := by
  obtain ⟨later, rfl⟩ := hsuffix
  induction later with
  | nil => exact h
  | cons _ _ ih => exact ih h.tail

theorem alive_start (own : σ) {Nested : ScopeKind → Prop} :
    (start own).Alive (Store.watched { surroundings := own }) (EndedIn [start own]) Nested := by
  have hspot : ∀ (spot : Spot) c, spot.context (start own).store ≠ some c := by
    rintro (_ | _) c hc <;> cases hc
  have hended : ∀ c, ¬ EndedIn [start own] c := by
    rintro c ⟨a, ha, hc⟩
    cases List.mem_singleton.1 ha
    cases hc
  exact {
    manned := manned_start own
    homed := homed_start own
    catalogued := catalogued_start own
    made := fun c hc => absurd hc (hended c)
    ended := fun c hc => absurd hc List.not_mem_nil
    attached := fun spot c hc => absurd hc (hspot spot c)
    single := fun spot _ c hc => absurd hc (hspot spot c)
    apart := fun spot c hc => absurd hc (hspot spot c)
    listed := fun x id v hv => absurd hv (unlisted_start own)
    held := fun v session hv => absurd hv (unheld_start own)
    begun := fun v session hv => absurd hv List.not_mem_nil
    restored := fun c kind hc => absurd hc List.not_mem_nil }

end Situation

theorem Container.attached_spot {m : Container} {thread : Thread} {kind : ScopeKind}
    {c : ScopeContext} {s : Store (Watched library σ)}
    (hc : m.attached thread kind s.bare = some c) :
    ∃ spot : Spot, spot.kind = kind ∧ spot.context s = some c := by
  cases kind with
  | application => exact ⟨.shared m, rfl, hc⟩
  | _ => exact ⟨.slot m thread _, rfl, hc⟩

open Situation in
/-- All along a trail on which callers take heed, what is in use is alive. -/
theorem Trail.alive {own : σ} {Nested : ScopeKind → Prop}
    (h : Trail rule fair (.start own) (a :: past)) (hheed : Heedful (a :: past))
    (hfair : ∀ {m thread c t}, fair m thread c t → Container.ReattachesSession m thread c t)
    (hrule : ∀ within request, rule within request → request.call.toggles = false)
    (hnests : ∀ kind, NestedIn (a :: past) kind → Nested kind) :
    a.Alive (Store.watched { surroundings := own }) (EndedIn (a :: past)) Nested := by
  generalize hway : a :: past = way at h
  induction h generalizing a past with
  | start =>
    cases hway
    exact alive_start own
  | @step b c past htrail' hstep ih =>
    cases hway
    have hends : EndedIn (c :: b :: past) = c.Ends (EndedIn (b :: past)) :=
      funext fun x => propext (List.exists_mem_cons_iff ..)
    rw [hends]
    have hb := ih hheed.2 (fun kind ⟨d, hd, hnested⟩ =>
      hnests kind ⟨d, List.mem_cons_of_mem _ hd, hnested⟩) rfl
    refine hb.step hfair (fun errand hin => ?_) (fun errand hin kind hkind => ?_) hheed.1 hstep
    · obtain ⟨within, hwithin⟩ := (htrail'.steps List.mem_cons_self).permitted errand hin
      exact hrule within _ hwithin
    · exact hnests kind ⟨b, List.mem_cons_of_mem _ List.mem_cons_self, errand, hin, hkind⟩

/-- What a thread is given as the current context of a scope is of its kind and active, if callers
neither toggle contexts nor tear them down themselves and attach no session again whose end began. A
conversation is of its kind, or was restored as one, and it is active unless the end of its session
began. -/
theorem current_alive (supply : Supply σ) (own : σ) (p : Program library σ)
    (hrule : ∀ within request, rule within request → request.call.toggles = false)
    (hobeys : p.Obeys rule []) {r : Except LifecycleError Unit} {t : Store (Watched library σ)}
    (hrun : (p.run supply).run.run (Store.watched { surroundings := own }) = some (r, t))
    (hfair : ∀ x ∈ t.seen, x.Fair Container.ReattachesSession) :
    (∃ past, Trail rule Container.ReattachesSession (.start own) (⟨[], t⟩ :: past)) ∧
    ∀ past, Trail rule Container.ReattachesSession (.start own) (⟨[], t⟩ :: past) →
      Situation.Heedful (⟨[], t⟩ :: past) →
      ∀ thread m kind before c after,
        .call ⟨thread, .current m kind⟩ before (.ok (some c)) after ∈ t.seen →
        ∃ a earlier, (a :: earlier) <:+ past ∧ a.store.bare = after ∧
          (kind ≠ .conversation → (after.context c).kind = kind ∧
            c.Thrives (Situation.EndedIn (a :: earlier)) after) ∧
          (kind = .conversation → ∃ session,
            m.conversationSlot thread after = .active ⟨c⟩ session ∧
            Conversation.Kindred (Situation.NestedIn (a :: earlier)) after ⟨c⟩ ∧
            (Situation.EndedIn (a :: earlier) session ∨
              c.Thrives (Situation.EndedIn (a :: earlier)) after)) := by
  have hsteps : Act.Keeps True (fun s => (∀ x ∈ s.seen, x.Fair Container.ReattachesSession) →
      Steps rule Container.ReattachesSession (.start own) ⟨[], s⟩) (p.run supply) :=
    p.run_steps supply [] hobeys (.start own) [] rfl
  refine ⟨((Act.wp_of_run hrun).1 (hsteps _ fun _ => .refl) hfair).trail, ?_⟩
  intro past htrail hheed thread m kind before c after hseen
  obtain ⟨a, earlier, hsuffix, rfl, hfound⟩ := htrail.answer rfl hseen
  have halive := (htrail.suffix (hsuffix.trans (List.suffix_cons _ _))).alive
    (hheed.suffix (hsuffix.trans (List.suffix_cons _ _))) id hrule fun _ => id
  refine ⟨a, earlier, hsuffix, rfl, fun hkind => ?_, fun hkind => ?_⟩
  · rw [Sighting.Found, if_neg hkind] at hfound
    obtain ⟨spot, rfl, hspot⟩ := Container.attached_spot hfound
    obtain ⟨-, -, hkind, hthrives⟩ := halive.attached spot c hspot
    exact ⟨hkind, hthrives⟩
  · rw [Sighting.Found, if_pos hkind] at hfound
    obtain ⟨session, hslot⟩ := hfound
    obtain ⟨hthrives, hkindred⟩ := halive.held ⟨c⟩ session (.inl ⟨m, thread, hslot⟩)
    exact ⟨session, hslot, hkindred, hthrives⟩

theorem Trail.heedful {s : Store (Watched library σ)}
    (hrule : ∀ within request, rule within request → request.call.reattached? = none)
    (h : Trail rule fair ⟨[], s⟩ way) : Situation.Heedful way := by
  induction h with
  | start => trivial
  | @step a b past htrail hstep ih =>
    refine ⟨fun c ⟨request, γ, _, rest, herrands, _, _, m, params, hcall, hsession, _⟩ => ?_, ih⟩
    obtain ⟨within, hwithin⟩ := (htrail.steps List.mem_cons_self).permitted ⟨request, γ⟩
      (herrands ▸ List.mem_cons_self)
    have hnone := hrule within request hwithin
    rw [hcall, Call.reattached?, hsession] at hnone
    cases hnone

/-- What a thread was given as the current context of a scope, with its kind, and whether it was
active. -/
def Sighting.given? : Sighting library → Option (ScopeKind × ScopeContext × ScopeKind × Bool)
  | .call ⟨_, .current _ kind⟩ _ (.ok (some c)) after =>
    some (kind, c, (after.context c).kind, (after.context c).active)
  | _ => none

theorem Sighting.of_given {x : Sighting library} {kind kind' : ScopeKind} {c : ScopeContext}
    {active : Bool} (h : x.given? = some (kind, c, kind', active)) : ∃ thread m before after,
      x = .call ⟨thread, .current m kind⟩ before (.ok (some c)) after ∧
        (after.context c).kind = kind' ∧ (after.context c).active = active := by
  unfold given? at h
  split at h
  · cases h
    exact ⟨_, _, _, _, rfl, rfl, rfl⟩
  · cases h

def Sighting.reattaches? : Sighting library → Option ScopeContext
  | .call request .. => request.call.reattached?
  | .moment _ => none

theorem Sighting.fair_of_none {x : Sighting library} (h : x.reattaches? = none) : x.Fair fair := by
  cases x with
  | moment => trivial
  | call request before answer after =>
    intro m params c hcall hsession
    rw [reattaches?, hcall, Call.reattached?, hsession] at h
    cases h

/-- A session ends while the thread has a conversation of it. -/
def outlivingConversation : Program library Unit :=
  let thread : Thread := ⟨"main"⟩
  let m : Container := ⟨1⟩
  let quiet : Callback → Program library Unit := fun _ => .done
  .call (⟨thread, .newContainer {} [] false⟩ : Request) quiet fun _ =>
  .call (⟨thread, .start m .session {}⟩ : Request) quiet fun _ =>
  .call (⟨thread, .start m .conversation {}⟩ : Request) quiet fun _ =>
  .call (⟨thread, .current m .conversation⟩ : Request) quiet fun _ =>
  .call (⟨thread, .stop m .session⟩ : Request) quiet fun _ =>
  .call (⟨thread, .current m .conversation⟩ : Request) quiet fun _ => .done

/-- The hypotheses hold of a conversation that outlives its session. The thread is given it all the
same, inactive as it is, and the end of its session began before. -/
theorem current_alive_outlived :
    let supply : Supply Unit := Supply.numbered ⟨"main"⟩
    let rule : Rule := fun _ request =>
      request.call.toggles = false ∧ request.call.reattached? = none
    let c : ScopeContext := ⟨2⟩
    ∃ r t past, (∀ within request, rule within request → request.call.toggles = false) ∧
      outlivingConversation.Obeys rule [] ∧
      (outlivingConversation.run supply).run.run (Store.watched { surroundings := () }) =
        some (r, t) ∧
      (∀ x ∈ t.seen, x.Fair Container.ReattachesSession) ∧
      Trail rule Container.ReattachesSession (.start ()) (⟨[], t⟩ :: past) ∧
      Situation.Heedful (⟨[], t⟩ :: past) ∧ ∃ thread m before after a earlier session,
        .call ⟨thread, .current m .conversation⟩ before (.ok (some c)) after ∈ t.seen ∧
        (after.context c).active = false ∧ (a :: earlier) <:+ past ∧ a.store.bare = after ∧
        m.conversationSlot thread after = .active ⟨c⟩ session ∧
        Conversation.Kindred (Situation.NestedIn (a :: earlier)) after ⟨c⟩ ∧
        Situation.EndedIn (a :: earlier) session := by
  intro supply rule c
  have hseen : ((outlivingConversation.run supply).run.run
      (Store.watched { surroundings := () })).map (fun o =>
        (o.2.seen.all (·.reattaches?.isNone), o.2.seen.filterMap Sighting.given?)) =
      some (true, [(.conversation, c, .conversation, false),
        (.conversation, c, .conversation, true)]) := by
    decide +kernel
  obtain ⟨⟨r, t⟩, hrun, ht⟩ := Option.map_eq_some_iff.1 hseen
  obtain ⟨hnone, hgiven⟩ := Prod.mk.inj ht
  have hrule : ∀ within request, rule within request → request.call.toggles = false :=
    fun _ _ => And.left
  have hobeys : outlivingConversation.Obeys rule [] := by
    simp [outlivingConversation, Program.Obeys, rule, Call.toggles, Call.reattached?]
  have hfair : ∀ x ∈ t.seen, x.Fair Container.ReattachesSession := fun x hx =>
    Sighting.fair_of_none (Option.isNone_iff_eq_none.1 (List.all_eq_true.1 hnone x hx))
  obtain ⟨⟨past, htrail⟩, hall⟩ :=
    current_alive supply () outlivingConversation hrule hobeys hrun hfair
  have hheed := htrail.heedful fun _ _ => And.right
  have hin : (.conversation, c, .conversation, false) ∈ t.seen.filterMap Sighting.given? := by
    rw [hgiven]
    exact List.mem_cons_self
  obtain ⟨x, hx, hxgiven⟩ := List.mem_filterMap.1 hin
  obtain ⟨thread, m, before, after, rfl, -, hinactive⟩ := Sighting.of_given hxgiven
  obtain ⟨a, earlier, hsuffix, ha, -, hconversation⟩ :=
    hall past htrail hheed thread m .conversation before c after hx
  obtain ⟨session, hslot, hkindred, hended⟩ := hconversation rfl
  refine ⟨r, t, past, hrule, hobeys, hrun, hfair, htrail, hheed, thread, m, before, after, a,
    earlier, session, hx, hinactive, hsuffix, ha, hslot, hkindred, hended.resolve_right ?_⟩
  rintro ⟨hactive, -⟩
  rw [hinactive] at hactive
  cases hactive

/-- A session is restored that keeps a context of another kind as a conversation. -/
def disguisedConversation : Program library Unit :=
  let thread : Thread := ⟨"main"⟩
  let m : Container := ⟨1⟩
  let quiet : Callback → Program library Unit := fun _ => .done
  let snapshot : ContextSnapshot := ⟨.session, [], [⟨"7", 1000, ⟨.request, [], []⟩⟩]⟩
  .call (⟨thread, .newContainer {} [] false⟩ : Request) quiet fun _ =>
  .call (⟨thread, .restoreSession m snapshot⟩ : Request) quiet fun _ =>
  .call (⟨thread, .start m .conversation { conversationId := some "7" }⟩ : Request) quiet fun _ =>
  .call (⟨thread, .current m .conversation⟩ : Request) quiet fun _ => .done

/-- After the session ended the thread is still given its conversation, which is inactive by then.
And it is given a context of another kind as a conversation that was restored. -/
theorem current_stale :
    let given : Program library Unit →
        Option (List (ScopeKind × ScopeContext × ScopeKind × Bool)) := fun p =>
      ((p.run (Supply.numbered ⟨"main"⟩)).run.run (Store.watched { surroundings := () })).map
        (fun o => o.2.seen.filterMap Sighting.given?)
    given outlivingConversation =
        some [(.conversation, ⟨2⟩, .conversation, false),
          (.conversation, ⟨2⟩, .conversation, true)] ∧
      given disguisedConversation = some [(.conversation, ⟨2⟩, .request, true)] := by
  decide +kernel

end ContextualLifecycle
