import ContextualLifecycle.Proofs.Conversation.Holders

namespace ContextualLifecycle

variable {σ : Type} {rule : Rule}
  {fair : Container → Thread → ScopeContext → Store Unit → Prop} {request : Request}
  {γ γ' : Hand} {s s' : Store (Watched library σ)} {session : ScopeContext} {id : String}
  {v w : Conversation}

/-- The session listed the conversation at some point of the way. -/
def Situation.HasListed (rule : Rule)
    (fair : Container → Thread → ScopeContext → Store Unit → Prop) (a : Situation σ)
    (session : ScopeContext) (v : Conversation) (b : Situation σ) : Prop :=
  ∃ c id, Steps rule fair a c ∧ Steps rule fair c b ∧ session.conversation? id c.store = some v

section Way

variable {own : σ} {a b : Situation σ}

theorem Situation.HasListed.tail {start : Situation σ}
    (h : Situation.HasListed rule fair start session v a) (hstep : Step rule fair a b) :
    Situation.HasListed rule fair start session v b :=
  let ⟨c, id, hc, hca, hv⟩ := h
  ⟨c, id, hc, hca.tail hstep, hv⟩

theorem Steps.held (h : Steps rule fair (.start own) b) (hv : b.Holds v session) :
    Situation.HasListed rule fair (.start own) session v b := by
  induction h with
  | refl => exact absurd hv (Situation.unheld_start own)
  | tail hsa hab ih =>
    cases hab with
    | moved hmove =>
      obtain hbefore | hengages := hmove.holds_or hv
      · exact (ih hbefore).tail (.moved hmove)
      · obtain ⟨id, hlisted⟩ := hengages.listed
        exact ⟨_, id, hsa.tail (.moved hmove), .refl, hlisted⟩
    | asked hrule => exact (ih hv).tail (.asked hrule)
    | answered hfound => exact (ih hv).tail (.answered hfound)
    | noticed => exact (ih hv).tail .noticed
    | kept own => exact (ih hv).tail (.kept own)

end Way

def keepsConversations : Rule := fun _ request =>
  ∀ session id, request.call ≠ .removeConversation session id

/-- A conversation of a session is about to leave it. -/
inductive Departure (start : Situation σ) (session : ScopeContext) (id : String)
    (v : Conversation) : Situation σ → Prop
  /-- The thread that holds it finishes it. -/
  | finished {errands request γ s} {m : Container} {slot}
      (h : request.call.finishes m slot)
      (hheld : m.conversationSlot request.thread s = .active v session)
      (htransient : (s.conversation v).transient = true) :
      Departure start session id v ⟨⟨request, γ⟩ :: errands, s⟩
  /-- Another one of its name is finished, which had left the session before. -/
  | confused {errands request γ s} {m : Container} {slot w}
      (h : request.call.finishes m slot)
      (hheld : m.conversationSlot request.thread s = .active w session)
      (htransient : (s.conversation w).transient = true) (hname : (s.conversation w).id = id)
      (hbefore : Situation.HasListed keepsConversations Container.ReattachesMade start session w
        ⟨⟨request, γ⟩ :: errands, s⟩)
      (hleft : ∀ id, session.conversation? id s ≠ some w) :
      Departure start session id v ⟨⟨request, γ⟩ :: errands, s⟩
  /-- Nobody is going to miss it. -/
  | expired {errands request γ s} {m : Container}
      (h : request.call = .destroyExpired m)
      (hsession : m.slot request.thread .session s = some session)
      (habandoned : v.isAbandoned s = true) :
      Departure start session id v ⟨⟨request, γ⟩ :: errands, s⟩
  /-- The session is torn down. -/
  | torn {errands request s} {γ : Hand} (h : session ∈ γ.doomed ∨ session ∈ γ.falling) :
      Departure start session id v ⟨⟨request, γ⟩ :: errands, s⟩

/-- A conversation that leaves its session in a step departs. -/
theorem Step.departure {own : σ} {a b : Situation σ}
    (hway : Steps keepsConversations Container.ReattachesMade (.start own) a)
    (hstep : Step keepsConversations Container.ReattachesMade a b)
    (hv : session.conversation? id a.store = some v)
    (hlost : session.conversation? id b.store ≠ some v) :
    Departure (.start own) session id v a := by
  have hcatalogued := hway.catalogued fun _ _ _ _ h => h
  have hlisted := hcatalogued.filed.listed
  cases hstep with
  | moved hmove =>
    obtain ⟨within, hrule⟩ := hway.permitted _ List.mem_cons_self
    cases (hmove.loss (hcatalogued.known.listing session id v hv) hv).resolve_left hlost with
    | removed hcall => exact absurd hcall (hrule session id)
    | @finished _ _ w hfinishes hheld htransient hname =>
      by_cases hw : w = v
      · subst hw
        exact .finished hfinishes hheld htransient
      · have hlisted' := hway.held (.inl ⟨_, _, hheld⟩)
        refine .confused hfinishes hheld htransient hname hlisted' ?_
        intro id' hid'
        obtain rfl := (hlisted session id' w hid').2.symm.trans hname
        exact hw (Option.some.inj (hid'.symm.trans hv))
    | expired hcall hsession habandoned => exact .expired hcall hsession habandoned
    | torn h => exact .torn h
  | asked | answered | noticed | kept => exact absurd hv hlost

/-- Only a demotion makes a conversation transient that was made before. -/
theorem Move.lasting (h : Move fair request γ s γ' s') (hmade : v.context.number < s.nextContext)
    (hv : (s.conversation v).transient = false) :
    (s'.conversation v).transient = false ∨ request.call = .demote v := by
  have hacquire : ∀ (w : Conversation) (u : Store (Watched library σ)),
      ((w.tryAcquire u).2.conversation v).transient = (u.conversation v).transient := by
    intro w u
    cases hfree : (u.conversation w).busy with
    | true => rw [Conversation.tryAcquire, if_pos hfree]
    | false =>
      rw [Conversation.conversation_tryAcquire w v u hfree]
      split
      · rename_i hw
        rw [hw]
      · rfl
  have hrelease : ∀ (w : Conversation) (u : Store (Watched library σ)),
      ((w.release u).conversation v).transient = (u.conversation v).transient := by
    intro w u
    rw [Conversation.conversation_release]
    split
    · rename_i hw
      rw [hw]
    · rfl
  have hconverse : ∀ (c : ScopeContext) id timeout,
      ((c.converse id timeout s).conversation v).transient = false := by
    intro c id timeout
    rw [ScopeContext.conversation_converse]
    split
    · rfl
    · exact hv
  cases h with
  | aside h =>
    left
    rwa [Store.conversation_congr h.conversations]
  | marked hmarks _ _ hlasting =>
    by_cases hdemote : request.call = .demote v
    · exact .inr hdemote
    · left
      rw [Conversation.conversation_update]
      split
      · rename_i hw
        subst hw
        exact hlasting hdemote _ hv
      · exact hv
  | released => exact .inl ((hrelease _ _).trans hv)
  | finished => exact .inl ((hrelease _ _).trans hv)
  | @expired _ _ _ x =>
    left
    rwa [Store.conversation_congr x.conversations_takeExpired]
  | begun =>
    left
    rw [Container.conversation_beginning, if_neg]
    · exact hv
    · rintro rfl
      exact Nat.lt_irrefl _ hmade
  | resumed => exact .inl ((hacquire _ _).trans hv)
  | conversed => exact .inl (hconverse _ _ _)
  | listed => exact .inl (hconverse _ _ _)
  | _ => exact .inl hv

def Situation.Demotes (a : Situation σ) (v : Conversation) : Prop :=
  ∃ errand ∈ a.errands, errand.request.call = .demote v

theorem Step.lasting {a b : Situation σ} (hstep : Step rule fair a b)
    (hmade : v.context.number < a.store.nextContext)
    (hv : (a.store.conversation v).transient = false) :
    (b.store.conversation v).transient = false ∨ a.Demotes v := by
  cases hstep with
  | moved hmove =>
    exact (hmove.lasting hmade hv).imp_right fun hcall => ⟨_, List.mem_cons_self, hcall⟩
  | asked | answered | noticed | kept => exact .inl hv

/-- Whatever threads and containers do, and whatever callbacks do meanwhile: a conversation that a
session lists at one moment, and no more at a later one, departed at some point in between. It stays
a long-running one all the while, unless somebody demotes it. -/
theorem conversation_departs (supply : Supply σ) (own : σ) (p : Program library σ)
    (hobeys : p.Obeys keepsConversations []) {r : Except LifecycleError Unit}
    {t : Store (Watched library σ)}
    (h : (p.run supply).run.run (Store.watched { surroundings := own }) = some (r, t))
    (hfair : ∀ x ∈ t.seen, x.Fair Container.ReattachesMade) {u u' : Store Unit}
    (hseen : [.moment u', .moment u].Sublist t.seen)
    (hv : session.conversation? id u = some v) :
    let Way := @Steps σ keepsConversations Container.ReattachesMade
    ∃ a d, Way (.start own) a ∧ Way a d ∧ Way d ⟨[], t⟩ ∧ a.store.bare = u ∧ d.store.bare = u' ∧
      (session.conversation? id u' ≠ some v → ∃ b c, Way a b ∧
        Step keepsConversations Container.ReattachesMade b c ∧ Way c d ∧
        Departure (.start own) session id v b) ∧
      ((u.conversation v).transient = false → (u'.conversation v).transient = true → ∃ b c,
        Way a b ∧ Step keepsConversations Container.ReattachesMade b c ∧ Way c d ∧
        b.Demotes v) := by
  intro Way
  have hrun : Way (.start own) ⟨[], t⟩ := by
    have hsteps : Act.Keeps True (fun s => (∀ x ∈ s.seen, x.Fair Container.ReattachesMade) →
        Way (.start own) ⟨[], s⟩) (p.run supply) :=
      p.run_steps supply [] hobeys (.start own) [] rfl
    exact (Act.wp_of_run h).1 (hsteps _ fun _ => .refl) hfair
  obtain ⟨_, _, hsplit, hin, hrest⟩ := List.cons_sublist_iff.1 hseen
  obtain ⟨latest, after, rfl⟩ := List.append_of_mem hin
  obtain ⟨before, earlier, rfl⟩ := List.append_of_mem (List.singleton_sublist.1 hrest)
  have hlate : t.seen = latest ++ .moment u' :: (after ++ (before ++ .moment u :: earlier)) := by
    rw [hsplit, List.append_assoc]
    rfl
  obtain ⟨d, hstart, hend, hd, hdseen⟩ := hrun.moment hlate (Nat.zero_le _)
  have hearly : d.store.seen = (.moment u' :: (after ++ before)) ++ .moment u :: earlier := by
    rw [hdseen, List.cons_append, List.append_assoc]
  obtain ⟨a, ha, had, hau, -⟩ := hstart.moment hearly (Nat.zero_le _)
  have hlisted : session.conversation? id a.store = some v := by
    rw [← hau] at hv
    exact hv
  refine ⟨a, d, ha, had, hend, hau, hd, fun hlost => ?_, fun hlasting htransient => ?_⟩
  · have hlast : session.conversation? id d.store ≠ some v := by
      rw [← hd] at hlost
      exact hlost
    obtain ⟨b, c, hab, hbc, hcd, hb, hc⟩ := had.crossing
      (P := fun b => session.conversation? id b.store = some v) hlisted hlast
    exact ⟨b, c, hab, hbc, hcd, hbc.departure (ha.trans hab) hb hc⟩
  · subst hau hd
    have hcatalogued := ha.catalogued fun _ _ _ _ h => h
    have hmade := (hcatalogued.filed.listed session id v hlisted).1
    have hlast : ¬ (d.store.conversation v).transient = false := by
      rw [Bool.not_eq_false]
      exact htransient
    obtain ⟨b, c, hab, hbc, hcd, hb, hc⟩ := had.crossing
      (P := fun b => (b.store.conversation v).transient = false) hlasting hlast
    refine ⟨b, c, hab, hbc, hcd, (hbc.lasting ?_ hb).resolve_left hc⟩
    exact Nat.lt_of_lt_of_le hmade hab.next

def Sighting.moment? : Sighting library → Option (Store Unit)
  | .moment s => some s
  | .call .. => none

theorem Sighting.moments_sublist (seen : List (Sighting library)) :
    ((seen.filterMap moment?).map .moment).Sublist seen := by
  induction seen with
  | nil => exact .slnil
  | cons x seen ih =>
    cases x with
    | moment s => exact ih.cons_cons _
    | call => exact ih.cons _

def Sighting.reattached? : Sighting library → Option (ScopeContext × Nat)
  | .call ⟨_, .start _ .session ⟨_, some c⟩⟩ before _ _ => some (c, before.nextContext)
  | _ => none

theorem Sighting.fair_of_reattached {seen : List (Sighting library)}
    (h : ∀ p ∈ seen.filterMap Sighting.reattached?, p.1.number < p.2) :
    ∀ x ∈ seen, x.Fair Container.ReattachesMade := by
  intro x hx
  cases x with
  | moment => trivial
  | call request before answer after =>
    obtain ⟨thread, call⟩ := request
    rintro m ⟨conversation, session⟩ c hcall hsession
    cases hcall
    cases hsession
    exact h (c, before.nextContext) (List.mem_filterMap.2 ⟨_, hx, rfl⟩)

/-- What the end of a conversation scope found in the slot, and what a session listed under a name
before and after. -/
def Sighting.ended? (session : ScopeContext) (id : String) : Sighting library →
    Option (ConversationSlot × Option Conversation × Option Conversation)
  | .call ⟨thread, .stop m .conversation⟩ before _ after =>
    some (m.conversationSlot thread before, session.conversation? id before,
      session.conversation? id after)
  | _ => none

/-- A container ends a session while the thread has a conversation of it. Another container attaches
the session again, and gives it a long-running conversation. Then the first one ends the
conversation that the thread still has. -/
def lateEnd : Program library Unit :=
  let thread : Thread := ⟨"main"⟩
  let m : Container := ⟨1⟩
  let n : Container := ⟨2⟩
  let quiet : Callback → Program library Unit := fun _ => .done
  .call (⟨thread, .newContainer {} [] false⟩ : Request) quiet fun _ =>
  .call (⟨thread, .newContainer {} [] false⟩ : Request) quiet fun _ =>
  .call (⟨thread, .start m .session {}⟩ : Request) quiet fun _ =>
  .call (⟨thread, .start m .conversation {}⟩ : Request) quiet fun _ =>
  .call (⟨thread, .current m .conversation⟩ : Request) quiet fun _ =>
  .call (⟨thread, .stop m .session⟩ : Request) quiet fun _ =>
  .call (⟨thread, .start n .session { session := some ⟨1⟩ }⟩ : Request) quiet fun _ =>
  .call (⟨thread, .start n .conversation {}⟩ : Request) quiet fun _ =>
  .call (⟨thread, .current n .conversation⟩ : Request) quiet fun _ =>
  .call (⟨thread, .promote ⟨⟨3⟩⟩⟩ : Request) quiet fun _ =>
  .call (⟨thread, .stop n .conversation⟩ : Request) quiet fun _ =>
  .call (⟨thread, .stop m .conversation⟩ : Request) quiet fun _ => .done

/-- The hypotheses hold of a conversation that another one of its name takes along. -/
theorem conversation_departs_late :
    let supply : Supply Unit := Supply.numbered ⟨"main"⟩
    let session : ScopeContext := ⟨1⟩
    let v : Conversation := ⟨⟨3⟩⟩
    let Way := @Steps Unit keepsConversations Container.ReattachesMade
    ∃ r t u u', lateEnd.Obeys keepsConversations [] ∧
      (lateEnd.run supply).run.run (Store.watched { surroundings := () }) = some (r, t) ∧
      (∀ x ∈ t.seen, x.Fair Container.ReattachesMade) ∧
      [.moment u', .moment u].Sublist t.seen ∧ session.conversation? "1" u = some v ∧
      session.conversation? "1" u' = none ∧
      ∃ a b c d, Way (.start ()) a ∧ a.store.bare = u ∧ Way a b ∧
        Step keepsConversations Container.ReattachesMade b c ∧ Way c d ∧ d.store.bare = u' ∧
        Way d ⟨[], t⟩ ∧ Departure (.start ()) session "1" v b := by
  intro supply session v Way
  have hseen : ((lateEnd.run supply).run.run (Store.watched { surroundings := () })).map (fun o =>
      (o.2.seen.filterMap Sighting.reattached?,
        ((o.2.seen.filterMap Sighting.moment?).map (session.conversation? "1")).take 2)) =
      some ([(session, 3)], [none, some v]) := by
    decide +kernel
  obtain ⟨⟨r, t⟩, hrun, ht⟩ := Option.map_eq_some_iff.1 hseen
  obtain ⟨hreattached, hlistings⟩ := Prod.mk.inj ht
  have hobeys : lateEnd.Obeys keepsConversations [] := by
    simp [lateEnd, Program.Obeys, keepsConversations]
  have hfair : ∀ x ∈ t.seen, x.Fair Container.ReattachesMade :=
    Sighting.fair_of_reattached (by rw [hreattached]; decide)
  have hmoments := Sighting.moments_sublist t.seen
  rcases hlast : t.seen.filterMap Sighting.moment? with _ | ⟨u', _ | ⟨u, moments⟩⟩
  · simp [hlast] at hlistings
  · simp [hlast] at hlistings
  · rw [hlast] at hmoments
    obtain ⟨hu', hu⟩ : session.conversation? "1" u' = none ∧
        session.conversation? "1" u = some v := by simpa [hlast] using hlistings
    have htwo : [.moment u', .moment u].Sublist t.seen :=
      (((List.nil_sublist _).cons_cons _).cons_cons _).trans hmoments
    obtain ⟨a, d, ha, -, hd, hau, hdu, hleft, -⟩ :=
      conversation_departs supply () lateEnd hobeys hrun hfair htwo hu
    obtain ⟨b, c, hab, hbc, hcd, hb⟩ := hleft (by simp [hu'])
    exact ⟨r, t, u, u', hobeys, hrun, hfair, htwo, hu, hu', a, b, c, d, ha, hau, hab, hbc, hcd, hdu,
      hd, hb⟩

/-- The end of a transient conversation, which the session does not list any more, takes another one
of its name from the session, which is a long-running one and which nobody holds. -/
theorem conversation_lost_by_name :
    let session : ScopeContext := ⟨1⟩
    let v : Conversation := ⟨⟨3⟩⟩
    let w : Conversation := ⟨⟨2⟩⟩
    v ≠ w ∧ ((lateEnd.run (Supply.numbered ⟨"main"⟩)).run.run
        (Store.watched { surroundings := () })).map (fun o =>
          (o.2.seen.filterMap (Sighting.ended? session "1"),
            (o.2.conversation v).transient, (o.2.conversation v).busy)) =
      some ([(.active w session, some v, none), (.active v session, some v, some v)],
        false, false) := by
  decide +kernel

end ContextualLifecycle
