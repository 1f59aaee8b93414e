import ContextualLifecycle.Proofs.Container.Quiet
import ContextualLifecycle.Proofs.Container.Requests
import ContextualLifecycle.Proofs.Conversation.Tally

namespace ContextualLifecycle

variable {σ : Type}

/-- Since some store, issued conversations have kept their names, all that are listed are listed
under their names, and nobody lists a context that is being restored. Of what was seen, all is
sound in some sense. -/
structure Filed (Sound : Sighting library → Prop) (s₀ : Store (Watched library σ))
    (restoring : List ScopeContext) (s : Store (Watched library σ)) : Prop where
  next : s₀.nextContext ≤ s.nextContext
  named : ∀ v : Conversation, v.context.number < s₀.nextContext →
    (s.conversation v).id = (s₀.conversation v).id
  listed : ∀ (x : ScopeContext) id v, x.conversation? id s = some v →
    v.context.number < s.nextContext ∧ (s.conversation v).id = id
  nodup : restoring.Nodup
  apart : ∀ c ∈ restoring, s₀.nextContext ≤ c.number ∧ c.number < s.nextContext ∧
    ∀ (x : ScopeContext) id, x.conversation? id s ≠ some ⟨c⟩
  seen : ∀ sighting ∈ s.seen, Sound sighting

namespace Filed

variable {Sound : Sighting library → Prop} {s₀ s t : Store (Watched library σ)}
  {restoring : List ScopeContext} {c : ScopeContext}

theorem now (h : Filed Sound s₀ restoring s) : Filed Sound s [] s where
  next := Nat.le_refl _
  named _ _ := rfl
  listed := h.listed
  nodup := .nil
  apart _ hc := by cases hc
  seen := h.seen

theorem kept (h : Filed Sound s₀ restoring s) (hnext : s.nextContext ≤ t.nextContext)
    (hid : ∀ v, (t.conversation v).id = (s.conversation v).id)
    (hlisted : ∀ (x : ScopeContext) id v, x.conversation? id t = some v →
      x.conversation? id s = some v) (hseen : t.seen = s.seen) : Filed Sound s₀ restoring t where
  next := Nat.le_trans h.next hnext
  named v hv := (hid v).trans (h.named v hv)
  listed x id v hv := by
    obtain ⟨hissued, hname⟩ := h.listed x id v (hlisted x id v hv)
    exact ⟨Nat.lt_of_lt_of_le hissued hnext, (hid v).trans hname⟩
  nodup := h.nodup
  apart c hc := by
    obtain ⟨hnew, hissued, hnone⟩ := h.apart c hc
    refine ⟨hnew, Nat.lt_of_lt_of_le hissued hnext, fun x id hv => ?_⟩
    exact hnone x id (hlisted x id ⟨c⟩ hv)
  seen := hseen ▸ h.seen

theorem of_quiet (hst : s.Quiet t) (h : Filed Sound s₀ restoring s) : Filed Sound s₀ restoring t :=
  h.kept hst.nextContext hst.id hst.listed (congrArg (·.seen) hst.surroundings)

theorem setActive (h : Filed Sound s₀ restoring s) (c : ScopeContext) (active : Bool) :
    Filed Sound s₀ restoring (c.setActive active s) := by
  refine h.kept (Nat.le_refl _) (fun _ => rfl) ?_ rfl
  intro x id v hv
  rw [conversation?_setActive] at hv
  exact hv

theorem begin (h : Filed Sound s₀ restoring s) (kind : ScopeKind) :
    Filed Sound s₀ ((ScopeContext.new kind s).1 :: restoring) (ScopeContext.new kind s).2 := by
  have hquiet : s.Quiet (ScopeContext.new kind s).2 := .newContext kind s
  have hmade := of_quiet hquiet h
  refine { hmade with nodup := ?_, apart := ?_ }
  · refine List.nodup_cons.2 ⟨fun hin => ?_, h.nodup⟩
    exact Nat.lt_irrefl _ (h.apart _ hin).2.1
  · intro c hc
    rcases List.mem_cons.1 hc with rfl | hc
    · refine ⟨h.next, Nat.lt_succ_self _, fun x id hv => ?_⟩
      exact Nat.lt_irrefl _ (h.listed x id _ (hquiet.listed x id _ hv)).1
    · exact hmade.apart c hc

theorem done (h : Filed Sound s₀ (c :: restoring) s) : Filed Sound s₀ restoring s :=
  { h with
    nodup := (List.nodup_cons.1 h.nodup).2
    apart := fun x hx => h.apart x (List.mem_cons_of_mem _ hx) }

theorem dress (h : Filed Sound s₀ (c :: restoring) s) (id : String)
    (hnext : t.nextContext = s.nextContext) (hname : (t.conversation ⟨c⟩).id = id)
    (hother : ∀ v : Conversation, v ≠ ⟨c⟩ → (t.conversation v).id = (s.conversation v).id)
    (hlisted : ∀ (x : ScopeContext) id' v, x.conversation? id' t = some v →
      x.conversation? id' s = some v ∨ v = ⟨c⟩ ∧ id' = id) (hseen : t.seen = s.seen) :
    Filed Sound s₀ restoring t := by
  obtain ⟨hnew, hissued, hnone⟩ := h.apart c List.mem_cons_self
  obtain ⟨hnotin, hnodup⟩ := List.nodup_cons.1 h.nodup
  have hne : ∀ v : Conversation, v.context ≠ c → v ≠ ⟨c⟩ := fun v hv heq => hv (by rw [heq])
  refine ⟨hnext ▸ h.next, ?_, ?_, hnodup, ?_, hseen ▸ h.seen⟩
  · intro v hv
    refine (hother v (hne v ?_)).trans (h.named v hv)
    rintro rfl
    exact Nat.lt_irrefl _ (Nat.lt_of_lt_of_le hv hnew)
  · intro x id' v hv
    rw [hnext]
    obtain hbefore | ⟨rfl, rfl⟩ := hlisted x id' v hv
    · have hvc : v ≠ ⟨c⟩ := by
        rintro rfl
        exact hnone x id' hbefore
      rw [hother v hvc]
      exact h.listed x id' v hbefore
    · exact ⟨hissued, hname⟩
  · intro y hy
    obtain ⟨hynew, hyissued, hynone⟩ := h.apart y (List.mem_cons_of_mem _ hy)
    refine ⟨hynew, hnext ▸ hyissued, fun x id' hv => ?_⟩
    obtain hbefore | ⟨heq, _⟩ := hlisted x id' _ hv
    · exact hynone x id' hbefore
    · cases heq
      exact hnotin hy

theorem id_converse (c : ScopeContext) (id : String) (timeout : Duration)
    (s : Store (Watched library σ)) (v : Conversation) :
    ((c.converse id timeout s).conversation v).id =
      if v = ⟨c⟩ then id else (s.conversation v).id := by
  rw [ScopeContext.conversation_converse]
  split <;> rfl

theorem conversation?_converse (c x : ScopeContext) (id id' : String) (timeout : Duration)
    (s : Store (Watched library σ)) :
    x.conversation? id' (c.converse id timeout s) = x.conversation? id' s :=
  conversation?_setActive c x true id' s

theorem converse (h : Filed Sound s₀ (c :: restoring) s) (id : String) (timeout : Duration) :
    Filed Sound s₀ restoring (c.converse id timeout s) := by
  refine h.dress id rfl ?_ ?_ ?_ rfl
  · exact (id_converse c id timeout s ⟨c⟩).trans (if_pos rfl)
  · exact fun v hv => (id_converse c id timeout s v).trans (if_neg hv)
  · intro x id' v hv
    rw [conversation?_converse] at hv
    exact .inl hv

theorem list (h : Filed Sound s₀ (c :: restoring) s) (session : ScopeContext) (id : String)
    (timeout : Duration) :
    Filed Sound s₀ restoring (session.putConversation id ⟨c⟩ (c.converse id timeout s)) := by
  refine h.dress id rfl ?_ ?_ ?_ rfl
  · exact (id_converse c id timeout s ⟨c⟩).trans (if_pos rfl)
  · exact fun v hv => (id_converse c id timeout s v).trans (if_neg hv)
  · intro x id' v hv
    rw [conversation?_put, conversation?_converse] at hv
    split at hv
    · rename_i hplace
      cases hv
      exact .inr ⟨rfl, hplace.2⟩
    · exact .inl hv

theorem add (h : Filed Sound s₀ restoring s) (session : ScopeContext) (draw : Nat → String)
    (start : Nat) (timeout : Duration) :
    Filed Sound s₀ restoring (session.addTransient draw start timeout s).2 := by
  let id := draw ((session.addTransient draw start timeout s).1.2 - 1)
  let c := (ScopeContext.new .conversation s).1
  let opened := (ScopeContext.newActive .conversation s).2
  have hopened : Filed Sound s₀ (c :: restoring) opened := (h.begin .conversation).setActive c true
  have hnamed : ∀ v, (session.addTransient draw start timeout s).2.conversation v =
      if v = ⟨c⟩ then { id, timeout, lastAccess := opened.clock } else opened.conversation v :=
    fun v => Conversation.conversation_update ⟨c⟩ v (fun _ => _) opened
  refine hopened.dress id rfl ?_ ?_ ?_ rfl
  · rw [hnamed, if_pos rfl]
  · intro v hv
    rw [hnamed, if_neg hv]
  · intro x id' v hv
    have hput : x.conversation? id' (session.addTransient draw start timeout s).2 =
        if x = session ∧ id' = id then some ⟨c⟩ else x.conversation? id' opened :=
      conversation?_put session x id id' ⟨c⟩ (Conversation.around c id timeout opened).2
    rw [hput] at hv
    split at hv
    · rename_i hplace
      cases hv
      exact .inr ⟨rfl, hplace.2⟩
    · exact .inl hv

variable {host : Host (Watched library σ)}

theorem sustains (h : ∀ restoring, host.Keeps True (Filed Sound s₀ restoring))
    (restoring : List ScopeContext) : host.Sustains fun _ => Filed Sound s₀ restoring where
  toHandles := (h restoring).tends.handles fun _ _ => of_quiet
  notify _ := (h restoring).notify
  notified _ _ _ _ _ _ hs := hs.kept (Nat.le_refl _) (fun _ => rfl) (fun _ _ _ hv => hv) rfl
  opened _ kind s hs := of_quiet (.newContext kind s) hs
  switched _ c active _ hs := hs.setActive c active
  emptied _ c s hs := of_quiet (.takeConversations c s) hs
  removed _ c id s hs := of_quiet (.removeConversation c id s) hs
  vacated _ _ _ _ _ hs := hs.kept (Nat.le_refl _) (fun _ => rfl) (fun _ _ _ hv => hv) rfl
  occupied _ _ _ _ _ _ hs := hs.kept (Nat.le_refl _) (fun _ => rfl) (fun _ _ _ hv => hv) rfl
  shared _ _ _ _ hs := hs.kept (Nat.le_refl _) (fun _ => rfl) (fun _ _ _ hv => hv) rfl

theorem upholds (h : ∀ restoring, host.Keeps True (Filed Sound s₀ restoring)) :
    host.Upholds fun restoring _ => Filed Sound s₀ restoring where
  handles restoring := (sustains h restoring).toHandles
  sustains := sustains h
  added _ _ session draw start timeout _ hs := hs.add session draw start timeout
  conversed _ _ v f s hf hs := by
    refine hs.kept (Nat.le_refl _) (fun w => ?_) (fun _ _ _ hv => hv) rfl
    rw [Conversation.conversation_update]
    split
    · rename_i hw
      rw [hw, hf]
    · rfl
  container _ _ _ _ _ hs := hs.kept (Nat.le_refl _) (fun _ => rfl) (fun _ _ _ hv => hv) rfl
  counted _ _ _ _ hs := hs.kept (Nat.le_refl _) (fun _ => rfl) (fun _ _ _ hv => hv) rfl
  waited _ _ _ _ hs := hs.kept (Nat.le_refl _) (fun _ => rfl) (fun _ _ _ hv => hv) rfl
  rescoped _ _ _ _ _ _ hs := hs.kept (Nat.le_refl _) (fun _ => rfl) (fun _ _ _ hv => hv) rfl
  forgotten _ _ _ _ _ hs := hs.kept (Nat.le_refl _) (fun _ => rfl) (fun _ _ _ hv => hv) rfl
  begun _ _ kind _ hs := hs.begin kind
  done _ _ _ _ hs := hs.done
  converse _ _ _ id timeout _ hs := hs.converse id timeout
  listed _ _ _ id timeout session _ hs _ := hs.list session id timeout

theorem saw {sighting : Sighting library} (h : Filed Sound s₀ restoring s)
    (hsound : Sound sighting) : Filed Sound s₀ restoring (s.saw sighting) :=
  { h with
    seen := by
      intro x hx
      rcases List.mem_cons.1 hx with rfl | hx
      · exact hsound
      · exact h.seen x hx }

/-- Programs keep conversations filed, and all that they see is sound, if what is seen of a request
is whenever its callbacks do so. -/
theorem run (hmoment : ∀ s : Store (Watched library σ), Filed Sound s [] s → Sound (.moment s.bare))
    (hrequest : ∀ (host : Host (Watched library σ)) (request : Request) s,
      host.thread = request.thread → (∀ s₀ restoring, host.Keeps True (Filed Sound s₀ restoring)) →
      Filed Sound s [] s → Act.wp True (request.call.perform host)
        (fun answer t => Sound (.call request s.bare answer t.bare)) s)
    (supply : Supply σ) (p : Program library σ) (s₀ : Store (Watched library σ))
    (restoring : List ScopeContext) : Act.Keeps True (Filed Sound s₀ restoring) (p.run supply) := by
  suffices hrun : ∀ i : Store (Watched library σ) × List ScopeContext,
      Act.Keeps True (Filed Sound i.1 i.2) (p.run supply) from hrun (s₀, restoring)
  refine Program.run_keeps_each supply ?_ ?_ ?_ p
  · exact fun i s hs => hs.saw (hmoment s hs.now)
  · exact fun i own s hs => hs.kept (Nat.le_refl _) (fun _ => rfl) (fun _ _ _ hv => hv) rfl
  · intro during hduring i request s hs
    have hhost : ∀ s₀ restoring, ({ supply.watched.host during with thread := request.thread } :
        Host (Watched library σ)).Keeps True (Filed Sound s₀ restoring) :=
      fun s₀ restoring => (supply.watched.host_keeps (hduring (s₀, restoring))).on request.thread
    have hkept := request.call.perform_upheld (Filed.upholds (hhost i.1)) i.2 []
      (fun b u _ hu => Filed.of_quiet (.episode b.episode _ u) hu) s hs
    apply (hkept.and (hrequest _ request s rfl hhost hs.now)).mono
    exact fun answer t ht => ht.1.saw ht.2

theorem watched (own : σ) : Filed Sound (Store.watched { surroundings := own }) []
    (Store.watched { surroundings := own } : Store (Watched library σ)) where
  next := Nat.le_refl _
  named _ _ := rfl
  listed _ _ _ hv := by cases hv
  nodup := .nil
  apart _ hc := by cases hc
  seen _ hin := by cases hin

end Filed

/-- At every moment of a run, within callbacks too, the conversations of sessions are known. -/
theorem Program.listed_issued (supply : Supply σ) (own : σ) (p : Program library σ)
    {r : Except LifecycleError Unit} {t : Store (Watched library σ)}
    (h : (p.run supply).run.run (Store.watched { surroundings := own }) = some (r, t))
    {u : Store Unit} (hu : .moment u ∈ t.seen) {x : ScopeContext} {id : String} {v : Conversation}
    (hv : x.conversation? id u = some v) : v.context.number < u.nextContext := by
  let Sound : Sighting library → Prop := fun sighting => ∀ u, sighting = .moment u →
    ∀ (x : ScopeContext) id v, x.conversation? id u = some v → v.context.number < u.nextContext
  have hrun : Act.Keeps True (Filed Sound (Store.watched { surroundings := own }) [])
      (p.run supply) := by
    refine Filed.run ?_ ?_ supply p _ _
    · intro s hs u hu x id v hv
      cases hu
      exact (hs.listed x id v hv).1
    · exact fun host request s _ _ _ => Act.wp_true_iff.2 fun _ _ _ _ hu => by cases hu
  exact ((Act.wp_of_run h).1 (hrun _ (.watched own))).seen _ hu u rfl x id v hv

end ContextualLifecycle
