import ContextualLifecycle.Proofs.Container.Errands
import Mathlib.Logic.Relation

namespace ContextualLifecycle

variable {σ : Type}

/-- A request in progress, with what it has in hand. -/
structure Errand where
  request : Request
  hand : Hand := {}

/-- How far a run has got: the requests in progress, the innermost first, and the store. -/
structure Situation (σ : Type) where
  errands : List Errand
  store : Store (Watched library σ)

/-- An answer that gives the context of a scope comes from the slot of that scope. -/
def Sighting.Found : Sighting library → Prop
  | .call ⟨thread, .current m kind⟩ _ (.ok (some c)) after =>
    if kind = .conversation then ∃ session, m.conversationSlot thread after = .active ⟨c⟩ session
    else m.attached thread kind after = some c
  | _ => True

/-- A session that a request attaches again is one that may be. -/
def Request.Fair (fair : Container → Thread → ScopeContext → Store Unit → Prop)
    (request : Request) (before : Store Unit) : Prop :=
  ∀ m params c, request.call = .start m .session params → params.session = some c →
    fair m request.thread c before

def Sighting.Fair (fair : Container → Thread → ScopeContext → Store Unit → Prop) :
    Sighting library → Prop
  | .call request before _ _ => request.Fair fair before
  | .moment _ => True

def Sighting.Meets (Fine : Request → Store Unit → Prop) : Sighting library → Prop
  | .call request before _ _ => Fine request before
  | .moment _ => True

/-- The steps of a run. -/
inductive Step (rule : Rule) (fair : Container → Thread → ScopeContext → Store Unit → Prop) :
    Situation σ → Situation σ → Prop where
  | moved {errands request γ s γ' s'} (h : Move fair request γ s γ' s') :
      Step rule fair ⟨⟨request, γ⟩ :: errands, s⟩ ⟨⟨request, γ'⟩ :: errands, s'⟩
  | asked {errands s} {request} (h : rule (errands.map (·.request)) request) :
      Step rule fair ⟨errands, s⟩ ⟨⟨request, {}⟩ :: errands, s⟩
  | answered {errands s request before answer}
      (h : Sighting.Found (.call request before answer s.bare)) :
      Step rule fair ⟨⟨request, {}⟩ :: errands, s⟩
        ⟨errands, s.saw (.call request before answer s.bare)⟩
  | noticed {errands s} : Step rule fair ⟨errands, s⟩ ⟨errands, s.sawMoment⟩
  | kept {errands s} (own) : Step rule fair ⟨errands, s⟩ ⟨errands, s.keep own⟩

abbrev Steps (rule : Rule) (fair : Container → Thread → ScopeContext → Store Unit → Prop) :
    Situation σ → Situation σ → Prop :=
  Relation.ReflTransGen (Step rule fair)

variable {rule : Rule} {fair : Container → Thread → ScopeContext → Store Unit → Prop}

theorem Steps.keeps {P : Situation σ → Prop} {a b : Situation σ}
    (hstep : ∀ a b, Step rule fair a b → P a → P b) (h : Steps rule fair a b) (ha : P a) : P b := by
  induction h with
  | refl => exact ha
  | tail _ hcd ih => exact hstep _ _ hcd ih

theorem Steps.crossing {P : Situation σ → Prop} {a b : Situation σ} (h : Steps rule fair a b)
    (ha : P a) (hb : ¬ P b) : ∃ c d, Steps rule fair a c ∧ Step rule fair c d ∧
      Steps rule fair d b ∧ P c ∧ ¬ P d := by
  induction h with
  | refl => exact absurd ha hb
  | @tail c d hac hcd ih =>
    by_cases hc : P c
    · exact ⟨c, d, hac, hcd, .refl, hc, hb⟩
    · obtain ⟨e, f, hae, hef, hfc, he, hf⟩ := ih hc
      exact ⟨e, f, hae, hef, hfc.tail hcd, he, hf⟩

theorem Steps.permitted {s : Store (Watched library σ)} {b : Situation σ}
    (h : Steps rule fair ⟨[], s⟩ b) :
    ∀ errand ∈ b.errands, ∃ within, rule within errand.request := by
  refine h.keeps (P := fun b => ∀ errand ∈ b.errands, ∃ within, rule within errand.request)
    (fun a b hstep ha errand hin => ?_) fun _ hin => nomatch hin
  cases hstep with
  | moved =>
    rcases List.mem_cons.1 hin with rfl | hin
    · have hhead := ha _ List.mem_cons_self
      exact hhead
    · exact ha errand (List.mem_cons_of_mem _ hin)
  | asked hrule =>
    rcases List.mem_cons.1 hin with rfl | hin
    · exact ⟨_, hrule⟩
    · exact ha errand hin
  | answered => exact ha errand (List.mem_cons_of_mem _ hin)
  | noticed | kept => exact ha errand hin

theorem Container.current_found (host : Host (Watched library σ)) (m : Container)
    (kind : ScopeKind) (before : Store Unit) (s : Store (Watched library σ)) :
    Act.wp True (m.current host kind) (fun answer t => Sighting.Found
      (.call ⟨host.thread, .current m kind⟩ before answer t.bare)) s := by
  have hplain : kind ≠ .conversation → ∀ found, m.attached host.thread kind s = found →
      Sighting.Found (.call ⟨host.thread, .current m kind⟩ before (.ok found) s.bare) := by
    rintro hkind (_ | c) hfound
    · trivial
    · rw [Sighting.Found, if_neg hkind]
      exact hfound
  have hheld : ∀ (t : Store (Watched library σ)) (v : Conversation) (session : ScopeContext),
      m.conversationSlot host.thread t = .active v session → Sighting.Found
        (.call ⟨host.thread, .current m .conversation⟩ before (.ok (some v.context)) t.bare) := by
    intro t v session hslot
    rw [Sighting.Found, if_pos rfl]
    exact ⟨session, hslot⟩
  cases kind with
  | conversation =>
    simp only [Container.current, Container.conversationContext, Act.wp_bind, Act.wp_get]
    split
    · trivial
    · rename_i v session hslot
      exact hheld s v session hslot
    · simp only [Act.wp_bind, Act.wp_get]
      split
      · trivial
      · rename_i session _
        simp only [Act.wp_bind, Act.wp_liftM, Act.wp_modifyGet]
        apply (Run.wp_outcome _ s).mono
        intro choice t _
        split
        · refine hheld _ choice.1 session ?_
          rw [conversationSlot_swap, if_pos rfl]
        · trivial
  | _ => exact hplain (by decide) _ rfl

theorem library_found (host : Host (Watched library σ)) (request : Request) (before : Store Unit)
    (s : Store (Watched library σ)) : Act.wp True (library.perform host request)
      (fun answer t => Sighting.Found (.call request before answer t.bare)) s := by
  obtain ⟨thread, call⟩ := request
  cases call with
  | current m kind => exact Container.current_found { host with thread } m kind before s
  | _ => exact (Act.wp_outcome _ s).mono fun _ _ _ => trivial

section Seen

variable {request : Request} {γ γ' : Hand} {s s' : Store (Watched library σ)}

theorem Move.seen (h : Move fair request γ s γ' s') : s'.seen = s.seen := by
  cases h with
  | aside h => exact congrArg (·.seen) h.surroundings
  | expired => exact congrArg (·.seen) (Store.Quiet.takeExpired _ s).surroundings
  | begun | resumed =>
    simp only [Container.beginning, Conversation.tryAcquire]
    split <;> rfl
  | _ => rfl

/-- What was seen stays seen, and the latest sighting is seen in one step. -/
theorem Step.seen {a b : Situation σ} (h : Step rule fair a b) :
    b.store.seen = a.store.seen ∨ ∃ x, b.store.seen = x :: a.store.seen := by
  cases h with
  | moved h => exact .inl h.seen
  | asked | kept => exact .inl rfl
  | answered | noticed => exact .inr ⟨_, rfl⟩

theorem Steps.saw {a b : Situation σ} (h : Steps rule fair a b) {x : Sighting library}
    {later earlier : List (Sighting library)} (hb : b.store.seen = later ++ x :: earlier)
    (ha : a.store.seen.length ≤ earlier.length) :
    ∃ c d, Steps rule fair a c ∧ Step rule fair c d ∧ Steps rule fair d b ∧
      c.store.seen = earlier ∧ d.store.seen = x :: earlier := by
  induction h generalizing later with
  | refl =>
    rw [hb, List.length_append, List.length_cons] at ha
    omega
  | tail hac hcd ih =>
    obtain hsame | ⟨y, hy⟩ := hcd.seen
    · obtain ⟨c, d, hc, hstep, hd, hseen⟩ := ih (hsame ▸ hb)
      exact ⟨c, d, hc, hstep, hd.tail hcd, hseen⟩
    · rw [hy] at hb
      cases later with
      | nil =>
        obtain ⟨rfl, hearlier⟩ := List.cons.inj hb
        exact ⟨_, _, hac, hcd, .refl, hearlier, hearlier ▸ hy⟩
      | cons z later =>
        obtain ⟨c, d, hc, hstep, hd, hseen⟩ := ih (List.cons.inj hb).2
        exact ⟨c, d, hc, hstep, hd.tail hcd, hseen⟩

/-- What is seen in a step is the present moment, or the answer to the innermost request. -/
theorem Step.sees {a b : Situation σ} (h : Step rule fair a b) {x : Sighting library}
    (hx : b.store.seen = x :: a.store.seen) :
    x = .moment a.store.bare ∧ b.store.bare = a.store.bare ∨
      ∃ errands request before answer, a.errands = ⟨request, {}⟩ :: errands ∧
        x = .call request before answer a.store.bare ∧ x.Found := by
  have hnew : b.store.seen ≠ a.store.seen := by
    rw [hx]
    exact List.cons_ne_self x _
  cases h with
  | moved h => exact absurd h.seen hnew
  | asked | kept => exact absurd rfl hnew
  | answered h =>
    obtain ⟨rfl, _⟩ := List.cons.inj hx
    exact .inr ⟨_, _, _, _, rfl, rfl, h⟩
  | noticed =>
    obtain ⟨rfl, _⟩ := List.cons.inj hx
    exact .inl ⟨rfl, rfl⟩

theorem Steps.moment {a b : Situation σ} (h : Steps rule fair a b) {u : Store Unit}
    {later earlier : List (Sighting library)} (hb : b.store.seen = later ++ .moment u :: earlier)
    (ha : a.store.seen.length ≤ earlier.length) :
    ∃ c, Steps rule fair a c ∧ Steps rule fair c b ∧ c.store.bare = u ∧
      c.store.seen = .moment u :: earlier := by
  obtain ⟨c, d, hac, hcd, hdb, hc, hd⟩ := h.saw hb ha
  refine ⟨d, hac.tail hcd, hdb, ?_, hd⟩
  obtain ⟨hmoment, hsame⟩ | ⟨_, _, _, _, _, hcall, _⟩ := hcd.sees (hc ▸ hd)
  · cases hmoment
    exact hsame
  · cases hcall

end Seen

/-- What every step keeps is kept by runs, if all requests are fine. A request is known to be fine
when it is asked for. -/
theorem Program.run_situations {P : Situation σ → Prop} {Fine : Request → Store Unit → Prop}
    (hfair : ∀ request before, Fine request before → request.Fair fair before)
    (hstep : ∀ a b, Step rule fair a b →
      (∀ request, b.errands = ⟨request, {}⟩ :: a.errands → Fine request a.store.bare) → P a → P b)
    (supply : Supply σ) (p : Program library σ) (within : List Request)
    (hobeys : p.Obeys rule within) (errands : List Errand)
    (herrands : errands.map (·.request) = within) :
    Act.Keeps True (fun s => (∀ x ∈ s.seen, x.Meets Fine) → P ⟨errands, s⟩) (p.run supply) := by
  -- Other steps ask for nothing.
  have hquiet : ∀ {a b : Situation σ}, Step rule fair a b → b.errands.length ≤ a.errands.length →
      P a → P b := by
    refine fun {a b} h hlength => hstep a b h fun request heq => ?_
    rw [heq, List.length_cons] at hlength
    exact absurd hlength (Nat.not_succ_le_self _)
  suffices hrun : ∀ errands : List Errand, Act.Keeps True
      (fun s => errands.map (·.request) = within → (∀ x ∈ s.seen, x.Meets Fine) →
        P ⟨errands, s⟩) (p.run supply) by
    intro s hs
    exact (hrun errands s fun _ => hs).mono fun _ t ht => ht herrands
  refine Program.run_keeps_within
    (fun errands within s => errands.map (·.request) = within → (∀ x ∈ s.seen, x.Meets Fine) →
      P ⟨errands, s⟩) supply ?_ ?_ ?_ p within hobeys
  · intro errands within s hs herrands hfine
    exact hquiet .noticed (Nat.le_refl _) (hs herrands fun x hx => hfine x (.tail _ hx))
  · intro errands within own s hs herrands hfine
    exact hquiet (.kept own) (Nat.le_refl _) (hs herrands hfine)
  · intro meanwhile within request hrule hmeanwhile errands s hs
    by_cases hrequest : Fine request s.bare
    · let Q : Hand → Store (Watched library σ) → Prop := fun γ t =>
        (Errand.mk request γ :: errands).map (·.request) = request :: within →
          (∀ x ∈ t.seen, x.Meets Fine) → P ⟨⟨request, γ⟩ :: errands, t⟩
      have hmoves : Host.Moves { supply.hostOf meanwhile with thread := request.thread } fair
          request Q := by
        refine ⟨rfl, ?_, fun γ => ?_⟩
        · intro γ u γ' u' hmove hu herrands hfine
          exact hquiet (.moved hmove) (Nat.le_refl _) (hu herrands (hmove.seen ▸ hfine))
        · exact (supply.watched.host_keeps (hmeanwhile (⟨request, γ⟩ :: errands))).on
            request.thread
      have hasked : Q {} s := by
        intro herrands hfine
        have hwithin := (List.cons.inj herrands).2
        refine hstep _ _ (.asked (hwithin ▸ hrule)) (fun asked heq => ?_) (hs hwithin hfine)
        cases heq
        exact hrequest
      have hdone := hmoves.perform (hfair request s.bare hrequest) hasked
      apply (hdone.and (library_found (supply.hostOf meanwhile) request s.bare s)).mono
      rintro answer t ⟨ht, hfound⟩ herrands hfine
      have hlast := ht (by rw [List.map_cons, herrands]) fun x hx => hfine x (.tail _ hx)
      exact hquiet (.answered hfound) (Nat.le_succ _) hlast
    · apply (Act.wp_outcome _ s).mono
      exact fun _ t _ _ hfine => absurd (hfine _ List.mem_cons_self) hrequest

theorem Program.run_steps (supply : Supply σ) (p : Program library σ) (within : List Request)
    (hobeys : p.Obeys rule within) (a : Situation σ) (errands : List Errand)
    (herrands : errands.map (·.request) = within) :
    Act.Keeps True (fun s => (∀ x ∈ s.seen, x.Fair fair) → Steps rule fair a ⟨errands, s⟩)
      (p.run supply) :=
  Program.run_situations (P := Steps rule fair a) (fun _ _ hfair => hfair)
    (fun _ _ hstep _ ha => ha.tail hstep) supply p within hobeys errands herrands

end ContextualLifecycle
