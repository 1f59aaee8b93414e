import ContextualLifecycle.Proofs.Container.Requests
import ContextualLifecycle.Proofs.Episode.Conservation
import ContextualLifecycle.Proofs.ScopeContext.Holding

namespace ContextualLifecycle

variable {σ : Type}

def Event.restoration? : Event → Option (Contextual × Instance)
  | .restored unit inst => some (unit, inst)
  | _ => none

def Sighting.registered? : Sighting library → Option Bag
  | .call request _ _ _ => request.call.registered?
  | .moment _ => none

namespace Bag

def destructions (b : Bag) (s : Store σ) : Nat := (s.since Event.destruction? 0).count b

def creations (b : Bag) (s : Store σ) : Nat := (s.since Event.creation? 0).count b

def restorations (b : Bag) (s : Store σ) : Nat :=
  (s.since Event.restoration? 0).count (b.contextual, b.inst)

/-- How often the surroundings registered an instance as a dependent of its episode. -/
def registrations (b : Bag) (s : Store (Watched library σ)) : Nat :=
  (s.seen.filterMap Sighting.registered?).count b

/-- Whatever there is or was of an instance arrived before. -/
def Accounted (b : Bag) (hand : List Bag) (s : Store (Watched library σ)) : Prop :=
  ∀ n, b.held s n + b.listed s + hand.count b + b.destructions s ≤
    b.creations s + b.restorations s + b.registrations s

variable {b : Bag} {hand hand' : List Bag} {c : ScopeContext} {s t : Store (Watched library σ)}

theorem destructions_note (b : Bag) (event : Event) (s : Store σ) :
    b.destructions (s.note event) = b.destructions s + event.destruction?.toList.count b := by
  rw [destructions, Store.since_note (Nat.zero_le _), List.count_append, destructions]

theorem creations_note (b : Bag) (event : Event) (s : Store σ) :
    b.creations (s.note event) = b.creations s + event.creation?.toList.count b := by
  rw [creations, Store.since_note (Nat.zero_le _), List.count_append, creations]

theorem restorations_note (b : Bag) (event : Event) (s : Store σ) :
    b.restorations (s.note event) =
      b.restorations s + event.restoration?.toList.count (b.contextual, b.inst) := by
  rw [restorations, Store.since_note (Nat.zero_le _), List.count_append, restorations]

theorem holding_dropCell (c : ScopeContext) (id : ContextualId) (n : Nat) (b : Bag) (s : Store σ) :
    c.holding b (c.dropCell id n s) + (if (s.context c).holds id n ∧ c.live s id = some b then 1
      else 0) = c.holding b s := by
  by_cases hholds : (s.context c).holds id n = true
  · have hentries : ((c.dropCell id n s).context c).entries = (s.context c).entries.erase id := by
      rw [ScopeContext.dropCell, ScopeContext.context_update, if_pos hholds]
    have hcount := ScopeContext.holding_erased hentries b
    simpa only [hholds, true_and] using hcount
  · rw [ScopeContext.dropCell, ScopeContext.holding, ScopeContext.context_update, if_neg hholds,
      if_neg fun hboth => hholds hboth.1, ScopeContext.holding]
    exact Nat.add_zero _

theorem holding_fillCell (c : ScopeContext) (id : ContextualId) (n : Nat) (content : Cell.Content)
    (b : Bag) (s : Store σ) : c.holding b (c.fillCell id n content s) ≤ c.holding b s +
      (if (s.context c).holds id n ∧ (Cell.mk n content).bag? = some b then 1 else 0) := by
  by_cases hholds : (s.context c).holds id n = true
  · have hentries : ((c.fillCell id n content s).context c).entries =
        (s.context c).entries.insert id ⟨n, content⟩ := by
      rw [ScopeContext.fillCell, ScopeContext.context_update, if_pos hholds]
    have hcount := ScopeContext.holding_inserted hentries b
    simp only [hholds, true_and]
    omega
  · rw [ScopeContext.fillCell, ScopeContext.holding, ScopeContext.context_update, if_neg hholds,
      ScopeContext.holding]
    exact Nat.le_add_right _ _

theorem count_cons (b x : Bag) (hand : List Bag) :
    (x :: hand).count b = hand.count b + if x = b then 1 else 0 := by
  rw [List.count_cons]
  simp only [beq_iff_eq]

theorem eq_iff_dependent {x : Bag} (h : b.episode = x.episode) :
    (⟨x.contextual, x.inst⟩ : Dependent) = ⟨b.contextual, b.inst⟩ ↔ x = b := by
  cases b
  cases x
  cases h
  simp only [Dependent.mk.injEq, Bag.mk.injEq, and_true]

theorem count_register (b x : Bag) (r : Episode.Record) (h : b.episode = x.episode) :
    (r.register x.contextual x.inst).dependents.count ⟨b.contextual, b.inst⟩ ≤
      r.dependents.count ⟨b.contextual, b.inst⟩ + if x = b then 1 else 0 := by
  obtain ⟨_, hsame⟩ | ⟨_, hfront | hback⟩ := r.register_cases x.contextual x.inst
  · rw [hsame]
    exact Nat.le_add_right _ _
  · simp only [hfront, List.count_cons, beq_iff_eq, eq_iff_dependent h, Nat.le_refl]
  · simp only [hback, List.count_append, List.count_cons, List.count_nil, beq_iff_eq,
      eq_iff_dependent h, Nat.zero_add, Nat.le_refl]

theorem Accounted.note {event : Event} (h : b.Accounted hand s)
    (hevent : hand'.count b + event.destruction?.toList.count b ≤ hand.count b +
      (event.creation?.toList.count b + event.restoration?.toList.count (b.contextual, b.inst))) :
    b.Accounted hand' (s.note event) := by
  intro n
  have hs := h n
  have hheld : b.held (s.note event) n = b.held s n := held_congr fun c _ => rfl
  have hlisted : b.listed (s.note event) = b.listed s := rfl
  have hregistered : b.registrations (s.note event) = b.registrations s := rfl
  rw [destructions_note, creations_note, restorations_note, hheld, hlisted, hregistered]
  omega

theorem Accounted.context (h : b.Accounted hand s)
    (hothers : ∀ x : ScopeContext, x ≠ c → x.holding b t = x.holding b s)
    (hcontext : c.holding b t + hand'.count b ≤ c.holding b s + hand.count b)
    (hepisodes : t.episodes = s.episodes) (hjournal : t.journal = s.journal)
    (hseen : t.seen = s.seen) : b.Accounted hand' t := by
  have hlisted : b.listed t = b.listed s := by
    rw [listed, Store.episode_congr hepisodes, listed]
  have hsame : b.destructions t = b.destructions s ∧ b.creations t = b.creations s ∧
      b.restorations t = b.restorations s ∧ b.registrations t = b.registrations s := by
    simp only [destructions, creations, restorations, registrations, Store.since, hjournal, hseen,
      and_self]
  intro n
  -- The context has to be among those that are counted.
  have hmono := b.held_mono t (Nat.le_max_left n (c.number + 1))
  have hcount := held_of_others hothers (max n (c.number + 1))
  have hlt : c.number < max n (c.number + 1) :=
    Nat.lt_of_lt_of_le (Nat.lt_succ_self _) (Nat.le_max_right _ _)
  rw [if_pos hlt, if_pos hlt] at hcount
  have hs := h (max n (c.number + 1))
  rw [hlisted, hsame.1, hsame.2.1, hsame.2.2.1, hsame.2.2.2]
  omega

theorem Accounted.update {f : ScopeContext.Record → ScopeContext.Record} (h : b.Accounted hand s)
    (hcontext : c.holding b (c.update f s) + hand'.count b ≤ c.holding b s + hand.count b) :
    b.Accounted hand' (c.update f s) := by
  refine h.context ?_ hcontext rfl rfl rfl
  intro x hx
  rw [ScopeContext.holding, ScopeContext.context_update_of_ne hx, ScopeContext.holding]

theorem Accounted.of_entries (h : b.Accounted hand s)
    (hentries : ∀ x, (t.context x).entries = (s.context x).entries)
    (hepisodes : t.episodes = s.episodes) (hjournal : t.journal = s.journal)
    (hseen : t.seen = s.seen) : b.Accounted hand t := by
  have hsame := fun x => ScopeContext.holding_of_entries (hentries x) b
  exact h.context (c := ⟨0⟩) (fun x _ => hsame x) (Nat.le_of_eq (by rw [hsame])) hepisodes hjournal
    hseen

theorem Accounted.unentered {f : ScopeContext.Record → ScopeContext.Record}
    (h : b.Accounted hand s) (hentries : ∀ r, (f r).entries = r.entries) :
    b.Accounted hand (c.update f s) := by
  refine h.of_entries ?_ rfl rfl rfl
  intro x
  by_cases hx : x = c
  · rw [hx, ScopeContext.context_update, hentries]
  · rw [ScopeContext.context_update_of_ne hx]

theorem Accounted.episode {e : Episode} {f : Episode.Record → Episode.Record}
    (h : b.Accounted hand s)
    (hlisted : b.episode = e → (f (s.episode e)).dependents.count ⟨b.contextual, b.inst⟩ +
      hand'.count b ≤ (s.episode e).dependents.count ⟨b.contextual, b.inst⟩ + hand.count b)
    (hother : b.episode ≠ e → hand'.count b ≤ hand.count b) :
    b.Accounted hand' (e.update f s) := by
  have hcount : b.listed (e.update f s) + hand'.count b ≤ b.listed s + hand.count b := by
    rw [listed, listed, Episode.episode_update]
    split
    · rename_i he
      rw [he]
      exact hlisted he
    · rename_i he
      exact Nat.add_le_add_left (hother he) _
  intro n
  have hs := h n
  have hheld : b.held (e.update f s) n = b.held s n := held_congr fun _ _ => rfl
  have hsame : b.destructions (e.update f s) = b.destructions s ∧
      b.creations (e.update f s) = b.creations s ∧
      b.restorations (e.update f s) = b.restorations s ∧
      b.registrations (e.update f s) = b.registrations s := ⟨rfl, rfl, rfl, rfl⟩
  rw [hheld, hsame.1, hsame.2.1, hsame.2.2.1, hsame.2.2.2]
  omega

theorem Accounted.setCell {id : ContextualId} {cell : Cell} (h : b.Accounted hand s)
    (hcell : (if cell.bag? = some b then 1 else 0) + hand'.count b ≤ hand.count b) :
    b.Accounted hand' (c.setCell id cell s) := by
  have hentries : ((c.setCell id cell s).context c).entries =
      (s.context c).entries.insert id cell :=
    congrArg (·.entries) (ScopeContext.context_update c _ s)
  have hcount := ScopeContext.holding_inserted hentries b
  apply h.update
  change c.holding b (c.setCell id cell s) + _ ≤ _
  omega

theorem Accounted.erase {id : ContextualId} (h : b.Accounted hand s)
    (hhand : hand'.count b ≤ hand.count b + if c.live s id = some b then 1 else 0) :
    b.Accounted hand' (c.takeEntry id s).2 := by
  have hentries : (((c.takeEntry id s).2).context c).entries = (s.context c).entries.erase id :=
    congrArg (·.entries) (ScopeContext.context_update c _ s)
  have hcount := ScopeContext.holding_erased hentries b
  refine h.context (c := c) (fun x hx => ?_) (by omega) rfl rfl rfl
  exact congrArg (·.bags.count b) (ScopeContext.context_update_of_ne hx _ s)

theorem Accounted.new (kind : ScopeKind) (h : b.Accounted hand s) :
    b.Accounted hand (ScopeContext.new kind s).2 := by
  refine h.context (c := ⟨s.nextContext⟩) (fun x hx => ?_) ?_ rfl rfl rfl
  · simp only [ScopeContext.holding, ScopeContext.new, Store.context, Store.setContext,
      Table.get?_insert, if_neg hx]
  · have hnone : ScopeContext.holding ⟨s.nextContext⟩ b (ScopeContext.new kind s).2 = 0 :=
      congrArg (·.bags.count b) (ScopeContext.context_new kind s)
    rw [hnone, Nat.zero_add]
    exact Nat.le_add_left _ _

theorem Accounted.converse (h : b.Accounted hand s) (c : ScopeContext) (id : String)
    (timeout : Duration) : b.Accounted hand (c.converse id timeout s) :=
  (h.unentered (c := c) (f := fun r => { r with active := true }) fun _ => rfl).of_entries
    (fun _ => rfl) rfl rfl rfl

theorem Accounted.claimCell {id : ContextualId} (h : b.Accounted hand s) :
    b.Accounted hand (c.claimCell id s).2 := by
  obtain ⟨_, heq⟩ | ⟨_, _, heq⟩ := ScopeContext.claimCell_cases c id s
  · rw [heq]
    exact h
  · rw [heq]
    have hset : b.Accounted hand (c.setCell id ⟨s.nextCell, .empty⟩ s) :=
      h.setCell (Nat.le_of_eq (Nat.zero_add _))
    exact hset.of_entries (fun _ => rfl) rfl rfl rfl

theorem Accounted.fillCell {id : ContextualId} {n : Nat} {content : Cell.Content}
    (h : b.Accounted hand s)
    (hcell : (if (Cell.mk n content).bag? = some b then 1 else 0) + hand'.count b ≤ hand.count b) :
    b.Accounted hand' (c.fillCell id n content s) := by
  have hcount := holding_fillCell c id n content b s
  apply h.update
  change c.holding b (c.fillCell id n content s) + _ ≤ _
  by_cases hbag : (Cell.mk n content).bag? = some b
  · rw [if_pos hbag] at hcell
    split at hcount <;> omega
  · rw [if_neg fun hboth => hbag hboth.2] at hcount
    omega

theorem Accounted.dropCell {id : ContextualId} {n : Nat} (h : b.Accounted hand s) :
    b.Accounted hand (c.dropCell id n s) := by
  have hcount := holding_dropCell c id n b s
  apply h.update
  change c.holding b (c.dropCell id n s) + _ ≤ _
  omega

theorem Accounted.discard {n : Nat} {x : Bag} (h : b.Accounted hand s) : b.Accounted hand
    (c.dropCell x.contextual.id n (c.fillCell x.contextual.id n (.live x) s)) := by
  have hfill := holding_fillCell c x.contextual.id n (.live x) b s
  have hdrop := holding_dropCell c x.contextual.id n b (c.fillCell x.contextual.id n (.live x) s)
  rw [ScopeContext.holds_fillCell, ScopeContext.live_fillCell] at hdrop
  refine h.context (c := c) (fun y hy => ?_) ?_ rfl rfl rfl
  · rw [ScopeContext.holding, ScopeContext.dropCell, ScopeContext.context_update_of_ne hy,
      ScopeContext.fillCell, ScopeContext.context_update_of_ne hy, ScopeContext.holding]
  · by_cases hholds : (s.context c).holds x.contextual.id n = true
    · simp only [hholds, true_and, and_self, ↓reduceIte] at hfill hdrop
      omega
    · simp only [hholds, false_and, and_false, Bool.false_eq_true, ↓reduceIte] at hfill hdrop
      omega

theorem Accounted.register {x : Bag} (h : b.Accounted (x :: hand) s) :
    b.Accounted hand (x.episode.update (·.register x.contextual x.inst) s) := by
  refine h.episode (fun hx => ?_) fun hx => ?_
  · have hcount := count_register b x (s.episode x.episode) hx
    rw [count_cons]
    omega
  · rw [count_cons, if_neg]
    · exact Nat.le_add_right _ _
    · rintro rfl
      exact hx rfl

theorem Accounted.unlist {e : Episode} {front back : List Dependent} {d : Dependent}
    (h : b.Accounted hand s) (hd : (s.episode e).dependents = front ++ d :: back) :
    b.Accounted (⟨d.contextual, d.inst, e⟩ :: hand) (e.relist (front ++ back) s) := by
  refine h.episode (fun he => ?_) fun he => ?_
  · have hsame := eq_iff_dependent (b := b) (x := ⟨d.contextual, d.inst, e⟩) he
    simp only [hd, List.count_append, List.count_cons, beq_iff_eq, hsame]
    omega
  · rw [count_cons, if_neg]
    · exact Nat.le_refl _
    · rintro rfl
      exact he rfl

variable {host : Host (Watched library σ)}

theorem Accounted.handles (h : ∀ hand, host.Keeps True (b.Accounted hand)) :
    host.Handles b.Accounted where
  remarked hand event s hevent hs := by
    apply hs.note
    cases event <;> first | exact Nat.le_refl _ | cases hevent
  destroying hand x s hs := by
    apply hs.note
    change hand.count b + List.count b [x] ≤ List.count b (x :: hand) + 0
    apply Nat.le_of_eq
    rw [count_cons, count_cons, List.count_nil, Nat.zero_add, Nat.add_zero]
  create hand unit e s := by
    refine (h hand).tends.gives (fun _ _ s hs => hs.note (Nat.le_refl _))
      (fun unit e inst s hs => ?_) unit e
    apply hs.note
    change List.count b (⟨unit, inst, e⟩ :: hand) + 0 ≤
      hand.count b + (List.count b [⟨unit, inst, e⟩] + 0)
    apply Nat.le_of_eq
    rw [count_cons, count_cons, List.count_nil, Nat.zero_add, Nat.add_zero, Nat.add_zero]
  restored hand x s hs := by
    apply hs.note
    change List.count b (x :: hand) + 0 ≤
      hand.count b + (0 + List.count (b.contextual, b.inst) [(x.contextual, x.inst)])
    by_cases hx : x = b
    · simp only [hx, List.count_cons_self, List.count_nil]
      omega
    · simp only [List.count_cons_of_ne hx]
      omega
  described hand e f s hf _ hs := by
    refine hs.episode (fun _ => ?_) fun _ => Nat.le_refl _
    exact Nat.le_of_eq (by rw [hf])
  begun hand contextual outer factor s hs := by
    have hset : b.Accounted hand (Episode.update ⟨s.nextEpisode⟩ (fun _ => {
        contextual, bean := contextual.bind Contextual.asBean?, outer,
        teardownFactor := max factor 1 }) s) :=
      hs.episode (fun _ => Nat.add_le_add_right (Nat.zero_le _) _) fun _ => Nat.le_refl _
    exact hset.of_entries (fun _ => rfl) rfl rfl rfl
  registered _ _ _ hs := hs.register
  unlisted _ _ _ _ _ _ hd hs := hs.unlist hd
  stacked _ _ _ _ hs := hs.of_entries (fun _ => rfl) rfl rfl rfl
  claimed _ _ _ _ hs := hs.claimCell
  filling _ _ _ _ _ hs := hs.fillCell (Nat.le_of_eq (Nat.zero_add _))
  filled hand _ n x _ hs := by
    apply hs.fillCell
    rw [count_cons, Nat.add_comm]
    simp only [Cell.bag?, Option.some.injEq, Nat.le_refl]
  dropped _ _ _ _ _ hs := hs.dropCell
  discarded _ _ _ _ _ hs := hs.discard
  placed hand c x s hs := by
    have hnext : b.Accounted (x :: hand) { s with nextCell := s.nextCell + 1 } :=
      hs.of_entries (fun _ => rfl) rfl rfl rfl
    apply hnext.setCell
    rw [count_cons, Nat.add_comm]
    simp only [Cell.bag?, Option.some.injEq, Nat.le_refl]
  taken hand c id s hs := by
    apply hs.erase
    rw [List.count_append, Nat.add_comm]
    cases c.live s id with
    | none => exact Nat.le_refl _
    | some x =>
      rw [Option.toList_some, count_cons, List.count_nil, Nat.zero_add]
      simp only [Option.some.injEq, Nat.le_refl]
  tends hand := (h hand).tends

theorem Accounted.sustains (h : ∀ hand, host.Keeps True (b.Accounted hand)) :
    host.Sustains b.Accounted where
  toHandles := handles h
  notify hand := (h hand).notify
  notified _ _ _ _ _ _ hs := hs.note (Nat.le_refl _)
  opened _ kind _ hs := hs.new kind
  switched _ _ _ _ hs := hs.unentered fun _ => rfl
  emptied _ _ _ hs := hs.unentered (f := fun r => { r with conversations := ∅ }) fun _ => rfl
  removed _ _ id _ hs :=
    hs.unentered (f := fun r => { r with conversations := r.conversations.erase id }) fun _ => rfl
  vacated _ _ _ _ _ hs := hs.of_entries (fun _ => rfl) rfl rfl rfl
  occupied _ _ _ _ _ _ hs := hs.of_entries (fun _ => rfl) rfl rfl rfl
  shared _ _ _ _ hs := hs.of_entries (fun _ => rfl) rfl rfl rfl

theorem Accounted.upholds (h : ∀ hand, host.Keeps True (b.Accounted hand)) :
    host.Upholds fun _ => b.Accounted where
  handles _ := handles h
  sustains _ := sustains h
  added _ hand session draw start timeout s hs := by
    let id := draw ((session.addTransient draw start timeout s).1.2 - 1)
    have hactive : b.Accounted hand (ScopeContext.newActive .conversation s).2 :=
      (hs.new .conversation).unentered (f := fun r => { r with active := true }) fun _ => rfl
    have hmade : b.Accounted hand (Conversation.newTransient id timeout s).2 :=
      hactive.of_entries (fun _ => rfl) rfl rfl rfl
    exact hmade.unentered
      (f := fun r => { r with conversations := r.conversations.insert id _ }) fun _ => rfl
  conversed _ _ _ _ _ _ hs := hs.of_entries (fun _ => rfl) rfl rfl rfl
  container _ _ _ _ _ hs := hs.of_entries (fun _ => rfl) rfl rfl rfl
  counted _ _ _ _ hs := hs.of_entries (fun _ => rfl) rfl rfl rfl
  waited _ _ _ _ hs := hs.of_entries (fun _ => rfl) rfl rfl rfl
  rescoped _ _ _ _ _ _ hs := hs.of_entries (fun _ => rfl) rfl rfl rfl
  forgotten _ _ _ _ _ hs := hs.of_entries (fun _ => rfl) rfl rfl rfl
  begun _ _ kind _ hs := hs.new kind
  done _ _ _ _ hs := hs
  converse c _ _ id timeout _ hs := hs.converse c id timeout
  listed c _ _ id timeout _ _ hs _ := (hs.converse c id timeout).unentered fun _ => rfl

theorem registrations_saw (b : Bag) (sighting : Sighting library) (s : Store (Watched library σ)) :
    b.registrations (s.saw sighting) = b.registrations s + sighting.registered?.toList.count b := by
  simp only [registrations, Store.seen_saw, List.filterMap_cons]
  cases sighting.registered? with
  | none => rfl
  | some x => rw [count_cons, Option.toList_some, count_cons, List.count_nil, Nat.zero_add]

theorem Accounted.saw (h : b.Accounted hand s) (sighting : Sighting library)
    (hlisted : b.listed t ≤ b.listed s + sighting.registered?.toList.count b)
    (hcontexts : t.contexts = s.contexts) (hjournal : t.journal = s.journal)
    (hseen : t.seen = s.seen) : b.Accounted hand (t.saw sighting) := by
  intro n
  have hs := h n
  have hheld : b.held (t.saw sighting) n = b.held s n := held_congr fun c _ => by
    have hcontext : (t.saw sighting).context c = s.context c := Store.context_congr hcontexts c
    rw [ScopeContext.holding, hcontext, ScopeContext.holding]
  have hsame : b.destructions (t.saw sighting) = b.destructions s ∧
      b.creations (t.saw sighting) = b.creations s ∧
      b.restorations (t.saw sighting) = b.restorations s ∧
      b.registrations t = b.registrations s := by
    simp only [destructions, creations, restorations, registrations, Store.since, hseen, Store.saw,
      hjournal, and_self]
  have hkept : b.listed (t.saw sighting) = b.listed t := rfl
  rw [hheld, hkept, hsame.1, hsame.2.1, hsame.2.2.1, registrations_saw, hsame.2.2.2]
  omega

/-- Programs keep the account, whatever they do. -/
theorem accounted_run (supply : Supply σ) (p : Program library σ) (b : Bag) (hand : List Bag) :
    Act.Keeps True (b.Accounted hand) (p.run supply) := by
  refine Program.run_keeps_each supply ?_ ?_ ?_ p hand
  · exact fun hand s hs => hs.saw (.moment s.bare) (Nat.le_add_right _ _) rfl rfl rfl
  · exact fun hand own s hs => hs.of_entries (fun _ => rfl) rfl rfl rfl
  intro during hduring hand request s hs
  have hhost := fun hand => (supply.watched.host_keeps (hduring hand)).on request.thread
  cases hcall : request.call.registered? with
  | none =>
    have hperform := request.call.perform_upheld (Accounted.upholds hhost) [] hand
      fun _ _ hsome => absurd hsome (by rw [hcall]; exact nofun)
    exact (hperform s hs).mono fun answer t ht => ht.saw _ (Nat.le_add_right _ _) rfl rfl rfl
  | some x =>
    obtain ⟨thread, call⟩ := request
    have hadd : call = .addDependent x.episode x.contextual (some x.inst) := by
      cases call with
      | addDependent e unit inst =>
        cases inst with
        | none => cases hcall
        | some inst =>
          cases hcall
          rfl
      | _ => cases hcall
    subst hadd
    change b.Accounted hand (Store.saw _ (x.episode.update (·.register x.contextual x.inst) s))
    refine hs.saw _ ?_ rfl rfl rfl
    rw [listed, listed, Episode.episode_update]
    change _ ≤ _ + List.count b [x]
    rw [count_cons, List.count_nil, Nat.zero_add]
    split
    · rename_i heq
      rw [heq]
      exact count_register b x (s.episode x.episode) heq
    · exact Nat.le_add_right _ _

/-- Whatever programs do, an instance is destroyed for its episode no more often than it was created
or restored, or registered as a dependent by the surroundings. -/
theorem destructions_le (supply : Supply σ) (own : σ) (p : Program library σ) (b : Bag)
    {r : Except LifecycleError Unit} {t : Store (Watched library σ)}
    (h : (p.run supply).run.run (Store.watched { surroundings := own }) = some (r, t)) :
    b.destructions t ≤ b.creations t + b.restorations t + b.registrations t := by
  let s : Store (Watched library σ) := Store.watched { surroundings := own }
  have hstart : b.Accounted [] s := by
    intro n
    have hheld : b.held s n = 0 := by
      induction n with
      | zero => rfl
      | succ n ih => exact Nat.add_eq_zero_iff.2 ⟨ih, rfl⟩
    rw [hheld]
    exact Nat.le_refl _
  have hend := (Act.wp_of_run h).1 (accounted_run supply p b [] _ hstart) 0
  omega

theorem creations_of_unknown {s : Store σ} (h : ¬ s.Knows b.inst) : b.creations s = 0 := by
  rw [creations, List.count_eq_zero]
  intro hin
  obtain ⟨event, hevent, hcreated⟩ := List.mem_filterMap.1 hin
  refine h (.inl ⟨event, List.mem_of_mem_drop hevent, ?_⟩)
  cases event with
  | created unit e inst =>
    cases hcreated
    rfl
  | _ => cases hcreated

section Fresh

variable {supply : Supply σ} {during : Callback → Act (Watched library σ) Unit}

theorem creation_le_one (hfresh : supply.Fresh)
    (hduring : ∀ cb, Act.Keeps True (fun s => b.creations s ≤ 1) (during cb)) (thread : Thread)
    (unit : Contextual) (e : Episode) (hs : b.creations s ≤ 1) :
    Act.wp True (unit.create { supply.watched.host during with thread } e)
      (fun _ t => b.creations t ≤ 1) s := by
  have hcreating : b.creations (s.note (.creating unit e)) ≤ 1 := by
    rw [creations_note]
    exact hs
  simp only [Contextual.create, Act.wp_bind, Act.wp_modify, Act.wp_pure]
  apply Supply.wp_create (hduring (.create unit e) _ hcreating)
  · intro t ht
    let inst := supply.inst (.create unit e) t.unwatched
    change b.creations (t.note (.created unit e inst)) ≤ 1
    have hunknown : ¬ t.unwatched.Knows inst := hfresh unit e t.unwatched
    rw [creations_note]
    change b.creations t + List.count b [⟨unit, inst, e⟩] ≤ 1
    by_cases hb : (⟨unit, inst, e⟩ : Bag) = b
    · have hnone : b.creations t = 0 := creations_of_unknown (s := t.unwatched) (hb ▸ hunknown)
      exact Nat.le_of_eq (by rw [hnone, hb, List.count_singleton_self])
    · rw [List.count_singleton, if_neg (by simpa using hb)]
      exact ht
  · exact fun error t ht => ht

theorem upholds_creations (hfresh : supply.Fresh)
    (hduring : ∀ cb, Act.Keeps True (fun s => b.creations s ≤ 1) (during cb)) (thread : Thread) :
    ({ supply.watched.host during with thread } : Host (Watched library σ)).Upholds
      fun _ _ s => b.creations s ≤ 1 := by
  refine Host.upholds_of_journal ((supply.watched.host_keeps hduring).on thread) ?_ ?_
    fun unit e s hs => creation_le_one hfresh hduring thread unit e hs
  · intro s t hjournal hs
    rw [creations, Store.since, hjournal]
    exact hs
  · intro event s hevent hs
    rw [creations_note]
    cases event with
    | created unit e inst => exact absurd rfl (hevent unit e inst)
    | _ => exact hs

/-- If instances are fresh, no instance is created twice for one episode. -/
theorem creations_le_one (hfresh : supply.Fresh) (own : σ) (p : Program library σ) (b : Bag)
    {r : Except LifecycleError Unit} {t : Store (Watched library σ)}
    (h : (p.run supply).run.run (Store.watched { surroundings := own }) = some (r, t)) :
    b.creations t ≤ 1 := by
  have hrun : Act.Keeps True (fun s => b.creations s ≤ 1) (p.run supply) := by
    refine Program.run_keeps supply (fun _ hs => hs) (fun _ _ hs => hs) ?_ p
    intro during hduring request s hs
    have hperform := request.call.perform_upheld
      (upholds_creations hfresh hduring request.thread) [] [] fun _ _ _ hs => hs
    exact hperform s hs
  exact (Act.wp_of_run h).1 (hrun _ (Nat.zero_le _))

end Fresh

end Bag

end ContextualLifecycle
