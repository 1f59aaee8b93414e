import ContextualLifecycle.Proofs.Closing.Steps

namespace ContextualLifecycle.Closing

variable {σ : Type} {w : Closing σ} {owed : Debt → Prop} {s t : Store (Watched library σ)}
  {c : ScopeContext} {id : ContextualId}

/-- Only the cell for one id changes. What is lost with it is destroyed, and what it gets is handed
out anew. -/
structure CellChange (w : Closing σ) (owed : Debt → Prop) (c : ScopeContext) (id : ContextualId)
    (s t : Store (Watched library σ)) : Prop where
  precedes : s.Precedes t
  contexts : t.nextContext = s.nextContext
  serials : s.nextCell ≤ t.nextCell
  other : ∀ x : ScopeContext, x ≠ c → t.context x = s.context x
  active : (t.context c).active = (s.context c).active
  conversations : (t.context c).conversations = (s.context c).conversations
  entries : ∀ x, x ≠ id → (t.context c).entries.get? x = (s.context c).entries.get? x
  holding : ∀ b, c.holding b t + (if c.live s id = some b then 1 else 0) =
    c.holding b s + (if c.live t id = some b then 1 else 0)
  issued : c.live s id ≠ none → c.number < s.nextContext
  cell : ∀ n, (t.context c).holds id n = true → (s.context c).holds id n = true ∨
    s.nextCell ≤ n ∧ n < t.nextCell ∧ c.number < t.nextContext
  filling : ¬ owed (.filling c id) → ∀ n,
    (s.context c).entries.get? id = some ⟨n, .filling⟩ → n < s.nextCell →
    (t.context c).holds id n = true → (t.context c).entries.get? id = some ⟨n, .filling⟩
  refused : c.number < w.known → (s.context c).active = false →
    (s.context c).entries.get? id = none → (t.context c).entries.get? id = none
  entry : ¬ owed (.entry c id) → c.number < w.known → ∀ n b,
    (s.context c).entries.get? id = some ⟨n, .live b⟩ →
    (t.context c).entries.get? id = some ⟨n, .live b⟩
  gone : c.number < w.known → ∀ b, c.live s id = some b → 1 ≤ b.ended s t ∨ c.live t id = some b
  once : ∀ b : Bag, ¬ b.Anew s t → b.ended s t + (if c.live t id = some b then 1 else 0) +
    b.listed t ≤ (if c.live s id = some b then 1 else 0) + b.listed s
  attached : ∀ (m : Container) thread kind c, m.attached thread kind t = some c →
    m.attached thread kind s = some c
  notices : t.since Event.ended? s.journal.size = []

namespace CellChange

theorem conversation (h : CellChange w owed c id s t) (x : ScopeContext) (y : String) :
    x.conversation? y t = x.conversation? y s := by
  by_cases hx : x = c
  · rw [ScopeContext.conversation?, hx, h.conversations]
    rfl
  · rw [ScopeContext.conversation?, h.other x hx]
    rfl

theorem get? (h : CellChange w owed c id s t) {x : ScopeContext} {y : ContextualId}
    (hne : ¬ (x = c ∧ y = id)) :
    (t.context x).entries.get? y = (s.context x).entries.get? y := by
  by_cases hx : x = c
  · rw [hx, h.entries y fun hy => hne ⟨hx, hy⟩]
  · rw [h.other x hx]

theorem held (h : CellChange w owed c id s t) (b : Bag) (n : Nat) :
    b.held t n + (if c.number < n then c.holding b s else 0) =
      b.held s n + (if c.number < n then c.holding b t else 0) :=
  Bag.held_of_others (fun x hx => holding_other (h.other x hx) b) n

theorem known_le (h : CellChange w owed c id s t) (b : Bag) :
    b.held s w.known ≤ b.ended s t + b.held t w.known := by
  have hsum := h.held b w.known
  have hself := h.holding b
  by_cases hc : c.number < w.known
  · rw [if_pos hc, if_pos hc] at hsum
    by_cases hlive : c.live s id = some b
    · rw [if_pos hlive] at hself
      rcases h.gone hc b hlive with hended | hstill
      · omega
      · rw [if_pos hstill] at hself
        omega
    · rw [if_neg hlive] at hself
      omega
  · rw [if_neg hc, if_neg hc] at hsum
    omega

/-- What is not handed out anew is destroyed no more often than there was of it. -/
theorem ended_le (h : CellChange w owed c id s t) {b : Bag} (hb : ¬ b.Anew s t) :
    b.ended s t + b.held t t.nextContext + b.listed t ≤ b.held s s.nextContext + b.listed s := by
  have hsum := h.held b s.nextContext
  have hself := h.holding b
  have hcount := h.once b hb
  rw [h.contexts]
  by_cases hc : c.number < s.nextContext
  · rw [if_pos hc, if_pos hc] at hsum
    omega
  · rw [if_neg hc, if_neg hc] at hsum
    have hlive : c.live s id ≠ some b := by
      intro hlive
      exact hc (h.issued (by rw [hlive]; exact Option.some_ne_none b))
    rw [if_neg hlive] at hcount
    omega

theorem ebbs (h : CellChange w owed c id s t) : w.Ebbs owed s t where
  toPrecedes := h.precedes
  contexts := Nat.le_of_eq h.contexts.symm
  serials := h.serials
  cells x y n ht := by
    by_cases hxy : x = c ∧ y = id
    · obtain ⟨rfl, rfl⟩ := hxy
      exact h.cell n ht
    · rw [ScopeContext.Record.holds, h.get? hxy] at ht
      exact .inl ht
  filling x y n hd hn hs ht := by
    by_cases hxy : x = c ∧ y = id
    · obtain ⟨rfl, rfl⟩ := hxy
      exact h.filling hd n hs hn ht
    · rwa [h.get? hxy]
  active x ht := by
    by_cases hx : x = c
    · rw [hx, h.active] at ht
      exact .inl (hx ▸ ht)
    · rw [h.other x hx] at ht
      exact .inl ht
  refused x hx hs y hy := by
    by_cases hxy : x = c ∧ y = id
    · obtain ⟨rfl, rfl⟩ := hxy
      exact h.refused hx hs hy
    · rwa [h.get? hxy]
  conversations x y v _ hv := by rwa [h.conversation] at hv
  unclaimed v _ hv x y := by
    rw [h.conversation]
    exact hv x y
  emptied x _ _ hs ht := by
    by_cases hx : x = c
    · rw [hx, h.active, ← hx, hs] at ht
      cases ht
    · rw [h.other x hx, hs] at ht
      cases ht
  entries x y n b hd hx hs := by
    by_cases hxy : x = c ∧ y = id
    · obtain ⟨rfl, rfl⟩ := hxy
      exact .inl (h.entry hd hx n b hs)
    · exact .inl (by rwa [h.get? hxy])
  gone := h.known_le
  once _ := h.ended_le
  attached := h.attached
  silent m kind x _ _ _ hin := by
    rw [h.notices] at hin
    cases hin
  heard x _ _ _ := by
    rw [ScopeContext.heard, h.notices, List.countP_nil]
    exact ⟨Nat.zero_le _, fun _ => rfl⟩

end CellChange

theorem ebbs_absentTaken (h : c.live s id = none) : w.Ebbs owed s (c.takeEntry id s).2 := by
  let t := (c.takeEntry id s).2
  have hself : t.context c = { s.context c with entries := (s.context c).entries.erase id } :=
    ScopeContext.context_update c _ s
  have hget : ∀ x, (t.context c).entries.get? x =
      if x = id then none else (s.context c).entries.get? x := by
    intro x
    rw [hself, Table.get?_erase]
  have hgone : (t.context c).entries.get? id = none := by rw [hget, if_pos rfl]
  have hlive : c.live t id = none := by rw [ScopeContext.live, hgone, Option.bind_none]
  have hchange : CellChange w owed c id s t := {
    precedes := ⟨List.prefix_refl _, List.suffix_refl _⟩
    contexts := rfl
    serials := Nat.le_refl _
    other := fun x hx => ScopeContext.context_update_of_ne hx _ s
    active := by rw [hself]
    conversations := by rw [hself]
    entries := fun x hx => by rw [hget, if_neg hx]
    holding := fun b => by
      rw [hlive, ScopeContext.holding_erased (by rw [hself]) b]
      simp
    issued := fun hne => absurd h hne
    cell := fun n hn => by
      rw [ScopeContext.Record.holds, hgone] at hn
      cases hn
    filling := fun _ n _ _ hn => by
      rw [ScopeContext.Record.holds, hgone] at hn
      cases hn
    refused := fun _ _ _ => hgone
    entry := fun _ _ n b hb => by
      rw [ScopeContext.live, hb] at h
      cases h
    gone := fun _ b hb => by
      rw [h] at hb
      cases hb
    once := fun b _ => by
      have hended : b.ended s t = 0 := b.ended_of_journal rfl
      rw [hended, hlive, h]
      simp only [reduceCtorEq, ↓reduceIte, Nat.zero_add]
      exact Nat.le_refl _
    attached := fun _ _ _ _ h => h
    notices := Store.since_of_journal rfl }
  exact hchange.ebbs

theorem ebbs_entryTaken {b : Bag} (hs : s.Issued) (h : c.live s id = some b) :
    w.Ebbs (· = .entry c id) s
      ((c.takeEntry id s).2.note (.destroying b.contextual b.inst b.episode)) := by
  let t := (c.takeEntry id s).2.note (.destroying b.contextual b.inst b.episode)
  have hcontext := context_of_insert (s := s) (t := t) (c := c)
    (r := { s.context c with entries := (s.context c).entries.erase id }) rfl
  have hself : t.context c = { s.context c with entries := (s.context c).entries.erase id } := by
    rw [hcontext, if_pos rfl]
  have hget : ∀ x, (t.context c).entries.get? x =
      if x = id then none else (s.context c).entries.get? x := by
    intro x
    rw [hself, Table.get?_erase]
  have hgone : (t.context c).entries.get? id = none := by rw [hget, if_pos rfl]
  have hlive : c.live t id = none := by rw [ScopeContext.live, hgone, Option.bind_none]
  have hended : ∀ b' : Bag, b'.ended s t = [b].count b' :=
    fun b' => ended_note b' (.destroying b.contextual b.inst b.episode) s
  have hprecedes := precedes_note (.destroying b.contextual b.inst b.episode) s
  have hissued : c.number < s.nextContext := by
    obtain ⟨cell, hcell, _⟩ := Option.bind_eq_some_iff.1 h
    exact (hs.cell c id cell hcell).2
  have hchange : CellChange w (· = .entry c id) c id s t := {
    precedes := ⟨hprecedes.journal, hprecedes.seen⟩
    contexts := rfl
    serials := Nat.le_refl _
    other := fun x hx => by rw [hcontext, if_neg hx]
    active := by rw [hself]
    conversations := by rw [hself]
    entries := fun x hx => by rw [hget, if_neg hx]
    holding := fun b' => by
      rw [hlive, ScopeContext.holding_erased (by rw [hself]) b']
      simp
    issued := fun _ => hissued
    cell := fun n hn => by
      rw [ScopeContext.Record.holds, hgone] at hn
      cases hn
    filling := fun _ n _ _ hn => by
      rw [ScopeContext.Record.holds, hgone] at hn
      cases hn
    refused := fun _ _ _ => hgone
    entry := fun hd => absurd rfl hd
    gone := fun _ b' hb' => by
      rw [h] at hb'
      cases hb'
      rw [hended, List.count_singleton_self]
      exact .inl (Nat.le_refl _)
    once := fun b' _ => by
      rw [hended, hlive, h, List.count_singleton]
      simp only [reduceCtorEq, ↓reduceIte, Nat.add_zero, beq_iff_eq, Option.some.injEq]
      exact Nat.le_refl _
    attached := fun _ _ _ _ h => h
    notices := Store.since_self_note (.destroying b.contextual b.inst b.episode) s }
  exact hchange.ebbs

theorem ebbs_inserted (cell : Cell)
    (hcontexts : t.contexts = s.contexts.insert c
      { s.context c with entries := (s.context c).entries.insert id cell })
    (hnext : t.nextContext = s.nextContext) (hserials : s.nextCell ≤ t.nextCell)
    (hprecedes : s.Precedes t) (hissued : c.number < s.nextContext)
    (hcell : (s.context c).holds id cell.serial = true ∨
      s.nextCell ≤ cell.serial ∧ cell.serial < t.nextCell)
    (hfilling : ¬ owed (.filling c id) → cell.serial < s.nextCell → cell.content = .filling ∨
      (s.context c).entries.get? id ≠ some ⟨cell.serial, .filling⟩)
    (hrefused : c.number < w.known → (s.context c).active = true ∨
      (s.context c).entries.get? id ≠ none)
    (hlive : c.number < w.known → c.live s id = none)
    (hanew : ∀ b, cell.bag? = some b → b.Anew s t)
    (hended : t.since Event.destruction? s.journal.size = [])
    (hlisted : ∀ b : Bag, b.listed t ≤ b.listed s)
    (hattached : ∀ (m : Container) thread kind c, m.attached thread kind t = some c →
      m.attached thread kind s = some c)
    (hnotices : t.since Event.ended? s.journal.size = []) : w.Ebbs owed s t := by
  have hcontext := context_of_insert hcontexts
  have hself : t.context c =
      { s.context c with entries := (s.context c).entries.insert id cell } := by
    rw [hcontext, if_pos rfl]
  have hget : ∀ x, (t.context c).entries.get? x =
      if x = id then some cell else (s.context c).entries.get? x := by
    intro x
    rw [hself, Table.get?_insert]
  have hput : (t.context c).entries.get? id = some cell := by rw [hget, if_pos rfl]
  have hput' : c.live t id = cell.bag? := by rw [ScopeContext.live, hput, Option.bind_some]
  have hholds : ∀ n, (t.context c).holds id n = true ↔ cell.serial = n := by
    intro n
    rw [ScopeContext.Record.holds, hput, Option.any_some, beq_iff_eq]
  have hnone : ∀ b : Bag, b.ended s t = 0 := by
    intro b
    rw [Bag.ended, hended, List.count_nil]
  have hchange : CellChange w owed c id s t := {
    precedes := hprecedes
    contexts := hnext
    serials := hserials
    other := fun x hx => by rw [hcontext, if_neg hx]
    active := by rw [hself]
    conversations := by rw [hself]
    entries := fun x hx => by rw [hget, if_neg hx]
    holding := fun b => by
      rw [hput']
      exact ScopeContext.holding_inserted (by rw [hself]) b
    issued := fun _ => hissued
    cell := fun n hn => by
      rw [← (hholds n).1 hn]
      exact hcell.imp_right fun hnew => ⟨hnew.1, hnew.2, hnext ▸ hissued⟩
    filling := fun hd n hs hn ht => by
      obtain rfl := (hholds n).1 ht
      rcases hfilling hd hn with hcontent | hne
      · rw [hput, ← hcontent]
      · exact absurd hs hne
    refused := fun hc hinactive habsent => by
      rcases hrefused hc with hactive | hpresent
      · rw [hinactive] at hactive
        cases hactive
      · exact absurd habsent hpresent
    entry := fun _ hc n b hb => by
      have hnot := hlive hc
      rw [ScopeContext.live, hb] at hnot
      cases hnot
    gone := fun hc b hb => by
      rw [hlive hc] at hb
      cases hb
    once := fun b hb => by
      have hne : c.live t id ≠ some b := by
        rw [hput']
        exact fun heq => hb (hanew b heq)
      have hle := hlisted b
      rw [hnone, if_neg hne]
      omega
    attached := hattached
    notices := hnotices }
  exact hchange.ebbs

theorem ebbs_claimed (hs : s.Issued) (hactive : (s.context c).active = true)
    (habsent : c.live s id = none) : w.Ebbs owed s (c.claimCell id s).2 := by
  obtain ⟨_, heq⟩ | ⟨hnone, _, heq⟩ := c.claimCell_cases id s
  · rw [heq]
    exact .refl owed s
  · rw [heq]
    refine ebbs_inserted (c := c) ⟨s.nextCell, .empty⟩ rfl rfl (Nat.le_succ _)
      ⟨List.prefix_refl _, List.suffix_refl _⟩ (hs.active c hactive)
      (.inr ⟨Nat.le_refl _, Nat.lt_succ_self _⟩)
      (fun _ hlt => absurd hlt (Nat.lt_irrefl _)) (fun _ => .inl hactive) (fun _ => habsent)
      (fun b hb => by cases hb) (Store.since_of_journal rfl) (fun _ => Nat.le_refl _)
      (fun _ _ _ _ h => h) (Store.since_of_journal rfl)

theorem ebbs_rewritten {f : ScopeContext.Record → ScopeContext.Record}
    (hf : f (s.context c) = s.context c) : w.Ebbs owed s (c.update f s) := by
  refine ebbs_of_context ?_ rfl (Nat.le_refl _) ⟨List.prefix_refl _, List.suffix_refl _⟩ ?_
    (fun _ _ _ _ h => h) ?_
  · intro x
    by_cases hx : x = c
    · rw [hx, ScopeContext.context_update, hf]
    · exact ScopeContext.context_update_of_ne hx _ _
  · intro b _
    have hended : b.ended s (c.update f s) = 0 := b.ended_of_journal rfl
    rw [hended, Nat.zero_add]
    exact Nat.le_refl _
  · have hquiet : (c.update f s).since Event.ended? s.journal.size = [] :=
      Store.since_of_journal rfl
    rw [hquiet]
    exact fun _ hx => by cases hx

theorem fillCell_of_holds {n : Nat} (content : Cell.Content)
    (hholds : (s.context c).holds id n = true) :
    (c.fillCell id n content s).contexts = s.contexts.insert c
      { s.context c with entries := (s.context c).entries.insert id ⟨n, content⟩ } := by
  simp only [ScopeContext.fillCell, ScopeContext.update, Store.setContext, hholds, ↓reduceIte]

theorem dropCell_of_holds {n : Nat} (hholds : (s.context c).holds id n = true) :
    c.dropCell id n s = (c.takeEntry id s).2 := by
  simp only [ScopeContext.dropCell, ScopeContext.takeEntry, ScopeContext.update, hholds, ↓reduceIte]

theorem issued_of_holds {n : Nat} (hs : s.Issued) (hholds : (s.context c).holds id n = true) :
    (s.context c).entries.get? id ≠ none ∧ n < s.nextCell ∧ c.number < s.nextContext := by
  obtain ⟨cell, hcell, hserial⟩ := (Option.any_eq_true _ _).1 hholds
  obtain ⟨hlt, hc⟩ := hs.cell c id cell hcell
  rw [hcell, ← eq_of_beq hserial]
  exact ⟨Option.some_ne_none cell, hlt, hc⟩

theorem ebbs_filling (hs : s.Issued) (n : Nat) (habsent : c.live s id = none) :
    w.Ebbs owed s (c.fillCell id n .filling s) := by
  cases hholds : (s.context c).holds id n with
  | false => exact ebbs_rewritten (by rw [hholds, if_neg Bool.false_ne_true])
  | true =>
    obtain ⟨hsome, hn, hc⟩ := issued_of_holds hs hholds
    exact ebbs_inserted ⟨n, .filling⟩ (fillCell_of_holds .filling hholds) rfl
      (Nat.le_refl _) ⟨List.prefix_refl _, List.suffix_refl _⟩ hc (.inl hholds)
      (fun _ _ => .inl rfl) (fun _ => .inr hsome) (fun _ => habsent) (fun b hb => by cases hb)
      (Store.since_of_journal rfl) (fun _ => Nat.le_refl _) (fun _ _ _ _ h => h)
      (Store.since_of_journal rfl)

theorem ebbs_installed (hs : s.Issued) (unit : Contextual) (inst : Instance) (e : Episode) {n : Nat}
    (hd : owed (.filling c unit.id))
    (habsent : (s.context c).holds unit.id n = true → c.live s unit.id = none) :
    w.Ebbs owed s
      (c.fillCell unit.id n (.live ⟨unit, inst, e⟩) (s.note (.created unit e inst))) := by
  have hprecedes := precedes_note (.created unit e inst) s
  cases hholds : (s.context c).holds unit.id n with
  | false =>
    have hnoted : w.Settles s (s.note (.created unit e inst)) := settles_note rfl rfl s
    refine hnoted.owing.trans (ebbs_rewritten ?_)
    change (if (s.context c).holds unit.id n then _ else _) = s.context c
    rw [hholds, if_neg Bool.false_ne_true]
    rfl
  | true =>
    obtain ⟨hsome, hn, hc⟩ := issued_of_holds hs hholds
    refine ebbs_inserted ⟨n, .live ⟨unit, inst, e⟩⟩
      (fillCell_of_holds (.live ⟨unit, inst, e⟩) hholds) rfl (Nat.le_refl _)
      ⟨hprecedes.journal, hprecedes.seen⟩ hc (.inl hholds) (fun hnot => absurd hd hnot)
      (fun _ => .inr hsome) (fun _ => habsent hholds) ?_
      (Store.since_self_note (.created unit e inst) s) (fun _ => Nat.le_refl _) (fun _ _ _ _ h => h)
      (Store.since_self_note (.created unit e inst) s)
    intro b hb
    cases hb
    exact anew_of_note (.created unit e inst) rfl
      ⟨List.prefix_refl _, List.suffix_refl _⟩

theorem ebbs_dropped {n : Nat}
    (habsent : (s.context c).holds id n = true → c.live s id = none) :
    w.Ebbs owed s (c.dropCell id n s) := by
  cases hholds : (s.context c).holds id n with
  | false => exact ebbs_rewritten (by rw [hholds, if_neg Bool.false_ne_true])
  | true =>
    rw [dropCell_of_holds hholds]
    exact ebbs_absentTaken (habsent hholds)

theorem ebbs_discarded (hs : s.Issued) (unit : Contextual) (inst : Instance) (e : Episode) {n : Nat}
    (hd : owed (.filling c unit.id)) (hd' : owed (.entry c unit.id))
    (habsent : (s.context c).holds unit.id n = true → c.live s unit.id = none) :
    w.Ebbs owed s ((c.dropCell unit.id n (c.fillCell unit.id n (.live ⟨unit, inst, e⟩)
      (s.note (.created unit e inst)))).note (.destroying unit inst e)) := by
  let b : Bag := ⟨unit, inst, e⟩
  let filled := c.fillCell unit.id n (.live b) (s.note (.created unit e inst))
  have hfilled : w.Ebbs owed s filled := ebbs_installed hs unit inst e hd habsent
  have hstill : (filled.context c).holds unit.id n = (s.context c).holds unit.id n :=
    ScopeContext.holds_fillCell unit.id n (.live b) (s.note (.created unit e inst))
  cases hholds : (s.context c).holds unit.id n with
  | true =>
    have hlive : c.live filled unit.id = some b := by
      refine (ScopeContext.live_fillCell unit.id unit.id n (.live b) _).trans ?_
      exact if_pos ⟨rfl, hholds⟩
    have hdropped : c.dropCell unit.id n filled = (c.takeEntry unit.id filled).2 :=
      dropCell_of_holds (hstill.trans hholds)
    change w.Ebbs owed s ((c.dropCell unit.id n filled).note _)
    rw [hdropped]
    exact hfilled.trans ((ebbs_entryTaken (hfilled.issued hs) hlive).mono
      fun _ h => h ▸ hd')
  | false =>
    let noted := s.note (.created unit e inst)
    let t := (c.dropCell unit.id n filled).note (.destroying unit inst e)
    have hfirst : s.Precedes noted := precedes_note (.created unit e inst) s
    have hlast : noted.Precedes t :=
      ⟨(precedes_note (.destroying unit inst e) noted).journal, List.suffix_refl _⟩
    have hcontext : ∀ x, t.context x = s.context x := by
      intro x
      by_cases hx : x = c
      · have hkept : filled.context c = s.context c := by
          refine (ScopeContext.context_update c _ _).trans ?_
          change (if (s.context c).holds unit.id n then _ else _) = _
          rw [hholds, if_neg Bool.false_ne_true]
          rfl
        rw [hx, ← hkept]
        refine (ScopeContext.context_update c _ filled).trans ?_
        rw [hstill, hholds, if_neg Bool.false_ne_true]
      · exact (ScopeContext.context_update_of_ne hx _ filled).trans
          (ScopeContext.context_update_of_ne hx _ noted)
    refine ebbs_of_context hcontext rfl (Nat.le_refl _) (hfirst.trans hlast) ?_
      (fun _ _ _ _ h => h) ?_
    · intro b' hb'
      have hbefore : b'.ended s noted = 0 := ended_note b' (.created unit e inst) s
      have hafter : b'.ended noted t = [b].count b' := ended_note b' (.destroying unit inst e) noted
      have hne : (b == b') = false := by
        rw [beq_eq_false_iff_ne]
        rintro rfl
        exact hb' (anew_of_note (.created unit e inst) rfl hlast)
      rw [b'.ended_trans hfirst.journal hlast.journal, hbefore, hafter, List.count_singleton, hne,
        if_neg Bool.false_ne_true, Nat.zero_add]
      exact Nat.le_refl _
    · have hquiet : t.since Event.ended? s.journal.size = [] := by
        have hbefore : noted.since Event.ended? s.journal.size = [] :=
          Store.since_self_note (.created unit e inst) s
        have hafter : t.since Event.ended? noted.journal.size = [] :=
          Store.since_self_note (.destroying unit inst e) noted
        rw [Store.since_append hfirst.size hlast.journal, hbefore, hafter, List.append_nil]
      rw [hquiet]
      exact fun _ hx => by cases hx

theorem ebbs_entryRestored (unit : Contextual) (inst : Instance) (e : Episode)
    (hnew : w.known ≤ c.number) (hissued : c.number < s.nextContext) :
    w.Ebbs owed s (c.setCell unit.id ⟨s.nextCell, .live ⟨unit, inst, e⟩⟩
      { s.note (.restored unit inst) with nextCell := s.nextCell + 1 }) := by
  have hold : ¬ c.number < w.known := Nat.not_lt_of_le hnew
  have hprecedes := precedes_note (.restored unit inst) s
  refine ebbs_inserted (c := c) ⟨s.nextCell, .live ⟨unit, inst, e⟩⟩ rfl rfl
    (Nat.le_succ _) ⟨hprecedes.journal, hprecedes.seen⟩ hissued
    (.inr ⟨Nat.le_refl _, Nat.lt_succ_self _⟩)
    (fun _ hlt => absurd hlt (Nat.lt_irrefl _)) (fun h => absurd h hold) (fun h => absurd h hold) ?_
    (Store.since_self_note (.restored unit inst) s) (fun _ => Nat.le_refl _) (fun _ _ _ _ h => h)
    (Store.since_self_note (.restored unit inst) s)
  intro b hb
  cases hb
  exact anew_of_note (.restored unit inst) ⟨rfl, rfl⟩
    ⟨List.prefix_refl _, List.suffix_refl _⟩

end ContextualLifecycle.Closing
