import ContextualLifecycle.Conversation
import ContextualLifecycle.Proofs.Episode.Teardown

namespace ContextualLifecycle

variable {σ : Type} {stuck : Prop} {host : Host σ} {s : Store σ}

/-- A stored instance is destroyed first and its episode is released afterwards, in any case. -/
theorem Bag.wp_destroy {bag : Bag} {P : Store σ → Prop}
    {Q : Except LifecycleError Unit → Store σ → Prop}
    (hdestroy : Act.wp stuck (bag.contextual.destroy host bag.inst bag.episode) (fun _ t => P t) s)
    (hrelease : ∀ t, P t → Act.wp stuck (bag.episode.release host) (fun _ u => ∀ r, Q r u) t) :
    Act.wp stuck (bag.destroy host) Q s := by
  simp only [Bag.destroy, Act.wp_bind, Act.wp_attempt]
  apply hdestroy.mono
  intro r t ht
  apply (hrelease t ht).mono
  intro r' u hu
  rcases r with error | _ <;> rcases r' with error' | _ <;> exact hu _

theorem Bag.wp_destroy_of {bag : Bag} {Inv : Store σ → Prop}
    (hkeeps : bag.episode.ReleaseKeeps stuck host Inv)
    (hnoted : Inv (s.note (.destroying bag.contextual bag.inst bag.episode))) :
    Act.wp stuck (bag.destroy host) (fun _ t => Inv t) s :=
  Bag.wp_destroy (Contextual.wp_destroy_of hnoted (hkeeps.destroy _ _ _ hnoted))
    fun t ht => (hkeeps.release_keeps t ht).mono fun _ _ hu _ => hu

theorem Contextual.wp_create {unit : Contextual} {e : Episode}
    {P Q : Except LifecycleError Instance → Store σ → Prop}
    (hcreate : Act.wp stuck (host.create unit e) P (s.note (.creating unit e)))
    (hok : ∀ inst t, P (.ok inst) t → Q (.ok inst) (t.note (.created unit e inst)))
    (herror : ∀ error t, P (.error error) t → Q (.error error) t) :
    Act.wp stuck (unit.create host e) Q s := by
  simp only [Contextual.create, Act.wp_bind, Act.wp_modify, Act.wp_pure]
  apply hcreate.mono
  intro r t ht
  cases r with
  | ok inst => exact hok inst t ht
  | error error => exact herror error t ht

theorem Contextual.wp_createDependent {unit : Contextual} {e : Episode}
    {P Q : Except LifecycleError Instance → Store σ → Prop}
    (hcreate : Act.wp stuck (unit.create host e) P s)
    (hok : ∀ inst t, P (.ok inst) t → Q (.ok inst) (e.addDependent unit (some inst) t))
    (herror : ∀ error t, P (.error error) t → Q (.error error) t) :
    Act.wp stuck (unit.createDependent host e) Q s := by
  simp only [Contextual.createDependent, Act.wp_bind, Act.wp_modify, Act.wp_pure]
  apply hcreate.mono
  intro r t ht
  cases r with
  | ok inst => exact hok inst t ht
  | error error => exact herror error t ht

theorem Store.stack_setStack_eq (thread x : Thread) (stack : List (ScopeContext × ContextualId))
    (s : Store σ) :
    (s.setStack thread stack).stack x = if x = thread then stack else s.stack x := by
  simp only [Store.stack, Store.setStack, Table.get?_insert]
  split <;> rfl

namespace ScopeContext

variable {c : ScopeContext}

theorem stack_leaveCreation_eq (thread x : Thread) (s : Store σ) :
    (leaveCreation thread s).stack x =
      if x = thread then (s.stack thread).tail else s.stack x :=
  s.stack_setStack_eq thread x _

def live (c : ScopeContext) (s : Store σ) (id : ContextualId) : Option Bag :=
  ((s.context c).entries.get? id).bind Cell.bag?

theorem live_congr {s t : Store σ} (h : t.contexts = s.contexts) (c : ScopeContext)
    (id : ContextualId) : c.live t id = c.live s id := by
  rw [live, Store.context_congr h, live]

@[simp]
theorem context_update (c : ScopeContext) (f : ScopeContext.Record → ScopeContext.Record)
    (s : Store σ) : (c.update f s).context c = f (s.context c) := by
  simp only [update, Store.setContext, Store.context, Table.get?_insert, ↓reduceIte,
    Option.getD_some]

theorem context_update_of_ne {c x : ScopeContext} (h : x ≠ c)
    (f : ScopeContext.Record → ScopeContext.Record) (s : Store σ) :
    (c.update f s).context x = s.context x := by
  simp only [update, Store.setContext, Store.context, Table.get?_insert, if_neg h]

theorem context_update_eq (c x : ScopeContext) (f : Record → Record) (s : Store σ) :
    (c.update f s).context x = if x = c then f (s.context c) else s.context x := by
  split
  · rename_i hx
    rw [hx, context_update]
  · rename_i hx
    exact context_update_of_ne hx f s

theorem conversation?_update (c x : ScopeContext) (f : Record → Record) (id : String)
    (s : Store σ) :
    x.conversation? id (c.update f s) =
      if x = c then (f (s.context c)).conversations.get? id else x.conversation? id s := by
  rw [conversation?, context_update_eq]
  split <;> rfl

theorem conversation?_update_of_conversations {f : Record → Record}
    (hf : ∀ r, (f r).conversations = r.conversations) (c x : ScopeContext) (id : String)
    (s : Store σ) : x.conversation? id (c.update f s) = x.conversation? id s := by
  rw [conversation?_update, hf]
  split
  · rename_i hx
    rw [hx, conversation?]
  · rfl

theorem conversation?_of_update {v : Conversation} {f : Record → Record}
    (hf : ∀ r id, (f r).conversations.get? id = some v → r.conversations.get? id = some v)
    {c x : ScopeContext} {id : String} {s : Store σ}
    (hv : x.conversation? id (c.update f s) = some v) : x.conversation? id s = some v := by
  rw [conversation?_update] at hv
  split at hv
  · rename_i hx
    rw [hx]
    exact hf _ id hv
  · exact hv

theorem conversation?_takeConversations (c x : ScopeContext) (id : String) (s : Store σ) :
    x.conversation? id (c.takeConversations s).2 =
      if x = c then none else x.conversation? id s := by
  rw [takeConversations, conversation?_update]
  split <;> rfl

theorem conversation?_removeConversation (c x : ScopeContext) (name id : String) (s : Store σ) :
    x.conversation? id (c.removeConversation name s).2 =
      if x = c ∧ id = name then none else x.conversation? id s := by
  rw [removeConversation, conversation?_update]
  by_cases hx : x = c
  · rw [if_pos hx, Table.get?_erase, hx]
    simp only [true_and]
    rfl
  · rw [if_neg hx, if_neg fun h => hx h.1]

theorem conversation?_takeEntry (c x : ScopeContext) (id : ContextualId) (name : String)
    (s : Store σ) : x.conversation? name (c.takeEntry id s).2 = x.conversation? name s :=
  conversation?_update_of_conversations (f := fun r => { r with entries := r.entries.erase id })
    (fun _ => rfl) c x name s

theorem context_new (kind : ScopeKind) (s : Store σ) :
    (ScopeContext.new kind s).2.context (ScopeContext.new kind s).1 = { kind } := by
  simp only [ScopeContext.new, Store.context, Store.setContext, Table.get?_insert, ↓reduceIte,
    Option.getD_some]

theorem context_setActive (c : ScopeContext) (active : Bool) (s : Store σ) :
    (c.setActive active s).context c = { s.context c with active } :=
  context_update c _ s

theorem context_newActive (kind : ScopeKind) (s : Store σ) :
    (newActive kind s).2.context (newActive kind s).1 = { kind, active := true } := by
  change ((new kind s).1.setActive true (new kind s).2).context (new kind s).1 = _
  rw [context_setActive, context_new]

theorem live_update (c x : ScopeContext) (f : ScopeContext.Record → ScopeContext.Record)
    (id : ContextualId) (s : Store σ) :
    x.live (c.update f s) id =
      if x = c then ((f (s.context c)).entries.get? id).bind Cell.bag? else x.live s id := by
  split
  · rename_i hx
    rw [hx, live, context_update]
  · rename_i hx
    rw [live, update, Store.context, Store.setContext, Table.get?_insert, if_neg hx]
    rfl

theorem live_update_of_entries {f : ScopeContext.Record → ScopeContext.Record}
    (hf : ∀ r, (f r).entries = r.entries) (c x : ScopeContext) (id : ContextualId) (s : Store σ) :
    x.live (c.update f s) id = x.live s id := by
  rw [live_update, hf]
  split
  · rename_i hx
    rw [hx, live]
  · rfl

theorem live_new (kind : ScopeKind) (x : ScopeContext) (id : ContextualId) (s : Store σ) :
    x.live (new kind s).2 id = if x = ⟨s.nextContext⟩ then none else x.live s id := by
  simp only [live, new, Store.context, Store.setContext, Table.get?_insert]
  split <;> rfl

theorem live_takeEntry (id x : ContextualId) (s : Store σ) :
    c.live (c.takeEntry id s).2 x = if x = id then none else c.live s x := by
  simp only [live, takeEntry, context_update, Table.get?_erase]
  split <;> rfl

theorem claimCell_cases (c : ScopeContext) (id : ContextualId) (s : Store σ) :
    ((s.context c).entries.get? id = some (c.claimCell id s).1 ∧ (c.claimCell id s).2 = s) ∨
      (s.context c).entries.get? id = none ∧ (c.claimCell id s).1 = ⟨s.nextCell, .empty⟩ ∧
        (c.claimCell id s).2 =
          { c.setCell id ⟨s.nextCell, .empty⟩ s with nextCell := s.nextCell + 1 } := by
  cases h : (s.context c).entries.get? id with
  | some cell => simp only [claimCell, h, reduceCtorEq, false_and, and_self, or_false]
  | none => simp only [claimCell, h, reduceCtorEq, false_and, and_self, or_true]

theorem claimCell_aside (c : ScopeContext) (id : ContextualId) (s : Store σ) :
    ∃ contexts nextCell, (c.claimCell id s).2 = { s with contexts, nextCell } := by
  obtain ⟨_, heq⟩ | ⟨_, _, heq⟩ := claimCell_cases c id s
  · exact ⟨s.contexts, s.nextCell, heq⟩
  · exact ⟨_, _, heq⟩

theorem stack_claimCell (c : ScopeContext) (id : ContextualId) (thread : Thread) (s : Store σ) :
    (c.claimCell id s).2.stack thread = s.stack thread := by
  obtain ⟨_, _, heq⟩ := claimCell_aside c id s
  rw [heq]
  rfl

theorem live_setCell (id x : ContextualId) (cell : Cell) (s : Store σ) :
    c.live (c.setCell id cell s) x = if x = id then cell.bag? else c.live s x := by
  simp only [live, setCell, context_update, Table.get?_insert]
  split <;> rfl

theorem live_claimCell (id x : ContextualId) (s : Store σ) :
    c.live (c.claimCell id s).2 x = c.live s x := by
  obtain ⟨_, hs⟩ | ⟨hnone, _, hs⟩ := claimCell_cases c id s
  · rw [hs]
  · have hlive : c.live (c.claimCell id s).2 x =
        if x = id then none else c.live s x := by
      rw [hs]
      exact live_setCell id x _ s
    rw [hlive]
    split
    · rename_i hx
      rw [hx, live, hnone, Option.bind_none]
    · rfl

theorem live_claimCell_eq (c x : ScopeContext) (id y : ContextualId) (s : Store σ) :
    x.live (c.claimCell id s).2 y = x.live s y := by
  by_cases hx : x = c
  · rw [hx]
    exact live_claimCell id y s
  · obtain ⟨_, heq⟩ | ⟨_, _, heq⟩ := claimCell_cases c id s
    · rw [heq]
    · rw [heq]
      change x.live (c.setCell id _ s) y = _
      rw [setCell, live_update, if_neg hx]

theorem get?_claimCell (c : ScopeContext) (id : ContextualId) (s : Store σ) :
    ((c.claimCell id s).2.context c).entries.get? id = some (c.claimCell id s).1 := by
  obtain ⟨hcell, hs⟩ | ⟨_, hcell, hs⟩ := claimCell_cases c id s
  · rw [hs, hcell]
  · rw [hs, hcell]
    change ((c.setCell id ⟨s.nextCell, .empty⟩ s).context c).entries.get? id = _
    rw [setCell, context_update, Table.get?_insert, if_pos rfl]

theorem get?_fillCell (id x : ContextualId) (n : Nat) (content : Cell.Content) (s : Store σ) :
    ((c.fillCell id n content s).context c).entries.get? x =
      if x = id ∧ (s.context c).holds id n then some ⟨n, content⟩
      else (s.context c).entries.get? x := by
  simp only [fillCell, context_update]
  by_cases hholds : (s.context c).holds id n = true
  · simp only [hholds, ↓reduceIte, and_true, Table.get?_insert]
  · simp only [hholds, Bool.false_eq_true, ↓reduceIte, and_false]

theorem get?_dropCell (id x : ContextualId) (n : Nat) (s : Store σ) :
    ((c.dropCell id n s).context c).entries.get? x =
      if x = id ∧ (s.context c).holds id n then none else (s.context c).entries.get? x := by
  simp only [dropCell, context_update]
  by_cases hholds : (s.context c).holds id n = true
  · simp only [hholds, ↓reduceIte, and_true, Table.get?_erase]
  · simp only [hholds, Bool.false_eq_true, ↓reduceIte, and_false]

theorem live_dropCell (id x : ContextualId) (n : Nat) (s : Store σ) :
    c.live (c.dropCell id n s) x =
      if x = id ∧ (s.context c).holds id n then none else c.live s x := by
  rw [live, get?_dropCell]
  split <;> rfl

theorem live_fillCell (id x : ContextualId) (n : Nat) (content : Cell.Content) (s : Store σ) :
    c.live (c.fillCell id n content s) x =
      if x = id ∧ (s.context c).holds id n then (Cell.mk n content).bag? else c.live s x := by
  rw [live, get?_fillCell]
  split <;> rfl

theorem holds_fillCell (id : ContextualId) (n : Nat) (content : Cell.Content) (s : Store σ) :
    ((c.fillCell id n content s).context c).holds id n = (s.context c).holds id n := by
  simp only [fillCell, context_update]
  by_cases hholds : (s.context c).holds id n = true
  · simp only [hholds, ↓reduceIte]
    simp only [Record.holds, Table.get?_insert, ↓reduceIte, Option.any_some, beq_self_eq_true]
  · simp only [hholds, Bool.false_eq_true, ↓reduceIte]

theorem wp_getOrCreate_of_inactive {unit : Contextual} {e : Episode}
    {Q : Except LifecycleError Instance → Store σ → Prop} (hs : (s.context c).active = false) :
    Act.wp stuck (c.getOrCreate host unit e) Q s ↔
      Q (.error (.contextNotActive (s.context c).kind)) s := by
  simp only [getOrCreate, Act.wp_bind, Act.wp_get, hs, Bool.not_false, ↓reduceIte, Act.wp_throw]

theorem wp_getOrCreate_of_dependent {unit : Contextual} {e : Episode}
    {Q : Except LifecycleError Instance → Store σ → Prop} (hactive : (s.context c).active = true)
    (hkind : (s.context c).kind = .dependent) :
    Act.wp stuck (c.getOrCreate host unit e) Q s ↔
      Act.wp stuck (unit.createDependent host e) Q s := by
  simp only [getOrCreate, Act.wp_bind, Act.wp_get, hactive, hkind, Bool.not_true,
    Bool.false_eq_true, ↓reduceIte]

theorem wp_getOrCreate_of_live {unit : Contextual} {e : Episode} {bag : Bag}
    {Q : Except LifecycleError Instance → Store σ → Prop} (hactive : (s.context c).active = true)
    (hkind : (s.context c).kind ≠ .dependent) (hlive : c.live s unit.id = some bag) :
    Act.wp stuck (c.getOrCreate host unit e) Q s ↔ Q (.ok bag.inst) s := by
  have hget : (s.context c).get? unit = some bag.inst := by
    rw [Record.get?, Record.bag?]
    exact congrArg (Option.map (·.inst)) hlive
  simp only [getOrCreate, Act.wp_bind, Act.wp_get, hactive, hkind, hget, Bool.not_true,
    Bool.false_eq_true, ↓reduceIte, Act.wp_pure]

theorem cycle?_append {id : ContextualId} {inner outer : List (ScopeContext × ContextualId)}
    (hinner : (c, id) ∉ inner) : cycle? (inner ++ (c, id) :: outer) c id =
      some (id :: inner.reverse.map Prod.snd ++ [id]) := by
  have hapart : ∀ mark ∈ inner, (mark != (c, id)) = true := by
    rintro mark hmark
    rw [bne_iff_ne]
    rintro rfl
    exact hinner hmark
  have hend : ((c, id) :: outer).takeWhile (· != (c, id)) = [] :=
    List.takeWhile_cons_of_neg (by rw [bne_self_eq_false]; exact Bool.false_ne_true)
  rw [cycle?, if_pos (by simp), List.takeWhile_append_of_pos hapart, hend, List.append_nil]

/-- A creation that is in progress is not begun again; the way back to it is the error. The cell is
claimed before that. -/
theorem wp_getOrCreate_of_cycle {unit : Contextual} {e : Episode} {path : List ContextualId}
    {Q : Except LifecycleError Instance → Store σ → Prop} (hactive : (s.context c).active = true)
    (hkind : (s.context c).kind ≠ .dependent) (hlive : c.live s unit.id = none)
    (hcycle : cycle? (s.stack host.thread) c unit.id = some path) :
    Act.wp stuck (c.getOrCreate host unit e) Q s ↔
      Q (.error (.circular (path.map (·.text)))) (c.claimCell unit.id s).2 := by
  have hget : (s.context c).get? unit = none := by
    rw [Record.get?, Record.bag?]
    exact congrArg (Option.map (·.inst)) hlive
  simp only [getOrCreate, Act.wp_bind, Act.wp_get, hactive, hkind, hget, Bool.not_true,
    Bool.false_eq_true, ↓reduceIte, Act.wp_modifyGet, enterCreation, stack_claimCell, hcycle,
    Act.wp_throw]

theorem wp_getOrCreate_of_absent {unit : Contextual} {e : Episode}
    {Q : Except LifecycleError Instance → Store σ → Prop} (hactive : (s.context c).active = true)
    (hkind : (s.context c).kind ≠ .dependent) (hlive : c.live s unit.id = none)
    (hcircular : ∀ path, (c, unit.id) ∈ s.stack host.thread →
      Q (.error (.circular path)) (c.claimCell unit.id s).2)
    (hfilling : (c, unit.id) ∉ s.stack host.thread →
      (c.claimCell unit.id s).1.content = .filling → stuck)
    (hcreate : (c, unit.id) ∉ s.stack host.thread →
      (c.claimCell unit.id s).1.content ≠ .filling →
      Act.wp stuck (c.createInto host unit e (c.claimCell unit.id s).1.serial)
        (fun r t => Q r (leaveCreation host.thread t))
        ((c.claimCell unit.id s).2.setStack host.thread
          ((c, unit.id) :: s.stack host.thread))) :
    Act.wp stuck (c.getOrCreate host unit e) Q s := by
  by_cases hin : (c, unit.id) ∈ s.stack host.thread
  · obtain ⟨inner, outer, hstack, hinner⟩ := List.eq_append_cons_of_mem hin
    have hcycle : cycle? (inner ++ (c, unit.id) :: outer) c unit.id = _ := cycle?_append hinner
    rw [← hstack] at hcycle
    rw [wp_getOrCreate_of_cycle hactive hkind hlive hcycle]
    exact hcircular _ hin
  · have hget : (s.context c).get? unit = none := by
      rw [Record.get?, Record.bag?]
      exact congrArg (Option.map (·.inst)) hlive
    have hcycle : cycle? (s.stack host.thread) c unit.id = none := by
      rw [cycle?, if_neg (by simpa using hin)]
    simp only [getOrCreate, Act.wp_bind, Act.wp_get, hactive, hkind, hget, Bool.not_true,
      Bool.false_eq_true, ↓reduceIte, Act.wp_modifyGet, enterCreation, stack_claimCell, hcycle,
      Act.wp_modify]
    by_cases hcontent : (c.claimCell unit.id s).1.content = .filling
    · simp only [hcontent, ↓reduceIte, Act.wp_bind, Act.wp_lift, Run.wp_never]
      exact hfilling hin hcontent
    · simp only [hcontent, ↓reduceIte, Act.wp_bind, Act.wp_attempt, Act.wp_modify,
        Act.wp_liftExcept]
      exact hcreate hin hcontent

/-- A creation fails and leaves nothing behind, or its instance becomes the live entry, or the
instance has lost its place and is destroyed. -/
theorem wp_createInto {unit : Contextual} {e : Episode} {n : Nat}
    {P Q : Except LifecycleError Instance → Store σ → Prop}
    (hcreate : Act.wp stuck (unit.create host e) P (c.fillCell unit.id n .filling s))
    (hfailed : ∀ error t, P (.error error) t → Act.wp stuck (e.release host)
      (fun _ u => Q (.error error) (c.dropCell unit.id n u) ∧
        ∀ left, Q (.error error) (c.dropCell unit.id n (u.report (.cleanupFailed unit.id left)))) t)
    (hkept : ∀ inst t, P (.ok inst) t → (t.context c).active = true →
      (t.context c).holds unit.id n = true →
      Q (.ok inst) (c.fillCell unit.id n (.live ⟨unit, inst, e⟩) t))
    (hlost : ∀ inst t, P (.ok inst) t →
      ((t.context c).active && (t.context c).holds unit.id n) = false →
      Act.wp stuck (Bag.destroy host ⟨unit, inst, e⟩) (fun _ u => ∀ error, Q (.error error) u)
        (c.dropCell unit.id n (c.fillCell unit.id n (.live ⟨unit, inst, e⟩) t))) :
    Act.wp stuck (c.createInto host unit e n) Q s := by
  simp only [createInto, Act.wp_bind, Act.wp_modify, Act.wp_attempt]
  apply hcreate.mono
  intro r t ht
  cases r with
  | error error =>
    simp only [Act.wp_bind, Act.wp_attempt]
    apply (hfailed error t ht).mono
    intro r' u hu
    cases r' with
    | error left =>
      simp only [Act.wp_bind, Act.wp_modify, Act.wp_throw]
      exact hu.2 left
    | ok _ =>
      simp only [Act.wp_bind, Act.wp_modify, Act.wp_throw]
      exact hu.1
  | ok inst =>
    have hactive : ((c.fillCell unit.id n (.live ⟨unit, inst, e⟩) t).context c).active =
        (t.context c).active := by
      simp only [fillCell, context_update]
      split <;> rfl
    simp only [Act.wp_bind, Act.wp_modify, Act.wp_get, hactive, holds_fillCell]
    by_cases hkeep : ((t.context c).active && (t.context c).holds unit.id n) = true
    · simp only [hkeep, ↓reduceIte, Act.wp_pure]
      rw [Bool.and_eq_true] at hkeep
      exact hkept inst t ht hkeep.1 hkeep.2
    · have hlose := Bool.eq_false_iff.2 hkeep
      simp only [hlose, Bool.false_eq_true, ↓reduceIte, Act.wp_bind, Act.wp_modify]
      apply (hlost inst t ht hlose).mono
      intro r' u hu
      cases r' with
      | ok _ => exact hu _
      | error error => exact hu error

theorem wp_destroy_of_absent {unit : Contextual} {Q : Except LifecycleError Bool → Store σ → Prop}
    (h : c.live s unit.id = none) :
    Act.wp stuck (c.destroy host unit) Q s ↔ Q (.ok false) (c.takeEntry unit.id s).2 := by
  have htake : (c.takeEntry unit.id s).1 = none := h
  simp only [destroy, Act.wp_bind, Act.wp_modifyGet, htake, Act.wp_pure]

theorem wp_destroy_of_live {unit : Contextual} {bag : Bag}
    {Q : Except LifecycleError Bool → Store σ → Prop} (h : c.live s unit.id = some bag)
    (hbag : Act.wp stuck (bag.destroy host)
      (fun _ t => Q (.ok true) t ∧ ∀ error, Q (.error error) t) (c.takeEntry unit.id s).2) :
    Act.wp stuck (c.destroy host unit) Q s := by
  have htake : (c.takeEntry unit.id s).1 = some bag := h
  simp only [destroy, Act.wp_bind, Act.wp_modifyGet, htake]
  apply hbag.mono
  intro r t ht
  cases r with
  | ok _ => exact ht.1
  | error error => exact ht.2 error

theorem wp_destroyEntry {Goal : Store σ → Prop} {id : ContextualId}
    (habsent : c.live s id = none → Goal (c.takeEntry id s).2)
    (hlive : ∀ bag, c.live s id = some bag → Act.wp stuck (bag.destroy host)
      (fun _ t => Goal t ∧ ∀ content, Goal (t.report content)) (c.takeEntry id s).2) :
    Act.wp stuck (c.destroyEntry host id) (fun _ t => Goal t) s := by
  simp only [destroyEntry, Act.wp_bind, Act.wp_modifyGet]
  cases h : c.live s id with
  | none =>
    have htake : (c.takeEntry id s).1 = none := h
    simp only [htake, Act.wp_pure]
    exact habsent h
  | some bag =>
    have htake : (c.takeEntry id s).1 = some bag := h
    simp only [htake, Act.wp_bind, Act.wp_attempt]
    apply (hlive bag h).mono
    rintro r t ⟨ht, hreported⟩
    cases r with
    | ok _ => exact ht
    | error error =>
      simp only [Act.wp_bind, Act.wp_modify, Act.wp_throw]
      exact hreported _

theorem destroyEntry_keeps {Inv : Store σ → Prop} {id : ContextualId}
    (hreport : ∀ content s, Inv s → Inv (s.report content))
    (habsent : ∀ s, Inv s → c.live s id = none → Inv (c.takeEntry id s).2)
    (hlive : ∀ bag s, Inv s → c.live s id = some bag →
      Act.wp stuck (bag.destroy host) (fun _ t => Inv t) (c.takeEntry id s).2) :
    Act.Keeps stuck Inv (c.destroyEntry host id) := by
  intro s hs
  apply wp_destroyEntry (habsent s hs)
  intro bag hbag
  apply (hlive bag s hs hbag).mono
  exact fun _ t ht => ⟨ht, fun content => hreport content t ht⟩

/-- A conversation is torn down with the context that it is nested in, if it is active still. -/
def destroyActive (host : Host σ) (depth : Nat) (v : Conversation) : Act σ Unit := do
  if ((← get).context v.context).active then v.context.destroyNested host depth

theorem wp_destroyActive {P : Store σ → Prop} {depth : Nat} {v : Conversation} {s : Store σ}
    (hgone : (s.context v.context).active = false → P s)
    (hactive : (s.context v.context).active = true →
      Act.wp stuck (v.context.destroyNested host depth) (fun _ t => P t) s) :
    Act.wp stuck (destroyActive host depth v) (fun _ t => P t) s := by
  simp only [destroyActive, Act.wp_bind, Act.wp_get]
  split
  · rename_i hup
    exact hactive hup
  · rename_i hdown
    exact hgone (Bool.eq_false_iff.2 hdown)

theorem wp_destroyNested {P : Store σ → Prop} {depth : Nat} {s : Store σ}
    (h : Run.wp stuck (collectFailures (c.destroyEntry host)
        ((c.setActive false s).context c).entries.keys)
      (fun _ t => Run.wp stuck
        (collectFailures (destroyActive host depth) (c.takeConversations t).1)
        (fun _ u => P u) (c.takeConversations t).2) (c.setActive false s)) :
    Act.wp stuck (c.destroyNested host (depth + 1)) (fun _ t => P t) s := by
  simp only [destroyNested, Act.wp_bind, Act.wp_modify, Act.wp_get, Act.wp_liftM, Act.wp_modifyGet]
  apply h.mono
  intro failures t ht
  apply ht.mono
  intro failures' u hu
  simp only [Act.wp_failIfAny]
  exact hu

theorem destroyNested_keeps {Inv : Store σ → Prop} {depth : Nat}
    (hactive : ∀ s, Inv s → Inv (c.setActive false s))
    (hentry : ∀ id, Act.Keeps stuck Inv (c.destroyEntry host id))
    (halone : ∀ s, Inv s → (c.takeConversations s).1 = [] ∧ Inv (c.takeConversations s).2) :
    Act.Keeps stuck Inv (c.destroyNested host (depth + 1)) := by
  intro s hs
  apply wp_destroyNested
  apply (Run.Keeps.collectFailures hentry _ _ (hactive s hs)).mono
  intro failures t ht
  obtain ⟨hnone, hkept⟩ := halone t ht
  rw [hnone]
  exact hkept

end ScopeContext

end ContextualLifecycle
