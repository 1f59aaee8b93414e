import ContextualLifecycle.Proofs.Closing.Clearing
import ContextualLifecycle.Proofs.Conversation.Departure

namespace ContextualLifecycle

open LifecycleError

variable {σ α : Type} {stuck : Prop} {host : Host σ} {m : Container} {Inv : Store σ → Prop}

def failureOf : Except LifecycleError α → List LifecycleError
  | .ok _ => []
  | .error e => [e]

/-- A stored instance that was destroyed: what its contextual answered, and its episode then. -/
structure Ended where
  bag : Bag
  destroyed : Except LifecycleError Unit
  released : Except LifecycleError Unit

namespace Ended

/-- The failure of the destruction, and then that of the release. -/
def failures (x : Ended) : List LifecycleError := failureOf x.destroyed ++ failureOf x.released

end Ended

/-- From one store to another the listed instances are destroyed, in order. In between, nothing
happens to entries, failures are reported, and observers hear of contexts. -/
inductive Destroys (host : Host σ) (m : Container) : List Ended → Store σ → Store σ → Prop
  | here (s : Store σ) : Destroys host m [] s s
  | alike {ends : List Ended} {s u t : Store σ} (hsame : s.Alike u)
    (rest : Destroys host m ends u t) : Destroys host m ends s t
  | reported {ends : List Ended} {s t : Store σ} (content : Report)
    (rest : Destroys host m ends (s.report content) t) : Destroys host m ends s t
  | announced {ends : List Ended} {s u t : Store σ} {kind : ScopeKind} {c : ScopeContext}
    (hrun : (m.announce host .destroyed kind c).run s = some ((), u))
    (rest : Destroys host m ends u t) : Destroys host m ends s t
  | ended {ends : List Ended} {s u v t : Store σ} {c : ScopeContext} {id : ContextualId} {bag : Bag}
    {destroyed released : Except LifecycleError Unit} (hlive : c.live s id = some bag)
    (hdestroyed : (bag.contextual.destroy host bag.inst bag.episode).run.run (c.takeEntry id s).2 =
      some (destroyed, u))
    (hreleased : (bag.episode.release host).run.run u = some (released, v))
    (rest : Destroys host m ends v t) : Destroys host m (⟨bag, destroyed, released⟩ :: ends) s t

theorem Destroys.append {xs ys : List Ended} {s u t : Store σ} (h : Destroys host m xs s u)
    (h' : Destroys host m ys u t) : Destroys host m (xs ++ ys) s t := by
  induction h with
  | here s => exact h'
  | alike hsame _ ih => exact .alike hsame (ih h')
  | reported content _ ih => exact .reported content (ih h')
  | announced hrun _ ih => exact .announced hrun (ih h')
  | ended hlive hdestroyed hreleased _ ih => exact .ended hlive hdestroyed hreleased (ih h')

/-- Errors that tell of failures: the same single ones in the same order, and none is made fatal or
harmless. -/
structure Tells (errors failures : List LifecycleError) : Prop where
  leaves : errors.flatMap LifecycleError.leaves = failures.flatMap LifecycleError.leaves
  fatal : errors.any isFatal = failures.any isFatal
  nil_iff : errors = [] ↔ failures = []

namespace Tells

variable {errors failures more others : List LifecycleError}

theorem refl (errors : List LifecycleError) : Tells errors errors := ⟨rfl, rfl, Iff.rfl⟩

theorem append (h : Tells errors failures) (h' : Tells more others) :
    Tells (errors ++ more) (failures ++ others) where
  leaves := by rw [List.flatMap_append, List.flatMap_append, h.leaves, h'.leaves]
  fatal := by rw [List.any_append, List.any_append, h.fatal, h'.fatal]
  nil_iff := by rw [List.append_eq_nil_iff, List.append_eq_nil_iff, h.nil_iff, h'.nil_iff]

theorem batch (h : Tells errors failures) (hsome : errors ≠ []) (owner : String) :
    Tells [.teardown owner errors] failures where
  leaves := by rw [List.flatMap_singleton, leaves_teardown, h.leaves]
  fatal := by rw [List.any_cons, List.any_nil, Bool.or_false, isFatal_teardown, h.fatal]
  nil_iff := by simpa using mt h.nil_iff.2 hsome

theorem inContext {e : LifecycleError} (h : Tells [e] failures) (kind : ScopeKind) :
    Tells [e.intoContext kind] failures where
  leaves := by
    rw [← h.leaves, List.flatMap_singleton, List.flatMap_singleton, leaves_intoContext]
  fatal := by rw [← h.fatal, List.any_cons, List.any_cons, isFatal_intoContext]
  nil_iff := by simpa using h.nil_iff

theorem failIfAny (h : Tells errors failures) (owner : String) :
    Tells (failureOf (if errors.isEmpty then .ok () else
      .error (.teardown owner errors) : Except LifecycleError Unit)) failures := by
  cases errors with
  | nil => exact h
  | cons e es => exact h.batch (List.cons_ne_nil e es) owner

end Tells

def LifecycleError.failures : LifecycleError → List LifecycleError
  | .teardown _ failures => failures
  | _ => []

def LifecycleError.IsBatch (e : LifecycleError) : Prop := ∃ owner errors, e = .teardown owner errors

/-- What was destroyed from one store to another is told by the errors. -/
def Told (host : Host σ) (m : Container) (s : Store σ) (errors : List LifecycleError)
    (t : Store σ) : Prop :=
  ∃ ends, Destroys host m ends s t ∧ Tells errors (ends.flatMap Ended.failures)

namespace Told

variable {errors more : List LifecycleError} {s u t : Store σ}

theorem here (s : Store σ) : Told host m s [] s := ⟨[], .here s, .refl []⟩

theorem append (h : Told host m s errors u) (h' : Told host m u more t) :
    Told host m s (errors ++ more) t := by
  obtain ⟨xs, hxs, htells⟩ := h
  obtain ⟨ys, hys, htells'⟩ := h'
  refine ⟨xs ++ ys, hxs.append hys, ?_⟩
  rw [List.flatMap_append]
  exact htells.append htells'

theorem alike (hsame : s.Alike u) (h : Told host m u errors t) : Told host m s errors t := by
  obtain ⟨xs, hxs, htells⟩ := h
  exact ⟨xs, .alike hsame hxs, htells⟩

theorem reported (h : Told host m s errors t) (content : Report) :
    Told host m s errors (t.report content) := by
  obtain ⟨xs, hxs, htells⟩ := h
  refine ⟨xs, ?_, htells⟩
  have hchain := hxs.append (.reported content (.here (t.report content)))
  rwa [List.append_nil] at hchain

theorem announced {kind : ScopeKind} {c : ScopeContext} (h : Told host m s errors u)
    (hrun : (m.announce host .destroyed kind c).run u = some ((), t)) :
    Told host m s errors t := by
  obtain ⟨xs, hxs, htells⟩ := h
  refine ⟨xs, ?_, htells⟩
  have hchain := hxs.append (.announced hrun (.here t))
  rwa [List.append_nil] at hchain

theorem retell (h : Told host m s errors t) (hmore : ∀ failures, Tells errors failures →
    Tells more failures) : Told host m s more t := by
  obtain ⟨xs, hxs, htells⟩ := h
  exact ⟨xs, hxs, hmore _ htells⟩

end Told

/-- What comes of a step: an invariant holds, the failures are of some kind, and they tell of what
was destroyed. -/
structure Conveys (host : Host σ) (m : Container) (Inv : Store σ → Prop)
    (P : LifecycleError → Prop) (s : Store σ) (errors : List LifecycleError) (t : Store σ) :
    Prop where
  kept : Inv t
  told : Told host m s errors t
  each : ∀ e ∈ errors, P e

namespace Conveys

variable {P : LifecycleError → Prop} {errors more : List LifecycleError} {s u t : Store σ}

theorem here (hs : Inv s) : Conveys host m Inv P s [] s := ⟨hs, .here s, nofun⟩

theorem append (h : Conveys host m Inv P s errors u) (h' : Conveys host m Inv P u more t) :
    Conveys host m Inv P s (errors ++ more) t where
  kept := h'.kept
  told := h.told.append h'.told
  each e he := (List.mem_append.1 he).elim (h.each e) (h'.each e)

theorem alike (hsame : s.Alike u) (h : Conveys host m Inv P u errors t) :
    Conveys host m Inv P s errors t :=
  ⟨h.kept, h.told.alike hsame, h.each⟩

theorem batch (owner : String) (ht : Inv t) (h : Told host m s errors t) :
    Conveys host m Inv IsBatch s (failureOf (if errors.isEmpty then .ok () else
      .error (.teardown owner errors) : Except LifecycleError Unit)) t := by
  refine ⟨ht, h.retell fun _ htells => htells.failIfAny owner, ?_⟩
  intro e he
  split at he
  · cases he
  · exact ⟨_, _, List.mem_singleton.1 he⟩

end Conveys

/-- The failures of a step, from a store with an invariant, tell of what was destroyed in it. -/
def Act.Conveys (stuck : Prop) (host : Host σ) (m : Container) (Inv : Store σ → Prop)
    (P : LifecycleError → Prop) (x : Act σ Unit) : Prop :=
  ∀ s, Inv s → Act.wp stuck x (fun r => ContextualLifecycle.Conveys host m Inv P s (failureOf r)) s

/-- All failures of a batch are told. -/
theorem told_collectFailures {P : LifecycleError → Prop} {f : α → Act σ Unit} {xs : List α}
    (hf : ∀ a ∈ xs, Act.Conveys stuck host m Inv P (f a)) {s : Store σ} (hs : Inv s) :
    Run.wp stuck (collectFailures f xs) (Conveys host m Inv P s) s := by
  induction xs generalizing s with
  | nil => exact .here hs
  | cons x xs ih =>
    have hrest : ∀ u, Inv u → Run.wp stuck (collectFailures f xs) (Conveys host m Inv P u) u :=
      fun u hu => ih (fun a ha => hf a (List.mem_cons_of_mem x ha)) hu
    simp only [collectFailures, Run.wp_bind, Run.wp_run]
    apply (hf x List.mem_cons_self s hs).mono
    intro r u hu
    cases r with
    | ok _ => exact (hrest u hu.kept).mono fun _ _ ht => hu.append ht
    | error e =>
      simp only [Run.wp_bind]
      exact (hrest u hu.kept).mono fun _ _ ht => hu.append ht

namespace ScopeContext

variable {c : ScopeContext}

theorem told_destroyed {id : ContextualId} {bag : Bag} {s : Store σ}
    (hlive : c.live s id = some bag) :
    Act.wp True (bag.destroy host) (fun r t => Told host m s (failureOf r) t)
      (c.takeEntry id s).2 := by
  simp only [Bag.destroy, Act.wp_bind, Act.wp_attempt]
  apply (Act.wp_outcome (bag.contextual.destroy host bag.inst bag.episode) _).mono
  intro destroyed u hdestroyed
  apply (Act.wp_outcome (bag.episode.release host) u).mono
  intro released v hreleased
  have htold : Told host m s (failureOf destroyed ++ failureOf released) v := by
    refine ⟨_, .ended hlive hdestroyed hreleased (.here v), ?_⟩
    rw [List.flatMap_singleton]
    exact .refl _
  rcases destroyed with e | _ <;> rcases released with f | _
  · exact htold.retell fun _ h => h.batch (by simp [failureOf]) _
  · exact htold
  · exact htold
  · exact htold

variable (h : host.Exits stuck Inv)

include h

theorem told_destroyEntry (m : Container) (c : ScopeContext) (id : ContextualId) :
    Act.Conveys stuck host m Inv (fun _ => True) (c.destroyEntry host id) := by
  intro s hs
  have htold : Act.wp True (c.destroyEntry host id)
      (fun r t => Told host m s (failureOf r) t) s := by
    simp only [destroyEntry, Act.wp_bind, Act.wp_modifyGet]
    cases hlive : c.live s id with
    | none =>
      have htake : (c.takeEntry id s).1 = none := hlive
      simp only [htake, Act.wp_pure]
      exact .alike (.takeEntry hlive) (.here _)
    | some bag =>
      have htake : (c.takeEntry id s).1 = some bag := hlive
      simp only [htake, Act.wp_bind, Act.wp_attempt]
      apply (told_destroyed hlive).mono
      intro r t ht
      cases r with
      | ok _ => exact ht
      | error e =>
        simp only [Act.wp_throw, Act.wp_bind, Act.wp_modify]
        exact ht.reported _
  have hkeeps := h.entry c id trivial s hs
  apply (hkeeps.and (htold.returns hkeeps)).mono
  exact fun _ _ ht => ⟨ht.1, ht.2, fun _ _ => trivial⟩

/-- What a context fails with is a batch that tells of everything destroyed in it. -/
theorem told_destroyNested (m : Container) (depth : Nat) (c : ScopeContext)
    (hdepth : stuck ∨ c.Covered depth) :
    Act.Conveys stuck host m Inv IsBatch (c.destroyNested host depth) := by
  induction depth generalizing c with
  | zero =>
    intro s _
    simp only [destroyNested, Act.wp_lift, Run.wp_never]
    exact hdepth.resolve_right fun hbound => Nat.lt_irrefl 0 hbound.1
  | succ depth ih =>
    intro s hs
    simp only [destroyNested, Act.wp_bind, Act.wp_modify, Act.wp_get, Act.wp_liftM,
      Act.wp_modifyGet]
    apply (told_collectFailures (fun id _ => told_destroyEntry h m c id)
      (h.deactivated c s trivial hs)).mono
    intro errors u hu
    have hconversation : ∀ v ∈ (c.takeConversations u).1,
        Act.Conveys stuck host m Inv IsBatch (destroyActive host depth v) := by
      intro v hv t ht
      simp only [destroyActive, Act.wp_bind, Act.wp_get]
      split
      · exact ih v.context (h.covered hdepth hu.kept hv) t ht
      · exact .here ht
    apply (told_collectFailures hconversation (h.emptied c u trivial hu.kept).1).mono
    intro more t ht
    simp only [Act.wp_failIfAny]
    apply Conveys.batch _ ht.kept
    have hentries := hu.told.alike (.setActive c false s)
    exact hentries.append (ht.told.alike (.takeConversations c u))

end ScopeContext

namespace Container

theorem told_failWith {errors : List LifecycleError} {s t : Store σ} (owner : String)
    (h : Conveys host m Inv IsBatch s errors t) :
    Act.wp stuck (failWith owner errors)
      (fun r => Conveys host m Inv IsBatch s (failureOf r)) t := by
  match errors with
  | [] => exact h
  | [_] => exact h
  | _ :: _ :: _ => exact .batch owner h.kept h.told

section Teardown

variable (h : host.Exits stuck Inv)

include h

theorem told_destroyContext (kind : ScopeKind) (c : ScopeContext) {s : Store σ} (hs : Inv s) :
    Run.wp stuck (m.destroyContext host kind c) (Conveys host m Inv IsBatch s) s := by
  simp only [destroyContext, Run.wp_bind, Run.wp_run]
  apply (ScopeContext.told_destroyNested h m UInt64.size c (.inr c.covered_size) s hs).mono
  intro r u hu
  simp only [Run.wp_bind]
  have hmourned := h.mourn (m := m) kind c u hu.kept
  apply (hmourned.and ((Run.wp_outcome (m.announce host .destroyed kind c) u).returns
    hmourned)).mono
  rintro _ t ⟨ht, hrun⟩
  have hall : Conveys host m Inv IsBatch s (failureOf r) t :=
    ⟨ht, hu.told.announced hrun, hu.each⟩
  cases r with
  | ok _ => exact hall
  | error e => exact hall

theorem told_teardownConversation (v : Conversation) :
    Act.Conveys stuck host m Inv IsBatch (m.teardownConversation host v) := by
  intro s hs
  simp only [teardownConversation, Act.wp_bind, Act.wp_liftM]
  apply (told_destroyContext h .conversation v.context hs).mono
  exact fun _ _ ht => told_failWith _ ht

theorem told_endConversation (v : Conversation) :
    Act.Conveys stuck host m Inv IsBatch (m.endConversation host v) := by
  intro s hs
  simp only [endConversation, Act.wp_bind, Act.wp_get]
  split
  · exact .here hs
  · exact told_teardownConversation h v s hs

theorem told_teardown (kind : ScopeKind) (c : ScopeContext) :
    Act.Conveys stuck host m Inv IsBatch (m.teardown host kind c) := by
  intro s hs
  simp only [teardown]
  split
  · simp only [Act.wp_bind, Act.wp_modifyGet, Act.wp_liftM]
    apply (told_collectFailures (fun v _ => told_endConversation h v)
      (h.emptied c s trivial hs).1).mono
    intro inner u hu
    apply (told_destroyContext h kind c hu.kept).mono
    intro own t ht
    exact told_failWith _ (.alike (.takeConversations c s) (hu.append ht))
  · simp only [Act.wp_bind, Act.wp_liftM, Act.wp_pure]
    apply (told_destroyContext h kind c hs).mono
    exact fun _ _ ht => told_failWith _ ht

theorem told_finishSlot (slot : ConversationSlot) :
    Act.Conveys stuck host m Inv IsBatch (m.finishSlot host slot) := by
  intro s hs
  cases slot with
  | active v session =>
    have hreleased := h.released v s hs
    have hfreed : s.Alike (v.release s) := .release v s
    simp only [finishSlot, finishConversation, Act.wp_bind, Act.wp_modify, Act.wp_get]
    split
    · let id := ((v.release s).conversation v).id
      have hremoved := h.removed session id _ hreleased
      simp only [Act.wp_bind, Act.wp_modifyGet]
      apply (told_endConversation h v _ hremoved).mono
      exact fun _ _ ht => .alike hfreed (.alike (.removeConversation session id _) ht)
    · exact .alike hfreed (.here hreleased)
  | _ => exact .here hs

end Teardown

/-- What the end of a scope comes out with: nothing if every destroyed instance succeeded, or else
one error of the scope that tells of all their failures. -/
structure Accounts (kind : ScopeKind) (ends : List Ended) (r : Except LifecycleError Unit) :
    Prop where
  ok_iff : r = .ok () ↔ ∀ x ∈ ends, x.destroyed = .ok () ∧ x.released = .ok ()
  error : ∀ e, r = .error e → (∃ owner errors, e = .context kind (.teardown owner errors)) ∧
    e.leaves = ends.flatMap (fun x => x.failures.flatMap LifecycleError.leaves) ∧
    (e.isFatal = true ↔ ∃ x ∈ ends, ∃ f ∈ x.failures, f.isFatal = true)
  /-- An exhausted budget is not hidden by other failures. -/
  exhausted : ∀ x ∈ ends, ∀ owner limit, x.released = .error (.teardownLoop owner limit) →
    ∃ e, r = .error e ∧ .teardownLoop owner limit ∈ e.leaves ∧ e.isFatal = true

theorem failureOf_eq_nil {r : Except LifecycleError Unit} : failureOf r = [] ↔ r = .ok () := by
  cases r <;> simp [failureOf]

/-- An error that tells of all failures accounts for them once it is marked with its scope. -/
theorem accounts_of_told {kind : ScopeKind} {s t : Store σ} {r : Except LifecycleError Unit}
    (h : Told host m s (failureOf r) t) (hbatch : ∀ e ∈ failureOf r, e.IsBatch) :
    ∃ ends, Destroys host m ends s t ∧ Accounts kind ends (r.mapError (·.intoContext kind)) := by
  obtain ⟨ends, hends, htells⟩ := h
  refine ⟨ends, hends, ?_⟩
  have hnil : ends.flatMap Ended.failures = [] ↔
      ∀ x ∈ ends, x.destroyed = .ok () ∧ x.released = .ok () := by
    simp only [List.flatMap_eq_nil_iff, Ended.failures, List.append_eq_nil_iff, failureOf_eq_nil]
  have hexhausted : ∀ x ∈ ends, ∀ owner limit, x.released = .error (.teardownLoop owner limit) →
      .teardownLoop owner limit ∈ ends.flatMap Ended.failures := by
    intro x hx owner limit hloop
    refine List.mem_flatMap.2 ⟨x, hx, ?_⟩
    rw [Ended.failures, hloop, List.mem_append]
    exact .inr List.mem_cons_self
  cases r with
  | ok _ =>
    have hnone := htells.nil_iff.1 rfl
    have hok : (Except.ok () : Except LifecycleError Unit) = .ok () ↔
        ∀ x ∈ ends, x.destroyed = .ok () ∧ x.released = .ok () :=
      ⟨fun _ => hnil.1 hnone, fun _ => rfl⟩
    refine ⟨hok, fun e he => (nomatch he), ?_⟩
    intro x hx owner limit hloop
    have hmem := hexhausted x hx owner limit hloop
    rw [hnone] at hmem
    cases hmem
  | error e =>
    have hmarked := Tells.inContext htells kind
    have hfatal : (e.intoContext kind).isFatal = (ends.flatMap Ended.failures).any isFatal := by
      rw [← hmarked.fatal, List.any_cons, List.any_nil, Bool.or_false]
    have hall : (e.intoContext kind).leaves =
        (ends.flatMap Ended.failures).flatMap LifecycleError.leaves := by
      rw [← hmarked.leaves, List.flatMap_singleton]
    refine ⟨⟨fun h => (nomatch h), fun h => ?_⟩, ?_, ?_⟩
    · cases htells.nil_iff.2 (hnil.2 h)
    · rintro _ ⟨⟩
      obtain ⟨owner, errors, rfl⟩ := hbatch e List.mem_cons_self
      refine ⟨⟨owner, errors, rfl⟩, hall.trans List.flatMap_assoc, ?_⟩
      rw [hfatal, List.any_eq_true]
      constructor
      · rintro ⟨f, hf, hfatal⟩
        obtain ⟨x, hx, hf⟩ := List.mem_flatMap.1 hf
        exact ⟨x, hx, f, hf, hfatal⟩
      · rintro ⟨x, hx, f, hf, hfatal⟩
        exact ⟨f, List.mem_flatMap.2 ⟨x, hx, hf⟩, hfatal⟩
    · intro x hx owner limit hloop
      have hmem := hexhausted x hx owner limit hloop
      refine ⟨_, rfl, ?_, ?_⟩
      · rw [hall]
        exact List.mem_flatMap.2 ⟨_, hmem, List.mem_cons_self⟩
      · rw [hfatal, List.any_eq_true]
        exact ⟨_, hmem, rfl⟩

theorem stop_accounts (h : host.Exits stuck Inv) (m : Container) (kind : ScopeKind)
    {s : Store σ} (hs : Inv s) :
    Act.wp stuck (m.stop host kind)
      (fun r t => Inv t ∧ ∃ ends, Destroys host m ends s t ∧ Accounts kind ends r) s := by
  have htold : ∀ (u : Store σ) (x : Act σ Unit), s.Alike u → Inv u →
      Act.Conveys stuck host m Inv IsBatch x → Act.wp stuck x (fun r t => Inv t ∧
        ∃ ends, Destroys host m ends s t ∧ Accounts kind ends (r.mapError (·.intoContext kind)))
        u := by
    intro u x hsame hu hx
    apply (hx u hu).mono
    exact fun r t ht => ⟨ht.kept, accounts_of_told (ht.told.alike hsame) ht.each⟩
  have hidle : Act.Conveys stuck host m Inv IsBatch (pure ()) := fun _ hu => .here hu
  have hcleared : ∀ kind, kind ≠ .application → Inv (m.clearSlot host.thread kind s).2 := by
    intro kind hkind
    have hvacated := h.vacated m kind s hs
    rwa [vacate, if_neg hkind] at hvacated
  cases kind with
  | application =>
    simp only [stop, Act.wp_inScope, Act.wp_bind, Act.wp_modifyGet]
    apply htold (m.swapApplication none s).2 _ (.of_contexts rfl rfl rfl)
      (h.vacated m .application s hs)
    split
    · exact told_teardown h _ _
    · exact hidle
  | conversation =>
    simp only [stop, Act.wp_inScope, Act.wp_bind, Act.wp_modifyGet]
    exact htold (m.swapConversation host.thread .notStarted s).2 _ (.of_contexts rfl rfl rfl)
      (h.swapped m _ s hs) (told_finishSlot h _)
  | _ =>
    simp only [stop, Act.wp_inScope, Act.wp_bind, Act.wp_modifyGet]
    apply htold (m.clearSlot host.thread _ s).2 _ (.of_contexts rfl rfl rfl)
      (hcleared _ (by decide))
    split
    · exact told_teardown h _ _
    · exact hidle

/-- The end of one scope among those of all. -/
structure Stopped where
  kind : ScopeKind
  ends : List Ended
  answer : Except LifecycleError Unit

/-- From one store to another scopes are ended one after the other. -/
inductive Stops (host : Host σ) (m : Container) : List Stopped → Store σ → Store σ → Prop
  | here (s : Store σ) : Stops host m [] s s
  | stop {x : Stopped} {xs : List Stopped} {s u t : Store σ}
    (hrun : (m.stop host x.kind).run.run s = some (x.answer, u))
    (hends : Destroys host m x.ends s u)
    (haccounts : Accounts x.kind x.ends x.answer) (rest : Stops host m xs u t) :
    Stops host m (x :: xs) s t

theorem collectFailures_stops (h : host.Exits stuck Inv) (m : Container)
    (kinds : List ScopeKind) {s : Store σ} (hs : Inv s) :
    Run.wp stuck (collectFailures (m.stop host) kinds)
      (fun errors t => Inv t ∧ ∃ xs, xs.map Stopped.kind = kinds ∧ Stops host m xs s t ∧
        errors = xs.flatMap fun x => failureOf x.answer) s := by
  induction kinds generalizing s with
  | nil => exact ⟨hs, [], rfl, .here s, rfl⟩
  | cons kind kinds ih =>
    simp only [collectFailures, Run.wp_bind, Run.wp_run]
    apply (stop_accounts h m kind hs).run.mono
    rintro r u ⟨hrun, hu, ends, hends, haccounts⟩
    have hrest : ∀ errors t, (Inv t ∧ ∃ xs, xs.map Stopped.kind = kinds ∧ Stops host m xs u t ∧
        errors = xs.flatMap fun x => failureOf x.answer) →
        Inv t ∧ ∃ xs, xs.map Stopped.kind = kind :: kinds ∧ Stops host m xs s t ∧
          failureOf r ++ errors = xs.flatMap fun x => failureOf x.answer := by
      rintro errors t ⟨ht, xs, hkinds, hstops, rfl⟩
      refine ⟨ht, ⟨kind, ends, r⟩ :: xs, ?_, .stop hrun hends haccounts hstops, rfl⟩
      rw [List.map_cons, hkinds]
    cases r with
    | ok _ => exact (ih hu).mono hrest
    | error e =>
      simp only [Run.wp_bind]
      exact (ih hu).mono hrest

/-- What the end of all scopes comes out with: nothing if that of every scope succeeded, or else the
errors of those that failed, in order. -/
def AccountsForAll (host : Host σ) (m : Container) (s : Store σ) (r : Except LifecycleError Unit)
    (t : Store σ) : Prop :=
  ∃ xs u, xs.map Stopped.kind = ScopeKind.teardownOrder ∧ Stops host m xs s u ∧
    t = m.forgetScopes host.thread u ∧
    r = if (xs.flatMap fun x => failureOf x.answer).isEmpty then .ok ()
      else .error (.teardown "contexts service" (xs.flatMap fun x => failureOf x.answer))

theorem shutdown_accounts (h : host.Exits stuck Inv) (m : Container) {s : Store σ} (hs : Inv s) :
    Act.wp stuck (m.shutdown host) (AccountsForAll host m s) s := by
  simp only [shutdown, Act.wp_bind, Act.wp_liftM, Act.wp_modify]
  apply (collectFailures_stops h m ScopeKind.teardownOrder hs).mono
  rintro errors u ⟨-, xs, hkinds, hstops, rfl⟩
  simp only [Act.wp_failIfAny]
  exact ⟨xs, u, hkinds, hstops, rfl, rfl⟩

/-- No failure is lost on the way up. The end of a scope succeeds if everything that it destroyed
did; else it fails with one error of that scope, in which all failures are found in the order of the
destructions, and which is fatal exactly if one of them is. The release of an episode that is not
wrapped around a foreign one fails with what the teardown of its dependents does. The end of all
scopes fails with exactly the errors of those that fail, in order. All this is so whatever callbacks
do; and the ends return if callbacks do, and nest conversations in order. -/
theorem failures_kept (host : Host σ) (m : Container) :
    (∀ kind s r t, (m.stop host kind).run.run s = some (r, t) →
      ∃ ends, Destroys host m ends s t ∧ Accounts kind ends r) ∧
    (∀ (e : Episode) s r t, (e.removeAllDependents host).run.run s = some (r, t) →
      (t.episode e).outer = none → (e.release host).run.run s = some (r, t)) ∧
    (∀ s r t, (m.shutdown host).run.run s = some (r, t) →
      ∃ xs u, xs.map Stopped.kind = ScopeKind.teardownOrder ∧ Stops host m xs s u ∧
        t = m.forgetScopes host.thread u ∧
        r = if (xs.flatMap fun x => failureOf x.answer).isEmpty then .ok ()
          else .error (.teardown "contexts service" (xs.flatMap fun x => failureOf x.answer))) ∧
    (host.Keeps False Store.Ascending → ∀ s : Store σ, s.Ascending →
      (∀ kind, ∃ r t, (m.stop host kind).run.run s = some (r, t)) ∧
      ∃ r t, (m.shutdown host).run.run s = some (r, t)) := by
  refine ⟨?_, ?_, ?_, ?_⟩
  · intro kind s r t hrun
    exact (Act.wp_true_iff.1 (stop_accounts host.exits_open m kind trivial) r t hrun).2
  · intro e s r t hrun houter
    have hrelease : Act.wp False (e.release host) (fun r' t' => r' = r ∧ t' = t) s :=
      Episode.wp_release_of_unwrapped ((Act.wp_of_run hrun).2 ⟨houter, rfl, rfl⟩)
    obtain ⟨_, _, hrun', rfl, rfl⟩ := Act.wp_false_iff.1 hrelease
    exact hrun'
  · intro s
    exact Act.wp_true_iff.1 (shutdown_accounts host.exits_open m trivial)
  · intro hkeeps s hs
    refine ⟨fun kind => ?_, ?_⟩
    · obtain ⟨r, t, hrun, -⟩ := Act.wp_false_iff.1 (hkeeps.exits.stop (m := m) kind s hs)
      exact ⟨r, t, hrun⟩
    · obtain ⟨r, t, hrun, -⟩ := Act.wp_false_iff.1 (hkeeps.exits.shutdown (m := m) s hs)
      exact ⟨r, t, hrun⟩

/-- A thread with an application, a session, a conversation in it and a request, and an instance in
each of them. That in the session has a dependent. -/
def occupied : Program library Unit :=
  let a : Thread := ⟨"a"⟩
  let m : Container := ⟨1⟩
  let plain : Nat → String → Contextual :=
    fun object text => { object, id := ⟨text⟩, variety := .plain }
  let quiet : Callback → Program library Unit := fun _ => .done
  .call (⟨a, .newContainer {} [] false⟩ : Request) quiet fun _ =>
  .call (⟨a, .start m .application {}⟩ : Request) quiet fun _ =>
  .call (⟨a, .newEpisode m none⟩ : Request) quiet fun _ =>
  .call (⟨a, .getOrCreate ⟨1⟩ (plain 1 "sign") ⟨1⟩⟩ : Request) quiet fun _ =>
  .call (⟨a, .start m .session {}⟩ : Request) quiet fun _ =>
  .call (⟨a, .newEpisode m (some (plain 2 "cart"))⟩ : Request) quiet fun _ =>
  .call (⟨a, .addDependent ⟨2⟩ (plain 0 "lamp") (some ⟨7⟩)⟩ : Request) quiet fun _ =>
  .call (⟨a, .getOrCreate ⟨2⟩ (plain 2 "cart") ⟨2⟩⟩ : Request) quiet fun _ =>
  .call (⟨a, .start m .conversation {}⟩ : Request) quiet fun _ =>
  .call (⟨a, .current m .conversation⟩ : Request) quiet fun _ =>
  .call (⟨a, .newEpisode m none⟩ : Request) quiet fun _ =>
  .call (⟨a, .getOrCreate ⟨3⟩ (plain 3 "form") ⟨3⟩⟩ : Request) quiet fun _ =>
  .call (⟨a, .start m .request {}⟩ : Request) quiet fun _ =>
  .call (⟨a, .newEpisode m none⟩ : Request) quiet fun _ =>
  .call (⟨a, .getOrCreate ⟨4⟩ (plain 4 "ticket") ⟨4⟩⟩ : Request) quiet fun _ => .done

/-- Destructions fail, but for that of a lamp, after which there is another one. -/
def refusing : Callback → Program library Unit
  | .destroy unit inst e =>
    if unit.object = 0 then
      .call (⟨⟨"a"⟩, .addDependent e unit (some ⟨inst.token + 1⟩)⟩ : Request) (fun _ => .done)
        fun _ => .done
    else .fail (.destruction unit.id.text "refused")
  | _ => .done

theorem refusing_obeys (cb : Callback) : (refusing cb).Obeys stayingOut [] := by
  cases cb with
  | destroy unit inst e =>
    rw [refusing]
    split
    · exact ⟨rfl, fun _ => trivial, fun _ => trivial⟩
    · trivial
  | _ => trivial

/-- The hypotheses hold of such a thread where every destruction fails, and where one of the
episodes cannot be torn down. -/
theorem failures_kept_refused :
    let supply : Supply Unit := Supply.numbered ⟨"main"⟩
    let a : Thread := ⟨"a"⟩
    let m : Container := ⟨1⟩
    let host : Host (Watched library Unit) := { supply.hostOf refusing with thread := a }
    let loop := "teardown of cart exceeded 3 destroy attempts: " ++
      "destruction cycle in dependent graph"
    ∃ s : Store (Watched library Unit), s.bare.Reachable ∧ s.Ascending ∧
      host.Keeps False Store.Ascending ∧
      (∃ e t ends, (m.stop host .session).run.run s = some (.error e, t) ∧
        Destroys host m ends s t ∧ Accounts .session ends (.error e) ∧
        e.leaves.map (·.message) = ["failed to destroy form: refused",
          "failed to destroy cart: refused", loop]) ∧
      ∃ errors t xs u, (m.shutdown host).run.run s =
          some (.error (.teardown "contexts service" errors), t) ∧
        xs.map Stopped.kind = ScopeKind.teardownOrder ∧ Stops host m xs s u ∧
        t = m.forgetScopes host.thread u ∧ errors = xs.flatMap (fun x => failureOf x.answer) ∧
        errors.map (·.message) = [
          "request context failure: 1 failure(s) while destroying request context #4",
          "session context failure: 2 failure(s) while destroying session context #2",
          "application context failure: 1 failure(s) while destroying application context #1"] ∧
        (errors.flatMap LifecycleError.leaves).map (·.message) = [
          "failed to destroy ticket: refused", "failed to destroy form: refused",
          "failed to destroy cart: refused", loop, "failed to destroy sign: refused"] := by
  intro supply a m host loop
  have hchecked : ((occupied.run supply).run.run (Store.watched { surroundings := () })).map
      (fun o => decide (o.2.seen.filterMap Sighting.reattached? = [] ∧
        o.2.nextContext ≤ UInt64.size ∧
        ((m.stop host .session).run.run o.2).map
          (fun o => (failureOf o.1).map fun e => e.leaves.map (·.message)) =
            some [["failed to destroy form: refused", "failed to destroy cart: refused", loop]] ∧
        ((m.shutdown host).run.run o.2).map (fun o => (failureOf o.1).map fun e =>
          (e.failures.map (·.message), e.leaves.map (·.message))) = some [([
            "request context failure: 1 failure(s) while destroying request context #4",
            "session context failure: 2 failure(s) while destroying session context #2",
            "application context failure: 1 failure(s) while destroying application context #1"],
          ["failed to destroy ticket: refused", "failed to destroy form: refused",
            "failed to destroy cart: refused", loop, "failed to destroy sign: refused"])])) =
      some true := by
    decide +kernel
  obtain ⟨⟨r, s⟩, hrun, hs⟩ := Option.map_eq_some_iff.1 hchecked
  obtain ⟨hreattached, hwords, hstopped, hended⟩ := of_decide_eq_true hs
  have hreachable : s.bare.Reachable := Store.ReachableBy.of_run hrun
    (Sighting.fair_of_reattached (by rw [hreattached]; exact fun _ => nofun))
  have hascending : s.Ascending := (Store.nested_bare.1 hreachable.nested).ascends hwords
  let w : Closing Unit := ⟨supply, 0⟩
  have hdefers : w.Defers (w.host a refusing) := Closing.defers refusing [] refusing_obeys a
  have hkeeps : host.Keeps False Store.Ascending := hdefers.keepsAscending
  obtain ⟨hstop, -, hshutdown, hreturns⟩ := failures_kept host m
  obtain ⟨hstops, r₂, t₂, hrun₂⟩ := hreturns hkeeps s hascending
  obtain ⟨r₁, t₁, hrun₁⟩ := hstops .session
  refine ⟨s, hreachable, hascending, hkeeps, ?_, ?_⟩
  · rw [hrun₁, Option.map_some, Option.some_inj] at hstopped
    obtain ⟨ends, hends, haccounts⟩ := hstop .session s r₁ t₁ hrun₁
    cases r₁ with
    | ok _ => cases hstopped
    | error e => exact ⟨e, t₁, ends, hrun₁, hends, haccounts, (List.cons.inj hstopped).1⟩
  · rw [hrun₂, Option.map_some, Option.some_inj] at hended
    obtain ⟨xs, u, hkinds, hall, ht, hr⟩ := hshutdown s r₂ t₂ hrun₂
    split at hr
    · rw [hr] at hended
      cases hended
    · subst hr
      obtain ⟨hmessages, hleaves⟩ := Prod.mk.inj (List.cons.inj hended).1
      rw [leaves_teardown] at hleaves
      exact ⟨_, t₂, xs, u, hrun₂, hkinds, hall, ht, rfl, hmessages, hleaves⟩

end Container

end ContextualLifecycle
