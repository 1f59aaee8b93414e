import ContextualLifecycle.Container.Reference
import ContextualLifecycle.Proofs.Container.Confined
import ContextualLifecycle.Proofs.Container.Paths
import ContextualLifecycle.Proofs.Snapshot.Capturing

namespace ContextualLifecycle

variable {σ : Type}

/-- What a container on a thread can get at: the contexts of its scopes, with the session of the
conversation that the thread holds, those that are lent, those that are made later on, and the
conversations of all of these. -/
inductive Container.Reaches (m : Container) (thread : Thread) (lent : List ScopeContext)
    (s : Store σ) : ScopeContext → Prop
  | slot {kind c} (h : m.slot thread kind s = some c) : Reaches m thread lent s c
  | application {c} (h : m.application s = some c) : Reaches m thread lent s c
  | conversation {v session} (h : m.conversationSlot thread s = .active v session) :
      Reaches m thread lent s v.context
  | session {v session} (h : m.conversationSlot thread s = .active v session) :
      Reaches m thread lent s session
  | lent {c} (h : c ∈ lent) : Reaches m thread lent s c
  | unmade {c} (h : s.nextContext ≤ c.number) : Reaches m thread lent s c
  | listed {c : ScopeContext} {id} {v : Conversation} (hc : Reaches m thread lent s c)
      (h : c.conversation? id s = some v) : Reaches m thread lent s v.context

/-- Requests of one container on one thread, with contexts that are near. -/
def confined (m : Container) (thread : Thread) (Near : ScopeContext → Prop) : Rule :=
  fun _ request => request.thread = thread ∧ request.call.Within m Near

theorem Isolated.start (m : Container) (thread : Thread) (lent : List ScopeContext) (s : Store σ) :
    Isolated m thread (m.Reaches thread lent s) s s where
  scopes _ _ _ := rfl
  application _ _ := rfl
  context _ _ := rfl
  conversation _ _ := rfl
  fresh _ := .unmade
  attached _ _ := .slot
  shared _ := .application
  held _ _ hv := ⟨.conversation hv, .session hv⟩
  listed _ _ _ := .listed

section Requests

variable {m : Container} {thread : Thread} {Near : ScopeContext → Prop}
  {s₀ : Store (Watched library σ)} {host : Host (Watched library σ)}
  (hthread : host.thread = thread) (hkeeps : host.Keeps True (Isolated m thread Near s₀))

include hthread hkeeps

theorem Call.perform_isolated {call : Call} (hcall : call.Within m Near) :
    Act.Keeps True (Isolated m thread Near s₀) (call.perform host) := by
  intro s hs
  let P : Hand → Store (Watched library σ) → Prop := fun γ t =>
    γ.Close Near ∧ Isolated m thread Near s₀ t
  have hmoves : host.Moves (fun _ _ _ _ => True) ⟨thread, call⟩ P :=
    ⟨hthread, fun hmove h => Isolated.move hcall hmove h,
      fun γ => .through (fun _ : Unit => hkeeps) fun _ h => ⟨(), h.2, fun _ ht => ⟨h.1, ht⟩⟩⟩
  have hempty : ({} : Hand).Close Near :=
    ⟨fun _ hc => (nomatch hc), fun _ hc => (nomatch hc), fun _ _ hc => (nomatch hc),
      fun _ _ hc => (nomatch hc)⟩
  exact (hmoves.perform (fun _ _ _ _ _ => trivial) ⟨hempty, hs⟩).mono fun _ _ ht => ht.2

theorem Container.current_isolated (kind : ScopeKind) {s : Store (Watched library σ)}
    (hs : Isolated m thread Near s₀ s) : Act.wp True (m.current host kind) (fun r t =>
      Isolated m thread Near s₀ t ∧ ∀ c, r = .ok (some c) → Near c) s := by
  have hcall : (Call.current m kind).Within m Near :=
    ⟨fun _ h => (Option.some.inj h).symm, fun _ _ _ => nofun, fun _ hc => nomatch hc⟩
  have hkept := Call.perform_isolated hthread hkeeps hcall s hs
  apply (hkept.and (m.current_found host kind s.bare s)).mono
  rintro r t ⟨ht, hfound⟩
  refine ⟨ht, fun c hc => ?_⟩
  subst hc
  have hplace : if kind = .conversation then
      ∃ session, m.conversationSlot host.thread t = .active ⟨c⟩ session
      else m.attached host.thread kind t = some c := hfound
  rw [hthread] at hplace
  split at hplace
  · obtain ⟨session, hheld⟩ := hplace
    exact (ht.held _ session hheld).1
  · rw [Container.attached] at hplace
    split at hplace
    · exact ht.shared c hplace
    · exact ht.attached kind c hplace

omit hthread in
theorem Isolated.handles : host.HandlesIn Near fun _ => Isolated m thread Near s₀ :=
  hkeeps.tends.handlesIn (fun _ _ hst hs => hs.aside hst) fun _ _ _ hc hf hs =>
    hs.relist hc fun r id v hv => by rwa [(hf r).conversations] at hv

theorem Container.activeContext_isolated (kind : ScopeKind) {s : Store (Watched library σ)}
    (hs : Isolated m thread Near s₀ s) : Act.wp True (m.activeContext host kind) (fun r t =>
      Isolated m thread Near s₀ t ∧ ∀ c, r = .ok c → Near c) s := by
  simp only [Container.activeContext, Act.wp_bind]
  apply (Container.current_isolated hthread hkeeps kind hs).mono
  rintro (error | _ | c) t ⟨ht, hnear⟩
  all_goals
    refine ⟨ht, fun x hx => ?_⟩
    cases hx
  exact hnear c rfl

theorem Container.destroyReference_isolated (unit : Contextual) :
    Act.Keeps True (Isolated m thread Near s₀) (m.destroyReference host unit) := by
  intro s hs
  simp only [Container.destroyReference, Act.wp_bind]
  apply (Container.current_isolated hthread hkeeps unit.scope hs).mono
  rintro (error | _ | c) t ⟨ht, hnear⟩
  · exact ht
  · exact ht
  · exact (Isolated.handles hkeeps).destroyUnit [] (hnear c rfl) unit t ht

theorem Container.reference_isolated
    (hproxy : ∀ unit kind inst, Run.Keeps True (Isolated m thread Near s₀)
      (host.proxy unit kind inst)) (unit : Contextual) (e : Episode) :
    Act.Keeps True (Isolated m thread Near s₀) (m.reference host unit e) := by
  intro s hs
  have hhandles := Isolated.handles hkeeps
  simp only [Container.reference]
  split
  · simp only [Act.wp_bind]
    apply (Container.current_isolated hthread hkeeps .dependent hs).mono
    rintro (error | _ | c) t ⟨ht, hnear⟩
    · exact ht
    · exact hhandles.createDependent [] unit e t ht
    · exact hhandles.getOrCreate [] (hnear c rfl) unit e t ht
  · simp only [Act.wp_bind, Act.wp_modifyGet, Act.wp_get]
    apply (Container.activeContext_isolated hthread hkeeps unit.scope hs).mono
    rintro (error | c) t ⟨ht, hnear⟩
    · exact ht
    · have hepisode := ht.aside (t := (m.newEpisode (some unit) t).2)
        (Store.aside_of_eq rfl rfl rfl rfl rfl rfl rfl)
      apply (hhandles.getOrCreate [] (hnear c rfl) unit _ _ hepisode).mono
      rintro (error | inst) u hu
      · exact hu
      · simp only
        split
        · rw [Act.wp_liftM]
          exact hproxy unit unit.scope inst u hu
        · exact hu

theorem Container.captureSession_isolated
    (hcapture : ∀ unit inst, Act.Keeps True (Isolated m thread Near s₀) (host.capture unit inst)) :
    Act.Keeps True (Isolated m thread Near s₀) (m.captureSession host) := by
  intro s hs
  simp only [Container.captureSession, Act.wp_bind]
  apply (Container.activeContext_isolated hthread hkeeps .session hs).mono
  rintro (error | c) t ⟨ht, -⟩
  · exact ht
  · exact Container.captureNested_keeps hcapture trivial _ c t ht

end Requests

/-- Programs that are confined leave the rest alone. -/
theorem Program.run_isolated (supply : Supply σ) {m : Container} {thread : Thread}
    {Near : ScopeContext → Prop} (s₀ : Store (Watched library σ)) (p : Program library σ)
    (within : List Request) (hobeys : p.Obeys (confined m thread Near) within) :
    Act.Keeps True (Isolated m thread Near s₀) (p.run supply) := by
  refine Program.run_keeps_within (fun _ _ => Isolated m thread Near s₀) supply ?_ ?_ ?_ p within
    hobeys ()
  · exact fun _ _ s hs => hs.surrounded _
  · exact fun _ _ own s hs => hs.surrounded _
  · rintro meanwhile within ⟨thread', call⟩ ⟨hthread, hcall⟩ hmeanwhile _ s hs
    have hkeeps := (supply.watched.host_keeps (hmeanwhile ())).on thread'
    exact (Call.perform_isolated hthread hkeeps hcall s hs).mono
      fun _ _ ht => ht.surrounded _

theorem Program.hostOf_isolated (supply : Supply σ) {m : Container} {thread : Thread}
    {Near : ScopeContext → Prop} (s₀ : Store (Watched library σ))
    {meanwhile : Callback → Program library σ} {within : List Request}
    (hobeys : ∀ cb, (meanwhile cb).Obeys (confined m thread Near) within) :
    Host.Keeps True (Isolated m thread Near s₀) { supply.hostOf meanwhile with thread } :=
  (supply.watched.host_keeps fun cb =>
    (meanwhile cb).run_isolated supply s₀ within (hobeys cb)).on thread

/-- A call that goes to a container leaves the rest alone. -/
theorem Call.run_isolated (supply : Supply σ) (call : Call) {m : Container} {thread : Thread}
    (hgoes : call.container? = some m) {meanwhile : Callback → Program library σ}
    {within : List Request} {s : Store (Watched library σ)}
    (hobeys : ∀ cb, (meanwhile cb).Obeys
      (confined m thread (m.Reaches thread call.contexts s)) within) :
    Act.wp True (library.perform (supply.hostOf meanwhile) ⟨thread, call⟩)
      (fun _ t => Isolated m thread (m.Reaches thread call.contexts s) s t) s := by
  have hcall : call.Within m (m.Reaches thread call.contexts s) := by
    refine ⟨fun m' h => Option.some.inj (h.symm.trans hgoes), ?_, fun _ => .lent⟩
    rintro config observers proxying rfl
    cases hgoes
  exact Call.perform_isolated rfl (Program.hostOf_isolated supply s hobeys) hcall s
    (.start m thread call.contexts s)

inductive Service where
  | call (call : Call)
  /-- The context of a scope that has to be active. -/
  | context (kind : ScopeKind)
  | reference (unit : Contextual) (episode : Episode)
  | destroyReference (unit : Contextual)
  | captureSession

namespace Service

def Answer : Service → Type
  | .call c => c.Answer
  | .context _ => ScopeContext
  | .reference .. => Instance
  | .destroyReference _ => Bool
  | .captureSession => ContextSnapshot

def perform (m : Container) (host : Host σ) : (service : Service) → Act σ service.Answer
  | .call c => c.perform host
  | .context kind => m.activeContext host kind
  | .reference unit e => m.reference host unit e
  | .destroyReference unit => m.destroyReference host unit
  | .captureSession => m.captureSession host

def GoesTo (m : Container) : Service → Prop
  | .call c => c.container? = some m
  | _ => True

/-- The contexts that the container is asked to work with. -/
def lent : Service → List ScopeContext
  | .call c => c.contexts
  | _ => []

end Service

/-- Whatever a container is asked for on a thread, and whatever callbacks do there that only act
through it: the scopes of other threads and of other containers stay as they were, and so do their
applications, and all contexts and conversations that the container could not get at. -/
theorem service_isolated (supply : Supply σ) (m : Container) (thread : Thread) (service : Service)
    (hservice : service.GoesTo m) (meanwhile : Callback → Program library σ)
    {s t : Store (Watched library σ)} {answer : Except LifecycleError service.Answer}
    (hobeys : ∀ cb, (meanwhile cb).Obeys
      (confined m thread (m.Reaches thread service.lent s)) [])
    (hrun : (service.perform m { supply.hostOf meanwhile with thread }).run.run s =
      some (answer, t)) :
    (∀ m' thread', (m', thread') ≠ (m, thread) →
      t.threadScopes m' thread' = s.threadScopes m' thread') ∧
    (∀ m' : Container, m' ≠ m → m'.application t = m'.application s) ∧
    ∀ c, ¬ m.Reaches thread service.lent s c →
      t.context c = s.context c ∧ t.conversation ⟨c⟩ = s.conversation ⟨c⟩ := by
  let host : Host (Watched library σ) := { supply.hostOf meanwhile with thread }
  let Near := m.Reaches thread service.lent s
  have hcallback : ∀ cb, Act.Keeps True (Isolated m thread Near s) ((meanwhile cb).run supply) :=
    fun cb => (meanwhile cb).run_isolated supply s [] (hobeys cb)
  have hkeeps : host.Keeps True (Isolated m thread Near s) :=
    Program.hostOf_isolated supply s hobeys
  have hthread : host.thread = thread := rfl
  have hstart : Isolated m thread Near s s := .start m thread service.lent s
  have hdone : Act.wp True (service.perform m host) (fun _ t => Isolated m thread Near s t) s := by
    cases service with
    | call call => exact Call.run_isolated supply call hservice hobeys
    | context kind =>
      exact (Container.activeContext_isolated hthread hkeeps kind hstart).mono fun _ _ ht => ht.1
    | reference unit e =>
      have hproxy : ∀ unit kind inst, Run.Keeps True (Isolated m thread Near s)
          (host.proxy unit kind inst) := by
        intro unit kind inst u hu
        have hrun := hcallback (.proxy unit kind inst) u hu
        simp only [host, Supply.hostOf, Supply.host, Run.wp_bind, Run.wp_run]
        exact hrun
      exact Container.reference_isolated hthread hkeeps hproxy unit e s hstart
    | destroyReference unit =>
      exact Container.destroyReference_isolated hthread hkeeps unit s hstart
    | captureSession =>
      have hcapture : ∀ unit inst, Act.Keeps True (Isolated m thread Near s)
          (host.capture unit inst) := fun unit inst =>
        (hcallback (.capture unit inst)).bind fun _ => Act.Keeps.get.bind fun _ => .pure _
      exact Container.captureSession_isolated hthread hkeeps hcapture s hstart
  have hisolated := (Act.wp_of_run hrun).1 hdone
  exact ⟨hisolated.scopes, hisolated.application,
    fun c hc => ⟨hisolated.context c hc, hisolated.conversation ⟨c⟩ hc⟩⟩

/-- The hypotheses hold where a container is shut down on one thread, and its observer starts a
scope there whenever it is told of an end. Another thread holds a conversation of the same
container, and another container has scopes on the same thread. -/
theorem service_isolated_shutdown :
    let a : Thread := ⟨"a"⟩
    let b : Thread := ⟨"b"⟩
    let m : Container := ⟨1⟩
    let n : Container := ⟨2⟩
    let supply : Supply Unit := Supply.numbered a
    let quiet : Callback → Program library Unit := fun _ => .done
    let p : Program library Unit :=
      .call (⟨a, .newContainer {} [.listener ⟨1⟩] false⟩ : Request) quiet fun _ =>
      .call (⟨a, .newContainer {} [] false⟩ : Request) quiet fun _ =>
      .call (⟨b, .start m .session {}⟩ : Request) quiet fun _ =>
      .call (⟨b, .start m .conversation {}⟩ : Request) quiet fun _ =>
      .call (⟨b, .current m .conversation⟩ : Request) quiet fun _ =>
      .call (⟨a, .start n .request {}⟩ : Request) quiet fun _ =>
      .call (⟨a, .start n .application {}⟩ : Request) quiet fun _ =>
      .call (⟨a, .start m .session {}⟩ : Request) quiet fun _ => .done
    let service : Service := .call (.shutdown m)
    let meanwhile : Callback → Program library Unit := fun _ =>
      .call (⟨a, .start m .request {}⟩ : Request) quiet fun _ => .done
    ∃ r s answer t, (p.run supply).run.run (Store.watched { surroundings := () }) = some (r, s) ∧
      service.GoesTo m ∧
      (∀ cb, (meanwhile cb).Obeys (confined m a (m.Reaches a service.lent s)) []) ∧
      (service.perform m { supply.hostOf meanwhile with thread := a }).run.run s =
        some (answer, t) ∧
      (m.slot a .session s, m.slot a .session t, t.nextContext) = (some ⟨5⟩, none, 7) ∧
      (m.conversationSlot b t, n.slot a .request t, n.application t) =
        (.active ⟨⟨2⟩⟩ ⟨1⟩, some ⟨3⟩, some ⟨4⟩) ∧
      (∀ m' thread', (m', thread') ≠ (m, a) →
        t.threadScopes m' thread' = s.threadScopes m' thread') ∧
      (∀ m' : Container, m' ≠ m → m'.application t = m'.application s) ∧
      ∀ c, ¬ m.Reaches a service.lent s c →
        t.context c = s.context c ∧ t.conversation ⟨c⟩ = s.conversation ⟨c⟩ := by
  intro a b m n supply quiet p service meanwhile
  have hseen : ((p.run supply).run.run (Store.watched { surroundings := () })).bind (fun before =>
      ((service.perform m { supply.hostOf meanwhile with thread := a }).run.run before.2).map
        fun after =>
          ((m.slot a .session before.2, m.slot a .session after.2, after.2.nextContext),
            (m.conversationSlot b after.2, n.slot a .request after.2, n.application after.2))) =
      some ((some ⟨5⟩, none, 7), (.active ⟨⟨2⟩⟩ ⟨1⟩, some ⟨3⟩, some ⟨4⟩)) := by
    decide +kernel
  obtain ⟨⟨r, s⟩, hp, hrest⟩ := Option.bind_eq_some_iff.1 hseen
  obtain ⟨⟨answer, t⟩, hrun, hfound⟩ := Option.map_eq_some_iff.1 hrest
  obtain ⟨hown, hothers⟩ := Prod.mk.inj hfound
  have hobeys : ∀ cb, (meanwhile cb).Obeys (confined m a (m.Reaches a service.lent s)) [] := by
    intro cb
    have hcall : (Call.start m .request {}).Within m (m.Reaches a service.lent s) :=
      ⟨fun _ h => (Option.some.inj h).symm, fun _ _ _ => nofun, fun _ hc => nomatch hc⟩
    exact ⟨⟨rfl, hcall⟩, fun _ => trivial, fun _ => trivial⟩
  exact ⟨r, s, answer, t, hp, rfl, hobeys, hrun, hown, hothers,
    service_isolated supply m a service rfl meanwhile hobeys hrun⟩

end ContextualLifecycle
