import ContextualLifecycle.Proofs.Closing.Restoring
import ContextualLifecycle.Proofs.Closing.Scopes

namespace ContextualLifecycle

variable {σ : Type} {w : Closing σ} {host : Host (Watched library σ)}
  {s t : Store (Watched library σ)}

/-- The call attaches a context to a thread, brings a conversation up, or activates a context. -/
def Call.opensScopes : Call → Bool
  | .start .. | .restoreSession .. | .setActive .. | .current _ .conversation => true
  | _ => false

def windingDown : Rule := fun _ request => request.call.opensScopes = false

namespace Closing

namespace Serves

variable (h : w.Serves host)

include h

theorem perform (call : Call) (hcall : call.opensScopes = false)
    (hadd : ∀ e unit inst, call ≠ .addDependent e unit inst) :
    Act.Settles w (call.perform host) := by
  cases call with
  | newContainer config observers proxying =>
    intro s _
    exact ebbs_container (m := ⟨s.nextContainer⟩) rfl (fun _ hc => by cases hc) rfl rfl rfl rfl
      rfl rfl rfl
  | register m id unit =>
    exact fun s _ => ebbs_container (m := m) rfl (fun _ hc => hc) rfl rfl rfl rfl rfl rfl rfl
  | wait span => exact fun s _ => ebbs_wait span s
  | newEpisode m contextual => exact fun s _ => ebbs_newEpisode _ _ _ s
  | wrap m outer unit =>
    cases outer with
    | episode e => exact fun s _ => .refl _ s
    | foreign f => exact fun s _ => ebbs_newEpisode _ _ _ s
  | describe e change =>
    exact fun s _ => ebbs_episode e (f := fun r => { change r with
      dependents := r.dependents
      destroying := r.destroying
      outer := r.outer
      teardownFactor := r.teardownFactor }) (fun _ => rfl) s
  | addDependent e unit inst => exact absurd rfl (hadd e unit inst)
  | push e inst => exact fun s hs => (Act.wp_lift _).2 (h.push e inst s hs)
  | destroyDependent e inst =>
    exact Act.settles_of_keeps fun s => (h.releaseKeeps e s).toDrainKeeps.destroyDependent inst
  | removeAllDependents e =>
    exact Act.settles_of_keeps fun s => (h.releaseKeeps e s).removeAllDependents
  | release e => exact h.release e
  | newContext kind => exact fun s hs => ebbs_new kind hs.known
  | getOrCreate c unit e => exact h.getOrCreate unit e
  | destroy c unit => exact h.destroy unit
  | destroyExisting c unit => exact h.destroyExisting unit
  | destroyAll c => exact fun s hs => (h.destroyAll c hs).mono fun _ _ ht => ht.ebbs
  | removeConversation c id => exact fun s _ => ebbs_removeConversation c id s
  | promote v => exact fun s _ => ebbs_conversation v _ s
  | demote v => exact fun s _ => ebbs_conversation v _ s
  | setTimeout v timeout => exact fun s _ => ebbs_conversation v _ s
  | touch v => exact fun s _ => ebbs_conversation v _ s
  | restoreContext m snapshot =>
    intro s hs
    apply (h.restoreContext m snapshot s hs).mono
    intro r t ht
    cases r with
    | ok c => exact ht.1
    | error error => exact ht
  | current m kind =>
    cases kind with
    | conversation => cases hcall
    | _ => exact fun s _ => .refl _ s
  | stop m kind => exact h.stop kind
  | detach m kind => exact detach kind
  | destroyExpired m => exact h.destroyExpired
  | shutdown m => exact h.shutdown
  | _ => cases hcall

end Serves

theorem ebbs_addDependent {e : Episode} {unit : Contextual} {inst : Option Instance}
    {request : Request} (hcall : request.call = .addDependent e unit inst)
    (before : Store Unit) (answer : Except LifecycleError (library.Answer request))
    (after : Store Unit) (s : Store (Watched library σ)) :
    w.Settles s ((e.addDependent unit inst s).saw (.call request before answer after)) := by
  cases inst with
  | none => exact ebbs_saw s
  | some inst =>
    let sighting : Sighting library := .call request before answer after
    have hseen : s.Precedes (s.saw sighting) := ⟨List.prefix_refl _, List.suffix_cons _ _⟩
    refine ebbs_registered (e := e) (u := s.saw sighting) rfl rfl rfl rfl hseen ?_
      (Store.since_of_journal rfl) (Store.since_of_journal rfl) fun _ _ _ _ h => h
    rintro ⟨_, _, _⟩ rfl rfl rfl
    refine .inr ⟨sighting, ?_, hcall⟩
    change sighting ∈ (sighting :: s.seen).take ((sighting :: s.seen).length - s.seen.length)
    rw [List.length_cons, Nat.add_sub_cancel_left]
    exact List.mem_cons_self

theorem Serves.request (h : ∀ thread, w.Serves { host with thread }) (request : Request)
    (hcall : request.call.opensScopes = false) (hs : w.Sound s)
    (before : Store (Watched library σ)) :
    Act.wp True (library.perform host request) (fun answer t =>
      w.Settles s (Store.sawCall request before answer t : Store (Watched library σ))) s := by
  by_cases hadd : ∃ e unit inst, request.call = .addDependent e unit inst
  · obtain ⟨e, unit, inst, hadd⟩ := hadd
    obtain ⟨thread, call⟩ := request
    cases hadd
    exact ebbs_addDependent rfl _ _ _ s
  · apply ((h request.thread).perform request.call hcall
      (fun e unit inst heq => hadd ⟨e, unit, inst, heq⟩) s hs).mono
    exact fun answer t ht => ht.trans (ebbs_saw t)

theorem serves_of_programs {meanwhile : Callback → Program library σ}
    (h : ∀ s cb, Act.Keeps True (w.Ebbed s) ((meanwhile cb).run w.supply)) (thread : Thread) :
    w.Serves { w.supply.hostOf meanwhile with thread } where
  program := ⟨thread, meanwhile, rfl⟩
  keeps s := (w.supply.watched.host_keeps (h s)).on thread

theorem run_ebbed (p : Program library σ) (within : List Request)
    (hobeys : p.Obeys windingDown within) (s : Store (Watched library σ)) :
    Act.Keeps True (w.Ebbed s) (p.run w.supply) := by
  refine Program.run_keeps_within (fun s _ => w.Ebbed s) w.supply ?_ ?_ ?_ p within hobeys s
  · exact fun _ _ t ht => ht.step (ebbs_saw t)
  · exact fun _ _ own t ht => ht.step (ebbs_keep own t)
  · intro meanwhile within request hrule hmeanwhile i s hs
    apply (Serves.request (serves_of_programs hmeanwhile) request hrule hs.now s).mono
    exact fun answer t ht => hs.step ht

/-- Programs for callbacks that open no scopes serve. -/
theorem serves (meanwhile : Callback → Program library σ) (within : List Request)
    (hobeys : ∀ cb, (meanwhile cb).Obeys windingDown within) (thread : Thread) :
    w.Serves (w.host thread meanwhile) :=
  serves_of_programs (fun s cb => run_ebbed (meanwhile cb) within (hobeys cb) s) thread

end Closing

end ContextualLifecycle
