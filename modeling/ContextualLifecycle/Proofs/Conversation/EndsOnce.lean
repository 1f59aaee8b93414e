import ContextualLifecycle.Proofs.Container.Account
import ContextualLifecycle.Proofs.Conversation.Turnover

namespace ContextualLifecycle

variable {σ : Type}

/-- The context of a conversation is left to the library: it is not activated or torn down from
outside, nor attached as a session, nor is it one that is restored from a snapshot. -/
def sparing (v : Conversation) : Rule := fun _ request =>
  match request.call with
  | .setActive c _ | .destroyAll c => c ≠ v.context
  | .start _ _ params => params.session ≠ some v.context
  | .restoreContext .. | .restoreSession .. => False
  | _ => True

variable {v : Conversation} {within : List Request} {request : Request}

theorem Conversation.Guards.perform {host : Host (Watched library σ)} (h : Guards host v)
    (hrule : sparing v within request) (g : Stage) :
    Act.Keeps True (v.Custody g) (request.call.perform host) := by
  obtain ⟨thread, call⟩ := request
  have hquiet : ∀ s t : Store (Watched library σ), s.Quiet t → v.Custody g s → v.Custody g t :=
    fun _ _ hst hs => hs.untouched (.of_quiet hst)
  cases call with
  | setActive c active => exact fun s hs => hs.untouched (.setActive hrule active s)
  | destroyAll c => exact h.destroyNested UInt64.size g c (allows_of_ne hrule)
  | start m kind params => exact h.start hrule
  | current m kind => exact h.current
  | stop m kind => exact h.stop
  | detach m kind => exact fun s hs => hs.detached
  | destroyExpired m => exact h.destroyExpired
  | shutdown m => exact h.shutdown
  | restoreContext m snapshot => cases hrule
  | restoreSession m snapshot => cases hrule
  | _ => exact Call.perform_quiet _ rfl (h g).tends hquiet

/-- Programs that spare the context of a conversation keep it in custody. -/
theorem Program.run_custody (supply : Supply σ) (p : Program library σ)
    (hobeys : p.Obeys (sparing v) within) (g : Stage) :
    Act.Keeps True (v.Custody g) (p.run supply) := by
  refine Program.run_keeps_within (fun g _ => v.Custody g) supply ?_ ?_ ?_ p within hobeys g
  · exact fun g _ s hs => hs.untouched (.surroundings _ s)
  · exact fun g _ own s hs => hs.untouched (.surroundings _ s)
  · intro meanwhile within request hrule hmeanwhile g s hs
    have hguards : v.Guards { supply.hostOf meanwhile with thread := request.thread } := fun g =>
      (supply.watched.host_keeps (hmeanwhile g)).on request.thread
    exact (hguards.perform hrule g s hs).mono fun answer t ht => ht.untouched (.surroundings _ t)

theorem Conversation.custody_start (v : Conversation) (own : σ) :
    v.Custody {} (Store.watched { surroundings := own } : Store (Watched library σ)) := by
  let s : Store (Watched library σ) := Store.watched { surroundings := own }
  have hclaimed : ∀ x, ¬ v.IsClaimed {} x s := by
    rintro x (⟨id, hid⟩ | ⟨desk, hdesk⟩ | hhand)
    · cases hid
    · cases hdesk
    · cases hhand
  exact {
    told := List.nil_prefix
    begun := by
      rintro (⟨x, hx⟩ | hbegun | hdue | howed)
      · exact absurd hx (hclaimed x)
      · cases hbegun
      · cases hdue
      · cases howed
    kind := fun hstory => absurd rfl hstory
    issued := by
      rintro (hstory | hactive | hoff)
      · exact absurd rfl hstory
      · cases hactive
      · cases hoff
    attached := by
      intro m thread kind x hx
      rw [Container.attached] at hx
      split at hx <;> cases hx
    home := fun x x' hx => absurd hx (hclaimed x)
    name := fun x id hid => by cases hid
    listed := fun x hx => absurd (.inl hx) (hclaimed x)
    alone := fun desk desk' x x' hx => by cases hx
    busy := by
      rintro (⟨x, hx⟩ | hhand)
      · exact absurd (.inr (.inl hx)) (hclaimed x)
      · cases hhand
    free := fun hhand => by cases hhand
    off := fun hoff => by cases hoff
    due := fun hdue => by cases hdue
    owed := fun howed => by cases howed
    ended := fun hstory => by cases hstory }

/-- Whatever requests threads make, and whatever callbacks do meanwhile, as long as they leave the
context of a conversation to the library: observers hear of the beginning of the conversation at
most once, and after that of its end, at most once. And no instance is destroyed more often than it
came up, so it is destroyed at most once if instances are fresh, unless the surroundings have it
restored from a snapshot or register it themselves. -/
theorem conversation_ends_once (supply : Supply σ) (own : σ) (v : Conversation)
    (p : Program library σ) (hobeys : p.Obeys (sparing v) [])
    {r : Except LifecycleError Unit} {t : Store (Watched library σ)}
    (h : (p.run supply).run.run (Store.watched { surroundings := own }) = some (r, t)) :
    v.story t <+: [.initialized, .destroyed] ∧
      (∀ b : Bag, b.destructions t ≤ b.creations t + b.restorations t + b.registrations t) ∧
      (supply.Fresh → ∀ b : Bag, b.destructions t ≤ 1 + b.restorations t + b.registrations t) := by
  refine ⟨?_, ?_, ?_⟩
  · exact ((Act.wp_of_run h).1 (p.run_custody supply hobeys {} _ (v.custody_start own))).told
  · exact fun b => b.destructions_le supply own p h
  · intro hfresh b
    have hcreated := b.creations_le_one hfresh own p h
    have hdestroyed := b.destructions_le supply own p h
    omega

/-- The hypotheses hold of a conversation with an entry whose destruction, at the end of the
request, ends all other scopes and then tries to end the conversation in several ways again. -/
theorem conversation_ends_once_reentered :
    let supply : Supply Unit := Supply.numbered ⟨"main"⟩
    let thread : Thread := ⟨"main"⟩
    let m : Container := ⟨1⟩
    let v : Conversation := ⟨⟨2⟩⟩
    let cart : Contextual := { object := 1, id := ⟨"cart"⟩, variety := .plain }
    let quiet : Callback → Program library Unit := fun _ => .done
    let again : Callback → Program library Unit := fun _ =>
      .call (⟨thread, .shutdown m⟩ : Request) quiet fun _ =>
      .call (⟨thread, .stop m .conversation⟩ : Request) quiet fun _ =>
      .call (⟨thread, .destroyExpired m⟩ : Request) quiet fun _ => .done
    let p : Program library Unit :=
      .call (⟨thread, .newContainer {} [.listener ⟨1⟩] false⟩ : Request) quiet fun _ =>
      .call (⟨thread, .start m .session {}⟩ : Request) quiet fun _ =>
      .call (⟨thread, .start m .conversation {}⟩ : Request) quiet fun _ =>
      .call (⟨thread, .current m .conversation⟩ : Request) quiet fun _ =>
      .call (⟨thread, .newEpisode m (some cart)⟩ : Request) quiet fun _ =>
      .call (⟨thread, .getOrCreate v.context cart ⟨1⟩⟩ : Request) quiet fun _ =>
      .call (⟨thread, .stop m .conversation⟩ : Request) again fun _ => .done
    ∃ r t, p.Obeys (sparing v) [] ∧
      (p.run supply).run.run (Store.watched { surroundings := () }) = some (r, t) ∧
      v.story t = [.initialized, .destroyed] ∧
      Bag.destructions ⟨cart, ⟨1⟩, ⟨1⟩⟩ t = 1 ∧
      v.story t <+: [.initialized, .destroyed] ∧
      (∀ b : Bag, b.destructions t ≤ b.creations t + b.restorations t + b.registrations t) ∧
      (supply.Fresh → ∀ b : Bag, b.destructions t ≤ 1 + b.restorations t + b.registrations t) := by
  intro supply thread m v cart quiet again p
  have hobeys : p.Obeys (sparing v) [] := by
    simp [p, again, quiet, v, Program.Obeys, sparing]
  have hseen : ((p.run supply).run.run (Store.watched { surroundings := () })).map
      (fun o => (v.story o.2, Bag.destructions ⟨cart, ⟨1⟩, ⟨1⟩⟩ o.2)) =
      some ([.initialized, .destroyed], 1) := by
    decide +kernel
  obtain ⟨⟨r, t⟩, hrun, hend⟩ := Option.map_eq_some_iff.1 hseen
  obtain ⟨hstory, hdestroyed⟩ := Prod.mk.inj hend
  exact ⟨r, t, hobeys, hrun, hstory, hdestroyed,
    conversation_ends_once supply () v p hobeys hrun⟩

end ContextualLifecycle
