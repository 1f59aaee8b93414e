import ContextualLifecycle.Proofs.Container.Rules

namespace ContextualLifecycle

variable {σ α : Type} {stuck : Prop} {host : Host σ} {m : Container} {Inv : Store σ → Prop}

theorem Run.Keeps.forM {f : α → Run σ PUnit} (hf : ∀ a, Run.Keeps stuck Inv (f a))
    (xs : List α) : Run.Keeps stuck Inv (xs.forM f) := by
  induction xs with
  | nil => exact fun s hs => hs
  | cons x xs ih =>
    intro s hs
    have hcons : (x :: xs).forM f = f x >>= fun _ => xs.forM f := rfl
    rw [hcons, Run.wp_bind]
    apply (hf x s hs).mono
    exact fun _ t ht => ih t ht

theorem Act.Keeps.forM {f : α → Act σ PUnit} (hf : ∀ a, Act.Keeps stuck Inv (f a))
    (xs : List α) : Act.Keeps stuck Inv (xs.forM f) := by
  induction xs with
  | nil => exact fun s hs => hs
  | cons x xs ih =>
    intro s hs
    have hcons : (x :: xs).forM f = f x >>= fun _ => xs.forM f := rfl
    rw [hcons, Act.wp_bind]
    apply (hf x s hs).mono
    intro r t ht
    cases r with
    | ok _ => exact ih t ht
    | error error => exact ht

namespace Container

theorem attached_or {P : Prop} {thread : Thread} {kind : ScopeKind} {c : ScopeContext}
    {s t : Store σ} (h : m.attached thread kind t = some c)
    (happlication : m.application t = some c → m.application s = some c ∨ P)
    (hslot : m.slot thread kind t = some c → m.slot thread kind s = some c ∨ P) :
    m.attached thread kind s = some c ∨ P := by
  rw [attached] at h ⊢
  split
  · rw [if_pos ‹_›] at h
    exact happlication h
  · rw [if_neg ‹_›] at h
    exact hslot h

theorem attached_imp {thread : Thread} {kind : ScopeKind} {c : ScopeContext} {s t : Store σ}
    (h : m.attached thread kind t = some c)
    (happlication : m.application t = some c → m.application s = some c)
    (hslot : m.slot thread kind t = some c → m.slot thread kind s = some c) :
    m.attached thread kind s = some c :=
  (attached_or (P := False) h (fun hm => .inl (happlication hm))
    fun hm => .inl (hslot hm)).resolve_right not_false

theorem application_update (m m' : Container) (f : Container.Record → Container.Record)
    (s : Store σ) : m'.application (m.update f s) =
      if m' = m then (f (s.container m)).application else m'.application s := by
  rw [application, update, Store.setContainer, Store.container, Table.get?_insert]
  split <;> rfl

theorem threadScopes_update (m m' : Container) (thread thread' : Thread)
    (f : ThreadScopes → ThreadScopes) (s : Store σ) :
    (m.updateScopes thread f s).threadScopes m' thread' =
      if (m', thread') = (m, thread) then f (s.threadScopes m thread)
      else s.threadScopes m' thread' := by
  rw [updateScopes, Store.setThreadScopes, Store.threadScopes, Table.get?_insert]
  split <;> rfl

theorem threadScopes_forget (m m' : Container) (thread thread' : Thread) (s : Store σ) :
    (m.forgetScopes thread s).threadScopes m' thread' =
      if (m', thread') = (m, thread) then {} else s.threadScopes m' thread' := by
  rw [forgetScopes, Store.threadScopes, Table.get?_erase]
  split <;> rfl

theorem wp_activeContext_of_attached {kind : ScopeKind} {c : ScopeContext} {s : Store σ}
    {Q : Except LifecycleError ScopeContext → Store σ → Prop}
    (hkind : kind ≠ .conversation) (hc : m.attached host.thread kind s = some c) :
    Act.wp stuck (m.activeContext host kind) Q s ↔ Q (.ok c) s := by
  simp only [activeContext, Act.wp_bind]
  cases kind with
  | conversation => exact absurd rfl hkind
  | application =>
    have happlication : m.application s = some c := hc
    simp only [current, Act.wp_bind, Act.wp_get, Act.wp_pure, happlication]
  | _ =>
    have hslot : m.slot host.thread _ s = some c := hc
    simp only [current, Act.wp_bind, Act.wp_get, Act.wp_pure, hslot]

theorem wp_announce {phase : Phase} {kind : ScopeKind} {c : ScopeContext} {s : Store σ}
    (hnoted : Inv (s.note (.notified phase m kind c)))
    (hobserved : ∀ content s, Inv s → Inv (s.report content))
    (hnotify : ∀ listener, Run.Keeps stuck Inv (host.notify listener phase m kind c)) :
    Run.wp stuck (m.announce host phase kind c) (fun _ t => Inv t) s := by
  simp only [announce, Run.wp_bind, Run.wp_modify, Run.wp_get]
  have htell : ∀ observer, Run.Keeps stuck Inv (m.tell host phase kind c observer) := by
    intro observer s hs
    cases observer with
    | listener l => exact hnotify l s hs
    | logging label => exact hobserved _ s hs
  exact Run.Keeps.forM htell _ _ hnoted

theorem announce_keeps {phase : Phase} {kind : ScopeKind} {c : ScopeContext}
    (hnotified : ∀ s, Inv s → Inv (s.note (.notified phase m kind c)))
    (hobserved : ∀ content s, Inv s → Inv (s.report content))
    (hnotify : ∀ listener, Run.Keeps stuck Inv (host.notify listener phase m kind c)) :
    Run.Keeps stuck Inv (m.announce host phase kind c) :=
  fun s hs => wp_announce (hnotified s hs) hobserved hnotify

/-- The steps in which a conversation is resolved keep an invariant. -/
structure ResolveKeeps (stuck : Prop) (host : Host σ) (m : Container) (Inv : Store σ → Prop) :
    Prop where
  notified : ∀ phase kind c s, Inv s → Inv (s.note (.notified phase m kind c))
  reported : ∀ content s, Inv s → Inv (s.report content)
  notify : ∀ listener phase kind c, Run.Keeps stuck Inv (host.notify listener phase m kind c)
  added : ∀ (session : ScopeContext) draw start timeout s, Inv s →
    Inv (session.addTransient draw start timeout s).2
  numbered : ∀ next s, Inv s → Inv (m.update (fun r => { r with nextConversation := next }) s)
  acquired : ∀ (v : Conversation) s, Inv s → Inv (v.tryAcquire s).2
  swapped : ∀ slot s, Inv s → Inv (m.swapConversation host.thread slot s).2

variable (h : ResolveKeeps stuck host m Inv)

include h

theorem ResolveKeeps.beginTransient (session : ScopeContext) :
    Run.Keeps stuck Inv (m.beginTransient host session) := by
  intro s hs
  apply wp_beginTransient
  refine announce_keeps (h.notified _ _ _) h.reported (fun l => h.notify l _ _ _) _
    (h.acquired _ _ (h.numbered _ _ ?_))
  exact h.added session _ _ _ s hs

theorem ResolveKeeps.chooseConversation (session : ScopeContext) (propagatedId : Option String) :
    Run.Keeps stuck Inv (m.chooseConversation host session propagatedId) := fun s hs =>
  wp_chooseConversation_of (h.beginTransient session s hs) fun _ v _ _ _ _ => h.acquired v s hs

theorem ResolveKeeps.conversationContext :
    Act.Keeps stuck Inv (m.conversationContext host) := by
  intro s hs
  apply wp_conversationContext (fun _ => hs) (fun _ => h.reported _ s hs)
  intro propagatedId session _ _
  apply (h.chooseConversation session propagatedId s hs).mono
  intro choice t ht
  have hswapped := h.swapped (.active choice.1 session) t ht
  exact ⟨hswapped, fun _ => h.reported _ _ hswapped⟩

theorem ResolveKeeps.current (kind : ScopeKind) :
    Act.Keeps stuck Inv (m.current host kind) := by
  intro s hs
  cases kind with
  | conversation => exact h.conversationContext s hs
  | _ => exact hs

theorem ResolveKeeps.activeContext (kind : ScopeKind) :
    Act.Keeps stuck Inv (m.activeContext host kind) := by
  intro s hs
  simp only [Container.activeContext, Act.wp_bind]
  apply (h.current kind s hs).mono
  intro r t ht
  rcases r with error | (_ | c)
  · exact ht
  · exact ht
  · exact ht

end Container

end ContextualLifecycle
