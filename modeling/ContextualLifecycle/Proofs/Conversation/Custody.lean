import ContextualLifecycle.Proofs.Container.Quiet
import ContextualLifecycle.Proofs.Conversation.Tally

namespace ContextualLifecycle

variable {σ : Type}

/-- Where an operation in progress has a conversation. -/
structure Stage where
  /-- It is on its way from this session into a slot. -/
  hand : Option ScopeContext := none
  /-- No session has it any more. -/
  off : Bool := false
  /-- Observers were told of its beginning. -/
  begun : Bool := false
  /-- It waits for its turn to be torn down, and nobody else knows of it. -/
  due : Bool := false
  /-- Its context is being torn down, and observers have yet to be told. -/
  owed : Bool := false

namespace Conversation

def heard? (v : Conversation) : Notice → Option Phase
  | (phase, _, .conversation, c) => if c = v.context then some phase else none
  | _ => none

/-- What observers were told of a conversation, in order. -/
def story (v : Conversation) (s : Store σ) : List Phase := s.notices.filterMap v.heard?

def IsListed (v : Conversation) (x : ScopeContext) (s : Store σ) : Prop :=
  ∃ id, x.conversation? id s = some v

def IsHeld (v : Conversation) (x : ScopeContext) (s : Store σ) : Prop :=
  ∃ desk : Desk, desk.1.conversationSlot desk.2 s = .active v x

/-- The conversation is listed in a session, or was resolved against it and is not given up yet. -/
def IsClaimed (v : Conversation) (g : Stage) (x : ScopeContext) (s : Store σ) : Prop :=
  v.IsListed x s ∨ v.IsHeld x s ∨ g.hand = some x

/-- A context is not that of the conversation, or there is no such conversation: the context was
made for a scope of another kind. -/
def IsForeign (v : Conversation) (x : ScopeContext) (s : Store σ) : Prop :=
  x = v.context → v.context.number < s.nextContext ∧
    (s.context v.context).kind ≠ .conversation

/-- A conversation is begun, and its context is active until it is torn down, once. While it is
active no other operation than those that have it in hand can get at it but through its session and
through one slot. -/
structure Custody (v : Conversation) (g : Stage) (s : Store (Watched library σ)) : Prop where
  told : v.story s <+: [.initialized, .destroyed]
  begun : (∃ x, v.IsClaimed g x s) ∨ g.begun = true ∨ g.due = true ∨ g.owed = true →
    v.story s ≠ []
  kind : v.story s ≠ [] → (s.context v.context).kind = .conversation
  issued : v.story s ≠ [] ∨ (s.context v.context).active = true ∨ g.off = true →
    v.context.number < s.nextContext
  attached : ∀ (m : Container) thread kind x, m.attached thread kind s = some x → v.IsForeign x s
  home : ∀ x x', v.IsClaimed g x s → v.IsClaimed g x' s → x = x'
  name : ∀ (x : ScopeContext) id, x.conversation? id s = some v → (s.conversation v).id = id
  listed : ∀ x, v.IsListed x s → (s.context v.context).active = true
  alone : ∀ (desk desk' : Desk) x x', desk.1.conversationSlot desk.2 s = .active v x →
    desk'.1.conversationSlot desk'.2 s = .active v x' → desk = desk'
  busy : (∃ x, v.IsHeld x s) ∨ g.hand.isSome = true → (s.conversation v).busy = true
  free : g.hand.isSome = true → ∀ x, ¬ v.IsHeld x s
  off : g.off = true → ∀ x, ¬ v.IsListed x s
  due : g.due = true → (s.context v.context).active = true ∧ ∀ x, ¬ v.IsClaimed g x s
  owed : g.owed = true → (s.context v.context).active = false
  ended : v.story s = [.initialized, .destroyed] →
    (s.context v.context).active = false ∧ g.owed = false

section Account

variable {v : Conversation} {g : Stage} {x : ScopeContext} {s : Store (Watched library σ)}

theorem story_note (v : Conversation) (event : Event) (s : Store σ) :
    v.story (s.note event) = v.story s ++ (event.notice?.bind v.heard?).toList := by
  rw [story, story, Store.notices_note, List.filterMap_append]
  cases event.notice? with
  | none => rfl
  | some notice => cases hnotice : v.heard? notice <;> simp [hnotice]

theorem isForeign_of_ne (h : x ≠ v.context) : v.IsForeign x s := fun heq => absurd heq h

theorem Custody.issued_of_listed (h : v.Custody g s) (hx : v.IsListed x s) :
    v.context.number < s.nextContext :=
  h.issued (.inr (.inl (h.listed x hx)))

theorem Custody.absent (h : v.Custody g s) (hfresh : s.nextContext ≤ v.context.number) :
    v.story s = [] ∧ (s.context v.context).active = false ∧ (∀ x, ¬ v.IsClaimed g x s) ∧
      g.off = false ∧ g.begun = false ∧ g.due = false ∧ g.owed = false := by
  have hnone : ¬ (v.story s ≠ [] ∨ (s.context v.context).active = true ∨ g.off = true) :=
    fun hissued => Nat.lt_irrefl _ (Nat.lt_of_lt_of_le (h.issued hissued) hfresh)
  simp only [not_or, Decidable.not_not, Bool.not_eq_true] at hnone
  obtain ⟨hstory, hactive, hoff⟩ := hnone
  have hidle := mt h.begun fun hne => hne hstory
  simp only [not_or, not_exists, Bool.not_eq_true] at hidle
  obtain ⟨hclaimed, hbegun, hdue, howed⟩ := hidle
  exact ⟨hstory, hactive, hclaimed, hoff, hbegun, hdue, howed⟩

theorem Custody.take (h : v.Custody g s) (hlisted : ∀ x, ¬ v.IsListed x s)
    (hissued : v.context.number < s.nextContext) : v.Custody { g with off := true } s :=
  { h with
    issued := fun _ => hissued
    off := fun _ => hlisted }

theorem Custody.know (h : v.Custody g s) (hstory : v.story s ≠ []) :
    v.Custody { g with begun := true } s :=
  { h with begun := fun _ => hstory }

theorem Custody.forget (h : v.Custody { g with off := true } s) : v.Custody g s :=
  { h with
    issued := fun hs => h.issued (hs.imp_right (·.imp_right fun _ => rfl))
    off := fun _ => h.off rfl }

theorem Custody.unknow (h : v.Custody { g with begun := true } s) : v.Custody g s :=
  { h with begun := fun hs => h.begun (hs.imp_right (·.imp_left fun _ => rfl)) }

/-- Nobody holds it any more, so it can be torn down in its turn. -/
theorem Custody.await (h : v.Custody g s) (hoff : g.off = true) (hbegun : g.begun = true)
    (hactive : (s.context v.context).active = true) (hbusy : (s.conversation v).busy = false) :
    v.Custody { g with due := true } s := by
  have hclaimed : ∀ x, ¬ v.IsClaimed g x s := by
    rintro x (hlisted | hheld | hhand)
    · exact h.off hoff x hlisted
    · exact Bool.false_ne_true (hbusy.symm.trans (h.busy (.inl ⟨x, hheld⟩)))
    · exact Bool.false_ne_true (hbusy.symm.trans (h.busy (.inr (by rw [hhand]; rfl))))
  exact { h with
    begun := fun _ => h.begun (.inr (.inl hbegun))
    due := fun _ => ⟨hactive, hclaimed⟩ }

end Account

end Conversation

end ContextualLifecycle
