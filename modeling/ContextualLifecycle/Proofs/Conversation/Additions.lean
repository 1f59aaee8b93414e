import ContextualLifecycle.Proofs.Container.Moves
import ContextualLifecycle.Proofs.Conversation.Drawing
import ContextualLifecycle.Proofs.Conversation.Filing

namespace ContextualLifecycle

variable {σ : Type} {draw : Nat → String}

/-- A new transient conversation for a session, for which ids are drawn from some draw on. -/
structure Addition (σ : Type) where
  session : ScopeContext
  start : Nat
  timeout : Duration
  before : Store σ

namespace Addition

variable (a : Addition σ) (draw : Nat → String)

def held : Table String Conversation := (a.before.context a.session).conversations

def last : Nat := ScopeContext.firstFree a.held.contains draw a.held.size a.start

def conversation : Conversation :=
  (a.session.addTransient draw a.start a.timeout a.before).1.1

def next : Nat := (a.session.addTransient draw a.start a.timeout a.before).1.2

def after : Store σ := (a.session.addTransient draw a.start a.timeout a.before).2

/-- Among one draw more than the session has conversations, the source does not repeat an id. -/
def Varied : Prop := ScopeContext.Distinct draw a.start (a.held.size + 1)

/-- The conversation is new, under the first free id, which is found within one draw more than the
session has conversations. Those are as they were, and the next draw is the one after the last. -/
structure Sound : Prop where
  seeks : ScopeContext.Seeks a.held.contains draw a.start (a.last draw)
  bound : a.last draw ≤ a.start + a.held.size
  next : a.next draw = a.last draw + 1
  new : a.before.nextContext ≤ (a.conversation draw).context.number
  record : (a.after draw).conversation (a.conversation draw) =
    { id := draw (a.last draw), transient := true, busy := false, lastAccess := a.before.clock,
      timeout := a.timeout }
  active : (a.after draw).context (a.conversation draw).context =
    { kind := .conversation, active := true }
  free : a.session.conversation? (draw (a.last draw)) a.before = none
  listed : ∀ id, a.session.conversation? id (a.after draw) =
    if id = draw (a.last draw) then some (a.conversation draw)
    else a.session.conversation? id a.before
  kept : ∀ id v, a.session.conversation? id a.before = some v →
    a.session.conversation? id (a.after draw) = some v ∧
      (a.after draw).conversation v = a.before.conversation v ∧
      v.isDestroyed (a.after draw) = v.isDestroyed a.before

end Addition

/-- Sessions list conversations that were made, each under its id. -/
def Store.Named (s : Store σ) : Prop :=
  ∀ (x : ScopeContext) id v, x.conversation? id s = some v →
    v.context.number < s.nextContext ∧ (s.conversation v).id = id

/-- The conversations that a session lists are told apart by their ids. -/
def Store.Distinguishes (s : Store σ) : Prop :=
  ∀ (x : ScopeContext) id id' v w, x.conversation? id s = some v → x.conversation? id' s = some w →
    (s.conversation v).id = (s.conversation w).id → v = w

theorem Store.Named.distinguishes {s : Store σ} (h : s.Named) : s.Distinguishes := by
  intro x id id' v w hv hw hid
  rw [(h x id v hv).2, (h x id' w hw).2] at hid
  rw [hid, hw] at hv
  exact (Option.some.inj hv).symm

namespace Conversation

theorem context_newTransient (id : String) (timeout : Duration) (x : ScopeContext) (s : Store σ) :
    (newTransient id timeout s).2.context x =
      if x = ⟨s.nextContext⟩ then { kind := .conversation, active := true } else s.context x := by
  split
  · rename_i hx
    rw [hx]
    exact ScopeContext.context_newActive .conversation s
  · rename_i hx
    exact (ScopeContext.context_update_of_ne hx (fun r => { r with active := true })
      (ScopeContext.new .conversation s).2).trans
        ((ScopeContext.context_new_eq .conversation x s).trans (if_neg hx))

theorem conversation_newTransient (id : String) (timeout : Duration) (w : Conversation)
    (s : Store σ) : (newTransient id timeout s).2.conversation w =
      if w = ⟨⟨s.nextContext⟩⟩ then { id, lastAccess := s.clock, timeout }
      else s.conversation w :=
  conversation_update ⟨⟨s.nextContext⟩⟩ w (fun _ => _) (ScopeContext.newActive .conversation s).2

end Conversation

namespace Addition

variable {a : Addition σ}

theorem context_after (x : ScopeContext) : (a.after draw).context x =
    let made := (Conversation.newTransient (draw (a.last draw)) a.timeout a.before).2
    if x = a.session then { made.context a.session with
      conversations :=
        (made.context a.session).conversations.insert (draw (a.last draw)) (a.conversation draw) }
    else made.context x :=
  ScopeContext.context_update_eq a.session x _ _

theorem sound (hnamed : a.before.Named) (hissued : a.session.number < a.before.nextContext)
    (hdraw : a.Varied draw) : a.Sound draw := by
  let v := a.conversation draw
  let id := draw (a.last draw)
  let made := (Conversation.newTransient id a.timeout a.before).2
  have hseeks : ScopeContext.Seeks a.held.contains draw a.start (a.last draw) :=
    ScopeContext.seeks_held hdraw
  have hne : ∀ x : ScopeContext, x.number < a.before.nextContext → x ≠ v.context := by
    rintro x hx rfl
    exact Nat.lt_irrefl _ hx
  have hmade : ∀ x : ScopeContext, x.number < a.before.nextContext →
      made.context x = a.before.context x := fun x hx =>
    (Conversation.context_newTransient id a.timeout x a.before).trans (if_neg (hne x hx))
  have hsession : (a.after draw).context a.session = { a.before.context a.session with
      conversations := a.held.insert id v } := by
    refine (context_after a.session).trans ((if_pos rfl).trans ?_)
    rw [hmade a.session hissued]
    rfl
  have hlisted : ∀ id', a.session.conversation? id' (a.after draw) =
      if id' = id then some v else a.session.conversation? id' a.before := by
    intro id'
    rw [ScopeContext.conversation?, hsession]
    exact Table.get?_insert ..
  refine ⟨hseeks, ScopeContext.firstFree_le .., rfl, Nat.le_refl _, ?_, ?_, hseeks.conversation?,
    hlisted, ?_⟩
  · exact (Conversation.conversation_newTransient _ _ _ _).trans (if_pos rfl)
  · refine (context_after v.context).trans ((if_neg (hne _ hissued).symm).trans ?_)
    exact (Conversation.context_newTransient _ _ _ _).trans (if_pos rfl)
  · intro id' w hw
    have hw' := (hnamed _ _ _ hw).1
    refine ⟨?_, ?_, ?_⟩
    · rw [hlisted, if_neg, hw]
      rintro rfl
      rw [hseeks.conversation?] at hw
      cases hw
    · refine (Conversation.conversation_newTransient _ _ _ _).trans (if_neg ?_)
      rintro rfl
      exact hne _ hw' rfl
    · have hactive : ((a.after draw).context w.context).active =
          (a.before.context w.context).active := by
        by_cases hx : w.context = a.session
        · rw [hx, hsession]
        · exact congrArg (·.active) ((context_after w.context).trans
            ((if_neg hx).trans (hmade _ hw')))
      rw [Conversation.isDestroyed, hactive, Conversation.isDestroyed]

end Addition

/-- Additions from a store and a number on, the latest first, with programs in between. A source may
serve others as well, so an addition starts at the number of the next draw, or later. -/
inductive Additions (draw : Nat → String) (s : Store (Watched library σ)) (n : Nat) :
    List (Addition (Watched library σ)) → Store (Watched library σ) → Nat → Prop where
  | none : Additions draw s n [] s n
  | ran {as : List (Addition (Watched library σ))} {t u : Store (Watched library σ)} {m : Nat}
      (h : Additions draw s n as t m) (supply : Supply σ) (p : Program library σ)
      {r : Except LifecycleError Unit} (hrun : (p.run supply).run.run t = some (r, u)) :
    Additions draw s n as u m
  | added {as : List (Addition (Watched library σ))} {a : Addition (Watched library σ)} {m : Nat}
      (h : Additions draw s n as a.before m) (hissued : a.session.number < a.before.nextContext)
      (hstart : m ≤ a.start) (hdraw : a.Varied draw) :
    Additions draw s n (a :: as) (a.after draw) (a.next draw)

/-- What was seen since a store: at every moment, conversations are told apart. -/
def Sighting.Distinguished (s : Store (Watched library σ)) (sighting : Sighting library) : Prop :=
  sighting ∈ s.seen ∨ ∀ u, sighting = .moment u → u.Distinguishes

/-- The account of additions: each is sound, and its conversation has kept its id. They are in the
order of the draws. -/
structure Additions.Account (draw : Nat → String) (s : Store (Watched library σ)) (n : Nat)
    (as : List (Addition (Watched library σ))) (t : Store (Watched library σ)) (m : Nat) :
    Prop where
  filed : Filed (Sighting.Distinguished s) t [] t
  sound : ∀ a ∈ as, a.Sound draw
  named : ∀ a ∈ as, (a.conversation draw).context.number < t.nextContext ∧
    (t.conversation (a.conversation draw)).id = draw (a.last draw)
  drawn : ∀ a ∈ as, n ≤ a.start ∧ a.last draw < m
  ordered : as.Pairwise fun b a =>
    a.last draw < b.start ∧ a.conversation draw ≠ b.conversation draw
  later : n ≤ m

namespace Additions

variable {s t : Store (Watched library σ)} {n m : Nat} {as : List (Addition (Watched library σ))}

theorem Account.none (hs : s.Named) (n : Nat) : Account draw s n [] s n where
  filed := {
    next := Nat.le_refl _
    named := fun _ _ => rfl
    listed := hs
    nodup := .nil
    apart := fun _ hc => by cases hc
    seen := fun _ hin => .inl hin }
  sound _ ha := by cases ha
  named _ ha := by cases ha
  drawn _ ha := by cases ha
  ordered := .nil
  later := Nat.le_refl n

theorem Account.filing {u : Store (Watched library σ)} (h : Account draw s n as t m)
    (hu : Filed (Sighting.Distinguished s) t [] u) : Account draw s n as u m where
  filed := hu.now
  sound := h.sound
  named a ha := by
    obtain ⟨hissued, hname⟩ := h.named a ha
    exact ⟨Nat.lt_of_lt_of_le hissued hu.next, (hu.named _ hissued).trans hname⟩
  drawn := h.drawn
  ordered := h.ordered
  later := h.later

theorem Account.ran (h : Account draw s n as t m) (supply : Supply σ) (p : Program library σ)
    {r : Except LifecycleError Unit} {u : Store (Watched library σ)}
    (hrun : (p.run supply).run.run t = some (r, u)) : Account draw s n as u m := by
  have hkeeps : Act.Keeps True (Filed (Sighting.Distinguished s) t []) (p.run supply) := by
    refine Filed.run ?_ ?_ supply p t []
    · intro u hu
      refine .inr fun moment hmoment => ?_
      cases hmoment
      exact Store.Named.distinguishes (s := u) hu.listed
    · intro host request u _ _ _
      exact Act.wp_true_iff.2 fun _ _ _ => .inr fun moment hmoment => by cases hmoment
  exact h.filing ((Act.wp_of_run hrun).1 (hkeeps t h.filed))

theorem Account.added {a : Addition (Watched library σ)} (h : Account draw s n as a.before m)
    (hissued : a.session.number < a.before.nextContext) (hstart : m ≤ a.start)
    (hdraw : a.Varied draw) : Account draw s n (a :: as) (a.after draw) (a.next draw) := by
  have hsound := a.sound h.filed.listed hissued hdraw
  have hlast : a.start ≤ a.last draw := (ScopeContext.seeks_iff.1 hsound.seeks).1
  have hnext := hsound.next
  have hlater := h.later
  have hkept := h.filing (h.filed.add a.session draw a.start a.timeout)
  refine { hkept with sound := ?_, named := ?_, drawn := ?_, ordered := ?_, later := by omega }
  · exact List.forall_mem_cons.2 ⟨hsound, h.sound⟩
  · refine List.forall_mem_cons.2 ⟨⟨Nat.lt_succ_self _, ?_⟩, hkept.named⟩
    exact congrArg (·.id) hsound.record
  · refine List.forall_mem_cons.2 ⟨⟨by omega, by omega⟩, fun b hb => ?_⟩
    obtain ⟨hfirst, hbelow⟩ := h.drawn b hb
    exact ⟨hfirst, by omega⟩
  · refine List.pairwise_cons.2 ⟨fun b hb => ⟨?_, ?_⟩, h.ordered⟩
    · exact Nat.lt_of_lt_of_le (h.drawn b hb).2 hstart
    · intro heq
      have hold := (h.named b hb).1
      rw [heq] at hold
      exact Nat.lt_irrefl _ (Nat.lt_of_lt_of_le hold hsound.new)

theorem account (hs : s.Named) (h : Additions draw s n as t m) : Account draw s n as t m := by
  induction h with
  | none => exact .none hs n
  | ran _ supply p hrun ih => exact ih.ran supply p hrun
  | added _ hissued hstart hdraw ih => exact ih.added hissued hstart hdraw

end Additions

/-- However often new conversations are added to sessions, and whatever programs do in between: each
addition ends within one draw more than its session has conversations, restored ones included, and
gives a conversation under the first free id that leaves those that are there alone. Each begins to
draw after the last draw of the one before it. At the end, and at every moment of the programs, no
session lists two conversations with one id. -/
theorem additions_distinguished {s t : Store (Watched library σ)} {n m : Nat}
    {as : List (Addition (Watched library σ))} (hs : s.Named) (h : Additions draw s n as t m) :
    (∀ a ∈ as, a.Sound draw ∧ (t.conversation (a.conversation draw)).id = draw (a.last draw)) ∧
    as.Pairwise (fun b a =>
      a.last draw < b.start ∧ a.conversation draw ≠ b.conversation draw) ∧
    t.Distinguishes ∧
    ∀ u, .moment u ∈ t.seen → .moment u ∈ s.seen ∨ u.Distinguishes := by
  have haccount := h.account hs
  refine ⟨fun a ha => ⟨haccount.sound a ha, (haccount.named a ha).2⟩, haccount.ordered, ?_, ?_⟩
  · exact Store.Named.distinguishes haccount.filed.listed
  · exact fun u hu => (haccount.filed.seen _ hu).imp_right fun hmoment => hmoment u rfl

/-- The hypotheses hold where a session has a restored conversation under the first number. -/
theorem additions_distinguished_restored :
    let supply : Supply Unit := Supply.numbered ⟨"main"⟩
    let thread : Thread := ⟨"main"⟩
    let m : Container := ⟨1⟩
    let session : ScopeContext := ⟨1⟩
    let quiet : Callback → Program library Unit := fun _ => .done
    let restored : ConversationSnapshot := ⟨"1", 60000, ⟨.conversation, [], []⟩⟩
    let p : Program library Unit :=
      .call (⟨thread, .newContainer {} [] false⟩ : Request) quiet fun _ =>
      .call (⟨thread, .restoreContext m ⟨.session, [], [restored]⟩⟩ : Request) quiet fun _ => .done
    let s : Store (Watched library Unit) := Store.watched { surroundings := () }
    s.Named ∧ ∃ r t, (p.run supply).run.run s = some (r, t) ∧
      let a : Addition (Watched library Unit) := ⟨session, 1, ⟨0⟩, t⟩
      let b : Addition (Watched library Unit) := ⟨session, a.next toString, ⟨0⟩, a.after toString⟩
      let u := b.after toString
      Additions toString s 1 [b, a] u (b.next toString) ∧
      [a, b].map (fun c => toString (c.last toString)) = ["2", "3"] ∧
      (∀ c ∈ [b, a], c.Sound toString ∧
        (u.conversation (c.conversation toString)).id = toString (c.last toString)) ∧
      [b, a].Pairwise (fun d c =>
        c.last toString < d.start ∧ c.conversation toString ≠ d.conversation toString) ∧
      u.Distinguishes ∧
      ∀ v, .moment v ∈ u.seen → .moment v ∈ s.seen ∨ v.Distinguishes := by
  intro supply thread m session quiet restored p s
  have hnamed : s.Named := fun _ _ _ hv => by cases hv
  let added (t : Store (Watched library Unit)) : Addition (Watched library Unit) :=
    ⟨session, 1, ⟨0⟩, t⟩
  let again (a : Addition (Watched library Unit)) : Addition (Watched library Unit) :=
    ⟨session, a.next toString, ⟨0⟩, a.after toString⟩
  have hends : ((p.run supply).run.run s).map (fun o => (decide (1 < o.2.nextContext),
      [added o.2, again (added o.2)].map fun c => toString (c.last toString))) =
        some (true, ["2", "3"]) := by
    decide +kernel
  obtain ⟨⟨r, t⟩, hrun, ht⟩ := Option.map_eq_some_iff.1 hends
  obtain ⟨hissued, hids⟩ := Prod.mk.inj ht
  have hissued : session.number < t.nextContext := of_decide_eq_true hissued
  have hvaried : ∀ c : Addition (Watched library Unit), c.Varied toString := fun c =>
    ScopeContext.distinct_of_injective ScopeContext.toString_injective _ _
  have h : Additions toString s 1 [again (added t), added t] ((again (added t)).after toString)
      ((again (added t)).next toString) := by
    refine .added (.added (.ran .none supply p hrun) hissued (Nat.le_refl _) (hvaried _)) ?_
      (Nat.le_refl _) (hvaried _)
    exact Nat.lt_succ_of_lt hissued
  exact ⟨hnamed, r, t, hrun, h, hids, additions_distinguished hnamed h⟩

end ContextualLifecycle
