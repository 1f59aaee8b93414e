import ContextualLifecycle.Container.Basic

namespace ContextualLifecycle

variable {σ : Type}

namespace Table

variable {κ α : Type} [DecidableEq κ] {t : Table κ α} {test : α → Bool} {key : κ} {value : α}

theorem get?_of_findKey? (h : t.findKey? test = some key) :
    ∃ value, t.get? key = some value ∧ test value = true := by
  obtain ⟨row, hrow, rfl⟩ := Option.map_eq_some_iff.1 h
  have htest := List.find?_some hrow
  exact ⟨row.2, get?_eq_some_iff.2 (List.mem_of_find?_eq_some hrow), htest⟩

theorem findKey?_of_get? (h : t.get? key = some value) (htest : test value = true) :
    ∃ key, t.findKey? test = some key := by
  have hmem := get?_eq_some_iff.1 h
  cases hfound : t.rows.find? fun row => test row.2 with
  | none => exact absurd htest (List.find?_eq_none.1 hfound (key, value) hmem)
  | some row => exact ⟨row.1, by rw [findKey?, hfound, Option.map_some]⟩

end Table

inductive Registration where
  | under (id : String) (unit : Contextual)
  | declared (unit : Contextual)

namespace Registration

def perform (m : Container) : Registration → Store σ → Store σ
  | under id unit => m.registerAs id unit
  | declared unit => fun s => (m.register unit s).2

def unit? (id : String) : Registration → Option Contextual
  | under key unit => if id = key then some unit else none
  | declared unit => if unit.passivationId = some id then some unit else none

def last? (id : String) (registrations : List Registration) : Option Contextual :=
  registrations.reverse.findSome? (unit? id)

end Registration

def Container.registerAll (m : Container) (registrations : List Registration) (s : Store σ) :
    Store σ :=
  registrations.foldl (fun s registration => registration.perform m s) s

namespace Container

theorem beans_registerAs (m : Container) (id : String) (unit : Contextual) (s : Store σ) :
    ((m.registerAs id unit s).container m).beans = (s.container m).beans.insert id unit := by
  simp only [registerAs, update, Store.setContainer, Store.container, Table.get?_insert,
    ↓reduceIte, Option.getD_some]

theorem get?_perform (m : Container) (registration : Registration) (s : Store σ) (id : String) :
    ((registration.perform m s).container m).beans.get? id =
      (registration.unit? id).or ((s.container m).beans.get? id) := by
  cases registration with
  | under key unit =>
    rw [Registration.perform, beans_registerAs, Table.get?_insert, Registration.unit?]
    split <;> rfl
  | declared unit =>
    simp only [Registration.perform, register, Registration.unit?]
    cases hdeclared : unit.passivationId with
    | none => rfl
    | some key =>
      rw [beans_registerAs, Table.get?_insert]
      by_cases hkey : key = id
      · rw [if_pos hkey.symm, if_pos (congrArg some hkey), Option.some_or]
      · rw [if_neg (Ne.symm hkey), if_neg (fun h => hkey (Option.some_inj.1 h)), Option.none_or]

theorem get?_registerAll (m : Container) (registrations : List Registration) (s : Store σ)
    (id : String) : ((m.registerAll registrations s).container m).beans.get? id =
      (Registration.last? id registrations).or ((s.container m).beans.get? id) := by
  induction registrations generalizing s with
  | nil => rfl
  | cons registration registrations ih =>
    have hrest := ih (registration.perform m s)
    rw [get?_perform, ← Option.or_assoc] at hrest
    refine hrest.trans (congrArg (Option.or · _) ?_)
    rw [Registration.last?, Registration.last?, List.reverse_cons, List.findSome?_append,
      List.findSome?_singleton]

theorem get?_registerAll_new (config : Config) (observers : List Observer) (proxying : Bool)
    (s : Store σ) (registrations : List Registration) (id : String) :
    let made := Container.new config observers proxying s
    ((made.1.registerAll registrations made.2).container made.1).beans.get? id =
      Registration.last? id registrations := by
  intro made
  have hempty : (made.2.container made.1).beans = ∅ := by
    simp only [made, Container.new, Store.setContainer, Store.container, Table.get?_insert,
      ↓reduceIte, Option.getD_some]
  rw [get?_registerAll, hempty, Table.get?_empty, Option.or_none]

end Container

namespace Beans

variable {beans : Beans} {unit : Contextual} {id : String}

def Registers (beans : Beans) (id : String) (unit : Contextual) : Prop :=
  ∃ found, beans.get? id = some found ∧ found.isSame unit = true

/-- A contextual declares an id under which it is not registered. -/
def Misnames (beans : Beans) (id : String) (unit : Contextual) : Prop :=
  unit.passivationId = some id ∧ ¬ beans.Registers id unit

/-- The id of a contextual resolves back to it, unless it declares one that does not. -/
theorem registers_of_idOf? (h : beans.idOf? unit = some id) :
    beans.Registers id unit ∨ beans.Misnames id unit := by
  rw [idOf?] at h
  split at h
  · rename_i declared hdeclared
    cases h
    by_cases hregistered : beans.Registers id unit
    · exact .inl hregistered
    · exact .inr ⟨hdeclared, hregistered⟩
  · exact .inl (Table.get?_of_findKey? h)

theorem Registers.idOf? (h : beans.Registers id unit) : ∃ own, beans.idOf? unit = some own := by
  obtain ⟨found, hfound, hsame⟩ := h
  rw [Beans.idOf?]
  split
  · exact ⟨_, rfl⟩
  · exact Table.findKey?_of_get? hfound hsame

end Beans

end ContextualLifecycle
