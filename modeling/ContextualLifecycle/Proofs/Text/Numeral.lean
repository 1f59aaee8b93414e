import ContextualLifecycle.Text.Blank
import ContextualLifecycle.Text.Numeral
import Mathlib.Data.List.TakeWhile

namespace ContextualLifecycle.Text

/-- The text is the core with blanks around it. -/
def Pads (core text : List Char) : Prop :=
  ∃ before after, (∀ c ∈ before, isBlank c) ∧ (∀ c ∈ after, isBlank c) ∧
    text = before ++ core ++ after

theorem pads_trim (text : List Char) : Pads (trim text) text := by
  have htrimmed : (text.dropWhile isBlank).reverse.takeWhile isBlank ++
      (text.dropWhile isBlank).reverse.dropWhile isBlank = (text.dropWhile isBlank).reverse :=
    List.takeWhile_append_dropWhile
  refine ⟨text.takeWhile isBlank, ((text.dropWhile isBlank).reverse.takeWhile isBlank).reverse,
    fun c => List.mem_takeWhile_imp, fun c hc => List.mem_takeWhile_imp (List.mem_reverse.1 hc), ?_⟩
  rw [List.append_assoc, trim, ← List.reverse_append, htrimmed, List.reverse_reverse,
    List.takeWhile_append_dropWhile]

theorem dropWhile_blanks {before core : List Char} (hbefore : ∀ c ∈ before, isBlank c)
    (hcore : ∀ c ∈ core, isBlank c = false) {after : List Char} (hne : core ≠ []) :
    (before ++ core ++ after).dropWhile isBlank = core ++ after := by
  cases core with
  | nil => exact absurd rfl hne
  | cons c core =>
    have hc : isBlank c = false := hcore c List.mem_cons_self
    rw [List.append_assoc, List.dropWhile_append_of_pos hbefore, List.cons_append,
      List.dropWhile_cons_of_neg (by simp [hc])]

theorem trim_of_pads {core text : List Char} (h : Pads core text)
    (hcore : ∀ c ∈ core, isBlank c = false) : trim text = core := by
  obtain ⟨before, after, hbefore, hafter, rfl⟩ := h
  by_cases hne : core = []
  · subst hne
    have hall : ∀ c ∈ before ++ after, isBlank c := fun c hc =>
      (List.mem_append.1 hc).elim (hbefore c) (hafter c)
    rw [trim, List.append_nil, List.dropWhile_eq_nil_iff.2 hall]
    rfl
  · have hback : ∀ c ∈ after.reverse, isBlank c := fun c hc => hafter c (List.mem_reverse.1 hc)
    have hreversed : (after.reverse ++ core.reverse ++ []).dropWhile isBlank =
        core.reverse ++ [] :=
      dropWhile_blanks hback (fun c hc => hcore c (List.mem_reverse.1 hc)) (by simpa using hne)
    rw [List.append_nil, List.append_nil] at hreversed
    rw [trim, dropWhile_blanks hbefore hcore hne, List.reverse_append, hreversed,
      List.reverse_reverse]

/-- One or more decimal digits, and the value that they have by their places. -/
structure IsDigits (digits : List Char) (value : Nat) : Prop where
  nonempty : digits ≠ []
  decimal : ∀ c ∈ digits, c.isDigit
  places : Nat.ofDigitChars 10 digits 0 = value

/-- A number in decimal notation, with or without a plus sign. -/
inductive IsNumeral (value : Nat) : List Char → Prop
  | plain {digits : List Char} : IsDigits digits value → IsNumeral value digits
  | signed {digits : List Char} : IsDigits digits value → IsNumeral value ('+' :: digits)

/-- The text is a numeral of the value between blanks. -/
def Denotes (text : List Char) (value : Nat) : Prop :=
  ∃ core, Pads core text ∧ IsNumeral value core

theorem isBlank_of_decimal {c : Char} (hc : c.isDigit) : isBlank c = false := by
  simp only [Char.isDigit, Bool.and_eq_true, decide_eq_true_eq, ge_iff_le,
    UInt32.le_iff_toNat_le] at hc
  have hlow : 48 ≤ c.toNat := hc.1
  have hhigh : c.toNat ≤ 57 := hc.2
  simp only [isBlank, Bool.or_eq_false_iff, Bool.and_eq_false_iff, decide_eq_false_iff_not,
    beq_eq_false_iff_ne]
  omega

theorem IsNumeral.not_blank {value : Nat} {text : List Char} (h : IsNumeral value text) :
    ∀ c ∈ text, isBlank c = false := by
  cases h with
  | plain h => exact fun c hc => isBlank_of_decimal (h.decimal c hc)
  | signed h =>
    exact List.forall_mem_cons.2 ⟨rfl, fun c hc => isBlank_of_decimal (h.decimal c hc)⟩

theorem digit?_eq_some_iff {c : Char} {value : Nat} :
    digit? c = some value ↔ c.isDigit ∧ c.toNat - '0'.toNat = value := by
  have hdigit : ('0' ≤ c ∧ c ≤ '9') ↔ c.isDigit := by
    simp [Char.isDigit, Char.le_def]
  rw [digit?]
  split
  · rename_i hc
    simp [← hdigit, hc]
  · rename_i hc
    simp [← hdigit, hc]

theorem digitsFrom?_eq_some_iff {digits : List Char} {start value : Nat} :
    digitsFrom? start digits = some value ↔
      (∀ c ∈ digits, c.isDigit) ∧ Nat.ofDigitChars 10 digits start = value := by
  induction digits generalizing start with
  | nil => simp [digitsFrom?]
  | cons c digits ih =>
    simp only [digitsFrom?, Option.bind_eq_bind, Option.bind_eq_some_iff, digit?_eq_some_iff, ih,
      List.forall_mem_cons, Nat.ofDigitChars_cons, Nat.mul_comm start]
    constructor
    · rintro ⟨_, ⟨hc, rfl⟩, hdigits, hvalue⟩
      exact ⟨⟨hc, hdigits⟩, hvalue⟩
    · rintro ⟨⟨hc, hdigits⟩, hvalue⟩
      exact ⟨_, ⟨hc, rfl⟩, hdigits, hvalue⟩

theorem digits?_eq_some_iff {digits : List Char} {value : Nat} :
    digits? digits = some value ↔ IsDigits digits value := by
  cases digits with
  | nil => exact ⟨nofun, fun h => absurd rfl h.nonempty⟩
  | cons c digits =>
    rw [digits?, digitsFrom?_eq_some_iff]
    · exact ⟨fun ⟨hdecimal, hplaces⟩ => ⟨List.cons_ne_nil _ _, hdecimal, hplaces⟩,
        fun h => ⟨h.decimal, h.places⟩⟩
    · exact List.cons_ne_nil _ _

/-- The plus sign is no digit, so a numeral is read in one way. -/
theorem word?_eq_some_iff {text : List Char} {word : UInt64} :
    word? text = some word ↔ IsNumeral word.toNat text := by
  have hword : ∀ digits, (do
      let value ← digits? digits
      if value < UInt64.size then some (UInt64.ofNat value) else none) = some word ↔
        IsDigits digits word.toNat := by
    intro digits
    simp only [Option.bind_eq_bind, Option.bind_eq_some_iff, digits?_eq_some_iff]
    constructor
    · rintro ⟨value, hvalue, hsome⟩
      split at hsome
      · rename_i hfits
        cases hsome
        rwa [UInt64.toNat_ofNat_of_lt' hfits]
      · cases hsome
    · intro h
      exact ⟨_, h, by rw [if_pos word.toNat_lt, UInt64.ofNat_toNat]⟩
  unfold word?
  split
  · rename_i digits
    rw [hword]
    refine ⟨.signed, fun h => ?_⟩
    cases h with
    | plain h => exact absurd (h.decimal '+' List.mem_cons_self) (by decide)
    | signed h => exact h
  · rename_i hsign
    rw [hword]
    refine ⟨.plain, fun h => ?_⟩
    cases h with
    | plain h => exact h
    | signed h => exact absurd rfl (hsign _)

theorem word?_trim_eq_some_iff {text : List Char} {word : UInt64} :
    word? (trim text) = some word ↔ Denotes text word.toNat := by
  rw [word?_eq_some_iff]
  constructor
  · exact fun h => ⟨trim text, pads_trim text, h⟩
  · rintro ⟨core, hpads, hcore⟩
    rwa [trim_of_pads hpads hcore.not_blank]

theorem denotes_toDigits (value : Nat) : Denotes (Nat.toDigits 10 value) value :=
  ⟨_, ⟨[], [], List.forall_mem_nil _, List.forall_mem_nil _, by simp⟩,
    .plain ⟨Nat.toDigits_ne_nil,
      fun _ hc => Nat.isDigit_of_mem_toDigits (by decide) (by decide) hc,
      Nat.ofDigitChars_ten_toDigits⟩⟩

end ContextualLifecycle.Text
