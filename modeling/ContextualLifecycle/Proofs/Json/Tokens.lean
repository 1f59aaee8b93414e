import ContextualLifecycle.Json.Printer
import ContextualLifecycle.Json.Reader
import Mathlib.Algebra.Group.Int.Defs
import Mathlib.Algebra.Group.Nat.Defs
import Mathlib.Data.List.Basic
import Mathlib.Data.Option.Basic

namespace ContextualLifecycle.Json

theorem unitEscape_digits {c : Char} (hc : c.toNat < 0x20) : ∃ a b x y,
    unitEscape c = ['\\', 'u', '0', '0', a, b] ∧ hexDigit? a = some x ∧ hexDigit? b = some y ∧
      x * 16 + y = c.toNat := by
  have hall : ∀ n < 0x20,
      unitEscape (Char.ofNat n) =
        ['\\', 'u', '0', '0', Nat.digitChar (n / 16), Nat.digitChar (n % 16)] ∧
      hexDigit? (Nat.digitChar (n / 16)) = some (n / 16) ∧
      hexDigit? (Nat.digitChar (n % 16)) = some (n % 16) := by
    decide
  obtain ⟨hescape, hhigh, hlow⟩ := hall c.toNat hc
  rw [Char.ofNat_toNat] at hescape
  exact ⟨_, _, _, _, hescape, hhigh, hlow, Nat.div_add_mod' c.toNat 16⟩

theorem units?_char {c : Char} {rest rest' : List Char} {units : List Unit16}
    (hquote : c ≠ '"') (hslash : c ≠ '\\') (hc : ¬ c.toNat < 0x20)
    (h : units? rest = some (units, rest')) :
    units? (c :: rest) = some (.char c :: units, rest') := by
  rw [units?]
  · simp only [h, guard, Nat.not_lt.1 hc, ↓reduceIte]
    rfl
  · exact hquote
  · exact fun _ _ _ _ _ heq => absurd heq hslash
  · exact fun _ _ heq => absurd heq hslash

/-- What is written for a character is read as one unit, which stands for that character. -/
theorem units?_escapeChar (c : Char) {rest rest' : List Char} {units : List Unit16}
    (h : units? rest = some (units, rest')) : ∃ unit,
      units? (escapeChar c ++ rest) = some (unit :: units, rest') ∧
      ∀ more, characters? (unit :: more) = (characters? more).map (c :: ·) := by
  have hshort : ∀ e, shortEscape? e = some c → e ≠ 'u' → escapeChar c = ['\\', e] → ∃ unit,
      units? (escapeChar c ++ rest) = some (unit :: units, rest') ∧
      ∀ more, characters? (unit :: more) = (characters? more).map (c :: ·) := by
    intro e he hu hescape
    refine ⟨.char c, ?_, fun _ => rfl⟩
    rw [hescape, List.cons_append, List.singleton_append, units?]
    · simp only [he, h]
      rfl
    · exact fun _ _ _ _ _ heq => absurd heq hu
  by_cases hquote : c = '"'
  · exact hshort '"' (by rw [hquote]; rfl) (by decide) (by rw [hquote]; rfl)
  by_cases hslash : c = '\\'
  · exact hshort '\\' (by rw [hslash]; rfl) (by decide) (by rw [hslash]; rfl)
  by_cases hback : c = '\x08'
  · exact hshort 'b' (by rw [hback]; rfl) (by decide) (by rw [hback]; rfl)
  by_cases hfeed : c = '\x0c'
  · exact hshort 'f' (by rw [hfeed]; rfl) (by decide) (by rw [hfeed]; rfl)
  by_cases hline : c = '\n'
  · exact hshort 'n' (by rw [hline]; rfl) (by decide) (by rw [hline]; rfl)
  by_cases hreturn : c = '\r'
  · exact hshort 'r' (by rw [hreturn]; rfl) (by decide) (by rw [hreturn]; rfl)
  by_cases htab : c = '\t'
  · exact hshort 't' (by rw [htab]; rfl) (by decide) (by rw [htab]; rfl)
  have hescape : escapeChar c = if c.toNat < 0x20 then unitEscape c else [c] := by
    simp only [escapeChar]
  by_cases hc : c.toNat < 0x20
  · obtain ⟨a, b, x, y, hdigits, ha, hb, hvalue⟩ := unitEscape_digits hc
    refine ⟨.code c.toNat, ?_, fun more => ?_⟩
    · rw [hescape, if_pos hc, hdigits]
      have hzero : hexDigit? '0' = some 0 := rfl
      simp only [List.cons_append, List.nil_append, units?, hzero, ha, hb, h, ← hvalue,
        Option.bind_eq_bind, Option.bind_some, Nat.zero_mul, Nat.zero_add]
      rfl
    · have hplain : c.toNat < 0xd800 ∨ 0xdfff < c.toNat := .inl (by omega)
      rw [characters?.eq_def]
      simp only [hplain, ↓reduceIte, Char.ofNat_toNat]
  · rw [hescape, if_neg hc]
    exact ⟨.char c, units?_char hquote hslash hc h, fun _ => rfl⟩

theorem string?_escaped (cs rest : List Char) :
    string? (cs.flatMap escapeChar ++ '"' :: rest) = some (some (String.ofList cs), rest) := by
  have hunits : ∃ units, units? (cs.flatMap escapeChar ++ '"' :: rest) = some (units, rest) ∧
      characters? units = some cs := by
    induction cs with
    | nil => exact ⟨[], rfl, rfl⟩
    | cons c cs ih =>
      obtain ⟨units, hunits, hcs⟩ := ih
      obtain ⟨unit, hunit, hc⟩ := units?_escapeChar c hunits
      refine ⟨unit :: units, ?_, ?_⟩
      · rw [List.flatMap_cons, List.append_assoc, hunit]
      · rw [hc, hcs]
        rfl
  obtain ⟨units, hunits, hcs⟩ := hunits
  simp only [string?, hunits, Option.bind_eq_bind, Option.bind_some, hcs]
  rfl

/-- What stands behind a value: nothing, or a mark that separates or closes. -/
def Ends : List Char → Prop
  | [] => True
  | c :: _ => c = ',' ∨ c = ']' ∨ c = '\x7d'

def Numeral.ofInt : Int → Numeral
  | .ofNat n => ⟨false, Nat.toDigits 10 n, none, none⟩
  | .negSucc n => ⟨true, Nat.toDigits 10 (n + 1), none, none⟩

/-- A number that a 64-bit word holds, with or without a sign. -/
def Number.IsWord : Number → Prop
  | .integer n => -(2 ^ 63) ≤ n ∧ n < 2 ^ 64
  | .real _ => False

theorem digitsValue_toDigits (n : Nat) : digitsValue (Nat.toDigits 10 n) = n := by
  have hvalue : ∀ cs : List Char, digitsValue cs = Nat.ofDigitChars 10 cs 0 := by
    intro cs
    simp only [digitsValue, Nat.ofDigitChars_eq_foldl, Nat.mul_comm]
  rw [hvalue, Nat.ofDigitChars_ten_toDigits]

theorem toDigits_eq_zero_cons {n : Nat} {cs : List Char} (h : Nat.toDigits 10 n = '0' :: cs) :
    cs = [] := by
  induction n using Nat.strongRecOn generalizing cs with
  | ind n ih =>
    rw [Nat.toDigits_eq_if (by decide)] at h
    split at h
    · exact (List.cons.inj h).2.symm
    · rename_i hn
      cases hfront : Nat.toDigits 10 (n / 10) with
      | nil => exact absurd hfront Nat.toDigits_ne_nil
      | cons d ds =>
        rw [hfront, List.cons_append] at h
        obtain ⟨rfl, _⟩ := List.cons.inj h
        -- The front would be zero, but there are ten of them.
        have hds := ih (n / 10) (by omega) hfront
        have hzero : n / 10 = 0 := by
          rw [← digitsValue_toDigits (n / 10), hfront, hds]
          rfl
        omega

theorem digits?_toDigits (n : Nat) {rest : List Char} (h : Ends rest) :
    digits? (Nat.toDigits 10 n ++ rest) = some (Nat.toDigits 10 n, rest) := by
  have hdigits : ∀ c ∈ Nat.toDigits 10 n, c.isDigit = true :=
    fun c hc => Nat.isDigit_of_mem_toDigits (by decide) (by decide) hc
  have hrest : rest.takeWhile Char.isDigit = [] ∧ rest.dropWhile Char.isDigit = rest := by
    cases rest with
    | nil => exact ⟨rfl, rfl⟩
    | cons c rest => rcases h with rfl | rfl | rfl <;> exact ⟨rfl, rfl⟩
  rw [digits?, List.takeWhile_append_of_pos hdigits, List.dropWhile_append_of_pos hdigits,
    hrest.1, hrest.2, List.append_nil]
  split
  · rename_i hnil
    exact absurd hnil Nat.toDigits_ne_nil
  · rfl

theorem whole?_toDigits (n : Nat) {rest : List Char} (h : Ends rest) :
    whole? (Nat.toDigits 10 n ++ rest) = some (Nat.toDigits 10 n, rest) := by
  cases hdigits : Nat.toDigits 10 n with
  | nil => exact absurd hdigits Nat.toDigits_ne_nil
  | cons d ds =>
    by_cases hd : d = '0'
    · subst hd
      rw [toDigits_eq_zero_cons hdigits]
      rfl
    · rw [List.cons_append, whole?, ← List.cons_append, ← hdigits, digits?_toDigits n h]
      exact fun _ heq => absurd (List.cons.inj heq).1 hd

theorem numeral?_toDigits (negative : Bool) (n : Nat) {rest : List Char} (h : Ends rest) :
    numeral? negative (Nat.toDigits 10 n ++ rest) =
      some (.number ⟨negative, Nat.toDigits 10 n, none, none⟩, rest) := by
  have hfraction : fraction? rest = some (none, rest) := by
    cases rest with
    | nil => rfl
    | cons c rest => rcases h with rfl | rfl | rfl <;> rfl
  have hexponent : exponent? rest = some (none, rest) := by
    cases rest with
    | nil => rfl
    | cons c rest => rcases h with rfl | rfl | rfl <;> rfl
  simp only [numeral?, whole?_toDigits n h, hfraction, hexponent, Option.bind_eq_bind,
    Option.bind_some]
  rfl

theorem Numeral.number?_ofInt {n : Int} (h : (Number.integer n).IsWord) :
    (Numeral.ofInt n).number? = some (.integer n) := by
  obtain ⟨hlow, hhigh⟩ := h
  cases n with
  | ofNat n =>
    have hn : n < UInt64.size := Int.ofNat_lt.1 hhigh
    simp only [Numeral.ofInt, Numeral.number?, digitsValue_toDigits, Bool.false_eq_true,
      ↓reduceIte, hn]
    rfl
  | negSucc n =>
    have hn : n + 1 ≤ UInt64.size / 2 := by
      change n + 1 ≤ 2 ^ 63
      omega
    simp only [Numeral.ofInt, Numeral.number?, digitsValue_toDigits, ↓reduceIte, Nat.succ_pos, hn,
      and_self]
    rfl

end ContextualLifecycle.Json
