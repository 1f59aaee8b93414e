namespace ContextualLifecycle.Text

def digit? (c : Char) : Option Nat :=
  if '0' ≤ c ∧ c ≤ '9' then some (c.toNat - '0'.toNat) else none

def digitsFrom? (value : Nat) : List Char → Option Nat
  | [] => some value
  | c :: rest => do digitsFrom? (value * 10 + (← digit? c)) rest

def digits? : List Char → Option Nat
  | [] => none
  | digits => digitsFrom? 0 digits

/-- The word that a numeral denotes: digits, perhaps after a plus sign, for a value below 2^64. -/
def word? (text : List Char) : Option UInt64 := do
  let digits := match text with
    | '+' :: rest => rest
    | text => text
  let value ← digits? digits
  if value < UInt64.size then some (UInt64.ofNat value) else none

end ContextualLifecycle.Text
