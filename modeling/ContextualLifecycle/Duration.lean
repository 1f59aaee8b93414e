namespace ContextualLifecycle

structure Duration where
  nanos : Nat
deriving DecidableEq, Repr, Inhabited

namespace Duration

instance : LT Duration := ⟨fun a b => a.nanos < b.nanos⟩

instance (a b : Duration) : Decidable (a < b) := inferInstanceAs (Decidable (a.nanos < b.nanos))

def ofMillis (millis : Nat) : Duration := ⟨millis * 1000000⟩

def millis (d : Duration) : Nat := d.nanos / 1000000

def seconds (d : Duration) : Nat := d.nanos / 1000000000

/-- The longest span: a word of seconds, and almost one more. -/
def longest : Duration := ⟨(UInt64.size - 1) * 1000000000 + 999999999⟩

/-- The whole milliseconds of a span as a word, the greatest word if they do not fit. -/
def cappedMillis (d : Duration) : UInt64 := UInt64.ofNat (min d.millis (UInt64.size - 1))

@[simp]
theorem millis_ofMillis (n : Nat) : (ofMillis n).millis = n := by
  simp [millis, ofMillis]

end Duration

end ContextualLifecycle
