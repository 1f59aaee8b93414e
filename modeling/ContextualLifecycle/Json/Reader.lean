import ContextualLifecycle.Json.Basic
import ContextualLifecycle.Json.Tree

namespace ContextualLifecycle.Json

def maxNesting : Nat := 127

/-- Adds digits to a significand as long as it stays below 2^64; the digits that are left. -/
def significand (value : Nat) : List Char → Nat × List Char
  | [] => (value, [])
  | c :: rest =>
    let next := value * 10 + (c.toNat - '0'.toNat)
    if next < UInt64.size then significand next rest else (value, c :: rest)

/-- The number of digits that denotes, all of them taken for decimal. -/
def digitsValue (digits : List Char) : Nat :=
  digits.foldl (fun value c => value * 10 + (c.toNat - '0'.toNat)) 0

/-- A floating-point number: the digits of the significand that fit a word, and all that is left of
them only as a power of ten. -/
def Numeral.real? (n : Numeral) : Option Binary64 := do
  let (value, dropped) := significand 0 n.whole
  let fraction := n.fraction.getD []
  let (value, unused) := significand value fraction
  let scale : Int := dropped.length - (fraction.length - unused.length : Nat)
  match n.exponent with
  | none => Binary64.ofDecimal? n.negative value scale
  | some (negative, digits) =>
    let exponent := digitsValue digits
    if exponent < UInt32.size / 2 then
      Binary64.ofDecimal? n.negative value (if negative then scale - exponent else scale + exponent)
    else if negative ∨ value = 0 then Binary64.ofDecimal? n.negative 0 0
    else none

/-- The number a numeral denotes. Digits alone are an integer if a 64-bit word holds it; minus zero
is none. -/
def Numeral.number? (n : Numeral) : Option Number :=
  match n.fraction, n.exponent with
  | none, none =>
    let value := digitsValue n.whole
    if n.negative then
      if 0 < value ∧ value ≤ UInt64.size / 2 then some (.integer (-value)) else n.real?.map .real
    else if value < UInt64.size then some (.integer value) else n.real?.map .real
  | _, _ => n.real?.map .real

namespace Tree

mutual

/-- The value of a tree, with room for so many open containers. A later member of an object
replaces an earlier one of the same key. -/
def value? : Tree → Nat → Option Json
  | null, _ => some .null
  | bool b, _ => some (.bool b)
  | number n, _ => n.number?.map .number
  | string s, _ => s.map .string
  | array _, 0 => none
  | array items, room + 1 => (itemValues? items room).map .array
  | object _, 0 => none
  | object members, room + 1 => (memberValues? members room).map .ofMembers

def itemValues? : List Tree → Nat → Option (List Json)
  | [], _ => some []
  | item :: items, room => do return (← item.value? room) :: (← itemValues? items room)

def memberValues? : List (Option String × Tree) → Nat → Option (List (String × Json))
  | [], _ => some []
  | (key, value) :: members, room => do
    return (← key, ← value.value? room) :: (← memberValues? members room)

end

def text? : Tree → Option String
  | string s => s
  | _ => none

def optionalText? : Tree → Option (Option String)
  | null => some none
  | tree => tree.text?.map some

def word? : Tree → Option UInt64
  | number n =>
    match n.number? with
    | some (.integer (.ofNat value)) => some (UInt64.ofNat value)
    | _ => none
  | _ => none

def variant? (ofName? : String → Option α) : Tree → (room : Nat) → Option α
  | string s, _ => s.bind ofName?
  | object [(key, null)], _ + 1 => key.bind ofName?
  | _, _ => none

def items? : Tree → (room : Nat) → Option (List Tree × Nat)
  | array items, room + 1 => some (items, room)
  | _, _ => none

end Tree

/-- The fields of a record as they were found: by name in an object, or by position in an array. -/
structure Fields where
  byName : Bool
  found : List (String × Tree)
  room : Nat

namespace Fields

/-- The fields of the record with the given field names. An object may have further members, but no
field twice; an array has no further items. -/
def ofTree? (names : List String) : Tree → (room : Nat) → Option Fields
  | .object members, room + 1 => do
    let members ← members.mapM fun (key, value) => key.map fun key => (key, value)
    let found := members.filter fun (key, _) => names.contains key
    guard (decide (found.map Prod.fst).Nodup)
    return ⟨true, found, room⟩
  | .array items, room + 1 => do
    guard (items.length ≤ names.length)
    return ⟨false, names.zip items, room⟩
  | _, _ => none

def required? (fields : Fields) (name : String) (read : Tree → Option α) : Option α :=
  (fields.found.lookup name).bind read

def defaulted? (fields : Fields) (name : String) (default : α) (read : Tree → Option α) :
    Option α :=
  match fields.found.lookup name with
  | some tree => read tree
  | none => some default

/-- A text that may be `null`. By name it may be left out, by position it may not. -/
def optionalText? (fields : Fields) (name : String) : Option (Option String) :=
  match fields.found.lookup name with
  | some tree => tree.optionalText?
  | none => if fields.byName then some none else none

end Fields

def ofText? (text : String) : Option Json := do
  (← Tree.ofText? text.toList).value? maxNesting

end ContextualLifecycle.Json
