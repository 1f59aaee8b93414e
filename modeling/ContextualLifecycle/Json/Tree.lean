namespace ContextualLifecycle.Json

/-- A number as it is written: digits, perhaps a fraction, perhaps an exponent with its sign. -/
structure Numeral where
  negative : Bool
  whole : List Char
  fraction : Option (List Char)
  exponent : Option (Bool × List Char)
deriving DecidableEq, Repr, Inhabited

/-- A JSON text as it is written. A string whose escapes leave half of a surrogate pair alone has
no characters. -/
inductive Tree where
  | null
  | bool (value : Bool)
  | number (value : Numeral)
  | string (value : Option String)
  | array (items : List Tree)
  | object (members : List (Option String × Tree))
deriving Repr, Inhabited

def isBlank (c : Char) : Bool := c == ' ' || c == '\n' || c == '\t' || c == '\r'

def skipBlanks (cs : List Char) : List Char := cs.dropWhile isBlank

def hexDigit? (c : Char) : Option Nat :=
  if '0' ≤ c ∧ c ≤ '9' then some (c.toNat - '0'.toNat)
  else if 'a' ≤ c ∧ c ≤ 'f' then some (c.toNat - 'a'.toNat + 10)
  else if 'A' ≤ c ∧ c ≤ 'F' then some (c.toNat - 'A'.toNat + 10)
  else none

/-- A character of a string, or the 16-bit code that an escape names. -/
inductive Unit16 where
  | char (c : Char)
  | code (n : Nat)
deriving DecidableEq, Repr

/-- The character after the backslash of a short escape. -/
def shortEscape? : Char → Option Char
  | '"' => some '"'
  | '\\' => some '\\'
  | '/' => some '/'
  | 'b' => some '\x08'
  | 'f' => some '\x0c'
  | 'n' => some '\n'
  | 'r' => some '\r'
  | 't' => some '\t'
  | _ => none

/-- The rest of a string after its opening quote, and what follows the closing one. -/
def units? : List Char → Option (List Unit16 × List Char)
  | [] => none
  | '"' :: rest => some ([], rest)
  | '\\' :: 'u' :: a :: b :: c :: d :: rest => do
    let n := (((← hexDigit? a) * 16 + (← hexDigit? b)) * 16 + (← hexDigit? c)) * 16
      + (← hexDigit? d)
    let (units, rest) ← units? rest
    return (.code n :: units, rest)
  | '\\' :: c :: rest => do
    let c ← shortEscape? c
    let (units, rest) ← units? rest
    return (.char c :: units, rest)
  | c :: rest => do
    guard (0x20 ≤ c.toNat)
    let (units, rest) ← units? rest
    return (.char c :: units, rest)

/-- The characters of a string: two codes that form a surrogate pair give one character. -/
def characters? : List Unit16 → Option (List Char)
  | [] => some []
  | .char c :: rest => (characters? rest).map (c :: ·)
  | .code n :: rest =>
    if n < 0xd800 ∨ 0xdfff < n then (characters? rest).map (Char.ofNat n :: ·)
    else match rest with
      | .code m :: rest =>
        if n < 0xdc00 ∧ 0xdc00 ≤ m ∧ m ≤ 0xdfff then
          (characters? rest).map (Char.ofNat (0x10000 + (n - 0xd800) * 0x400 + (m - 0xdc00)) :: ·)
        else none
      | _ => none

def string? (cs : List Char) : Option (Option String × List Char) := do
  let (units, rest) ← units? cs
  return ((characters? units).map String.ofList, rest)

def digits? (cs : List Char) : Option (List Char × List Char) :=
  match cs.takeWhile Char.isDigit with
  | [] => none
  | digits => some (digits, cs.dropWhile Char.isDigit)

def whole? : List Char → Option (List Char × List Char)
  | '0' :: rest => some (['0'], rest)
  | cs => digits? cs

def fraction? : List Char → Option (Option (List Char) × List Char)
  | '.' :: rest => do
    let (digits, rest) ← digits? rest
    return (some digits, rest)
  | cs => some (none, cs)

def exponentSign : List Char → Bool × List Char
  | '-' :: rest => (true, rest)
  | '+' :: rest => (false, rest)
  | cs => (false, cs)

def exponent? : List Char → Option (Option (Bool × List Char) × List Char)
  | c :: rest =>
    if c = 'e' ∨ c = 'E' then do
      let (negative, rest) := exponentSign rest
      let (digits, rest) ← digits? rest
      return (some (negative, digits), rest)
    else some (none, c :: rest)
  | [] => some (none, [])

def numeral? (negative : Bool) (cs : List Char) : Option (Tree × List Char) := do
  let (whole, cs) ← whole? cs
  let (fraction, cs) ← fraction? cs
  let (exponent, cs) ← exponent? cs
  return (.number ⟨negative, whole, fraction, exponent⟩, cs)

mutual

/-- A value at the start of a text, perhaps after blanks, and what follows it. The first argument
bounds the depth of the recursion. -/
def value? : Nat → List Char → Option (Tree × List Char)
  | 0, _ => none
  | n + 1, cs =>
    match skipBlanks cs with
    | 'n' :: 'u' :: 'l' :: 'l' :: rest => some (.null, rest)
    | 't' :: 'r' :: 'u' :: 'e' :: rest => some (.bool true, rest)
    | 'f' :: 'a' :: 'l' :: 's' :: 'e' :: rest => some (.bool false, rest)
    | '"' :: rest => (string? rest).map fun (s, rest) => (.string s, rest)
    | '[' :: rest =>
      match skipBlanks rest with
      | ']' :: rest => some (.array [], rest)
      | rest => (items? n rest).map fun (items, rest) => (.array items, rest)
    | '\x7b' :: rest =>
      match skipBlanks rest with
      | '\x7d' :: rest => some (.object [], rest)
      | rest => (members? n rest).map fun (members, rest) => (.object members, rest)
    | '-' :: rest => numeral? true rest
    | rest => numeral? false rest

def items? : Nat → List Char → Option (List Tree × List Char)
  | 0, _ => none
  | n + 1, cs => do
    let (item, rest) ← value? n cs
    match skipBlanks rest with
    | ',' :: rest =>
      let (items, rest) ← items? n rest
      return (item :: items, rest)
    | ']' :: rest => return ([item], rest)
    | _ => none

def members? : Nat → List Char → Option (List (Option String × Tree) × List Char)
  | 0, _ => none
  | n + 1, cs => do
    let (key, rest) ← match skipBlanks cs with
      | '"' :: rest => string? rest
      | _ => none
    let (value, rest) ← match skipBlanks rest with
      | ':' :: rest => value? n rest
      | _ => none
    match skipBlanks rest with
    | ',' :: rest =>
      let (members, rest) ← members? n rest
      return ((key, value) :: members, rest)
    | '\x7d' :: rest => return ([(key, value)], rest)
    | _ => none

end

/-- The tree of a text that is one JSON value between blanks. Every second step of the recursion
consumes a character. -/
def Tree.ofText? (text : List Char) : Option Tree := do
  let (tree, rest) ← value? (2 * text.length + 2) text
  guard (skipBlanks rest).isEmpty
  return tree

end ContextualLifecycle.Json
