namespace ContextualLifecycle

/-- The finite number `±mantissa * 2 ^ exponent`. A normal number has a mantissa of 53 bits, a
subnormal one or zero has the exponent -1074. -/
structure Binary64 where
  negative : Bool
  mantissa : Nat
  exponent : Int
deriving DecidableEq, Repr, Inhabited

namespace Binary64

/-- A quotient rounded to the nearest natural number, a half to the even neighbour. -/
def roundQuotient (num den : Nat) : Nat :=
  let q := num / den
  let twice := 2 * (num % den)
  if twice < den then q
  else if den < twice then q + 1
  else if q % 2 = 0 then q else q + 1

def scale (num den : Nat) (e : Int) : Nat × Nat :=
  if 0 ≤ e then (num * Nat.pow 2 e.toNat, den) else (num, den * Nat.pow 2 (-e).toNat)

/-- The binary exponent of a positive quotient: the greatest `e` with `2 ^ e ≤ num / den`. -/
def binaryExponent (num den : Nat) : Int :=
  let guess : Int := (num.log2 : Int) - den.log2
  let (n, d) := scale num den (-guess)
  if n < d then guess - 1 else guess

/-- The nearest number to `num / den`, or `none` if it is beyond the greatest one. -/
def ofQuotient? (num den : Nat) : Option Binary64 :=
  if num = 0 then some ⟨false, 0, -1074⟩
  else
    let e := max (-1074) (binaryExponent num den - 52)
    let (n, d) := scale num den (-e)
    let m := roundQuotient n d
    let (m, e) := if m = Nat.pow 2 53 then (Nat.pow 2 52, e + 1) else (m, e)
    if 971 < e then none else some ⟨false, m, e⟩

def powerOfTen? (n : Nat) : Option Binary64 := ofQuotient? (Nat.pow 10 n) 1

def mul? (x y : Binary64) : Option Binary64 :=
  let (n, d) := scale (x.mantissa * y.mantissa) 1 (x.exponent + y.exponent)
  ofQuotient? n d

def div? (x y : Binary64) : Option Binary64 :=
  let (n, d) := scale x.mantissa y.mantissa (x.exponent - y.exponent)
  ofQuotient? n d

/-- Divides by powers of ten of at most 308 digits each, until the exponent is used up. The bound
on the rounds is generous: no number below 2^64 survives the third one. -/
def divideByTens? (x : Binary64) : (rounds : Nat) → (exponent : Nat) → Option Binary64
  | 0, _ => some ⟨false, 0, -1074⟩
  | rounds + 1, exponent =>
    if exponent ≤ 308 then do x.div? (← powerOfTen? exponent)
    else if x.mantissa = 0 then some x
    else do divideByTens? (← x.div? (← powerOfTen? 308)) rounds (exponent - 308)

/-- `significand * 10 ^ exponent` for a significand of 64 bits, rounded at each step: the
significand first, then the product or the quotients. Fails beyond the greatest number. -/
def ofDecimal? (negative : Bool) (significand : Nat) (exponent : Int) : Option Binary64 := do
  let x ← ofQuotient? significand 1
  let x ←
    if 308 < exponent then if significand = 0 then some x else none
    else if 0 ≤ exponent then x.mul? (← powerOfTen? exponent.toNat)
    else x.divideByTens? 4 (-exponent).toNat
  return { x with negative }

/-- The ends of the interval of quotients that round to a positive magnitude, as numerators over
the denominator `4 * den`, where the magnitude itself is `4 * num` over it. -/
def interval (x : Binary64) : Nat × Nat × Nat × Nat :=
  let (num, den) := scale x.mantissa 1 x.exponent
  let (unit, _) := scale 1 1 x.exponent
  let unit := if 0 ≤ x.exponent then unit else 1
  let below := if x.mantissa = Nat.pow 2 52 ∧ -1074 < x.exponent then unit else 2 * unit
  (4 * num - below, 4 * num, 4 * num + 2 * unit, 4 * den)

/-- Of the two neighbours of a magnitude on the grid of multiples of `10 ^ p`, the nearer one that
rounds to it, counted in grid steps. -/
def onGrid? (x : Binary64) (p : Int) : Option Nat :=
  let (low, mid, high, den) := x.interval
  let (step, den) := if 0 ≤ p then (den * Nat.pow 10 p.toNat, 1) else (den, Nat.pow 10 (-p).toNat)
  let (low, mid, high) := (low * den, mid * den, high * den)
  let closed := x.mantissa % 2 = 0
  let fits (n : Nat) : Bool :=
    (low < n * step || closed && low == n * step) && (n * step < high || closed && n * step == high)
  let down := mid / step
  let up := down + 1
  match fits down && 0 < down, fits up with
  | true, true =>
    let toDown := mid - down * step
    let toUp := up * step - mid
    some (if toDown < toUp then down else if toUp < toDown then up
      else if down % 2 = 0 then down else up)
  | true, false => some down
  | false, true => some up
  | false, false => none

def decimalExponent (x : Binary64) : Int :=
  let (num, den) := scale x.mantissa 1 x.exponent
  if den ≤ num then ((Nat.toDigits 10 (num / den)).length : Int) - 1
  else
    let q := den / num
    let digits := ((Nat.toDigits 10 q).length : Int)
    if num * Nat.pow 10 (digits - 1).toNat = den then 1 - digits else -digits

/-- The fewest digits that read back, and the power of ten of the last one. -/
def shortest (x : Binary64) : Nat × Int :=
  let e := x.decimalExponent
  let found := (List.range 17).findSome? fun (n : Nat) =>
    let p := e - n
    (x.onGrid? p).map fun digits => (digits, p)
  found.getD (x.mantissa, x.exponent)

def dropZeros (digits : Nat) (p : Int) : Nat × Int :=
  let text := Nat.toDigits 10 digits
  let zeros := (text.reverse.takeWhile (· == '0')).length
  (digits / Nat.pow 10 zeros, p + zeros)

def exponentText : Int → List Char
  | .ofNat n => 'e' :: '+' :: Nat.toDigits 10 n
  | .negSucc n => 'e' :: '-' :: Nat.toDigits 10 (n + 1)

/-- The shortest decimal that reads back: positional between 10^-5 and 10^16 and then with at least
one digit after the point, otherwise with an exponent. -/
def text (x : Binary64) : String :=
  let sign := if x.negative then "-" else ""
  if x.mantissa = 0 then sign ++ "0.0"
  else
    let (value, p) := let (d, p) := x.shortest; dropZeros d p
    let digits := Nat.toDigits 10 value
    let point : Int := digits.length + p
    let zeros (n : Int) : List Char := List.replicate n.toNat '0'
    let body :=
      if 0 ≤ p ∧ point ≤ 16 then digits ++ zeros p ++ ['.', '0']
      else if 0 < point ∧ point ≤ 16 then
        digits.take point.toNat ++ '.' :: digits.drop point.toNat
      else if -5 < point ∧ point ≤ 0 then '0' :: '.' :: zeros (-point) ++ digits
      else
        let exponent := exponentText (point - 1)
        match digits with
        | [d] => d :: exponent
        | d :: rest => d :: '.' :: rest ++ exponent
        | [] => exponent
    sign ++ String.ofList body

end Binary64

end ContextualLifecycle
