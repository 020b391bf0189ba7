import CaseScript.Json.Basic

/-!
# Json/Numeral — numbers in document text

A numeral without point and exponent is a whole number if it fits 64 bits. Any other numeral is read
in one pass with a significand of 64 bits: digits that no longer fit count only towards the power of
ten if they stand before the point, and not at all behind it. The significand is then multiplied or
divided by the power, each step rounding once.
-/

namespace CaseScript.Numeral

/-- The greatest significand. -/
def maxSignificand : Nat := Nat.pow 2 64 - 1

/-- The digits before the point: the significand they fill and how many did not fit. -/
def wholePart : (significand : Nat) → List Char → Nat × Nat
  | n, [] => (n, 0)
  | n, c :: cs =>
    if 10 * n + digitValue c ≤ maxSignificand then wholePart (10 * n + digitValue c) cs
    else (n, cs.length + 1)

/-- The digits behind the point: the significand they fill and how many fitted. -/
def fractionPart : (significand : Nat) → List Char → Nat × Nat
  | n, [] => (n, 0)
  | n, c :: cs =>
    if 10 * n + digitValue c ≤ maxSignificand then
      let (m, k) := fractionPart (10 * n + digitValue c) cs
      (m, k + 1)
    else (n, 0)

/-- The double nearest to a power of ten, as a fraction. -/
def powerOfTen (e : Nat) : Nat × Nat :=
  match Binary64.ofNat (Nat.pow 10 e) with
  | .finite _ m k => Binary64.magnitude m k
  | _ => (1, 1)

/-- Multiplies or divides by `10^e` in steps of at most 308 decimal places; nothing if the result
is too large. Zero is reached after three steps downwards at the latest. -/
def scaled? : (steps : Nat) → Binary64 → Int → Option Binary64
  | 0, x, _ => some x
  | steps + 1, x, e =>
    if e.natAbs ≤ 308 then
      let (n, d) := powerOfTen e.natAbs
      if 0 ≤ e then
        match x.scaleBy n d with
        | .infinite _ => none
        | y => some y
      else some (x.scaleBy d n)
    else if x.eq .zero then some x
    else if 0 ≤ e then none
    else
      let (n, d) := powerOfTen 308
      scaled? steps (x.scaleBy d n) (e + 308)

/-- The parts of a numeral. -/
structure Parts where
  negative : Bool
  whole : List Char
  fraction : Option (List Char)
  exponent : Option (Bool × List Char)

/-- Cuts a text into the parts of a numeral, if it is one: no leading zeros, and digits on both
sides of a point and after an exponent mark. -/
def parts? (cs : List Char) : Option Parts :=
  let (negative, cs) := match cs with
    | '-' :: cs => (true, cs)
    | cs => (false, cs)
  let (whole, rest) := digitRun cs
  let (fraction, rest) := match rest with
    | '.' :: rest =>
      let (ds, rest) := digitRun rest
      (some ds, rest)
    | rest => (none, rest)
  let exponent? : Option (Option (Bool × List Char)) := match rest with
    | [] => some none
    | c :: rest =>
      if c = 'e' ∨ c = 'E' then
        let (negative, rest) := match rest with
          | '-' :: rest => (true, rest)
          | '+' :: rest => (false, rest)
          | rest => (false, rest)
        let (ds, rest) := digitRun rest
        if ds = [] ∨ rest ≠ [] then none else some (some (negative, ds))
      else none
  let padded := match whole with
    | '0' :: _ :: _ => true
    | _ => false
  if whole = [] ∨ padded ∨ fraction = some [] then none
  else exponent?.map fun exponent => { negative, whole, fraction, exponent }

/-- The number of a numeral; nothing if the text is none or the number is too large. -/
def read? (cs : List Char) : Option Number := do
  let p ← parts? cs
  let (n, overflow) := wholePart 0 p.whole
  if p.fraction = none ∧ p.exponent = none ∧ overflow = 0 then
    if ¬p.negative then return .whole n
    if 0 < n ∧ n ≤ Nat.pow 2 63 then return .whole (-(n : Int))
  let (n, places) := fractionPart n (p.fraction.getD [])
  let start : Int := (overflow : Int) - places
  let sign (x : Binary64) : Number := .real (if p.negative then x.neg else x)
  let exponent : Int := match p.exponent with
    | some (negative, ds) => if negative then -(ofDecimalDigits ds) else ofDecimalDigits ds
    | none => 0
  if Nat.pow 2 31 ≤ exponent.natAbs then
    if n ≠ 0 ∧ 0 < exponent then none else return sign .zero
  let x ← scaled? 5 (.ofNat n) (start + exponent)
  return sign x

end CaseScript.Numeral
