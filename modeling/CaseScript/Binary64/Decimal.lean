import CaseScript.Binary64.Basic
import CaseScript.Text.Digits

/-!
# Binary64/Decimal — doubles as decimal text, both ways

Reading rounds the exact decimal once (`ofDecimal`, `parse?`). Writing takes the shortest decimal
that reads back, and of those the nearest (`shortest`); two layouts spell it, one that turns to an
exponent at `10^16` and below `10^-5` (`text`), one that never does (`plainText`).
-/

namespace CaseScript

namespace Binary64

/-! ## Reading -/

/-- The double nearest to `±digits · 10^exponent`. Beyond the first two tests the power is small
enough to write out. -/
def ofDecimal (negative : Bool) (digits : Nat) (exponent : Int) : Binary64 :=
  let size : Int := (decimalDigits digits).length + exponent
  if digits = 0 ∨ size < -400 then .finite negative 0 minExponent
  else if 400 < size then .infinite negative
  else if 0 ≤ exponent then ofRatio negative (digits * Nat.pow 10 exponent.toNat) 1
  else ofRatio negative digits (Nat.pow 10 (-exponent).toNat)

/-- An exponent part `e+12` that takes up all of the text; no text is the exponent zero. -/
def exponentPart? : List Char → Option Int
  | [] => some 0
  | c :: cs =>
    if c = 'e' ∨ c = 'E' then
      let (negative, cs) := match cs with
        | '-' :: cs => (true, cs)
        | '+' :: cs => (false, cs)
        | cs => (false, cs)
      let (digits, rest) := digitRun cs
      if digits = [] ∨ rest ≠ [] then none
      else some (if negative then -(ofDecimalDigits digits : Int) else ofDecimalDigits digits)
    else none

/-- Digits with an optional point and an optional exponent; the point needs a digit on one side. -/
def unsigned? (negative : Bool) (cs : List Char) : Option Binary64 :=
  let (whole, rest) := digitRun cs
  let (fraction, rest) := match rest with
    | '.' :: rest => digitRun rest
    | rest => ([], rest)
  if whole = [] ∧ fraction = [] then none
  else (exponentPart? rest).map fun e =>
    ofDecimal negative (ofDecimalDigits (whole ++ fraction)) (e - fraction.length)

/-- Reads a decimal number: an optional sign, then digits with an optional point and exponent, or
`inf`, `infinity` or `nan` in any case. -/
def parse? (cs : List Char) : Option Binary64 :=
  let (negative, cs) := match cs with
    | '-' :: cs => (true, cs)
    | '+' :: cs => (false, cs)
    | cs => (false, cs)
  let word := cs.map Char.toLower
  if word = ['i', 'n', 'f'] ∨ word = ['i', 'n', 'f', 'i', 'n', 'i', 't', 'y'] then
    some (.infinite negative)
  else if word = ['n', 'a', 'n'] then some (.nan negative)
  else unsigned? negative cs

/-! ## The shortest digits -/

/-- The decimal exponent of the leading digit of a positive fraction. -/
def leadingExponent (num den : Nat) : Int :=
  if den ≤ num then (decimalDigits (num / den)).length - 1
  else
    let d := (decimalDigits (den / num)).length
    if den ≤ num * Nat.pow 10 (d - 1) then -((d : Int) - 1) else -(d : Int)

/-- Searches the grids of 1, 2, … decimal digits for a point that reads back as `m · 2^e`. On each
grid the two neighbours of the number suffice: if any point lies in the interval, so does one of
them. Of two hits the nearer wins, and the even one at equal distance. -/
def shortestFrom (m : Nat) (e : Int) (lead : Int) : (fuel digits : Nat) → Nat × Int
  | 0, _ => (m, 0)
  | fuel + 1, digits =>
    let p : Int := lead - digits + 1
    -- everything is counted in quarters of the binary grid, over the decimal grid `10^p`
    let (n, d) := magnitude (4 * m) (e - 2)
    let (unit, n) := if 0 ≤ p then (Nat.pow 10 p.toNat * d, n) else (d, n * Nat.pow 10 (-p).toNat)
    let scale := n / (4 * m)
    let below := if m = Nat.pow 2 52 ∧ minExponent < e then n - scale else n - 2 * scale
    let above := n + 2 * scale
    let inside (c : Nat) : Bool :=
      let x := c * unit
      if m % 2 = 0 then below ≤ x && x ≤ above else below < x && x < above
    let c := n / unit
    let low := inside c
    let high := inside (c + 1)
    -- twice the distance to the lower neighbour, against the width of the decimal grid
    let gap := 2 * (n - c * unit)
    if low ∧ (¬high ∨ gap < unit ∨ (gap = unit ∧ c % 2 = 0)) then (c, p)
    else if high then (c + 1, p)
    else shortestFrom m e lead fuel (digits + 1)

/-- The fewest digits that read back as the positive double `m · 2^e`, as a whole number and the
power of ten it is scaled by. Seventeen digits always suffice. -/
def shortest (m : Nat) (e : Int) : Nat × Int :=
  let (n, d) := magnitude m e
  shortestFrom m e (leadingExponent n d) 18 1

/-! ## Writing -/

/-- Drops zeros at the end of a digit list. -/
def dropTrailingZeros (ds : List Char) : List Char := (ds.reverse.dropWhile (· = '0')).reverse

/-- A minus sign, or nothing. -/
def signText (negative : Bool) : List Char := if negative then ['-'] else []

/-- Digits `d.ddd · 10^lead` written without an exponent, and without a point if they end before
it. -/
def positional (ds : List Char) (lead : Int) : List Char :=
  if 0 ≤ lead then
    let whole := lead.toNat + 1
    let front := ds.take whole ++ List.replicate (whole - ds.length) '0'
    match ds.drop whole with
    | [] => front
    | fraction => front ++ '.' :: fraction
  else ['0', '.'] ++ List.replicate ((-lead).toNat - 1) '0' ++ ds

/-- The significant digits of a positive double and the exponent of the first of them. -/
def significant (m : Nat) (e : Int) : List Char × Int :=
  let (digits, p) := shortest m e
  let ds := decimalDigits digits
  (dropTrailingZeros ds, p + ds.length - 1)

/-- The text of a number in a document: positional for magnitudes from `10^-5` up to `10^16`, with
`.0` after a whole number; else with an exponent whose sign is always written. -/
def text : Binary64 → List Char
  | .nan _ => ['n', 'u', 'l', 'l']
  | .infinite _ => ['n', 'u', 'l', 'l']
  | .finite negative m e =>
    if m = 0 then signText negative ++ ['0', '.', '0']
    else
      let (ds, lead) := significant m e
      let body :=
        if -5 ≤ lead ∧ lead < 16 then
          let cs := positional ds lead
          if cs.contains '.' then cs else cs ++ ['.', '0']
        else
          let mantissa := match ds with
            | [d] => [d]
            | d :: ds => d :: '.' :: ds
            | [] => []
          let mark := if lead < 0 then '-' else '+'
          mantissa ++ 'e' :: mark :: decimalDigits lead.natAbs
      signText negative ++ body

/-- The text of a number in a sentence: all digits, never an exponent, no point after a whole
number. -/
def plainText : Binary64 → List Char
  | .nan _ => ['N', 'a', 'N']
  | .infinite negative => signText negative ++ ['i', 'n', 'f']
  | .finite negative m e =>
    if m = 0 then signText negative ++ ['0']
    else
      let (ds, lead) := significant m e
      signText negative ++ positional ds lead

end Binary64

end CaseScript
