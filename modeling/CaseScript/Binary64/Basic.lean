/-!
# Binary64/Basic — double precision numbers as exact fractions

A finite double is `±m · 2^e` with `m < 2^53` and `-1074 ≤ e ≤ 971`, so every one of them is a whole
multiple of `2^-1074`. Order and equality compare those multiples as integers, and every operation
computes its exact fraction first and rounds once (`ofRatio`), to nearest with ties to even.
-/

namespace CaseScript

/-- The whole number nearest to `num / den`; a half goes to the even neighbour. -/
def roundHalfEven (num den : Nat) : Nat :=
  let q := num / den
  let r := num % den
  if den < 2 * r ∨ (2 * r = den ∧ q % 2 = 1) then q + 1 else q

/-- A double precision number. The sign of a NaN matters only to `Binary64.totalRank`. -/
inductive Binary64 where
  | nan (negative : Bool)
  | infinite (negative : Bool)
  /-- `mantissa · 2^exponent`, negated if `negative`. -/
  | finite (negative : Bool) (mantissa : Nat) (exponent : Int)
deriving DecidableEq, Repr, Inhabited

namespace Binary64

/-- The exponent of the finest grid. -/
def minExponent : Int := -1074

/-- The exponent of the coarsest grid. -/
def maxExponent : Int := 971

/-- Positive zero. -/
def zero : Binary64 := .finite false 0 minExponent

/-- The fraction `num / den` scaled by `2^(-e)`, as numerator and denominator. -/
def scaleDown (num den : Nat) (e : Int) : Nat × Nat :=
  if 0 ≤ e then (num, den * Nat.pow 2 e.toNat) else (num * Nat.pow 2 (-e).toNat, den)

/-- The exponent of the grid on which `num / den` has 53 significant bits, or the finest grid if
that one is finer still. -/
def gridExponent (num den : Nat) : Int :=
  let k : Int := (num.log2 : Int) - den.log2
  let (n, d) := scaleDown num den k
  max minExponent (if d ≤ n then k - 52 else k - 53)

/-- The double nearest to `±num / den`, for a positive `den`. -/
def ofRatio (negative : Bool) (num den : Nat) : Binary64 :=
  if num = 0 then .finite negative 0 minExponent
  else
    let e := gridExponent num den
    let (n, d) := scaleDown num den e
    let m := roundHalfEven n d
    let (m, e) := if m = Nat.pow 2 53 then (Nat.pow 2 52, e + 1) else (m, e)
    if maxExponent < e then .infinite negative else .finite negative m e

/-- The double nearest to an integer. -/
def ofInt (n : Int) : Binary64 := ofRatio (n < 0) n.natAbs 1

/-- The double nearest to a natural number. -/
def ofNat (n : Nat) : Binary64 := ofRatio false n 1

/-- The magnitude of a finite double as a fraction. -/
def magnitude (m : Nat) (e : Int) : Nat × Nat :=
  if 0 ≤ e then (m * Nat.pow 2 e.toNat, 1) else (m, Nat.pow 2 (-e).toNat)

/-- A finite double counted in units of `2^-1074`. -/
def units (negative : Bool) (m : Nat) (e : Int) : Int :=
  let n : Int := m * Nat.pow 2 (e - minExponent).toNat
  if negative then -n else n

/-- The place of a number on the extended line: first `-1`, `0` or `1` for the two infinities and
what lies between, then the units. A NaN has none. -/
def rank : Binary64 → Option (Int × Int)
  | .nan _ => none
  | .infinite negative => some (if negative then -1 else 1, 0)
  | .finite negative m e => some (0, units negative m e)

/-- Strictly less; false if either side is a NaN. -/
def lt (a b : Binary64) : Bool :=
  match a.rank, b.rank with
  | some x, some y => x.1 < y.1 || (x.1 = y.1 && x.2 < y.2)
  | _, _ => false

/-- Numerically equal; false if either side is a NaN, and the two zeros are equal. -/
def eq (a b : Binary64) : Bool :=
  match a.rank, b.rank with
  | some x, some y => x == y
  | _, _ => false

/-- Less or equal; false if either side is a NaN. -/
def le (a b : Binary64) : Bool := a.lt b || a.eq b

/-- Whether the number is a NaN. -/
def isNaN : Binary64 → Bool
  | .nan _ => true
  | _ => false

/-- The number with its sign turned. -/
def neg : Binary64 → Binary64
  | .nan s => .nan !s
  | .infinite s => .infinite !s
  | .finite s m e => .finite (!s) m e

/-- The number without its sign. -/
def abs : Binary64 → Binary64
  | .nan _ => .nan false
  | .infinite _ => .infinite false
  | .finite _ m e => .finite false m e

/-- The rounded sum. -/
def add : Binary64 → Binary64 → Binary64
  | .nan s, _ => .nan s
  | _, .nan s => .nan s
  | .infinite s, .infinite t => if s = t then .infinite s else .nan false
  | .infinite s, _ => .infinite s
  | _, .infinite t => .infinite t
  | .finite s m e, .finite t n f =>
    let total := units s m e + units t n f
    if total = 0 then .finite (s && t) 0 minExponent
    else ofRatio (total < 0) total.natAbs (Nat.pow 2 1074)

/-- The rounded difference. -/
def sub (a b : Binary64) : Binary64 := a.add b.neg

/-- The rounded product of two magnitudes given as fractions. -/
def scaleBy (x : Binary64) (num den : Nat) : Binary64 :=
  match x with
  | .finite s m e =>
    let (n, d) := magnitude m e
    ofRatio s (n * num) (d * den)
  | x => x

/-- The order in which every double has a place: negative NaNs, negative infinity, the negative
numbers with their zero, the positive ones with theirs, positive infinity, positive NaNs. -/
def totalRank : Binary64 → Int × Int × Int
  | .nan negative => (if negative then -2 else 2, 0, 0)
  | .infinite negative => (if negative then -1 else 1, 0, 0)
  | .finite negative m e => (0, units negative m e, if negative then 0 else 1)

/-- Strictly earlier in the total order. -/
def totalLt (a b : Binary64) : Bool :=
  let (a₁, a₂, a₃) := a.totalRank
  let (b₁, b₂, b₃) := b.totalRank
  a₁ < b₁ || (a₁ = b₁ && (a₂ < b₂ || (a₂ = b₂ && a₃ < b₃)))

/-- The 64 bits of the interchange format. -/
def bits : Binary64 → Nat
  | .nan negative => signBit negative + 0x7ff8000000000000
  | .infinite negative => signBit negative + 0x7ff0000000000000
  | .finite negative m e =>
    -- below 2^52 the number is subnormal and its exponent field is zero
    if m < Nat.pow 2 52 then signBit negative + m
    else signBit negative + (e + 1075).toNat * Nat.pow 2 52 + (m - Nat.pow 2 52)
where
  /-- The sign in its place. -/
  signBit (negative : Bool) : Nat := if negative then Nat.pow 2 63 else 0

end Binary64

end CaseScript
