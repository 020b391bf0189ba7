import CaseScript.Text.Digits

/-!
# Url/Punycode — labels of any script in letters, digits and hyphens

The basic characters of a label come first, then a hyphen, then one number for each other character,
in the order of code points: how many places the position and the code point have moved on. The
numbers are written in base thirty-six with thresholds that adapt to their size.
-/

namespace CaseScript.Url.Punycode

/-- The base of the digits. -/
def base : Nat := 36

/-- The digit for a value: letters, then figures. -/
def digit (n : Nat) : Char := if n < 26 then Char.ofNat (n + 97) else Char.ofNat (n - 26 + 48)

/-- The value of a digit. -/
def digitValue? (c : Char) : Option Nat :=
  if 'a' ≤ c ∧ c ≤ 'z' then some (c.toNat - 97)
  else if 'A' ≤ c ∧ c ≤ 'Z' then some (c.toNat - 65)
  else if c.isDigit then some (c.toNat - 48 + 26)
  else none

/-- The threshold of the digit at place `k`. -/
def threshold (k bias : Nat) : Nat :=
  if k ≤ bias then 1 else if bias + 26 ≤ k then 26 else k - bias

/-- Divides until the thresholds suit a number. -/
def adaptFrom (k delta : Nat) : Nat :=
  if delta ≤ 455 then k + 36 * delta / (delta + 38) else adaptFrom (k + base) (delta / 35)
termination_by delta

/-- The bias after a number, of `points` numbers in all. -/
def adapt (delta points : Nat) (first : Bool) : Nat :=
  let delta := if first then delta / 700 else delta / 2
  adaptFrom 0 (delta + delta / points)

theorem one_le_threshold (k bias : Nat) : 1 ≤ threshold k bias := by
  unfold threshold
  split
  · exact Nat.le_refl 1
  · split <;> omega

/-- A number in digits, the least significant first. -/
def number (q k bias : Nat) : List Char :=
  if q < threshold k bias then [digit q]
  else
    digit (threshold k bias + (q - threshold k bias) % (base - threshold k bias))
      :: number ((q - threshold k bias) / (base - threshold k bias)) (k + base) bias
termination_by q
decreasing_by
  have h1 := one_le_threshold k bias
  have h2 := Nat.div_le_self (q - threshold k bias) (base - threshold k bias)
  omega

/-- The state of writing: the code point reached, the steps since the last number, the bias, the
characters written so far, and the digits. -/
structure Writing where
  point : Nat
  delta : Nat
  bias : Nat
  written : Nat
  digits : List Char

/-- Passes one character of the label, for the code point `m`. -/
def Writing.pass (basics m : Nat) (s : Writing) (c : Char) : Writing :=
  if c.toNat < m then { s with delta := s.delta + 1 }
  else if c.toNat = m then
    { s with
      delta := 0
      bias := adapt s.delta (s.written + 1) (s.written = basics)
      written := s.written + 1
      digits := s.digits ++ number s.delta base s.bias }
  else s

/-- Passes the whole label for the code point `m`. -/
def Writing.round (label : List Char) (basics : Nat) (s : Writing) (m : Nat) : Writing :=
  let s := { s with delta := s.delta + (m - s.point) * (s.written + 1), point := m }
  let s := label.foldl (Writing.pass basics m) s
  { s with delta := s.delta + 1, point := m + 1 }

/-- The code points of a label beyond the basic ones, in order, each once. -/
def points (label : List Char) : List Nat :=
  ((label.filter fun c => 128 ≤ c.toNat).map Char.toNat).mergeSort.eraseDups

/-- A label in letters, digits and hyphens. -/
def encode (label : List Char) : List Char :=
  let basic := label.filter fun c => c.toNat < 128
  let start := if basic = [] then [] else basic ++ ['-']
  start ++ ((points label).foldl (Writing.round label basic.length)
    ⟨128, 0, 72, basic.length, []⟩).digits

/-- The state of reading: the label so far, the code point and the position reached, the position
at the last character, the bias, and the weight and place of the next digit. -/
structure Reading where
  label : List Char
  point : Nat
  position : Nat
  last : Nat
  bias : Nat
  weight : Nat
  place : Nat

/-- Reads one digit. -/
def Reading.digit? (s : Reading) (c : Char) : Option Reading := do
  let d ← digitValue? c
  let t := threshold s.place s.bias
  let position := s.position + d * s.weight
  if d < t then
    let size := s.label.length + 1
    let point := s.point + position / size
    let here := position % size
    if point.isValidChar then
      some {
        label := s.label.take here ++ Char.ofNat point :: s.label.drop here
        point := point, position := here + 1, last := here + 1
        bias := adapt (position - s.last) size (s.last = 0), weight := 1, place := base }
    else none
  else
    some { s with position := position, weight := s.weight * (base - t), place := s.place + base }

/-- The label that letters, digits and hyphens stand for. -/
def decode? (cs : List Char) : Option (List Char) :=
  let digits := (cs.reverse.takeWhile (· ≠ '-')).reverse
  let basic := (cs.take (cs.length - digits.length)).dropLast
  (digits.foldlM Reading.digit? ⟨basic, 128, 0, 0, 72, 1, base⟩).bind fun s =>
    if s.place = base then some s.label else none

end CaseScript.Url.Punycode
