import CaseScript.Text.Packed

/-!
# Unicode/Spans — sets of code points

A set is a list of spans that ascend and neither overlap nor touch. The code points from `D800` to
`DFFF` are no characters: a set may run over them, and the neighbours `next` and `previous` leap
them.
-/

namespace CaseScript.Unicode

/-- The code points from a first to a last one. -/
structure Span where
  first : Nat
  last : Nat
deriving DecidableEq, Repr

/-- A set of code points: ascending spans that neither overlap nor touch. -/
abbrev Spans := List Span

/-- The last code point. -/
def maxPoint : Nat := 0x10ffff

namespace Span

/-- Whether the code point lies in the span. -/
def holds (s : Span) (n : Nat) : Bool := s.first ≤ n && n ≤ s.last

/-- The span between two code points in either order. -/
def between (a b : Nat) : Span := if a ≤ b then ⟨a, b⟩ else ⟨b, a⟩

/-- The character after a character. -/
def next (n : Nat) : Nat := if n = 0xd7ff then 0xe000 else n + 1

/-- The character before a character. -/
def previous (n : Nat) : Nat := if n = 0xe000 then 0xd7ff else n - 1

end Span

namespace Spans

/-- Whether the code point is in the set. -/
def holds (s : Spans) (n : Nat) : Bool := s.any (·.holds n)

/-- Whether the character is in the set. -/
def mem (s : Spans) (c : Char) : Bool := s.holds c.toNat

/-- Joins ascending spans that overlap or touch; `a` is the one under way. -/
def joinFrom (a : Span) : List Span → Spans
  | [] => [a]
  | b :: rest =>
    if b.first ≤ a.last + 1 then joinFrom ⟨a.first, max a.last b.last⟩ rest
    else a :: joinFrom b rest

/-- The set that spans with ascending first points cover. -/
def join : List Span → Spans
  | [] => []
  | a :: rest => joinFrom a rest

/-- The set that spans in any order cover. -/
def ofList (spans : List Span) : Spans := join (spans.mergeSort fun a b => a.first ≤ b.first)

/-- The members of either set. -/
def union (a b : Spans) : Spans := join (List.merge a b fun x y => x.first ≤ y.first)

/-- The members of both sets. -/
def inter (a b : Spans) : Spans :=
  a.flatMap fun x => b.filterMap fun y =>
    let first := max x.first y.first
    let last := min x.last y.last
    if first ≤ last then some ⟨first, last⟩ else none

/-- What lies between the spans from the point `start` on, as pairs of a first and a last point. A
pair in descending order stands between two spans that the surrogates alone part. -/
def gaps (start : Nat) : Spans → List (Nat × Nat)
  | [] => if start ≤ maxPoint then [(start, maxPoint)] else []
  | s :: rest =>
    let after := gaps (Span.next s.last) rest
    if start = 0 ∧ s.first = 0 then after else (start, Span.previous s.first) :: after

/-- What lies outside the set. Between two spans that the surrogates alone part, it takes in the
characters on the two sides of these. -/
def compl (s : Spans) : Spans := join ((gaps 0 s).map fun (a, b) => Span.between a b)

/-- The members of `a` that are not in `b`. -/
def diff (a b : Spans) : Spans :=
  inter a ((gaps 0 b).filterMap fun (first, last) =>
    if first ≤ last then some ⟨first, last⟩ else none)

/-- The members of exactly one of the two sets. -/
def symmDiff (a b : Spans) : Spans := diff (union a b) (inter a b)

/-- The set, or its complement. -/
def negatedIf (negated : Bool) (s : Spans) : Spans := if negated then compl s else s

/-- The set of one character. -/
def single (c : Char) : Spans := [⟨c.toNat, c.toNat⟩]

/-- All code points. -/
def full : Spans := [⟨0, maxPoint⟩]

/-- Reads sizes of runs: outside, inside, outside, and so on, from the point `start` on. -/
def ofRuns (start : Nat) : List Nat → Spans
  | gap :: size :: rest =>
    ⟨start + gap, start + gap + size - 1⟩ :: ofRuns (start + gap + size) rest
  | _ => []

/-- Reads the packed sizes of the runs of a set. -/
def unpack (lines : List String) : Spans := ofRuns 0 (Text.unpack lines)

end Spans

end CaseScript.Unicode
