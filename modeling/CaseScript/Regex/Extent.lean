import CaseScript.Regex.Outline
import Std.Data.HashMap

/-!
# Regex/Extent — whether a pattern is small enough to be run

A pattern is run by two machines, one that reads texts forward and one that reads them backward.
Each has states for every place of the outline, repetitions written out, and a machine of more than
ten mebibytes is refused. `Plan` lays a machine out and counts what it takes.

Machines read bytes. A set of characters beyond the first 128 becomes a graph of byte ranges, and
parts of it that are alike are shared as far as a table of limited size remembers them.
-/

namespace CaseScript.Regex

/-- The greatest size of a machine, in bytes. -/
def maxExtent : Nat := 10485760

/-- The bytes of a state. -/
def stateBytes : Nat := 32

/-- The bytes of one way out of a state that chooses by the next byte. -/
def arrowBytes : Nat := 8

/-- The bytes of one way out of a fork, which is a state that leads to several others. -/
def branchBytes : Nat := 4

/-- What has been laid out: the number of states, and the bytes that they take beyond their own. -/
structure Room where
  states : Nat
  extra : Nat

/-- A step in laying out a machine; it fails when the machine has grown too large. -/
abbrev Plan := StateT Room Option

namespace Plan

/-- Takes room for some states and for further bytes. -/
def take (states extra : Nat) : Plan Unit := fun r =>
  let r : Room := ⟨r.states + states, r.extra + extra⟩
  if stateBytes * r.states + r.extra ≤ maxExtent then some ((), r) else none

/-- The number that the next state gets. -/
def nextState : Plan Nat := fun r => some (r.states, r)

/-- Takes room for the way on from the end of a part, if that end is a fork. -/
def leave (fork : Bool) : Plan Unit := take 0 (if fork then branchBytes else 0)

end Plan

/-! ## Sets beyond the first 128 characters -/

/-- Where a range of code points is cut in two so that each piece is a sequence of byte ranges: the
last point of the first piece and the first point of the second. -/
def cut? (first last : Nat) : Option (Nat × Nat) :=
  if first < 0xe000 ∧ 0xd7ff < last then some (0xd7ff, 0xe000)
  else
    match [0x7f, 0x7ff, 0xffff].find? fun limit => first ≤ limit && limit < last with
    | some limit => some (limit, limit + 1)
    | none =>
      if last ≤ 0x7f then none
      else
        [64, 4096, 262144].findSome? fun unit =>
          if first / unit = last / unit then none
          else if first % unit ≠ 0 then
            some (first / unit * unit + unit - 1, first / unit * unit + unit)
          else if last % unit ≠ unit - 1 then some (last / unit * unit - 1, last / unit * unit)
          else none

/-- The sequences of byte ranges that spell the code points from `first` to `last`, in order. Every
range is cut a few times only, so a small `fuel` suffices. -/
def byteRanges : (fuel : Nat) → (first last : Nat) → List (List (Nat × Nat))
  | 0, _, _ => []
  | fuel + 1, first, last =>
    if last < first then []
    else
      match cut? first last with
      | some (a, b) => byteRanges fuel first a ++ byteRanges fuel b last
      | none =>
        let bytes (n : Nat) : List Nat := (String.utf8EncodeChar (Char.ofNat n)).map UInt8.toNat
        [(bytes first).zip (bytes last)]

/-- The sequences of byte ranges that spell the members of a set. -/
def setRanges (s : CharSet) : List (List (Nat × Nat)) :=
  s.flatMap fun span => byteRanges 16 span.first span.last

/-- States that may be shared, by their places in a table: what a state does, and its number. -/
abbrev Shared := Std.HashMap Nat (List Nat × Nat)

/-- The place of a key in a table of some size, by the usual hash of its numbers. -/
def placeOf (size : Nat) (key : List Nat) : Nat :=
  (key.foldl (fun h n => (h ^^^ n.toUInt64) * 1099511628211) (14695981039346656037 : UInt64)
    % size.toUInt64).toNat

/-- The state that does what the key says: the one remembered in the key's place, or else a new one,
which takes the place. -/
def sharedState (size : Nat) (key : List Nat) (extra : Nat) : StateT Shared Plan Nat :=
  fun shared => do
    let place := placeOf size key
    let fresh : Plan (Nat × Shared) := do
      let state ← Plan.nextState
      Plan.take 1 extra
      return (state, shared.insert place (key, state))
    match shared[place]? with
    | some (key', state) => if key' = key then return (state, shared) else fresh
    | none => fresh

/-- A state of the graph that is not finished: its ways out so far, each as a first byte, a last
byte and the state it leads to, and the byte range of the way under way. -/
structure OpenState where
  arrows : List Nat
  first : Nat
  last : Nat

/-- Finishes the states of the way under way, the deepest first, and gives the number of the first
one; the deepest leads to `goal`. -/
def finishStates (goal : Nat) : List OpenState → StateT Shared Plan Nat
  | [] => return goal
  | s :: deeper => do
    let next ← finishStates goal deeper
    let key := s.arrows ++ [s.first, s.last, next]
    sharedState 10000 key (arrowBytes * (key.length / 3))

/-- Adds a sequence of byte ranges to the way under way, as far as they differ. -/
def addRanges (goal : Nat) : List (Nat × Nat) → List OpenState →
    StateT Shared Plan (List OpenState)
  | [], way => return way
  | ranges, [] => return ranges.map fun (a, b) => ⟨[], a, b⟩
  | (a, b) :: ranges, s :: deeper => do
    if s.first = a ∧ s.last = b then
      return s :: (← addRanges goal ranges deeper)
    else
      let next ← finishStates goal deeper
      return ⟨s.arrows ++ [s.first, s.last, next], a, b⟩ :: ranges.map fun (a, b) => ⟨[], a, b⟩

/-- Lays out a set for reading forward: ways that end alike share their ends. -/
def planForward (s : CharSet) : Plan Unit := do
  let goal ← Plan.nextState
  Plan.take 1 0
  let build : StateT Shared Plan Unit := do
    let way ← (setRanges s).foldlM (fun way ranges => addRanges goal ranges way) []
    discard (finishStates goal way)
  discard (build.run ∅)

/-- Lays out a set for reading backward: ways that begin alike share their beginnings. -/
def planBackward (s : CharSet) : Plan Unit := do
  let fork ← Plan.nextState
  Plan.take 2 0
  let build : StateT Shared Plan Unit :=
    (setRanges s).forM fun ranges => do
      discard (ranges.foldlM (fun state (a, b) => sharedState 1000 [state, a, b] 0) (fork + 1))
      Plan.take 0 branchBytes
  discard (build.run ∅)

/-- Lays out a set of characters. -/
def planSet (forward : Bool) (s : CharSet) : Plan Unit :=
  if s.all fun span => span.last < 128 then Plan.take 2 (arrowBytes * s.length)
  else if forward then planForward s
  else planBackward s

/-! ## Alternative literals -/

/-- Texts in order, cut at the empty ones; of empty texts at the start all but one are passed
over. -/
def chunks (words : List (List UInt8)) : List (List (List UInt8)) :=
  match words with
  | [] :: rest => [] :: cutAtEmpty (rest.dropWhile List.isEmpty)
  | words => cutAtEmpty words
where
  /-- Texts in order, cut at the empty ones. -/
  cutAtEmpty : List (List UInt8) → List (List (List UInt8))
    | [] => [[]]
    | [] :: rest => [] :: cutAtEmpty rest
    | w :: rest =>
      match cutAtEmpty rest with
      | c :: cs => (w :: c) :: cs
      | [] => [[w]]

/-- The texts after each first byte that some of them have. -/
def byFirst (words : List (List UInt8)) : List (List (List UInt8)) :=
  (words.filterMap List.head?).eraseDups.map fun b =>
    words.filterMap fun
      | c :: rest => if c = b then some rest else none
      | [] => none

/-- Lays out the tree of the texts, each of which has fewer than `fuel` bytes: a fork over the
chunks, each of which is a state that chooses by the next byte. -/
def planTree : (fuel : Nat) → List (List UInt8) → Plan Unit
  | 0, _ => return
  | fuel + 1, words => do
    let chunks := chunks words
    Plan.take 1 (branchBytes * (chunks.length - 1))
    chunks.forM fun chunk => do
      let groups := byFirst chunk
      unless groups.isEmpty do
        Plan.take 1 (branchBytes + if groups.length = 1 then 0 else arrowBytes * groups.length)
      groups.forM fun group => do
        unless group.all List.isEmpty do planTree fuel group

/-- The bytes of a literal in the order in which they are read. -/
def literalBytes (forward : Bool) (cs : List Char) : List UInt8 :=
  let bytes := cs.flatMap String.utf8EncodeChar
  if forward then bytes else bytes.reverse

/-- The text of a literal. -/
def Outline.text? : Outline → Option (List Char)
  | .literal cs => some cs
  | _ => none

/-! ## Machines -/

/-- One part `n` more times after a part whose end is a fork or not. -/
def planMore (one : Plan Bool) : (n : Nat) → (fork : Bool) → Plan Bool
  | 0, fork => return fork
  | n + 1, fork => do
    Plan.leave fork
    planMore one n (← one)

/-- One part `n` times. -/
def planTimes (one : Plan Bool) : (n : Nat) → Plan Bool
  | 0 => do
    Plan.take 1 0
    return false
  | n + 1 => do planMore one n (← one)

/-- One part up to `n` times after a part whose end is a fork or not. -/
def planUpTo (one : Plan Bool) : (n : Nat) → (fork : Bool) → Plan Bool
  | 0, fork => do
    Plan.leave fork
    return false
  | n + 1, fork => do
    Plan.leave fork
    Plan.take 1 (2 * branchBytes)
    planUpTo one n (← one)

/-- A part repeated. Without an upper bound, a fork at the end leads back; where the part can be
empty and need not occur, a second fork leads around both. -/
def planRepeat (neverEmpty : Bool) (one : Plan Bool) (min : Nat) : (max : Option Nat) → Plan Bool
  | none => do
    if 0 < min then
      Plan.leave (← planTimes one min)
      Plan.take 1 branchBytes
      return true
    else if neverEmpty then
      Plan.take 1 branchBytes
      Plan.leave (← one)
      return true
    else
      Plan.leave (← one)
      Plan.take 3 (4 * branchBytes)
      return false
  | some max => do
    if min = 0 ∧ max = 1 then
      Plan.take 1 (2 * branchBytes)
      Plan.leave (← one)
      Plan.take 1 0
      return false
    else
      let fork ← planTimes one min
      if min = max then return fork
      else
        Plan.take 1 0
        planUpTo one (max - min) fork

mutual
/-- Lays out a pattern. The answer is whether its end is a fork, which takes room for the way on. -/
def plan (forward : Bool) : Outline → Plan Bool
  | .empty | .look _ => do
    Plan.take 1 0
    return false
  | .literal cs => do
    Plan.take (literalBytes forward cs).length 0
    return false
  | .set _ s => do
    planSet forward s
    return false
  | .repeat _ min max body => planRepeat body.neverEmpty (plan forward body) min max
  | .group _ body => do
    if forward then
      Plan.take 1 0
      Plan.leave (← plan forward body)
      Plan.take 1 0
      return false
    else plan forward body
  | .seq ps => planParts forward false ps
  | .alt bs => do
    match bs.mapM Outline.text? with
    | some texts =>
      let words := texts.map (literalBytes forward)
      Plan.take 1 0
      planTree ((words.map List.length).foldl max 0 + 1) words
    | none => planBranches forward 0 bs
    return false

/-- Lays out parts one after another, after one whose end is a fork or not. -/
def planParts (forward fork : Bool) : List Outline → Plan Bool
  | [] => return fork
  | p :: ps => do
    Plan.leave fork
    planParts forward (← plan forward p) ps

/-- Lays out the alternatives from the one with a number on; the fork between them and their common
end come after the first two. -/
def planBranches (forward : Bool) (number : Nat) : List Outline → Plan Unit
  | [] => return
  | b :: bs => do
    Plan.leave (← plan forward b)
    Plan.take (if number = 1 then 2 else 0) branchBytes
    planBranches forward (number + 1) bs
end

/-- Lays out a machine for the pattern: a start that passes over any bytes unless every match stands
at the near end of the text, the pattern as group zero, and the end. -/
def planMachine (forward : Bool) (o : Outline) : Plan Unit := do
  if o.opensAt (if forward then .textStart else .textEnd) then Plan.take 1 0
  else Plan.take 3 (arrowBytes + 2 * branchBytes)
  Plan.leave (← plan forward (.group 0 o))
  Plan.take 1 0

/-- Whether a pattern is small enough to be run. -/
def Outline.fits (o : Outline) : Bool :=
  ((planMachine true o).run ⟨0, 0⟩).isSome && ((planMachine false o.reversed).run ⟨0, 0⟩).isSome

end CaseScript.Regex
