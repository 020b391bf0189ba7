import CaseScript.Regex.Basic

/-!
# Regex/Outline — a pattern in its simplest form

Patterns that spell the same in different ways share an outline: neighbouring characters are one
literal, sequences in sequences and alternatives in alternatives are taken apart, alternative
characters are one set, and a beginning that all alternatives share stands before them. What a
machine takes to run a pattern is read off its outline.
-/

namespace CaseScript.Regex

/-- A pattern in its simplest form; `ofSet`, `ofRepeat`, `ofParts` and `ofBranches` make it. -/
inductive Outline where
  | empty
  /-- At least one character. -/
  | literal (cs : List Char)
  /-- No character, or several to choose from; `narrow` if they were named where sets stop at the
  first 128 characters. -/
  | set (narrow : Bool) (s : CharSet)
  | look (l : Look)
  | «repeat» (reluctant : Bool) (min : Nat) (max : Option Nat) (body : Outline)
  /-- A group whose match is kept under a number. -/
  | group (number : Nat) (body : Outline)
  | seq (parts : List Outline)
  | alt (branches : List Outline)
deriving Repr, Inhabited

namespace Outline

/-! ## Measures -/

mutual
/-- The number of places in the outline. -/
def places : Outline → Nat
  | .repeat _ _ _ body | .group _ body => body.places + 1
  | .seq ps | .alt ps => placesOf ps + 1
  | _ => 1

/-- The number of places in a list of outlines. -/
def placesOf : List Outline → Nat
  | [] => 0
  | p :: ps => p.places + placesOf ps
end

mutual
/-- Whether every match is plainly empty. -/
def alwaysEmpty : Outline → Bool
  | .empty | .look _ => true
  | .literal _ | .set _ _ => false
  | .repeat _ _ _ body | .group _ body => body.alwaysEmpty
  | .seq ps | .alt ps => allAlwaysEmpty ps

/-- Whether all of a list are always empty. -/
def allAlwaysEmpty : List Outline → Bool
  | [] => true
  | p :: ps => p.alwaysEmpty && allAlwaysEmpty ps
end

mutual
/-- Whether no part is a set without members, which has no match. -/
def canMatch : Outline → Bool
  | .empty | .look _ | .literal _ => true
  | .set _ s => !s.isEmpty
  | .repeat _ _ _ body | .group _ body => body.canMatch
  | .seq ps | .alt ps => allCanMatch ps

/-- Whether all of a list can match. -/
def allCanMatch : List Outline → Bool
  | [] => true
  | p :: ps => p.canMatch && allCanMatch ps
end

mutual
/-- Whether every match takes a character. -/
def takesSome : Outline → Bool
  | .empty | .look _ => false
  | .literal _ | .set _ _ => true
  | .repeat _ min _ body => 0 < min && body.takesSome
  | .group _ body => body.takesSome
  | .seq ps => someTakeSome ps
  | .alt ps => allTakeSome ps

/-- Whether one of a list takes a character. -/
def someTakeSome : List Outline → Bool
  | [] => false
  | p :: ps => p.takesSome || someTakeSome ps

/-- Whether all of a list take a character. -/
def allTakeSome : List Outline → Bool
  | [] => true
  | p :: ps => p.takesSome && allTakeSome ps
end

/-- Whether there are matches, none of which is empty. -/
def neverEmpty (o : Outline) : Bool := o.canMatch && o.takesSome

mutual
/-- Whether every match begins where the condition holds, as far as the parts before the first
character show. -/
def opensAt (l : Look) : Outline → Bool
  | .empty | .literal _ | .set _ _ => false
  | .look l' => l == l'
  | .repeat _ min _ body => 0 < min && body.opensAt l
  | .group _ body => body.opensAt l
  | .seq ps => firstOpensAt l ps
  | .alt ps => allOpenAt l ps

/-- Whether a sequence begins where the condition holds. -/
def firstOpensAt (l : Look) : List Outline → Bool
  | [] => false
  | p :: ps => p.opensAt l || (p.alwaysEmpty && firstOpensAt l ps)

/-- Whether all of a list begin where the condition holds. -/
def allOpenAt (l : Look) : List Outline → Bool
  | [] => true
  | p :: ps => p.opensAt l && allOpenAt l ps
end

mutual
/-- Whether two outlines are the same. -/
def same : Outline → Outline → Bool
  | .empty, .empty => true
  | .literal a, .literal b => a == b
  | .set narrow a, .set narrow' b => narrow == narrow' && a == b
  | .look a, .look b => a == b
  | .repeat r min max a, .repeat r' min' max' b =>
    r == r' && min == min' && max == max' && a.same b
  | .group n a, .group n' b => n == n' && a.same b
  | .seq a, .seq b => sameAll a b
  | .alt a, .alt b => sameAll a b
  | _, _ => false

/-- Whether two lists of outlines are the same. -/
def sameAll : List Outline → List Outline → Bool
  | [], [] => true
  | a :: as, b :: bs => a.same b && sameAll as bs
  | _, _ => false
end

mutual
/-- The outline with all sequences turned round; literals are left as they stand. -/
def reversed : Outline → Outline
  | .repeat r min max body => .repeat r min max body.reversed
  | .group n body => .group n body.reversed
  | .seq ps => .seq (allReversed ps).reverse
  | .alt ps => .alt (allReversed ps)
  | o => o

/-- Each outline of a list turned round. -/
def allReversed : List Outline → List Outline
  | [] => []
  | p :: ps => p.reversed :: allReversed ps
end

/-! ## Simplifying -/

/-- A set; a single character is a literal, and there is one set without members. -/
def ofSet (narrow : Bool) (s : CharSet) : Outline :=
  match s with
  | [] => .set true []
  | [span] => if span.first = span.last then .literal [Char.ofNat span.first] else .set narrow s
  | s => .set narrow s

/-- A repetition. What is always empty need not be repeated. -/
def ofRepeat (reluctant : Bool) (min : Nat) (max : Option Nat) (body : Outline) : Outline :=
  let once := body.alwaysEmpty
  let min := if once then Nat.min min 1 else min
  let max := if once then some (Nat.min (max.getD 1) 1) else max
  if max = some 0 then .empty
  else if min = 1 ∧ max = some 1 then body
  else .repeat reluctant min max body

/-- The parts of a sequence; anything else is its own only part. -/
def parts : Outline → List Outline
  | .seq ps => ps
  | o => [o]

/-- Puts a part before a sequence. Nothing is put for the empty pattern, and literals join. -/
def cons : Outline → List Outline → List Outline
  | .empty, ps => ps
  | .literal a, .literal b :: ps => .literal (a ++ b) :: ps
  | p, ps => p :: ps

/-- One part after another. -/
def ofParts (ps : List Outline) : Outline :=
  match (ps.flatMap parts).foldr cons [] with
  | [] => .empty
  | [p] => p
  | ps => .seq ps

/-- The common beginning of two lists of parts. -/
def commonFront : List Outline → List Outline → List Outline
  | a :: as, b :: bs => if a.same b then a :: commonFront as bs else []
  | _, _ => []

/-- The beginning that all branches share; each of them has to be a sequence. -/
def sharedFront : List Outline → List Outline
  | [] => []
  | [.seq ps] => ps
  | .seq ps :: branches => commonFront ps (sharedFront branches)
  | _ => []

/-- The only character of a literal. -/
def onlyChar? : Outline → Option Char
  | .literal [c] => some c
  | _ => none

/-- The members of a set. -/
def members? : Outline → Option CharSet
  | .set _ s => some s
  | _ => none

/-- Alternatives, with fuel for the beginnings that are drawn out of them one after another. -/
def ofBranchesFrom : (fuel : Nat) → List Outline → Outline
  | 0, branches => .alt branches
  | fuel + 1, branches =>
    let branches := branches.flatMap fun
      | .alt bs => bs
      | b => [b]
    match branches with
    | [] => ofSet true []
    | [b] => b
    | branches =>
      match branches.mapM onlyChar?, branches.mapM members? with
      | some cs, _ => ofSet false (.ofList (cs.flatMap Unicode.Spans.single))
      | none, some sets => ofSet false (.ofList sets.flatten)
      | none, none =>
        match sharedFront branches with
        | [] => .alt branches
        | front =>
          let rests := branches.map fun b => ofParts (b.parts.drop front.length)
          ofParts (front ++ [ofBranchesFrom fuel rests])

/-- Alternatives. -/
def ofBranches (branches : List Outline) : Outline :=
  ofBranchesFrom (placesOf branches + 1) branches

end Outline

end CaseScript.Regex
