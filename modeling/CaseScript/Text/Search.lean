import CaseScript.Unicode.Blank

/-!
# Text/Search — finding, cutting and replacing in a list of characters

Texts are taken apart as lists of characters. A search goes from left to right and matches do not
overlap.
-/

namespace CaseScript.Text

/-- Whether `needle` occurs in the text. -/
def contains (needle : List Char) : List Char → Bool
  | [] => needle.isEmpty
  | c :: cs => needle.isPrefixOf (c :: cs) || contains needle cs

/-- The text after `front`, if it begins so. -/
def dropFront? : (front : List Char) → List Char → Option (List Char)
  | [], cs => some cs
  | _ :: _, [] => none
  | p :: ps, c :: cs => if p = c then dropFront? ps cs else none

/-- The text before `back`, if it ends so. -/
def dropBack? (back cs : List Char) : Option (List Char) :=
  (dropFront? back.reverse cs.reverse).map List.reverse

/-- Replaces every occurrence of a nonempty `pattern`; `skip` characters of one already replaced
are still to be passed over. -/
def replaceFrom (pattern replacement : List Char) : (skip : Nat) → List Char → List Char
  | _, [] => []
  | skip + 1, _ :: cs => replaceFrom pattern replacement skip cs
  | 0, c :: cs =>
    if pattern.isPrefixOf (c :: cs) then
      replacement ++ replaceFrom pattern replacement (pattern.length - 1) cs
    else c :: replaceFrom pattern replacement 0 cs

/-- Replaces every occurrence of a nonempty `pattern`, from left to right. -/
def replace (pattern replacement cs : List Char) : List Char :=
  replaceFrom pattern replacement 0 cs

/-- The pieces between the separators; one more piece than there are separators. -/
def splitOn (separator : Char) : List Char → List (List Char)
  | [] => [[]]
  | c :: cs =>
    if c = separator then [] :: splitOn separator cs
    else match splitOn separator cs with
      | [] => [[c]]
      | piece :: pieces => (c :: piece) :: pieces

/-- The text cut at the first separator, which belongs to neither side. -/
def cutAt? (separator : Char) : List Char → Option (List Char × List Char)
  | [] => none
  | c :: cs =>
    if c = separator then some ([], cs)
    else (cutAt? separator cs).map fun (front, back) => (c :: front, back)

/-- The text without white space at its start. -/
def trimStart (cs : List Char) : List Char := cs.dropWhile Unicode.isBlank

/-- The text without white space at its end. -/
def trimEnd (cs : List Char) : List Char := (trimStart cs.reverse).reverse

/-- The text without white space at either end. -/
def trim (cs : List Char) : List Char := trimEnd (trimStart cs)

/-- The words of a text: what stands between runs of white space. -/
def words (cs : List Char) : List (List Char) := go [] cs
where
  /-- Collects the current word in reverse. -/
  go (word : List Char) : List Char → List (List Char)
    | [] => if word.isEmpty then [] else [word.reverse]
    | c :: cs =>
      if Unicode.isBlank c then
        if word.isEmpty then go [] cs else word.reverse :: go [] cs
      else go (c :: word) cs

/-- The text with the letters `A` to `Z` in lower case. -/
def lowerAscii (cs : List Char) : List Char := cs.map Char.toLower

/-- The text with the letters `a` to `z` in upper case. -/
def upperAscii (cs : List Char) : List Char := cs.map Char.toUpper

/-- Equality up to the case of the letters `A` to `Z`. -/
def sameLetters (a b : List Char) : Bool := lowerAscii a = lowerAscii b

end CaseScript.Text

namespace CaseScript

/-- The text without white space at either end. -/
def trimmed (s : String) : String := String.ofList (Text.trim s.toList)

/-- The first part of a dotted name, all of it if it has no dot. -/
def rootOf (name : String) : String :=
  match Text.cutAt? '.' name.toList with
  | some (root, _) => String.ofList root
  | none => name

/-- A dotted name cut into its first part and the rest, which is empty if it has no dot. -/
def cutRoot (name : String) : String × String :=
  match Text.cutAt? '.' name.toList with
  | some (root, rest) => (String.ofList root, String.ofList rest)
  | none => (name, "")

/-- Equality of two texts up to the case of the letters `A` to `Z`. -/
def sameLetters (a b : String) : Bool := Text.sameLetters a.toList b.toList

end CaseScript
