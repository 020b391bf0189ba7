import CaseScript.Record.Node
import CaseScript.Yaml.Text

/-!
# Yaml/Tag — anchors, tags and directives

What may stand before a node, and before a document. A tag is a shorthand, a handle with a suffix,
or stands in full between angle brackets.
-/

namespace CaseScript.Yaml

/-! ## Anchors -/

/-- Whether what follows the name of an anchor may do so. -/
def endsAnchor : List Char → Bool
  | [] => true
  | c :: cs => endsWord (c :: cs) || ['?', ':', ',', ']', '}', '%', '@', '\x60'].contains c

/-- Reads the name of an anchor. -/
def anchorName? (cs : List Char) : Option (List Char × List Char) :=
  let name := cs.takeWhile isNameChar
  let rest := cs.drop name.length
  if name = [] ∨ ¬endsAnchor rest then none else some (name, rest)

/-! ## Encoded characters -/

/-- Reads an encoded byte. -/
def encodedByte? : List Char → Option (UInt8 × List Char)
  | '%' :: a :: b :: cs => (Scalar.digitsIn? 16 [a, b]).map fun n => (UInt8.ofNat n, cs)
  | _ => none

/-- How many bytes follow the first byte of a character. -/
def trailLength? (b : UInt8) : Option Nat :=
  if b < 0x80 then some 0
  else if b < 0xc0 then none
  else if b < 0xe0 then some 1
  else if b < 0xf0 then some 2
  else if b < 0xf8 then some 3
  else none

/-- Reads the further bytes of an encoded character. -/
def trailBytes? : (count : Nat) → List Char → Option (List UInt8 × List Char)
  | 0, cs => some ([], cs)
  | count + 1, cs =>
    match encodedByte? cs with
    | some (b, rest) =>
      if 0x80 ≤ b ∧ b < 0xc0 then (trailBytes? count rest).map fun (bs, rest) => (b :: bs, rest)
      else none
    | none => none

/-- Reads the bytes of an encoded character. There have to be as many as the first one announces,
whatever they spell. -/
def encodedChar? (cs : List Char) : Option (List UInt8 × List Char) :=
  match encodedByte? cs with
  | none => none
  | some (b, rest) =>
    (trailLength? b).bind fun count =>
      (trailBytes? count rest).map fun (bs, rest) => (b :: bs, rest)

/-! ## Tags -/

/-- Whether a character can stand in a tag. -/
def isTagChar (full : Bool) (c : Char) : Bool :=
  isNameChar c
    || [';', '/', '?', ':', '@', '&', '=', '+', '$', '.', '%', '!', '~', '*', '\'', '(',
      ')'].contains c
    || (full && (c = ',' || c = '[' || c = ']'))

/-- The bytes that the text of a tag stands for. -/
def decodeTag? : (fuel : Nat) → List Char → Option (List UInt8)
  | 0, _ => none
  | _ + 1, [] => some []
  | fuel + 1, c :: cs =>
    if c = '%' then
      match encodedChar? (c :: cs) with
      | some (bs, rest) => (decodeTag? fuel rest).map (bs ++ ·)
      | none => none
    else (decodeTag? fuel cs).map (c.toUInt8 :: ·)

/-- Reads the text of a tag. -/
def tagText? (full : Bool) (cs : List Char) : Option (List UInt8 × List Char) :=
  let text := cs.takeWhile (isTagChar full)
  (decodeTag? (text.length + 1) text).map fun decoded => (decoded, cs.drop text.length)

/-- A tag as it is written: a handle, empty if the tag stands in full, and a suffix. -/
structure TagMark where
  handle : List Char
  suffix : List UInt8
deriving DecidableEq, Repr

/-- Reads a handle between two exclamation marks. -/
def tagHandle? : List Char → Option (List Char × List Char)
  | '!' :: cs =>
    let name := cs.takeWhile isNameChar
    match cs.drop name.length with
    | '!' :: rest => some ('!' :: (name ++ ['!']), rest)
    | _ => none
  | _ => none

/-- Whether what follows a tag may do so. -/
def endsTag (inFlow : Bool) : List Char → Bool
  | ',' :: _ => inFlow
  | cs => endsWord cs

/-- Reads a tag after its exclamation mark, without regard to what follows it. -/
def tagMark? (cs : List Char) : Option (TagMark × List Char) :=
  match cs with
  | '<' :: cs =>
    match tagText? true cs with
    | some (text, '>' :: rest) => if text = [] then none else some (⟨[], text⟩, rest)
    | _ => none
  | cs =>
    match tagHandle? ('!' :: cs) with
    | some (handle, rest) =>
      match tagText? false rest with
      | some (text, rest) => if text = [] then none else some (⟨handle, text⟩, rest)
      | none => none
    | none =>
      match tagText? false cs with
      | some ([], rest) => some (⟨[], [0x21]⟩, rest)
      | some (text, rest) => some (⟨['!'], text⟩, rest)
      | none => none

/-- Reads a tag after its exclamation mark. -/
def tag? (inFlow : Bool) (cs : List Char) : Option (TagMark × List Char) :=
  (tagMark? cs).filter fun (_, rest) => endsTag inFlow rest

/-! ## Directives -/

/-- What stands before a document. -/
inductive Directive where
  | version (major minor : Nat)
  /-- What a handle stands for. -/
  | tag (handle : List Char) (text : List UInt8)
deriving DecidableEq, Repr

/-- The greatest number of digits in a version. -/
def maxVersionDigits : Nat := 9

/-- Reads a number of a version. -/
def versionNumber? (cs : List Char) : Option (Nat × List Char) :=
  let digits := cs.takeWhile Char.isDigit
  if digits = [] ∨ maxVersionDigits < digits.length then none
  else some (ofDecimalDigits digits, cs.drop digits.length)

/-- Reads the value of a version. -/
def version? (cs : List Char) : Option (Directive × List Char) :=
  match versionNumber? (skipBlanks cs) with
  | some (major, '.' :: cs) =>
    (versionNumber? cs).map fun (minor, rest) => (.version major minor, rest)
  | _ => none

/-- Reads the handle that a directive explains. -/
def directiveHandle? (cs : List Char) : Option (List Char × List Char) :=
  match tagHandle? cs, cs with
  | some r, _ => some r
  | none, '!' :: rest => if (rest.takeWhile isNameChar) = [] then some (['!'], rest) else none
  | none, _ => none

/-- Reads the value of a handle. -/
def handleValue? (cs : List Char) : Option (Directive × List Char) :=
  match directiveHandle? (skipBlanks cs) with
  | some (handle, c :: cs) =>
    if ¬isBlank c then none
    else match tagText? true (skipBlanks cs) with
      | some (text, rest) =>
        if text = [] ∨ ¬endsWord rest then none else some (.tag handle text, rest)
      | none => none
  | _ => none

/-- Reads a directive after its sign, up to the end of the line. -/
def directive? (cs : List Char) : Option (Directive × List Char) :=
  let name := cs.takeWhile isNameChar
  let rest := cs.drop name.length
  if ¬endsWord rest then none
  else
    let value := match String.ofList name with
      | "YAML" => version? rest
      | "TAG" => handleValue? rest
      | _ => none
    value.bind fun (d, rest) => (lineEnd? rest).map fun rest => (d, rest)

end CaseScript.Yaml
