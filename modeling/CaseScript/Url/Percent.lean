/-!
# Url/Percent — characters written as percent signs and digits

A character outside a set of safe ones is written byte by byte in its encoding. Each part of an
address has its own set.
-/

namespace CaseScript.Url

/-- An upper-case hexadecimal digit. -/
def upperHexDigit (n : Nat) : Char := (Nat.digitChar n).toUpper

/-- A byte as a percent sign and two digits. -/
def percentByte (b : UInt8) : List Char :=
  ['%', upperHexDigit (b.toNat / 16), upperHexDigit (b.toNat % 16)]

/-- The bytes of a character. -/
def bytesOf (c : Char) : List UInt8 := (String.ofList [c]).toUTF8.toList

/-- A text with every character for which `escapes` holds encoded. -/
def percentEncode (escapes : Char → Bool) (cs : List Char) : List Char :=
  cs.flatMap fun c => if escapes c then (bytesOf c).flatMap percentByte else [c]

/-- Control characters and all beyond the first 127. -/
def escapesControl (c : Char) : Bool := c.toNat < 0x20 || 0x7e < c.toNat

/-- What is encoded in a fragment. -/
def escapesInFragment (c : Char) : Bool :=
  escapesControl c || [' ', '"', '<', '>', '\x60'].contains c

/-- What is encoded in a path. -/
def escapesInPath (c : Char) : Bool :=
  escapesInFragment c || ['#', '?', '{', '}'].contains c

/-- What is encoded in a user's name and password. -/
def escapesInUser (c : Char) : Bool :=
  escapesInPath c || ['/', ':', ';', '=', '@', '[', '\\', ']', '^', '|'].contains c

/-- What is encoded in a query; where the scheme has rules of its own, the single quote too. -/
def escapesInQuery (special : Bool) (c : Char) : Bool :=
  escapesControl c || [' ', '"', '#', '<', '>'].contains c || (special && c = '\'')

/-- The value of a hexadecimal digit. -/
def hexDigit? (c : Char) : Option Nat :=
  if c.isDigit then some (c.toNat - 48)
  else if 'a' ≤ c ∧ c ≤ 'f' then some (c.toNat - 87)
  else if 'A' ≤ c ∧ c ≤ 'F' then some (c.toNat - 55)
  else none

/-- The byte that a percent sign and two digits at the start of a text stand for. -/
def escapedByte? : List Char → Option UInt8
  | '%' :: a :: b :: _ =>
    match hexDigit? a, hexDigit? b with
    | some x, some y => some (UInt8.ofNat (16 * x + y))
    | _, _ => none
  | _ => none

/-- The bytes of a text with its percent signs decoded; `skip` characters are read already. -/
def decodedBytes : (skip : Nat) → List Char → List UInt8
  | _, [] => []
  | skip + 1, _ :: cs => decodedBytes skip cs
  | 0, c :: cs =>
    match escapedByte? (c :: cs) with
    | some b => b :: decodedBytes 2 cs
    | none => bytesOf c ++ decodedBytes 0 cs

/-- A text with its percent signs decoded, if the bytes encode a text. -/
def percentDecode? (cs : List Char) : Option (List Char) :=
  (String.fromUTF8? ⟨(decodedBytes 0 cs).toArray⟩).map String.toList

end CaseScript.Url
