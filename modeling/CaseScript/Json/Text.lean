import CaseScript.Json.Basic

/-!
# Json/Text — the written form of a value

Compact text: no blanks, entries in order, and in strings only the quote, the backslash and the
characters below the blank are escaped.
-/

namespace CaseScript.Json

/-- A lower-case hexadecimal digit. -/
def hexDigit (n : Nat) : Char := Nat.digitChar n

/-- A character as it stands between quotes. -/
def escapeChar (c : Char) : List Char :=
  if c = '"' then ['\\', '"']
  else if c = '\\' then ['\\', '\\']
  else if c = '\n' then ['\\', 'n']
  else if c = '\r' then ['\\', 'r']
  else if c = '\t' then ['\\', 't']
  else if c = '\x08' then ['\\', 'b']
  else if c = '\x0c' then ['\\', 'f']
  else if c.toNat < 0x20 then
    ['\\', 'u', '0', '0', hexDigit (c.toNat / 16), hexDigit (c.toNat % 16)]
  else [c]

/-- A string in quotes. -/
def quote (s : String) : List Char := '"' :: (s.toList.flatMap escapeChar ++ ['"'])

/-- The digits of a whole number, with its sign. -/
def wholeText (n : Int) : List Char :=
  if n < 0 then '-' :: decimalDigits n.natAbs else decimalDigits n.natAbs

/-- The text of a number. -/
def numberText : Number → List Char
  | .whole n => wholeText n
  | .real x => x.text

mutual

/-- The characters of a value's text. -/
def chars : Json → List Char
  | .null => ['n', 'u', 'l', 'l']
  | .bool true => ['t', 'r', 'u', 'e']
  | .bool false => ['f', 'a', 'l', 's', 'e']
  | .num n => numberText n
  | .str s => quote s
  | .arr items => '[' :: (itemChars items ++ [']'])
  | .obj entries => '{' :: (entryChars entries ++ ['}'])

/-- The items of an array, separated by commas. -/
def itemChars : List Json → List Char
  | [] => []
  | [v] => v.chars
  | v :: w :: vs => v.chars ++ ',' :: itemChars (w :: vs)

/-- The entries of an object, separated by commas. -/
def entryChars : List (String × Json) → List Char
  | [] => []
  | [(k, v)] => quote k ++ ':' :: v.chars
  | (k, v) :: e :: es => quote k ++ ':' :: (v.chars ++ ',' :: entryChars (e :: es))

end

/-- The text of a value. -/
def text (v : Json) : String := String.ofList v.chars

/-- The text a value is compared by: a string as it is, anything else as written. -/
def plain : Json → String
  | .str s => s
  | v => v.text

end CaseScript.Json
