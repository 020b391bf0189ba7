import CaseScript.Json.Text
import CaseScript.Record.Node
import CaseScript.Yaml.Text

/-!
# Yaml/Printer — values as block documents

Objects and lists become blocks, empty ones brackets. A string stands in quotes unless it is a word
that could be nothing else.
-/

namespace CaseScript.Yaml

/-- Whether a string reads the same without quotes: words of letters and digits that do not spell
another value. -/
def isPlainWord (s : String) : Bool :=
  match s.toList with
  | c :: cs => c.isAlpha && cs.all Char.isAlphanum && (match Scalar.resolve? s with
      | some (.str _) => true
      | _ => false)
  | [] => false

/-- A character as it stands in double quotes. -/
def quotedChar (c : Char) : List Char :=
  if c = '"' then ['\\', '"']
  else if c = '\\' then ['\\', '\\']
  else if c = '\n' then ['\\', 'n']
  else if c = '\r' then ['\\', 'r']
  else if c = '\t' then ['\\', 't']
  else if isAllowed c ∧ ¬isBreak c ∧ c ≠ '\ufeff' then [c]
  else
    let digits := Nat.toDigits 16 c.toNat
    ['\\', 'U'] ++ List.replicate (8 - digits.length) '0' ++ digits

/-- A string. -/
def stringChars (s : String) : List Char :=
  if isPlainWord s then s.toList else '"' :: (s.toList.flatMap quotedChar ++ ['"'])

/-- A new line with an indentation. -/
def newLine (indent : Nat) : List Char := '\n' :: List.replicate indent ' '

mutual

/-- The characters of a value; what is a block begins on a new line. -/
def valueChars (indent : Nat) : Json → List Char
  | .str s => ' ' :: stringChars s
  | .arr (v :: vs) => itemChars indent (v :: vs)
  | .obj (e :: es) => entryChars indent (e :: es)
  | v => ' ' :: v.chars

/-- The characters of items. -/
def itemChars (indent : Nat) : List Json → List Char
  | [] => []
  | v :: vs => newLine indent ++ ['-'] ++ valueChars (indent + 2) v ++ itemChars indent vs

/-- The characters of entries. -/
def entryChars (indent : Nat) : List (String × Json) → List Char
  | [] => []
  | (k, v) :: es =>
    newLine indent ++ stringChars k ++ [':'] ++ valueChars (indent + 2) v ++ entryChars indent es

end

/-- The block document of a value. -/
def print (v : Json) : String := String.ofList ((valueChars 0 v).drop 1 ++ ['\n'])

end CaseScript.Yaml
