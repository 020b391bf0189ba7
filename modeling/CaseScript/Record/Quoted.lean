import CaseScript.Text.Digits
import CaseScript.Unicode.TextTable

/-!
# Record/Quoted — text in quotes, for messages

What could be misread is escaped: quotes and backslashes, breaks, characters that do not print, and
those that would merge with the quote before them.
-/

namespace CaseScript.Record

/-- A character as it stands between quotes. -/
def quotedChar (c : Char) : List Char :=
  if c = '\x00' then ['\\', '0']
  else if c = '\t' then ['\\', 't']
  else if c = '\r' then ['\\', 'r']
  else if c = '\n' then ['\\', 'n']
  else if c = '"' then ['\\', '"']
  else if c = '\\' then ['\\', '\\']
  else if ' ' ≤ c ∧ c ≤ '~' then [c]
  else if Unicode.extenderSet.mem c || !Unicode.printableSet.mem c then
    ['\\', 'u', '{'] ++ Nat.toDigits 16 c.toNat ++ ['}']
  else [c]

/-- A text in quotes. -/
def quoted (s : String) : String :=
  String.ofList ('"' :: (s.toList.flatMap quotedChar ++ ['"']))

end CaseScript.Record
