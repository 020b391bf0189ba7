import CaseScript.Unicode.Case
import CaseScript.Unicode.Property

/-!
# Regex/CharSet — the sets of characters a pattern can name
-/

namespace CaseScript.Regex

/-- A set of characters. -/
abbrev CharSet := Unicode.Spans

namespace CharSet

/-- `0` to `9`. -/
def asciiDigit : CharSet := [⟨48, 57⟩]

/-- Blanks and breaks below 128. -/
def asciiSpace : CharSet := [⟨9, 13⟩, ⟨32, 32⟩]

/-- Letters, digits and the underscore below 128. -/
def asciiWord : CharSet := [⟨48, 57⟩, ⟨65, 90⟩, ⟨95, 95⟩, ⟨97, 122⟩]

/-- The sets that may be named between `[:` and `:]`. -/
def asciiNamed? (name : String) : Option CharSet :=
  match name with
  | "alnum" => some [⟨48, 57⟩, ⟨65, 90⟩, ⟨97, 122⟩]
  | "alpha" => some [⟨65, 90⟩, ⟨97, 122⟩]
  | "ascii" => some [⟨0, 127⟩]
  | "blank" => some [⟨9, 9⟩, ⟨32, 32⟩]
  | "cntrl" => some [⟨0, 31⟩, ⟨127, 127⟩]
  | "digit" => some asciiDigit
  | "graph" => some [⟨33, 126⟩]
  | "lower" => some [⟨97, 122⟩]
  | "print" => some [⟨32, 126⟩]
  | "punct" => some [⟨33, 47⟩, ⟨58, 64⟩, ⟨91, 96⟩, ⟨123, 126⟩]
  | "space" => some asciiSpace
  | "upper" => some [⟨65, 90⟩]
  | "word" => some asciiWord
  | "xdigit" => some [⟨48, 57⟩, ⟨65, 70⟩, ⟨97, 102⟩]
  | _ => none

end CharSet

end CaseScript.Regex
