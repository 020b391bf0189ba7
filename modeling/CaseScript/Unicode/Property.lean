import CaseScript.Text.Search
import CaseScript.Unicode.AgeTable
import CaseScript.Unicode.BreakTable
import CaseScript.Unicode.Category
import CaseScript.Unicode.PropertyTable
import CaseScript.Unicode.ScriptTable

/-!
# Unicode/Property — sets of characters by the names of their properties

A name is either that of a property which characters have or lack, or the value of the general
category or of the script; other properties are named together with the value. Case, separators and
a leading `is` make no difference.
-/

namespace CaseScript.Unicode

/-- A name without separators, in lower case and without a leading `is`; only `isc` keeps it. -/
def plainName (name : List Char) : String :=
  let plain (cs : List Char) : List Char :=
    Text.lowerAscii (cs.filter fun c => c ≠ '_' ∧ c ≠ '-' ∧ c ≠ ' ' ∧ c.toNat < 128)
  String.ofList (match Text.dropFront? ['i', 's'] (Text.lowerAscii name) with
    | some rest => if plain rest = ['c'] then ['i', 's', 'c'] else plain rest
    | none => plain name)

/-- The entry of a table whose names include the given one. -/
def named? {α : Type} (table : List (List String × α)) (name : String) : Option α :=
  (table.find? (·.1.contains name)).map Prod.snd

/-- The characters with the property of a plain name. -/
def binary? (name : String) : Option Spans := (named? properties name).map .unpack

/-- The characters whose general category has a plain name, or that one of three words collects. -/
def category? (name : String) : Option Spans :=
  match name with
  | "any" => some .full
  | "assigned" => some (Category.members [.unassigned]).compl
  | "ascii" => some [⟨0, 127⟩]
  | name => (named? Category.names name).map Category.members

/-- The characters whose script has a plain name. -/
def script? (name : String) : Option Spans := (named? scripts name).map .unpack

/-- The characters that are used with the script of a plain name. -/
def scriptExtension? (name : String) : Option Spans :=
  ((named? scriptExtensions name).map .unpack).or (script? name)

/-- The characters that have been there since the edition of a plain name. -/
def age? (name : String) : Option Spans :=
  let earlier := ages.takeWhile (!·.1.contains name)
  (ages.find? (·.1.contains name)).map fun last =>
    .ofList ((earlier ++ [last]).flatMap fun edition => Spans.unpack edition.2)

/-- The characters for which a property has a value, both given by their names. -/
def valued? (property value : List Char) : Option Spans :=
  let value := plainName value
  match plainName property with
  | "gc" | "generalcategory" => category? value
  | "sc" | "script" => script? value
  | "scx" | "scriptextensions" => scriptExtension? value
  | "age" => age? value
  | "gcb" | "graphemeclusterbreak" => (named? graphemeBreaks value).map .unpack
  | "wb" | "wordbreak" => (named? wordBreaks value).map .unpack
  | "sb" | "sentencebreak" => (named? sentenceBreaks value).map .unpack
  | _ => none

/-- The characters that a single name stands for: those with a property, of a general category or of
a script. Three names of categories are also those of properties that cannot be asked for. -/
def property? (name : List Char) : Option Spans :=
  let name := plainName name
  if name = "cf" ∨ name = "sc" ∨ name = "lc" then category? name
  else (binary? name).or ((category? name).or (script? name))

/-! ## What words are made of -/

/-- Decimal digits of every script. -/
def digitSet : Spans := Category.members [.decimalNumber]

/-- White space: the breaks and blanks of every script. -/
def spaceSet : Spans := [
  ⟨9, 13⟩, ⟨0x20, 0x20⟩, ⟨0x85, 0x85⟩, ⟨0xa0, 0xa0⟩, ⟨0x1680, 0x1680⟩, ⟨0x2000, 0x200a⟩,
  ⟨0x2028, 0x2029⟩, ⟨0x202f, 0x202f⟩, ⟨0x205f, 0x205f⟩, ⟨0x3000, 0x3000⟩]

/-- Letters, marks, digits, connectors and joiners. -/
def wordSet : Spans :=
  .ofList (Category.members (.decimalNumber :: .connectorPunctuation :: Category.marks)
    ++ ((binary? "alphabetic").getD [] ++ (binary? "joincontrol").getD []))

end CaseScript.Unicode
