import CaseScript.Source.Catalog

/-!
# Source/Fetch — the value under a dotted name

Test data is asked for the whole path. Any other source is asked for the full name first, then for
the first segment, from whose value the rest of the path is followed. What is missing is null.
-/

namespace CaseScript

/-- Where values come from. -/
structure Sources where
  store : StoreHandle
  catalog : Catalog
deriving Repr

namespace Sources

/-- The value under a name of the test data; `overlay` is asked first. -/
def fetchData (s : Sources) (ctx : StepContext) (name : String) (overlay : Entries) :
    Act (Except StoreError Json) := do
  let (root, rest) := cutRoot name
  match (overlay.get? root).bind fun v => v.at? rest with
  | some v => return .ok v
  | none =>
    match ← s.store.part ctx.key name with
    | .ok v => return .ok (v.getD .null)
    | .error e => return .error e

/-- The value under the first segment of a name, and from there along the rest. -/
def fetchRoot (s : Sources) (ctx : StepContext) (kind : SourceKind) (root rest : String) :
    Act (Except StoreError Json) := do
  match ← s.catalog.lookup ctx kind root with
  | .ok v => return .ok ((v.bind fun v => v.decodeText.at? rest).getD .null)
  | .error e => return .error e

/-- The value under a name of any other source. -/
def fetchNamed (s : Sources) (ctx : StepContext) (kind : SourceKind) (name : String) :
    Act (Except StoreError Json) := do
  let (root, rest) := cutRoot name
  if rest = "" then s.fetchRoot ctx kind root rest
  else match ← s.catalog.lookup ctx kind name with
    | .ok (some v) => return .ok v.decodeText
    | .ok none => s.fetchRoot ctx kind root rest
    | .error e => return .error e

/-- The value under a name. -/
def fetch (s : Sources) (ctx : StepContext) (kind : SourceKind) (name : String)
    (overlay : Entries) : Act (Except StoreError Json) :=
  match kind with
  | .data => s.fetchData ctx name overlay
  | kind => s.fetchNamed ctx kind name

end Sources

end CaseScript
