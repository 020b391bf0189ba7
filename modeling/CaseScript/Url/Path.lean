import CaseScript.Url.Basic

/-!
# Url/Path — segments added to a path

A path is extended segment by segment. A segment of one point stands for where it is, one of two
points for the level above, also with the points encoded. In the path to a file the first segment
can be a drive, which is never left.
-/

namespace CaseScript.Url

/-! ## Drives -/

/-- A letter and a colon or bar. -/
def isDrive : List Char → Bool
  | [a, b] => a.isAlpha && (b = ':' || b = '|')
  | _ => false

/-- A letter and a colon. -/
def isPlainDrive : List Char → Bool
  | [a, b] => a.isAlpha && b = ':'
  | _ => false

/-- Whether a text begins with a drive that ends there. -/
def beginsWithDrive : List Char → Bool
  | [a, b] => isDrive [a, b]
  | a :: b :: c :: _ => isDrive [a, b] && ['/', '\\', '?', '#'].contains c
  | _ => false

/-- The drive that is the first segment of a path. -/
def drive? (path : List Char) : Option (List Char) :=
  let first := (path.drop 1).takeWhile (· ≠ '/')
  if isPlainDrive first then some first else none

/-! ## Levels -/

/-- The path up to its last slash. -/
def upToSlash (path : List Char) : List Char := (path.reverse.dropWhile (· ≠ '/')).reverse

/-- The last segment of a path. -/
def lastSegment (path : List Char) : List Char := (path.reverse.takeWhile (· ≠ '/')).reverse

/-- The path without its last segment; a drive stays. -/
def popSegment (kind : SchemeKind) (path : List Char) : List Char :=
  if kind = .file ∧ isPlainDrive (lastSegment path) then path else upToSlash path

/-- The level above a path that ends with a slash. The root has none, and a drive is not left. -/
def levelAbove (kind : SchemeKind) (path : List Char) : List Char :=
  let front := path.dropLast
  let path :=
    if front.contains '/' && !beginsWithDrive (lastSegment front ++ ['/']) then front else path
  popSegment kind path

/-- The spellings of one point. -/
def isHere (segment : List Char) : Bool :=
  ([".", "%2e", "%2E"].map String.toList).contains segment

/-- The spellings of two points. -/
def isAbove (segment : List Char) : Bool :=
  (["..", "%2e%2e", "%2e%2E", "%2E%2e", "%2E%2E", "%2e.", "%2E.", ".%2e", ".%2E"].map
    String.toList).contains segment

/-! ## Segments -/

/-- A path to which segments are added, and whether one of them was a drive. -/
structure Route where
  path : List Char
  drive : Bool

namespace Route

/-- Adds a segment, encoded already, to a path that ends with a slash; `slash` is whether another
slash follows. -/
def place (kind : SchemeKind) (r : Route) (segment : List Char) (slash : Bool) : Route :=
  let ending := if slash then ['/'] else []
  if isAbove segment then
    let path := levelAbove kind r.path
    { r with path := if slash ∧ ¬['/'].isSuffixOf path then path ++ ['/'] else path }
  else if isHere segment then
    { r with path := if ['/'].isSuffixOf r.path then r.path else r.path ++ ['/'] }
  else if kind = .file ∧ r.path.length = 1 ∧ isDrive segment then
    ⟨r.path ++ segment.take 1 ++ ':' :: ending, true⟩
  else { r with path := r.path ++ segment ++ ending }

/-- Adds a segment. In the path to a file, a slash comes between a drive and what is added. -/
def add (kind : SchemeKind) (r : Route) (segment : List Char) (slash : Bool) : Route :=
  let parted : Bool := kind = .file && segment ≠ [] && isPlainDrive (r.path.drop 1)
  let path := if parted then r.path ++ ['/'] else r.path
  { r with path := path }.place kind (percentEncode escapesInPath segment) slash

/-- Adds segments, with a slash between each two. -/
def addAll (kind : SchemeKind) (r : Route) : List (List Char) → Route
  | [] => r
  | [s] => r.add kind s false
  | s :: t :: ss => (r.add kind s true).addAll kind (t :: ss)

end Route

/-- A text cut at its slashes; where the scheme has rules of its own a backslash is a slash. -/
def segments (kind : SchemeKind) (cs : List Char) : List (List Char) :=
  Text.splitOn '/' (if kind.isSpecial then cs.map fun c => if c = '\\' then '/' else c else cs)

/-- A path extended by a text. A path to a file begins with a single slash. -/
def routeOf (kind : SchemeKind) (path cs : List Char) : Route :=
  let r := Route.addAll kind ⟨path, false⟩ (segments kind cs)
  if kind = .file then { r with path := '/' :: r.path.dropWhile (· = '/') } else r

/-- A path extended by a text. -/
def extendPath (kind : SchemeKind) (path cs : List Char) : List Char := (routeOf kind path cs).path

/-- The path that follows a host, up to its end. -/
def routeAfterHost (kind : SchemeKind) (cs : List Char) : Route :=
  match cs with
  | '/' :: rest => routeOf kind ['/'] rest
  | '\\' :: rest => if kind.isSpecial then routeOf kind ['/'] rest else routeOf kind ['/'] cs
  | [] => ⟨if kind.isSpecial then ['/'] else [], false⟩
  | cs => routeOf kind ['/'] cs

/-- The address with a path that ends with a slash. A rigid path just gets one, which is encoded
where it would stand at the start; any other path is read again. -/
def asFolder (u : Url) : Url :=
  if ['/'].isSuffixOf u.path then u
  else if u.rigid then
    { u with path := if u.path = [] then ['%', '2', 'F'] else u.path ++ ['/'] }
  else { u with path := (routeAfterHost u.kind (u.path ++ ['/'])).path }

end CaseScript.Url
