import CaseScript.Url.Path

/-!
# Url/Reader — addresses from their text

`parse` reads an absolute address; `join` reads one relative to a base. White space and control
characters around the text, and tabs and breaks inside it, do not count.
-/

namespace CaseScript.Url

/-! ## Parts of the text -/

/-- The text of an address without what does not count. -/
def cleaned (cs : List Char) : List Char :=
  let cs := cs.dropWhile (· ≤ ' ')
  let cs := (cs.reverse.dropWhile (· ≤ ' ')).reverse
  cs.filter fun c => c ≠ '\t' ∧ c ≠ '\n' ∧ c ≠ '\r'

/-- Whether a character can stand in a scheme. -/
def isSchemeChar (c : Char) : Bool := c.isAlphanum || c = '+' || c = '-' || c = '.'

/-- A scheme in lower case and what follows its colon. -/
def scheme? (cs : List Char) : Option (List Char × List Char) :=
  match cs with
  | c :: _ =>
    if c.isAlpha then
      match cs.dropWhile isSchemeChar with
      | ':' :: rest => some (Text.lowerAscii (cs.takeWhile isSchemeChar), rest)
      | _ => none
    else none
  | [] => none

/-- Whether a character ends a path. -/
def endsPath (c : Char) : Bool := c = '?' || c = '#'

/-- A text cut before its query and fragment. -/
def cutPath (cs : List Char) : List Char × List Char :=
  (cs.takeWhile fun c => !endsPath c, cs.dropWhile fun c => !endsPath c)

/-- The query and the fragment. -/
def queryAndFragment (kind : SchemeKind) (cs : List Char) :
    Option (List Char) × Option (List Char) :=
  let fragmentOf (cs : List Char) : Option (List Char) :=
    match cs with
    | '#' :: f => some (percentEncode escapesInFragment f)
    | _ => none
  match cs with
  | '?' :: rest =>
    let query := rest.takeWhile (· ≠ '#')
    (some (percentEncode (escapesInQuery kind.isSpecial) query),
      fragmentOf (rest.drop query.length))
  | cs => (none, fragmentOf cs)

/-- An address with the query and fragment that a text gives. -/
def withTail (u : Url) (tail : List Char) : Url :=
  let (query, fragment) := queryAndFragment u.kind tail
  { u with query := query, fragment := fragment }

/-! ## Authorities -/

/-- Whether a character ends an authority. -/
def endsAuthority (kind : SchemeKind) (c : Char) : Bool :=
  c = '/' || c = '?' || c = '#' || (kind.isSpecial && c = '\\')

/-- The name and password of a user; the first colon parts them, and an empty password is left
out. -/
def userText (cs : List Char) : List Char :=
  let name := cs.takeWhile (· ≠ ':')
  let password := (cs.drop name.length).drop 1
  let name := percentEncode escapesInUser name
  let password := percentEncode escapesInUser password
  let both := if password = [] then name else name ++ ':' :: password
  if both = [] then [] else both ++ ['@']

/-- An authority cut at its last `@`. -/
def cutUser (cs : List Char) : Option (List Char) × List Char :=
  match Text.cutAt? '@' cs.reverse with
  | some (host, user) => (some user.reverse, host.reverse)
  | none => (none, cs)

/-- A host text and what follows: a colon ends it unless brackets are open. -/
def cutHost : (inBrackets : Bool) → List Char → List Char × List Char
  | _, [] => ([], [])
  | inBrackets, c :: cs =>
    if c = ':' ∧ ¬inBrackets then ([], c :: cs)
    else
      let inBrackets := if c = '[' then true else if c = ']' then false else inBrackets
      let (host, rest) := cutHost inBrackets cs
      (c :: host, rest)

/-- A port other than the one that the scheme implies. -/
def portOf (scheme cs : List Char) : Except Fault (Option Nat) :=
  if ¬cs.all Char.isDigit then .error .port
  else
    let n := ofDecimalDigits cs
    if 65535 < n then .error .port
    else .ok (if cs = [] ∨ some n = defaultPort? scheme then none else some n)

/-- Reads what follows the two slashes: an authority, a path and the rest. Only under schemes
without rules of their own may the host be empty, and then nothing else may be in the authority. A
backslash ends the port under any scheme. -/
def afterSlashes (scheme cs : List Char) : Except Fault Url := do
  let kind := SchemeKind.ofName scheme
  let authority := cs.takeWhile fun c => !endsAuthority kind c
  let after := cs.drop authority.length
  let (user, rest) := cutUser authority
  let user ← match user with
    | none => .ok []
    | some [] => if rest = [] ∧ after ≠ [] then .error Fault.emptyHost else .ok []
    | some user => .ok (userText user)
  let (hostText, rest) := cutHost false rest
  if kind = .special ∧ hostText = [] then throw .emptyHost
  let host ← if kind.isSpecial then hostOf hostText else plainHostOf hostText
  if host = [] ∧ (rest ≠ [] ∨ user ≠ []) then throw .emptyHost
  let portText := (rest.drop 1).takeWhile (· ≠ '\\')
  let port ← portOf scheme portText
  let (path, tail) := cutPath (rest.drop (portText.length + 1) ++ after)
  let path := (routeAfterHost kind path).path
  return withTail ⟨scheme, some ⟨user, host, port⟩, path, false, none, none⟩ tail

/-! ## Files -/

/-- The name of the scheme for files. -/
def fileScheme : List Char := ['f', 'i', 'l', 'e']

/-- The authority of a file without a host. -/
def noHost : Authority := ⟨[], [], none⟩

/-- The address of a file by its host and path. -/
def fileAt (host : List Char) (path tail : List Char) : Url :=
  withTail ⟨fileScheme, some ⟨[], host, none⟩, path, false, none, none⟩ tail

/-- Whether a character is a slash in the address of a file. -/
def isFileSlash (c : Char) : Bool := c = '/' || c = '\\'

/-- Reads the address of a file after its two slashes: a host, unless a drive stands in its place. A
drive at the start of the path drops the host. -/
def fileAfterSlashes (cs : List Char) : Except Fault Url := do
  let hostText := cs.takeWhile fun c => !(isFileSlash c || endsPath c)
  let hostText := if isDrive hostText then [] else hostText
  let (path, tail) := cutPath (cs.drop hostText.length)
  let host ← if hostText = [] then .ok [] else hostOf hostText
  let host := if host = ['l', 'o', 'c', 'a', 'l', 'h', 'o', 's', 't'] then [] else host
  let route := if host = [] then routeOf .file ['/'] path else routeAfterHost .file path
  return fileAt (if route.drive then [] else host) route.path tail

/-- The host of a base for files. -/
def baseHost (base : Option Url) : List Char :=
  match base.bind Url.authority with
  | some a => a.host
  | none => []

/-- Reads the address of a file after its scheme, or relative to that of another file. A path from
the root begins at the drive of the base, if there is one. -/
def fileOf (base : Option Url) (cs : List Char) : Except Fault Url :=
  match cs with
  | c :: rest =>
    if isFileSlash c then
      match rest with
      | d :: rest' => if isFileSlash d then fileAfterSlashes rest' else rooted rest
      | [] => rooted rest
    else relative cs
  | [] => relative []
where
  /-- Reads a path after the slash before it. -/
  rooted (cs : List Char) : Except Fault Url :=
    let (path, tail) := cutPath cs
    let path := '/' :: path
    .ok (match base with
      | none => fileAt [] (extendPath .file [] path) tail
      | some b =>
        if beginsWithDrive cs then fileAt [] (extendPath .file [] path) tail
        else match drive? b.path with
          | some drive => fileAt [] (extendPath .file ('/' :: drive) path) tail
          | none => fileAt (baseHost base) (extendPath .file [] path) tail)
  /-- Reads a path without a slash before it. -/
  relative (cs : List Char) : Except Fault Url :=
    let (path, tail) := cutPath cs
    match base with
    | none => .ok (fileAt [] (extendPath .file ['/'] path) tail)
    | some b =>
      if path = [] then
        match tail with
        | '?' :: _ => .ok (withTail b tail)
        | _ => .ok { withTail b tail with query := b.query }
      else if beginsWithDrive cs then .ok (fileAt [] (extendPath .file ['/'] path) tail)
      else .ok (fileAt (baseHost base) (extendPath .file (popSegment .file b.path) path) tail)

/-! ## Addresses -/

/-- Reads what is relative to a base that is no file. -/
def relativeTo (base : Url) (cs : List Char) : Except Fault Url :=
  match cs with
  | [] => .ok { base with fragment := none }
  | '?' :: _ => .ok (withTail base cs)
  | '#' :: _ => .ok { withTail base cs with query := base.query }
  | '/' :: '/' :: rest => afterSlashes base.scheme rest
  | c :: rest =>
    let isSlash (c : Char) : Bool := c = '/' || c = '\\'
    if isSlash c then
      if rest.head?.any isSlash then afterSlashes base.scheme (rest.dropWhile isSlash)
      else rooted rest
    else appended cs
where
  /-- Reads a path from the root. -/
  rooted (cs : List Char) : Except Fault Url :=
    let (path, tail) := cutPath cs
    .ok (withTail { base with path := extendPath base.kind ['/'] path } tail)
  /-- Reads a path from the level of the base. -/
  appended (cs : List Char) : Except Fault Url :=
    let (path, tail) := cutPath cs
    let level := popSegment base.kind base.path
    let level := if level = [] then ['/'] else level
    .ok (withTail { base with path := extendPath base.kind level path } tail)

/-- Reads what follows a scheme without rules of its own. -/
def afterOtherScheme (scheme cs : List Char) : Except Fault Url :=
  match cs with
  | '/' :: '/' :: rest => afterSlashes scheme rest
  | '/' :: rest =>
    let (path, tail) := cutPath rest
    .ok (withTail ⟨scheme, none, extendPath .other ['/'] path, false, none, none⟩ tail)
  | cs =>
    let (path, tail) := cutPath cs
    .ok (withTail ⟨scheme, none, percentEncode escapesControl path, true, none, none⟩ tail)

/-- Reads what follows a scheme. -/
def afterScheme (base : Option Url) (scheme cs : List Char) : Except Fault Url :=
  match SchemeKind.ofName scheme with
  | .file => fileOf (base.filter fun b => b.scheme = fileScheme) cs
  | .other => afterOtherScheme scheme cs
  | .special =>
    let slash (c : Char) : Bool := c = '/' || c = '\\'
    let slashes := cs.takeWhile slash
    match base.filter fun b => slashes.length < 2 ∧ b.scheme = scheme with
    | some b => relativeTo b cs
    | none => afterSlashes scheme (cs.drop slashes.length)

/-- Reads an address, relative to a base if there is one. -/
def read (base : Option Url) (text : List Char) : Except Fault Url :=
  let cs := cleaned text
  match scheme? cs with
  | some (scheme, rest) => afterScheme base scheme rest
  | none =>
    match base with
    | none => .error .noBase
    | some b =>
      match cs with
      | '#' :: _ => .ok { withTail b cs with query := b.query }
      | cs =>
        if b.rigid then .error .rigidBase
        else if b.kind = .file then fileOf (some b) cs
        else relativeTo b cs

/-- Reads an absolute address. -/
def parse (text : List Char) : Except Fault Url := read none text

/-- Reads an address relative to a base. -/
def join (base : Url) (text : List Char) : Except Fault Url := read (some base) text

end CaseScript.Url
