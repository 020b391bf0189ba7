import CaseScript.Text.Digits
import CaseScript.Url.Host

/-!
# Url/Basic — absolute addresses

An address has a scheme, perhaps an authority, a path, and perhaps a query and a fragment. Some
schemes have rules of their own: their addresses have a host and a path that begins with a slash. A
path that does not begin with a slash and has no authority before it is rigid, since nothing can be
resolved against it.
-/

namespace CaseScript

/-- What goes for the addresses of a scheme. -/
inductive SchemeKind where
  /-- Schemes with rules of their own, all but the one for files. -/
  | special
  | file
  | other
deriving DecidableEq, Repr

namespace SchemeKind

/-- The kind of a scheme. -/
def ofName (scheme : List Char) : SchemeKind :=
  match String.ofList scheme with
  | "http" | "https" | "ws" | "wss" | "ftp" => special
  | "file" => file
  | _ => other

/-- Whether the scheme has rules of its own. -/
def isSpecial : SchemeKind → Bool
  | other => false
  | _ => true

end SchemeKind

/-- The port that a scheme implies. -/
def defaultPort? (scheme : List Char) : Option Nat :=
  match String.ofList scheme with
  | "http" | "ws" => some 80
  | "https" | "wss" => some 443
  | "ftp" => some 21
  | _ => none

/-- Who answers at an address. -/
structure Authority where
  /-- The name and password of a user with the sign that ends them, or nothing. -/
  user : List Char
  host : List Char
  port : Option Nat
deriving DecidableEq, Repr

/-- An absolute address. -/
structure Url where
  scheme : List Char
  authority : Option Authority
  path : List Char
  /-- Whether nothing can be resolved against the path. -/
  rigid : Bool
  query : Option (List Char)
  fragment : Option (List Char)
deriving DecidableEq, Repr

/-- The text of an authority. -/
def Authority.text (a : Authority) : List Char :=
  a.user ++ a.host ++ (match a.port with
    | some p => ':' :: decimalDigits p
    | none => [])

namespace Url

/-- The kind of the scheme. -/
def kind (u : Url) : SchemeKind := .ofName u.scheme

/-- The text of an address. Without an authority a path that begins with two slashes is set apart by
a point. -/
def text (u : Url) : List Char :=
  let front := match u.authority with
    | some a => '/' :: '/' :: a.text
    | none => if ['/', '/'].isPrefixOf u.path then ['/', '.'] else []
  let query := match u.query with
    | some q => '?' :: q
    | none => []
  let fragment := match u.fragment with
    | some f => '#' :: f
    | none => []
  u.scheme ++ ':' :: (front ++ u.path ++ query ++ fragment)

end Url

end CaseScript
