import CaseScript.Json.Text
import CaseScript.Text.Search
import CaseScript.Url.Domain
import CaseScript.Url.Percent

/-!
# Url/Host — the host of an address

A host is an address of version four, of version six in brackets, or a name, which is written in
basic characters. Under a scheme without rules of its own a host is any text without the characters
that delimit it.
-/

namespace CaseScript.Url

/-- Why an address is none. -/
inductive Fault where
  | emptyHost
  | hostName
  | port
  | ipv4
  | ipv6
  | hostCharacter
  | noBase
  | rigidBase
deriving DecidableEq, Repr

/-- The text of a fault. -/
def Fault.message : Fault → String
  | emptyHost => "empty host"
  | hostName => "invalid international domain name"
  | port => "invalid port number"
  | ipv4 => "invalid IPv4 address"
  | ipv6 => "invalid IPv6 address"
  | hostCharacter => "invalid domain character"
  | noBase => "relative URL without a base"
  | rigidBase => "relative URL with a cannot-be-a-base base"

/-! ## Version four -/

/-- A number in base ten, eight after a zero, or sixteen after `0x`. -/
def ipv4Number? (cs : List Char) : Option Nat :=
  let read (radix : Nat) (cs : List Char) : Option Nat :=
    cs.foldlM (fun n c =>
      match hexDigit? c with
      | some d => if d < radix then some (radix * n + d) else none
      | none => none) 0
  match cs with
  | [] => none
  | '0' :: 'x' :: cs | '0' :: 'X' :: cs => read 16 cs
  | '0' :: c :: cs => read 8 (c :: cs)
  | cs => read 10 cs

/-- Whether a name has to be an address of version four: its last label is a number. -/
def endsInNumber (cs : List Char) : Bool :=
  let last := match (Text.splitOn '.' cs).reverse with
    | [] :: label :: _ => label
    | label :: _ => label
    | [] => []
  (last ≠ [] && last.all Char.isDigit) || (ipv4Number? last).isSome

/-- The number of an address from those of its parts; the last part fills what is left. -/
def ipv4OfParts? (parts : List Nat) : Option Nat :=
  match parts.reverse with
  | [] => none
  | last :: rest =>
    let front := rest.reverse
    if 3 < front.length ∨ front.any (255 < ·) ∨ Nat.pow 256 (4 - front.length) ≤ last then none
    else some (front.foldl (fun n p => 256 * n + p) 0 * Nat.pow 256 (4 - front.length) + last)

/-- An address of version four. -/
def ipv4? (cs : List Char) : Option Nat :=
  let labels := Text.splitOn '.' cs
  let labels := if labels.getLast? = some [] then labels.dropLast else labels
  (labels.mapM ipv4Number?).bind ipv4OfParts?

/-- The text of an address of version four. -/
def ipv4Text (n : Nat) : List Char :=
  List.intercalate ['.'] ([n >>> 24, (n >>> 16) % 256, (n >>> 8) % 256, n % 256].map decimalDigits)

/-! ## Version six -/

/-- Four numbers below 256 without leading zeros, as two pieces. -/
def ipv4Pieces? (cs : List Char) : Option (List Nat) :=
  let label? (l : List Char) : Option Nat :=
    if l = [] ∨ ¬l.all Char.isDigit ∨ (1 < l.length ∧ l.head? = some '0') then none
    else
      let n := ofDecimalDigits l
      if n < 256 then some n else none
  match (Text.splitOn '.' cs).mapM label? with
  | some [a, b, c, d] => some [a * 256 + b, c * 256 + d]
  | _ => none

/-- Reads the pieces of an address. `pieces` are those read so far, the last one first, and `gap` is
how many of them stand before the gap, once there is one. -/
def ipv6Pieces : (fuel : Nat) → (pieces : List Nat) → (gap : Option Nat) → List Char →
    Option (List Nat × Option Nat)
  | 0, _, _, _ => none
  | _ + 1, pieces, gap, [] => some (pieces, gap)
  | fuel + 1, pieces, gap, cs =>
    if pieces.length = 8 then none
    else match cs with
      | ':' :: rest =>
        if gap.isSome then none
        else ipv6Pieces fuel (0 :: pieces) (some (pieces.length + 1)) rest
      | cs =>
        let digits := (cs.take 4).takeWhile fun c => (hexDigit? c).isSome
        let rest := cs.drop digits.length
        let value := digits.foldl (fun n c => 16 * n + (hexDigit? c).getD 0) 0
        match rest with
        | '.' :: _ =>
          if digits = [] ∨ 6 < pieces.length then none
          else (ipv4Pieces? cs).map fun ps => (ps.reverse ++ pieces, gap)
        | ':' :: [] => none
        | ':' :: rest => ipv6Pieces fuel (value :: pieces) gap rest
        | [] => ipv6Pieces fuel (value :: pieces) gap []
        | _ => none

/-- The eight pieces of an address of version six. The gap stands for as many zeros as are
missing, its own piece included. -/
def ipv6? (cs : List Char) : Option (List Nat) := do
  let (pieces, gap, cs) ← match cs with
    | ':' :: ':' :: rest => some ([0], some 1, rest)
    | ':' :: _ => none
    | cs => some ([], none, cs)
  let (pieces, gap) ← ipv6Pieces (cs.length + 1) pieces gap cs
  let pieces := pieces.reverse
  match gap with
  | some g => some (pieces.take g ++ List.replicate (8 - pieces.length) 0 ++ pieces.drop g)
  | none => if pieces.length = 8 then some pieces else none

/-- How many zeros begin a list. -/
def zerosAtStart : List Nat → Nat
  | 0 :: ns => zerosAtStart ns + 1
  | _ => 0

/-- The first of the longest runs of zeros: where it begins and how long it is. -/
def longestZeros (i : Nat) : List Nat → Nat × Nat
  | [] => (0, 0)
  | n :: ns =>
    let here := zerosAtStart (n :: ns)
    let (j, later) := longestZeros (i + 1) ns
    if later ≤ here then (i, here) else (j, later)

/-- Pieces in hexadecimal digits, with colons between them. -/
def ipv6Pieced (ps : List Nat) : List Char :=
  List.intercalate [':'] (ps.map fun p => Nat.toDigits 16 p)

/-- The text of an address of version six; the longest run of zeros is left out if it is more than
one. -/
def ipv6Text (pieces : List Nat) : List Char :=
  let (start, size) := longestZeros 0 pieces
  if size < 2 then ipv6Pieced pieces
  else ipv6Pieced (pieces.take start) ++ [':', ':'] ++ ipv6Pieced (pieces.drop (start + size))

/-! ## Names -/

/-- Characters that delimit a host. -/
def isDelimiter (c : Char) : Bool :=
  ['\x00', '\t', '\n', '\r', ' ', '#', '/', ':', '<', '>', '?', '@', '[', '\\', ']', '^',
    '|'].contains c

/-- An address of version six in brackets. -/
def bracketed (cs : List Char) : Except Fault (List Char) :=
  match cs.reverse with
  | ']' :: inner =>
    match ipv6? inner.reverse with
    | some ps => .ok ('[' :: (ipv6Text ps ++ [']']))
    | none => .error .ipv6
  | _ => .error .ipv6

/-- The host under a scheme with rules of its own. -/
def hostOf (cs : List Char) : Except Fault (List Char) :=
  match cs with
  | '[' :: rest => bracketed rest
  | cs =>
    match (percentDecode? cs).bind asciiDomain? with
    | none => .error .hostName
    | some [] => .error .emptyHost
    | some name =>
      if endsInNumber name then
        match ipv4? name with
        | some n => .ok (ipv4Text n)
        | none => .error .ipv4
      else .ok name

/-- The host under any other scheme. -/
def plainHostOf (cs : List Char) : Except Fault (List Char) :=
  match cs with
  | '[' :: rest => bracketed rest
  | cs =>
    if cs.any isDelimiter then .error .hostCharacter else .ok (percentEncode escapesControl cs)

end CaseScript.Url
