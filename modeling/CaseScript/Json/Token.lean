import CaseScript.Json.Numeral
import CaseScript.Record.Node

/-!
# Json/Token — document text cut into marks and scalars

One pass over the characters with a small state (`Mode`): between tokens, or inside a number, a word
or a string. A string decodes its escapes on the way; an escaped high surrogate has to be followed
by an escaped low one.
-/

namespace CaseScript

/-- A piece of document text: a bracket, brace, comma or colon, or a scalar. -/
inductive Token where
  | mark (c : Char)
  | value (n : Node)
deriving Repr, Inhabited

namespace Token

/-- What the characters read so far belong to. Collected characters are in reverse. -/
inductive Mode where
  | between
  | number (cs : List Char)
  | word (cs : List Char)
  | string (cs : List Char)
  /-- After a backslash; `high` is a high surrogate that waits for its partner. -/
  | escape (cs : List Char) (high : Option Nat)
  /-- After `\u`, with the digits so far. -/
  | unit (cs : List Char) (high : Option Nat) (digits : List Char)
  /-- After a high surrogate, where a backslash is due. -/
  | partner (cs : List Char) (high : Nat)
deriving Repr, Inhabited

/-- The characters that may stand between tokens. -/
def isGap (c : Char) : Bool := c = ' ' || c = '\t' || c = '\n' || c = '\r'

/-- The scalar that a bare word spells. -/
def word? (cs : List Char) : Option Node :=
  if cs = ['n', 'u', 'l', 'l'] then some .null
  else if cs = ['t', 'r', 'u', 'e'] then some (.bool true)
  else if cs = ['f', 'a', 'l', 's', 'e'] then some (.bool false)
  else none

/-- The token that ends where the state is left: none between tokens, and no token may be cut off
inside a string. -/
def finish? : Mode → Option (List Token)
  | .between => some []
  | .number cs => (Numeral.read? cs.reverse).map fun n => [.value (.num n)]
  | .word cs => (word? cs.reverse).map fun n => [.value n]
  | _ => none

/-- The state after a character that starts a token. -/
def start? (c : Char) : Option (List Token × Mode) :=
  if isGap c then some ([], .between)
  else if c = '[' ∨ c = ']' ∨ c = '{' ∨ c = '}' ∨ c = ',' ∨ c = ':' then some ([.mark c], .between)
  else if c = '"' then some ([], .string [])
  else if c = '-' ∨ c.isDigit then some ([], .number [c])
  else if 'a' ≤ c ∧ c ≤ 'z' then some ([], .word [c])
  else none

/-- The character of an escape of one letter. -/
def escaped? (c : Char) : Option Char :=
  if c = '"' ∨ c = '\\' ∨ c = '/' then some c
  else if c = 'b' then some '\x08'
  else if c = 'f' then some '\x0c'
  else if c = 'n' then some '\n'
  else if c = 'r' then some '\r'
  else if c = 't' then some '\t'
  else none

/-- The state after a complete `\u` escape. -/
def codeUnit? (cs : List Char) (high : Option Nat) (n : Nat) : Option Mode :=
  match high with
  | none =>
    if 0xdc00 ≤ n ∧ n < 0xe000 then none
    else if 0xd800 ≤ n ∧ n < 0xdc00 then some (.partner cs n)
    else some (.string (Char.ofNat n :: cs))
  | some h =>
    if 0xdc00 ≤ n ∧ n < 0xe000 then
      some (.string (Char.ofNat (0x10000 + (h - 0xd800) * 0x400 + (n - 0xdc00)) :: cs))
    else none

/-- The tokens completed by a character and the state after it. -/
def step? (mode : Mode) (c : Char) : Option (List Token × Mode) :=
  match mode with
  | .between => start? c
  | .number cs =>
    if c.isDigit ∨ c = '-' ∨ c = '+' ∨ c = '.' ∨ c = 'e' ∨ c = 'E' then some ([], .number (c :: cs))
    else match finish? mode, start? c with
      | some ts, some (us, next) => some (ts ++ us, next)
      | _, _ => none
  | .word cs =>
    if 'a' ≤ c ∧ c ≤ 'z' then some ([], .word (c :: cs))
    else match finish? mode, start? c with
      | some ts, some (us, next) => some (ts ++ us, next)
      | _, _ => none
  | .string cs =>
    if c = '"' then some ([.value (.str (String.ofList cs.reverse))], .between)
    else if c = '\\' then some ([], .escape cs none)
    else if c.toNat < 0x20 then none
    else some ([], .string (c :: cs))
  | .escape cs high =>
    if c = 'u' then some ([], .unit cs high [])
    else match high, escaped? c with
      | none, some e => some ([], .string (e :: cs))
      | _, _ => none
  | .unit cs high digits =>
    let digits := digits ++ [c]
    if digits.length < 4 then some ([], .unit cs high digits)
    else match Scalar.digitsIn? 16 digits with
      | some n => (codeUnit? cs high n).map fun next => ([], next)
      | none => none
  | .partner cs high => if c = '\\' then some ([], .escape cs (some high)) else none

/-- The tokens of a text that is entered in the given state. -/
def scan? : Mode → List Char → Option (List Token)
  | mode, [] => finish? mode
  | mode, c :: cs =>
    match step? mode c with
    | some (ts, next) => (scan? next cs).map (ts ++ ·)
    | none => none

end Token

end CaseScript
