/-!
# Text/Packed — numbers in few characters

A number is written in digits of five bits, the lowest first. Each of sixty-four characters stands
for a digit; the later half of them says that another digit follows. Long tables are kept in this
form and read by `unpack`.
-/

namespace CaseScript.Text

/-- The rank of one of the sixty-four characters; any other counts as the last one. -/
def packedDigit (c : Char) : Nat :=
  if c.isDigit then c.toNat - 48
  else if c.isUpper then c.toNat - 55
  else if c.isLower then c.toNat - 61
  else if c = '-' then 62
  else 63

/-- The numbers that a text spells, the first of which is under way: `sum` is its value so far and
`unit` the weight of its next digit. -/
def unpackFrom (sum unit : Nat) : List Char → List Nat
  | [] => []
  | c :: cs =>
    let d := packedDigit c
    if d < 32 then (sum + d * unit) :: unpackFrom 0 1 cs
    else unpackFrom (sum + (d - 32) * unit) (32 * unit) cs

/-- The numbers that a text spells, whose lines have no meaning. -/
def unpack (lines : List String) : List Nat := unpackFrom 0 1 (lines.flatMap String.toList)

/-- The integer with a rank in the order `0, -1, 1, -2, 2, …`. -/
def signed (n : Nat) : Int := if n % 2 = 0 then (n / 2 : Nat) else -((n / 2 : Nat) : Int) - 1

end CaseScript.Text
