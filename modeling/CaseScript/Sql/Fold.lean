import CaseScript.Json.Reader
import CaseScript.Json.Text
import CaseScript.Sql.Shape

/-!
# Sql/Fold — rows folded into one value

One row and one column give a cell, one of the two gives a row or a list of cells, and neither gives
a list of rows. Cells that hold the text of an array or object are read as such.
-/

namespace CaseScript

/-- A row: column names with their cells. -/
abbrev Row := Entries

namespace Sql

/-- What is said of rows that are too many for their statement. -/
def tooManyRows (n : Nat) : String :=
  s!"Invalid Match between rowNumber in SQL (1) and result ({n})"

/-- A row with every cell read. -/
def decodeRow (row : Row) : Row := row.map fun (k, v) => (k, v.decodeText)

/-- The cell of the first column. -/
def firstCell : Row → Json
  | [] => .null
  | (_, v) :: _ => v

/-- Whether a cell is null. -/
def isNullCell : Json → Bool
  | .null => true
  | _ => false

/-- The element that a row stands for. -/
def rowValue (oneColumn : Bool) (row : Row) : Json :=
  if oneColumn then firstCell row else .obj row

/-- The value that rows stand for; the error is the text to report. -/
def foldRows (shape : SqlShape) (rows : List Row) : Except String Json :=
  let oneColumn := shape.columns == some 1
  match rows with
  | [] => .ok .null
  | first :: rest =>
    if shape.singleRow ∧ rest ≠ [] then .error (tooManyRows rows.length)
    else if rows.all fun row => row.all fun (_, v) => isNullCell v then
      .ok (if oneColumn then .null else .arr [])
    else if shape.singleRow then .ok (rowValue oneColumn (decodeRow first))
    else .ok (.arr (rows.map fun row => rowValue oneColumn (decodeRow row)))

end Sql

end CaseScript
