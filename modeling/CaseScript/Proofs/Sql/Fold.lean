import CaseScript.Proofs.Json.Decoded
import CaseScript.Proofs.Text.Keyed
import CaseScript.Sql.Fold
import Mathlib.Data.List.Forall2

/-!
# Proofs/Sql/Fold — rows are folded without loss

What rows are folded into is said by what a row **stands for** (`StandsFor`): itself with its cells
decoded, or the cell of its first column.  Folding fails on too many rows only, drops nothing but rows
without any content, and otherwise has one element for each row, in their order (`foldRows_keeps`).
-/

namespace CaseScript.Sql

open Json (Decoded decoded_decodeText)

/-- What a row stands for: the row with its cells decoded, or, where one column is asked for, the cell of
the column that comes first by name, null if there is none. -/
inductive StandsFor : (oneColumn : Bool) → Row → Json → Prop
  | row {row entries : Row}
    (hcells : List.Forall₂ (fun e e' => e'.1 = e.1 ∧ Decoded e.2 e'.2) row entries) :
    StandsFor false row (.obj entries)
  | cell {row : Row} {column : String} {v w : Json} (hcell : (column, v) ∈ row)
    (hleast : ∀ e ∈ row, column ≤ e.1) (hdecoded : Decoded v w) : StandsFor true row w
  | noCell : StandsFor true [] .null

/-- No row has a cell that is not null. -/
def AllNull (rows : List Row) : Prop := ∀ row ∈ rows, ∀ e ∈ row, e.2 = .null

/-- More rows than the one that is asked for. -/
def TooMany (shape : SqlShape) (rows : List Row) : Prop := shape.singleRow ∧ 1 < rows.length

theorem isNullCell_iff {v : Json} : isNullCell v ↔ v = .null := by
  cases v <;> simp [isNullCell]

theorem all_isNullCell_iff {rows : List Row} :
    (rows.all fun row => row.all fun e => isNullCell e.2) ↔ AllNull rows := by
  simp only [AllNull, List.all_eq_true, isNullCell_iff]

theorem forall₂_decodeRow (row : Row) :
    List.Forall₂ (fun e e' => e'.1 = e.1 ∧ Decoded e.2 e'.2) row (decodeRow row) := by
  induction row with
  | nil => exact .nil
  | cons e row ih => exact .cons ⟨rfl, decoded_decodeText e.2⟩ ih

/-- **A row is folded into what it stands for.** -/
theorem standsFor_rowValue {row : Row} (h : row.Increasing) (oneColumn : Bool) :
    StandsFor oneColumn row (rowValue oneColumn (decodeRow row)) := by
  cases oneColumn with
  | false => exact .row (forall₂_decodeRow row)
  | true =>
    cases row with
    | nil => exact .noCell
    | cons e row =>
      obtain ⟨hfirst, -⟩ := List.pairwise_cons.mp h
      refine .cell List.mem_cons_self (List.forall_mem_cons.mpr ⟨String.le_refl e.1, fun e' he' => ?_⟩)
        (decoded_decodeText e.2)
      exact String.not_lt.mp (String.lt_asymm (hfirst e'.1 (List.mem_map_of_mem he')))

/-! ## How rows are folded -/

variable {shape : SqlShape} {rows : List Row}

theorem foldRows_of_tooMany (h : TooMany shape rows) :
    foldRows shape rows = .error (tooManyRows rows.length) := by
  obtain ⟨hsingle, hlength⟩ := h
  match rows with
  | first :: second :: rest => exact if_pos ⟨hsingle, List.cons_ne_nil _ _⟩

/-- Rows that are not too many are folded as what they stand for, unless all is null. -/
theorem foldRows_of_not_tooMany (hrows : rows ≠ []) (h : ¬TooMany shape rows) :
    foldRows shape rows =
      if rows.all fun row => row.all fun e => isNullCell e.2 then
        .ok (if shape.columns = some 1 then .null else .arr [])
      else if shape.singleRow then
        .ok (rowValue (shape.columns == some 1) (decodeRow (rows.head hrows)))
      else .ok (.arr (rows.map fun row => rowValue (shape.columns == some 1) (decodeRow row))) := by
  match rows with
  | first :: rest =>
    have hnot : ¬(shape.singleRow ∧ rest ≠ []) := fun ⟨hsingle, hrest⟩ =>
      h ⟨hsingle, Nat.succ_lt_succ (List.length_pos_iff.mpr hrest)⟩
    rw [foldRows, if_neg hnot]
    simp only [beq_iff_eq]
    rfl

/-- **Folding fails just on too many rows.** -/
theorem foldRows_eq_error_iff :
    (∃ message, foldRows shape rows = .error message) ↔ TooMany shape rows := by
  refine ⟨fun ⟨message, hfailed⟩ => ?_, fun h => ⟨_, foldRows_of_tooMany h⟩⟩
  by_cases hrows : rows = []
  · subst hrows
    cases hfailed
  · by_contra hnot
    rw [foldRows_of_not_tooMany hrows hnot] at hfailed
    split at hfailed
    · cases hfailed
    · split at hfailed <;> cases hfailed

theorem foldRows_of_allNull (hrows : rows ≠ []) (h : ¬TooMany shape rows) (hnull : AllNull rows) :
    foldRows shape rows = .ok (if shape.columns = some 1 then .null else .arr []) := by
  rw [foldRows_of_not_tooMany hrows h, if_pos (all_isNullCell_iff.mpr hnull)]

theorem ne_nil_of_not_allNull (hnull : ¬AllNull rows) : rows ≠ [] := by
  rintro rfl
  exact hnull nofun

/-- A row that is asked for as the only one. -/
theorem foldRows_single {row : Row} (hsingle : shape.singleRow) (hnull : ¬AllNull [row]) :
    foldRows shape [row] = .ok (rowValue (shape.columns == some 1) (decodeRow row)) := by
  have hnot : ¬TooMany shape [row] := fun h => Nat.lt_irrefl 1 h.2
  rw [foldRows_of_not_tooMany (ne_nil_of_not_allNull hnull) hnot,
    if_neg (mt all_isNullCell_iff.mp hnull), if_pos hsingle]
  rfl

theorem foldRows_many (hmany : ¬shape.singleRow) (hnull : ¬AllNull rows) :
    foldRows shape rows =
      .ok (.arr (rows.map fun row => rowValue (shape.columns == some 1) (decodeRow row))) := by
  have hnot : ¬TooMany shape rows := fun h => hmany h.1
  rw [foldRows_of_not_tooMany (ne_nil_of_not_allNull hnull) hnot,
    if_neg (mt all_isNullCell_iff.mp hnull), if_neg hmany]

/-! ## Statements -/

/-- **Folding loses no row and invents none.**  It fails just on too many rows; no rows are null, and
rows whose cells are all null are null or empty; all others are folded into what they stand for, each
into one element and in their order, or the only row into itself.  Decoding changes texts of arrays and
objects only, and what is in them no further. -/
theorem foldRows_keeps (shape : SqlShape) {rows : List Row}
    (hrows : ∀ row ∈ rows, row.Increasing) :
    ((∃ message, foldRows shape rows = .error message) ↔ TooMany shape rows) ∧
      (rows = [] → foldRows shape rows = .ok .null) ∧
      (rows ≠ [] → ¬TooMany shape rows → AllNull rows →
        foldRows shape rows = .ok (if shape.columns = some 1 then .null else .arr [])) ∧
      (¬AllNull rows → ¬shape.singleRow → ∃ items, foldRows shape rows = .ok (.arr items) ∧
        List.Forall₂ (StandsFor (shape.columns == some 1)) rows items) ∧
      (¬AllNull rows → shape.singleRow → ¬TooMany shape rows → ∃ row v, rows = [row] ∧
        foldRows shape rows = .ok v ∧ StandsFor (shape.columns == some 1) row v) ∧
      ∀ v : Json, v.decodeText ≠ v →
        ∃ s, v = .str s ∧ Json.parse? s = some v.decodeText ∧ v.decodeText.isContainer := by
  refine ⟨foldRows_eq_error_iff, ?_, foldRows_of_allNull,
    fun hnull hmany => ⟨_, foldRows_many hmany hnull, ?_⟩, fun hnull hsingle hnot => ?_,
    fun _ => Json.of_decodeText_ne⟩
  · rintro rfl
    rfl
  · rw [List.forall₂_map_right_iff, List.forall₂_same]
    exact fun row hrow => standsFor_rowValue (hrows row hrow) _
  · have hsome := List.length_pos_iff.mpr (ne_nil_of_not_allNull hnull)
    have hfew : ¬1 < rows.length := fun hlength => hnot ⟨hsingle, hlength⟩
    obtain ⟨row, rfl⟩ := List.length_eq_one_iff.mp (by omega : rows.length = 1)
    exact ⟨row, _, rfl, foldRows_single hsingle hnull,
      standsFor_rowValue (hrows row List.mem_cons_self) _⟩

/-- Two rows, one of them with a document in a cell. -/
def orderRows : List Row := [
  [("id", .num (.whole 1)), ("lines", .str "[\"[2]\"]")],
  [("id", .null), ("lines", .str "[")]]

theorem orderRows_kept :
    (∀ row ∈ orderRows, row.Increasing) ∧ ¬AllNull orderRows ∧
      ∃ items, foldRows ⟨true, false, some 2⟩ orderRows = .ok (.arr items) ∧
        List.Forall₂ (StandsFor false) orderRows items := by
  have hrows : ∀ row ∈ orderRows, row.Increasing :=
    (by decide : ∀ row ∈ orderRows, row.keys.Pairwise (· < ·))
  have hnull : ¬AllNull orderRows := fun h =>
    nomatch h _ List.mem_cons_self _ List.mem_cons_self
  exact ⟨hrows, hnull, (foldRows_keeps _ hrows).2.2.2.1 hnull (by decide)⟩

end CaseScript.Sql
