import CaseScript.Proofs.Sql.Even

/-!
# Proofs/Sql/Shape — the shape of a statement and the contents of its parts

A part of a statement is a literal or an expression in parentheses.  Whatever it contains, the
statement selects or not as before and has the columns it had, and it asks for one row if something
outside of the part does or the part itself does (`ofSql_part`).  What the part contains is read in
three ways nevertheless (`ofSql_readsContent`): comments are dropped before literals are known,
phrases that ask for one row count inside of parts, and a row count ends at the first blank, be it in
parentheses.
-/

namespace CaseScript.Sql

open Unicode (plain)

/-- Whether even text is that of a statement that selects. -/
def selects (text : List Char) : Bool :=
  "select".toList.isPrefixOf text || "with".toList.isPrefixOf text

/-- The shape that is read off even text. -/
def shapeOf (text : List Char) : SqlShape where
  isSelect := selects text
  singleRow := selects text && asksOneRow false text
  columns := if selects text then (selectList? text).bind countColumns? else none

theorem singleRow_shapeOf (text : List Char) :
    (shapeOf text).singleRow = (selects text && asksOneRow false text) := rfl

theorem ofSql_eq (sql : String) : SqlShape.ofSql sql = shapeOf (evenly (uncommented sql)) := rfl

theorem selects_map_plain (text : List Char) : selects (text.map plain) = selects text := by
  rw [selects, selects, Text.isPrefixOf_map_plain (by decide), Text.isPrefixOf_map_plain (by decide)]

/-- The shape does not depend on the form of sigmas. -/
theorem shapeOf_map_plain (text : List Char) : shapeOf (text.map plain) = shapeOf text := by
  have hcolumns : (selectList? (text.map plain)).bind countColumns? =
      (selectList? text).bind countColumns? := by
    rw [selectList?_map_plain, Option.bind_map]
    exact congrArg (selectList? text).bind (funext countColumns?_map_plain)
  rw [shapeOf, selects_map_plain, asksOneRow_map_plain, hcolumns, shapeOf]

/-- The shape of even text around a part. -/
theorem shapeOf_part {x : List Char} (hx : Leads x) (z : List Char) :
    ∃ columns, ∀ w, IsPart w →
      shapeOf (x ++ (w ++ z)) =
        ⟨selects x, selects x && (asksOneRow false x || (asksOneRow false w || asksOneRow false z)),
          columns⟩ := by
  obtain ⟨columns, hcolumns⟩ := columns_part hx z
  refine ⟨if selects x then columns else none, fun w hw => ?_⟩
  have hselects : selects (x ++ (w ++ z)) = selects x := by
    rw [selects, isPrefixOf_part (by decide) hw, isPrefixOf_part (by decide) hw, selects]
  rw [shapeOf, hselects, asksOneRow_part hw, hcolumns w hw]

/-! ## Statements -/

/-- **What a statement is expected to return does not depend on the content of a literal or of
parentheses**, but for this: it asks for one row also if the content does.  The part stands outside
of other literals, and behind the row count of its list. -/
theorem ofSql_part {pre : List Char} (hpre : Leads (evenFront pre)) (post : List Char) :
    ∃ columns, ∀ sql w, Closed w → uncommented sql = pre ++ (w ++ post) →
      SqlShape.ofSql sql =
        ⟨selects (evenFront pre),
          selects (evenFront pre) && (asksOneRow false (evenFront pre) ||
            (asksOneRow false (evenly w) || asksOneRow false (evenBack post))),
          columns⟩ := by
  obtain ⟨columns, hshape⟩ := shapeOf_part hpre.map_plain ((evenBack post).map plain)
  refine ⟨columns, fun sql w hw hsql => ?_⟩
  rw [ofSql_eq, hsql, ← shapeOf_map_plain, map_plain_evenly_part hw.isPart,
    hshape _ (isPart_evenly hw.isPart).2]
  simp only [selects_map_plain, asksOneRow_map_plain]

theorem ofSql_arguments :
    Leads (evenFront "select f".toList) ∧
      (SqlShape.ofSql "select f(a, b), c from t").columns =
        (SqlShape.ofSql "select f(a), c from t").columns := by
  have hpre : Leads (evenFront "select f".toList) := by
    have heven : evenFront "select f".toList = "select f".toList := by decide +kernel
    rw [heven]
    exact ⟨by decide, by decide +kernel⟩
  obtain ⟨columns, hshape⟩ := ofSql_part hpre ", c from t".toList
  refine ⟨hpre, ?_⟩
  rw [hshape _ _ (.parenthesised "a, b".toList (by decide)) (by decide +kernel),
    hshape _ _ (.parenthesised "a".toList (by decide)) (by decide +kernel)]

/-- Contents are read: a phrase in a literal, a comment in a literal and a blank in parentheses. -/
theorem ofSql_readsContent :
    (SqlShape.ofSql "select a from t where b = 'limit 1'").singleRow = true ∧
      (SqlShape.ofSql "select a from t where b = 'x'").singleRow = false ∧
      (SqlShape.ofSql "select '--', a from t").columns = some 1 ∧
      (SqlShape.ofSql "select 'x', a from t").columns = some 2 ∧
      (SqlShape.ofSql "select top (f(1, 2, 3)) a from t").columns = some 2 ∧
      (SqlShape.ofSql "select top (f(1, 2)) a from t").columns = some 1 := by
  refine ⟨?_, ?_, by decide +kernel, by decide +kernel, by decide +kernel, by decide +kernel⟩
  · have htext : evenly (uncommented "select a from t where b = 'limit 1'") =
        "select a from t where b = ".toList ++ '\'' :: ("limit 1".toList ++ ['\'']) := by
      decide +kernel
    have hquote : '\'' ∈ marks := by decide
    have hlimit : asksOneRow false "limit 1".toList = true := by decide +kernel
    rw [ofSql_eq, htext, singleRow_shapeOf, asksOneRow_append_cons hquote,
      asksOneRow_append_cons hquote, hlimit, Bool.true_or, Bool.or_true, Bool.and_true]
    decide +kernel
  · have htext : evenly (uncommented "select a from t where b = 'x'") =
        "select a from t where b = 'x'".toList := by
      decide +kernel
    rw [ofSql_eq, htext, singleRow_shapeOf, asksOneRow_eq_false (by decide +kernel),
      Bool.and_false]

end CaseScript.Sql
