import CaseScript.Proofs.Binary64.Nearest
import CaseScript.Proofs.Check.Opposed
import CaseScript.Proofs.Check.Parts

/-!
# Proofs/Check/Numbers — whole numbers are equal as doubles

Wherever two values have whole numbers of 64 bits, these are compared as the doubles nearest to
them.  So values that are equal everywhere else are equal **just if the two numbers have the same
nearest number of 53 bits** (`validate_words`).  A number below `2^53` is thus told from every
other, and so are numbers more than `2048` apart; but two great numbers that are closer may be taken
for one.
-/

namespace CaseScript

open Binary64 (InWord nearest)

theorem equals_whole_iff {a b : Int} (ha : InWord a) (hb : InWord b) :
    Equals (.num (.whole a)) (.num (.whole b)) ↔ nearest a = nearest b := by
  rw [← scalarEqual_iff_equals rfl]
  exact Binary64.eq_ofInt_iff ha hb

theorem validate_isNotEqual_iff (l r : Json) :
    (validate l r .isNotEqual).passed = true ↔ ¬Equals l r := by
  obtain ⟨hnotBoth, hneither⟩ := opposed_equality l r
  rw [← validate_isEqual_iff]
  refine ⟨fun hunequal hequal => hnotBoth ⟨hequal, hunequal⟩, fun hequal => ?_⟩
  by_contra hunequal
  exact hneither.mp ⟨Bool.eq_false_iff.mpr hequal, Bool.eq_false_iff.mpr hunequal⟩ trivial

/-- **Values with a whole number at the end of a route that are equal everywhere else are equal just
if the numbers are nearest to the same double.**  That is so just of the same number if one of the
two is below `2^53`, and never of numbers more than `2048` apart. -/
theorem validate_words {l r : Json} {route : Route} {a b : Int} (hl : l.Sorted) (hr : r.Sorted)
    (hla : l.part? route = some (.num (.whole a))) (hrb : r.part? route = some (.num (.whole b)))
    (ha : InWord a) (hb : InWord b)
    (helse : (validate (l.put route .null) (r.put route .null) .isEqual).passed = true) :
    let equal := (validate l r .isEqual).passed
    let unequal := (validate l r .isNotEqual).passed
    ((equal = true ↔ nearest a = nearest b) ∧ (unequal = true ↔ nearest a ≠ nearest b)) ∧
    (a.natAbs < 2 ^ 53 ∨ b.natAbs < 2 ^ 53 →
      (equal = true ↔ a = b) ∧ (unequal = true ↔ a ≠ b)) ∧
    (2048 < (a - b).natAbs → equal = false ∧ unequal = true) := by
  intro equal unequal
  have hequals : Equals l r ↔ nearest a = nearest b := by
    rw [equals_iff_part hl hr hla hrb, equals_whole_iff ha hb]
    exact and_iff_left ((validate_isEqual_iff _ _).mp helse)
  have hequal : equal = true ↔ nearest a = nearest b := (validate_isEqual_iff l r).trans hequals
  have hunequal : unequal = true ↔ nearest a ≠ nearest b :=
    (validate_isNotEqual_iff l r).trans (not_congr hequals)
  refine ⟨⟨hequal, hunequal⟩, fun hsmall => ?_, fun hfar => ?_⟩
  · have hsame := Binary64.nearest_eq_iff hsmall
    exact ⟨hequal.trans hsame, hunequal.trans (not_congr hsame)⟩
  · have hne : nearest a ≠ nearest b := fun h =>
      absurd (Binary64.natAbs_sub_le_of_nearest_eq ha hb h) (not_le.mpr hfar)
    exact ⟨Bool.eq_false_iff.mpr fun h => hne (hequal.mp h), hunequal.mpr hne⟩

/-- Two numbers are rounded to `2^64`; elsewhere there are equal numbers and a pattern. -/
theorem greatWords_equal :
    let l : Json := .obj [("ids", .arr [.num (.whole 7), .num (.whole 18446744073709551615)]),
      ("note", .str "hello")]
    let r : Json := .obj [("ids", .arr [.num (.whole 7), .num (.whole 18446744073709550592)]),
      ("note", .str "%ell%")]
    let route : Route := [.key "ids", .index 1]
    (l.Sorted ∧ r.Sorted ∧ l.part? route = some (.num (.whole 18446744073709551615)) ∧
      r.part? route = some (.num (.whole 18446744073709550592)) ∧ InWord 18446744073709551615 ∧
      InWord 18446744073709550592 ∧
      (validate (l.put route .null) (r.put route .null) .isEqual).passed = true) ∧
    ((validate l r .isEqual).passed = true ↔
      nearest 18446744073709551615 = nearest 18446744073709550592) := by
  intro l r route
  have hl : l.Sorted := ⟨by decide, ⟨trivial, trivial, trivial⟩, trivial, trivial⟩
  have hr : r.Sorted := ⟨by decide, ⟨trivial, trivial, trivial⟩, trivial, trivial⟩
  have ha : InWord 18446744073709551615 := by decide
  have hb : InWord 18446744073709550592 := by decide
  have helse : (validate (l.put route .null) (r.put route .null) .isEqual).passed = true := by
    decide +kernel
  exact ⟨⟨hl, hr, rfl, rfl, ha, hb, helse⟩, (validate_words hl hr rfl rfl ha hb helse).1.1⟩

/-- **Two identifiers are taken for one**: they differ in their last place, and are equal as values
and as entries of records. -/
theorem identifiers_confused :
    let a : Json := .num (.whole 9007199254740993)
    let b : Json := .num (.whole 9007199254740992)
    (InWord 9007199254740993 ∧ InWord 9007199254740992 ∧
      (9007199254740993 : Int) ≠ 9007199254740992) ∧
    ((validate a b .isEqual).passed = true ∧ (validate a b .isNotEqual).passed = false) ∧
    (validate (.obj [("id", a)]) (.obj [("id", b)]) .isEqual).passed = true := by
  decide +kernel

end CaseScript
