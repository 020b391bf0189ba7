import CaseScript.Json.Path
import CaseScript.Proofs.Text.Search
import CaseScript.Text.Digits

/-!
# Proofs/Json/Path — dotted paths in sequence

The segments of two paths with a dot between them are those of the one and then of the other, so the
part at the whole is the part at the second within the part at the first (`at?_dot`).  The digits of
a number are a segment of their own, and name that index of an array (`arrayIndex?_decimalDigits`).
-/

namespace CaseScript

theorem pathSegments_dot (a b : List Char) :
    pathSegments (String.ofList (a ++ '.' :: b)) =
      pathSegments (String.ofList a) ++ pathSegments (String.ofList b) := by
  simp only [pathSegments, String.toList_ofList, Text.splitOn_append, List.filter_append,
    List.map_append]

/-- The digits of a number are a single segment, and name that index. -/
theorem pathSegments_decimalDigits (n : Nat) :
    pathSegments (String.ofList (decimalDigits n)) = [String.ofList (decimalDigits n)] := by
  have hdot : '.' ∉ decimalDigits n := fun h =>
    absurd (Nat.isDigit_of_mem_toDigits (by omega) (by omega) h) (by decide)
  have hne : decimalDigits n ≠ [] := Nat.toDigits_ne_nil
  rw [pathSegments, String.toList_ofList, Text.splitOn_eq_singleton hdot]
  simp [hne]

theorem ofDecimalDigits_decimalDigits (n : Nat) : ofDecimalDigits (decimalDigits n) = n :=
  Nat.ofDigitChars_eq_foldl.symm.trans Nat.ofDigitChars_ten_toDigits

theorem arrayIndex?_ofList {cs : List Char} (hne : cs ≠ []) (hdigits : ∀ c ∈ cs, c.isDigit)
    (hlt : ofDecimalDigits cs < Nat.pow 2 64) :
    arrayIndex? (String.ofList cs) = some (ofDecimalDigits cs) := by
  have hplus : ∀ ds, cs ≠ '+' :: ds := by
    rintro ds rfl
    exact absurd (hdigits '+' List.mem_cons_self) (by decide)
  simpa [arrayIndex?, hplus, hne, hlt] using hdigits

theorem arrayIndex?_decimalDigits {n : Nat} (h : n < Nat.pow 2 64) :
    arrayIndex? (String.ofList (decimalDigits n)) = some n := by
  have hdigits : ∀ c ∈ decimalDigits n, c.isDigit := fun c hc =>
    Nat.isDigit_of_mem_toDigits (by omega) (by omega) hc
  have hvalue := ofDecimalDigits_decimalDigits n
  have hne : decimalDigits n ≠ [] := Nat.toDigits_ne_nil
  rw [arrayIndex?_ofList hne hdigits (by rwa [hvalue]), hvalue]

namespace Json

theorem walk?_append (v : Json) (p q : List String) :
    v.walk? (p ++ q) = (v.walk? p).bind fun w => w.walk? q := by
  induction p generalizing v with
  | nil => rfl
  | cons s p ih =>
    rw [List.cons_append, walk?, walk?]
    cases v.child? s with
    | none => rfl
    | some w => exact ih w

/-- **The part at a dotted path is the part at its end within the part at its beginning.** -/
theorem at?_dot (v : Json) (a b : List Char) :
    v.at? (String.ofList (a ++ '.' :: b)) =
      (v.at? (String.ofList a)).bind fun w => w.at? (String.ofList b) := by
  rw [at?, pathSegments_dot, walk?_append]
  rfl

end Json

end CaseScript
