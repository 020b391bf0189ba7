import CaseScript.Json.Path
import CaseScript.Proofs.Text.Search
import CaseScript.Template.Loop

/-!
# Proofs/Template/Marker — markers become placeholders, in their places

A string that is just a marker, with or without a path, becomes a placeholder of the element with
that path (`bindText_marker`).  Binding keeps the shape of a template (`walk?_bindMarkers`), and the
instances of a loop are the template bound to one element after another (`getElem?_instancesFrom`).
-/

namespace CaseScript

namespace Template

/-- What may follow the name in a marker: nothing, or a point and a path without brackets. -/
def IsTail (tail : List Char) : Prop := tail = [] ∨ ∃ p, tail = '.' :: p ∧ ']' ∉ p

/-- The text of a marker. -/
def markerText (name tail : List Char) : List Char := '[' :: '[' :: (name ++ tail ++ [']', ']'])

theorem markerPath?_tail {tail : List Char} (h : IsTail tail) :
    markerPath? (tail ++ [']', ']']) = some tail := by
  obtain rfl | ⟨p, rfl, hp⟩ := h
  · rfl
  · have hinside : ∀ c ∈ p, (decide (c ≠ ']')) = true := fun c hc =>
      decide_eq_true fun hsame => hp (hsame ▸ hc)
    have hdrop : (p ++ [']', ']']).dropWhile (· ≠ ']') = [']', ']'] := by
      rw [List.dropWhile_append_of_pos hinside]
      rfl
    have htake : (p ++ [']', ']']).takeWhile (· ≠ ']') = p := by
      rw [List.takeWhile_append_of_pos hinside]
      exact List.append_nil p
    rw [List.cons_append, markerPath?, hdrop, htake]
    rfl

/-- The names that are tried before `name` do not begin the marker. -/
def FirstFits (names : List (List Char)) (name tail : List Char) : Prop :=
  ∃ before after, names = before ++ name :: after ∧
    ∀ other ∈ before, ¬other <+: name ++ tail ++ [']', ']']

theorem marker?_markerText {names : List (List Char)} {name tail : List Char}
    (hname : FirstFits names name tail) (htail : IsTail tail) :
    marker? names (markerText name tail) = some (tail, name.length + tail.length + 4) := by
  obtain ⟨before, after, rfl, hbefore⟩ := hname
  have hothers : ∀ other ∈ before,
      ((Text.dropFront? other (name ++ tail ++ [']', ']'])).bind markerPath?) = none := by
    intro other hother
    cases hfits : Text.dropFront? other (name ++ tail ++ [']', ']']) with
    | none => rfl
    | some rest => exact absurd ⟨_, (Text.dropFront?_eq_some_iff.mp hfits).symm⟩ (hbefore other hother)
  have hfits : (Text.dropFront? name (name ++ tail ++ [']', ']'])).bind markerPath? =
      some tail := by
    rw [List.append_assoc, Text.dropFront?_append, Option.bind_some, markerPath?_tail htail]
  rw [markerText, marker?, List.findSome?_append, List.findSome?_eq_none_iff.mpr fun other hother =>
    by rw [hothers other hother]; rfl]
  rw [Option.none_or, List.findSome?_cons, hfits]
  rfl

theorem bindTextFrom_skip (names : List (List Char)) (element : List Char) {skip : Nat}
    {cs : List Char} (h : cs.length ≤ skip) : bindTextFrom names element skip cs = [] := by
  induction cs generalizing skip with
  | nil => cases skip <;> rfl
  | cons c cs ih =>
    cases skip with
    | zero => cases h
    | succ skip => exact ih (Nat.le_of_succ_le_succ h)

/-- **A marker becomes the placeholder of its element, with its path.** -/
theorem bindText_marker {names : List (List Char)} {name tail : List Char} (element : List Char)
    (hname : FirstFits names name tail) (htail : IsTail tail) :
    bindText names element (String.ofList (markerText name tail)) =
      String.ofList (['{', '{'] ++ element ++ tail ++ ['}', '}']) := by
  have hmarker := marker?_markerText hname htail
  have hlength : ('[' :: (name ++ tail ++ [']', ']'])).length ≤
      name.length + tail.length + 4 - 1 := by
    simp only [List.length_cons, List.length_append, List.length_nil]
    omega
  rw [markerText] at hmarker ⊢
  rw [bindText, String.toList_ofList, bindTextFrom, hmarker]
  dsimp only
  rw [bindTextFrom_skip names element hlength, List.append_nil]

/-! ## Templates and instances -/

theorem getElem?_bindItems (names : List (List Char)) (element : List Char) (vs : List Json)
    (i : Nat) : (bindItems names element vs)[i]? = vs[i]?.map (bindMarkers names element) := by
  induction vs generalizing i with
  | nil => rfl
  | cons v vs ih =>
    cases i with
    | zero => rfl
    | succ i => exact ih i

theorem get?_bindEntries (names : List (List Char)) (element : List Char) (es : Entries)
    (key : String) :
    Keyed.get? key (bindEntries names element es) =
      (es.get? key).map (bindMarkers names element) := by
  induction es with
  | nil => rfl
  | cons e es ih =>
    obtain ⟨k, v⟩ := e
    rw [bindEntries, Keyed.get?, Keyed.get?, ih]
    split <;> rfl

theorem child?_bindMarkers (names : List (List Char)) (element : List Char) (v : Json)
    (segment : String) :
    (bindMarkers names element v).child? segment =
      (v.child? segment).map (bindMarkers names element) := by
  match v with
  | .obj es => exact get?_bindEntries names element es segment
  | .arr items =>
    change (arrayIndex? segment).bind (fun i => (bindItems names element items)[i]?) =
      ((arrayIndex? segment).bind fun i => items[i]?).map _
    cases arrayIndex? segment with
    | none => rfl
    | some i => exact getElem?_bindItems names element items i
  | .null | .bool _ | .num _ | .str _ => rfl

/-- Binding keeps the shape of a template. -/
theorem walk?_bindMarkers (names : List (List Char)) (element : List Char) (v : Json)
    (path : List String) :
    (bindMarkers names element v).walk? path = (v.walk? path).map (bindMarkers names element) := by
  induction path generalizing v with
  | nil => rfl
  | cons s path ih =>
    rw [Json.walk?, Json.walk?, child?_bindMarkers]
    cases v.child? s with
    | none => rfl
    | some w => exact ih w

theorem length_instancesFrom (names : List (List Char)) (loop : List Char) (body : Json)
    (size i : Nat) : (instancesFrom names loop body size i).length = size := by
  induction size generalizing i with
  | zero => rfl
  | succ size ih => rw [instancesFrom, List.length_cons, ih]

theorem getElem?_instancesFrom (names : List (List Char)) (loop : List Char) (body : Json)
    {size k : Nat} (i : Nat) (h : k < size) :
    (instancesFrom names loop body size i)[k]? =
      some (i + k + 1, bindMarkers names (loop ++ '.' :: decimalDigits (i + k)) body) := by
  induction size generalizing i k with
  | zero => cases h
  | succ size ih =>
    cases k with
    | zero => rfl
    | succ k =>
      rw [instancesFrom, List.getElem?_cons_succ, ih (i + 1) (Nat.lt_of_succ_lt_succ h)]
      rw [show i + 1 + k = i + (k + 1) by omega]

end Template

end CaseScript
