import CaseScript.Proofs.Check.Reasons
import CaseScript.Proofs.Json.Within

/-!
# Proofs/Check/Membership — membership in an array

Membership in an array is decided as containment, with the operands exchanged.  So **an element is
what is compared, and the key is what it is compared with** (`isIn_iff_exchanged`): a percent sign
in the key is read as a pattern, one in an element is not, and an element that is an object or an
array equals the text that spells it.  Where no text has a percent sign at an end and no element is
spelled out by the key, the sides do not matter (`Equals.symm`), and the key is in the array just if
it equals an element.
-/

namespace CaseScript

/-! ## Equality part by part -/

/-- The second value is what the first is expected to be, part by part. -/
inductive Equals : Json → Json → Prop
  | ignored {l r : Json} : (l.isIgnored || r.isIgnored) = true → Equals l r
  | scalars {l r : Json} : (l.isContainer || r.isContainer) = false → scalarEqual l r = true →
      Equals l r
  | arrays {vs ws : List Json} : vs.length = ws.length →
      (∀ (i : Nat) (v w : Json), vs[i]? = some v → ws[i]? = some w → Equals v w) →
      Equals (.arr vs) (.arr ws)
  | objects {es fs : Entries} : (∀ k, k ∈ es.keys ↔ k ∈ fs.keys) →
      (∀ e ∈ es, ∀ w, fs.get? e.1 = some w → Equals e.2 w) → Equals (.obj es) (.obj fs)

theorem equals_arr_iff {vs ws : List Json} : Equals (.arr vs) (.arr ws) ↔ vs.length = ws.length ∧
    ∀ (i : Nat) (v w : Json), vs[i]? = some v → ws[i]? = some w → Equals v w := by
  refine ⟨fun h => ?_, fun ⟨hlength, hitems⟩ => .arrays hlength hitems⟩
  cases h with
  | ignored hi => exact Bool.noConfusion hi
  | scalars hs => exact Bool.noConfusion hs
  | arrays hlength hitems => exact ⟨hlength, hitems⟩

theorem equals_obj_iff {es fs : Entries} : Equals (.obj es) (.obj fs) ↔
    (∀ e ∈ es, ∃ w, fs.get? e.1 = some w ∧ Equals e.2 w) ∧ ∀ k ∈ fs.keys, k ∈ es.keys := by
  constructor
  · intro h
    cases h with
    | ignored hi => exact Bool.noConfusion hi
    | scalars hs => exact Bool.noConfusion hs
    | objects hkeys hentries =>
      refine ⟨fun e he => ?_, fun k => (hkeys k).mpr⟩
      obtain ⟨w, hw⟩ := Keyed.exists_get? ((hkeys e.1).mp (List.mem_map_of_mem he))
      exact ⟨w, hw, hentries e he w hw⟩
  · rintro ⟨hentries, hkeys⟩
    refine .objects (fun k => ⟨fun hk => ?_, hkeys k⟩) fun e he w hw => ?_
    · obtain ⟨e, he, rfl⟩ := List.mem_map.mp hk
      obtain ⟨w, hw, -⟩ := hentries e he
      exact List.mem_map.mpr ⟨_, Keyed.mem_of_get? hw, rfl⟩
    · obtain ⟨w', hw', hequals⟩ := hentries e he
      exact Option.some.inj (hw'.symm.trans hw) ▸ hequals

theorem keys_subset_iff {es fs : Entries} :
    (fs.keys.find? fun k => !Keyed.hasKey es k) = none ↔ ∀ k ∈ fs.keys, k ∈ es.keys := by
  rw [List.find?_eq_none]
  refine forall_congr' fun k => forall_congr' fun _ => ?_
  rw [Bool.not_eq_true', Bool.not_eq_false, Keyed.hasKey, Option.isSome_iff_ne_none, ne_eq,
    Keyed.get?_eq_none_iff, Classical.not_not]

theorem equals_of_not_sameContainer {l r : Json} (h : ¬SameContainer l r) (place : Place) :
    differences place l r = [] ↔ Equals l r := by
  by_cases hignored : (l.isIgnored || r.isIgnored) = true
  · exact iff_of_true (differences_of_isIgnored hignored place) (.ignored hignored)
  rw [differences_of_not_sameContainer h hignored]
  by_cases hcontainer : (l.isContainer || r.isContainer) = true
  · rw [if_pos hcontainer]
    refine iff_of_false (List.cons_ne_nil _ _) fun hequals => ?_
    cases hequals with
    | ignored hi => exact hignored hi
    | scalars hs => exact Bool.false_ne_true (hs.symm.trans hcontainer)
    | arrays => exact h (.inr ⟨_, _, rfl, rfl⟩)
    | objects => exact h (.inl ⟨_, _, rfl, rfl⟩)
  · rw [if_neg hcontainer]
    by_cases hequal : scalarEqual l r = true
    · rw [if_pos hequal]
      exact iff_of_true rfl (.scalars (Bool.eq_false_iff.mpr hcontainer) hequal)
    · rw [if_neg hequal]
      refine iff_of_false (List.cons_ne_nil _ _) fun hequals => ?_
      cases hequals with
      | ignored hi => exact hignored hi
      | scalars _ hs => exact hequal hs
      | arrays => exact hcontainer rfl
      | objects => exact hcontainer rfl

mutual

/-- **There is no difference just between values that are alike**, by induction on the left one. -/
theorem differences_eq_nil_iff : ∀ (l r : Json) (place : Place),
    differences place l r = [] ↔ Equals l r
  | .obj es, r => fun place => by
    by_cases hr : ∃ fs, r = .obj fs
    · obtain ⟨fs, rfl⟩ := hr
      have hentries := entryDifferences_eq_nil_iff es fs place
      rw [differences.eq_def]
      simp only [Json.isIgnored, Bool.or_self, Bool.false_eq_true, if_false]
      rw [equals_obj_iff, ← hentries]
      cases hds : entryDifferences place es fs with
      | nil =>
        dsimp only
        rw [← keys_subset_iff]
        cases (Keyed.keys fs).find? fun k => !Keyed.hasKey es k <;> simp
      | cons d ds => exact iff_of_false (List.cons_ne_nil d ds) fun h => List.cons_ne_nil d ds h.1
    · exact equals_of_not_sameContainer (by simpa [SameContainer] using hr) place
  | .arr vs, r => fun place => by
    by_cases hr : ∃ ws, r = .arr ws
    · obtain ⟨ws, rfl⟩ := hr
      rw [differences.eq_def]
      simp only [Json.isIgnored, Bool.or_self, Bool.false_eq_true, if_false]
      rw [equals_arr_iff, ← itemDifferences_eq_nil_iff vs ws place 0]
      by_cases hlength : vs.length = ws.length <;> simp [hlength]
    · exact equals_of_not_sameContainer (by simpa [SameContainer] using hr) place
  | .null, _ | .bool _, _ | .num _, _ | .str _, _ =>
    equals_of_not_sameContainer (by simp [SameContainer])

/-- The same for the last entries of an object. -/
theorem entryDifferences_eq_nil_iff : ∀ (es : List (String × Json)) (fs : Entries) (place : Place),
    entryDifferences place es fs = [] ↔ ∀ e ∈ es, ∃ w, fs.get? e.1 = some w ∧ Equals e.2 w
  | [], _, _ => iff_of_true rfl nofun
  | (k, v) :: es, fs, place => by
    rw [entryDifferences, List.forall_mem_cons, ← entryDifferences_eq_nil_iff es fs place]
    cases hk : fs.get? k with
    | none => exact iff_of_false (List.cons_ne_nil _ _) fun ⟨⟨_, hw, _⟩, _⟩ => nomatch hw
    | some w =>
      have hvalue := differences_eq_nil_iff v w (place.entry k)
      dsimp only
      cases hds : differences (place.entry k) v w with
      | nil =>
        exact ⟨fun hrest => ⟨⟨w, rfl, hvalue.mp hds⟩, hrest⟩, And.right⟩
      | cons d ds =>
        refine iff_of_false (List.cons_ne_nil _ _) fun ⟨⟨w', hw', hequals⟩, _⟩ => ?_
        obtain rfl := Option.some.inj hw'
        exact List.cons_ne_nil d ds (hds.symm.trans (hvalue.mpr hequals))

/-- The same for the items of two arrays. -/
theorem itemDifferences_eq_nil_iff : ∀ (vs ws : List Json) (place : Place) (i : Nat),
    itemDifferences place i vs ws = [] ↔
      ∀ (j : Nat) (v w : Json), vs[j]? = some v → ws[j]? = some w → Equals v w
  | [], _, _, _ => by
    rw [itemDifferences.eq_def]
    exact iff_of_true rfl nofun
  | _ :: _, [], _, _ => by
    rw [itemDifferences.eq_def]
    exact iff_of_true rfl nofun
  | v :: vs, w :: ws, place, i => by
    have hvalue := differences_eq_nil_iff v w (place.item i)
    have hrest := itemDifferences_eq_nil_iff vs ws place (i + 1)
    rw [itemDifferences]
    cases hds : differences (place.item i) v w with
    | nil =>
      refine hrest.trans ⟨fun h j => ?_, fun h j => h (j + 1)⟩
      cases j with
      | zero =>
        rintro _ _ ⟨⟩ ⟨⟩
        exact hvalue.mp hds
      | succ j => exact h j
    | cons d ds =>
      exact iff_of_false (List.cons_ne_nil _ _) fun h =>
        List.cons_ne_nil d ds (hds.symm.trans (hvalue.mpr (h 0 v w rfl rfl)))

end

/-! ## Texts that are no patterns -/

/-- The text neither begins nor ends with a percent sign. -/
def IsLiteral (cs : List Char) : Prop := cs.head? ≠ some '%' ∧ cs.getLast? ≠ some '%'

instance (cs : List Char) : Decidable (IsLiteral cs) :=
  inferInstanceAs (Decidable (cs.head? ≠ some '%' ∧ cs.getLast? ≠ some '%'))

theorem matchesWildcard_literal {actual expected : List Char} (h : IsLiteral expected) :
    matchesWildcard actual expected = decide (actual = expected) := by
  obtain ⟨hhead, hlast⟩ := h
  unfold matchesWildcard
  dsimp only
  split
  · exact absurd rfl hhead
  · split
    · rename_i hback
      rw [List.getLast?_eq_head?_reverse, hback] at hlast
      exact absurd rfl hlast
    · rfl

namespace Json

/-- No string in the value is a pattern. -/
def Literal (v : Json) : Prop := ∀ s ∈ v.strings, IsLiteral s.toList

instance (v : Json) : Decidable v.Literal :=
  inferInstanceAs (Decidable (∀ s ∈ v.strings, IsLiteral s.toList))

theorem Literal.item {vs : List Json} (h : (Json.arr vs).Literal) {v : Json} (hv : v ∈ vs) :
    v.Literal := fun s hs => h s (mem_stringsOfItems.mpr ⟨v, hv, hs⟩)

theorem Literal.entry {es : Entries} (h : (Json.obj es).Literal) {e : String × Json} (he : e ∈ es) :
    e.2.Literal := fun s hs => h s (mem_stringsOfEntries.mpr ⟨e, he, hs⟩)

end Json

theorem Binary64.eq_comm (a b : Binary64) : a.eq b = b.eq a := by
  unfold eq
  cases a.rank <;> cases b.rank <;> simp [Bool.beq_comm]

/-- The sides do not matter where there are no patterns. -/
theorem scalarEqual_comm {l r : Json} (hl : l.Literal) (hr : r.Literal) :
    scalarEqual l r = scalarEqual r l := by
  unfold scalarEqual
  rw [Bool.or_comm r.isIgnored]
  split
  · rfl
  · cases l <;> cases r
    case str.str s t _ =>
      dsimp only
      rw [matchesWildcard_literal (hr t (List.mem_singleton_self t)),
        matchesWildcard_literal (hl s (List.mem_singleton_self s))]
      exact decide_eq_decide.mpr eq_comm
    case num.num => exact Binary64.eq_comm _ _
    case null.null => rfl
    all_goals exact BEq.comm

/-- **The sides do not matter where there are no patterns**, by induction on what is alike. -/
theorem Equals.symm {l r : Json} (h : Equals l r) (hl : l.Sorted ∧ l.Literal)
    (hr : r.Sorted ∧ r.Literal) : Equals r l := by
  induction h with
  | ignored h => exact .ignored (Bool.or_comm _ _ ▸ h)
  | scalars hscalar h =>
    exact .scalars (Bool.or_comm _ _ ▸ hscalar) (scalarEqual_comm hl.2 hr.2 ▸ h)
  | arrays hlength _ ih =>
    refine .arrays hlength.symm fun i w v hw hv => ?_
    have hv' := List.mem_of_getElem? hv
    have hw' := List.mem_of_getElem? hw
    exact ih i v w hv hw ⟨Json.allSorted_iff.mp hl.1 v hv', hl.2.item hv'⟩
      ⟨Json.allSorted_iff.mp hr.1 w hw', hr.2.item hw'⟩
  | objects hkeys _ ih =>
    refine .objects (fun k => (hkeys k).symm) fun e he v hv => ?_
    have hv' := Keyed.mem_of_get? hv
    have hw := Keyed.get?_of_mem (hr.1.1.imp String.ne_of_lt) he
    exact ih _ hv' e.2 hw ⟨Json.entriesSorted_iff.mp hl.1.2 _ hv', hl.2.entry hv'⟩
      ⟨Json.entriesSorted_iff.mp hr.1.2 e he, hr.2.entry he⟩

/-! ## Equality and membership -/

theorem scalarEqual_iff_equals {l r : Json} (hscalar : (l.isContainer || r.isContainer) = false) :
    scalarEqual l r = true ↔ Equals l r := by
  refine ⟨.scalars hscalar, fun h => ?_⟩
  cases h with
  | ignored hi => exact scalarEqual_of_isIgnored hi
  | scalars _ h => exact h
  | arrays => cases hscalar
  | objects => cases hscalar

theorem sameStructure_iff_equals {l r : Json} : sameStructure l r = true ↔ Equals l r := by
  rw [sameStructure, List.isEmpty_iff, differences_eq_nil_iff]

/-- **An assertion of equality holds just of values that are alike.** -/
theorem validate_isEqual_iff (l r : Json) : (validate l r .isEqual).passed = true ↔ Equals l r := by
  unfold validate normalize
  dsimp only
  by_cases hstructured : (l.isContainer || r.isContainer) = true
  · simp only [hstructured, if_true]
    rw [evaluate, byStructure, Verdict.passed_ofBool, beq_true]
    exact sameStructure_iff_equals
  · have hscalar := Bool.eq_false_iff.mpr hstructured
    simp only [hscalar, Bool.false_eq_true, if_false]
    rw [evaluate, Verdict.passed_ofBool]
    exact scalarEqual_iff_equals hscalar

/-- The element is an object or an array, and the key is the text of it. -/
def SpelledBy (element key : Json) : Prop :=
  element.isContainer = true ∧ key.isContainer = false ∧ element.plain = key.plain

instance (element key : Json) : Decidable (SpelledBy element key) :=
  inferInstanceAs (Decidable (_ ∧ _ ∧ _))

/-- An element and a key that is not made up of parts. -/
theorem scalarEqual_element {e key : Json} (hkey : key.isContainer = false) :
    scalarEqual e key = true ↔ Equals e key ∨ SpelledBy e key := by
  by_cases he : e.isContainer = true
  · by_cases hignored : (e.isIgnored || key.isIgnored) = true
    · exact iff_of_true (scalarEqual_of_isIgnored hignored) (.inl (.ignored hignored))
    have hcompared : scalarEqual e key = (e.plain == key.plain) := by
      rw [scalarEqual.eq_def, if_neg hignored]
      cases e with
      | arr | obj => rfl
      | null | bool | num | str => cases he
    rw [hcompared, beq_iff_eq]
    refine ⟨fun h => .inr ⟨he, hkey, h⟩, fun h => ?_⟩
    obtain hequals | ⟨-, -, h⟩ := h
    · cases hequals with
      | ignored hi => exact absurd hi hignored
      | scalars hs => exact absurd he (by simp_all)
      | arrays => cases hkey
      | objects => cases hkey
    · exact h
  · have hscalar : (e.isContainer || key.isContainer) = false := by simp [he, hkey]
    rw [scalarEqual_iff_equals hscalar]
    exact ⟨.inl, fun h => h.resolve_right fun hspelled => he hspelled.1⟩

/-- An array contains what is no array just if an element equals it or is spelled by it. -/
theorem containsValue?_arr {key : Json} (hkey : ∀ vs, key ≠ .arr vs) (items : List Json) :
    ∃ found, containsValue? (.arr items) key = some found ∧
      (found = true ↔ ∃ e ∈ items, Equals e key ∨ SpelledBy e key) := by
  cases key with
  | arr vs => exact absurd rfl (hkey vs)
  | obj es =>
    refine ⟨_, rfl, List.any_eq_true.trans (exists_congr fun e => and_congr_right fun _ => ?_)⟩
    rw [sameStructure_iff_equals]
    exact ⟨.inl, fun h => h.resolve_right fun hspelled => Bool.noConfusion hspelled.2.1⟩
  | null | bool b | num n | str s =>
    exact ⟨_, rfl, List.any_eq_true.trans (exists_congr fun e => and_congr_right fun _ =>
      scalarEqual_element rfl)⟩

/-- **The key is in the array if an element equals the key**, or is an object or an array that the
key spells out; else it is not in the array.  Where there are no patterns, and nothing is spelled
out, the key is in the array just if the key equals an element. -/
theorem isIn_iff_exchanged {key : Json} (hkey : ∀ vs, key ≠ .arr vs) (items : List Json) :
    ((validate key (.arr items) .isIn).passed = true ↔
      ∃ e ∈ items, (validate e key .isEqual).passed = true ∨ SpelledBy e key) ∧
    ((validate key (.arr items) .isNotIn).passed = true ↔
      ¬∃ e ∈ items, (validate e key .isEqual).passed = true ∨ SpelledBy e key) ∧
    (key.Sorted → key.Literal →
      (∀ e ∈ items, e.Sorted ∧ e.Literal ∧ ¬SpelledBy e key) →
      ((validate key (.arr items) .isIn).passed = true ↔
        ∃ e ∈ items, (validate key e .isEqual).passed = true) ∧
      ((validate key (.arr items) .isNotIn).passed = true ↔
        ¬∃ e ∈ items, (validate key e .isEqual).passed = true)) := by
  obtain ⟨found, hfound, hiff⟩ := containsValue?_arr hkey items
  simp only [validate_isEqual_iff]
  have hisIn : (validate key (.arr items) .isIn).passed = found := by
    rw [validate, normalize]
    dsimp only
    rw [evaluate, byContainment, hfound]
    simp
  have hisNotIn : (validate key (.arr items) .isNotIn).passed = !found := by
    rw [validate, normalize]
    dsimp only
    rw [evaluate, byContainment, hfound]
    simp
  rw [hisIn, hisNotIn, Bool.not_eq_true', ← Bool.not_eq_true, hiff]
  refine ⟨Iff.rfl, Iff.rfl, fun hsorted hliteral hitems => ?_⟩
  have hexchange : (∃ e ∈ items, Equals e key ∨ SpelledBy e key) ↔ ∃ e ∈ items, Equals key e := by
    refine exists_congr fun e => and_congr_right fun he => ?_
    obtain ⟨hsorted', hliteral', hplain⟩ := hitems e he
    refine ⟨fun h => ?_, fun h => .inl (h.symm ⟨hsorted, hliteral⟩ ⟨hsorted', hliteral'⟩)⟩
    exact (h.resolve_right hplain).symm ⟨hsorted', hliteral'⟩ ⟨hsorted, hliteral⟩
  rw [hexchange]
  exact ⟨Iff.rfl, Iff.rfl⟩

/-- A text is looked for among an object, a hidden value and itself. -/
theorem isIn_hiddenElement :
    let key : Json := .str "50%!"
    let items : List Json := [.obj [("rate", .str "50%!")], .str ignored, .str "50%!"]
    ((∀ vs, key ≠ .arr vs) ∧ key.Sorted ∧ key.Literal ∧
      ∀ e ∈ items, e.Sorted ∧ e.Literal ∧ ¬SpelledBy e key) ∧
    ((validate key (.arr items) .isIn).passed = true ↔
      ∃ e ∈ items, (validate e key .isEqual).passed = true ∨ SpelledBy e key) ∧
    ((validate key (.arr items) .isIn).passed = true ↔
      ∃ e ∈ items, (validate key e .isEqual).passed = true) := by
  intro key items
  have hkey : ∀ vs, key ≠ .arr vs := nofun
  have hliteral : key.Literal := by decide +kernel
  have hitems : ∀ e ∈ items, e.Sorted ∧ e.Literal ∧ ¬SpelledBy e key := by
    have hobject : (Json.obj [("rate", .str "50%!")]).Sorted := ⟨by decide, trivial, trivial⟩
    refine List.forall_mem_cons.mpr ⟨⟨hobject, by decide +kernel⟩, ?_⟩
    refine List.forall_mem_cons.mpr ⟨⟨trivial, by decide +kernel⟩, ?_⟩
    exact List.forall_mem_singleton.mpr ⟨trivial, by decide +kernel⟩
  obtain ⟨hexchanged, -, hsame⟩ := isIn_iff_exchanged hkey items
  exact ⟨⟨hkey, trivial, hliteral, hitems⟩, hexchanged, (hsame trivial hliteral hitems).1⟩

/-- **A pattern in an array is not read as one, and a pattern in the key is.**  A text is in an
array of lists, though it equals none of them. -/
theorem pattern_isIn :
    let hello : Json := .str "hello"
    let pattern : Json := .str "%ell%"
    let list : Json := .arr [.null]
    ((validate hello (.arr [pattern]) .isIn).passed = false ∧
      (validate hello pattern .isEqual).passed = true) ∧
    ((validate pattern (.arr [hello]) .isIn).passed = true ∧
      (validate pattern hello .isEqual).passed = false) ∧
    ((validate (.str "[null]") (.arr [list]) .isIn).passed = true ∧
      (validate (.str "[null]") list .isEqual).passed = false) := by
  decide +kernel

end CaseScript
