import CaseScript.Proofs.Check.Masked

/-!
# Proofs/Check/Reasons — a check that fails says why

A verdict passes just if its reason is empty (`validate_reasoned`).  Behind the reasons of equality
stands the comparison of values part by part: `compareNoting` tells whether they are alike and notes
what it finds in a list that it is handed on, and it never notes more than one difference, which is
one of those the values have (`Differs`).
-/

namespace CaseScript

/-! ## One difference at most -/

mutual

/-- A comparison that tells whether the values are alike, and puts what it finds behind the
differences `noted` before. -/
def compareNoting (place : Place) (left right : Json) (noted : List Difference) :
    Bool × List Difference :=
  if left.isIgnored || right.isIgnored then (true, noted)
  else match left, right with
    | .obj l, .obj r =>
      match compareEntriesNoting place l r noted with
      | (true, noted) =>
        match (Keyed.keys r).find? fun k => !Keyed.hasKey l k with
        | some k => (false, noted ++ [.missingLeft (place.entry k)])
        | none => (true, noted)
      | found => found
    | .arr l, .arr r =>
      if l.length ≠ r.length then (false, noted ++ [.sizes place l.length r.length])
      else compareItemsNoting place 0 l r noted
    | l, r =>
      if l.isContainer || r.isContainer then (false, noted ++ [.kinds place l r])
      else if scalarEqual l r then (true, noted) else (false, noted ++ [.values place l r])

/-- The same for the entries of the left side. -/
def compareEntriesNoting (place : Place) : (left : List (String × Json)) → (right : Entries) →
    (noted : List Difference) → Bool × List Difference
  | [], _, noted => (true, noted)
  | (k, v) :: es, right, noted =>
    match right.get? k with
    | none => (false, noted ++ [.missingRight (place.entry k)])
    | some w =>
      match compareNoting (place.entry k) v w noted with
      | (true, noted) => compareEntriesNoting place es right noted
      | found => found

/-- The same for the items of two arrays, of which `i` are passed. -/
def compareItemsNoting (place : Place) (i : Nat) : (left right : List Json) →
    (noted : List Difference) → Bool × List Difference
  | v :: vs, w :: ws, noted =>
    match compareNoting (place.item i) v w noted with
    | (true, noted) => compareItemsNoting place (i + 1) vs ws noted
    | found => found
  | _, _, noted => (true, noted)

end

/-- Two objects or two arrays. -/
def SameContainer (l r : Json) : Prop :=
  (∃ es fs, l = .obj es ∧ r = .obj fs) ∨ ∃ vs ws, l = .arr vs ∧ r = .arr ws

/-- A difference says rightly how two values at a place differ: themselves, or in parts of them
that one key or index leads to. -/
inductive Differs : Place → Json → Json → Difference → Prop
  | missingRight {place : Place} {es fs : Entries} {k : String} {v : Json} :
      (k, v) ∈ es → fs.get? k = none →
      Differs place (.obj es) (.obj fs) (.missingRight (place.entry k))
  | missingLeft {place : Place} {es fs : Entries} {k : String} :
      k ∈ fs.keys → es.get? k = none →
      Differs place (.obj es) (.obj fs) (.missingLeft (place.entry k))
  | sizes {place : Place} {vs ws : List Json} : vs.length ≠ ws.length →
      Differs place (.arr vs) (.arr ws) (.sizes place vs.length ws.length)
  | values {place : Place} {l r : Json} : (l.isContainer || r.isContainer) = false →
      scalarEqual l r = false → Differs place l r (.values place l r)
  | kinds {place : Place} {l r : Json} : (l.isIgnored || r.isIgnored) = false →
      (l.isContainer || r.isContainer) = true → ¬SameContainer l r →
      Differs place l r (.kinds place l r)
  | entry {place : Place} {es fs : Entries} {k : String} {v w : Json} {d : Difference} :
      (k, v) ∈ es → fs.get? k = some w → Differs (place.entry k) v w d →
      Differs place (.obj es) (.obj fs) d
  | item {place : Place} {vs ws : List Json} {i : Nat} {v w : Json} {d : Difference} :
      vs[i]? = some v → ws[i]? = some w → Differs (place.item i) v w d →
      Differs place (.arr vs) (.arr ws) d

/-- What a comparison comes to: nothing is noted of values that are alike, and of others one
difference, as `describes` has it. -/
inductive Compared (noted : List Difference) (describes : Difference → Prop) :
    Bool × List Difference → List Difference → Prop
  | alike : Compared noted describes (true, noted) []
  | differs {d : Difference} : describes d → Compared noted describes (false, noted ++ [d]) [d]

theorem Compared.mono {noted : List Difference} {p q : Difference → Prop}
    {found : Bool × List Difference} {ds : List Difference} (h : Compared noted p found ds)
    (hpq : ∀ d, p d → q d) : Compared noted q found ds := by
  obtain _ | hd := h
  · exact .alike
  · exact .differs (hpq _ hd)

theorem missing_of_find? {es fs : Entries} {k : String}
    (h : (Keyed.keys fs).find? (fun k => !Keyed.hasKey es k) = some k) :
    k ∈ fs.keys ∧ es.get? k = none := by
  have habsent := List.find?_some h
  simp only [Keyed.hasKey, Bool.not_eq_true', Option.isSome_eq_false_iff,
    Option.isNone_iff_eq_none] at habsent
  exact ⟨List.mem_of_find?_eq_some h, habsent⟩

/-- Values that are not both objects nor both arrays differ as a whole. -/
theorem differences_of_not_sameContainer {l r : Json} (h : ¬SameContainer l r)
    (hignored : ¬(l.isIgnored || r.isIgnored) = true) (place : Place) :
    differences place l r =
      if l.isContainer || r.isContainer then [.kinds place l r]
      else if scalarEqual l r then [] else [.values place l r] := by
  rw [differences.eq_def, if_neg hignored]
  split
  · exact absurd (.inl ⟨_, _, rfl, rfl⟩) h
  · exact absurd (.inr ⟨_, _, rfl, rfl⟩) h
  · rfl

/-- Values that are not both objects nor both arrays are compared by themselves. -/
theorem compared_of_not_sameContainer {l r : Json} (h : ¬SameContainer l r) (place : Place)
    (noted : List Difference) :
    Compared noted (Differs place l r) (compareNoting place l r noted) (differences place l r) := by
  by_cases hignored : (l.isIgnored || r.isIgnored) = true
  · rw [compareNoting.eq_def, differences.eq_def, if_pos hignored, if_pos hignored]
    exact .alike
  have hnoting : compareNoting place l r noted =
      if l.isContainer || r.isContainer then (false, noted ++ [.kinds place l r])
      else if scalarEqual l r then (true, noted) else (false, noted ++ [.values place l r]) := by
    rw [compareNoting.eq_def, if_neg hignored]
    split
    · exact absurd (.inl ⟨_, _, rfl, rfl⟩) h
    · exact absurd (.inr ⟨_, _, rfl, rfl⟩) h
    · rfl
  rw [hnoting, differences_of_not_sameContainer h hignored]
  by_cases hcontainer : (l.isContainer || r.isContainer) = true
  · rw [if_pos hcontainer, if_pos hcontainer]
    exact .differs (.kinds (Bool.eq_false_iff.mpr hignored) hcontainer h)
  · rw [if_neg hcontainer, if_neg hcontainer]
    by_cases hequal : scalarEqual l r = true
    · rw [if_pos hequal, if_pos hequal]
      exact .alike
    · rw [if_neg hequal, if_neg hequal]
      exact .differs (.values (Bool.eq_false_iff.mpr hcontainer) (Bool.eq_false_iff.mpr hequal))

mutual

/-- **A comparison notes one difference at most**, by induction on the left value: it goes on only
as long as nothing is noted. -/
theorem compared : ∀ (l r : Json) (place : Place) (noted : List Difference),
    Compared noted (Differs place l r) (compareNoting place l r noted) (differences place l r)
  | .obj es, r => fun place noted => by
    by_cases hr : ∃ fs, r = .obj fs
    · obtain ⟨fs, rfl⟩ := hr
      rw [compareNoting.eq_def, differences.eq_def]
      simp only [Json.isIgnored, Bool.or_self, Bool.false_eq_true, if_false]
      have hentries := comparedEntries es fs place noted
      generalize compareEntriesNoting place es fs noted = found at hentries ⊢
      generalize entryDifferences place es fs = ds at hentries ⊢
      obtain _ | hd := hentries
      · dsimp only
        cases hmissing : (Keyed.keys fs).find? fun k => !Keyed.hasKey es k with
        | none => exact .alike
        | some k =>
          obtain ⟨hright, hleft⟩ := missing_of_find? hmissing
          exact .differs (.missingLeft hright hleft)
      · exact .differs (hd es fun _ he => he)
    · exact compared_of_not_sameContainer (by simpa [SameContainer] using hr) place noted
  | .arr vs, r => fun place noted => by
    by_cases hr : ∃ ws, r = .arr ws
    · obtain ⟨ws, rfl⟩ := hr
      rw [compareNoting.eq_def, differences.eq_def]
      simp only [Json.isIgnored, Bool.or_self, Bool.false_eq_true, if_false]
      by_cases hlength : vs.length = ws.length
      · simp only [hlength, ne_eq, not_true_eq_false, if_false]
        exact (comparedItems vs ws place 0 noted).mono fun d hd => hd vs ws rfl rfl
      · simp only [hlength, ne_eq, not_false_eq_true, if_true]
        exact .differs (.sizes hlength)
    · exact compared_of_not_sameContainer (by simpa [SameContainer] using hr) place noted
  | .null, _ | .bool _, _ | .num _, _ | .str _, _ =>
    compared_of_not_sameContainer (by simp [SameContainer])

/-- The same for the last entries of an object. -/
theorem comparedEntries : ∀ (es : List (String × Json)) (fs : Entries) (place : Place)
    (noted : List Difference),
    Compared noted (fun d => ∀ all : Entries, es ⊆ all → Differs place (.obj all) (.obj fs) d)
      (compareEntriesNoting place es fs noted) (entryDifferences place es fs)
  | [], _, _, _ => .alike
  | (k, v) :: es, fs, place, noted => by
    rw [compareEntriesNoting, entryDifferences]
    cases hk : fs.get? k with
    | none => exact .differs fun all hall => .missingRight (hall List.mem_cons_self) hk
    | some w =>
      have hvalue := compared v w (place.entry k) noted
      dsimp only
      generalize compareNoting (place.entry k) v w noted = found at hvalue ⊢
      generalize differences (place.entry k) v w = ds at hvalue ⊢
      obtain _ | hd := hvalue
      · exact (comparedEntries es fs place noted).mono fun d hd all hall =>
          hd all fun e he => hall (List.mem_cons_of_mem _ he)
      · exact .differs fun all hall => .entry (hall List.mem_cons_self) hk hd

/-- The same for the items of two arrays from one place on. -/
theorem comparedItems : ∀ (vs ws : List Json) (place : Place) (i : Nat) (noted : List Difference),
    Compared noted (fun d => ∀ left right : List Json, left.drop i = vs → right.drop i = ws →
        Differs place (.arr left) (.arr right) d)
      (compareItemsNoting place i vs ws noted) (itemDifferences place i vs ws)
  | [], ws, _, _, _ => by
    rw [compareItemsNoting.eq_def, itemDifferences.eq_def]
    exact .alike
  | _ :: _, [], _, _, _ => by
    rw [compareItemsNoting.eq_def, itemDifferences.eq_def]
    exact .alike
  | v :: vs, w :: ws, place, i, noted => by
    rw [compareItemsNoting, itemDifferences]
    have hvalue := compared v w (place.item i) noted
    generalize compareNoting (place.item i) v w noted = found at hvalue ⊢
    generalize differences (place.item i) v w = ds at hvalue ⊢
    obtain _ | hd := hvalue
    · exact (comparedItems vs ws place (i + 1) noted).mono fun d hd left right hleft hright =>
        hd left right (by rw [← List.drop_drop, hleft]; rfl) (by rw [← List.drop_drop, hright]; rfl)
    · refine .differs fun left right hleft hright => .item (i := i) ?_ ?_ hd
      · rw [← Nat.add_zero i, ← List.getElem?_drop, hleft]; rfl
      · rw [← Nat.add_zero i, ← List.getElem?_drop, hright]; rfl

end

/-! ## Texts that say something -/

theorem append_ne_empty_left {s : String} (h : s ≠ "") (t : String) : s ++ t ≠ "" :=
  fun hempty => h (String.append_eq_empty_iff.mp hempty).1

theorem append_ne_empty_right {t : String} (h : t ≠ "") (s : String) : s ++ t ≠ "" :=
  fun hempty => h (String.append_eq_empty_iff.mp hempty).2

theorem append_ne_empty_middle {t : String} (h : t ≠ "") (s u : String) : s ++ t ++ u ≠ "" :=
  append_ne_empty_left (append_ne_empty_right h s) u

theorem Difference.text_ne_empty : ∀ d : Difference, d.text ≠ ""
  | missingRight _ | missingLeft _ => append_ne_empty_left (by decide) _
  | sizes _ _ _ | values _ _ _ | kinds _ _ _ => append_ne_empty_middle (by decide) _ _

theorem Verdict.mismatch_ne_empty (key value : Json) (c : Condition) :
    mismatch key value c ≠ "" := append_ne_empty_middle (by decide) _ _

/-- The check failed, or there is no reason. -/
def Verdict.Reasoned (v : Verdict) : Prop := v.passed = true ↔ v.reason = ""

theorem reasoned_fail {reason : String} (h : reason ≠ "") : (Verdict.fail reason).Reasoned :=
  iff_of_false Bool.false_ne_true h

theorem reasoned_ofBool {reason : String} (h : reason ≠ "") :
    ∀ passed, (Verdict.ofBool passed reason).Reasoned
  | true => iff_of_true rfl rfl
  | false => reasoned_fail h

/-! ## One kind of condition after another -/

section

variable (key value : Json) (c : Condition) (wanted : Bool)

theorem reasoned_mismatch (passed : Bool) :
    (Verdict.ofBool passed (Verdict.mismatch key value c)).Reasoned :=
  reasoned_ofBool (Verdict.mismatch_ne_empty key value c) passed

theorem reasoned_notNumeric : (Verdict.notNumeric key value).Reasoned :=
  reasoned_fail (append_ne_empty_middle (by decide) _ _)

theorem reasoned_byNumber (holds : Binary64 → Binary64 → Bool) :
    (byNumber key value c holds).Reasoned := by
  unfold byNumber
  split
  · exact reasoned_mismatch key value c _
  · exact reasoned_notNumeric key value

theorem reasoned_byLength (holds : Binary64 → Binary64 → Bool) :
    (byLength key value c holds).Reasoned := by
  unfold byLength
  split
  · exact reasoned_fail (append_ne_empty_right (by decide) _)
  · split
    · exact reasoned_notNumeric key value
    · exact reasoned_ofBool (append_ne_empty_middle (by decide) _ _) _

theorem reasoned_byMoment (holds : Moment → Moment → Bool) :
    (byMoment key value c holds).Reasoned := by
  unfold byMoment
  split
  · exact reasoned_mismatch key value c _
  · exact reasoned_fail (append_ne_empty_right (by decide) _)

theorem reasoned_byContainment : (byContainment key value c wanted).Reasoned := by
  unfold byContainment
  split
  · exact reasoned_mismatch key value c _
  · exact reasoned_fail (append_ne_empty_middle (by decide) _ _)

theorem reasoned_byPattern : (byPattern key value c wanted).Reasoned := by
  unfold byPattern
  split
  · split
    · exact reasoned_mismatch _ _ c _
    · exact reasoned_fail (append_ne_empty_middle (by decide) _ _)
  · exact reasoned_fail (by decide)

theorem reasoned_byTruth : (byTruth key wanted).Reasoned :=
  reasoned_ofBool (append_ne_empty_middle (by decide) _ _) _

theorem reasoned_byNull : (byNull key c wanted).Reasoned :=
  reasoned_ofBool (append_ne_empty_middle (by decide) _ _) _

theorem reasoned_byStructure : (byStructure key value c wanted).Reasoned := by
  have hcompared := compared key value "" []
  refine reasoned_ofBool ?_ _
  generalize differences "" key value = ds at hcompared ⊢
  generalize compareNoting "" key value [] = found at hcompared
  obtain _ | @⟨d, hd⟩ := hcompared
  · exact Verdict.mismatch_ne_empty key value c
  · exact Difference.text_ne_empty d

/-- **Every condition that fails says why**, whatever the operands. -/
theorem reasoned_evaluate : ∀ c : Condition, (evaluate key value c).Reasoned
  | .isEqual | .isNotEqual | .isIn | .isNotIn | .isStartWith | .isEndWith | .isOpposite =>
    reasoned_mismatch key value _ _
  | .isTrue | .isFalse => reasoned_byTruth key _
  | .isApproximate4 | .isNotApproximate4 | .isLargerThan | .isLessThan | .isLargerThanOrEqual
  | .isLessThanOrEqual => reasoned_byNumber key value _ _
  | .isLengthEqual | .isLengthNotEqual | .isLengthLargerThan | .isLengthLessThan =>
    reasoned_byLength key value _ _
  | .isJsonContain | .isContain | .isJsonNotContain | .isNotContain =>
    reasoned_byContainment key value _ _
  | .isNull | .isNotNull => reasoned_byNull key _ _
  | .isRegexMatch | .isRegexNotMatch => reasoned_byPattern key value _ _
  | .isJsonEqual | .isJsonNotEqual => reasoned_byStructure key value _ _
  | .isDateEqual | .isDateNotEqual | .isDateLargerThanOrEqual | .isDateLargerThan
  | .isDateLessThanOrEqual | .isDateLessThan => reasoned_byMoment key value _ _

/-- Equality part by part holds where nothing is noted, and fails with what is noted. -/
theorem byStructure_compared :
    (compareNoting "" key value [] = (true, []) ∧ byStructure key value c true = .pass) ∨
      ∃ d, Differs "" key value d ∧ compareNoting "" key value [] = (false, [d]) ∧
        byStructure key value c true = .fail d.text := by
  have hcompared := compared key value "" []
  unfold byStructure
  generalize differences "" key value = ds at hcompared ⊢
  generalize compareNoting "" key value [] = found at hcompared ⊢
  obtain _ | @⟨d, hd⟩ := hcompared
  · exact .inl ⟨rfl, rfl⟩
  · exact .inr ⟨d, hd, rfl, rfl⟩

/-- The conditions that are decided by the structure of the operands. -/
def Condition.IsStructural : Condition → Prop
  | isJsonEqual => True
  | isEqual => (key.isContainer || value.isContainer) = true
  | _ => False

theorem validate_of_isStructural (h : c.IsStructural key value) :
    validate key value c = byStructure key value .isJsonEqual true := by
  cases c with
  | isJsonEqual => rfl
  | isEqual =>
    have hstructured : (key.isContainer || value.isContainer) = true := h
    unfold validate normalize
    simp only [hstructured, if_true]
    rfl
  | _ => cases h

/-- **A check passes just if it has no reason to fail.**  A comparison of values notes nothing where
it finds them alike, and one difference where it does not; that difference is in the values, at the
place that it names, and it is the reason for which equality of the values fails. -/
theorem validate_reasoned :
    ((validate key value c).passed = true ↔ (validate key value c).reason = "") ∧
    (∀ place noted, (compareNoting place key value noted = (true, noted) ∧
        differences place key value = []) ∨
      ∃ d, Differs place key value d ∧
        compareNoting place key value noted = (false, noted ++ [d]) ∧
        differences place key value = [d]) ∧
    (c.IsStructural key value →
      (compareNoting "" key value [] = (true, []) ∧ validate key value c = .pass) ∨
      ∃ d, Differs "" key value d ∧ compareNoting "" key value [] = (false, [d]) ∧
        validate key value c = .fail d.text) := by
  refine ⟨reasoned_evaluate _ _ _, fun place noted => ?_, fun hstructural => ?_⟩
  · have hcompared := compared key value place noted
    generalize differences place key value = ds at hcompared ⊢
    generalize compareNoting place key value noted = found at hcompared ⊢
    obtain _ | @⟨d, hd⟩ := hcompared
    · exact .inl ⟨rfl, rfl⟩
    · exact .inr ⟨d, hd, rfl, rfl⟩
  · rw [validate_of_isStructural key value c hstructural]
    exact byStructure_compared key value .isJsonEqual

end

example : (validate (.obj [("a", .null)]) (.obj [("a", .null), ("b", .null)]) .isEqual).reason =
    "Missing key in left at b" := by decide +kernel

/-- The right side has a key that the left one lacks. -/
theorem missingKey_reasoned :
    let left : Json := .obj [("a", .num (.whole 1))]
    let right : Json := .obj [("a", .num (.whole 1)), ("b", .num (.whole 2))]
    Condition.isEqual.IsStructural left right ∧
      ((compareNoting "" left right [] = (true, []) ∧ validate left right .isEqual = .pass) ∨
        ∃ d, Differs "" left right d ∧ compareNoting "" left right [] = (false, [d]) ∧
          validate left right .isEqual = .fail d.text) := by
  intro left right
  exact ⟨rfl, (validate_reasoned left right .isEqual).2.2 rfl⟩

end CaseScript
