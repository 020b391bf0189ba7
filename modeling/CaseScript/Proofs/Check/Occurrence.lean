import CaseScript.Proofs.Text.Search
import CaseScript.Proofs.Unicode.Lower
import CaseScript.Retry.StopCondition

/-!
# Proofs/Check/Occurrence — a text is looked for without regard to case

A pattern between percent signs, and a stop condition on the content, look for the lower case of a
text in the lower case of another.  A text that stands between two others is found there just if each
of its capital sigmas ends a word there as it does in the text alone (`EndsAlike`), so every text
without one is found (`matchesWildcard_occurring`).  Up to the form of sigmas all are.
-/

namespace CaseScript

open Unicode (lower lowerBetween plain)

/-! ## A text between two others -/

/-- Every capital sigma of `x` ends a word between `u` and `v` just if it does in `x` alone. -/
def EndsAlike (u x v : List Char) : Prop := Unicode.SameEnds u.reverse v [] [] x

/-- In lower case `x` occurs in `u ++ x ++ v` elsewhere than between `u` and `v`. -/
def OccursElsewhere (u x v : List Char) : Prop :=
  ∃ front back, lower (u ++ (x ++ v)) = front ++ (lower x ++ back) ∧
    front.length ≠ (lower u).length

theorem lower_eq_lowerBetween (cs : List Char) : lower cs = lowerBetween [] [] cs :=
  Unicode.lowerFrom_eq_lowerBetween [] cs

theorem lower_between (u x v : List Char) :
    lower (u ++ (x ++ v)) = lowerBetween [] (x ++ v) u ++
      (lowerBetween u.reverse v x ++ lowerBetween (x.reverse ++ u.reverse) [] v) := by
  rw [lower_eq_lowerBetween, Unicode.lowerBetween_append, Unicode.lowerBetween_append,
    List.append_nil, List.append_nil, List.append_nil]

/-- Up to the form of sigmas a text keeps its lower case between others. -/
theorem map_plain_lowerBetween_eq (before after cs : List Char) :
    (lowerBetween before after cs).map plain = (lower cs).map plain := by
  rw [Unicode.map_plain_lowerBetween, Unicode.map_plain_lower]

theorem length_lowerBetween (before after cs : List Char) :
    (lowerBetween before after cs).length = (lower cs).length := by
  simpa using congrArg List.length (map_plain_lowerBetween_eq before after cs)

/-- **In lower case a text is found between two others just if its sigmas end words there as they do
in the text alone, or it is found elsewhere.** -/
theorem contains_lower_iff {u x v : List Char} :
    Text.contains (lower x) (lower (u ++ (x ++ v))) = true ↔
      EndsAlike u x v ∨ OccursElsewhere u x v := by
  rw [Text.contains_iff]
  constructor
  · rintro ⟨front, back, hlower⟩
    by_cases hplace : front.length = (lower u).length
    · refine .inl ?_
      rw [lower_between] at hlower
      obtain ⟨-, hrest⟩ := List.append_inj hlower (by rw [length_lowerBetween, hplace])
      obtain ⟨hx, -⟩ := List.append_inj hrest (length_lowerBetween _ _ x)
      rwa [lower_eq_lowerBetween x, Unicode.lowerBetween_eq_iff] at hx
    · exact .inr ⟨front, back, hlower, hplace⟩
  · rintro (hends | ⟨front, back, hlower, -⟩)
    · have hx : lowerBetween u.reverse v x = lower x := by
        rw [lower_eq_lowerBetween]
        exact Unicode.lowerBetween_eq_iff.mpr hends
      exact ⟨_, _, hx ▸ lower_between u x v⟩
    · exact ⟨front, back, hlower⟩

/-! ## Searches -/

/-- A pattern between percent signs is looked for without regard to case. -/
theorem matchesWildcard_between (cs x : List Char) :
    matchesWildcard cs ('%' :: (x ++ ['%'])) = Text.contains (lower x) (lower cs) := by
  simp [matchesWildcard]

/-- The stop condition that asks for a text in the content only. -/
def StopCondition.containing (x : String) : StopCondition :=
  { StopCondition.none with contentContains := some (.str x) }

theorem holdsOfBody_containing (x body : String) :
    (StopCondition.containing x).holdsOfBody body =
      Text.contains (lower x.toList) (lower body.toList) := by
  simp [StopCondition.holdsOfBody, StopCondition.containing, StopCondition.none,
    StopCondition.asksSize, StopCondition.asksObject, StopCondition.ifPresent,
    StopCondition.containsText, Json.plain]

/-- **A text between two others is found if its capital sigmas end words there as they do in the text
alone**, and else only if it is found elsewhere.  The search for a pattern and the stop condition
agree.  So every text without a capital sigma is found, and up to the form of sigmas every text. -/
theorem matchesWildcard_occurring (u x v : String) :
    let found := matchesWildcard (u ++ x ++ v).toList ("%" ++ x ++ "%").toList
    (StopCondition.containing x).holdsOfBody (u ++ x ++ v) = found ∧
      (found = true ↔
        EndsAlike u.toList x.toList v.toList ∨ OccursElsewhere u.toList x.toList v.toList) ∧
      ('Σ' ∉ x.toList → found = true) ∧
      Text.contains ((lower x.toList).map plain) ((lower (u ++ x ++ v).toList).map plain) = true := by
  intro found
  have hwhole : (u ++ x ++ v).toList = u.toList ++ (x.toList ++ v.toList) := by simp
  have hfound : found = Text.contains (lower x.toList) (lower (u ++ x ++ v).toList) := by
    have hpattern : ("%" ++ x ++ "%").toList = '%' :: (x.toList ++ ['%']) := by simp
    exact (congrArg (matchesWildcard _) hpattern).trans (matchesWildcard_between _ _)
  have hiff := contains_lower_iff (u := u.toList) (x := x.toList) (v := v.toList)
  rw [← hwhole, ← hfound] at hiff
  refine ⟨(holdsOfBody_containing x _).trans hfound.symm, hiff, fun hsigma => ?_, ?_⟩
  · refine hiff.mpr (.inl fun a b hx => absurd ?_ hsigma)
    rw [hx]
    exact List.mem_append_right a List.mem_cons_self
  · rw [hwhole, Unicode.map_plain_lower, Unicode.map_plain_lower, List.flatMap_append,
      List.flatMap_append]
    exact Text.contains_append _ _ _

/-- A letter with case is found behind no sign.  Of the signs that are looked through, five spans
begin before it. -/
theorem casedFollows_letter : Unicode.casedFollows ['a'] = true := by
  have hlooked : Unicode.isCaseIgnorable 'a' = false :=
    (Unicode.Spans.any_holds_take (k := 5) (Unicode.Spans.pairwise_ofRuns 0 _).1
      (by decide +kernel)).trans (by decide +kernel)
  rw [Unicode.casedFollows, List.dropWhile_cons_of_neg (Bool.eq_false_iff.mp hlooked)]
  decide +kernel

/-- A sigma that closes a word is written in another form there than alone. -/
theorem closingSigma_unfound :
    matchesWildcard "aΣ".toList "%Σ%".toList = false ∧
      (StopCondition.containing "Σ").holdsOfBody "aΣ" = false := by
  have hnothing : Unicode.casedFollows [] = false := rfl
  have hclosing : lower ['a', 'Σ'] = ['a', 'ς'] := by
    simp [lower, Unicode.lowerFrom, casedFollows_letter, hnothing]
  have hsigma : lower ['Σ'] = ['σ'] := by
    simp [lower, Unicode.lowerFrom, hnothing]
  have hunfound : Text.contains (lower ['Σ']) (lower ['a', 'Σ']) = false := by
    rw [hclosing, hsigma]
    rfl
  exact ⟨(matchesWildcard_between ['a', 'Σ'] ['Σ']).trans hunfound,
    (holdsOfBody_containing "Σ" "aΣ").trans hunfound⟩

end CaseScript
