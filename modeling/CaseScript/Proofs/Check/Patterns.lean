import CaseScript.Proofs.Check.Masked
import CaseScript.Proofs.Regex.Matching
import CaseScript.Proofs.Regex.Reading

/-!
# Proofs/Check/Patterns — patterns that have to match whole texts

The text of a pattern is put in a group between anchors (`anchored`), and that is read.  A pattern
that is read by itself is read in its group as it is (`spelled?_anchored`), unless it ends in a
comment, and one that is not is not read there either, unless it closes the group itself.  Hence
what the conditions on patterns decide (`validate_pattern`).
-/

namespace CaseScript

open Regex Regex.Reader

/-- The group around the group that a pattern is put in, up to there. -/
def anchorGroup : Group := (Regex.Reader.initial.addLook .textStart).group

/-- The pattern that matches whole texts, as a part. -/
def anchoredPart (p : Part) : Part :=
  .ofParts [⟨.look .textEnd, .look .textEnd, 0, true⟩,
    { p with depth := p.depth + 1, repeatable := true },
    ⟨.look .textStart, .look .textStart, 0, true⟩]

/-- An anchored pattern is read in a group behind an anchor. -/
theorem takes_anchored (cs : List Char) (u : Regex.Reader) :
    Takes .initial (anchored cs) u ↔
      Takes (Regex.Reader.initial.under [anchorGroup]) (cs ++ closing) u := by
  have hopened : ['(', '?', ':'] ++ cs ++ [')', '$'] = '(' :: '?' :: ':' :: (cs ++ closing) := by
    simp [closing]
  have hanchored : anchored cs = '^' :: '(' :: '?' :: ':' :: (cs ++ closing) :=
    congrArg ('^' :: ·) hopened
  have hcaret : ∀ rest, Regex.Reader.initial.step '^' rest =
      some (Regex.Reader.initial.addLook .textStart, rest) := fun _ => rfl
  have hgroup : ∀ rest, (Regex.Reader.initial.addLook .textStart).step '(' ('?' :: ':' :: rest) =
      some (Regex.Reader.initial.under [anchorGroup], rest) := fun _ => rfl
  rw [hanchored, takes_of_step (s := .initial) rfl (hcaret _),
    takes_of_step (s := Regex.Reader.initial.addLook .textStart) rfl (hgroup _)]

/-- Behind a pattern that leaves no group open, its own group is closed and the text has to end. -/
theorem takes_closing {t : Regex.Reader} (houter : t.outer = []) (hrooted : t.Rooted) :
    ∃ u, Takes (t.under [anchorGroup]) closing u ∧ u.outer = [] ∧
      u.group.value = anchoredPart t.group.value := by
  obtain ⟨hnumber, hflags⟩ := hrooted.group houter
  have hunder : (t.under [anchorGroup]).outer = [anchorGroup] := by
    rw [under_outer, houter, List.nil_append]
  have hpart : partOfGroup t.group =
      { t.group.value with depth := t.group.value.depth + 1, repeatable := true } := by
    rw [partOfGroup, hnumber]
  have hclose := step_close hunder ['$']
  rw [under_group, hflags, hpart] at hclose
  refine ⟨_, .step ?_ hclose (.step rfl rfl (.done rfl)), rfl, rfl⟩
  exact skipSpace_closing_self _

/-- **A pattern that is read by itself is read in its group**, unless it ends in a comment. -/
theorem spelled?_anchored {cs : List Char} {p : Part} (h : spelled? cs = some p) :
    spelled? (anchored cs) = if EndsInComment cs then none else some (anchoredPart p) := by
  obtain ⟨t, ht, houter, rfl⟩ := spelled?_eq_some_iff.mp h
  obtain hgoes | ⟨-, hhidden⟩ := ht.append
  · have hends := not_endsInComment houter hgoes
    rw [if_neg hends]
    obtain ⟨u, hu, huouter, hvalue⟩ := takes_closing houter (ht.rooted rooted_initial)
    refine spelled?_eq_some_iff.mpr ⟨u, ?_, huouter, hvalue⟩
    exact (takes_anchored cs u).mpr ((hgoes [anchorGroup] u).mpr hu)
  · have hends : EndsInComment cs := by
      have hread := hhidden []
      rw [under_nil, under_nil] at hread
      have hspelled := spelled?_eq_some_iff.mpr ⟨t, hread, houter, rfl⟩
      exact ⟨Option.isSome_of_eq_some h, Option.isSome_of_eq_some hspelled⟩
    rw [if_pos hends]
    cases hspelled : spelled? (anchored cs) with
    | none => rfl
    | some p =>
      obtain ⟨u, hu, huouter, -⟩ := spelled?_eq_some_iff.mp hspelled
      obtain rfl := (hhidden [anchorGroup]).unique ((takes_anchored cs u).mp hu)
      cases (List.append_eq_nil_iff.mp huouter).2

/-- A pattern that is not read by itself is not read in its group, unless it closes that. -/
theorem spelled?_anchored_eq_none {cs : List Char} (h : spelled? cs = none)
    (hcloses : ¬ClosesUnopened .initial cs) : spelled? (anchored cs) = none := by
  cases hspelled : spelled? (anchored cs) with
  | none => rfl
  | some p =>
    obtain ⟨u, hu, huouter, -⟩ := spelled?_eq_some_iff.mp hspelled
    obtain ⟨t, ht, houter⟩ | hcloses' := ((takes_anchored cs u).mp hu).of_append huouter
    · cases h.symm.trans (spelled?_eq_some_iff.mpr ⟨t, ht, houter, rfl⟩)
    · exact absurd hcloses' hcloses

/-! ## The conditions on patterns -/

/-- A pattern that is still read in its group and not too much for a machine there: it does not end
in a comment, and it is no deeper and no larger than its group allows. -/
structure Anchors (cs : List Char) (p : Part) : Prop where
  shown : ¬EndsInComment cs
  shallow : p.depth + 2 ≤ maxDepth
  small : (anchoredPart p).outline.fits = true

theorem anchoredPart_depth (p : Part) : (anchoredPart p).depth = p.depth + 2 := by
  change max (max (max 0 0) (p.depth + 1)) 0 + 1 = p.depth + 2
  omega

theorem wholePattern_eq_ok_iff {cs : List Char} {p : Part} {r : Regex} (h : spelled? cs = some p) :
    wholePattern cs = .ok r ↔ Anchors cs p ∧ r = (anchoredPart p).regex := by
  unfold wholePattern
  rw [parse?_eq, spelled?_anchored h]
  by_cases hends : EndsInComment cs
  · rw [if_pos hends]
    exact iff_of_false nofun fun hr => hr.1.shown hends
  rw [if_neg hends, Option.bind_some, anchoredPart_depth]
  by_cases hdepth : p.depth + 2 ≤ maxDepth
  · rw [if_pos hdepth]
    dsimp only
    by_cases hfits : (anchoredPart p).outline.fits = true
    · rw [if_pos hfits]
      exact ⟨fun hr => ⟨⟨hends, hdepth, hfits⟩, (Except.ok.inj hr).symm⟩, fun hr => hr.2 ▸ rfl⟩
    · rw [if_neg hfits]
      exact iff_of_false nofun fun hr => hfits hr.1.small
  · rw [if_neg hdepth]
    exact iff_of_false nofun fun hr => hdepth hr.1.shallow

theorem wholePattern_malformed {cs : List Char} (h : parse? cs = none)
    (hcloses : ¬ClosesUnopened .initial cs) : wholePattern cs = .error .malformed := by
  have hnone : parse? (anchored cs) = none := by
    rw [parse?_eq] at h ⊢
    cases hspelled : spelled? cs with
    | none => rw [spelled?_anchored_eq_none hspelled hcloses, Option.bind_none]
    | some p =>
      rw [hspelled, Option.bind_some, ite_eq_right_iff] at h
      rw [spelled?_anchored hspelled]
      have hdeep : ¬p.depth + 2 ≤ maxDepth := fun hdepth => nomatch h (by omega)
      split
      · rfl
      · rw [Option.bind_some, anchoredPart_depth, if_neg hdeep]
  rw [wholePattern, hnone]

theorem passed_byPattern {text pattern : String} {condition : Condition} {wanted : Bool} :
    (byPattern (.str text) (.str pattern) condition wanted).passed = true ↔
      ∃ r, wholePattern pattern.toList = .ok r ∧ r.occursIn text.toList = wanted := by
  unfold byPattern
  dsimp only
  cases wholePattern pattern.toList with
  | error fault => exact iff_of_false nofun fun ⟨_, hr, _⟩ => nomatch hr
  | ok r =>
    dsimp only
    rw [Verdict.passed_ofBool, beq_iff_eq]
    exact ⟨fun h => ⟨r, rfl, h⟩, fun ⟨_, hr, h⟩ => by cases hr; exact h⟩

/-- A pattern that is well-formed by itself is matched with whole texts if its group allows it. -/
theorem passed_byPattern_of_spelled {text pattern : String} {condition : Condition} {p : Part}
    (h : spelled? pattern.toList = some p) (wanted : Bool) :
    (byPattern (.str text) (.str pattern) condition wanted).passed = true ↔
      Anchors pattern.toList p ∧ (p.regex.Matches text.toList ↔ wanted = true) := by
  have hoccurs : (anchoredPart p).regex.occursIn text.toList = wanted ↔
      (p.regex.Matches text.toList ↔ wanted = true) := by
    rw [Bool.eq_iff_iff]
    exact iff_congr (occursIn_anchored p.regex text.toList) Iff.rfl
  rw [passed_byPattern, ← hoccurs]
  constructor
  · rintro ⟨r, hr, hoccurs⟩
    obtain ⟨hanchors, rfl⟩ := (wholePattern_eq_ok_iff h).mp hr
    exact ⟨hanchors, hoccurs⟩
  · rintro ⟨hanchors, hoccurs⟩
    exact ⟨_, (wholePattern_eq_ok_iff h).mpr ⟨hanchors, rfl⟩, hoccurs⟩

/-- A pattern that is not well-formed by itself is refused, unless it closes its group. -/
theorem failed_byPattern_of_malformed {text pattern : String} {condition : Condition}
    (h : parse? pattern.toList = none) (hcloses : ¬ClosesUnopened .initial pattern.toList)
    (wanted : Bool) : (byPattern (.str text) (.str pattern) condition wanted).passed = false := by
  refine Bool.eq_false_iff.mpr fun hpassed => ?_
  obtain ⟨r, hr, -⟩ := passed_byPattern.mp hpassed
  cases (wholePattern_malformed h hcloses).symm.trans hr

/-- **A text is matched with a pattern by matching all of it.**  Where the pattern is no regular
expression by itself, both conditions fail, unless it closes the group that it is put in.  Where it
is one, the first condition holds of the texts that it matches from start to end and the second of
all others, unless it does not stand in its group as it stands by itself (`Anchors`). -/
theorem validate_pattern (text pattern : String) :
    (parse? pattern.toList = none → ¬ClosesUnopened .initial pattern.toList →
      (validate (.str text) (.str pattern) .isRegexMatch).passed = false ∧
        (validate (.str text) (.str pattern) .isRegexNotMatch).passed = false) ∧
    ∀ p, spelled? pattern.toList = some p →
      ((validate (.str text) (.str pattern) .isRegexMatch).passed = true ↔
        Anchors pattern.toList p ∧ p.regex.Matches text.toList) ∧
      ((validate (.str text) (.str pattern) .isRegexNotMatch).passed = true ↔
        Anchors pattern.toList p ∧ ¬p.regex.Matches text.toList) := by
  have hmatch : validate (.str text) (.str pattern) .isRegexMatch =
      byPattern (.str text) (.str pattern) .isRegexMatch true := rfl
  have hnotMatch : validate (.str text) (.str pattern) .isRegexNotMatch =
      byPattern (.str text) (.str pattern) .isRegexNotMatch false := rfl
  rw [hmatch, hnotMatch]
  constructor
  · intro hnone hcloses
    exact ⟨failed_byPattern_of_malformed hnone hcloses true,
      failed_byPattern_of_malformed hnone hcloses false⟩
  · intro p hp
    rw [passed_byPattern_of_spelled hp, passed_byPattern_of_spelled hp]
    simp only [iff_true, Bool.false_eq_true, iff_false, and_self]

/-- The first alternative matches a part of the text, but the second all of it; and an opening
parenthesis alone is no pattern. -/
theorem validate_alternatives :
    ((validate (.str "b") (.str "(") .isRegexMatch).passed = false ∧
      (validate (.str "b") (.str "(") .isRegexNotMatch).passed = false) ∧
    (validate (.str "baa") (.str "b|ba*") .isRegexMatch).passed = true ∧
      (validate (.str "ab") (.str "b|ba*") .isRegexNotMatch).passed = true := by
  have hunclosed : ¬ClosesUnopened .initial "(".toList := by
    rintro (⟨hskip, -⟩ | ⟨hskip, hstep, hcloses⟩)
    · cases hskip
    · cases hskip
      cases hstep
      rcases hcloses with ⟨hskip, -⟩ | ⟨hskip, -⟩ <;> cases hskip
  have hread : ((spelled? "b|ba*".toList).any fun p => decide (p.depth + 2 ≤ maxDepth) &&
      (anchoredPart p).outline.fits && p.regex.matchesWhole "baa".toList &&
      !p.regex.matchesWhole "ab".toList) = true := by decide +kernel
  obtain ⟨p, hp, hpart⟩ := (Option.any_eq_true _ _).mp hread
  simp only [Bool.and_eq_true, decide_eq_true_eq, Bool.not_eq_true', ← Bool.not_eq_true,
    matchesWhole_iff] at hpart
  obtain ⟨⟨⟨hshallow, hsmall⟩, hbaa⟩, hab⟩ := hpart
  have hanchors : Anchors "b|ba*".toList p := ⟨by decide +kernel, hshallow, hsmall⟩
  exact ⟨(validate_pattern "b" "(").1 (by decide +kernel) hunclosed,
    ((validate_pattern "baa" "b|ba*").2 p hp).1.mpr ⟨hanchors, hbaa⟩,
    ((validate_pattern "ab" "b|ba*").2 p hp).2.mpr ⟨hanchors, hab⟩⟩

/-- A text that is no pattern is matched with if it closes its group and opens another; and a
pattern that ends in a comment is refused. -/
theorem pattern_pasted :
    (parse? "a)|(?:b".toList = none ∧
      (validate (.str "ax") (.str "a)|(?:b") .isRegexMatch).passed = true) ∧
    ((∃ r outline, parse? "(?x)a#b".toList = some (r, outline) ∧ r.Matches "a".toList) ∧
      (validate (.str "a") (.str "(?x)a#b") .isRegexMatch).passed = false) := by
  have hread : ((parse? "(?x)a#b".toList).any fun (r, _) => r.matchesWhole "a".toList) = true := by
    decide +kernel
  obtain ⟨⟨r, outline⟩, hr, hmatches⟩ := (Option.any_eq_true _ _).mp hread
  exact ⟨⟨by decide +kernel, by decide +kernel⟩,
    ⟨r, outline, hr, (matchesWhole_iff r _).mp hmatches⟩, by decide +kernel⟩

end CaseScript
