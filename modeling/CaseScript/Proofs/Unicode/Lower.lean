import CaseScript.Proofs.Unicode.Words
import CaseScript.Unicode.Case

/-!
# Proofs/Unicode/Lower — lower case, character by character

The lower case of a text depends on where its words end in the form of a sigma only.  Up to that form
(`plain`) every character has its lower case by itself (`map_plain_lower`), so that lower-casing and
joining change places.  At the ends of a text a character without case changes nothing for the rest
(`lower_percent`, `lower_append_percent`), since a word ends there anyway.  Between two others a text
has the lower case that it has elsewhere just if its sigmas end the same words (`lowerBetween_eq_iff`),
and what is in lower case stays as it is between any two (`lowerBetween_eq_self_iff`).
-/

namespace CaseScript.Unicode

/-- The character with one form of the small sigma for both. -/
def plain (c : Char) : Char := if c = 'ς' then 'σ' else c

/-- The lower case of a character that stands alone. -/
def lowered (c : Char) : List Char :=
  if c = 'Σ' then ['σ']
  else if c = 'İ' then ['i', Char.ofNat 0x307]
  else if c.toNat < 128 then [c.toLower]
  else [lowerChar c]

theorem map_plain_lowerFrom (before cs : List Char) :
    (lowerFrom before cs).map plain = cs.flatMap fun c => (lowered c).map plain := by
  induction cs generalizing before with
  | nil => rfl
  | cons c cs ih =>
    rw [lowerFrom, List.map_append, ih, List.flatMap_cons, lowered]
    congr 1
    split
    · split <;> rfl
    · rfl

/-- **Up to the form of sigmas, every character has its lower case by itself.** -/
theorem map_plain_lower (cs : List Char) :
    (lower cs).map plain = cs.flatMap fun c => (lowered c).map plain :=
  map_plain_lowerFrom [] cs

/-! ## What has another lower case -/

/-- Stretches of characters behind the digits, without blanks and without control characters. -/
def letterSpans : Spans :=
  [⟨0x61, 0x7e⟩, ⟨0xa1, 0x167f⟩, ⟨0x1681, 0x1fff⟩, ⟨0x2060, 0x2fff⟩, ⟨0x3001, 0xd7ff⟩,
    ⟨0xe000, maxPoint⟩]

/-- The partners at one distance lie in one stretch of letters. -/
theorem partners_of_mem_lowerShifts : ∀ s ∈ lowerShifts, ∃ v ∈ letterSpans,
    (v.first : Int) ≤ s.first + s.distance ∧
      (s.first + s.more * s.step : Int) + s.distance ≤ v.last := by
  have htable : lowerRuns = [_, _, _, _, _, _, _, _, _].map String.ofList := rfl
  rw [lowerShifts, Shift.unpack, Text.unpack, htable, List.flatMap_map]
  simp only [String.toList_ofList]
  decide +kernel

theorem mem_letterSpans_iff {c : Char} :
    letterSpans.mem c ↔ ∃ v ∈ letterSpans, v.first ≤ c.toNat ∧ c.toNat ≤ v.last := by
  simp [Spans.mem, Spans.holds, Span.holds]

theorem mem_letterSpans_ofNat {v : Span} (hv : v ∈ letterSpans) {n : Nat}
    (hn : v.first ≤ n ∧ n ≤ v.last) : letterSpans.mem (Char.ofNat n) := by
  have hvalid : n.isValidChar := by
    simp only [letterSpans, List.mem_cons, List.not_mem_nil, or_false] at hv
    unfold Nat.isValidChar
    obtain rfl | rfl | rfl | rfl | rfl | rfl := hv <;> simp only [maxPoint] at hn <;> omega
  have hcode : (Char.ofNat n).toNat = n := by
    rw [Char.ofNat, dif_pos hvalid]
    rfl
  exact mem_letterSpans_iff.mpr ⟨v, hv, hcode.symm ▸ hn⟩

/-- What is not in the table is its own lower case. -/
theorem lowerChar_eq_or (c : Char) : lowerChar c = c ∨ letterSpans.mem (lowerChar c) := by
  unfold lowerChar partner?
  cases hfind : lowerShifts.find? (·.holds c.toNat) with
  | none => exact .inl rfl
  | some s =>
    obtain ⟨v, hv, hfirst, hlast⟩ :=
      partners_of_mem_lowerShifts s (List.mem_of_find?_eq_some hfind)
    have hholds := List.find?_some hfind
    simp only [Shift.holds, Bool.and_eq_true, decide_eq_true_eq] at hholds
    refine .inr (mem_letterSpans_ofNat hv ?_)
    unfold Shift.partner
    omega

theorem toLower_eq_or (c : Char) : c.toLower = c ∨ letterSpans.mem c.toLower := by
  unfold Char.toLower
  split
  · rename_i hupper
    right
    have hge : 65 ≤ c.toNat := hupper.1
    have hle : c.toNat ≤ 90 := hupper.2
    refine mem_letterSpans_iff.mpr ⟨⟨0x61, 0x7e⟩, List.mem_cons_self, ?_⟩
    change 0x61 ≤ (c.val + 32).toNat ∧ (c.val + 32).toNat ≤ 0x7e
    rw [UInt32.toNat_add]
    change 0x61 ≤ (c.toNat + 32) % 4294967296 ∧ (c.toNat + 32) % 4294967296 ≤ 0x7e
    omega
  · exact .inl rfl

/-- **A character is its own lower case, or else that lies in the stretches of letters.** -/
theorem lowered_eq_or (c : Char) : lowered c = [c] ∨ ∀ d ∈ lowered c, letterSpans.mem d := by
  unfold lowered
  split
  · exact .inr (List.forall_mem_singleton.mpr (by decide))
  · split
    · exact .inr (List.forall_mem_cons.mpr ⟨by decide, List.forall_mem_singleton.mpr (by decide)⟩)
    · split
      · exact (toLower_eq_or c).imp (congrArg ([·])) List.forall_mem_singleton.mpr
      · exact (lowerChar_eq_or c).imp (congrArg ([·])) List.forall_mem_singleton.mpr

/-- A sign between the blank and the digits is the lower case of itself only. -/
theorem eq_of_mem_lowered {c d : Char} (hd : 32 ≤ d.toNat ∧ d.toNat < 48) (h : d ∈ lowered c) :
    c = d := by
  obtain hsame | hletters := lowered_eq_or c
  · rw [hsame] at h
    exact (List.mem_singleton.mp h).symm
  · obtain ⟨v, hv, hfirst, -⟩ := mem_letterSpans_iff.mp (hletters d h)
    have hbehind : ∀ v ∈ letterSpans, 48 ≤ v.first := by decide
    have := hbehind v hv
    omega

/-- Neither white space nor a control character. -/
def isVisible (c : Char) : Bool := !isBlank c && !isControl c

theorem isVisible_iff {c : Char} : isVisible c ↔ ¬isBlank c ∧ ¬isControl c := by
  simp [isVisible]

theorem isVisible_of_mem_letterSpans {c : Char} (h : letterSpans.mem c) : isVisible c := by
  obtain ⟨v, hv, hn⟩ := mem_letterSpans_iff.mp h
  simp only [letterSpans, List.mem_cons, List.not_mem_nil, or_false] at hv
  simp only [isVisible, isBlank, isControl, Bool.not_or, Bool.and_eq_true, Bool.not_eq_true',
    Bool.and_eq_false_iff, decide_eq_false_iff_not, beq_eq_false_iff_ne]
  obtain rfl | rfl | rfl | rfl | rfl | rfl := hv <;> simp only [maxPoint] at hn <;> omega

/-- The lower case of what is visible is visible. -/
theorem isVisible_of_mem_lowered {c d : Char} (hc : isVisible c) (h : d ∈ lowered c) :
    isVisible d := by
  obtain hsame | hletters := lowered_eq_or c
  · rw [hsame] at h
    rwa [List.mem_singleton.mp h]
  · exact isVisible_of_mem_letterSpans (hletters d h)

/-! ## Lower case beside a character without case -/

/-- What has no case is not found when a letter with case is looked for behind a text. -/
theorem casedFollows_append {m : Char} (hm : isCased m = false) (cs : List Char) :
    casedFollows (cs ++ [m]) = casedFollows cs := by
  have hlone : casedFollows [m] = false := by
    unfold casedFollows
    by_cases hignored : isCaseIgnorable m
    · rw [List.dropWhile_cons_of_pos hignored]
      rfl
    · rw [List.dropWhile_cons_of_neg hignored]
      exact hm
  induction cs with
  | nil => exact hlone
  | cons c cs ih =>
    unfold casedFollows at ih ⊢
    by_cases hignored : isCaseIgnorable c
    · rw [List.cons_append, List.dropWhile_cons_of_pos hignored,
        List.dropWhile_cons_of_pos hignored]
      exact ih
    · rw [List.cons_append, List.dropWhile_cons_of_neg hignored,
        List.dropWhile_cons_of_neg hignored]

/-- A text reads the same behind a character without case as at the start. -/
theorem lowerFrom_append {m : Char} (hm : isCased m = false) (before cs : List Char) :
    lowerFrom (before ++ [m]) cs = lowerFrom before cs := by
  induction cs generalizing before with
  | nil => rfl
  | cons c cs ih =>
    rw [lowerFrom, lowerFrom, casedFollows_append hm, ← List.cons_append, ih]

/-- A text reads the same before a character without case as at the end. -/
theorem lowerFrom_append_right {m : Char} (hm : isCased m = false) (before cs : List Char) :
    lowerFrom before (cs ++ [m]) = lowerFrom before cs ++ lowerFrom (cs.reverse ++ before) [m] := by
  induction cs generalizing before with
  | nil => rfl
  | cons c cs ih =>
    rw [List.cons_append, lowerFrom, lowerFrom, casedFollows_append hm, ih, List.append_assoc,
      List.reverse_cons, List.append_assoc]
    rfl

/-- The table of letters with case begins behind the punctuation. -/
theorem casedSet_begins : BeginBehind 41 casedSet := by
  decide +kernel

theorem not_isCased_percent : isCased '%' = false :=
  Spans.any_holds_eq_false (Spans.pairwise_ofRuns 0 _).1 fun s hs =>
    Nat.lt_trans (by decide) (casedSet_begins s hs)

theorem lower_percent (cs : List Char) : lower ('%' :: cs) = '%' :: lower cs :=
  congrArg ('%' :: ·) (lowerFrom_append not_isCased_percent [] cs)

theorem lower_append_percent (cs : List Char) : lower (cs ++ ['%']) = lower cs ++ ['%'] :=
  lowerFrom_append_right not_isCased_percent [] cs

/-! ## Lower case between other texts -/

/-- Whether a sigma between two texts, the first given in reverse, ends a word. -/
def endsWord (before after : List Char) : Bool := casedFollows before && !casedFollows after

/-- The lower case of a character between two texts, the first given in reverse. -/
def loweredBetween (before after : List Char) (c : Char) : List Char :=
  if c = 'Σ' then [if endsWord before after then 'ς' else 'σ'] else lowered c

/-- The lower case of a text between two others, the first given in reverse. -/
def lowerBetween (before after : List Char) : List Char → List Char
  | [] => []
  | c :: cs => loweredBetween before (cs ++ after) c ++ lowerBetween (c :: before) after cs

theorem lowerFrom_eq_lowerBetween (before cs : List Char) :
    lowerFrom before cs = lowerBetween before [] cs := by
  induction cs generalizing before with
  | nil => rfl
  | cons c cs ih =>
    rw [lowerFrom, lowerBetween, ih, List.append_nil, loweredBetween, lowered, endsWord]
    split
    · rfl
    · rfl

/-- **The lower case of a text is joined from those of its parts**, each between the others. -/
theorem lowerBetween_append (before after a b : List Char) :
    lowerBetween before after (a ++ b) =
      lowerBetween before (b ++ after) a ++ lowerBetween (a.reverse ++ before) after b := by
  induction a generalizing before with
  | nil => rfl
  | cons c a ih =>
    rw [List.cons_append, lowerBetween, lowerBetween, ih, List.append_assoc, List.append_assoc,
      List.reverse_cons, List.append_assoc]
    rfl

theorem map_plain_loweredBetween (before after : List Char) (c : Char) :
    (loweredBetween before after c).map plain = (lowered c).map plain := by
  unfold loweredBetween
  split
  · rename_i hc
    subst hc
    split <;> rfl
  · rfl

/-- **Up to the form of sigmas, it does not matter what a text stands between.** -/
theorem map_plain_lowerBetween (before after cs : List Char) :
    (lowerBetween before after cs).map plain = cs.flatMap fun c => (lowered c).map plain := by
  induction cs generalizing before with
  | nil => rfl
  | cons c cs ih =>
    rw [lowerBetween, List.map_append, map_plain_loweredBetween, ih, List.flatMap_cons]

/-- Two texts may stand around a text as well as two others if each capital sigma of the text ends a
word between the ones just if it does between the others. -/
def SameEnds (before after before' after' cs : List Char) : Prop :=
  ∀ a b, cs = a ++ 'Σ' :: b →
    endsWord (a.reverse ++ before) (b ++ after) = endsWord (a.reverse ++ before') (b ++ after')

theorem loweredBetween_eq_iff {before after before' after' : List Char} {c : Char} :
    loweredBetween before after c = loweredBetween before' after' c ↔
      (c = 'Σ' → endsWord before after = endsWord before' after') := by
  unfold loweredBetween
  by_cases hc : c = 'Σ'
  · cases endsWord before after <;> cases endsWord before' after' <;> simp [hc]
  · simp [hc]

theorem length_loweredBetween (before after : List Char) (c : Char) :
    (loweredBetween before after c).length = (lowered c).length := by
  simpa using congrArg List.length (map_plain_loweredBetween before after c)

theorem sameEnds_cons {before after before' after' cs : List Char} {c : Char} :
    SameEnds before after before' after' (c :: cs) ↔
      (c = 'Σ' → endsWord before (cs ++ after) = endsWord before' (cs ++ after')) ∧
        SameEnds (c :: before) after (c :: before') after' cs := by
  refine ⟨fun h => ⟨?_, fun a b hcs => ?_⟩, fun ⟨hfirst, hrest⟩ a b hcs => ?_⟩
  · rintro rfl
    exact h [] cs rfl
  · simpa using h (c :: a) b (congrArg (c :: ·) hcs)
  · cases a with
    | nil =>
      obtain ⟨rfl, rfl⟩ := List.cons.inj hcs
      exact hfirst rfl
    | cons d a =>
      obtain ⟨rfl, rfl⟩ := List.cons.inj hcs
      simpa using hrest a b rfl

/-- **A text has the same lower case between other texts just if its sigmas end the same words.** -/
theorem lowerBetween_eq_iff {before after before' after' cs : List Char} :
    lowerBetween before after cs = lowerBetween before' after' cs ↔
      SameEnds before after before' after' cs := by
  induction cs generalizing before before' with
  | nil => exact iff_of_true rfl fun a b h => by simp at h
  | cons c cs ih =>
    have hlength : (loweredBetween before (cs ++ after) c).length =
        (loweredBetween before' (cs ++ after') c).length := by
      rw [length_loweredBetween, length_loweredBetween]
    rw [lowerBetween, lowerBetween, sameEnds_cons, ← ih, ← loweredBetween_eq_iff]
    exact ⟨fun h => List.append_inj h hlength, fun ⟨hc, hcs⟩ => hc ▸ hcs ▸ rfl⟩

/-! ## Texts in lower case -/

theorem loweredBetween_append_eq_cons_iff {before after x y : List Char} {c : Char} :
    loweredBetween before after c ++ x = c :: y ↔ lowered c = [c] ∧ x = y := by
  by_cases hsigma : c = 'Σ'
  · subst hsigma
    have hlowered : lowered 'Σ' ≠ ['Σ'] := by decide
    refine iff_of_false (fun h => ?_) fun h => hlowered h.1
    have hhead := (List.cons.inj h).1
    split at hhead <;> exact absurd hhead (by decide)
  · rw [loweredBetween, if_neg hsigma]
    by_cases hdotted : c = 'İ'
    · subst hdotted
      have hlowered : lowered 'İ' ≠ ['İ'] := by decide
      refine iff_of_false (fun h => ?_) fun h => hlowered h.1
      exact absurd (List.cons.inj h).1 (by decide)
    · rw [lowered, if_neg hsigma, if_neg hdotted]
      split <;> simp

/-- **A text is in lower case just if each of its characters is**, whatever stands around it. -/
theorem lowerBetween_eq_self_iff {before after cs : List Char} :
    lowerBetween before after cs = cs ↔ ∀ c ∈ cs, lowered c = [c] := by
  induction cs generalizing before with
  | nil => exact iff_of_true rfl fun c hc => absurd hc List.not_mem_nil
  | cons c cs ih => rw [lowerBetween, loweredBetween_append_eq_cons_iff, ih, List.forall_mem_cons]

theorem lower_eq_self_iff {cs : List Char} : lower cs = cs ↔ ∀ c ∈ cs, lowered c = [c] := by
  rw [lower, lowerFrom_eq_lowerBetween, lowerBetween_eq_self_iff]

/-- What stands in front of a text and is in lower case stays as it is. -/
theorem lower_append_of_lower {cs : List Char} (h : lower cs = cs) (rest : List Char) :
    lower (cs ++ rest) = cs ++ lowerBetween cs.reverse [] rest := by
  rw [lower, lowerFrom_eq_lowerBetween, lowerBetween_append,
    lowerBetween_eq_self_iff.mpr (lower_eq_self_iff.mp h), List.append_nil]

theorem lower_append_eq_self {a b : List Char} (ha : lower a = a) (hb : lower b = b) :
    lower (a ++ b) = a ++ b := by
  rw [lower_eq_self_iff] at *
  exact List.forall_mem_append.mpr ⟨ha, hb⟩

theorem loweredBetween_ne_nil (before after : List Char) (c : Char) :
    loweredBetween before after c ≠ [] := by
  unfold loweredBetween lowered
  grind

theorem isVisible_of_mem_loweredBetween {before after : List Char} {c d : Char} (hc : isVisible c)
    (h : d ∈ loweredBetween before after c) : isVisible d := by
  unfold loweredBetween at h
  split at h
  · rw [List.mem_singleton.mp h]
    split <;> decide
  · exact isVisible_of_mem_lowered hc h

/-- **A text in which something is visible has such a lower case**, whatever stands around it. -/
theorem exists_isVisible_lowerBetween {cs : List Char} {c : Char} (hmem : c ∈ cs)
    (hc : isVisible c) (before after : List Char) :
    ∃ d ∈ lowerBetween before after cs, isVisible d := by
  obtain ⟨x, y, rfl⟩ := List.append_of_mem hmem
  obtain ⟨d, hd⟩ := List.exists_mem_of_ne_nil _
    (loweredBetween_ne_nil (x.reverse ++ before) (y ++ after) c)
  refine ⟨d, ?_, isVisible_of_mem_loweredBetween hc hd⟩
  rw [lowerBetween_append, lowerBetween]
  exact List.mem_append_right _ (List.mem_append_left _ hd)

end CaseScript.Unicode
