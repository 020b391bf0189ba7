import CaseScript.Proofs.Sql.Sigma
import CaseScript.Proofs.Text.Words

/-!
# Proofs/Sql/Even — even text, piece by piece

Even text is made of a statement character by character, but for the form of sigmas, and by keeping
one blank of each run (`map_plain_evenly`).  Both leave a part a part (`isPart_evenly`), so the even
text of a statement with a part is joined from what stands before it, the part and what stands behind
it (`map_plain_evenly_part`).
-/

namespace CaseScript

open Unicode (plain)

namespace Text

theorem singleBlanks_map_plain (afterBlank : Bool) (cs : List Char) :
    singleBlanks afterBlank (cs.map plain) = (singleBlanks afterBlank cs).map plain := by
  induction cs generalizing afterBlank with
  | nil => rfl
  | cons c cs ih =>
    rw [List.map_cons, singleBlanks, singleBlanks, Unicode.isBlank_plain, ih, ih]
    split
    · split <;> rfl
    · rfl

end Text

namespace Sql

/-! ## Parts in even text -/

section FlatMap

variable {f : Char → List Char} (hmarks : ∀ m ∈ marks, f m = [m])
  (hothers : ∀ c, c ∉ marks → Unmarked (f c))

include hmarks hothers

theorem Scan.after_flatMap (s : Scan) (cs : List Char) : s.after (cs.flatMap f) = s.after cs := by
  induction cs generalizing s with
  | nil => rfl
  | cons c cs ih =>
    rw [List.flatMap_cons, after_append, after_cons, ih]
    by_cases hc : c ∈ marks
    · rw [hmarks c hc]
      rfl
    · rw [after_of_unmarked (hothers c hc), next_of_not_mem_marks hc]

theorem Scan.Hides.flatMap {s : Scan} {cs : List Char} (h : s.Hides cs) :
    s.Hides (cs.flatMap f) := by
  induction cs generalizing s with
  | nil => exact trivial
  | cons c cs ih =>
    obtain ⟨hhead, hcs⟩ := h
    rw [List.flatMap_cons, hides_append]
    by_cases hc : c ∈ marks
    · rw [hmarks c hc]
      exact ⟨⟨hhead, trivial⟩, ih hcs⟩
    · have hinside : ¬s.isTop := fun htop => by
        simpa [isMark_of_not_mem_marks hc] using hhead htop
      rw [next_of_not_mem_marks hc] at hcs
      rw [after_of_unmarked (hothers c hc)]
      exact ⟨hides_of_not_isTop hinside (hothers c hc), ih hcs⟩

theorem IsPart.flatMap {w : List Char} (hw : IsPart w) : IsPart (w.flatMap f) where
  hides s hs := (hw.hides s hs).flatMap hmarks hothers
  after s hs := (s.after_flatMap hmarks hothers w).trans (hw.after s hs)
  head := by
    obtain ⟨m, hm, rest, rfl⟩ := hw.head
    exact ⟨m, hm, rest.flatMap f, by rw [List.flatMap_cons, hmarks m hm, List.singleton_append]⟩
  last := by
    obtain ⟨m, hm, rest, rfl⟩ := hw.last
    exact ⟨m, hm, rest.flatMap f, by
      rw [List.flatMap_append, List.flatMap_singleton, hmarks m hm]⟩

end FlatMap

theorem not_mem_marks_of_isBlank {c : Char} (h : Unicode.isBlank c) : c ∉ marks := fun hc =>
  not_isBlank_of_mem_marks c hc h

theorem Scan.next_blank (s : Scan) : s.next ' ' = s :=
  next_of_not_mem_marks (by decide) s

theorem Scan.after_singleBlanks (s : Scan) (afterBlank : Bool) (cs : List Char) :
    s.after (Text.singleBlanks afterBlank cs) = s.after cs := by
  induction cs generalizing s afterBlank with
  | nil => rfl
  | cons c cs ih =>
    rw [Text.singleBlanks]
    split
    · rename_i hc
      rw [after_cons, next_of_not_mem_marks (not_mem_marks_of_isBlank hc)]
      split
      · exact ih s true
      · rw [after_cons, next_blank]
        exact ih s true
    · exact ih (s.next c) false

theorem Scan.Hides.singleBlanks {s : Scan} {cs : List Char} (h : s.Hides cs) (afterBlank : Bool) :
    s.Hides (Text.singleBlanks afterBlank cs) := by
  induction cs generalizing s afterBlank with
  | nil => exact trivial
  | cons c cs ih =>
    obtain ⟨hhead, hcs⟩ := h
    rw [Text.singleBlanks]
    split
    · rename_i hc
      have hmark := not_mem_marks_of_isBlank hc
      rw [next_of_not_mem_marks hmark] at hcs
      split
      · exact ih hcs true
      · refine ⟨fun htop => ?_, ?_⟩
        · simpa [isMark_of_not_mem_marks hmark] using hhead htop
        · rw [next_blank]
          exact ih hcs true
    · exact ⟨hhead, ih hcs false⟩

theorem IsPart.singleBlanks {w : List Char} (hw : IsPart w) (afterBlank : Bool) :
    IsPart (Text.singleBlanks afterBlank w) where
  hides s hs := (hw.hides s hs).singleBlanks afterBlank
  after s hs := (s.after_singleBlanks afterBlank w).trans (hw.after s hs)
  head := by
    obtain ⟨m, hm, rest, rfl⟩ := hw.head
    exact ⟨m, hm, _, if_neg (not_isBlank_of_mem_marks m hm)⟩
  last := by
    obtain ⟨m, hm, rest, rfl⟩ := hw.last
    exact ⟨m, hm, _, Text.singleBlanks_append_cons (not_isBlank_of_mem_marks m hm) afterBlank rest []⟩

theorem singleBlanks_part {w : List Char} (hw : IsPart w) (afterBlank : Bool) (x z : List Char) :
    Text.singleBlanks afterBlank (x ++ (w ++ z)) =
      Text.singleBlanks afterBlank x ++
        (Text.singleBlanks true w ++ Text.singleBlanks false z) := by
  obtain ⟨m, hm, rest, hrest⟩ := hw.head
  obtain ⟨m', hm', rest', hrest'⟩ := hw.last
  have hfront : Text.singleBlanks afterBlank (x ++ (w ++ z)) =
      Text.singleBlanks afterBlank x ++ Text.singleBlanks true (w ++ z) := by
    have hblank := not_isBlank_of_mem_marks m hm
    rw [hrest, List.cons_append, Text.singleBlanks_append_cons hblank, Text.singleBlanks,
      if_neg hblank]
  have hback : Text.singleBlanks true (w ++ z) =
      Text.singleBlanks true w ++ Text.singleBlanks false z := by
    have hblank := not_isBlank_of_mem_marks m' hm'
    rw [hrest', List.append_assoc, List.singleton_append, Text.singleBlanks_append_cons hblank,
      Text.singleBlanks_append_cons hblank]
    simp [Text.singleBlanks]
  rw [hfront, hback]

/-! ## Even text -/

/-- A statement without its comments. -/
def uncommented (sql : String) : List Char := dropLines false (dropBlocksFrom 0 sql.toList)

theorem dropBlocksFrom_of_not_contains {cs : List Char}
    (h : Text.contains ['/', '*'] cs = false) : dropBlocksFrom 0 cs = cs := by
  induction cs with
  | nil => rfl
  | cons c cs ih =>
    obtain ⟨hfront, hcs⟩ := contains_cons_eq_false c h
    unfold dropBlocksFrom
    split
    · cases hfront
    · rw [ih hcs]

theorem dropLines_of_not_contains {cs : List Char} (h : Text.contains ['-', '-'] cs = false) :
    dropLines false cs = cs := by
  induction cs with
  | nil => rfl
  | cons c cs ih =>
    obtain ⟨hfront, hcs⟩ := contains_cons_eq_false c h
    unfold dropLines
    split
    · cases hfront
    · rw [ih hcs]

/-- Without what begins comments, nothing is dropped. -/
theorem uncommented_of_not_contains {sql : String}
    (hblocks : Text.contains ['/', '*'] sql.toList = false)
    (hlines : Text.contains ['-', '-'] sql.toList = false) : uncommented sql = sql.toList := by
  rw [uncommented, dropBlocksFrom_of_not_contains hblocks, dropLines_of_not_contains hlines]

/-- Blanks stand for control characters. -/
def blankControl (c : Char) : Char := if Unicode.isControl c then ' ' else c

/-- The words of a text without comments in lower case, with one blank between them. -/
def evenly (cs : List Char) : List Char :=
  List.intercalate [' '] (Text.words ((Unicode.lower cs).map blankControl))

/-- The even text of what stands at the front of a text, with the blank at its end. -/
def evenFront (cs : List Char) : List Char :=
  Text.singleBlanks true ((Unicode.lower cs).map blankControl)

/-- The even text of what stands at the end of a text, behind a character that is not blank. -/
def evenBack (cs : List Char) : List Char :=
  Text.trimEnd (Text.singleBlanks false ((Unicode.lower cs).map blankControl))

/-- What a character becomes in even text, up to the form of sigmas. -/
def evenChar (c : Char) : List Char := (Unicode.lowered c).map fun d => blankControl (plain d)

theorem blankControl_plain (c : Char) : blankControl (plain c) = plain (blankControl c) := by
  by_cases hc : c = 'ς'
  · subst hc
    rfl
  · have hplain : plain c = c := if_neg hc
    unfold blankControl
    rw [hplain]
    split
    · rfl
    · exact hplain.symm

theorem map_plain_lower_blankControl (cs : List Char) :
    ((Unicode.lower cs).map blankControl).map plain = cs.flatMap evenChar := by
  have hcomp : plain ∘ blankControl = blankControl ∘ plain :=
    funext fun c => (blankControl_plain c).symm
  rw [List.map_map, hcomp, ← List.map_map, Unicode.map_plain_lower, List.map_flatMap]
  simp only [List.map_map]
  rfl

theorem map_plain_evenFront (cs : List Char) :
    (evenFront cs).map plain = Text.singleBlanks true (cs.flatMap evenChar) := by
  rw [evenFront, ← Text.singleBlanks_map_plain, map_plain_lower_blankControl]

theorem map_plain_evenBack (cs : List Char) :
    (evenBack cs).map plain = Text.trimEnd (Text.singleBlanks false (cs.flatMap evenChar)) := by
  rw [evenBack, ← Text.trimEnd_map_plain, ← Text.singleBlanks_map_plain,
    map_plain_lower_blankControl]

theorem map_plain_evenly (cs : List Char) :
    (evenly cs).map plain = Text.trimEnd (Text.singleBlanks true (cs.flatMap evenChar)) := by
  rw [evenly, Text.intercalate_words, ← Text.trimEnd_map_plain, ← map_plain_evenFront, evenFront]

theorem evenChar_of_mem_marks : ∀ m ∈ marks, evenChar m = [m] :=
  forall_mem_marks.mpr (by decide)

theorem unmarked_evenChar (c : Char) (hc : c ∉ marks) : Unmarked (evenChar c) := by
  intro d hd hmark
  obtain ⟨e, he, rfl⟩ := List.mem_map.mp hd
  have hplain : plain e ∈ marks := by
    unfold blankControl at hmark
    split at hmark
    · exact absurd hmark (by decide)
    · exact hmark
  have hsame : plain e = e := by
    refine ((Unicode.plain_eq_iff ?_).mp rfl).symm
    have := toNat_of_mem_marks _ hplain
    omega
  rw [hsame] at hplain
  have hsign : 32 ≤ e.toNat ∧ e.toNat < 48 := by
    have := toNat_of_mem_marks e hplain
    omega
  rw [Unicode.eq_of_mem_lowered hsign he] at hc
  exact hc hplain

/-- The even text of a part is a part. -/
theorem isPart_evenly {w : List Char} (hw : IsPart w) :
    (evenly w).map plain = Text.singleBlanks true (w.flatMap evenChar) ∧
      IsPart ((evenly w).map plain) := by
  have hpart := (hw.flatMap evenChar_of_mem_marks unmarked_evenChar).singleBlanks true
  have htrim := trimEnd_part hpart [] []
  have hsame : (evenly w).map plain = Text.singleBlanks true (w.flatMap evenChar) := by
    rw [map_plain_evenly]
    simpa [Text.trimEnd, Text.trimStart] using htrim
  exact ⟨hsame, hsame ▸ hpart⟩

/-- **The even text of a statement is joined from those of its parts**, up to the form of sigmas. -/
theorem map_plain_evenly_part {w : List Char} (hw : IsPart w) (pre post : List Char) :
    (evenly (pre ++ (w ++ post))).map plain =
      (evenFront pre).map plain ++ ((evenly w).map plain ++ (evenBack post).map plain) := by
  have hchars := hw.flatMap evenChar_of_mem_marks unmarked_evenChar
  rw [map_plain_evenly, List.flatMap_append, List.flatMap_append, singleBlanks_part hchars,
    trimEnd_part (hchars.singleBlanks true), map_plain_evenFront, (isPart_evenly hw).1,
    map_plain_evenBack]

end Sql

end CaseScript
