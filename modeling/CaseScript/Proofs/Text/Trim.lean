import CaseScript.Text.Search

/-!
# Proofs/Text/Trim — texts without white space around them

A text is trimmed exactly if neither its first nor its last character is blank
(`trim_eq_self_iff`); so trimming is idempotent, and trimmed texts stay so when joined.
-/

namespace CaseScript.Text

/-- The first character, if there is one, is not blank. -/
def NoBlankHead (cs : List Char) : Prop := ∀ c ∈ cs.head?, ¬Unicode.isBlank c

theorem trimStart_eq_self_iff {cs : List Char} : trimStart cs = cs ↔ NoBlankHead cs := by
  cases cs with
  | nil => simp [trimStart, NoBlankHead]
  | cons c cs =>
    by_cases hc : Unicode.isBlank c
    · rw [trimStart, List.dropWhile_cons_of_pos hc]
      refine ⟨fun h => ?_, fun h => absurd hc (h c rfl)⟩
      have hlength := congrArg List.length h
      have hle := (List.dropWhile_suffix (l := cs) Unicode.isBlank).length_le
      rw [List.length_cons] at hlength
      omega
    · rw [trimStart, List.dropWhile_cons_of_neg hc]
      refine ⟨fun _ => ?_, fun _ => rfl⟩
      rintro _ ⟨⟩
      exact hc

theorem noBlankHead_trimStart (cs : List Char) : NoBlankHead (trimStart cs) := by
  intro c hc
  have h := List.head?_dropWhile_not Unicode.isBlank cs
  rw [trimStart] at hc
  rw [Option.mem_def.mp hc] at h
  simpa using h

theorem NoBlankHead.append {a b : List Char} (ha : NoBlankHead a) (hb : NoBlankHead b) :
    NoBlankHead (a ++ b) := by
  cases a with
  | nil => exact hb
  | cons c a => exact ha

theorem NoBlankHead.front {a b : List Char} (hb : NoBlankHead b) (h : a <+: b) :
    NoBlankHead a := by
  obtain ⟨rest, rfl⟩ := h
  cases a with
  | nil => exact nofun
  | cons c a => exact hb

theorem trimEnd_front (cs : List Char) : trimEnd cs <+: cs := by
  have hsuffix : trimStart cs.reverse <:+ cs.reverse := List.dropWhile_suffix _
  rw [trimEnd, ← List.reverse_suffix, List.reverse_reverse]
  exact hsuffix

theorem noBlankHead_reverse_trimEnd (cs : List Char) : NoBlankHead (trimEnd cs).reverse := by
  rw [trimEnd, List.reverse_reverse]
  exact noBlankHead_trimStart _

theorem noBlankHead_trim (cs : List Char) : NoBlankHead (trim cs) :=
  (noBlankHead_trimStart cs).front (trimEnd_front _)

theorem noBlankHead_reverse_trim (cs : List Char) : NoBlankHead (trim cs).reverse :=
  noBlankHead_reverse_trimEnd _

/-- A trimmed text begins and ends with a character that is not blank. -/
theorem trim_eq_self_iff {cs : List Char} :
    trim cs = cs ↔ NoBlankHead cs ∧ NoBlankHead cs.reverse := by
  constructor
  · intro h
    rw [← h]
    exact ⟨noBlankHead_trim cs, noBlankHead_reverse_trim cs⟩
  · rintro ⟨hhead, hlast⟩
    rw [trim, trimEnd, trimStart_eq_self_iff.mpr hhead, trimStart_eq_self_iff.mpr hlast,
      List.reverse_reverse]

theorem trim_eq_self_of_not_isBlank {cs : List Char} (h : ∀ c ∈ cs, ¬Unicode.isBlank c) :
    trim cs = cs :=
  trim_eq_self_iff.mpr ⟨fun c hc => h c (List.mem_of_mem_head? hc),
    fun c hc => h c (List.mem_reverse.mp (List.mem_of_mem_head? hc))⟩

/-- A text is trimmed on either side of what is not blank. -/
theorem trimStart_append_cons {c : Char} (hc : ¬Unicode.isBlank c) (a b : List Char) :
    trimStart (a ++ c :: b) = trimStart a ++ c :: b := by
  induction a with
  | nil => exact List.dropWhile_cons_of_neg hc
  | cons d a ih =>
    by_cases hd : Unicode.isBlank d
    · rw [trimStart, trimStart, List.cons_append, List.dropWhile_cons_of_pos hd,
        List.dropWhile_cons_of_pos hd]
      exact ih
    · rw [trimStart, trimStart, List.cons_append, List.dropWhile_cons_of_neg hd,
        List.dropWhile_cons_of_neg hd]
      rfl

theorem trimEnd_append_cons {c : Char} (hc : ¬Unicode.isBlank c) (a b : List Char) :
    trimEnd (a ++ c :: b) = a ++ c :: trimEnd b := by
  have hreverse : (a ++ c :: b).reverse = b.reverse ++ c :: a.reverse := by simp
  rw [trimEnd, hreverse, trimStart_append_cons hc, trimEnd]
  simp

theorem trimEnd_cons (c : Char) (cs : List Char) :
    trimEnd (c :: cs) = if trimEnd cs = [] then trimEnd [c] else c :: trimEnd cs := by
  rw [trimEnd, List.reverse_cons, trimStart, List.dropWhile_append]
  by_cases hcs : trimEnd cs = []
  · have hempty : cs.reverse.dropWhile Unicode.isBlank = [] := List.reverse_eq_nil_iff.mp hcs
    rw [if_pos hcs, hempty]
    rfl
  · have hempty : ¬(cs.reverse.dropWhile Unicode.isBlank).isEmpty := fun hempty =>
      hcs (List.reverse_eq_nil_iff.mpr (List.isEmpty_iff.mp hempty))
    rw [if_neg hcs, if_neg hempty, List.reverse_append]
    rfl

theorem mem_dropWhile {α : Type} {p : α → Bool} {a : α} {l : List α} (h : a ∈ l) (ha : ¬p a) :
    a ∈ l.dropWhile p := by
  rw [← List.takeWhile_append_dropWhile (p := p) (l := l), List.mem_append] at h
  exact h.resolve_left fun hfront => ha (List.all_eq_true.mp List.all_takeWhile a hfront)

/-- What is not blank stays when a text is trimmed. -/
theorem mem_trim {c : Char} {cs : List Char} (h : c ∈ cs) (hc : ¬Unicode.isBlank c) :
    c ∈ trim cs := by
  rw [trim, trimEnd, List.mem_reverse]
  exact mem_dropWhile (List.mem_reverse.mpr (mem_dropWhile h hc)) hc

theorem length_trim_le (cs : List Char) : (trim cs).length ≤ cs.length := by
  have hstart : (trimStart cs).length ≤ cs.length := (List.dropWhile_suffix _).length_le
  have hend : (trimStart (trimStart cs).reverse).length ≤ (trimStart cs).reverse.length :=
    (List.dropWhile_suffix _).length_le
  rw [List.length_reverse] at hend
  rw [trim, trimEnd, List.length_reverse]
  exact Nat.le_trans hend hstart

theorem trim_trim (cs : List Char) : trim (trim cs) = trim cs :=
  trim_eq_self_iff.mpr ⟨noBlankHead_trim cs, noBlankHead_reverse_trim cs⟩

/-- Trimmed texts that are joined are trimmed. -/
theorem trim_append {a b : List Char} (ha : trim a = a) (hb : trim b = b) :
    trim (a ++ b) = a ++ b := by
  rw [trim_eq_self_iff] at *
  refine ⟨ha.1.append hb.1, ?_⟩
  rw [List.reverse_append]
  exact hb.2.append ha.2

end CaseScript.Text
