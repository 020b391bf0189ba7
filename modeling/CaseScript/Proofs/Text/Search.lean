import CaseScript.Text.Search

/-!
# Proofs/Text/Search — searches in texts that are joined

What a search finds in a text that is joined from two follows from what it finds in them
(`splitOn_append`, `cutAt?_append`), and a text is not found across a character that it does not have
(`isPrefixOf_append_cons`, `dropFront?_append_cons`, `contains_append_cons`).  A text is found just
where it stands (`contains_iff`).
-/

namespace CaseScript.Text

theorem splitOn_ne_nil (separator : Char) (cs : List Char) : splitOn separator cs ≠ [] := by
  cases cs with
  | nil => exact List.cons_ne_nil _ _
  | cons c cs =>
    unfold splitOn
    split
    · exact List.cons_ne_nil _ _
    · split <;> exact List.cons_ne_nil _ _

/-- A text without the separator is its only piece. -/
theorem splitOn_eq_singleton {separator : Char} {cs : List Char} (h : separator ∉ cs) :
    splitOn separator cs = [cs] := by
  induction cs with
  | nil => rfl
  | cons c cs ih =>
    have hc : c ≠ separator := fun hc => h (hc ▸ List.mem_cons_self)
    rw [splitOn, if_neg hc, ih fun hcs => h (List.mem_cons_of_mem c hcs)]

theorem splitOn_append (separator : Char) (a b : List Char) :
    splitOn separator (a ++ separator :: b) = splitOn separator a ++ splitOn separator b := by
  induction a with
  | nil => simp [splitOn]
  | cons c a ih =>
    rw [List.cons_append, splitOn, splitOn, ih]
    split
    · rfl
    · obtain ⟨piece, rest, hpieces⟩ := List.exists_cons_of_ne_nil (splitOn_ne_nil separator a)
      rw [hpieces]
      rfl

/-- A cut at the first separator stays where it is when text is added behind another one. -/
theorem cutAt?_append (separator : Char) (a b : List Char) :
    cutAt? separator (a ++ separator :: b) =
      match cutAt? separator a with
      | some (front, back) => some (front, back ++ separator :: b)
      | none => some (a, b) := by
  induction a with
  | nil => simp [cutAt?]
  | cons c a ih =>
    rw [List.cons_append, cutAt?, cutAt?, ih]
    split
    · rfl
    · cases cutAt? separator a <;> rfl

theorem cutAt?_eq_some {separator : Char} {cs front back : List Char}
    (h : cutAt? separator cs = some (front, back)) : cs = front ++ separator :: back := by
  induction cs generalizing front with
  | nil => cases h
  | cons c cs ih =>
    rw [cutAt?] at h
    split at h
    · rename_i hc
      cases h
      rw [hc]
      rfl
    · obtain ⟨⟨front', back'⟩, hcut, hsame⟩ := Option.map_eq_some_iff.mp h
      cases hsame
      rw [ih hcut]
      rfl

theorem cutAt?_eq_none {separator : Char} {cs : List Char} (h : separator ∉ cs) :
    cutAt? separator cs = none := by
  induction cs with
  | nil => rfl
  | cons c cs ih =>
    rw [List.mem_cons, not_or] at h
    rw [cutAt?, if_neg (Ne.symm h.1), ih h.2]
    rfl

theorem exists_cutAt? {separator : Char} {cs : List Char} (h : separator ∈ cs) :
    ∃ front back, cutAt? separator cs = some (front, back) ∧ separator ∉ front := by
  induction cs with
  | nil => cases h
  | cons c cs ih =>
    rw [cutAt?]
    by_cases hc : c = separator
    · exact ⟨[], cs, if_pos hc, List.not_mem_nil⟩
    · obtain ⟨front, back, hcut, hfront⟩ := ih ((List.mem_cons.mp h).resolve_left (Ne.symm hc))
      rw [if_neg hc, hcut]
      refine ⟨c :: front, back, rfl, ?_⟩
      rw [List.mem_cons, not_or]
      exact ⟨Ne.symm hc, hfront⟩

/-- A text that is cut stays cut there when text is added to it. -/
theorem cutAt?_append_of_eq_some {separator : Char} {cs front back : List Char}
    (h : cutAt? separator cs = some (front, back)) (rest : List Char) :
    cutAt? separator (cs ++ rest) = some (front, back ++ rest) := by
  induction cs generalizing front with
  | nil => cases h
  | cons c cs ih =>
    rw [cutAt?] at h
    rw [List.cons_append, cutAt?]
    split at h
    · rename_i hc
      cases h
      exact if_pos hc
    · rename_i hc
      obtain ⟨⟨front', back'⟩, hcut, hsame⟩ := Option.map_eq_some_iff.mp h
      cases hsame
      rw [if_neg hc, ih hcut]
      rfl

/-! ## At the front -/

theorem dropFront?_append (front cs : List Char) : dropFront? front (front ++ cs) = some cs := by
  induction front with
  | nil => rfl
  | cons c front ih => rw [List.cons_append, dropFront?, if_pos rfl, ih]

theorem dropFront?_eq_some_iff {front cs rest : List Char} :
    dropFront? front cs = some rest ↔ cs = front ++ rest := by
  refine ⟨fun h => ?_, fun h => h ▸ dropFront?_append front rest⟩
  induction front generalizing cs with
  | nil => exact Option.some.inj h
  | cons p front ih =>
    cases cs with
    | nil => cases h
    | cons c cs =>
      rw [dropFront?] at h
      split at h
      · rename_i hsame
        rw [hsame, ih h]
        rfl
      · cases h

theorem dropFront?_eq_none_iff {front cs : List Char} :
    dropFront? front cs = none ↔ ¬front <+: cs := by
  rw [Option.eq_none_iff_forall_ne_some]
  exact ⟨fun h ⟨rest, hrest⟩ => h rest (dropFront?_eq_some_iff.mpr hrest.symm),
    fun h rest hrest => h ⟨rest, (dropFront?_eq_some_iff.mp hrest).symm⟩⟩

/-- A text without a character does not reach over it. -/
theorem isPrefixOf_append_cons {needle : List Char} {m : Char} (h : m ∉ needle)
    (x rest : List Char) : needle.isPrefixOf (x ++ m :: rest) = needle.isPrefixOf x := by
  induction x generalizing needle with
  | nil =>
    cases needle with
    | nil => rfl
    | cons a needle =>
      have hne : a ≠ m := fun hsame => h (hsame ▸ List.mem_cons_self)
      simp [List.isPrefixOf, hne]
  | cons c x ih =>
    cases needle with
    | nil => rfl
    | cons a needle =>
      rw [List.cons_append, List.isPrefixOf, List.isPrefixOf,
        ih fun hmem => h (List.mem_cons_of_mem a hmem)]

theorem dropFront?_append_cons {front : List Char} {m : Char} (h : m ∉ front)
    (x rest : List Char) :
    dropFront? front (x ++ m :: rest) =
      (dropFront? front x).map (· ++ m :: rest) := by
  induction x generalizing front with
  | nil =>
    cases front with
    | nil => rfl
    | cons a front => exact if_neg fun hsame : a = m => h (hsame ▸ List.mem_cons_self)
  | cons c x ih =>
    cases front with
    | nil => rfl
    | cons a front =>
      rw [List.cons_append, dropFront?, dropFront?,
        ih fun hmem => h (List.mem_cons_of_mem a hmem)]
      split <;> rfl

/-! ## Anywhere -/

theorem contains_append_right (needle back : List Char) :
    contains needle (needle ++ back) = true := by
  cases htext : needle ++ back with
  | nil => exact List.isEmpty_iff.mpr (List.append_eq_nil_iff.mp htext).1
  | cons c cs =>
    have hfront : needle.isPrefixOf (c :: cs) = true :=
      List.isPrefixOf_iff_prefix.mpr ⟨back, htext⟩
    rw [contains, hfront, Bool.true_or]

/-- **A text is found between any two others.** -/
theorem contains_append (front needle back : List Char) :
    contains needle (front ++ (needle ++ back)) = true := by
  induction front with
  | nil => exact contains_append_right needle back
  | cons c front ih => rw [List.cons_append, contains, ih, Bool.or_true]

/-- **A text occurs in another just if it stands in it between two others.** -/
theorem contains_iff {needle cs : List Char} :
    contains needle cs = true ↔ ∃ front back, cs = front ++ (needle ++ back) := by
  refine ⟨fun h => ?_, fun ⟨front, back, hcs⟩ => hcs ▸ contains_append front needle back⟩
  induction cs with
  | nil => exact ⟨[], [], by simpa [contains] using h⟩
  | cons c cs ih =>
    rw [contains, Bool.or_eq_true, List.isPrefixOf_iff_prefix] at h
    obtain ⟨back, hback⟩ | hrest := h
    · exact ⟨[], back, hback.symm⟩
    · obtain ⟨front, back, rfl⟩ := ih hrest
      exact ⟨c :: front, back, rfl⟩

/-- A text does not occur where one of its characters is missing. -/
theorem contains_eq_false_of_not_mem {needle cs : List Char} {c : Char} (hneedle : c ∈ needle)
    (hcs : c ∉ cs) : contains needle cs = false := by
  refine Bool.eq_false_iff.mpr fun hfound => hcs ?_
  obtain ⟨front, back, rfl⟩ := contains_iff.mp hfound
  exact List.mem_append_right front (List.mem_append_left back hneedle)

/-- What occurs in joined texts occurs in one of them, if it does not have what joins them. -/
theorem contains_append_cons {needle : List Char} {m : Char} (h : m ∉ needle) (x y : List Char) :
    contains needle (x ++ m :: y) = (contains needle x || contains needle y) := by
  induction x with
  | nil =>
    have hfront : needle.isPrefixOf (m :: y) = needle.isPrefixOf [] :=
      isPrefixOf_append_cons h [] y
    have hempty : needle.isPrefixOf [] = needle.isEmpty := by cases needle <;> rfl
    rw [List.nil_append, contains, contains, hfront, hempty]
  | cons c x ih =>
    rw [List.cons_append, contains, contains, ih, ← List.cons_append, isPrefixOf_append_cons h,
      Bool.or_assoc]

end CaseScript.Text
