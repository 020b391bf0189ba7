import CaseScript.Proofs.Sql.Depth
import CaseScript.Proofs.Text.Words

/-!
# Proofs/Sql/Outside — words and commas outside of literals and parentheses

What a search at the top finds is read off what stands outside of literals and parentheses.  A word
with blanks around it is found first where it was put, if it is none of the words outside before it
(`cutAtTop?_of_not_mem_words`), and a list is cut at the commas that join it if there are none outside
in its items (`topItems_intercalate`).
-/

namespace CaseScript.Sql

/-! ## The first word outside -/

/-- What begins at the top is found there, if not before. -/
theorem exists_cutAtTop? {n : Char} (hn : n ∉ marks) {needle y : List Char} (hy : n :: needle <+: y)
    {s : Scan} {x : List Char} (hx : (s.after x).isTop) :
    ∃ front back, cutAtTop? (n :: needle) 0 s (x ++ y) = some (front, back) ∧ front <+: x := by
  induction x generalizing s with
  | nil =>
    obtain ⟨rest, rfl⟩ := hy
    have hfront : (n :: needle).isPrefixOf (n :: (needle ++ rest)) :=
      List.isPrefixOf_iff_prefix.mpr ⟨rest, rfl⟩
    have hmark : ¬s.isMark n := by
      rw [Scan.isMark_of_not_mem_marks hn]
      exact Bool.false_ne_true
    exact ⟨[], _, if_pos ⟨rfl, hx, hmark, hfront⟩, List.prefix_refl []⟩
  | cons c x ih =>
    rw [List.cons_append, cutAtTop?]
    split
    · exact ⟨[], _, rfl, List.nil_prefix⟩
    · obtain ⟨front, back, hcut, hfront⟩ := ih hx
      exact ⟨c :: front, back, by rw [hcut]; rfl, List.cons_prefix_cons.mpr ⟨rfl, hfront⟩⟩

/-- A text that ends with its only `m` begins a text before an `m` just if it ends there or before. -/
theorem prefix_before {w b t : List Char} {m : Char} (hm : m ∉ w) (h : w ++ [m] <+: b ++ m :: t) :
    ∃ rest, b = w ++ rest ∧ ∀ c ∈ rest.head?, c = m := by
  induction w generalizing b with
  | nil =>
    refine ⟨b, rfl, fun c hc => ?_⟩
    obtain ⟨z, hz⟩ := h
    cases b with
    | nil => cases hc
    | cons d b =>
      cases hc
      exact (List.cons.inj hz).1.symm
  | cons a w ih =>
    obtain ⟨ha, hw⟩ := not_or.mp (mt List.mem_cons.mpr hm)
    cases b with
    | nil =>
      obtain ⟨z, hz⟩ := h
      exact absurd (List.cons.inj hz).1.symm ha
    | cons d b =>
      obtain ⟨rfl, htail⟩ := List.cons_prefix_cons.mp h
      obtain ⟨rest, rfl, hrest⟩ := ih hw htail
      exact ⟨rest, rfl, hrest⟩

/-- A word at the top with a blank on either side is a word of what stands outside. -/
theorem mem_words_outside {word rest : List Char} (hword : word ≠ [])
    (hblank : ∀ c ∈ word, ¬Unicode.isBlank c) (hmarks : Unmarked word)
    (hrest : ∀ c ∈ rest.head?, c = ' ') {x : List Char} (hx : Scan.start.after x = .start) :
    word ∈ Text.words (outside .start (x ++ ' ' :: (word ++ rest))) := by
  have hone : Text.words word = [word] := Text.words_of_not_isBlank hword hblank
  rw [outside_append, hx, outside_start_cons (by decide), Text.words_append (by decide),
    outside_append, outside_of_unmarked hmarks, Scan.after_of_unmarked hmarks]
  refine List.mem_append_right _ ?_
  cases rest with
  | nil =>
    rw [outside_nil, List.append_nil, hone]
    exact List.mem_cons_self
  | cons c rest =>
    obtain rfl := hrest c rfl
    rw [outside_start_cons (by decide), Text.words_append (by decide), hone]
    exact List.mem_append_left _ List.mem_cons_self

/-- **A word is found where it was put**, if it is none of the words outside before it. -/
theorem cutAtTop?_of_not_mem_words {word x : List Char} (hword : word ≠ [])
    (hblank : ∀ c ∈ word, ¬Unicode.isBlank c) (hmarks : Unmarked word)
    (hx : Scan.start.after x = .start) (hnot : word ∉ Text.words (outside .start x))
    (rest : List Char) :
    cutAtTop? (' ' :: (word ++ [' '])) 0 .start (x ++ ' ' :: (word ++ ' ' :: rest)) =
      some (x, ' ' :: (word ++ ' ' :: rest)) := by
  have hprefix : ' ' :: (word ++ [' ']) <+: ' ' :: (word ++ ' ' :: rest) := ⟨rest, by simp⟩
  obtain ⟨front, back, hcut, y, rfl⟩ :=
    exists_cutAtTop? (by decide) hprefix (Scan.isTop_iff.mpr hx)
  obtain ⟨hsplit, hback, htop⟩ := cutAtTop?_eq_some hcut
  rw [List.append_assoc] at hsplit
  obtain rfl := List.append_cancel_left hsplit
  cases y with
  | nil =>
    rw [List.append_nil] at hcut ⊢
    exact hcut
  | cons c y =>
    -- found before: the word stands outside, with a blank behind it or at the end
    obtain ⟨rfl, htail⟩ := List.cons_prefix_cons.mp hback
    have hspace : ' ' ∉ word := fun hmem => hblank ' ' hmem (by decide)
    obtain ⟨after, rfl, hafter⟩ := prefix_before hspace htail
    exact absurd (mem_words_outside hword hblank hmarks hafter (Scan.isTop_iff.mp htop)) hnot

/-! ## Items joined by commas -/

/-- **A list is cut into the items it was joined from**, with the blanks that stand before them. -/
theorem topItems_intercalate {first : List Char} {others : List (List Char)}
    (h : ∀ item ∈ first :: others, Scan.start.after item = .start ∧ ',' ∉ outside .start item) :
    topItems .start (List.intercalate [',', ' '] (first :: others)) =
      first :: others.map (' ' :: ·) := by
  induction others generalizing first with
  | nil =>
    have hlast : topItems (Scan.start.after first) [] = [] :: [] := rfl
    have hitem := topItems_of_not_mem (h first List.mem_cons_self).2 hlast
    rw [List.append_nil] at hitem
    rw [List.intercalate_singleton, hitem]
    rfl
  | cons next others ih =>
    obtain ⟨⟨hafter, hcomma⟩, hothers⟩ := List.forall_mem_cons.mp h
    have hnext := topItems_of_not_mem (by decide : ',' ∉ outside .start [' ']) (ih hothers)
    have hcut : topItems (Scan.start.after first)
        (',' :: ([' '] ++ List.intercalate [',', ' '] (next :: others))) =
          [] :: (' ' :: next) :: others.map (' ' :: ·) := by
      rw [hafter, topItems, if_pos ⟨rfl, rfl⟩, hnext]
      rfl
    rw [List.intercalate_cons_cons, List.append_assoc]
    have hitem := topItems_of_not_mem hcomma hcut
    rwa [List.append_nil] at hitem

end CaseScript.Sql
