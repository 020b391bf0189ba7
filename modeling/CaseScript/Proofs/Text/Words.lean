import CaseScript.Proofs.Text.Trim

/-!
# Proofs/Text/Words — the words of a text, put together again

The words of a text with one blank between them are the text with one blank for each run of white
space, cut behind its last word (`intercalate_words`).  A text with single blanks can be taken apart
at any character that is not blank (`singleBlanks_append_cons`).  The words of two texts with a blank
between them are those of the one and those of the other (`words_append`), so texts that are their
own words with single blanks (`Spaced`) can be joined by one.
-/

namespace CaseScript.Text

/-- The text with one blank for each run of white space; `afterBlank` is whether white space stands
before it. -/
def singleBlanks : (afterBlank : Bool) → List Char → List Char
  | _, [] => []
  | afterBlank, c :: cs =>
    if Unicode.isBlank c then
      if afterBlank then singleBlanks true cs else ' ' :: singleBlanks true cs
    else c :: singleBlanks false cs

theorem singleBlanks_append_cons {c : Char} (hc : ¬Unicode.isBlank c) (afterBlank : Bool)
    (a b : List Char) :
    singleBlanks afterBlank (a ++ c :: b) =
      singleBlanks afterBlank a ++ c :: singleBlanks false b := by
  induction a generalizing afterBlank with
  | nil => exact if_neg hc
  | cons d a ih =>
    rw [List.cons_append, singleBlanks, singleBlanks, ih, ih]
    split
    · split <;> rfl
    · rfl

theorem ne_nil_of_mem_words_go {word cs v : List Char} (h : v ∈ words.go word cs) : v ≠ [] := by
  induction cs generalizing word with
  | nil =>
    rw [words.go] at h
    split at h
    · exact absurd h List.not_mem_nil
    · rename_i hword
      rw [List.mem_singleton.mp h]
      simpa using hword
  | cons c cs ih =>
    rw [words.go] at h
    split at h
    · split at h
      · exact ih h
      · rename_i hword
        obtain rfl | hrest := List.mem_cons.mp h
        · simpa using hword
        · exact ih hrest
    · exact ih h

/-- The words from the word under way on are the text with single blanks behind it. -/
theorem intercalate_words_go (word cs : List Char) :
    List.intercalate [' '] (words.go word cs) =
      word.reverse ++ trimEnd (singleBlanks word.isEmpty cs) := by
  induction cs generalizing word with
  | nil =>
    have hnil : trimEnd (singleBlanks word.isEmpty []) = [] := rfl
    rw [words.go, hnil]
    split
    · rename_i hword
      simp [List.isEmpty_iff.mp hword]
    · simp
  | cons c cs ih =>
    rw [words.go, singleBlanks]
    by_cases hc : Unicode.isBlank c
    · rw [if_pos hc, if_pos hc]
      cases word with
      | nil => exact ih []
      | cons d word =>
        have hrest : List.intercalate [' '] (words.go [] cs) = trimEnd (singleBlanks true cs) :=
          ih []
        rw [if_neg (by simp), if_neg (by simp), trimEnd_cons, ← hrest]
        cases hwords : words.go [] cs with
        | nil => simp [List.intercalate, trimEnd, trimStart, Unicode.isBlank]
        | cons v vs =>
          have hv : v ≠ [] := ne_nil_of_mem_words_go (hwords ▸ List.mem_cons_self)
          have hne : List.intercalate [' '] (v :: vs) ≠ [] := by
            cases vs <;> simp [List.intercalate, hv]
          rw [if_neg hne]
          simp [List.intercalate]
    · have hend := trimEnd_append_cons hc [] (singleBlanks false cs)
      rw [if_neg hc, if_neg hc, ih, ← List.nil_append (c :: singleBlanks false cs), hend]
      simp

/-- **Words with one blank between them are the text with single blanks.** -/
theorem intercalate_words (cs : List Char) :
    List.intercalate [' '] (words cs) = trimEnd (singleBlanks true cs) :=
  intercalate_words_go [] cs

/-! ## The words of joined texts -/

theorem words_go_cons_of_isBlank {c : Char} (hc : Unicode.isBlank c) (word cs : List Char) :
    words.go word (c :: cs) = words.go word [] ++ words cs := by
  rw [words.go.eq_2, if_pos hc, words.go.eq_1]
  split <;> rfl

theorem words_go_cons_of_not_isBlank {c : Char} (hc : ¬Unicode.isBlank c) (word cs : List Char) :
    words.go word (c :: cs) = words.go (c :: word) cs := by
  rw [words.go.eq_2, if_neg hc]

theorem words_go_append {b : Char} (hb : Unicode.isBlank b) (word x y : List Char) :
    words.go word (x ++ b :: y) = words.go word x ++ words y := by
  induction x generalizing word with
  | nil => exact words_go_cons_of_isBlank hb word y
  | cons c x ih =>
    rw [List.cons_append]
    by_cases hc : Unicode.isBlank c
    · rw [words_go_cons_of_isBlank hc, words_go_cons_of_isBlank hc, List.append_assoc]
      exact congrArg (words.go word [] ++ ·) (ih [])
    · rw [words_go_cons_of_not_isBlank hc, words_go_cons_of_not_isBlank hc, ih]

/-- **The words of a text that is joined by a blank** are those of the one and those of the other. -/
theorem words_append {b : Char} (hb : Unicode.isBlank b) (x y : List Char) :
    words (x ++ b :: y) = words x ++ words y :=
  words_go_append hb [] x y

/-- Without blanks there is no more than one word. -/
theorem words_go_of_not_isBlank {cs : List Char} (h : ∀ c ∈ cs, ¬Unicode.isBlank c)
    (word : List Char) : words.go word cs = words.go (cs.reverse ++ word) [] := by
  induction cs generalizing word with
  | nil => rfl
  | cons c cs ih =>
    obtain ⟨hc, hcs⟩ := List.forall_mem_cons.mp h
    rw [words_go_cons_of_not_isBlank hc, ih hcs, List.reverse_cons, List.append_assoc,
      List.singleton_append]

theorem mem_words_go_nil {word w : List Char} (h : w ∈ words.go word []) : w = word.reverse := by
  rw [words.go.eq_1] at h
  split at h
  · exact absurd h List.not_mem_nil
  · exact List.mem_singleton.mp h

theorem mem_of_mem_words_go {word cs w : List Char} (h : w ∈ words.go word cs) {c : Char}
    (hc : c ∈ w) : c ∈ word ∨ c ∈ cs := by
  induction cs generalizing word with
  | nil => exact .inl (List.mem_reverse.mp (mem_words_go_nil h ▸ hc))
  | cons d cs ih =>
    by_cases hd : Unicode.isBlank d
    · rw [words_go_cons_of_isBlank hd, List.mem_append] at h
      obtain h | h := h
      · exact .inl (List.mem_reverse.mp (mem_words_go_nil h ▸ hc))
      · exact .inr (List.mem_cons_of_mem d ((ih h).resolve_left List.not_mem_nil))
    · rw [words_go_cons_of_not_isBlank hd] at h
      obtain hword | hcs := ih h
      · obtain rfl | hword := List.mem_cons.mp hword
        · exact .inr List.mem_cons_self
        · exact .inl hword
      · exact .inr (List.mem_cons_of_mem d hcs)

/-- The characters of a word stand in the text. -/
theorem mem_of_mem_words {cs w : List Char} (h : w ∈ words cs) {c : Char} (hc : c ∈ w) : c ∈ cs :=
  (mem_of_mem_words_go h hc).resolve_left List.not_mem_nil

theorem mem_words_go_of_append {w : List Char} {m : Char} (hm : m ∉ w) (hblank : ¬Unicode.isBlank m)
    {word cs : List Char} (h : w ∈ words.go word (cs ++ [m])) : w ∈ words.go word cs := by
  induction cs generalizing word with
  | nil =>
    rw [List.nil_append, words_go_cons_of_not_isBlank hblank] at h
    exact absurd (mem_words_go_nil h ▸ List.mem_reverse.mpr List.mem_cons_self) hm
  | cons c cs ih =>
    rw [List.cons_append] at h
    by_cases hc : Unicode.isBlank c
    · rw [words_go_cons_of_isBlank hc, List.mem_append] at h ⊢
      exact h.imp_right ih
    · rw [words_go_cons_of_not_isBlank hc] at h ⊢
      exact ih h

/-- A word is none of a character that is put behind a text. -/
theorem mem_words_of_append {w : List Char} {m : Char} (hm : m ∉ w) (hblank : ¬Unicode.isBlank m)
    {cs : List Char} (h : w ∈ words (cs ++ [m])) : w ∈ words cs :=
  mem_words_go_of_append hm hblank h

/-! ## Texts with single blanks -/

/-- The text is its words with one blank between them. -/
def Spaced (cs : List Char) : Prop := List.intercalate [' '] (words cs) = cs

instance (cs : List Char) : Decidable (Spaced cs) :=
  inferInstanceAs (Decidable (List.intercalate [' '] (words cs) = cs))

theorem spaced_iff {cs : List Char} : Spaced cs ↔ trimEnd (singleBlanks true cs) = cs := by
  rw [Spaced, intercalate_words]

theorem noBlankHead_singleBlanks (cs : List Char) : NoBlankHead (singleBlanks true cs) := by
  induction cs with
  | nil => exact nofun
  | cons c cs ih =>
    rw [singleBlanks]
    by_cases hc : Unicode.isBlank c
    · rw [if_pos hc, if_pos rfl]
      exact ih
    · rw [if_neg hc]
      rintro _ ⟨⟩
      exact hc

/-- **A text with single blanks is trimmed.** -/
theorem Spaced.trim {cs : List Char} (h : Spaced cs) : trim cs = cs := by
  rw [spaced_iff] at h
  rw [trim_eq_self_iff, ← h]
  exact ⟨(noBlankHead_singleBlanks cs).front (trimEnd_front _), noBlankHead_reverse_trimEnd _⟩

theorem length_singleBlanks_le (afterBlank : Bool) (cs : List Char) :
    (singleBlanks afterBlank cs).length ≤ cs.length := by
  induction cs generalizing afterBlank with
  | nil => exact Nat.le_refl 0
  | cons c cs ih =>
    have htrue := ih true
    have hfalse := ih false
    rw [singleBlanks]
    split
    · split <;> simp only [List.length_cons] <;> omega
    · simp only [List.length_cons]
      omega

theorem Spaced.singleBlanks {cs : List Char} (h : Spaced cs) : singleBlanks true cs = cs := by
  rw [spaced_iff] at h
  have hfront := trimEnd_front (Text.singleBlanks true cs)
  rw [h] at hfront
  exact (hfront.eq_of_length_le (length_singleBlanks_le true cs)).symm

theorem Spaced.append_singleton {cs : List Char} (h : Spaced cs) {m : Char}
    (hm : ¬Unicode.isBlank m) : Spaced (cs ++ [m]) := by
  rw [spaced_iff, singleBlanks_append_cons hm, h.singleBlanks, trimEnd_append_cons hm]
  rfl

theorem Spaced.words_ne_nil {cs : List Char} (h : Spaced cs) (hne : cs ≠ []) : words cs ≠ [] := by
  intro hnil
  rw [Spaced, hnil] at h
  exact hne h.symm

theorem intercalate_append_of_ne_nil {sep : List Char} {xs ys : List (List Char)} (hx : xs ≠ [])
    (hy : ys ≠ []) :
    List.intercalate sep (xs ++ ys) =
      List.intercalate sep xs ++ (sep ++ List.intercalate sep ys) := by
  induction xs with
  | nil => exact absurd rfl hx
  | cons x xs ih =>
    rw [List.cons_append, List.intercalate_cons_of_ne_nil (by simp [hy])]
    cases xs with
    | nil => simp
    | cons x' xs =>
      rw [ih (List.cons_ne_nil x' xs), List.intercalate_cons_cons]
      simp only [List.append_assoc]

/-- The words of two texts with a blank between them, put together. -/
theorem intercalate_words_append {x y : List Char} (hx : words x ≠ []) (hy : words y ≠ []) :
    List.intercalate [' '] (words (x ++ ' ' :: y)) =
      List.intercalate [' '] (words x) ++ ' ' :: List.intercalate [' '] (words y) := by
  rw [words_append (by decide), intercalate_append_of_ne_nil hx hy]
  rfl

/-- **Texts with single blanks that are joined by one have single blanks.** -/
theorem Spaced.append {x y : List Char} (hx : Spaced x) (hy : Spaced y) (hxne : x ≠ [])
    (hyne : y ≠ []) : Spaced (x ++ ' ' :: y) := by
  rw [Spaced, intercalate_words_append (hx.words_ne_nil hxne) (hy.words_ne_nil hyne), hx, hy]

/-- A text without blanks is its only word. -/
theorem words_of_not_isBlank {cs : List Char} (hne : cs ≠ []) (h : ∀ c ∈ cs, ¬Unicode.isBlank c) :
    words cs = [cs] := by
  rw [words, words_go_of_not_isBlank h, words.go.eq_1, List.append_nil, List.reverse_reverse]
  exact if_neg (by simpa using hne)

theorem spaced_of_not_isBlank {cs : List Char} (hne : cs ≠ []) (h : ∀ c ∈ cs, ¬Unicode.isBlank c) :
    Spaced cs := by
  rw [Spaced, words_of_not_isBlank hne h, List.intercalate_singleton]

/-- A text in which something is not blank has a word. -/
theorem words_ne_nil {cs : List Char} {c : Char} (hmem : c ∈ cs) (hc : ¬Unicode.isBlank c) :
    words cs ≠ [] := by
  obtain ⟨x, y, rfl⟩ := List.append_of_mem hmem
  intro hnil
  have hwords := intercalate_words (x ++ c :: y)
  rw [hnil, singleBlanks_append_cons hc, trimEnd_append_cons hc] at hwords
  simp at hwords

end CaseScript.Text
