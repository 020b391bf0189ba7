import CaseScript.Template.Placeholder

/-!
# Proofs/Template/Pieces — what a text is made of

The pieces of a text spell it (`text_pieces`), what stands in a slot has no braces
(`isInner_of_mem_pieces`), and a text that is written as a single slot is one (`pieces_slot`).
-/

namespace CaseScript.Template

/-- A text begins with a slot exactly if it is written so. -/
theorem slot?_eq_some {cs inner : List Char} :
    slot? cs = some inner ↔
      (∃ rest, cs = (Piece.slot inner).text ++ rest) ∧ ∀ c ∈ inner, isInner c := by
  constructor
  · intro h
    unfold slot? at h
    split at h
    · rename_i cs
      split at h
      · rename_i rest hrest
        obtain rfl := Option.some.inj h
        have hcut : cs = cs.takeWhile isInner ++ '}' :: '}' :: rest := by
          rw [← hrest, List.takeWhile_append_dropWhile]
        refine ⟨⟨rest, ?_⟩, List.all_eq_true.mp List.all_takeWhile⟩
        rw [Piece.text]
        simpa using hcut
      · cases h
    · cases h
  · rintro ⟨⟨rest, rfl⟩, hinner⟩
    have hstop : ¬isInner '}' := by decide
    have htext : (Piece.slot inner).text ++ rest = '{' :: '{' :: (inner ++ '}' :: '}' :: rest) := by
      simp [Piece.text]
    rw [htext, slot?, List.dropWhile_append_of_pos hinner, List.dropWhile_cons_of_neg hstop,
      List.takeWhile_append_of_pos hinner, List.takeWhile_cons_of_neg hstop, List.append_nil]
    rfl

theorem piecesFrom_eq_drop (skip : Nat) (cs : List Char) :
    piecesFrom skip cs = pieces (cs.drop skip) := by
  induction cs generalizing skip with
  | nil => cases skip <;> rfl
  | cons c cs ih =>
    cases skip with
    | zero => rfl
    | succ skip => exact ih skip

/-- The pieces of a text that begins with a slot. -/
theorem pieces_slot_append {inner : List Char} (h : ∀ c ∈ inner, isInner c) (rest : List Char) :
    pieces ((Piece.slot inner).text ++ rest) = .slot inner :: pieces rest := by
  have hslot : slot? ((Piece.slot inner).text ++ rest) = some inner :=
    slot?_eq_some.mpr ⟨⟨rest, rfl⟩, h⟩
  have htext : (Piece.slot inner).text ++ rest =
      '{' :: ('{' :: (inner ++ ['}', '}']) ++ rest) := by simp [Piece.text]
  have hlength : ('{' :: (inner ++ ['}', '}'])).length = inner.length + 3 := by simp
  rw [htext] at hslot ⊢
  rw [pieces, piecesFrom, hslot]
  dsimp only
  rw [piecesFrom_eq_drop, ← hlength, List.drop_left]

theorem pieces_slot {inner : List Char} (h : ∀ c ∈ inner, isInner c) :
    pieces (Piece.slot inner).text = [.slot inner] := by
  rw [← List.append_nil (Piece.slot inner).text, pieces_slot_append h]
  rfl

theorem pieces_char {c : Char} {cs : List Char} (h : slot? (c :: cs) = none) :
    pieces (c :: cs) = .char c :: pieces cs := by
  rw [pieces, piecesFrom, h]
  rfl

/-- Texts are read a piece at a time: it is enough that a property passes from what follows a piece
to the text that begins with it. -/
theorem pieces_induction {P : List Char → Prop} (nil : P [])
    (slot : ∀ inner rest, (∀ c ∈ inner, isInner c) → P rest → P ((Piece.slot inner).text ++ rest))
    (char : ∀ c rest, slot? (c :: rest) = none → P rest → P (c :: rest)) (cs : List Char) :
    P cs := by
  have hbounded : ∀ n (cs : List Char), cs.length ≤ n → P cs := by
    intro n
    induction n with
    | zero =>
      intro cs hlength
      rwa [List.eq_nil_of_length_eq_zero (Nat.le_zero.mp hlength)]
    | succ n ih =>
      intro cs hlength
      cases cs with
      | nil => exact nil
      | cons c cs =>
        cases hslot : slot? (c :: cs) with
        | none => exact char c cs hslot (ih cs (Nat.le_of_succ_le_succ hlength))
        | some inner =>
          obtain ⟨⟨rest, hcs⟩, hinner⟩ := slot?_eq_some.mp hslot
          rw [hcs]
          refine slot inner rest hinner (ih rest ?_)
          have hsame := congrArg List.length hcs
          simp only [Piece.text, List.length_append, List.length_cons] at hsame hlength
          omega
  exact hbounded cs.length cs (Nat.le_refl _)

/-- **The pieces of a text spell it.** -/
theorem text_pieces (cs : List Char) : (pieces cs).flatMap Piece.text = cs := by
  induction cs using pieces_induction with
  | nil => rfl
  | slot inner rest hinner ih => rw [pieces_slot_append hinner, List.flatMap_cons, ih]
  | char c rest hslot ih => rw [pieces_char hslot, List.flatMap_cons, ih]; rfl

theorem isInner_of_mem_pieces {cs inner : List Char} (h : .slot inner ∈ pieces cs) :
    ∀ c ∈ inner, isInner c := by
  induction cs using pieces_induction with
  | nil => cases h
  | slot inner' rest hinner ih =>
    rw [pieces_slot_append hinner] at h
    obtain hsame | h := List.mem_cons.mp h
    · obtain rfl := Piece.slot.inj hsame
      exact hinner
    · exact ih h
  | char c rest hslot ih =>
    rw [pieces_char hslot] at h
    obtain hsame | h := List.mem_cons.mp h
    · cases hsame
    · exact ih h

/-- What is a single slot is written so, and has no braces in it. -/
theorem eq_of_pieces_eq_slot {cs inner : List Char} (h : pieces cs = [.slot inner]) :
    cs = (Piece.slot inner).text ∧ ∀ c ∈ inner, isInner c := by
  refine ⟨?_, isInner_of_mem_pieces (h ▸ List.mem_singleton_self _)⟩
  rw [← text_pieces cs, h]
  simp

end CaseScript.Template
