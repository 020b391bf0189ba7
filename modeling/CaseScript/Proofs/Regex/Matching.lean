import CaseScript.Regex.Basic

/-!
# Proofs/Regex/Matching — where a pattern matches

`Between text r i j` says that what stands between the positions `i` and `j` of the text is a match
of `r`.  `Regex.step` goes from a set of positions to where it leads (`follows_step`).  The rounds
that it leaves out make no difference: of more rounds than a text has positions one goes nowhere
(`Advances.rounds_long`), and a set that a round adds nothing to is closed under all of them.
-/

namespace CaseScript.Regex

/-! ## Matches -/

/-- The character before a position. -/
def before? (text : List Char) : Nat → Option Char
  | 0 => none
  | i + 1 => text[i]?

/-- A number of rounds, one after another, lead from one position to another. -/
def Rounds (R : Nat → Nat → Prop) : Nat → Nat → Nat → Prop
  | 0, i, j => i = j
  | n + 1, i, k => ∃ j, R i j ∧ Rounds R n j k

/-- The pattern matches what stands between two positions of the text. -/
def Between (text : List Char) : Regex → Nat → Nat → Prop
  | empty, i, j => i = j
  | set s, i, j => j = i + 1 ∧ ∃ c, text[i]? = some c ∧ s.mem c = true
  | look l, i, j => i = j ∧ l.holds (before? text i) text[i]? = true
  | seq a b, i, k => ∃ j, Between text a i j ∧ Between text b j k
  | alt a b, i, j => Between text a i j ∨ Between text b i j
  | .repeat a min max, i, j =>
    ∃ more, (∀ bound ∈ max, more ≤ bound - min) ∧ Rounds (Between text a) (min + more) i j

/-- The pattern matches the text from its start to its end. -/
def Matches (r : Regex) (text : List Char) : Prop := Between text r 0 text.length

/-! ## Rounds -/

section Rounds

variable {R : Nat → Nat → Prop} {n a b i j k : Nat}

theorem rounds_one : Rounds R 1 i j ↔ R i j :=
  ⟨fun ⟨_, hij, h⟩ => h ▸ hij, fun hij => ⟨j, hij, rfl⟩⟩

theorem rounds_add : Rounds R (a + b) i k ↔ ∃ j, Rounds R a i j ∧ Rounds R b j k := by
  induction a generalizing i with
  | zero =>
    rw [Nat.zero_add]
    exact ⟨fun h => ⟨i, rfl, h⟩, fun ⟨_, hij, h⟩ => hij ▸ h⟩
  | succ a ih =>
    rw [Nat.succ_add]
    constructor
    · rintro ⟨j, hij, hrest⟩
      obtain ⟨j', hjj', hj'k⟩ := ih.mp hrest
      exact ⟨j', ⟨j, hij, hjj'⟩, hj'k⟩
    · rintro ⟨j', ⟨j, hij, hjj'⟩, hj'k⟩
      exact ⟨j, hij, ih.mpr ⟨j', hjj', hj'k⟩⟩

theorem rounds_succ_right : Rounds R (a + 1) i k ↔ ∃ j, Rounds R a i j ∧ R j k := by
  simp only [rounds_add, rounds_one]

/-- Up to one more round is a step that may be left out, and then up to so many rounds. -/
theorem exists_rounds_succ : (∃ c ≤ a + 1, Rounds R c i k) ↔
    ∃ j, (i = j ∨ R i j) ∧ ∃ c ≤ a, Rounds R c j k := by
  constructor
  · rintro ⟨c, hc, hik⟩
    cases c with
    | zero => exact ⟨i, .inl rfl, 0, Nat.zero_le a, hik⟩
    | succ c =>
      obtain ⟨j, hij, hjk⟩ := hik
      exact ⟨j, .inr hij, c, Nat.le_of_succ_le_succ hc, hjk⟩
  · rintro ⟨j, rfl | hij, c, hc, hjk⟩
    · exact ⟨c, Nat.le_succ_of_le hc, hjk⟩
    · exact ⟨c + 1, Nat.succ_le_succ hc, j, hij, hjk⟩

/-- Rounds that go nowhere may be put before others. -/
theorem Rounds.idle (hi : R i i) (h : Rounds R a i j) (b : Nat) : Rounds R (b + a) i j := by
  refine rounds_add.mpr ⟨i, ?_, h⟩
  induction b with
  | zero => rfl
  | succ b ih => exact ⟨i, hi, ih⟩

/-- A relation between the positions of a text of `n` characters that does not go back. -/
structure Advances (n : Nat) (R : Nat → Nat → Prop) : Prop where
  le {i j : Nat} (h : R i j) : i ≤ j
  bounded {i j : Nat} (hi : i ≤ n) (h : R i j) : j ≤ n

theorem Advances.rounds (h : Advances n R) : Advances n (Rounds R a) where
  le {i j} hij := by
    induction a generalizing i with
    | zero => exact Nat.le_of_eq hij
    | succ a ih =>
      obtain ⟨k, hik, hkj⟩ := hij
      exact Nat.le_trans (h.le hik) (ih hkj)
  bounded {i j} hi hij := by
    induction a generalizing i with
    | zero => exact hij ▸ hi
    | succ a ih =>
      obtain ⟨k, hik, hkj⟩ := hij
      exact ih (h.bounded hi hik) hkj

/-- Of more rounds than the way is long, one goes nowhere: it may be left out, or repeated. -/
theorem Advances.stretch (h : Advances n R) (hij : Rounds R (a + 1) i j)
    (hshort : j < i + (a + 1)) (hb : a ≤ b) : Rounds R b i j := by
  induction a generalizing i b with
  | zero =>
    obtain ⟨k, hik, rfl⟩ := hij
    have hki : k = i := by
      have := h.le hik
      omega
    subst hki
    exact Rounds.idle (a := 0) hik rfl b
  | succ a ih =>
    obtain ⟨k, hik, hkj⟩ := hij
    obtain ⟨more, rfl⟩ := Nat.exists_eq_add_of_le' hb
    obtain hlt | rfl := Nat.lt_or_eq_of_le (h.le hik)
    · exact ⟨k, hik, ih hkj (by omega) (Nat.le_add_left a more)⟩
    · exact hkj.idle hik more

/-- Any number of rounds from that of the positions on does what any other does. -/
theorem Advances.rounds_long (h : Advances n R) (hi : i ≤ n) (ha : n + 1 ≤ a) (hb : n + 1 ≤ b)
    (hij : Rounds R a i j) : Rounds R b i j := by
  have hj := h.rounds.bounded hi hij
  induction ha with
  | refl => exact h.stretch hij (by omega) (by omega)
  | @step a ha ih =>
    have ha' : n + 1 ≤ a := ha
    exact ih (h.stretch hij (by omega) (Nat.le_refl a))

/-- A number is cut off at that of the positions if it is larger. -/
theorem min_cases (a n : Nat) :
    Nat.min a n = a ∧ a ≤ n ∨ Nat.min a n = n ∧ n ≤ a := by
  have hmin : Nat.min a n = min a n := rfl
  omega

theorem Advances.rounds_congr (h : Advances n R) (hi : i ≤ n)
    (hab : a = b ∨ n + 1 ≤ a ∧ n + 1 ≤ b) (hij : Rounds R a i j) : Rounds R b i j := by
  obtain rfl | ⟨ha, hb⟩ := hab
  · exact hij
  · exact h.rounds_long hi ha hb hij

end Rounds

theorem advances_between (text : List Char) (r : Regex) :
    Advances text.length (Between text r) := by
  induction r with
  | empty => exact ⟨Nat.le_of_eq, fun hi h => h ▸ hi⟩
  | set s =>
    constructor
    · rintro i j ⟨rfl, -⟩
      exact Nat.le_succ i
    · rintro i j - ⟨rfl, c, hc, -⟩
      exact (List.getElem?_eq_some_iff.mp hc).1
  | look l => exact ⟨fun h => Nat.le_of_eq h.1, fun hi h => h.1 ▸ hi⟩
  | seq a b iha ihb =>
    constructor
    · rintro i j ⟨k, hik, hkj⟩
      exact Nat.le_trans (iha.le hik) (ihb.le hkj)
    · rintro i j hi ⟨k, hik, hkj⟩
      exact ihb.bounded (iha.bounded hi hik) hkj
  | alt a b iha ihb =>
    exact ⟨fun h => h.elim iha.le ihb.le, fun hi h => h.elim (iha.bounded hi) (ihb.bounded hi)⟩
  | «repeat» a min max ih =>
    constructor
    · rintro i j ⟨more, -, hij⟩
      exact ih.rounds.le hij
    · rintro i j hi ⟨more, -, hij⟩
      exact ih.rounds.bounded hi hij

/-! ## Sets of positions -/

/-- The position is in the set. -/
def Marks.Has (m : Marks) (i : Nat) : Prop := m[i]? = some true

theorem Marks.Has.lt {m : Marks} {i : Nat} (h : m.Has i) : i < m.length :=
  (List.getElem?_eq_some_iff.mp h).1

theorem Marks.union_length {m m' : Marks} (h : m'.length = m.length) :
    (m.union m').length = m.length := by
  rw [Marks.union, List.length_zipWith, h, Nat.min_self]

theorem Marks.has_union {m m' : Marks} (h : m'.length = m.length) (i : Nat) :
    (m.union m').Has i ↔ m.Has i ∨ m'.Has i := by
  unfold Marks.Has Marks.union
  rw [List.getElem?_zipWith]
  by_cases hi : i < m.length
  · have hi' : i < m'.length := h ▸ hi
    simp [hi, hi']
  · simp [hi, h]

/-- A function on the sets of positions of a text of `n` characters goes where a relation leads. -/
structure Follows (n : Nat) (f : Marks → Marks) (R : Nat → Nat → Prop) : Prop where
  length {m : Marks} (hm : m.length = n + 1) : (f m).length = n + 1
  has {m : Marks} (hm : m.length = n + 1) (j : Nat) : (f m).Has j ↔ ∃ i, m.Has i ∧ R i j

namespace Follows

variable {n k : Nat} {f g : Marks → Marks} {R S : Nat → Nat → Prop}

theorem congr (hf : Follows n f R) (h : ∀ i j, i ≤ n → (R i j ↔ S i j)) : Follows n f S where
  length := hf.length
  has {m} hm j := by
    rw [hf.has hm]
    refine exists_congr fun i => and_congr_right fun hi => h i j ?_
    exact Nat.le_of_lt_succ (Nat.lt_of_lt_of_eq hi.lt hm)

theorem id : Follows n (fun m => m) (· = ·) where
  length hm := hm
  has _ j := ⟨fun h => ⟨j, h, rfl⟩, fun ⟨_, h, hij⟩ => hij ▸ h⟩

theorem comp (hg : Follows n g S) (hf : Follows n f R) :
    Follows n (fun m => g (f m)) fun i k => ∃ j, R i j ∧ S j k where
  length hm := hg.length (hf.length hm)
  has {m} hm k := by
    rw [hg.has (hf.length hm)]
    constructor
    · rintro ⟨j, hj, hjk⟩
      obtain ⟨i, hi, hij⟩ := (hf.has hm j).mp hj
      exact ⟨i, hi, j, hij, hjk⟩
    · rintro ⟨i, hi, j, hij, hjk⟩
      exact ⟨j, (hf.has hm j).mpr ⟨i, hi, hij⟩, hjk⟩

theorem union (hf : Follows n f R) (hg : Follows n g S) :
    Follows n (fun m => (f m).union (g m)) fun i j => R i j ∨ S i j where
  length {m} hm := by
    rw [Marks.union_length ((hg.length hm).trans (hf.length hm).symm), hf.length hm]
  has {m} hm j := by
    rw [Marks.has_union ((hg.length hm).trans (hf.length hm).symm), hf.has hm, hg.has hm,
      ← exists_or]
    exact exists_congr fun i => and_or_left.symm

protected theorem iterate (hf : Follows n f R) : Follows n (iterate f k) (Rounds R k) := by
  induction k with
  | zero => exact id
  | succ k ih => exact ih.comp hf

/-- A set to which a round adds nothing is closed under rounds. -/
theorem closed (hf : Follows n f R) {m : Marks} (hm : m.length = n + 1) (h : m.union (f m) = m)
    {i j : Nat} (hi : m.Has i) (hij : Rounds R k i j) : m.Has j := by
  induction k generalizing i with
  | zero => exact hij ▸ hi
  | succ k ih =>
    obtain ⟨i', hi', hij⟩ := hij
    refine ih ?_ hij
    rw [← h]
    exact (Marks.has_union ((hf.length hm).trans hm.symm) i').mpr
      (.inr ((hf.has hm i').mpr ⟨i, hi, hi'⟩))

protected theorem upTo (hf : Follows n f R) :
    Follows n (upTo f k) fun i j => ∃ a ≤ k, Rounds R a i j := by
  induction k with
  | zero =>
    refine id.congr fun i j _ => ⟨fun h => ⟨0, Nat.le_refl 0, h⟩, ?_⟩
    rintro ⟨a, ha, hij⟩
    obtain rfl := Nat.le_zero.mp ha
    exact hij
  | succ k ih =>
    have hjoined := (ih.comp (id.union hf)).congr fun i j _ => exists_rounds_succ.symm
    constructor
    · intro m hm
      unfold upTo
      dsimp only
      split
      · exact hm
      · exact hjoined.length hm
    · intro m hm j
      unfold upTo
      dsimp only
      split
      · rename_i hclosed
        refine ⟨fun h => ⟨j, h, 0, Nat.zero_le _, rfl⟩, ?_⟩
        rintro ⟨i, hi, a, -, hij⟩
        exact hf.closed hm hclosed hi hij
      · exact hjoined.has hm j

end Follows

/-- One round after up to `k` others. -/
theorem onward_eq (f : Marks → Marks) (k : Nat) (m : Marks) : onward f k m = f (upTo f k m) := by
  induction k generalizing m with
  | zero => rfl
  | succ k ih =>
    unfold onward upTo
    dsimp only
    split
    · rfl
    · exact ih _

theorem Follows.onward {n k : Nat} {f : Marks → Marks} {R : Nat → Nat → Prop}
    (hf : Follows n f R) : Follows n (onward f k) fun i j => ∃ a ≤ k, Rounds R (a + 1) i j := by
  rw [funext (onward_eq f k)]
  refine (hf.comp hf.upTo).congr fun i j _ => ?_
  simp only [rounds_succ_right]
  constructor
  · rintro ⟨i', ⟨a, ha, hii'⟩, hi'j⟩
    exact ⟨a, ha, i', hii', hi'j⟩
  · rintro ⟨a, ha, i', hii', hi'j⟩
    exact ⟨i', ⟨a, ha, hii'⟩, hi'j⟩

/-! ## Repetitions

Rounds beyond the number of positions are cut off. -/

namespace Follows

variable {n : Nat} {f : Marks → Marks} {R : Nat → Nat → Prop}

theorem atMost (hf : Follows n f R) (h : Advances n R) (min more : Nat) :
    Follows n (fun m => upTo f (Nat.min more (n + 1)) (iterate f (Nat.min min (n + 1)) m))
      fun i j => ∃ a ≤ more, Rounds R (min + a) i j := by
  refine (hf.upTo.comp hf.iterate).congr fun i j hi => ?_
  have hmin := min_cases min (n + 1)
  have hmore := min_cases more (n + 1)
  constructor
  · rintro ⟨k, hik, a, ha, hkj⟩
    exact ⟨a, by omega, h.rounds_congr hi (by omega) (rounds_add.mpr ⟨k, hik, hkj⟩)⟩
  · rintro ⟨a, ha, hij⟩
    have hcut := min_cases a (n + 1)
    have hij' : Rounds R (Nat.min min (n + 1) + Nat.min a (n + 1)) i j :=
      h.rounds_congr hi (by omega) hij
    obtain ⟨k, hik, hkj⟩ := rounds_add.mp hij'
    exact ⟨k, hik, Nat.min a (n + 1), by omega, hkj⟩

theorem anyNumber (hf : Follows n f R) (h : Advances n R) :
    Follows n (upTo f (n + 1)) fun i j => ∃ a, Rounds R a i j := by
  refine hf.upTo.congr fun i j hi => ⟨fun ⟨a, _, hij⟩ => ⟨a, hij⟩, ?_⟩
  rintro ⟨a, hij⟩
  have hcut := min_cases a (n + 1)
  exact ⟨Nat.min a (n + 1), by omega, h.rounds_congr hi (by omega) hij⟩

theorem atLeast (hf : Follows n f R) (h : Advances n R) (min : Nat) :
    Follows n (fun m => CaseScript.Regex.onward f (n + 1) (iterate f (Nat.min min (n + 1)) m))
      fun i j => ∃ a, Rounds R (min + 1 + a) i j := by
  refine (hf.onward.comp hf.iterate).congr fun i j hi => ?_
  have hmin := min_cases min (n + 1)
  constructor
  · rintro ⟨k, hik, a, -, hkj⟩
    exact ⟨a, h.rounds_congr hi (by omega) (rounds_add.mpr ⟨k, hik, hkj⟩)⟩
  · rintro ⟨a, hij⟩
    have hcut := min_cases a (n + 1)
    have hij' : Rounds R (Nat.min min (n + 1) + (Nat.min a (n + 1) + 1)) i j :=
      h.rounds_congr hi (by omega) hij
    obtain ⟨k, hik, hkj⟩ := rounds_add.mp hij'
    exact ⟨k, hik, Nat.min a (n + 1), by omega, hkj⟩

end Follows

/-! ## The elements of a pattern -/

theorem sides_length (before : Option Char) (text : List Char) :
    (sides before text).length = text.length + 1 := by
  induction text generalizing before with
  | nil => rfl
  | cons c cs ih => exact congrArg (· + 1) (ih (some c))

/-- What stands on the two sides of a position. -/
theorem getElem?_sides {before : Option Char} {text : List Char} {i : Nat} (hi : i ≤ text.length) :
    (sides before text)[i]? = some (if i = 0 then before else before? text i, text[i]?) := by
  induction text generalizing before i with
  | nil =>
    obtain rfl := Nat.le_zero.mp hi
    rfl
  | cons c cs ih =>
    cases i with
    | zero => rfl
    | succ i =>
      refine (ih (Nat.le_of_succ_le_succ hi)).trans ?_
      cases i <;> rfl

theorem getElem?_sides_none {text : List Char} {i : Nat} (hi : i ≤ text.length) :
    (sides none text)[i]? = some (before? text i, text[i]?) := by
  rw [getElem?_sides hi]
  cases i <;> rfl

theorem follows_keep (l : Look) (text : List Char) :
    Follows text.length (keep l text) (Between text (look l)) where
  length {m} hm := by
    rw [keep, List.length_zipWith, sides_length, hm, Nat.min_self]
  has {m} hm j := by
    unfold keep Marks.Has
    rw [List.getElem?_zipWith_eq_some]
    constructor
    · rintro ⟨side, b, hside, hb, h⟩
      have hj := (List.getElem?_eq_some_iff.mp hb).1
      rw [hm] at hj
      cases (getElem?_sides_none (Nat.le_of_lt_succ hj)).symm.trans hside
      obtain ⟨rfl, hholds⟩ := Bool.and_eq_true_iff.mp h
      exact ⟨j, hb, rfl, hholds⟩
    · rintro ⟨i, hi, rfl, hholds⟩
      have hlt := Marks.Has.lt hi
      rw [hm] at hlt
      exact ⟨_, true, getElem?_sides_none (Nat.le_of_lt_succ hlt), hi, hholds⟩

theorem follows_advance (s : CharSet) (text : List Char) :
    Follows text.length (advance s text) (Between text (set s)) where
  length {m} hm := by
    rw [advance, List.length_cons, List.length_zipWith, hm, Nat.min_eq_left (Nat.le_succ _)]
  has {m} hm j := by
    unfold advance Marks.Has
    cases j with
    | zero => exact iff_of_false nofun fun ⟨_, _, hij, _⟩ => nomatch hij
    | succ j =>
      rw [List.getElem?_cons_succ, List.getElem?_zipWith_eq_some]
      constructor
      · rintro ⟨c, b, hc, hb, h⟩
        obtain ⟨rfl, hmem⟩ := Bool.and_eq_true_iff.mp h
        exact ⟨j, hb, rfl, c, hc, hmem⟩
      · rintro ⟨i, hi, hij, c, hc, hmem⟩
        obtain rfl := Nat.succ.inj hij
        exact ⟨c, true, hc, hi, hmem⟩

theorem follows_step (text : List Char) (r : Regex) :
    Follows text.length (step text r) (Between text r) := by
  induction r with
  | empty => exact .id
  | set s => exact follows_advance s text
  | look l => exact follows_keep l text
  | seq a b iha ihb => exact ihb.comp iha
  | alt a b iha ihb => exact iha.union ihb
  | «repeat» a min max ih =>
    have ha := advances_between text a
    match max, min with
    | some max, min =>
      refine (ih.atMost ha min (max - min)).congr fun i j _ => exists_congr fun more => ?_
      exact and_congr_left' ⟨fun h _ hbound => Option.some.inj hbound ▸ h, fun h => h max rfl⟩
    | none, 0 =>
      refine (ih.anyNumber ha).congr fun i j _ => exists_congr fun more => ?_
      rw [Nat.zero_add]
      exact (and_iff_right nofun).symm
    | none, min + 1 =>
      exact (ih.atLeast ha min).congr fun i j _ => exists_congr fun more =>
        (and_iff_right nofun).symm

/-! ## Whole texts -/

/-- A pattern occurs in a text if it matches between some of its positions. -/
theorem occursIn_iff (r : Regex) (text : List Char) :
    r.occursIn text = true ↔ ∃ i j, i ≤ text.length ∧ Between text r i j := by
  have hall : (List.replicate (text.length + 1) true).length = text.length + 1 :=
    List.length_replicate
  have hhas : ∀ i, Marks.Has (List.replicate (text.length + 1) true) i ↔ i ≤ text.length := by
    intro i
    unfold Marks.Has
    rw [List.getElem?_replicate, Option.ite_none_right_eq_some, and_iff_left rfl, Nat.lt_succ_iff]
  have hany : r.occursIn text = true ↔
      ∃ j, Marks.Has (r.step text (List.replicate (text.length + 1) true)) j := by
    unfold occursIn Marks.Has
    rw [List.any_eq_true]
    simp [List.mem_iff_getElem?]
  rw [hany, exists_comm]
  refine exists_congr fun j => ?_
  simp only [(follows_step text r).has hall j, hhas]

/-- **What `Regex.matchesWhole` computes is whether the pattern matches the text.** -/
theorem matchesWhole_iff (r : Regex) (text : List Char) :
    r.matchesWhole text = true ↔ r.Matches text := by
  have hstart : (true :: List.replicate text.length false).length = text.length + 1 := by
    rw [List.length_cons, List.length_replicate]
  have hhas : ∀ i, Marks.Has (true :: List.replicate text.length false) i ↔ i = 0 := by
    intro i
    unfold Marks.Has
    cases i with
    | zero => exact iff_of_true rfl rfl
    | succ i => simp [List.getElem?_replicate]
  unfold matchesWhole Matches
  rw [beq_iff_eq, List.getLast?_eq_getElem?, (follows_step text r).length hstart,
    Nat.add_sub_cancel]
  refine ((follows_step text r).has hstart text.length).trans ?_
  simp only [hhas, exists_eq_left]

theorem between_textStart {text : List Char} {i j : Nat} (hi : i ≤ text.length) :
    Between text (look .textStart) i j ↔ i = j ∧ i = 0 := by
  refine and_congr_right fun _ => ?_
  cases i with
  | zero => exact iff_of_true rfl rfl
  | succ i => simp [Look.holds, before?, List.getElem?_eq_getElem hi]

theorem between_textEnd {text : List Char} {i j : Nat} :
    Between text (look .textEnd) i j ↔ i = j ∧ text.length ≤ i := by
  refine and_congr_right fun _ => ?_
  rw [Look.holds, Option.isNone_iff_eq_none, List.getElem?_eq_none_iff]

/-- A pattern between anchors occurs in the texts that it matches. -/
theorem occursIn_anchored (r : Regex) (text : List Char) :
    (seq (look .textStart) (seq r (seq (look .textEnd) empty))).occursIn text = true ↔
      r.Matches text := by
  rw [occursIn_iff]
  constructor
  · rintro ⟨i, k, hi, i', hstart, j, hij, j', hend, -⟩
    obtain ⟨rfl, rfl⟩ := (between_textStart hi).mp hstart
    have hj : j = text.length :=
      Nat.le_antisymm ((advances_between text r).bounded hi hij) (between_textEnd.mp hend).2
    rwa [hj] at hij
  · intro h
    have hend : Between text (look .textEnd) text.length text.length :=
      between_textEnd.mpr ⟨rfl, Nat.le_refl _⟩
    exact ⟨0, text.length, Nat.zero_le _, 0, ⟨rfl, rfl⟩, text.length, h, text.length, hend, rfl⟩

end CaseScript.Regex
