import CaseScript.Proofs.Text.Ranked
import CaseScript.Unicode.Property

/-!
# Proofs/Unicode/Words — which characters words are made of

A set that is joined from spans has the members of the spans (`holds_join`, `holds_ofList`), so
whether a character belongs to a word is read off the tables without joining them.
-/

namespace CaseScript.Unicode

namespace Spans

/-- Joined spans hold what the spans hold, if their first points ascend. -/
theorem holds_joinFrom {a : Span} {rest : List Span}
    (h : (a :: rest).Pairwise fun x y => x.first ≤ y.first) (n : Nat) :
    holds (joinFrom a rest) n = (a :: rest).any (·.holds n) := by
  induction rest generalizing a with
  | nil => rfl
  | cons b rest ih =>
    obtain ⟨ha, hrest⟩ := List.pairwise_cons.mp h
    have hab : a.first ≤ b.first := ha b List.mem_cons_self
    rw [joinFrom]
    split
    · rename_i htouch
      have hmerged : (Span.mk a.first (max a.last b.last) :: rest).Pairwise
          fun x y => x.first ≤ y.first :=
        List.pairwise_cons.mpr
          ⟨fun c hc => ha c (List.mem_cons_of_mem b hc), (List.pairwise_cons.mp hrest).2⟩
      have hboth : (Span.mk a.first (max a.last b.last)).holds n = (a.holds n || b.holds n) := by
        rw [Bool.eq_iff_iff]
        simp only [Span.holds, Bool.or_eq_true, Bool.and_eq_true, decide_eq_true_eq]
        omega
      rw [ih hmerged, List.any_cons, List.any_cons, List.any_cons, hboth, Bool.or_assoc]
    · exact congrArg (a.holds n || ·) (ih hrest)

theorem holds_join {spans : List Span} (h : spans.Pairwise fun x y => x.first ≤ y.first)
    (n : Nat) : holds (join spans) n = spans.any (·.holds n) := by
  cases spans with
  | nil => rfl
  | cons a rest => exact holds_joinFrom h n

/-- A set that is built from spans in any order holds what one of them holds. -/
theorem holds_ofList (spans : List Span) (n : Nat) :
    holds (ofList spans) n = spans.any (·.holds n) := by
  have h : ByRank Span.first spans (spans.mergeSort fun a b => a.first ≤ b.first) :=
    byRank_mergeSort Span.first spans
  rw [ofList, holds_join h.ascending]
  exact List.Perm.any_eq h.perm

/-- Ascending spans hold nothing before the first of them. -/
theorem any_holds_eq_false {spans : List Span} (h : spans.Pairwise fun x y => x.first ≤ y.first)
    {n : Nat} (hhead : ∀ s ∈ spans.head?, n < s.first) : spans.any (·.holds n) = false := by
  cases spans with
  | nil => rfl
  | cons a rest =>
    have ha : n < a.first := hhead a rfl
    refine List.any_eq_false.mpr (List.forall_mem_cons.mpr ⟨?_, fun s hs => ?_⟩)
    · simp only [Span.holds, Bool.and_eq_true, decide_eq_true_eq]
      omega
    · have hs := (List.pairwise_cons.mp h).1 s hs
      simp only [Span.holds, Bool.and_eq_true, decide_eq_true_eq]
      omega

/-- What ascending spans hold is held by those that do not begin behind it. -/
theorem any_holds_take {spans : List Span} (h : spans.Pairwise fun x y => x.first ≤ y.first)
    {n k : Nat} (hnext : ∀ s ∈ (spans.drop k).head?, n < s.first) :
    spans.any (·.holds n) = (spans.take k).any (·.holds n) := by
  have hbehind := any_holds_eq_false (h.sublist (List.drop_sublist k spans)) hnext
  calc spans.any (·.holds n) = (spans.take k ++ spans.drop k).any (·.holds n) := by
        rw [List.take_append_drop]
    _ = (spans.take k).any (·.holds n) := by rw [List.any_append, hbehind, Bool.or_false]

theorem pairwise_ofRuns (start : Nat) (sizes : List Nat) :
    (ofRuns start sizes).Pairwise (fun x y => x.first ≤ y.first) ∧
      ∀ s ∈ ofRuns start sizes, start ≤ s.first := by
  induction start, sizes using ofRuns.induct with
  | case1 start gap size rest ih =>
    rw [ofRuns]
    refine ⟨List.pairwise_cons.mpr ⟨fun s hs => ?_, ih.1⟩,
      List.forall_mem_cons.mpr ⟨Nat.le_add_right _ _, fun s hs => ?_⟩⟩
    · exact Nat.le_trans (Nat.le_add_right _ _) (ih.2 s hs)
    · exact Nat.le_trans (Nat.add_assoc start gap size ▸ Nat.le_add_right _ _) (ih.2 s hs)
  | case2 start sizes hsizes =>
    rw [ofRuns]
    · exact ⟨List.Pairwise.nil, fun s hs => absurd hs List.not_mem_nil⟩
    · exact hsizes

end Spans

namespace Category

/-- The spans of a table lie behind its start, one behind another. -/
theorem pairwise_spansFrom (wanted : Category → Bool) (start : Nat) (runs : List Nat) :
    (spansFrom wanted start runs).Pairwise (fun x y => x.first ≤ y.first) ∧
      ∀ s ∈ spansFrom wanted start runs, start ≤ s.first := by
  induction start, runs using spansFrom.induct wanted with
  | case1 start code size rest hwanted ih =>
    have hbehind : ∀ s ∈ spansFrom wanted (start + size) rest, start ≤ s.first := fun s hs =>
      Nat.le_trans (Nat.le_add_right _ _) (ih.2 s hs)
    rw [spansFrom, if_pos hwanted]
    exact ⟨List.pairwise_cons.mpr ⟨hbehind, ih.1⟩,
      List.forall_mem_cons.mpr ⟨Nat.le_refl start, hbehind⟩⟩
  | case2 start code size rest hwanted ih =>
    rw [spansFrom, if_neg hwanted]
    exact ⟨ih.1, fun s hs => Nat.le_trans (Nat.le_add_right _ _) (ih.2 s hs)⟩
  | case3 start runs hruns =>
    rw [spansFrom]
    · exact ⟨List.Pairwise.nil, fun s hs => absurd hs List.not_mem_nil⟩
    · exact hruns

theorem holds_members (categories : List Category) (n : Nat) :
    (members categories).holds n =
      (spansFrom categories.contains 0 (Text.unpack categoryRuns)).any (·.holds n) :=
  Spans.holds_join (pairwise_spansFrom _ _ _).1 n

end Category

/-! ## Words -/

/-- The kinds of characters that words are made of besides letters. -/
def wordCategories : List Category :=
  .decimalNumber :: .connectorPunctuation :: Category.marks

/-- A character belongs to a word if one of three tables has it. -/
theorem mem_wordSet (c : Char) :
    wordSet.mem c =
      ((Category.spansFrom wordCategories.contains 0 (Text.unpack categoryRuns)).any
          (·.holds c.toNat) ||
        (((binary? "alphabetic").getD []).any (·.holds c.toNat) ||
          ((binary? "joincontrol").getD []).any (·.holds c.toNat))) := by
  have hcategories := Category.holds_members wordCategories c.toNat
  rw [Spans.holds] at hcategories
  rw [Spans.mem, wordSet, Spans.holds_ofList, List.any_append, List.any_append, ← hcategories]
  rfl

/-- The spans of a table of properties begin behind a point. -/
def BeginBehind (n : Nat) (spans : List Span) : Prop := ∀ s ∈ spans.head?, n < s.first

instance (n : Nat) (spans : List Span) : Decidable (BeginBehind n spans) :=
  inferInstanceAs (Decidable (∀ s ∈ spans.head?, n < s.first))

theorem categories_begin : BeginBehind 41
    (Category.spansFrom wordCategories.contains 0 (Text.unpack categoryRuns)) := by
  decide +kernel

theorem alphabetic_begins : BeginBehind 41 ((binary? "alphabetic").getD []) := by
  decide +kernel

theorem joincontrol_begins : BeginBehind 41 ((binary? "joincontrol").getD []) := by
  decide +kernel

theorem pairwise_binary? (name : String) :
    ((binary? name).getD []).Pairwise fun x y => x.first ≤ y.first := by
  unfold binary?
  cases named? properties name with
  | none => exact List.Pairwise.nil
  | some lines => exact (Spans.pairwise_ofRuns 0 (Text.unpack lines)).1

/-- Nothing up to the parentheses belongs to a word: no quote and no parenthesis. -/
theorem not_mem_wordSet {c : Char} (h : c.toNat ≤ 41) : wordSet.mem c = false := by
  have hbehind : ∀ {spans : List Span}, BeginBehind 41 spans →
      ∀ s ∈ spans.head?, c.toNat < s.first := fun hspans s hs => Nat.lt_of_le_of_lt h (hspans s hs)
  rw [mem_wordSet,
    Spans.any_holds_eq_false (Category.pairwise_spansFrom _ _ _).1 (hbehind categories_begin),
    Spans.any_holds_eq_false (pairwise_binary? _) (hbehind alphabetic_begins),
    Spans.any_holds_eq_false (pairwise_binary? _) (hbehind joincontrol_begins)]
  rfl

/-- Both small sigmas belong to words. -/
theorem sigma_mem_wordSet : wordSet.mem 'σ' ∧ wordSet.mem 'ς' := by
  have htable : ((binary? "alphabetic").getD []).any (·.holds 'σ'.toNat) ∧
      ((binary? "alphabetic").getD []).any (·.holds 'ς'.toNat) := by
    decide +kernel
  constructor
  · rw [mem_wordSet, htable.1, Bool.true_or, Bool.or_true]
  · rw [mem_wordSet, htable.2, Bool.true_or, Bool.or_true]

end CaseScript.Unicode
