import CaseScript.Proofs.Check.Masked

/-!
# Proofs/Check/Opposed — a condition and its denial

Most conditions come in pairs, one of which denies the other (`Condition.denial?`).  The two never
hold together, and neither holds just where the operands are not such that the condition **decides**
them (`Condition.Decides`): shapes that cannot contain each other, texts that are no numbers,
patterns or dates, values without a length.  Of two dates one is earlier, or they are equal, or the
other is earlier (`validate_complementary`).
-/

namespace CaseScript

/-! ## Denials -/

namespace Condition

/-- The condition that denies another; of each pair one is the first. -/
def denial? : Condition → Option Condition
  | isEqual => some isNotEqual
  | isIn => some isNotIn
  | isTrue => some isFalse
  | isApproximate4 => some isNotApproximate4
  | isLengthEqual => some isLengthNotEqual
  | isJsonContain => some isJsonNotContain
  | isContain => some isNotContain
  | isLargerThan => some isLessThanOrEqual
  | isLessThan => some isLargerThanOrEqual
  | isNull => some isNotNull
  | isRegexMatch => some isRegexNotMatch
  | isJsonEqual => some isJsonNotEqual
  | isDateEqual => some isDateNotEqual
  | isDateLargerThan => some isDateLessThanOrEqual
  | isDateLessThan => some isDateLargerThanOrEqual
  | _ => none

/-- The shapes of a whole and a part of which can be said whether one contains the other. -/
inductive Containable : Json → Json → Prop
  | texts (s t : String) : Containable (.str s) (.str t)
  | objects (es fs : Entries) : Containable (.obj es) (.obj fs)
  | array (items : List Json) (v : Json) : Containable (.arr items) v

/-- The operands of which a condition or its denial holds; none, if it has no denial. -/
def Decides (key value : Json) : Condition → Prop
  | isEqual | isIn | isNull | isJsonEqual => True
  | isTrue => ∃ b, key = .bool b
  | isApproximate4 => key.number?.isSome ∧ value.number?.isSome
  | isLengthEqual => key.length?.isSome ∧ value.number?.isSome
  | isJsonContain | isContain => Containable key value
  | isLargerThan | isLessThan => ∃ a b, key.number? = some a ∧ value.number? = some b ∧
      a.isNaN = false ∧ b.isNaN = false
  | isRegexMatch => ∃ text pattern r, key = .str text ∧ value = .str pattern ∧
      wholePattern pattern.toList = .ok r
  | isDateEqual | isDateLargerThan | isDateLessThan => key.moment?.isSome ∧ value.moment?.isSome
  | _ => False

end Condition

/-- Two verdicts of which never both pass, and one does just if the matter is `decided`. -/
structure Opposed (v w : Verdict) (decided : Prop) : Prop where
  notBoth : ¬(v.passed = true ∧ w.passed = true)
  neither_iff : v.passed = false ∧ w.passed = false ↔ ¬decided

namespace Opposed

variable {decided : Prop} {r s : String}

theorem of_decided (h : decided) (holds : Bool) :
    Opposed (.ofBool holds r) (.ofBool (!holds) s) decided where
  notBoth := by simp
  neither_iff := by simp [h]

/-- Of a finding and its absence one is as wanted. -/
theorem of_finding (h : decided) (found : Bool) :
    Opposed (.ofBool (found == true) r) (.ofBool (found == false) s) decided := by
  rw [beq_true, beq_false]
  exact of_decided h found

theorem of_undecided (h : ¬decided) : Opposed (.fail r) (.fail s) decided where
  notBoth h' := Bool.noConfusion h'.1
  neither_iff := ⟨fun _ => h, fun _ => ⟨rfl, rfl⟩⟩

end Opposed

/-! ## Orders -/

namespace Binary64

/-- **Of two numbers that are no NaN, one is less or they are equal.** -/
theorem le_eq_not_lt {a b : Binary64} (ha : a.isNaN = false) (hb : b.isNaN = false) :
    a.le b = !b.lt a := by
  obtain ⟨x, hx⟩ : ∃ x, a.rank = some x := by
    cases a <;> simp_all [rank, isNaN]
  obtain ⟨y, hy⟩ : ∃ y, b.rank = some y := by
    cases b <;> simp_all [rank, isNaN]
  simp only [le, lt, eq, hx, hy]
  rw [Bool.eq_iff_iff]
  simp [Prod.ext_iff]
  omega

/-- A NaN is neither less than a number nor greater. -/
theorem order_of_isNaN {a b : Binary64} (h : ¬(a.isNaN = false ∧ b.isNaN = false)) :
    a.lt b = false ∧ b.lt a = false ∧ a.le b = false ∧ b.le a = false := by
  cases a <;> cases b <;> simp_all [isNaN, le, lt, eq, rank]

end Binary64

/-- **Of two moments one is earlier or they are the same.** -/
theorem Moment.lt_trichotomy (a b : Moment) :
    (a.lt b = true ∧ a ≠ b ∧ b.lt a = false) ∨ (a.lt b = false ∧ a = b ∧ b.lt a = false) ∨
      (a.lt b = false ∧ a ≠ b ∧ b.lt a = true) := by
  obtain ⟨s, n⟩ := a
  obtain ⟨t, m⟩ := b
  simp only [lt, Moment.mk.injEq, ne_eq]
  simp
  omega

/-! ## One kind of condition after another -/

section

variable (key value : Json) (c d : Condition)

theorem opposed_byTruth : Opposed (byTruth key true) (byTruth key false) (∃ b, key = .bool b) := by
  cases key with
  | bool b => exact .of_finding ⟨b, rfl⟩ b
  | null | num n | str s | arr vs | obj es => exact .of_undecided (by simp)

theorem opposed_byNull : Opposed (byNull key c true) (byNull key d false) True :=
  .of_finding trivial _

theorem opposed_byNumber {f g : Binary64 → Binary64 → Bool} (h : ∀ a b, g a b = !f a b) :
    Opposed (byNumber key value c f) (byNumber key value d g)
      (key.number?.isSome ∧ value.number?.isSome) := by
  unfold byNumber
  rcases key.number? with _ | a <;> rcases value.number? with _ | b
  case some.some =>
    simp only [h]
    exact .of_decided (by simp) _
  all_goals exact .of_undecided (by simp)

/-- A relation between numbers and its reverse are opposed where there is no NaN. -/
theorem opposed_byOrder {f g : Binary64 → Binary64 → Bool}
    (h : ∀ a b, a.isNaN = false → b.isNaN = false → g a b = !f a b)
    (hnan : ∀ a b, ¬(a.isNaN = false ∧ b.isNaN = false) → f a b = false ∧ g a b = false) :
    Opposed (byNumber key value c f) (byNumber key value d g)
      (∃ a b, key.number? = some a ∧ value.number? = some b ∧
        a.isNaN = false ∧ b.isNaN = false) := by
  unfold byNumber
  rcases key.number? with _ | a <;> rcases value.number? with _ | b
  case some.some =>
    by_cases hordered : a.isNaN = false ∧ b.isNaN = false
    · simp only [h a b hordered.1 hordered.2]
      exact .of_decided ⟨a, b, rfl, rfl, hordered⟩ _
    · obtain ⟨hf, hg⟩ := hnan a b hordered
      simp only [hf, hg]
      exact .of_undecided (by simpa using hordered)
  all_goals exact .of_undecided (by simp)

theorem opposed_byLength {f g : Binary64 → Binary64 → Bool} (h : ∀ a b, g a b = !f a b) :
    Opposed (byLength key value c f) (byLength key value d g)
      (key.length?.isSome ∧ value.number?.isSome) := by
  unfold byLength
  rcases key.length? with _ | n <;> rcases value.number? with _ | b
  case some.some =>
    simp only [h]
    exact .of_decided (by simp) _
  all_goals exact .of_undecided (by simp)

theorem opposed_byMoment {f g : Moment → Moment → Bool} (h : ∀ a b, g a b = !f a b) :
    Opposed (byMoment key value c f) (byMoment key value d g)
      (key.moment?.isSome ∧ value.moment?.isSome) := by
  unfold byMoment
  rcases key.moment? with _ | a <;> rcases value.moment? with _ | b
  case some.some =>
    simp only [h]
    exact .of_decided (by simp) _
  all_goals exact .of_undecided (by simp)

theorem isSome_containsValue? :
    (containsValue? key value).isSome ↔ Condition.Containable key value := by
  refine ⟨fun h => ?_, fun h => ?_⟩
  · unfold containsValue? at h
    split at h
    case h_6 => cases h
    all_goals constructor
  · cases h with
    | texts | objects => rfl
    | array items => cases value <;> rfl

theorem opposed_byContainment : Opposed (byContainment key value c true)
    (byContainment key value d false) (Condition.Containable key value) := by
  have hsome := isSome_containsValue? key value
  unfold byContainment
  generalize containsValue? key value = contained at hsome ⊢
  rcases contained with _ | found
  · exact .of_undecided fun h => Bool.false_ne_true (hsome.mpr h)
  · exact .of_finding (hsome.mp rfl) found

theorem opposed_byPattern : Opposed (byPattern key value c true) (byPattern key value d false)
    (∃ text pattern r, key = .str text ∧ value = .str pattern ∧
      wholePattern pattern.toList = .ok r) := by
  unfold byPattern
  split
  · rename_i text pattern
    rcases hpattern : wholePattern pattern.toList with fault | r
    · exact .of_undecided (by simp [hpattern])
    · exact .of_finding ⟨text, pattern, r, rfl, rfl, hpattern⟩ _
  · rename_i hshapes
    exact .of_undecided fun ⟨text, pattern, _, hkey, hvalue, _⟩ => hshapes text pattern hkey hvalue

theorem opposed_byStructure :
    Opposed (byStructure key value c true) (byStructure key value d false) True :=
  .of_finding trivial _

/-! ## Validation -/

/-- Equality and inequality both look at the structure, or neither does. -/
theorem opposed_equality :
    Opposed (validate key value .isEqual) (validate key value .isNotEqual) True := by
  unfold validate normalize
  dsimp only
  by_cases hstructured : (key.isContainer || value.isContainer) = true
  · simp only [hstructured, if_true]
    exact opposed_byStructure key value _ _
  · simp only [hstructured]
    exact .of_decided trivial _

/-- Membership in an array is containment with the operands exchanged, and that is decided. -/
theorem opposed_membership :
    Opposed (validate key value .isIn) (validate key value .isNotIn) True := by
  cases value with
  | arr items =>
    obtain ⟨hboth, hneither⟩ := opposed_byContainment (.arr items) key .isJsonContain
      .isJsonNotContain
    refine ⟨hboth, hneither.trans (iff_of_false ?_ ?_)⟩
    · exact fun h => h (.array items key)
    · exact fun h => h trivial
  | null | bool b | num n | str s | obj es => exact .of_decided trivial _

/-- **A condition and its denial are opposed** on the operands that it decides. -/
theorem opposed_denial {c d : Condition} (h : c.denial? = some d) :
    Opposed (validate key value c) (validate key value d) (c.Decides key value) := by
  match c, d, h with
  | .isEqual, _, rfl => exact opposed_equality key value
  | .isIn, _, rfl => exact opposed_membership key value
  | .isTrue, _, rfl => exact opposed_byTruth key
  | .isApproximate4, _, rfl => exact opposed_byNumber key value _ _ fun _ _ => rfl
  | .isLengthEqual, _, rfl => exact opposed_byLength key value _ _ fun _ _ => rfl
  | .isJsonContain, _, rfl => exact opposed_byContainment key value _ _
  | .isContain, _, rfl => exact opposed_byContainment key value _ _
  | .isLargerThan, _, rfl =>
    exact opposed_byOrder key value _ _ (fun _ _ ha hb => Binary64.le_eq_not_lt ha hb)
      fun _ _ hnan => ⟨(Binary64.order_of_isNaN hnan).2.1, (Binary64.order_of_isNaN hnan).2.2.1⟩
  | .isLessThan, _, rfl =>
    exact opposed_byOrder key value _ _ (fun _ _ ha hb => Binary64.le_eq_not_lt hb ha)
      fun _ _ hnan => ⟨(Binary64.order_of_isNaN hnan).1, (Binary64.order_of_isNaN hnan).2.2.2⟩
  | .isNull, _, rfl => exact opposed_byNull key _ _
  | .isRegexMatch, _, rfl => exact opposed_byPattern key value _ _
  | .isJsonEqual, _, rfl => exact opposed_byStructure key value _ _
  | .isDateEqual, _, rfl => exact opposed_byMoment key value _ _ fun _ _ => rfl
  | .isDateLargerThan, _, rfl => exact opposed_byMoment key value _ _ fun _ _ => rfl
  | .isDateLessThan, _, rfl => exact opposed_byMoment key value _ _ fun _ _ => rfl

/-- **Of two dates one is earlier, or they are equal, or the other is earlier.** -/
theorem countP_dates {a b : Moment} (ha : key.moment? = some a) (hb : value.moment? = some b) :
    [Condition.isDateLessThan, .isDateEqual, .isDateLargerThan].countP
      (fun c => (validate key value c).passed) = 1 := by
  have hless : (validate key value .isDateLessThan).passed = a.lt b := by
    simp [validate, normalize, evaluate, byMoment, ha, hb]
  have hequal : (validate key value .isDateEqual).passed = (a == b) := by
    simp [validate, normalize, evaluate, byMoment, ha, hb]
  have hlarger : (validate key value .isDateLargerThan).passed = b.lt a := by
    simp [validate, normalize, evaluate, byMoment, ha, hb]
  obtain ⟨hlt, hne, hgt⟩ | ⟨hlt, rfl, hgt⟩ | ⟨hlt, hne, hgt⟩ := Moment.lt_trichotomy a b
  · simp [hless, hequal, hlarger, hlt, hne, hgt]
  · simp [hless, hequal, hlarger, hlt]
  · simp [hless, hequal, hlarger, hlt, hne, hgt]

/-- **Conditions and their denials are complementary**: of two dates just one of the three orders
holds, and a condition and its denial never hold both, nor fail both of operands that the condition
decides. -/
theorem validate_complementary :
    (∀ c d, c.denial? = some d →
      ¬((validate key value c).passed = true ∧ (validate key value d).passed = true) ∧
      ((validate key value c).passed = false ∧ (validate key value d).passed = false ↔
        ¬c.Decides key value)) ∧
    (key.moment?.isSome → value.moment?.isSome →
      [Condition.isDateLessThan, .isDateEqual, .isDateLargerThan].countP
        (fun c => (validate key value c).passed) = 1) := by
  refine ⟨fun c d h => ?_, fun ha hb => ?_⟩
  · obtain ⟨hboth, hneither⟩ := opposed_denial key value h
    exact ⟨hboth, hneither⟩
  · obtain ⟨a, ha⟩ := Option.isSome_iff_exists.mp ha
    obtain ⟨b, hb⟩ := Option.isSome_iff_exists.mp hb
    exact countP_dates key value ha hb

end

/-- A leap second is a date before the next day, and a NaN is a number in no order. -/
theorem leapSecond_complementary :
    let leap : Json := .str "2016-12-31T23:59:60Z"
    let day : Json := .str "2017-01-01"
    let nan : Json := .str " nan "
    (leap.moment?.isSome ∧ day.moment?.isSome ∧
      Condition.isLargerThan.denial? = some .isLessThanOrEqual) ∧
    [Condition.isDateLessThan, .isDateEqual, .isDateLargerThan].countP
      (fun c => (validate leap day c).passed) = 1 ∧
    ((validate nan day .isLargerThan).passed = false ∧
      (validate nan day .isLessThanOrEqual).passed = false ↔
        ¬Condition.isLargerThan.Decides nan day) := by
  intro leap day nan
  have hleap : leap.moment?.isSome := by decide +kernel
  have hday : day.moment?.isSome := by decide +kernel
  exact ⟨⟨hleap, hday, rfl⟩, (validate_complementary leap day).2 hleap hday,
    ((validate_complementary nan day).1 _ _ rfl).2⟩

end CaseScript
