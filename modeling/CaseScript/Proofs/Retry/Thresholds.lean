import CaseScript.Proofs.Binary64.Monotone
import CaseScript.Retry.StopCondition

/-!
# Proofs/Retry/Thresholds — bounds that leave no size between them

A size has to be larger than one bound and less than another.  If the first is not less than the
second, no number is both, and so no rows satisfy the condition.  A body may be read as a number that
is none: a NaN is not at most a bound and no bound is at most a NaN, so it passes every pair of
bounds (`StopCondition.allowsSize_opposed`).  The texts that are read so are those that spell it
(`Binary64.parse?_isNaN_iff`).
-/

namespace CaseScript

/-! ## What is read as no number -/

namespace Binary64

/-- The spellings of a NaN, in small letters. -/
def nanTexts : List (List Char) := [['n', 'a', 'n'], ['+', 'n', 'a', 'n'], ['-', 'n', 'a', 'n']]

theorem isNaN_ofRatio (negative : Bool) (num den : Nat) :
    (ofRatio negative num den).isNaN = false := by
  unfold ofRatio
  split
  · rfl
  · extract_lets e
    split
    extract_lets m
    split
    split <;> rfl

theorem isNaN_ofDecimal (negative : Bool) (digits : Nat) (exponent : Int) :
    (ofDecimal negative digits exponent).isNaN = false := by
  unfold ofDecimal
  dsimp only
  split
  · rfl
  split
  · rfl
  split <;> exact isNaN_ofRatio ..

theorem isNaN_unsigned? {negative : Bool} {cs : List Char} {x : Binary64}
    (h : unsigned? negative cs = some x) : x.isNaN = false := by
  unfold unsigned? at h
  split at h
  split at h
  split at h
  · cases h
  · obtain ⟨e, -, rfl⟩ := Option.map_eq_some_iff.mp h
    exact isNaN_ofDecimal ..

/-- A sign is the small letter of nothing else. -/
theorem eq_of_toLower_eq {c d : Char} (hd : d.toNat < 65) (h : c.toLower = d) : c = d := by
  unfold Char.toLower at h
  split at h
  · rename_i hupper
    have hge : 65 ≤ c.toNat := hupper.1
    have hle : c.toNat ≤ 90 := hupper.2
    have hvalue : (c.toNat + 32) % 4294967296 = d.toNat := by
      rw [← h]
      rfl
    omega
  · exact h

/-- Behind its sign, a NaN is a word. -/
theorem parse?_word {negative : Bool} {cs word : List Char} :
    (∃ x, (if word = ['i', 'n', 'f'] ∨ word = ['i', 'n', 'f', 'i', 'n', 'i', 't', 'y'] then
          some (.infinite negative)
        else if word = ['n', 'a', 'n'] then some (.nan negative)
        else unsigned? negative cs) = some x ∧ x.isNaN = true) ↔ word = ['n', 'a', 'n'] := by
  constructor
  · rintro ⟨x, hx, hnan⟩
    split at hx
    · obtain rfl := Option.some.inj hx
      cases hnan
    split at hx
    · assumption
    · rw [isNaN_unsigned? hx] at hnan
      cases hnan
  · rintro rfl
    exact ⟨.nan negative, rfl, rfl⟩

theorem lowerAscii_mem_nanTexts {cs : List Char} : Text.lowerAscii cs ∈ nanTexts ↔
    Text.lowerAscii cs = ['n', 'a', 'n'] ∨
      (∃ rest, cs = '+' :: rest ∧ Text.lowerAscii rest = ['n', 'a', 'n']) ∨
      ∃ rest, cs = '-' :: rest ∧ Text.lowerAscii rest = ['n', 'a', 'n'] := by
  have hsigned : ∀ sign : Char, sign.toNat < 65 → sign.toLower = sign →
      (Text.lowerAscii cs = sign :: ['n', 'a', 'n'] ↔
        ∃ rest, cs = sign :: rest ∧ Text.lowerAscii rest = ['n', 'a', 'n']) := by
    intro sign hsign hself
    constructor
    · intro h
      obtain ⟨c, rest, rfl, hc, hrest⟩ := List.map_eq_cons_iff.mp h
      exact ⟨rest, by rw [eq_of_toLower_eq hsign hc], hrest⟩
    · rintro ⟨rest, rfl, hrest⟩
      rw [Text.lowerAscii, List.map_cons, hself]
      exact congrArg (sign :: ·) hrest
  rw [nanTexts, List.mem_cons, List.mem_cons, List.mem_singleton,
    hsigned '+' (by decide) (by decide), hsigned '-' (by decide) (by decide)]

/-- **What is read as a NaN is one of its spellings.** -/
theorem parse?_isNaN_iff {cs : List Char} :
    (∃ x, parse? cs = some x ∧ x.isNaN = true) ↔ Text.lowerAscii cs ∈ nanTexts := by
  rw [lowerAscii_mem_nanTexts]
  unfold parse?
  split
  rename_i hcut
  refine parse?_word.trans ?_
  split at hcut
  · cases hcut
    simp [Text.lowerAscii]
  · cases hcut
    simp [Text.lowerAscii]
  · rename_i hminus hplus
    cases hcut
    refine ⟨.inl, ?_⟩
    rintro (h | ⟨rest, rfl, -⟩ | ⟨rest, rfl, -⟩)
    · exact h
    · exact absurd rfl (hplus rest)
    · exact absurd rfl (hminus rest)

end Binary64

/-! ## Bounds without a size between them -/

namespace StopCondition

variable {c : StopCondition} {least most : Binary64}

/-- A body that spells no number. -/
def SpellsNaN (body : String) : Prop :=
  Text.lowerAscii (Text.trim body.toList) ∈ Binary64.nanTexts

instance (body : String) : Decidable (SpellsNaN body) :=
  decidable_of_iff (Binary64.nanTexts.elem (Text.lowerAscii (Text.trim body.toList)) = true)
    List.elem_iff

/-- The condition without its bounds. -/
def boundless (c : StopCondition) : StopCondition :=
  { c with largerThanSize := .none, lessThanSize := .none }

/-- **Between a bound and one that is not greater there is no size but a NaN.** -/
theorem allowsSize_opposed (hlarger : c.largerThanSize = some least)
    (hless : c.lessThanSize = some most) (h : most.le least = true) (size : Binary64) :
    c.allowsSize size = size.isNaN := by
  obtain ⟨hmost, hleast⟩ := Binary64.isNaN_of_le h
  rw [allowsSize, hlarger, hless, ifPresent, ifPresent]
  cases hsize : size.isNaN with
  | true =>
    have hrank := Binary64.rank_eq_none_iff.mpr hsize
    have hbelow : size.le least = false := by
      simp [Binary64.le, Binary64.lt, Binary64.eq, hrank]
    have habove : most.le size = false := by
      simp [Binary64.le, Binary64.lt, Binary64.eq, hrank]
    rw [hbelow, habove]
    rfl
  | false =>
    obtain hbelow | hbelow := Binary64.le_or_le hsize hleast
    · rw [hbelow]
      rfl
    · rw [Binary64.le_of_le_of_le h hbelow]
      exact Bool.and_false _

theorem byNumber_isNaN (body : String) : byNumber body Binary64.isNaN = true ↔ SpellsNaN body := by
  rw [SpellsNaN, ← Binary64.parse?_isNaN_iff, byNumber, bodyNumber?]
  cases Binary64.parse? (Text.trim body.toList) with
  | none => simp
  | some x => simp

/-- No rows satisfy bounds that leave no size between them: how many there are is a number. -/
theorem not_holdsOfRows_opposed (hlarger : c.largerThanSize = some least)
    (hless : c.lessThanSize = some most) (h : most.le least = true) (rows : List Row) :
    c.holdsOfRows rows = false := by
  have hsize : c.allowsSize (Binary64.ofNat rows.length) = false := by
    rw [allowsSize_opposed hlarger hless h]
    exact Binary64.isNaN_ofRatio ..
  rw [holdsOfRows, hsize]
  simp

/-- A body satisfies such bounds just if it spells no number, and the rest if that does. -/
theorem holdsOfBody_opposed (hlarger : c.largerThanSize = some least)
    (hless : c.lessThanSize = some most) (h : most.le least = true) (body : String) :
    c.holdsOfBody body = true ↔ SpellsNaN body ∧ c.boundless.holdsOfBody body = true := by
  have hsize : c.allowsSize = Binary64.isNaN := funext (allowsSize_opposed hlarger hless h)
  have hasks : c.asksSize = true := by
    rw [asksSize, hlarger]
    rfl
  have hrest : c.boundless.holdsOfBody body =
      (ifPresent c.contentEquals (fun v => body == v.plain) &&
        ifPresent c.contentContains (fun v => containsText body v.plain) && true &&
        (!c.asksObject || byObject body c.allowsObject)) := rfl
  rw [← byNumber_isNaN, hrest, holdsOfBody, hasks, hsize]
  cases byNumber body Binary64.isNaN <;> simp

/-- **Thresholds that contradict each other are met by no rows, and by no body that spells a number.**
If a size has to be larger than a whole number and less than one that is not greater, the condition
never holds of rows, whatever else it asks; and it holds of a body just if the body spells a NaN and
the condition without its bounds holds of it. -/
theorem thresholds_opposed {c : StopCondition} {a b : Int}
    (hlarger : c.largerThanSize = some (.ofInt a)) (hless : c.lessThanSize = some (.ofInt b))
    (h : b ≤ a) :
    (∀ rows, c.holdsOfRows rows = false) ∧
      ∀ body, c.holdsOfBody body = true ↔ SpellsNaN body ∧ c.boundless.holdsOfBody body = true :=
  have hbounds := Binary64.ofInt_le_ofInt h
  ⟨not_holdsOfRows_opposed hlarger hless hbounds, holdsOfBody_opposed hlarger hless hbounds⟩

/-- Sizes larger than five and less than five: rows and a body have none. -/
theorem five_opposed :
    let c : StopCondition :=
      { none with largerThanSize := some (.ofInt 5), lessThanSize := some (.ofInt 5) }
    (5 : Int) ≤ 5 ∧ c.holdsOfRows [[("id", .ofNat 1)]] = false ∧ c.holdsOfBody "5" = false := by
  intro c
  have hle : (5 : Int) ≤ 5 := le_rfl
  obtain ⟨hrows, hbody⟩ := thresholds_opposed (c := c) rfl rfl hle
  refine ⟨hle, hrows _, Bool.eq_false_iff.mpr fun hholds => ?_⟩
  exact absurd ((hbody "5").mp hholds).1 (by decide)

/-- A body that spells no number is larger than five and less than five. -/
theorem nan_meets :
    let c : StopCondition :=
      { none with largerThanSize := some (.ofInt 5), lessThanSize := some (.ofInt 5) }
    c.holdsOfBody "nan" = true := by
  decide +kernel

end StopCondition

end CaseScript
