import CaseScript.Retry.StopCondition

/-!
# Proofs/Retry/Conjunction — a stop condition is what its tests are

A condition sets some of seven tests (`StopCondition.Test`).  Though tests share a reading of the
body, each decides by itself: a condition holds exactly if every condition that keeps one of its
tests does (`holds_conjunction`).  So a test that is added can only make it harder to satisfy, and
two tests that contradict each other make it impossible.
-/

namespace CaseScript

namespace StopCondition

/-- A test that a condition may set. -/
inductive Test where
  | largerThanSize
  | lessThanSize
  | contentEquals
  | contentContains
  | jsonContains
  | jsonNotContains
  | jsonContainsKey
deriving DecidableEq, Repr

/-- Every test. -/
def Test.all : List Test :=
  [largerThanSize, lessThanSize, contentEquals, contentContains, jsonContains, jsonNotContains,
    jsonContainsKey]

/-- Whether a condition sets the test. -/
def sets (c : StopCondition) : Test → Bool
  | .largerThanSize => c.largerThanSize.isSome
  | .lessThanSize => c.lessThanSize.isSome
  | .contentEquals => c.contentEquals.isSome
  | .contentContains => c.contentContains.isSome
  | .jsonContains => c.jsonContains.isSome
  | .jsonNotContains => c.jsonNotContains.isSome
  | .jsonContainsKey => c.jsonContainsKey.isSome

/-- The condition that keeps one test. -/
def only (c : StopCondition) : Test → StopCondition
  | .largerThanSize => { none with largerThanSize := c.largerThanSize }
  | .lessThanSize => { none with lessThanSize := c.lessThanSize }
  | .contentEquals => { none with contentEquals := c.contentEquals }
  | .contentContains => { none with contentContains := c.contentContains }
  | .jsonContains => { none with jsonContains := c.jsonContains }
  | .jsonNotContains => { none with jsonNotContains := c.jsonNotContains }
  | .jsonContainsKey => { none with jsonContainsKey := c.jsonContainsKey }

/-- The conditions that keep one test of those that are set. -/
def singles (c : StopCondition) : List StopCondition := (Test.all.filter c.sets).map c.only

/-- The second condition sets what the first does, and maybe more. -/
def Extends (d c : StopCondition) : Prop := ∀ t, c.sets t → d.only t = c.only t

/-- Something is asked for that is also forbidden. -/
def Contradicts (c : StopCondition) : Prop :=
  ∃ wanted forbidden e, c.jsonContains = some wanted ∧ c.jsonNotContains = some forbidden ∧
    e ∈ wanted ∧ e ∈ forbidden

variable {c d : StopCondition}

/-! ## Tests by themselves -/

/-- Whether a body passes a test by itself; it does if the test is not set. -/
def bodyPasses (c : StopCondition) (body : String) : Test → Bool
  | .largerThanSize => ifPresent c.largerThanSize fun least => byNumber body fun x => !x.le least
  | .lessThanSize => ifPresent c.lessThanSize fun most => byNumber body fun x => !most.le x
  | .contentEquals => ifPresent c.contentEquals fun v => body == v.plain
  | .contentContains => ifPresent c.contentContains fun v => containsText body v.plain
  | .jsonContains => ifPresent c.jsonContains fun es => byObject body fun o => meetsAll o es
  | .jsonNotContains => ifPresent c.jsonNotContains fun es => byObject body fun o => !meetsSome o es
  | .jsonContainsKey => ifPresent c.jsonContainsKey fun ks => byObject body fun o => hasPaths o ks

/-- Whether rows pass a test by itself; they do if the test is not set. -/
def rowsPass (c : StopCondition) (rows : List Row) : Test → Bool
  | .largerThanSize =>
    ifPresent c.largerThanSize fun least => !(Binary64.ofNat rows.length).le least
  | .lessThanSize => ifPresent c.lessThanSize fun most => !most.le (Binary64.ofNat rows.length)
  | .contentEquals =>
    ifPresent c.contentEquals fun v => rows.any fun row => row.any fun e => cellEquals e.2 v
  | .contentContains => ifPresent c.contentContains fun v =>
    rows.any fun row => row.any fun e => containsText e.2.plain v.plain
  | .jsonContains => ifPresent c.jsonContains fun es => rows.any fun row => meetsAll row es
  | .jsonNotContains => ifPresent c.jsonNotContains fun es => !rows.any fun row => meetsSome row es
  | .jsonContainsKey => ifPresent c.jsonContainsKey fun ks => rows.any fun row => hasPaths row ks

theorem byNumber_and (body : String) (p q : Binary64 → Bool) :
    byNumber body (fun x => p x && q x) = (byNumber body p && byNumber body q) := by
  unfold byNumber
  split <;> rfl

theorem byObject_and (body : String) (p q : Entries → Bool) :
    byObject body (fun o => p o && q o) = (byObject body p && byObject body q) := by
  unfold byObject
  split <;> rfl

/-- The body is read once as a number, and each bound decides by itself. -/
theorem size_eq (c : StopCondition) (body : String) :
    (!c.asksSize || byNumber body c.allowsSize) =
      (c.bodyPasses body .largerThanSize && c.bodyPasses body .lessThanSize) := by
  unfold asksSize allowsSize bodyPasses
  rcases c.largerThanSize with _ | least <;> rcases c.lessThanSize with _ | most <;>
    simp [ifPresent, byNumber_and]

/-- The body is read once as an object, and each test of its entries decides by itself. -/
theorem object_eq (c : StopCondition) (body : String) :
    (!c.asksObject || byObject body c.allowsObject) =
      (c.bodyPasses body .jsonContains && c.bodyPasses body .jsonNotContains &&
        c.bodyPasses body .jsonContainsKey) := by
  unfold asksObject allowsObject bodyPasses
  rcases c.jsonContains with _ | wanted <;> rcases c.jsonNotContains with _ | forbidden <;>
    rcases c.jsonContainsKey with _ | keys <;> simp [ifPresent, byObject_and]

theorem holdsOfBody_eq_all (c : StopCondition) (body : String) :
    c.holdsOfBody body = Test.all.all (c.bodyPasses body) := by
  rw [holdsOfBody, size_eq, object_eq]
  simp only [Test.all, List.all_cons, List.all_nil, bodyPasses]
  grind

theorem holdsOfRows_eq_all (c : StopCondition) (rows : List Row) :
    c.holdsOfRows rows = (!rows.isEmpty && Test.all.all (c.rowsPass rows)) := by
  simp only [holdsOfRows, allowsSize, Test.all, List.all_cons, List.all_nil, rowsPass,
    List.any_flatMap, List.any_map, Function.comp_def, Bool.and_assoc, Bool.and_true]

/-- The condition that keeps one test decides as the test does by itself. -/
theorem holdsOfBody_only (c : StopCondition) (body : String) (t : Test) :
    (c.only t).holdsOfBody body = c.bodyPasses body t := by
  rw [holdsOfBody_eq_all]
  cases t <;> simp [Test.all, bodyPasses, only, none, ifPresent]

theorem holdsOfRows_only (c : StopCondition) {rows : List Row} (h : rows.isEmpty = false)
    (t : Test) : (c.only t).holdsOfRows rows = c.rowsPass rows t := by
  rw [holdsOfRows_eq_all, h]
  cases t <;> simp [Test.all, rowsPass, only, none, ifPresent]

theorem bodyPasses_of_not_sets (body : String) {t : Test} (h : c.sets t = false) :
    c.bodyPasses body t := by
  cases t <;> simp_all [sets, bodyPasses, ifPresent]

theorem rowsPass_of_not_sets (rows : List Row) {t : Test} (h : c.sets t = false) :
    c.rowsPass rows t := by
  cases t <;> simp_all [sets, rowsPass, ifPresent]

/-! ## Single tests together -/

theorem all_singles (c : StopCondition) (p : StopCondition → Bool) :
    c.singles.all p = Test.all.all fun t => !c.sets t || p (c.only t) := by
  rw [singles, List.all_map, List.all_filter]
  rfl

theorem holdsOfBody_eq_singles (c : StopCondition) (body : String) :
    c.holdsOfBody body = c.singles.all (·.holdsOfBody body) := by
  rw [all_singles, holdsOfBody_eq_all]
  refine congrArg Test.all.all (funext fun t => ?_)
  rw [holdsOfBody_only]
  cases hset : c.sets t with
  | true => rfl
  | false => exact bodyPasses_of_not_sets body hset

theorem holdsOfRows_eq_singles (c : StopCondition) (rows : List Row) :
    c.holdsOfRows rows = (!rows.isEmpty && c.singles.all (·.holdsOfRows rows)) := by
  cases hrows : rows.isEmpty with
  | true => rw [holdsOfRows_eq_all, hrows]; rfl
  | false =>
    rw [all_singles, holdsOfRows_eq_all, hrows]
    refine congrArg (true && ·) (congrArg Test.all.all (funext fun t => ?_))
    rw [holdsOfRows_only c hrows]
    cases hset : c.sets t with
    | true => rfl
    | false => exact rowsPass_of_not_sets rows hset

theorem sets_only (c : StopCondition) (t : Test) : (c.only t).sets t = c.sets t := by
  cases t <;> rfl

theorem Extends.singles_subset (h : d.Extends c) : c.singles ⊆ d.singles := by
  intro single hsingle
  simp only [singles, List.mem_map, List.mem_filter] at hsingle ⊢
  obtain ⟨t, ⟨ht, hset⟩, rfl⟩ := hsingle
  refine ⟨t, ⟨ht, ?_⟩, h t hset⟩
  rw [← sets_only, h t hset, sets_only, hset]

/-- What is passed by all single tests of more is passed by those of less. -/
theorem Extends.all_singles_of (h : d.Extends c) {p : StopCondition → Bool}
    (hall : d.singles.all p) : c.singles.all p :=
  List.all_eq_true.mpr fun single hsingle =>
    List.all_eq_true.mp hall single (h.singles_subset hsingle)

/-! ## Contradictions -/

theorem meetsSome_of_meetsAll {object wanted forbidden : Entries} {e : String × Json}
    (hwanted : e ∈ wanted) (hforbidden : e ∈ forbidden) (h : meetsAll object wanted) :
    meetsSome object forbidden :=
  List.any_eq_true.mpr ⟨e, hforbidden, List.all_eq_true.mp h e hwanted⟩

theorem Contradicts.not_holdsOfBody (h : c.Contradicts) (body : String) : ¬c.holdsOfBody body := by
  obtain ⟨wanted, forbidden, e, hcontains, hnot, hwanted, hforbidden⟩ := h
  rw [holdsOfBody_eq_all, List.all_eq_true]
  intro hall
  have hasked := hall .jsonContains (by decide)
  have hdenied := hall .jsonNotContains (by decide)
  simp only [bodyPasses, hcontains, hnot, ifPresent, byObject] at hasked hdenied
  split at hasked
  · rename_i object hread
    simp only [hread, Bool.not_eq_true'] at hdenied
    exact absurd (meetsSome_of_meetsAll hwanted hforbidden hasked) (Bool.eq_false_iff.mp hdenied)
  · cases hasked

theorem Contradicts.not_holdsOfRows (h : c.Contradicts) (rows : List Row) :
    ¬c.holdsOfRows rows := by
  obtain ⟨wanted, forbidden, e, hcontains, hnot, hwanted, hforbidden⟩ := h
  rw [holdsOfRows_eq_all, Bool.and_eq_true, List.all_eq_true]
  rintro ⟨-, hall⟩
  have hasked := hall .jsonContains (by decide)
  have hdenied := hall .jsonNotContains (by decide)
  simp only [rowsPass, hcontains, hnot, ifPresent, List.any_eq_true, Bool.not_eq_true',
    List.any_eq_false] at hasked hdenied
  obtain ⟨row, hrow, hmeets⟩ := hasked
  exact hdenied row hrow (meetsSome_of_meetsAll hwanted hforbidden hmeets)

/-- **A stop condition is the conjunction of its tests.**  On every body it decides as the
conditions that keep one of its tests do together, and so it does on rows, but that no rows never
satisfy it.  So what satisfies a condition satisfies every condition that it extends; and nothing
satisfies one that asks for an entry which it also forbids. -/
theorem holds_conjunction (c : StopCondition) :
    (∀ body, c.holdsOfBody body = c.singles.all (·.holdsOfBody body)) ∧
      (∀ rows, c.holdsOfRows rows = (!rows.isEmpty && c.singles.all (·.holdsOfRows rows))) ∧
      (∀ d : StopCondition, d.Extends c →
        (∀ body, d.holdsOfBody body → c.holdsOfBody body) ∧
          ∀ rows, d.holdsOfRows rows → c.holdsOfRows rows) ∧
      (c.Contradicts → (∀ body, ¬c.holdsOfBody body) ∧ ∀ rows, ¬c.holdsOfRows rows) := by
  refine ⟨c.holdsOfBody_eq_singles, c.holdsOfRows_eq_singles, fun d hmore => ⟨?_, ?_⟩,
    fun hclash => ⟨hclash.not_holdsOfBody, hclash.not_holdsOfRows⟩⟩
  · intro body hbody
    rw [holdsOfBody_eq_singles] at hbody ⊢
    exact hmore.all_singles_of hbody
  · intro rows hrows
    rw [holdsOfRows_eq_singles, Bool.and_eq_true] at hrows ⊢
    exact ⟨hrows.1, hmore.all_singles_of hrows.2⟩

/-- The body `5` satisfies a condition with a bound, and so it does the condition without; a
condition that asks for a state which it also forbids is satisfied neither by a body nor by a row
with it. -/
theorem five_conjunction :
    let five : StopCondition := { none with contentEquals := some (.num (.whole 5)) }
    let bounded : StopCondition := { five with largerThanSize := some .zero }
    let done : Entries := [("state", .str "done")]
    let clashing : StopCondition :=
      { none with jsonContains := some done, jsonNotContains := some done }
    bounded.holdsOfBody "5" ∧ five.holdsOfBody "5" ∧
      ¬clashing.holdsOfBody "\x7b\"state\":\"done\"\x7d" ∧ ¬clashing.holdsOfRows [done] := by
  intro five bounded done clashing
  have hmore : bounded.Extends five := by
    intro t ht
    cases t <;> first | rfl | cases ht
  have hclash : clashing.Contradicts :=
    ⟨done, done, ("state", .str "done"), rfl, rfl, List.mem_cons_self, List.mem_cons_self⟩
  have hbounded : bounded.holdsOfBody "5" := by decide +kernel
  obtain ⟨-, -, -, hnever⟩ := holds_conjunction clashing
  exact ⟨hbounded, ((holds_conjunction five).2.2.1 bounded hmore).1 "5" hbounded,
    (hnever hclash).1 _, (hnever hclash).2 _⟩

end StopCondition

end CaseScript
