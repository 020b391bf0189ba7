import CaseScript.Check.Verdict
import CaseScript.Proofs.Json.Sorted
import CaseScript.Proofs.Text.Search
import CaseScript.Proofs.Unicode.Lower

/-!
# Proofs/Check/Masked — a value equals itself, whatever of it is hidden

A **masked copy** of a value has the string `ignored` in the place of some of its parts.  Every value
equals each of its masked copies (`validate_masked`): a hidden part is not looked at, a text is the
pattern of itself even if it begins or ends in a percent sign (`matchesWildcard_self`), and a number
equals itself unless it is a NaN, which no reader of values yields.
-/

namespace CaseScript

/-! ## Texts and numbers -/

/-- **A text is matched by itself**, also if it is read as a pattern. -/
theorem matchesWildcard_self (cs : List Char) : matchesWildcard cs cs = true := by
  unfold matchesWildcard
  dsimp only
  split
  · rename_i rest
    split
    · rename_i inner hrest
      -- the signs are the whole text or stand on both sides of what is sought
      rw [← List.reverse_reverse rest, hrest, List.reverse_cons, Unicode.lower_percent,
        Unicode.lower_append_percent]
      exact Text.contains_append ['%'] _ ['%']
    · rw [Unicode.lower_percent]
      exact List.isSuffixOf_iff_suffix.mpr (List.suffix_cons _ _)
  · split
    · rename_i front hcs
      rw [← List.reverse_reverse cs, hcs, List.reverse_cons, Unicode.lower_append_percent]
      exact List.isPrefixOf_iff_prefix.mpr (List.prefix_append _ _)
    · exact decide_eq_true rfl

theorem Binary64.eq_self {x : Binary64} (h : x.isNaN = false) : x.eq x = true := by
  cases x with
  | nan => cases h
  | infinite => simp [eq, rank]
  | finite => simp [eq, rank]

namespace Json

mutual

/-- No number of the value is a NaN. -/
def Numeric : Json → Prop
  | .num n => n.toBinary64.isNaN = false
  | .arr items => AllNumeric items
  | .obj entries => EntriesNumeric entries
  | _ => True

/-- No number of the list is a NaN. -/
def AllNumeric : List Json → Prop
  | [] => True
  | v :: vs => v.Numeric ∧ AllNumeric vs

/-- No number of the entries is a NaN. -/
def EntriesNumeric : Entries → Prop
  | [] => True
  | (_, v) :: es => v.Numeric ∧ EntriesNumeric es

end

end Json

theorem scalarEqual_self {v : Json} (hscalar : v.isContainer = false) (hv : v.Numeric) :
    scalarEqual v v = true := by
  unfold scalarEqual
  split
  · rfl
  · match v with
    | .null => rfl
    | .bool b => exact beq_self_eq_true b
    | .num n => exact Binary64.eq_self hv
    | .str s => exact matchesWildcard_self s.toList

/-! ## Masked copies -/

mutual

/-- The second value is the first with some of its parts, or all of it, hidden. -/
inductive Masked : Json → Json → Prop
  | hidden (v : Json) : Masked v (.str ignored)
  | scalar {v : Json} : v.isContainer = false → Masked v v
  | arr {vs ms : List Json} : MaskedItems vs ms → Masked (.arr vs) (.arr ms)
  | obj {es ms : Entries} : MaskedEntries es ms → Masked (.obj es) (.obj ms)

/-- The items of the second list are those of the first, masked one by one. -/
inductive MaskedItems : List Json → List Json → Prop
  | nil : MaskedItems [] []
  | cons {v m : Json} {vs ms : List Json} :
      Masked v m → MaskedItems vs ms → MaskedItems (v :: vs) (m :: ms)

/-- The entries have the same keys, and their values are masked one by one. -/
inductive MaskedEntries : List (String × Json) → List (String × Json) → Prop
  | nil : MaskedEntries [] []
  | cons {k : String} {v m : Json} {es ms : List (String × Json)} :
      Masked v m → MaskedEntries es ms → MaskedEntries ((k, v) :: es) ((k, m) :: ms)

end

mutual

/-- Nothing has to be hidden. -/
theorem Masked.refl : ∀ v : Json, Masked v v
  | .arr vs => .arr (MaskedItems.refl vs)
  | .obj es => .obj (MaskedEntries.refl es)
  | .null | .bool _ | .num _ | .str _ => .scalar rfl

theorem MaskedItems.refl : ∀ vs : List Json, MaskedItems vs vs
  | [] => .nil
  | v :: vs => .cons (Masked.refl v) (MaskedItems.refl vs)

theorem MaskedEntries.refl : ∀ es : List (String × Json), MaskedEntries es es
  | [] => .nil
  | (_, v) :: es => .cons (Masked.refl v) (MaskedEntries.refl es)

end

theorem MaskedItems.length_eq : ∀ {vs ms : List Json}, MaskedItems vs ms → vs.length = ms.length
  | _, _, .nil => rfl
  | _, _, .cons _ h => congrArg (· + 1) h.length_eq

theorem MaskedEntries.keys_eq : ∀ {es ms : Entries}, MaskedEntries es ms → es.keys = ms.keys
  | _, _, .nil => rfl
  | _, _, .cons _ h => congrArg (_ :: ·) h.keys_eq

/-- Behind a key is the masked copy of what was behind it, since no key stands twice. -/
theorem MaskedEntries.get? {es ms : Entries} (h : MaskedEntries es ms) (hkeys : es.keys.Nodup) :
    ∀ e ∈ es, ∃ m, ms.get? e.1 = some m ∧ Masked e.2 m := by
  induction es generalizing ms with
  | nil => exact nofun
  | cons e es ih =>
    obtain ⟨k, v⟩ := e
    obtain _ | ⟨hv, hes⟩ := h
    obtain ⟨hk, hes'⟩ := List.nodup_cons.mp hkeys
    refine List.forall_mem_cons.mpr ⟨⟨_, if_pos rfl, hv⟩, fun e he => ?_⟩
    obtain ⟨m, hm, hmasked⟩ := ih hes hes' e he
    have hne : k ≠ e.1 := fun hsame => hk (List.mem_map.mpr ⟨e, he, hsame.symm⟩)
    exact ⟨m, (if_neg hne).trans hm, hmasked⟩

/-! ## Comparing a value with a masked copy -/

theorem isIgnored_ignored : (Json.str ignored).isIgnored = true := by
  simp [Json.isIgnored]

theorem differences_of_isIgnored {v m : Json} (h : (v.isIgnored || m.isIgnored) = true)
    (place : Place) : differences place v m = [] := by
  rw [differences.eq_def]
  exact if_pos h

theorem differences_hidden (place : Place) (v : Json) : differences place v (.str ignored) = [] :=
  differences_of_isIgnored (by rw [isIgnored_ignored, Bool.or_true]) place

theorem differences_scalar {v : Json} (hscalar : v.isContainer = false) (hv : v.Numeric)
    (place : Place) : differences place v v = [] := by
  have hself := scalarEqual_self hscalar hv
  rw [differences.eq_def]
  split
  · rfl
  · match v with
    | .null | .bool _ | .num _ | .str _ =>
      simp only [Json.isContainer, Bool.or_self, Bool.false_eq_true, if_false, hself, if_true]

mutual

/-- **A value does not differ from a masked copy**, by induction on the value. -/
theorem differences_masked : ∀ {v m : Json}, Masked v m → v.Sorted → v.Numeric →
    ∀ place, differences place v m = []
  | v, _, .hidden _, _, _ => fun place => differences_hidden place v
  | _, _, .scalar hscalar, _, hv => differences_scalar hscalar hv
  | .arr vs, .arr ms, .arr h, hsorted, hv => fun place => by
    have hsame : ¬vs.length ≠ ms.length := fun hne => hne h.length_eq
    rw [differences.eq_def]
    simp only [Json.isIgnored, Bool.or_self, Bool.false_eq_true, if_false, if_neg hsame]
    exact itemDifferences_masked h hsorted hv place 0
  | .obj es, .obj ms, .obj h, hsorted, hv => fun place => by
    have hnodup : (Keyed.keys es).Nodup := hsorted.1.imp String.ne_of_lt
    have hkeys : (Keyed.keys ms).find? (fun k => !Keyed.hasKey es k) = none := by
      rw [← h.keys_eq]
      refine List.find?_eq_none.mpr fun k hk => ?_
      obtain ⟨v, hv⟩ := Keyed.exists_get? hk
      simp [Keyed.hasKey, hv]
    rw [differences.eq_def]
    simp only [Json.isIgnored, Bool.or_self, Bool.false_eq_true, if_false,
      entryDifferences_masked (h.get? hnodup) hsorted.2 hv place, hkeys]

/-- Entries do not differ from others that have masked copies behind their keys. -/
theorem entryDifferences_masked : ∀ {es ms : Entries},
    (∀ e ∈ es, ∃ m, ms.get? e.1 = some m ∧ Masked e.2 m) → Json.EntriesSorted es →
    Json.EntriesNumeric es → ∀ place, entryDifferences place es ms = []
  | [], _, _, _, _ => fun _ => rfl
  | (k, v) :: es, ms, h, hsorted, hes => fun place => by
    obtain ⟨⟨m, hm, hmasked⟩, hrest⟩ := List.forall_mem_cons.mp h
    rw [entryDifferences, hm]
    simp only [differences_masked hmasked hsorted.1 hes.1 (place.entry k)]
    exact entryDifferences_masked hrest hsorted.2 hes.2 place

theorem itemDifferences_masked : ∀ {vs ms : List Json}, MaskedItems vs ms → Json.AllSorted vs →
    Json.AllNumeric vs → ∀ place i, itemDifferences place i vs ms = []
  | [], [], .nil, _, _ => fun _ _ => rfl
  | v :: vs, m :: ms, .cons hmasked h, hsorted, hvs => fun place i => by
    rw [itemDifferences, differences_masked hmasked hsorted.1 hvs.1 (place.item i)]
    exact itemDifferences_masked h hsorted.2 hvs.2 place (i + 1)

end

/-! ## The verdict -/

@[simp] theorem Verdict.passed_ofBool (passed : Bool) (reason : String) :
    (Verdict.ofBool passed reason).passed = passed := by
  cases passed <;> rfl

theorem scalarEqual_of_isIgnored {v m : Json} (h : (v.isIgnored || m.isIgnored) = true) :
    scalarEqual v m = true := by
  unfold scalarEqual
  exact if_pos h

theorem scalarEqual_masked {v m : Json} (h : Masked v m)
    (hscalar : (v.isContainer || m.isContainer) = false) (hv : v.Numeric) :
    scalarEqual v m = true := by
  cases h with
  | hidden => exact scalarEqual_of_isIgnored (by rw [isIgnored_ignored, Bool.or_true])
  | scalar hv' => exact scalarEqual_self hv' hv
  | arr | obj => cases hscalar

/-- **Every value equals its masked copies**: an assertion of equality with one holds, and an
assertion of inequality does not. -/
theorem validate_masked {v m : Json} (hsorted : v.Sorted) (hnumeric : v.Numeric) (h : Masked v m) :
    (validate v m .isEqual).passed = true ∧ (validate v m .isNotEqual).passed = false := by
  unfold validate normalize
  dsimp only
  by_cases hstructured : (v.isContainer || m.isContainer) = true
  · have hsame := differences_masked h hsorted hnumeric ""
    simp [hstructured, evaluate, byStructure, hsame]
  · have hsame := scalarEqual_masked h (Bool.eq_false_iff.mpr hstructured) hnumeric
    simp [hstructured, evaluate, hsame]

/-- A number and a text are hidden; of the texts that stay, one ends a word before a percent sign. -/
theorem validate_maskedRecord :
    let v : Json := .obj [("id", .num (.whole 7)), ("names", .arr [.str "%ΑΣ%", .str "x%"])]
    let m : Json := .obj [("id", .str ignored), ("names", .arr [.str "%ΑΣ%", .str ignored])]
    (v.Sorted ∧ v.Numeric ∧ Masked v m) ∧
      (validate v m .isEqual).passed = true ∧ (validate v m .isNotEqual).passed = false := by
  intro v m
  have hsorted : v.Sorted := ⟨by decide, trivial, ⟨trivial, trivial, trivial⟩, trivial⟩
  have hseven : (Number.whole 7).toBinary64.isNaN = false := by decide +kernel
  have hnumeric : v.Numeric := ⟨hseven, ⟨trivial, trivial, trivial⟩, trivial⟩
  have hmasked : Masked v m :=
    .obj (.cons (.hidden _) (.cons (.arr (.cons (.scalar rfl) (.cons (.hidden _) .nil))) .nil))
  exact ⟨⟨hsorted, hnumeric, hmasked⟩, validate_masked hsorted hnumeric hmasked⟩

end CaseScript
