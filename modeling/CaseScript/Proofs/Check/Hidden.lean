import CaseScript.Proofs.Check.Parts

/-!
# Proofs/Check/Hidden — what the data under test keeps from its own check

The string that equals every value does so on either side, so a part of the actual value may hide
itself from the check.  Such a part is compared with nothing: the verdict is that of the value which
has there what is expected, and it is the same whatever is expected there.  All else is compared, so
a value with hidden parts passes **just if some value passes that it is a masked copy of**
(`validate_hidden`).
-/

namespace CaseScript

namespace Json

theorem allNumeric_iff {vs : List Json} : AllNumeric vs ↔ ∀ v ∈ vs, v.Numeric := by
  induction vs with
  | nil => simp [AllNumeric]
  | cons v vs ih => rw [AllNumeric, ih, List.forall_mem_cons]

theorem entriesNumeric_iff {es : Entries} : EntriesNumeric es ↔ ∀ e ∈ es, e.2.Numeric := by
  induction es with
  | nil => simp [EntriesNumeric]
  | cons e es ih => rw [EntriesNumeric, ih, List.forall_mem_cons]

theorem numeric_next? {v w : Json} {s : Segment} (hv : v.Numeric) (h : v.next? s = some w) :
    w.Numeric := by
  match v, s with
  | .obj es, .key k => exact entriesNumeric_iff.mp hv _ (Keyed.mem_of_get? h)
  | .arr vs, .index i => exact allNumeric_iff.mp hv w (List.mem_of_getElem? h)

theorem numeric_part? {v x : Json} {route : Route} (hv : v.Numeric) (h : v.part? route = some x) :
    x.Numeric := part?_of_next? numeric_next? hv h

theorem eq_ignored_of_isIgnored {v : Json} (h : v.isIgnored = true) : v = .str ignored := by
  match v with
  | .str s => exact congrArg Json.str (of_decide_eq_true h)

/-- A value that may be expected: sorted, without a NaN, and with nothing hidden in it. -/
structure Overt (v : Json) : Prop where
  sorted : v.Sorted
  numeric : v.Numeric
  free : ignored ∉ v.strings

theorem Overt.item {vs : List Json} (h : (Json.arr vs).Overt) {v : Json} (hv : v ∈ vs) :
    v.Overt where
  sorted := allSorted_iff.mp h.sorted v hv
  numeric := allNumeric_iff.mp h.numeric v hv
  free hs := h.free (mem_stringsOfItems.mpr ⟨v, hv, hs⟩)

theorem Overt.entry {es : Entries} (h : (Json.obj es).Overt) {e : String × Json} (he : e ∈ es) :
    e.2.Overt where
  sorted := entriesSorted_iff.mp h.sorted.2 e he
  numeric := entriesNumeric_iff.mp h.numeric e he
  free hs := h.free (mem_stringsOfEntries.mpr ⟨e, he, hs⟩)

theorem Overt.not_isIgnored {v : Json} (h : v.Overt) : v.isIgnored = false := by
  refine Bool.eq_false_iff.mpr fun hv => ?_
  obtain rfl := eq_ignored_of_isIgnored hv
  exact h.free (List.mem_singleton_self _)

end Json

theorem equals_self {v : Json} (hsorted : v.Sorted) (hnumeric : v.Numeric) : Equals v v :=
  (differences_eq_nil_iff v v "").mp (differences_masked (.refl v) hsorted hnumeric "")

theorem equals_ignored (v : Json) : Equals (.str ignored) v :=
  .ignored (by rw [isIgnored_ignored, Bool.true_or])

/-! ## Masked copies as the actual value -/

theorem MaskedItems.getElem? : ∀ {vs ms : List Json}, MaskedItems vs ms →
    ∀ {i : Nat} {m : Json}, ms[i]? = some m → ∃ v, vs[i]? = some v ∧ Masked v m
  | _, _, .cons hv _, 0, _, hm => ⟨_, rfl, Option.some.inj hm ▸ hv⟩
  | _, _, .cons _ h, _ + 1, _, hm => h.getElem? hm

theorem MaskedEntries.mem : ∀ {es ms : List (String × Json)}, MaskedEntries es ms →
    ∀ {e : String × Json}, e ∈ ms → ∃ v, (e.1, v) ∈ es ∧ Masked v e.2
  | _, _, .cons hv h, e, he => by
    obtain rfl | he := List.mem_cons.mp he
    · exact ⟨_, List.mem_cons_self, hv⟩
    · obtain ⟨v, hmem, hmasked⟩ := h.mem he
      exact ⟨v, List.mem_cons_of_mem _ hmem, hmasked⟩

/-- **What is hidden of a value never makes it differ**, by induction on what is alike. -/
theorem Equals.masked {v r m : Json} (h : Equals v r) (hm : Masked v m) : Equals m r := by
  induction h generalizing m with
  | @ignored v r h =>
    obtain hv | hr := Bool.or_eq_true_iff.mp h
    · obtain rfl := Json.eq_ignored_of_isIgnored hv
      cases hm with
      | hidden => exact equals_ignored r
      | scalar => exact equals_ignored r
    · exact .ignored (by rw [hr, Bool.or_true])
  | @scalars v r hscalar h =>
    cases hm with
    | hidden => exact equals_ignored r
    | scalar => exact .scalars hscalar h
    | arr | obj => cases hscalar
  | @arrays vs ws hlength _ ih =>
    cases hm with
    | hidden => exact equals_ignored _
    | scalar hscalar => cases hscalar
    | arr hitems =>
      refine .arrays (hitems.length_eq ▸ hlength) fun i m w hm hw => ?_
      obtain ⟨v, hv, hmasked⟩ := hitems.getElem? hm
      exact ih i v w hv hw hmasked
  | @objects es fs hkeys _ ih =>
    cases hm with
    | hidden => exact equals_ignored _
    | scalar hscalar => cases hscalar
    | obj hentries =>
      refine .objects (fun k => hentries.keys_eq ▸ hkeys k) fun e he w hw => ?_
      obtain ⟨v, hv, hmasked⟩ := hentries.mem he
      exact ih _ hv w hw hmasked

/-! ## Values behind a masked copy -/

/-- If every item hides a value with a property of its place, the list hides a list of them. -/
theorem exists_maskedItems {P : Nat → Json → Prop} : ∀ {ms : List Json},
    (∀ i m, ms[i]? = some m → ∃ v, Masked v m ∧ P i v) →
    ∃ vs, MaskedItems vs ms ∧ ∀ i v, vs[i]? = some v → P i v
  | [], _ => ⟨[], .nil, nofun⟩
  | m :: ms, h => by
    obtain ⟨v, hv, hP⟩ := h 0 m rfl
    obtain ⟨vs, hvs, hrest⟩ := exists_maskedItems (P := fun i => P (i + 1)) fun i => h (i + 1)
    refine ⟨v :: vs, .cons hv hvs, fun i w hw => ?_⟩
    cases i with
    | zero => exact Option.some.inj hw ▸ hP
    | succ i => exact hrest i w hw

/-- The same for entries and a property of the key. -/
theorem exists_maskedEntries {P : String → Json → Prop} {ms : List (String × Json)}
    (h : ∀ e ∈ ms, ∃ v, Masked v e.2 ∧ P e.1 v) :
    ∃ es, MaskedEntries es ms ∧ ∀ e ∈ es, P e.1 e.2 := by
  induction ms with
  | nil => exact ⟨[], .nil, List.forall_mem_nil _⟩
  | cons m ms ih =>
    obtain ⟨⟨v, hv, hP⟩, htail⟩ := List.forall_mem_cons.mp h
    obtain ⟨es, hes, hrest⟩ := ih htail
    exact ⟨(m.1, v) :: es, .cons hv hes, List.forall_mem_cons.mpr ⟨hP, hrest⟩⟩

/-- **What is alike to a value with nothing hidden is a masked copy of a value that is so too**, by
induction on what is alike: behind a hidden part stands what is expected there. -/
theorem Equals.exists_shown {l r : Json} (h : Equals l r) (hr : r.Overt) :
    ∃ v, Masked v l ∧ CaseScript.ignored ∉ v.strings ∧ Equals v r := by
  induction h with
  | @ignored l r h =>
    have hl : l.isIgnored = true := by simpa [hr.not_isIgnored] using h
    obtain rfl := Json.eq_ignored_of_isIgnored hl
    exact ⟨r, .hidden r, hr.free, equals_self hr.sorted hr.numeric⟩
  | @scalars l r hscalar h =>
    have hl : l.isContainer = false := (Bool.or_eq_false_iff.mp hscalar).1
    by_cases hignored : l.isIgnored = true
    · obtain rfl := Json.eq_ignored_of_isIgnored hignored
      exact ⟨r, .hidden r, hr.free, equals_self hr.sorted hr.numeric⟩
    · refine ⟨l, .scalar hl, fun hmem => hignored ?_, .scalars hscalar h⟩
      match l with
      | .str s =>
        obtain rfl := List.mem_singleton.mp hmem
        exact isIgnored_ignored
  | @arrays ms ws hlength _ ih =>
    have hitems : ∀ i m, ms[i]? = some m → ∃ v, Masked v m ∧ CaseScript.ignored ∉ v.strings ∧
        ∀ w, ws[i]? = some w → Equals v w := fun i m hm => by
      obtain ⟨hi, -⟩ := List.getElem?_eq_some_iff.mp hm
      have hw : ws[i]? = some ws[i] := List.getElem?_eq_getElem (hlength ▸ hi)
      obtain ⟨v, hv, hfree, hequals⟩ := ih i m _ hm hw (hr.item (List.mem_of_getElem? hw))
      exact ⟨v, hv, hfree, fun w hw' => Option.some.inj (hw.symm.trans hw') ▸ hequals⟩
    obtain ⟨vs, hvs, hshown⟩ := exists_maskedItems hitems
    refine ⟨.arr vs, .arr hvs, fun hmem => ?_, .arrays (hvs.length_eq.trans hlength)
      fun i v w hv hw => (hshown i v hv).2 w hw⟩
    obtain ⟨v, hv, hs⟩ := Json.mem_stringsOfItems.mp hmem
    obtain ⟨i, hi⟩ := List.getElem?_of_mem hv
    exact (hshown i v hi).1 hs
  | @objects ms fs hkeys _ ih =>
    have hentries : ∀ e ∈ ms, ∃ v, Masked v e.2 ∧ CaseScript.ignored ∉ v.strings ∧
        ∀ w, fs.get? e.1 = some w → Equals v w := fun e he => by
      obtain ⟨w, hw⟩ := Keyed.exists_get? ((hkeys e.1).mp (List.mem_map_of_mem he))
      obtain ⟨v, hv, hfree, hequals⟩ := ih e he w hw (hr.entry (Keyed.mem_of_get? hw))
      exact ⟨v, hv, hfree, fun w' hw' => Option.some.inj (hw.symm.trans hw') ▸ hequals⟩
    obtain ⟨es, hes, hshown⟩ := exists_maskedEntries
      (P := fun k v => CaseScript.ignored ∉ v.strings ∧ ∀ w, fs.get? k = some w → Equals v w)
      hentries
    refine ⟨.obj es, .obj hes, fun hmem => ?_, .objects (fun k => hes.keys_eq ▸ hkeys k)
      fun e he w hw => (hshown e he).2 w hw⟩
    obtain ⟨e, he, hs⟩ := Json.mem_stringsOfEntries.mp hmem
    exact (hshown e he).1 hs

/-! ## The verdict -/

theorem passed_eq_of_equals_iff {l r l' r' : Json} (h : Equals l r ↔ Equals l' r') :
    (validate l r .isEqual).passed = (validate l' r' .isEqual).passed := by
  rwa [Bool.eq_iff_iff, validate_isEqual_iff, validate_isEqual_iff]

section

variable {l r y : Json} {route : Route} (hl : l.Sorted) (hr : r.Sorted)
  (hhidden : l.part? route = some (.str ignored)) (hy : r.part? route = some y)
include hl hr hhidden hy

/-- What is expected of a hidden part does not matter. -/
theorem equals_put_expected (z : Json) : Equals l (r.put route z) ↔ Equals l r := by
  constructor <;> intro h
  · have hback := h.put hl hhidden (Json.part?_put hy z) (equals_ignored y)
    rwa [Json.put_put hy, Json.put_part hl hhidden, Json.put_part hr hy] at hback
  · have hput := h.put hl hhidden hy (equals_ignored z)
    rwa [Json.put_part hl hhidden] at hput

/-- A hidden part counts as what is expected there. -/
theorem equals_put_actual (hnumeric : y.Numeric) : Equals (l.put route y) r ↔ Equals l r := by
  have hsorted := Json.sorted_part? hr hy
  constructor <;> intro h
  · have hback := h.put (Json.sorted_put hl hhidden hsorted) (Json.part?_put hhidden y) hy
      (equals_ignored y)
    rwa [Json.put_put hhidden, Json.put_part hl hhidden, Json.put_part hr hy] at hback
  · have hput := h.put hl hhidden hy (equals_self hsorted hnumeric)
    rwa [Json.put_part hr hy] at hput

end

/-- **A value passes just if it is a masked copy of one without hidden parts that passes.**  At the
end of every route where the actual value is hidden, it counts as what is expected there, and the
verdict is the same whatever is expected there. -/
theorem validate_hidden {l r : Json} (hl : l.Sorted) (hr : r.Overt) :
    ((validate l r .isEqual).passed = true ↔
      ∃ v, Masked v l ∧ ignored ∉ v.strings ∧ (validate v r .isEqual).passed = true) ∧
    ∀ route y, l.part? route = some (.str ignored) → r.part? route = some y →
      (validate l r .isEqual).passed = (validate (l.put route y) r .isEqual).passed ∧
      ∀ z, (validate l r .isEqual).passed = (validate l (r.put route z) .isEqual).passed := by
  simp only [validate_isEqual_iff]
  refine ⟨⟨fun h => h.exists_shown hr, fun ⟨v, hmasked, _, hv⟩ => hv.masked hmasked⟩,
    fun route y hhidden hy => ⟨passed_eq_of_equals_iff ?_, fun z => passed_eq_of_equals_iff ?_⟩⟩
  · exact (equals_put_actual hl hr.sorted hhidden hy (Json.numeric_part? hr.numeric hy)).symm
  · exact (equals_put_expected hl hr.sorted hhidden hy z).symm

/-- A total is hidden by the data, and another entry still counts. -/
theorem hiddenTotal_counts :
    let l : Json := .obj [("id", .num (.whole 7)), ("total", .str ignored)]
    let r : Json := .obj [("id", .num (.whole 8)), ("total", .num (.whole 5))]
    (l.Sorted ∧ r.Overt ∧ l.part? [.key "total"] = some (.str ignored) ∧
      r.part? [.key "total"] = some (.num (.whole 5))) ∧
    ((validate l r .isEqual).passed = true ↔
      ∃ v, Masked v l ∧ ignored ∉ v.strings ∧ (validate v r .isEqual).passed = true) ∧
    (validate l r .isEqual).passed =
      (validate (.obj [("id", .num (.whole 7)), ("total", .num (.whole 5))]) r
        .isEqual).passed := by
  intro l r
  have hl : l.Sorted := ⟨by decide, trivial, trivial, trivial⟩
  have hnumeric : ∀ n : Int, n = 8 ∨ n = 5 → (Number.whole n).toBinary64.isNaN = false := by
    rintro n (rfl | rfl) <;> decide +kernel
  have hr : r.Overt :=
    ⟨⟨by decide, trivial, trivial, trivial⟩,
      ⟨hnumeric 8 (.inl rfl), hnumeric 5 (.inr rfl), trivial⟩, by decide⟩
  obtain ⟨hmasked, hparts⟩ := validate_hidden hl hr
  exact ⟨⟨hl, hr, rfl, rfl⟩, hmasked, (hparts [.key "total"] _ rfl rfl).1⟩

/-- **Data under test switches off its own check**: a hidden value passes for a number, and a hidden
entry for an object, though nothing is hidden in what is expected. -/
theorem hiddenActual_passes :
    let l : Json := .obj [("a", .str ignored)]
    let r : Json := .obj [("a", .obj [("b", .num (.whole 1))])]
    ((.num (.whole 5) : Json).Overt ∧
      (validate (.str ignored) (.num (.whole 5)) .isEqual).passed = true) ∧
    ignored ∉ r.strings ∧ l.part? [.key "a"] = some (.str ignored) ∧
      r.part? [.key "a"] = some (.obj [("b", .num (.whole 1))]) ∧
      (validate l r .isEqual).passed = true := by
  intro l r
  have hfive : (Number.whole 5).toBinary64.isNaN = false := by decide +kernel
  exact ⟨⟨⟨trivial, hfive, by decide⟩, by decide +kernel⟩, by decide, rfl, rfl, by decide +kernel⟩

end CaseScript
