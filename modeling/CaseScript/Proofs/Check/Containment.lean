import CaseScript.Proofs.Check.Membership

/-!
# Proofs/Check/Containment — one value or a list of it, and containment both ways

An array contains a value just if an element equals it, where a value that is not made up of parts
counts as equal to a container that it spells out; a list of that value has to have an equal element.
So the two differ just if the value spells an element out and equals none
(`validate_contained_alone`).  An object equals another just if it contains it and has no further
key, and equal arrays contain each other and are as long (`isJsonEqual_iff_contains`).
-/

namespace CaseScript

/-- Whether a condition wants an array, an object or a text to contain a value, or not to. -/
def Condition.containment? : Condition → Option Bool
  | .isContain | .isJsonContain => some true
  | .isNotContain | .isJsonNotContain => some false
  | _ => none

variable {c : Condition} {wanted : Bool}

/-- The conditions of containment decide by what is contained. -/
theorem passed_of_containment (hc : c.containment? = some wanted) {whole part : Json} {found : Bool}
    (hfound : containsValue? whole part = some found) :
    (validate whole part c).passed = (found == wanted) := by
  have hdecided : (byContainment whole part c wanted).passed = (found == wanted) := by
    rw [byContainment, hfound]
    exact Verdict.passed_ofBool _ _
  cases c <;> cases hc <;> exact hdecided

theorem passed_eq_wanted_iff (hc : c.containment? = some wanted) {whole part : Json} {found : Bool}
    (hfound : containsValue? whole part = some found) :
    (validate whole part c).passed = wanted ↔ found = true := by
  rw [passed_of_containment hc hfound]
  cases found <;> cases wanted <;> decide

/-- An array contains another just if each item of it has an equal one. -/
theorem containsValue?_items (vs ws : List Json) :
    ∃ found, containsValue? (.arr vs) (.arr ws) = some found ∧
      (found = true ↔ ∀ w ∈ ws, ∃ v ∈ vs, Equals v w) := by
  refine ⟨_, rfl, List.all_eq_true.trans (forall_congr' fun w => forall_congr' fun _ => ?_)⟩
  exact List.any_eq_true.trans (exists_congr fun v => and_congr_right fun _ =>
    sameStructure_iff_equals)

/-- An object contains another just if it has an equal value behind each key of it. -/
theorem containsValue?_entries (es fs : Entries) :
    ∃ found, containsValue? (.obj es) (.obj fs) = some found ∧
      (found = true ↔ ∀ f ∈ fs, ∃ v, es.get? f.1 = some v ∧ Equals v f.2) := by
  refine ⟨_, rfl, List.all_eq_true.trans (forall_congr' fun f => forall_congr' fun _ => ?_)⟩
  obtain ⟨k, w⟩ := f
  dsimp only
  cases es.get? k with
  | none => simp
  | some v => simpa using sameStructure_iff_equals

/-! ## One value or a list of it -/

/-- **An array contains a value just if it contains the list of it, or the value spells an element
out.**  The conditions that want the one and the other agree just if the value equals an element
wherever it spells one out. -/
theorem validate_contained_alone (hc : c.containment? = some wanted) {v : Json}
    (hv : ∀ vs, v ≠ .arr vs) (items : List Json) :
    let alone := (validate (.arr items) v c).passed
    let listed := (validate (.arr items) (.arr [v]) c).passed
    let equal := ∃ e ∈ items, (validate e v .isEqual).passed = true
    let spelled := ∃ e ∈ items, SpelledBy e v
    (alone = wanted ↔ equal ∨ spelled) ∧ (listed = wanted ↔ equal) ∧
      (alone = listed ↔ (spelled → equal)) := by
  intro alone listed equal spelled
  obtain ⟨found, hfound, halone⟩ := containsValue?_arr hv items
  obtain ⟨found', hfound', hlisted⟩ := containsValue?_items items [v]
  simp only [List.forall_mem_singleton, ← validate_isEqual_iff] at halone hlisted
  have halone : alone = wanted ↔ equal ∨ spelled := by
    rw [passed_eq_wanted_iff hc hfound, halone]
    simp only [and_or_left, exists_or]
    rfl
  have hlisted : listed = wanted ↔ equal := (passed_eq_wanted_iff hc hfound').trans hlisted
  refine ⟨halone, hlisted, ?_⟩
  have hsame : alone = listed ↔ (alone = wanted ↔ listed = wanted) := by
    cases alone <;> cases listed <;> cases wanted <;> decide
  rw [hsame, halone, hlisted]
  exact ⟨fun h hspelled => h.mp (.inr hspelled), fun h => ⟨Or.rec id h, .inl⟩⟩

/-- A text is looked for among itself in a list, and as the text of a list. -/
theorem spelledList_contained :
    let v : Json := .str "[1]"
    let items : List Json := [.arr [.num (.whole 1)], .str "[1]"]
    (Condition.isNotContain.containment? = some false ∧ ∀ vs, v ≠ .arr vs) ∧
      ((validate (.arr items) v .isNotContain).passed =
          (validate (.arr items) (.arr [v]) .isNotContain).passed ↔
        ((∃ e ∈ items, SpelledBy e v) → ∃ e ∈ items, (validate e v .isEqual).passed = true)) := by
  intro v items
  have hv : ∀ vs, v ≠ .arr vs := nofun
  have hc : Condition.isNotContain.containment? = some false := rfl
  exact ⟨⟨hc, hv⟩, (validate_contained_alone hc hv items).2.2⟩

/-- A text is contained in an array of lists, and the list of it is not. -/
theorem spelledList_alone :
    let whole : Json := .arr [.arr [.num (.whole 1)]]
    ((validate whole (.str "[1]") .isContain).passed = true ∧
      (validate whole (.arr [.str "[1]"]) .isContain).passed = false) ∧
    ((validate whole (.str "[1]") .isNotContain).passed = false ∧
      (validate whole (.arr [.str "[1]"]) .isNotContain).passed = true) := by
  decide +kernel

/-! ## Containment both ways -/

theorem validate_isJsonEqual_iff (l r : Json) :
    (validate l r .isJsonEqual).passed = true ↔ Equals l r := by
  unfold validate normalize
  dsimp only
  rw [evaluate, byStructure, Verdict.passed_ofBool, beq_true]
  exact sameStructure_iff_equals

theorem validate_isJsonContain_iff {whole part : Json} {found : Bool}
    (hfound : containsValue? whole part = some found) :
    (validate whole part .isJsonContain).passed = true ↔ found = true :=
  passed_eq_wanted_iff rfl hfound

/-- Objects with related values behind the same keys may be compared from either side. -/
theorem paired_symm {R : Json → Json → Prop} {es fs : Entries} (hfs : fs.keys.Nodup)
    (hleft : ∀ e ∈ es, ∃ w, fs.get? e.1 = some w ∧ R e.2 w) (hkeys : ∀ k ∈ fs.keys, k ∈ es.keys) :
    (∀ f ∈ fs, ∃ v, es.get? f.1 = some v ∧ R v f.2) ∧ ∀ k ∈ es.keys, k ∈ fs.keys := by
  refine ⟨fun f hf => ?_, fun k hk => ?_⟩
  · obtain ⟨v, hv⟩ := Keyed.exists_get? (hkeys f.1 (List.mem_map_of_mem hf))
    obtain ⟨w, hw, hrelated⟩ := hleft _ (Keyed.mem_of_get? hv)
    obtain rfl : w = f.2 := Option.some.inj (hw.symm.trans (Keyed.get?_of_mem hfs hf))
    exact ⟨v, hv, hrelated⟩
  · obtain ⟨e, he, rfl⟩ := List.mem_map.mp hk
    obtain ⟨w, hw, -⟩ := hleft e he
    exact List.mem_map.mpr ⟨_, Keyed.mem_of_get? hw, rfl⟩

theorem equals_obj_iff_contained {es fs : Entries} (hes : es.keys.Nodup) (hfs : fs.keys.Nodup) :
    Equals (.obj es) (.obj fs) ↔
      (∀ f ∈ fs, ∃ v, es.get? f.1 = some v ∧ Equals v f.2) ∧ ∀ k ∈ es.keys, k ∈ fs.keys := by
  rw [equals_obj_iff]
  constructor
  · rintro ⟨hleft, hkeys⟩
    exact paired_symm hfs hleft hkeys
  · rintro ⟨hright, hkeys⟩
    exact paired_symm (R := fun w v => Equals v w) hes hright hkeys

/-- Equal arrays have an equal item at the place of each item. -/
theorem contained_of_equals_arr {vs ws : List Json} (h : Equals (.arr vs) (.arr ws)) :
    (∀ w ∈ ws, ∃ v ∈ vs, Equals v w) ∧ vs.length = ws.length := by
  obtain ⟨hlength, hequal⟩ := equals_arr_iff.mp h
  refine ⟨fun w hw => ?_, hlength⟩
  obtain ⟨i, hi, rfl⟩ := List.getElem_of_mem hw
  have hi' : i < vs.length := hlength ▸ hi
  exact ⟨vs[i], List.getElem_mem hi', hequal i _ _ (List.getElem?_eq_getElem hi')
    (List.getElem?_eq_getElem hi)⟩

/-- **An object equals another just if it contains the other and has no further key**, and arrays
that are equal contain each other and have one length. -/
theorem isJsonEqual_iff_contains {es fs : Entries} (hes : es.keys.Nodup) (hfs : fs.keys.Nodup)
    (vs ws : List Json) :
    ((validate (.obj es) (.obj fs) .isJsonEqual).passed = true ↔
      (validate (.obj es) (.obj fs) .isJsonContain).passed = true ∧ ∀ k ∈ es.keys, k ∈ fs.keys) ∧
    ((validate (.arr vs) (.arr ws) .isJsonEqual).passed = true →
      (validate (.arr vs) (.arr ws) .isJsonContain).passed = true ∧ vs.length = ws.length) := by
  obtain ⟨_, hobjects, hentries⟩ := containsValue?_entries es fs
  obtain ⟨_, harrays, hitems⟩ := containsValue?_items vs ws
  rw [validate_isJsonEqual_iff, validate_isJsonEqual_iff, validate_isJsonContain_iff hobjects,
    validate_isJsonContain_iff harrays, hentries, hitems]
  exact ⟨equals_obj_iff_contained hes hfs, contained_of_equals_arr⟩

/-- A pattern in one entry counts both for equality and for containment. -/
theorem record_equal_iff_contains :
    let es : Entries := [("id", .num (.whole 7)), ("note", .str "hello")]
    let fs : Entries := [("note", .str "%ell%"), ("id", .num (.whole 7))]
    let vs : List Json := [.str "hello", .null]
    let ws : List Json := [.str "%ell%", .null]
    (es.keys.Nodup ∧ fs.keys.Nodup) ∧
    ((validate (.obj es) (.obj fs) .isJsonEqual).passed = true ↔
      (validate (.obj es) (.obj fs) .isJsonContain).passed = true ∧ ∀ k ∈ es.keys, k ∈ fs.keys) ∧
    ((validate (.arr vs) (.arr ws) .isJsonEqual).passed = true →
      (validate (.arr vs) (.arr ws) .isJsonContain).passed = true ∧ vs.length = ws.length) := by
  intro es fs vs ws
  have hes : es.keys.Nodup := by decide
  have hfs : fs.keys.Nodup := by decide
  exact ⟨⟨hes, hfs⟩, isJsonEqual_iff_contains hes hfs vs ws⟩

end CaseScript
