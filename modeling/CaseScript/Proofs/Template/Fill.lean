import CaseScript.Proofs.Json.Sorted
import CaseScript.Proofs.Template.Pieces

/-!
# Proofs/Template/Fill — what filling a template reads and what it leaves alone

Filling reads the values of the names of the template only (`fill_congr`), leaves a value without
names as it is (`fill_eq_self`), and gives sorted values (`fill_sorted`).  Values are **in force**
for names if none of them is for the blank name, which is never asked for.
-/

namespace CaseScript.Template

variable {values values' : Entries} {inSql : Bool}

/-! ## Texts -/

theorem mem_namesInText {s : String} {inner : List Char} (h : .slot inner ∈ pieces s.toList)
    (hname : slotName inner ≠ "") : slotName inner ∈ namesInText s := by
  refine List.mem_filter.mpr ⟨List.mem_filterMap.mpr ⟨_, h, rfl⟩, ?_⟩
  exact decide_eq_true hname

theorem blank_not_mem_namesInText (s : String) : "" ∉ namesInText s := fun h =>
  absurd rfl (of_decide_eq_true (List.mem_filter.mp h).2)

/-- The values agree on the names, and have none for the blank one. -/
structure Agree (values values' : Entries) (names : List String) : Prop where
  blank : values.get? "" = none
  blank' : values'.get? "" = none
  names : ∀ n ∈ names, values.get? n = values'.get? n

theorem Agree.mono {names names' : List String} (h : Agree values values' names)
    (hsub : ∀ n ∈ names', n ∈ names) : Agree values values' names' :=
  ⟨h.blank, h.blank', fun n hn => h.names n (hsub n hn)⟩

theorem Agree.slot {s : String} (h : Agree values values' (namesInText s)) {inner : List Char}
    (hinner : .slot inner ∈ pieces s.toList) :
    values.get? (slotName inner) = values'.get? (slotName inner) := by
  by_cases hname : slotName inner = ""
  · rw [hname, h.blank, h.blank']
  · exact h.names _ (mem_namesInText hinner hname)

theorem splice_congr {s : String} (h : Agree values values' (namesInText s)) :
    splice values inSql s = splice values' inSql s := by
  have hpieces : (pieces s.toList).flatMap (splicePiece values inSql) =
      (pieces s.toList).flatMap (splicePiece values' inSql) := by
    rw [List.flatMap_def, List.flatMap_def]
    refine congrArg List.flatten (List.map_congr_left fun piece hpiece => ?_)
    cases piece with
    | char c => rfl
    | slot inner => rw [splicePiece, splicePiece, h.slot hpiece]
  rw [splice, splice, hpieces]

theorem fillText_congr {s : String} (h : Agree values values' (namesInText s)) :
    fillText values inSql s = fillText values' inSql s := by
  unfold fillText
  split
  · rename_i inner hpieces
    rw [h.slot (hpieces ▸ List.mem_singleton_self _)]
  · rw [splice_congr h]

theorem splice_eq_self {s : String} (hblank : values.get? "" = none) (h : namesInText s = []) :
    splice values inSql s = s := by
  have hpieces : (pieces s.toList).flatMap (splicePiece values inSql) =
      (pieces s.toList).flatMap Piece.text := by
    rw [List.flatMap_def, List.flatMap_def]
    refine congrArg List.flatten (List.map_congr_left fun piece hpiece => ?_)
    cases piece with
    | char c => rfl
    | slot inner =>
      have hname : slotName inner = "" := by
        by_cases hname : slotName inner = ""
        · exact hname
        · exact absurd (mem_namesInText hpiece hname) (h ▸ List.not_mem_nil)
      rw [splicePiece, hname, hblank]
  rw [splice, hpieces, text_pieces, String.ofList_toList]

theorem fillText_eq_self {s : String} (hblank : values.get? "" = none) (h : namesInText s = []) :
    fillText values inSql s = .str s := by
  unfold fillText
  split
  · rename_i inner hpieces
    have hname : slotName inner = "" := by
      by_cases hname : slotName inner = ""
      · exact hname
      · exact absurd (mem_namesInText (hpieces ▸ List.mem_singleton_self _) hname)
          (h ▸ List.not_mem_nil)
    rw [hname, hblank]
  · rw [splice_eq_self hblank h]

/-! ## Values -/

mutual

/-- **Filling reads the values of the names only.** -/
theorem fill_congr : ∀ (inSql : Bool) (v : Json), Agree values values' (namesIn v) →
    fill values inSql v = fill values' inSql v
  | _, .str _, h => fillText_congr h
  | inSql, .arr items, h => congrArg Json.arr (fillItems_congr inSql items h)
  | inSql, .obj entries, h =>
    congrArg (fun es => Json.obj (Keyed.ofPairs es)) (fillEntries_congr inSql entries h)
  | _, .null, _ | _, .bool _, _ | _, .num _, _ => rfl

theorem fillItems_congr : ∀ (inSql : Bool) (vs : List Json),
    Agree values values' (namesInItems vs) → fillItems values inSql vs = fillItems values' inSql vs
  | _, [], _ => rfl
  | inSql, v :: vs, h => by
    have hvalue := fill_congr inSql v (h.mono fun _ => List.mem_append_left _)
    have hrest := fillItems_congr inSql vs (h.mono fun _ => List.mem_append_right _)
    rw [fillItems, fillItems, hvalue, hrest]

theorem fillEntries_congr : ∀ (inSql : Bool) (es : List (String × Json)),
    Agree values values' (namesInEntries es) →
      fillEntries values inSql es = fillEntries values' inSql es
  | _, [], _ => rfl
  | inSql, (k, v) :: es, h => by
    have hkey : splice values false k = splice values' false k :=
      splice_congr (h.mono fun _ => List.mem_append_left _)
    have hvalue := fill_congr (inSql || k = "sql") v
      (h.mono fun _ hn => List.mem_append_right _ (List.mem_append_left _ hn))
    have hrest := fillEntries_congr inSql es
      (h.mono fun _ hn => List.mem_append_right _ (List.mem_append_right _ hn))
    rw [fillEntries, fillEntries, hkey, hvalue, hrest]

end

theorem length_fillItems (vs : List Json) : (fillItems values inSql vs).length = vs.length := by
  induction vs with
  | nil => rfl
  | cons v vs ih => rw [fillItems, List.length_cons, ih, List.length_cons]

mutual

/-- **A sorted value without names stays as it is.** -/
theorem fill_eq_self (hblank : values.get? "" = none) : ∀ (inSql : Bool) (v : Json),
    namesIn v = [] → v.Sorted → fill values inSql v = v
  | _, .str _, h, _ => fillText_eq_self hblank h
  | inSql, .arr items, h, hsorted =>
    congrArg Json.arr (fillItems_eq_self hblank inSql items h hsorted)
  | inSql, .obj entries, h, hsorted => by
    rw [fill, fillEntries_eq_self hblank inSql entries h hsorted.2,
      Keyed.ofPairs_eq_self hsorted.1]
  | _, .null, _, _ | _, .bool _, _, _ | _, .num _, _, _ => rfl

theorem fillItems_eq_self (hblank : values.get? "" = none) : ∀ (inSql : Bool) (vs : List Json),
    namesInItems vs = [] → Json.AllSorted vs → fillItems values inSql vs = vs
  | _, [], _, _ => rfl
  | inSql, v :: vs, h, hsorted => by
    obtain ⟨hvalue, hrest⟩ := List.append_eq_nil_iff.mp h
    rw [fillItems, fill_eq_self hblank inSql v hvalue hsorted.1,
      fillItems_eq_self hblank inSql vs hrest hsorted.2]

theorem fillEntries_eq_self (hblank : values.get? "" = none) : ∀ (inSql : Bool) (es : Entries),
    namesInEntries es = [] → Json.EntriesSorted es → fillEntries values inSql es = es
  | _, [], _, _ => rfl
  | inSql, (k, v) :: es, h, hsorted => by
    obtain ⟨hkey, hothers⟩ := List.append_eq_nil_iff.mp h
    obtain ⟨hvalue, hrest⟩ := List.append_eq_nil_iff.mp hothers
    rw [fillEntries, splice_eq_self hblank hkey, fill_eq_self hblank _ v hvalue hsorted.1,
      fillEntries_eq_self hblank inSql es hrest hsorted.2]

end

mutual

theorem escapeQuotes_sorted : ∀ v : Json, (escapeQuotes v).Sorted
  | .str _ => trivial
  | .arr items => escapeItems_sorted items
  | .obj entries => Json.sorted_ofPairs (escapeEntries_sorted entries)
  | .null | .bool _ | .num _ => trivial

theorem escapeItems_sorted : ∀ vs : List Json, Json.AllSorted (escapeItems vs)
  | [] => trivial
  | v :: vs => ⟨escapeQuotes_sorted v, escapeItems_sorted vs⟩

theorem escapeEntries_sorted : ∀ es : List (String × Json), Json.EntriesSorted (escapeEntries es)
  | [] => trivial
  | (_, v) :: es => ⟨escapeQuotes_sorted v, escapeEntries_sorted es⟩

end

theorem fillText_sorted (h : Json.EntriesSorted values) (s : String) :
    (fillText values inSql s).Sorted := by
  unfold fillText
  split
  · split
    · rename_i v hv
      split
      · exact escapeQuotes_sorted v
      · exact Json.entriesSorted_iff.mp h _ (Keyed.mem_of_get? hv)
    · trivial
  · trivial

mutual

/-- **Sorted values make sorted values of all templates.** -/
theorem fill_sorted (h : Json.EntriesSorted values) :
    ∀ (inSql : Bool) (v : Json), (fill values inSql v).Sorted
  | _, .str s => fillText_sorted h s
  | inSql, .arr items => fillItems_sorted h inSql items
  | inSql, .obj entries => Json.sorted_ofPairs (fillEntries_sorted h inSql entries)
  | _, .null | _, .bool _ | _, .num _ => trivial

theorem fillItems_sorted (h : Json.EntriesSorted values) :
    ∀ (inSql : Bool) (vs : List Json), Json.AllSorted (fillItems values inSql vs)
  | _, [] => trivial
  | inSql, v :: vs => ⟨fill_sorted h inSql v, fillItems_sorted h inSql vs⟩

theorem fillEntries_sorted (h : Json.EntriesSorted values) :
    ∀ (inSql : Bool) (es : List (String × Json)),
      Json.EntriesSorted (fillEntries values inSql es)
  | _, [] => trivial
  | inSql, (_, v) :: es => ⟨fill_sorted h _ v, fillEntries_sorted h inSql es⟩

end

/-! ## A template that is one placeholder -/

/-- The placeholder of a name, as a template. -/
def slotOf (name : List Char) : Json := .str (String.ofList (Piece.slot name).text)

section

variable {inner : List Char} (hinner : ∀ c ∈ inner, isInner c)
include hinner

theorem pieces_slotOf : pieces (String.ofList (Piece.slot inner).text).toList = [.slot inner] := by
  rw [String.toList_ofList, pieces_slot hinner]

theorem namesIn_slotOf (hname : slotName inner ≠ "") :
    namesIn (slotOf inner) = [slotName inner] := by
  rw [slotOf, namesIn, namesInText, pieces_slotOf hinner]
  simp [hname]

theorem fill_slotOf (values : Entries) :
    fill values false (slotOf inner) = (values.get? (slotName inner)).getD (slotOf inner) := by
  rw [slotOf, fill, fillText, pieces_slotOf hinner]
  dsimp only
  cases values.get? (slotName inner) <;> rfl

end

/-- What is written like a placeholder is one if it is filled with an array. -/
theorem eq_of_fill_slotOf {name : List Char} {values : Entries} {items : List Json}
    (h : fill values false (slotOf name) = .arr items) :
    (∀ c ∈ name, isInner c) ∧ values.get? (slotName name) = some (.arr items) := by
  rw [slotOf, fill] at h
  unfold fillText at h
  split at h
  · rename_i inner hpieces
    obtain ⟨htext, hinner⟩ := eq_of_pieces_eq_slot hpieces
    obtain rfl : name = inner := by
      rw [String.toList_ofList, Piece.text, Piece.text] at htext
      simpa using htext
    split at h
    · rename_i v hv
      obtain rfl : v = .arr items := h
      exact ⟨hinner, hv⟩
    · cases h
  · cases h

end CaseScript.Template
