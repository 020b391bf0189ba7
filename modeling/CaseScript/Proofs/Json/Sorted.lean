import CaseScript.Json.Path
import CaseScript.Proofs.Text.Keyed
import Mathlib.Data.List.Perm.Subperm

/-!
# Proofs/Json/Sorted — values whose objects are sorted throughout

A value is sorted if its objects are, in every part: so are then the parts (`sorted_walk?`), and so
is an object that is built from sorted values (`sorted_ofPairs`).
-/

namespace CaseScript

namespace Keyed

variable {α : Type}

theorem mem_of_get? {es : Keyed α} {key : String} {v : α} (h : es.get? key = some v) :
    (key, v) ∈ es := by
  induction es with
  | nil => cases h
  | cons e es ih =>
    obtain ⟨k, w⟩ := e
    rw [get?] at h
    split at h
    · rename_i hkey
      subst hkey
      obtain rfl := Option.some.inj h
      exact List.mem_cons_self
    · exact List.mem_cons_of_mem _ (ih h)

theorem get?_of_mem {es : Keyed α} (hkeys : es.keys.Nodup) {e : String × α} (he : e ∈ es) :
    es.get? e.1 = some e.2 := by
  induction es with
  | nil => cases he
  | cons e' es ih =>
    obtain ⟨hfirst, hrest⟩ := List.nodup_cons.mp hkeys
    obtain rfl | he := List.mem_cons.mp he
    · exact if_pos rfl
    · have hne : e'.1 ≠ e.1 := fun hsame => hfirst (List.mem_map.mpr ⟨e, he, hsame.symm⟩)
      exact (if_neg hne).trans (ih hrest he)

theorem get?_eq_none_iff {es : Keyed α} {key : String} : es.get? key = none ↔ key ∉ es.keys := by
  induction es with
  | nil => simp [get?, keys]
  | cons e es ih =>
    obtain ⟨k, v⟩ := e
    change (if k = key then some v else get? key es) = none ↔ key ∉ k :: keys es
    rw [List.mem_cons, not_or, ← ih]
    split
    · rename_i hkey
      simp [hkey]
    · rename_i hkey
      exact ⟨fun h => ⟨Ne.symm hkey, h⟩, And.right⟩

theorem exists_get? {es : Keyed α} {key : String} (h : key ∈ es.keys) :
    ∃ v, es.get? key = some v := by
  cases hv : es.get? key with
  | none => exact absurd h (get?_eq_none_iff.mp hv)
  | some v => exact ⟨v, rfl⟩

theorem subperm_insert (es : Keyed α) (key : String) (value : α) :
    (es.insert key value).Subperm ((key, value) :: es) := by
  induction es with
  | nil => exact List.Subperm.refl _
  | cons e es ih =>
    obtain ⟨k, v⟩ := e
    rw [insert]
    split_ifs
    · exact List.Subperm.refl _
    · exact ((List.sublist_cons_self (k, v) es).cons_cons (key, value)).subperm
    · exact ((List.subperm_cons (k, v)).mpr ih).trans (List.Perm.swap _ _ es).subperm

theorem mem_insert {es : Keyed α} {key : String} {v : α} {e : String × α}
    (h : e ∈ es.insert key v) : e = (key, v) ∨ e ∈ es :=
  List.mem_cons.mp ((subperm_insert es key v).subset h)

/-- What is built from pairs has each of them at most as often. -/
theorem subperm_ofPairs (pairs : List (String × α)) : (ofPairs pairs).Subperm pairs := by
  have hfold : ∀ (ps : List (String × α)) (es : Keyed α),
      (ps.foldl (fun es p => es.insert p.1 p.2) es).Subperm (es ++ ps) := by
    intro ps
    induction ps with
    | nil => exact fun es => (List.append_nil es).symm ▸ List.Subperm.refl es
    | cons p ps ih =>
      intro es
      have hinsert := (List.subperm_append_right ps).mpr (subperm_insert es p.1 p.2)
      exact ((ih _).trans hinsert).trans List.perm_middle.symm.subperm
  exact hfold pairs []

theorem mem_ofPairs {pairs : List (String × α)} {e : String × α} (h : e ∈ ofPairs pairs) :
    e ∈ pairs :=
  (subperm_ofPairs pairs).subset h

/-- **Pairs with distinct keys are all kept.** -/
theorem perm_ofPairs {pairs : List (String × α)} (h : (keys pairs).Nodup) :
    (ofPairs pairs).Perm pairs := by
  have hnodup : (ofPairs pairs).keys.Nodup :=
    (increasing_ofPairs pairs).imp fun {a b} (hlt : a < b) (hsame : a = b) =>
      String.lt_irrefl b (hsame ▸ hlt)
  have hkeys : (ofPairs pairs).keys.Perm (keys pairs) :=
    (List.perm_ext_iff_of_nodup hnodup h).mpr fun key => mem_keys_ofPairs
  have hlength := hkeys.length_eq
  rw [keys, keys, List.length_map, List.length_map] at hlength
  exact (subperm_ofPairs pairs).perm_of_length_le (Nat.le_of_eq hlength.symm)

end Keyed

namespace Json

theorem allSorted_iff {vs : List Json} : AllSorted vs ↔ ∀ v ∈ vs, v.Sorted := by
  induction vs with
  | nil => simp [AllSorted]
  | cons v vs ih => rw [AllSorted, ih, List.forall_mem_cons]

theorem entriesSorted_iff {es : Entries} : EntriesSorted es ↔ ∀ e ∈ es, e.2.Sorted := by
  induction es with
  | nil => simp [EntriesSorted]
  | cons e es ih => rw [EntriesSorted, ih, List.forall_mem_cons]

theorem sorted_ofPairs {pairs : List (String × Json)} (h : EntriesSorted pairs) :
    (Json.obj (Keyed.ofPairs pairs)).Sorted :=
  ⟨Keyed.increasing_ofPairs pairs,
    entriesSorted_iff.mpr fun e he => entriesSorted_iff.mp h e (Keyed.mem_ofPairs he)⟩

theorem sorted_child? {v w : Json} {segment : String} (hv : v.Sorted)
    (h : v.child? segment = some w) : w.Sorted := by
  match v with
  | .obj es => exact entriesSorted_iff.mp hv.2 _ (Keyed.mem_of_get? h)
  | .arr items =>
    obtain ⟨i, -, hi⟩ := Option.bind_eq_some_iff.mp h
    exact allSorted_iff.mp hv w (List.mem_of_getElem? hi)

theorem sorted_walk? {v w : Json} {path : List String} (hv : v.Sorted) (h : v.walk? path = some w) :
    w.Sorted := by
  induction path generalizing v with
  | nil =>
    obtain rfl := Option.some.inj h
    exact hv
  | cons s path ih =>
    rw [walk?] at h
    split at h
    · exact ih (sorted_child? hv ‹_›) h
    · cases h

end Json

end CaseScript
