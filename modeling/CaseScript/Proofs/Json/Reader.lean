import CaseScript.Json.Reader
import CaseScript.Proofs.Json.Sorted

/-!
# Proofs/Json/Reader — what is read is sorted

Whatever the order of a document's keys, and however often it repeats one, the value it is read as
is sorted (`Node.sorted_toJson?`, `Json.sorted_parse?`).
-/

namespace CaseScript

namespace Json

theorem sorted_of_some {v w : Json} (h : some v = some w) (hv : v.Sorted) : w.Sorted :=
  Option.some.inj h ▸ hv

theorem sorted_of_map {α : Type} {f : α → Json} {o : Option α} {v : Json} (h : o.map f = some v)
    (hf : ∀ a, (f a).Sorted) : v.Sorted := by
  obtain ⟨a, -, rfl⟩ := Option.map_eq_some_iff.mp h
  exact hf a

end Json

namespace Scalar

open Json

theorem sorted_ofReal (x : Binary64) : (ofReal x).Sorted := by
  cases x <;> trivial

/-- An unquoted text is no container, whatever it is taken for. -/
theorem sorted_resolve? {s : String} {v : Json} (h : resolve? s = some v) : v.Sorted := by
  unfold resolve? at h
  dsimp only at h
  split at h
  · exact sorted_of_some h trivial
  split at h
  · exact sorted_of_some h trivial
  split at h
  · exact sorted_of_map h fun _ => trivial
  split at h
  · exact sorted_of_some h (sorted_ofReal _)
  · exact sorted_of_some h trivial

/-- Nor is a text that is tagged. -/
theorem sorted_value? {s : Scalar} {v : Json} (h : s.value? = some v) : v.Sorted := by
  have hplain : ∀ w, (if s.plain then resolve? s.text else some (.str s.text)) = some w →
      w.Sorted := by
    intro w hw
    split at hw
    · exact sorted_resolve? hw
    · exact sorted_of_some hw trivial
  unfold value? at h
  split at h
  · cases h
  split at h
  · split at h
    · exact sorted_of_map h fun _ => trivial
    split at h
    · split at h
      · exact sorted_of_some h trivial
      · cases h
    split at h
    · exact sorted_of_map h sorted_ofReal
    split at h
    · split at h
      · exact sorted_of_some h trivial
      · cases h
    · exact sorted_of_some h trivial
  · exact hplain v h
  · exact hplain v h

end Scalar

namespace Node

variable {settled : Bool}

mutual

/-- **The value of a document is sorted.** -/
theorem sorted_toJson? : ∀ (n : Node) {v : Json}, toJson? settled n = some v → v.Sorted
  | .null, _, h | .bool _, _, h | .num _, _, h | .str _, _, h => Json.sorted_of_some h trivial
  | .scalar _, _, h => Scalar.sorted_value? h
  | .seq _ items, _, h => by
    obtain ⟨vs, hvs, rfl⟩ := Option.map_eq_some_iff.mp h
    exact sorted_toItems? items hvs
  | .map entries, _, h => by
    obtain ⟨ps, hps, rfl⟩ := Option.map_eq_some_iff.mp h
    exact Json.sorted_ofPairs (sorted_toPairs? entries hps)

theorem sorted_toItems? : ∀ (ns : List Node) {vs : List Json}, toItems? settled ns = some vs →
    Json.AllSorted vs
  | [], _, h => by
    obtain rfl := Option.some.inj h
    trivial
  | n :: ns, _, h => by
    rw [toItems?] at h
    split at h
    · rename_i hvalue hrest
      obtain rfl := Option.some.inj h
      exact ⟨sorted_toJson? n hvalue, sorted_toItems? ns hrest⟩
    · cases h

theorem sorted_toPairs? : ∀ (es : List (Node × Node)) {ps : List (String × Json)},
    toPairs? settled es = some ps → Json.EntriesSorted ps
  | [], _, h => by
    obtain rfl := Option.some.inj h
    trivial
  | (k, n) :: es, _, h => by
    rw [toPairs?] at h
    split at h
    · rename_i hvalue hrest
      obtain rfl := Option.some.inj h
      exact ⟨sorted_toJson? n hvalue, sorted_toPairs? es hrest⟩
    · cases h

end

end Node

namespace Json

theorem sorted_parse? {s : String} {v : Json} (h : parse? s = some v) : v.Sorted := by
  obtain ⟨n, -, hn⟩ := Option.bind_eq_some_iff.mp h
  exact Node.sorted_toJson? n hn

/-- Reading the text in a value keeps it sorted. -/
theorem sorted_decodeText {v : Json} (h : v.Sorted) : v.decodeText.Sorted := by
  have hread : ∀ s : String, ((parse? s).getD (.str s)).Sorted := by
    intro s
    cases hs : parse? s with
    | none => trivial
    | some w => exact sorted_parse? hs
  unfold decodeText
  split
  · split
    · exact hread _
    · exact hread _
    · trivial
  · exact h

end Json

end CaseScript
