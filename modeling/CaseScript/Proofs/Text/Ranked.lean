import Mathlib.Data.Nat.Basic
import Mathlib.Order.Lattice

/-!
# Proofs/Text/Ranked — lists sorted by rank

Sorting by rank moves items but loses none, leaves no item before one of a lower rank, and keeps
items of one rank as they are listed (`byRank_mergeSort`).
-/

namespace CaseScript

variable {α β : Type} [LinearOrder β]

/-- The second list has the items of the first by ascending rank; those of one rank keep their
order. -/
structure ByRank (rank : α → β) (listed ordered : List α) : Prop where
  perm : ordered.Perm listed
  ascending : ordered.Pairwise fun a b => rank a ≤ rank b
  stable : ∀ n, ordered.filter (rank · = n) = listed.filter (rank · = n)

variable (rank : α → β)

theorem rank_trans (a b c : α) : decide (rank a ≤ rank b) = true → decide (rank b ≤ rank c) = true →
    decide (rank a ≤ rank c) = true := by
  simpa using le_trans

theorem rank_total (a b : α) : (decide (rank a ≤ rank b) || decide (rank b ≤ rank a)) = true := by
  simpa using le_total _ _

/-- Sorting keeps items as they are listed none of which outranks another. -/
theorem filter_mergeSort_rank {p : α → Bool} (hp : ∀ a b, p a → p b → rank a ≤ rank b)
    (l : List α) : (l.mergeSort fun a b => rank a ≤ rank b).filter p = l.filter p := by
  -- they are sorted as they stand, so sorting keeps them in a row of their own
  have hrow : (l.filter p).Pairwise fun a b => decide (rank a ≤ rank b) = true :=
    List.pairwise_of_forall_mem_list fun a ha b hb =>
      decide_eq_true (hp a b (List.mem_filter.mp ha).2 (List.mem_filter.mp hb).2)
  have hkept := (List.sublist_mergeSort (rank_trans rank) (rank_total rank) hrow
    List.filter_sublist).filter p
  rw [List.filter_filter] at hkept
  simp only [Bool.and_self] at hkept
  exact (hkept.eq_of_length ((List.mergeSort_perm l _).filter p).length_eq.symm).symm

theorem byRank_mergeSort (l : List α) :
    ByRank rank l (l.mergeSort fun a b => rank a ≤ rank b) where
  perm := List.mergeSort_perm l _
  ascending := (List.pairwise_mergeSort (rank_trans rank) (rank_total rank) l).imp of_decide_eq_true
  stable _ := filter_mergeSort_rank rank
    (fun _ _ ha hb => le_of_eq ((of_decide_eq_true ha).trans (of_decide_eq_true hb).symm)) l

end CaseScript
