import CaseScript.Binary64.Basic
import Mathlib.Algebra.Order.Ring.Int
import Mathlib.Data.Prod.Lex

/-!
# Proofs/Binary64/Order — the places of doubles

The total order gives every double a place on one line (`totalLt_iff`).  A number that is less has
the earlier place (`place_lt_of_lt`), so only the zeros, and what is no number, are ordered further.
A whole number below `2^53` is a double as it stands (`ofInt_eq`), so the places of such numbers are
in their own order (`place_ofInt_le_iff`).
-/

namespace CaseScript

theorem roundHalfEven_one (n : Nat) : roundHalfEven n 1 = n := by
  simp [roundHalfEven, Nat.mod_one]

namespace Binary64

/-- Where a double stands in the total order. -/
def place (x : Binary64) : Int ×ₗ Int ×ₗ Int := toLex (x.totalRank.1, toLex x.totalRank.2)

theorem totalLt_iff (a b : Binary64) : a.totalLt b = true ↔ a.place < b.place := by
  simp [totalLt, place, Prod.Lex.toLex_lt_toLex]

theorem eq_of_rank {x : Binary64} {p : Int × Int} (h : x.rank = some p) :
    p = (x.totalRank.1, x.totalRank.2.1) := by
  cases x <;> cases h <;> rfl

theorem place_lt_of_lt {a b : Binary64} (h : a.lt b = true) : a.place < b.place := by
  unfold lt at h
  split at h
  · rename_i ha hb
    obtain rfl := eq_of_rank ha
    obtain rfl := eq_of_rank hb
    simp only [Bool.or_eq_true, Bool.and_eq_true, decide_eq_true_eq] at h
    simp only [place, Prod.Lex.toLex_lt_toLex]
    exact h.imp id (And.imp id Or.inl)
  · cases h

/-! ## Whole numbers -/

/-- The units in one.  As a numeral it is too large to compute with. -/
@[irreducible] def oneUnits : Nat := Nat.pow 2 (0 - minExponent).toNat

theorem oneUnits_pos : 0 < oneUnits := by
  unfold oneUnits
  generalize (0 - minExponent).toNat = k
  exact Nat.two_pow_pos k

/-- Two powers of two whose exponents make up that of one in units. -/
theorem natPow_mul {a b : Nat} (h : a + b = (0 - minExponent).toNat) :
    Nat.pow 2 a * Nat.pow 2 b = oneUnits := by
  unfold oneUnits
  rw [← h]
  exact (Nat.pow_add 2 a b).symm

/-- A whole number has 53 significant bits on the grid that is 52 steps below its greatest power
of two. -/
theorem gridExponent_one {n : Nat} (hn : n ≠ 0) : gridExponent n 1 = (n.log2 : Int) - 52 := by
  have hle : 1 * Nat.pow 2 n.log2 ≤ n := by simpa using Nat.log2_self_le hn
  have hk : (n.log2 : Int) - Nat.log2 1 = n.log2 := by
    rw [show Nat.log2 1 = 0 by decide]
    exact sub_zero _
  unfold gridExponent
  rw [hk]
  simp only [scaleDown, Int.natCast_nonneg, if_true, Int.toNat_natCast, if_pos hle]
  exact max_eq_right (by simp [minExponent]; omega)

/-- A number that needs `s` more binary places to fill 53 bits, at that many steps below one. -/
theorem ofInt_eq {n : Int} (hn : n ≠ 0) {s : Nat} (hs : n.natAbs.log2 + s = 52) :
    ofInt n = .finite (n < 0) (n.natAbs * Nat.pow 2 s) (-s) := by
  have hn : n.natAbs ≠ 0 := Int.natAbs_ne_zero.mpr hn
  have hgrid : gridExponent n.natAbs 1 = -(s : Int) := by
    rw [gridExponent_one hn]
    omega
  have hscale : scaleDown n.natAbs 1 (-(s : Int)) = (n.natAbs * Nat.pow 2 s, 1) := by
    rw [scaleDown]
    split
    · obtain rfl : s = 0 := by omega
      exact congrArg (·, 1) (Nat.mul_one _).symm
    · rw [neg_neg, Int.toNat_natCast]
  have hfit : n.natAbs * Nat.pow 2 s < Nat.pow 2 53 := by
    have hlt : n.natAbs < 2 ^ (n.natAbs.log2 + 1) := Nat.lt_log2_self
    calc n.natAbs * 2 ^ s < 2 ^ (n.natAbs.log2 + 1) * 2 ^ s :=
          Nat.mul_lt_mul_of_pos_right hlt (Nat.two_pow_pos s)
      _ = 2 ^ 53 := by rw [← Nat.pow_add]; congr 1; omega
  have hrange : ¬maxExponent < -(s : Int) := by
    rw [maxExponent]
    omega
  rw [ofInt, ofRatio, if_neg hn, hgrid]
  dsimp only
  rw [hscale]
  dsimp only
  rw [roundHalfEven_one, if_neg hfit.ne]
  exact if_neg hrange

theorem totalRank_ofInt {n : Int} (h : n.natAbs < Nat.pow 2 53) :
    (ofInt n).totalRank = (0, n * oneUnits, if n < 0 then 0 else 1) := by
  by_cases hn : n = 0
  · subst hn
    simp [ofInt, ofRatio, totalRank, units]
  · have hlog : n.natAbs.log2 < 53 := (Nat.log2_lt (Int.natAbs_ne_zero.mpr hn)).mpr h
    obtain ⟨s, hs⟩ := Nat.exists_eq_add_of_le (Nat.le_of_lt_succ hlog)
    have hunits : n.natAbs * Nat.pow 2 s * Nat.pow 2 (-(s : Int) - minExponent).toNat =
        n.natAbs * oneUnits := by
      have hexp : s + (-(s : Int) - minExponent).toNat = (0 - minExponent).toNat := by
        rw [minExponent]
        omega
      rw [Nat.mul_assoc, natPow_mul hexp]
    have hsigned : units (n < 0) (n.natAbs * Nat.pow 2 s) (-s) = n * oneUnits := by
      rw [units, ← Nat.cast_mul, hunits, Nat.cast_mul, Int.natCast_natAbs]
      by_cases hneg : n < 0
      · simp [hneg, abs_of_neg]
      · simp [hneg, abs_of_nonneg (not_lt.mp hneg)]
    rw [ofInt_eq hn hs.symm, totalRank, hsigned]
    simp

/-- Small whole numbers have their places in their own order. -/
theorem place_ofInt_le_iff {m n : Int} (hm : m.natAbs < Nat.pow 2 53)
    (hn : n.natAbs < Nat.pow 2 53) : (ofInt m).place ≤ (ofInt n).place ↔ m ≤ n := by
  rw [place, place, totalRank_ofInt hm, totalRank_ofInt hn]
  have hpos : (0 : Int) < oneUnits := Int.natCast_pos.mpr oneUnits_pos
  simp only [Prod.Lex.toLex_le_toLex, mul_lt_mul_iff_left₀ hpos, mul_left_inj' hpos.ne']
  constructor
  · omega
  · intro h
    obtain h | rfl := h.lt_or_eq
    · exact .inr ⟨trivial, .inl h⟩
    · exact .inr ⟨trivial, .inr ⟨rfl, le_rfl⟩⟩

end Binary64

end CaseScript
