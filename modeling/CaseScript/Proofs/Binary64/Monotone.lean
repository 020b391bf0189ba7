import CaseScript.Proofs.Binary64.Nearest

/-!
# Proofs/Binary64/Monotone — doubles in order, and rounding that keeps it

What is no NaN has a rank, and the order of doubles is that of their ranks (`le_iff_rank`), so of two
numbers one is at most the other (`le_or_le`).  Rounding to the nearest double keeps the order of all
whole numbers, also of those that are too great for any finite double (`ofInt_le_ofInt`).
-/

namespace CaseScript

namespace Binary64

/-! ## The order of ranks -/

theorem rank_eq_none_iff {x : Binary64} : x.rank = none ↔ x.isNaN = true := by
  cases x <;> simp [rank, isNaN]

theorem exists_rank {x : Binary64} (h : x.isNaN = false) : ∃ r, x.rank = some r := by
  refine Option.ne_none_iff_exists'.mp fun hnone => ?_
  rw [rank_eq_none_iff.mp hnone] at h
  cases h

theorem le_iff_rank {a b : Binary64} : a.le b = true ↔
    ∃ r s, a.rank = some r ∧ b.rank = some s ∧ toLex r ≤ toLex s := by
  unfold le lt eq
  cases a.rank with
  | none => simp
  | some r =>
    cases b.rank with
    | none => simp
    | some s =>
      simp [Prod.Lex.toLex_le_toLex, Prod.ext_iff]
      omega

theorem le_of_le_of_le {a b c : Binary64} (hab : a.le b = true) (hbc : b.le c = true) :
    a.le c = true := by
  obtain ⟨r, s, hr, hs, hrs⟩ := le_iff_rank.mp hab
  obtain ⟨s', t, hs', ht, hst⟩ := le_iff_rank.mp hbc
  obtain rfl := Option.some.inj (hs.symm.trans hs')
  exact le_iff_rank.mpr ⟨r, t, hr, ht, hrs.trans hst⟩

theorem le_or_le {a b : Binary64} (ha : a.isNaN = false) (hb : b.isNaN = false) :
    a.le b = true ∨ b.le a = true := by
  obtain ⟨r, hr⟩ := exists_rank ha
  obtain ⟨s, hs⟩ := exists_rank hb
  exact (le_total (toLex r) (toLex s)).imp (fun h => le_iff_rank.mpr ⟨r, s, hr, hs, h⟩)
    fun h => le_iff_rank.mpr ⟨s, r, hs, hr, h⟩

/-- A comparison holds of numbers only. -/
theorem isNaN_of_le {a b : Binary64} (h : a.le b = true) : a.isNaN = false ∧ b.isNaN = false := by
  obtain ⟨r, s, hr, hs, -⟩ := le_iff_rank.mp h
  have hnumber : ∀ {x : Binary64} {p}, x.rank = some p → x.isNaN = false := by
    intro x p hp
    refine Bool.eq_false_iff.mpr fun hnan => ?_
    rw [rank_eq_none_iff.mpr hnan] at hp
    cases hp
  exact ⟨hnumber hr, hnumber hs⟩

/-! ## Rounding -/

/-- The nearest magnitudes are in the order of the magnitudes. -/
theorem nearestNat_mono {m n : Nat} (h : m ≤ n) : nearestNat m ≤ nearestNat n := by
  by_cases hplaces : excess m = excess n
  · rw [nearestNat, nearestNat, hplaces]
    exact Nat.mul_le_mul_right _ (roundHalfEven_mono h _)
  · -- the smaller one stays below a power of two that the greater one stays above
    have hn : n ≠ 0 := by
      rintro rfl
      exact hplaces (by rw [Nat.le_zero.mp h])
    have hlog : m.log2 ≤ n.log2 := by
      by_cases hm : m = 0
      · simp [hm]
      · exact (Nat.le_log2 hn).mpr ((Nat.log2_self_le hm).trans h)
    have hlt : m.log2 + 1 ≤ n.log2 := by
      unfold excess at hplaces
      omega
    calc nearestNat m ≤ 2 ^ (m.log2 + 1) := nearestNat_le_pow m
      _ ≤ 2 ^ n.log2 := Nat.pow_le_pow_right (by decide) hlt
      _ ≤ nearestNat n := pow_log2_le_nearestNat hn

theorem nearest_of_nonneg {n : Int} (h : 0 ≤ n) : nearest n = nearestNat n.natAbs := by
  obtain hpos | rfl := h.lt_or_eq'
  · rw [nearest, Int.sign_eq_one_of_pos hpos, one_mul]
  · decide

theorem nearest_of_nonpos {n : Int} (h : n ≤ 0) : nearest n = -nearestNat n.natAbs := by
  obtain hneg | rfl := h.lt_or_eq
  · rw [nearest, Int.sign_eq_neg_one_of_neg hneg, neg_one_mul]
  · decide

/-- The nearest numbers are in the order of the numbers. -/
theorem nearest_mono {m n : Int} (h : m ≤ n) : nearest m ≤ nearest n := by
  obtain hm | hm := le_or_gt 0 m
  · rw [nearest_of_nonneg hm, nearest_of_nonneg (hm.trans h)]
    exact_mod_cast nearestNat_mono (show m.natAbs ≤ n.natAbs by omega)
  · obtain hn | hn := le_or_gt 0 n
    · rw [nearest_of_nonpos hm.le, nearest_of_nonneg hn]
      omega
    · rw [nearest_of_nonpos hm.le, nearest_of_nonpos hn.le]
      have hmono := nearestNat_mono (show n.natAbs ≤ m.natAbs by omega)
      omega

/-- What is too great for a finite double is infinite. -/
theorem rank_ofInt_of_not_fits {n : Int} (h : ¬nearestNat n.natAbs < beyond) :
    (ofInt n).rank = some (if n < 0 then -1 else 1, 0) := by
  have hlarge : beyond ≤ nearestNat n.natAbs := not_lt.mp h
  have hlog := mt natPow_lt_beyond.mpr (hlarge.trans (nearestNat_le_pow _)).not_gt
  rw [maxExponent] at hlog
  obtain ⟨s, hs⟩ := Nat.exists_eq_add_of_le (show 52 ≤ n.natAbs.log2 by omega)
  rw [ofInt, ofRatio_infinite hs hlarge, rank]
  simp only [decide_eq_true_eq]

/-- What is too great lies beyond what is not. -/
theorem pos_of_not_fits {m n : Int} (h : m ≤ n) (hm : nearestNat m.natAbs < beyond)
    (hn : ¬nearestNat n.natAbs < beyond) : 0 < n := by
  by_contra hneg
  have hmono := nearestNat_mono (show n.natAbs ≤ m.natAbs by omega)
  exact hn (hmono.trans_lt hm)

/-- **Rounding whole numbers to doubles keeps their order.** -/
theorem ofInt_le_ofInt {m n : Int} (h : m ≤ n) : (ofInt m).le (ofInt n) = true := by
  rw [le_iff_rank]
  by_cases hm : nearestNat m.natAbs < beyond <;> by_cases hn : nearestNat n.natAbs < beyond
  · refine ⟨_, _, rank_ofInt_of_fits hm, rank_ofInt_of_fits hn, ?_⟩
    rw [Prod.Lex.toLex_le_toLex]
    exact .inr ⟨rfl, mul_le_mul_of_nonneg_right (nearest_mono h) (Int.natCast_nonneg _)⟩
  · have hpos := pos_of_not_fits h hm hn
    refine ⟨_, _, rank_ofInt_of_fits hm, rank_ofInt_of_not_fits hn, ?_⟩
    rw [Prod.Lex.toLex_le_toLex, if_neg hpos.le.not_gt]
    exact .inl zero_lt_one
  · have hneg : 0 < -m :=
      pos_of_not_fits (neg_le_neg h) (by rwa [Int.natAbs_neg]) (by rwa [Int.natAbs_neg])
    refine ⟨_, _, rank_ofInt_of_not_fits hm, rank_ofInt_of_fits hn, ?_⟩
    rw [Prod.Lex.toLex_le_toLex, if_pos (neg_pos.mp hneg)]
    exact .inl neg_one_lt_zero
  · refine ⟨_, _, rank_ofInt_of_not_fits hm, rank_ofInt_of_not_fits hn, ?_⟩
    have hsigns : (if m < 0 then -1 else 1 : Int) ≤ if n < 0 then -1 else 1 := by
      split <;> split <;> omega
    rw [Prod.Lex.toLex_le_toLex]
    exact hsigns.lt_or_eq.imp id fun heq => ⟨heq, le_rfl⟩

end Binary64

end CaseScript
