import CaseScript.Proofs.Binary64.Order

/-!
# Proofs/Binary64/Nearest — the whole number that a double is

A whole number of 64 bits is read as the double nearest to it, and that is a whole number again:
`nearest` keeps 53 significant bits and rounds a half to even (`rank_ofInt`).  So two such numbers
are equal as doubles just if they have the same nearest number (`eq_ofInt_iff`).  What is below
`2^53` is its own nearest number and that of no other (`nearest_eq_iff`), and numbers with the same
nearest one are at most `2048` apart (`natAbs_sub_le_of_nearest_eq`).
-/

namespace CaseScript

/-! ## Rounding -/

theorem two_mul_roundHalfEven {n d : Nat} (hd : 0 < d) :
    2 * (d * roundHalfEven n d) ≤ 2 * n + d ∧ 2 * n ≤ 2 * (d * roundHalfEven n d) + d := by
  have hdiv : d * (n / d) + n % d = n := Nat.div_add_mod n d
  have hrest : n % d < d := Nat.mod_lt n hd
  unfold roundHalfEven
  dsimp only
  split
  · rw [Nat.mul_succ]
    omega
  · omega

theorem le_roundHalfEven {n d c : Nat} (hd : 0 < d) (h : c * d ≤ n) : c ≤ roundHalfEven n d := by
  have hquot : c ≤ n / d := (Nat.le_div_iff_mul_le hd).mpr h
  unfold roundHalfEven
  dsimp only
  split <;> omega

/-- Rounding keeps the order. -/
theorem roundHalfEven_mono {m n : Nat} (h : m ≤ n) (d : Nat) :
    roundHalfEven m d ≤ roundHalfEven n d := by
  have hquot : m / d ≤ n / d := Nat.div_le_div_right h
  have hm : d * (m / d) + m % d = m := Nat.div_add_mod m d
  have hn : d * (n / d) + n % d = n := Nat.div_add_mod n d
  unfold roundHalfEven
  dsimp only
  obtain hlt | heq := hquot.lt_or_eq
  · split <;> split <;> omega
  · -- what is left of the two is in their order, and so is what it is rounded to
    rw [heq] at hm ⊢
    split <;> split <;> omega

theorem roundHalfEven_le {n d c : Nat} (hd : 0 < d) (h : n ≤ c * d) : roundHalfEven n d ≤ c := by
  refine (roundHalfEven_mono h d).trans ?_
  have hquot : c * d / d = c := Nat.mul_div_cancel c hd
  have hrest : c * d % d = 0 := Nat.mul_mod_left c d
  unfold roundHalfEven
  dsimp only
  rw [hquot, hrest]
  split <;> omega

namespace Binary64

/-- The number of last binary places that a number loses with 53 significant bits. -/
def excess (n : Nat) : Nat := n.log2 - 52

/-- The magnitude with 53 significant bits that is nearest to another; a half goes to even. -/
def nearestNat (n : Nat) : Nat := roundHalfEven n (Nat.pow 2 (excess n)) * Nat.pow 2 (excess n)

/-- The whole number with 53 significant bits that is nearest to another; a half goes to even. -/
def nearest (n : Int) : Int := n.sign * nearestNat n.natAbs

theorem natAbs_nearest (n : Int) : (nearest n).natAbs = nearestNat n.natAbs := by
  by_cases hn : n = 0
  · subst hn
    decide
  · rw [nearest, Int.natAbs_mul, Int.natAbs_sign_of_ne_zero hn, Nat.one_mul, Int.natAbs_natCast]

theorem excess_eq_zero {n : Nat} (h : n < Nat.pow 2 53) : excess n = 0 := by
  by_cases hn : n = 0
  · subst hn
    decide
  · have hlog : n.log2 < 53 := (Nat.log2_lt hn).mpr h
    rw [excess]
    omega

theorem nearest_of_lt {n : Int} (h : n.natAbs < Nat.pow 2 53) : nearest n = n := by
  have hplaces : Nat.pow 2 0 = 1 := rfl
  rw [nearest, nearestNat, excess_eq_zero h, hplaces, roundHalfEven_one, Nat.mul_one,
    Int.sign_mul_natAbs]

theorem pow_log2_sub_excess (n : Nat) :
    Nat.pow 2 (n.log2 - excess n) * Nat.pow 2 (excess n) = Nat.pow 2 n.log2 := by
  have hle : excess n ≤ n.log2 := Nat.sub_le _ _
  calc 2 ^ (n.log2 - excess n) * 2 ^ excess n = 2 ^ (n.log2 - excess n + excess n) :=
        (Nat.pow_add 2 _ _).symm
    _ = 2 ^ n.log2 := by rw [Nat.sub_add_cancel hle]

/-- A number stays between the powers of two that it lies between. -/
theorem pow_log2_le_nearestNat {n : Nat} (hn : n ≠ 0) : Nat.pow 2 n.log2 ≤ nearestNat n := by
  rw [nearestNat, ← pow_log2_sub_excess n]
  refine Nat.mul_le_mul_right _ (le_roundHalfEven (Nat.two_pow_pos _) ?_)
  rw [pow_log2_sub_excess]
  exact Nat.log2_self_le hn

theorem nearestNat_le_pow (n : Nat) : nearestNat n ≤ Nat.pow 2 (n.log2 + 1) := by
  have hpow : 2 * Nat.pow 2 (n.log2 - excess n) * Nat.pow 2 (excess n) =
      Nat.pow 2 (n.log2 + 1) := by
    rw [Nat.mul_assoc, pow_log2_sub_excess]
    exact Nat.pow_succ'.symm
  rw [nearestNat, ← hpow]
  refine Nat.mul_le_mul_right _ (roundHalfEven_le (Nat.two_pow_pos _) ?_)
  rw [hpow]
  exact (Nat.lt_log2_self (n := n)).le

/-- What has more than 53 bits does not get below `2^53`. -/
theorem le_nearestNat {n : Nat} (h : Nat.pow 2 53 ≤ n) : Nat.pow 2 53 ≤ nearestNat n := by
  have hpos : 0 < Nat.pow 2 53 := Nat.two_pow_pos 53
  have hn : n ≠ 0 := by omega
  have hlog : 53 ≤ n.log2 := (Nat.le_log2 hn).mpr h
  exact (Nat.pow_le_pow_right (by decide) hlog).trans (pow_log2_le_nearestNat hn)

/-- **A number below `2^53` is nearest to itself only.** -/
theorem nearest_eq_iff {a b : Int} (h : a.natAbs < Nat.pow 2 53 ∨ b.natAbs < Nat.pow 2 53) :
    nearest a = nearest b ↔ a = b := by
  refine ⟨fun hab => ?_, congrArg nearest⟩
  have hiff : a.natAbs < Nat.pow 2 53 ↔ b.natAbs < Nat.pow 2 53 := by
    have hsmall : ∀ {c : Int}, c.natAbs < Nat.pow 2 53 ↔ (nearest c).natAbs < Nat.pow 2 53 := by
      intro c
      refine ⟨fun hc => by rwa [nearest_of_lt hc], fun hc => ?_⟩
      by_contra hlarge
      rw [natAbs_nearest] at hc
      exact absurd (le_nearestNat (not_lt.mp hlarge)) (not_le.mpr hc)
    rw [hsmall, hab, ← hsmall]
  have ha : a.natAbs < Nat.pow 2 53 := h.elim id hiff.mpr
  rwa [nearest_of_lt ha, nearest_of_lt (hiff.mp ha)] at hab

/-- The numbers that an unsigned or a signed word of 64 bits holds. -/
def InWord (n : Int) : Prop := -(2 ^ 63) ≤ n ∧ n < 2 ^ 64

instance (n : Int) : Decidable (InWord n) := inferInstanceAs (Decidable (_ ∧ _))

theorem InWord.log2_lt {n : Int} (h : InWord n) : n.natAbs.log2 < 64 := by
  by_cases hn : n = 0
  · subst hn
    decide
  · refine (Nat.log2_lt (Int.natAbs_ne_zero.mpr hn)).mpr ?_
    unfold InWord at h
    omega

/-- A word moves by at most half of the last place that it keeps. -/
theorem natAbs_nearest_sub_le {n : Int} (h : InWord n) : (nearest n - n).natAbs ≤ 1024 := by
  have hround := two_mul_roundHalfEven (n := n.natAbs) (Nat.two_pow_pos (excess n.natAbs))
  have hplaces : 2 ^ excess n.natAbs ≤ 2 ^ 11 := by
    have hlog := h.log2_lt
    exact Nat.pow_le_pow_right (by decide) (by rw [excess]; omega)
  have hnearest : nearestNat n.natAbs =
      2 ^ excess n.natAbs * roundHalfEven n.natAbs (2 ^ excess n.natAbs) := Nat.mul_comm _ _
  rw [← hnearest] at hround
  generalize 2 ^ excess n.natAbs = places at hround hplaces
  rw [nearest]
  obtain hneg | rfl | hpos := lt_trichotomy n 0
  · rw [Int.sign_eq_neg_one_of_neg hneg]
    omega
  · rw [Int.sign_zero]
    omega
  · rw [Int.sign_eq_one_of_pos hpos]
    omega

theorem natAbs_sub_le_of_nearest_eq {a b : Int} (ha : InWord a) (hb : InWord b)
    (h : nearest a = nearest b) : (a - b).natAbs ≤ 2048 := by
  have hleft := natAbs_nearest_sub_le ha
  have hright := natAbs_nearest_sub_le hb
  omega

/-! ## The double of a word -/

/-- A power of two in units. -/
theorem natPow_eq {k s : Nat} (h : k = s + (0 - minExponent).toNat) :
    Nat.pow 2 k = Nat.pow 2 s * oneUnits := by
  subst h
  unfold oneUnits
  generalize (0 - minExponent).toNat = j
  exact Nat.pow_add 2 s j

/-- A finite number has its units for its place between the infinities. -/
theorem rank_of_totalRank {x : Binary64} {u zeros : Int} (h : x.totalRank = (0, u, zeros)) :
    x.rank = some (0, u) := by
  cases x with
  | nan negative => cases negative <;> cases h
  | infinite negative => cases negative <;> cases h
  | finite negative m e =>
    cases h
    rfl

/-- The least power of two that is no double.  As a numeral it is too large to compute with. -/
@[irreducible] def beyond : Nat := Nat.pow 2 (maxExponent + 53).toNat

theorem natPow_lt_beyond {k : Nat} : Nat.pow 2 k < beyond ↔ (k : Int) < maxExponent + 53 := by
  unfold beyond
  rw [← Int.lt_toNat]
  generalize (maxExponent + 53).toNat = j
  exact Nat.pow_lt_pow_iff_right (by decide)

theorem beyond_lt_natPow {k : Nat} : beyond < Nat.pow 2 k ↔ maxExponent + 53 < k := by
  have hnonneg : 0 ≤ maxExponent + 53 := by decide
  unfold beyond
  rw [← Int.toNat_lt hnonneg]
  generalize (maxExponent + 53).toNat = j
  exact Nat.pow_lt_pow_iff_right (by decide)

/-- The double of a magnitude that is longer than 52 binary places by `s`.  A number that fills the
54th bit is half as much on the grid that is twice as coarse. -/
theorem ofRatio_one {n s : Nat} (hs : n.log2 = 52 + s) (negative : Bool) :
    ofRatio negative n 1 =
      if roundHalfEven n (Nat.pow 2 s) = Nat.pow 2 53 then
        if maxExponent < (s : Int) + 1 then .infinite negative
        else .finite negative (Nat.pow 2 52) (s + 1)
      else if maxExponent < (s : Int) then .infinite negative
      else .finite negative (roundHalfEven n (Nat.pow 2 s)) s := by
  have hn : n ≠ 0 := by
    rintro rfl
    rw [Nat.log2_zero] at hs
    omega
  have hgrid : gridExponent n 1 = s := by
    rw [gridExponent_one hn]
    omega
  have hscale : scaleDown n 1 s = (n, Nat.pow 2 s) := by
    simp [scaleDown]
  rw [ofRatio, if_neg hn, hgrid]
  dsimp only
  rw [hscale]
  dsimp only
  split <;> rfl

theorem nearestNat_of_log2 {n s : Nat} (hs : n.log2 = 52 + s) :
    nearestNat n = roundHalfEven n (Nat.pow 2 s) * Nat.pow 2 s := by
  have hexcess : excess n = s := by
    rw [excess]
    omega
  rw [nearestNat, hexcess]

theorem natPow_53_mul (s : Nat) : Nat.pow 2 53 * Nat.pow 2 s = Nat.pow 2 (53 + s) :=
  (Nat.pow_add 2 53 s).symm

/-- The units of a magnitude that is longer than 52 binary places by `s`, if it is not too large. -/
theorem rank_ofRatio {n s : Nat} (hs : n.log2 = 52 + s) (hfit : nearestNat n < beyond)
    (negative : Bool) :
    (ofRatio negative n 1).rank = some (0, if negative then -(↑(nearestNat n * oneUnits) : Int)
      else ↑(nearestNat n * oneUnits)) := by
  have hn : n ≠ 0 := by
    rintro rfl
    rw [Nat.log2_zero] at hs
    omega
  have hunits : ∀ (m : Nat) (e : Int), m * Nat.pow 2 (e - minExponent).toNat =
      nearestNat n * oneUnits → (finite negative m e).rank = some (0,
        if negative then -(↑(nearestNat n * oneUnits) : Int) else ↑(nearestNat n * oneUnits)) := by
    intro m e h
    rw [rank, units, ← Nat.cast_mul, h]
  rw [ofRatio_one hs]
  by_cases hcarry : roundHalfEven n (Nat.pow 2 s) = Nat.pow 2 53
  · have hnearest : nearestNat n = Nat.pow 2 (53 + s) := by
      rw [nearestNat_of_log2 hs, hcarry, natPow_53_mul]
    have hexp := natPow_lt_beyond.mp (hnearest ▸ hfit)
    rw [if_pos hcarry, if_neg (by omega)]
    refine hunits _ _ ?_
    have hgrid : ((s : Int) + 1 - minExponent).toNat = (1 + s) + (0 - minExponent).toNat := by
      rw [minExponent]
      omega
    rw [hnearest, natPow_eq hgrid, ← Nat.mul_assoc]
    congr 1
    calc 2 ^ 52 * 2 ^ (1 + s) = 2 ^ (52 + (1 + s)) := (Nat.pow_add 2 _ _).symm
      _ = 2 ^ (53 + s) := by rw [← Nat.add_assoc]
  · have hexp := natPow_lt_beyond.mp ((pow_log2_le_nearestNat hn).trans_lt hfit)
    rw [if_neg hcarry, if_neg (by omega)]
    refine hunits _ _ ?_
    have hgrid : ((s : Int) - minExponent).toNat = s + (0 - minExponent).toNat := by
      rw [minExponent]
      omega
    rw [nearestNat_of_log2 hs, natPow_eq hgrid, Nat.mul_assoc]

/-- A magnitude that is too large is infinite. -/
theorem ofRatio_infinite {n s : Nat} (hs : n.log2 = 52 + s) (hlarge : beyond ≤ nearestNat n)
    (negative : Bool) : ofRatio negative n 1 = .infinite negative := by
  rw [nearestNat_of_log2 hs] at hlarge
  rw [ofRatio_one hs]
  by_cases hcarry : roundHalfEven n (Nat.pow 2 s) = Nat.pow 2 53
  · rw [hcarry, natPow_53_mul] at hlarge
    have hexp := mt natPow_lt_beyond.mpr hlarge.not_gt
    rw [if_pos hcarry, if_pos (by omega)]
  · have hle : roundHalfEven n (Nat.pow 2 s) ≤ Nat.pow 2 53 := by
      refine roundHalfEven_le (Nat.two_pow_pos s) ?_
      rw [natPow_53_mul, show 53 + s = n.log2 + 1 by omega]
      exact (Nat.lt_log2_self (n := n)).le
    have hlt := Nat.mul_lt_mul_of_pos_right (hle.lt_of_ne hcarry) (Nat.two_pow_pos s)
    have hexp := beyond_lt_natPow.mp (natPow_53_mul s ▸ hlarge.trans_lt hlt)
    rw [if_neg hcarry, if_pos (by omega)]

/-- **The double of a whole number is the one nearest to it**, if that is not too large. -/
theorem rank_ofInt_of_fits {n : Int} (hfit : nearestNat n.natAbs < beyond) :
    (ofInt n).rank = some (0, nearest n * oneUnits) := by
  by_cases hsmall : n.natAbs < Nat.pow 2 53
  · rw [nearest_of_lt hsmall]
    exact rank_of_totalRank (totalRank_ofInt hsmall)
  · have hn : n ≠ 0 := by
      rintro rfl
      exact hsmall (Nat.two_pow_pos 53)
    have hlog : 53 ≤ n.natAbs.log2 :=
      (Nat.le_log2 (Int.natAbs_ne_zero.mpr hn)).mpr (not_lt.mp hsmall)
    obtain ⟨s, hs⟩ := Nat.exists_eq_add_of_le (show 52 ≤ n.natAbs.log2 by omega)
    rw [ofInt, rank_ofRatio hs hfit, nearest]
    obtain hneg | hpos := lt_or_gt_of_ne hn
    · simp [hneg, Int.sign_eq_neg_one_of_neg hneg]
    · simp [not_lt.mpr hpos.le, Int.sign_eq_one_of_pos hpos]

/-- **The double of a word is the whole number nearest to it.** -/
theorem rank_ofInt {n : Int} (h : InWord n) : (ofInt n).rank = some (0, nearest n * oneUnits) := by
  have hlog := h.log2_lt
  refine rank_ofInt_of_fits ((nearestNat_le_pow n.natAbs).trans_lt (natPow_lt_beyond.mpr ?_))
  rw [maxExponent]
  omega

/-- **Words are equal as doubles just if they have the same nearest number.** -/
theorem eq_ofInt_iff {a b : Int} (ha : InWord a) (hb : InWord b) :
    (ofInt a).eq (ofInt b) = true ↔ nearest a = nearest b := by
  have hpos : (oneUnits : Int) ≠ 0 := by exact_mod_cast oneUnits_pos.ne'
  rw [eq, rank_ofInt ha, rank_ofInt hb]
  simp [mul_left_inj' hpos]

end Binary64

end CaseScript
