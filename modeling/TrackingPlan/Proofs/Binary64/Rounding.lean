import TrackingPlan.Proofs.Binary64.Shortest

/-!
# How large a rounded ratio is

The bits of a magnitude grow with its binary place: a ratio below `2 ^ k` rounds to bits of at most
`(1023 + k) * 2 ^ 52` (`magnitude_ofRatio_le`), and one that is not below one to bits of at least
`1023 * 2 ^ 52`.  So dividing by a number that is not below one never leaves the finite numbers.
-/

namespace TrackingPlan.Binary64

/-! ## §1 Bits -/

theorem magnitude_ofMagnitude (negative : Bool) {m : Nat} (h : m < Nat.pow 2 63) :
    (ofMagnitude negative m).magnitude = m := by
  have hsize : Nat.pow 2 63 = 9223372036854775808 := rfl
  unfold ofMagnitude magnitude
  rw [hsize] at h ⊢
  show (UInt64.ofNat _).toNat % _ = m
  rw [UInt64.toNat_ofNat']
  cases negative
  · simp only [Bool.false_eq_true, if_false]
    omega
  · simp only [if_true]
    omega

theorem magnitude_neg {x : Binary64} (h : x.isFinite = true) : x.neg.magnitude = x.magnitude := by
  have hfinite : x.magnitude < infinityBits := of_decide_eq_true h
  have hsize : infinityBits < Nat.pow 2 63 := by decide
  exact magnitude_ofMagnitude _ (Nat.lt_trans hfinite hsize)

theorem isFinite_neg {x : Binary64} (h : x.isFinite = true) : x.neg.isFinite = true := by
  rw [isFinite, magnitude_neg h]
  exact h

theorem isFinite_of_le {x : Binary64} {k : Nat} (h : x.magnitude ≤ k * Nat.pow 2 52)
    (hk : k < 2047) : x.isFinite = true := by
  refine decide_eq_true (Nat.lt_of_le_of_lt h ?_)
  exact Nat.mul_lt_mul_of_pos_right hk (pow_two_pos 52)

/-! ## §2 Ratios -/

/-- The place of the last bit that a ratio keeps, in units of `2 ^ -1074`. -/
def ratioScale (num den : Nat) : Nat :=
  Nat.log2 (num * Nat.pow 2 1074 / den) - 52

theorem magnitude_ofRatio (negative : Bool) (num den : Nat) :
    (ofRatio negative num den).magnitude =
      min (divNearestEven (num * Nat.pow 2 1074) (den * Nat.pow 2 (ratioScale num den)) +
        ratioScale num den * Nat.pow 2 52) infinityBits := by
  have hsize : infinityBits < Nat.pow 2 63 := by decide
  exact magnitude_ofMagnitude negative (Nat.lt_of_le_of_lt (Nat.min_le_right _ _) hsize)

theorem two_pow_add (a b : Nat) : Nat.pow 2 (a + b) = Nat.pow 2 a * Nat.pow 2 b :=
  Nat.pow_add 2 a b

/-- The bits that a ratio keeps are at most 53. -/
theorem ratio_div_lt (num den : Nat) :
    num * Nat.pow 2 1074 / (den * Nat.pow 2 (ratioScale num den)) < Nat.pow 2 53 := by
  rw [← Nat.div_div_eq_div_mul, ratioScale]
  generalize num * Nat.pow 2 1074 / den = n
  have hlog : n < Nat.pow 2 (Nat.log2 n + 1) := Nat.lt_log2_self
  refine Nat.div_lt_of_lt_mul (Nat.lt_of_lt_of_le hlog ?_)
  rw [← two_pow_add]
  exact Nat.pow_le_pow_right (by decide) (by omega)

/-- **A ratio below a power of two has bits below that power's.** -/
theorem magnitude_ofRatio_le (negative : Bool) {num den k : Nat}
    (h : num < den * Nat.pow 2 k) :
    (ofRatio negative num den).magnitude ≤ (1023 + k) * Nat.pow 2 52 := by
  have hscale : ratioScale num den ≤ 1021 + k := by
    have hlt : num * Nat.pow 2 1074 / den < Nat.pow 2 (k + 1074) := by
      refine Nat.div_lt_of_lt_mul ?_
      rw [two_pow_add, ← Nat.mul_assoc]
      exact Nat.mul_lt_mul_of_pos_right h (pow_two_pos 1074)
    unfold ratioScale
    generalize num * Nat.pow 2 1074 / den = n at hlt
    by_cases hzero : n = 0
    · rw [hzero]
      exact Nat.zero_le _
    · have hlog : Nat.log2 n < k + 1074 := (Nat.log2_lt hzero).mpr hlt
      omega
  have hquotient := ratio_div_lt num den
  rw [magnitude_ofRatio]
  generalize ratioScale num den = scale at hscale hquotient
  have hround : divNearestEven (num * Nat.pow 2 1074) (den * Nat.pow 2 scale) ≤ Nat.pow 2 53 := by
    rcases divNearestEven_cases (num * Nat.pow 2 1074) (den * Nat.pow 2 scale) with heq | heq
    · rw [heq]
      exact Nat.le_of_lt hquotient
    · rw [heq]
      exact hquotient
  have hsum : (1023 + k) * Nat.pow 2 52 = Nat.pow 2 53 + (1021 + k) * Nat.pow 2 52 := by
    rw [show 1023 + k = 2 + (1021 + k) by omega, Nat.add_mul]
  refine Nat.le_trans (Nat.min_le_left _ _) ?_
  rw [hsum]
  exact Nat.add_le_add hround (Nat.mul_le_mul_right _ hscale)

/-- **A ratio that is not below one** has at least the bits of one. -/
theorem le_magnitude_ofRatio (negative : Bool) {num den : Nat} (hden : 0 < den)
    (h : den ≤ num) : 1023 * Nat.pow 2 52 ≤ (ofRatio negative num den).magnitude := by
  have hn : Nat.pow 2 1074 ≤ num * Nat.pow 2 1074 / den := by
    rw [Nat.le_div_iff_mul_le hden, Nat.mul_comm]
    exact Nat.mul_le_mul_right _ h
  have hlog : 1074 ≤ Nat.log2 (num * Nat.pow 2 1074 / den) := by
    generalize num * Nat.pow 2 1074 / den = n at hn
    have hne : n ≠ 0 := fun hzero => absurd (pow_two_pos 1074) (by omega)
    exact (Nat.le_log2 hne).mpr hn
  have hquotient : Nat.pow 2 52 ≤
      num * Nat.pow 2 1074 / (den * Nat.pow 2 (ratioScale num den)) := by
    rw [← Nat.div_div_eq_div_mul, ratioScale]
    generalize num * Nat.pow 2 1074 / den = n at hn hlog
    have hne : n ≠ 0 := fun hzero => absurd (pow_two_pos 1074) (by omega)
    rw [Nat.le_div_iff_mul_le (pow_two_pos _), ← two_pow_add]
    have hself : Nat.pow 2 (Nat.log2 n) ≤ n := Nat.log2_self_le hne
    rwa [show 52 + (Nat.log2 n - 52) = Nat.log2 n by omega]
  have hscale : 1022 ≤ ratioScale num den := by
    unfold ratioScale
    omega
  rw [magnitude_ofRatio]
  generalize ratioScale num den = scale at hscale hquotient
  refine Nat.le_min.mpr ⟨?_, by decide⟩
  have hround : num * Nat.pow 2 1074 / (den * Nat.pow 2 scale) ≤
      divNearestEven (num * Nat.pow 2 1074) (den * Nat.pow 2 scale) := by
    rcases divNearestEven_cases (num * Nat.pow 2 1074) (den * Nat.pow 2 scale) with heq | heq
    · rw [heq]
    · rw [heq]
      exact Nat.le_succ _
  have hsum : 1023 * Nat.pow 2 52 = Nat.pow 2 52 + 1022 * Nat.pow 2 52 := by decide
  rw [hsum]
  exact Nat.add_le_add (Nat.le_trans hquotient hround) (Nat.mul_le_mul_right _ hscale)

/-! ## §3 Dividing -/

theorem units_lt {x : Binary64} {k : Nat} (h : x.magnitude ≤ k * Nat.pow 2 52) :
    x.units < Nat.pow 2 (53 + k) := by
  have hscale : x.scale ≤ k := by
    have hdiv : x.magnitude / Nat.pow 2 52 ≤ k :=
      Nat.div_le_of_le_mul (Nat.mul_comm k _ ▸ h)
    exact Nat.le_trans (Nat.sub_le _ 1) hdiv
  have hsignificand : x.significand < Nat.pow 2 53 := significandAt_lt x.magnitude
  rw [two_pow_add]
  refine Nat.lt_of_lt_of_le (Nat.mul_lt_mul_of_pos_right hsignificand (pow_two_pos x.scale)) ?_
  exact Nat.mul_le_mul_left _ (Nat.pow_le_pow_right (by decide) hscale)

theorem le_units {x : Binary64} (h : 1023 * Nat.pow 2 52 ≤ x.magnitude) :
    Nat.pow 2 1074 ≤ x.units := by
  have hdiv : 1023 ≤ x.magnitude / Nat.pow 2 52 :=
    (Nat.le_div_iff_mul_le (pow_two_pos 52)).mpr h
  have hsignificand : Nat.pow 2 52 ≤ x.significand := by
    rw [significand, if_neg (by omega)]
    exact Nat.le_add_right _ _
  have hscale : Nat.pow 2 1022 ≤ Nat.pow 2 x.scale := by
    refine Nat.pow_le_pow_right (by decide) ?_
    unfold scale
    omega
  rw [show 1074 = 52 + 1022 from rfl, two_pow_add]
  exact Nat.mul_le_mul hsignificand hscale

/-- **Dividing by a number that is not below one** moves the bits by little. -/
theorem magnitude_div_le {x y : Binary64} {k : Nat} (hx : x.magnitude ≤ k * Nat.pow 2 52)
    (hk : 1021 ≤ k) (hy : 1023 * Nat.pow 2 52 ≤ y.magnitude) :
    (x.div y).magnitude ≤ (k + 2) * Nat.pow 2 52 := by
  have hunits := le_units hy
  have hlt : x.units < y.units * Nat.pow 2 (k - 1021) := by
    refine Nat.lt_of_lt_of_le (units_lt hx) ?_
    rw [show 53 + k = 1074 + (k - 1021) by omega, two_pow_add]
    exact Nat.mul_le_mul_right _ hunits
  have hbound := magnitude_ofRatio_le (x.isNegative != y.isNegative) hlt
  rwa [show 1023 + (k - 1021) = k + 2 by omega] at hbound

end TrackingPlan.Binary64
