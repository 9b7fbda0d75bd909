import TrackingPlan.Binary64.Decimal
import Mathlib.Algebra.Order.Field.Rat
import Mathlib.Order.Monotone.Basic
import Mathlib.Tactic.Linarith

/-!
# Rounding intervals

The intervals of the magnitudes follow one another without gaps: where one ends the next begins
(`highAt_eq_lowAt_succ`).  An end belongs to the magnitude whose significand is even, and next to an
even significand is an odd one, so no real lies in the intervals of two magnitudes
(`within_unique`).

Intervals are in units of `2 ^ -1076`, as in `Binary64.roundingInterval`.
-/

namespace TrackingPlan.Binary64

/-! ## §1 The ends of an interval, by the magnitude -/

/-- The significand of a magnitude. -/
def significandAt (m : Nat) : Nat :=
  if m / Nat.pow 2 52 = 0 then m else Nat.pow 2 52 + m % Nat.pow 2 52

/-- The scale of a magnitude. -/
def scaleAt (m : Nat) : Nat :=
  m / Nat.pow 2 52 - 1

/-- The lower end of the interval of a magnitude. -/
def lowAt (m : Nat) : Nat :=
  (4 * significandAt m - if significandAt m = Nat.pow 2 52 ∧ 0 < scaleAt m then 1 else 2) *
    Nat.pow 2 (scaleAt m)

/-- The upper end. -/
def highAt (m : Nat) : Nat :=
  (4 * significandAt m + 2) * Nat.pow 2 (scaleAt m)

theorem pow_two_pos (k : Nat) : 0 < Nat.pow 2 k :=
  Nat.pow_pos (by decide)

theorem fraction_size : Nat.pow 2 52 = 4503599627370496 := rfl

/-- Below the least normal number the magnitude is the significand. -/
theorem significandAt_of_lt {m : Nat} (h : m < Nat.pow 2 52) : significandAt m = m := by
  rw [significandAt, if_pos (Nat.div_eq_of_lt h)]

/-- From there on it is written in place and fraction. -/
theorem significandAt_add {e f : Nat} (hf : f < Nat.pow 2 52) :
    significandAt ((e + 1) * Nat.pow 2 52 + f) = Nat.pow 2 52 + f := by
  have hdiv : ((e + 1) * Nat.pow 2 52 + f) / Nat.pow 2 52 = e + 1 := by
    rw [fraction_size] at hf ⊢
    omega
  have hmod : ((e + 1) * Nat.pow 2 52 + f) % Nat.pow 2 52 = f := by
    rw [fraction_size] at hf ⊢
    omega
  rw [significandAt, hdiv, hmod, if_neg (Nat.succ_ne_zero e)]

theorem scaleAt_of_lt {m : Nat} (h : m < Nat.pow 2 52) : scaleAt m = 0 := by
  rw [scaleAt, Nat.div_eq_of_lt h]

theorem scaleAt_add {e f : Nat} (hf : f < Nat.pow 2 52) :
    scaleAt ((e + 1) * Nat.pow 2 52 + f) = e := by
  rw [scaleAt]
  rw [fraction_size] at hf ⊢
  omega

/-- Every magnitude is below the least normal number, or has an exponent and a fraction. -/
theorem magnitude_cases (m : Nat) : m < Nat.pow 2 52 ∨
    ∃ e f, f < Nat.pow 2 52 ∧ m = (e + 1) * Nat.pow 2 52 + f := by
  by_cases h : m < Nat.pow 2 52
  · exact .inl h
  · right
    refine ⟨m / Nat.pow 2 52 - 1, m % Nat.pow 2 52, Nat.mod_lt _ (pow_two_pos 52), ?_⟩
    rw [fraction_size] at h ⊢
    omega

theorem significandAt_mod_two (m : Nat) : significandAt m % 2 = m % 2 := by
  rcases magnitude_cases m with h | ⟨e, f, hf, rfl⟩
  · rw [significandAt_of_lt h]
  · rw [significandAt_add hf, fraction_size]
    omega

/-- **Where an interval ends the next one begins.** -/
theorem highAt_eq_lowAt_succ (m : Nat) : highAt m = lowAt (m + 1) := by
  unfold highAt lowAt
  rcases magnitude_cases m with h | ⟨e, f, hf, rfl⟩
  · rw [significandAt_of_lt h, scaleAt_of_lt h]
    by_cases hlast : m + 1 < Nat.pow 2 52
    · rw [significandAt_of_lt hlast, scaleAt_of_lt hlast, if_neg (by omega)]
      congr 1
    · have heq : m + 1 = (0 + 1) * Nat.pow 2 52 + 0 := by omega
      rw [heq, significandAt_add (pow_two_pos 52), scaleAt_add (pow_two_pos 52),
        if_neg (by omega)]
      congr 1
      omega
  · rw [significandAt_add hf, scaleAt_add hf]
    by_cases hlast : f + 1 < Nat.pow 2 52
    · rw [Nat.add_assoc, significandAt_add hlast, scaleAt_add hlast, if_neg (by omega)]
      congr 1
    · -- the fraction is full: the exponent takes the carry, and the unit doubles
      have heq : (e + 1) * Nat.pow 2 52 + f + 1 = (e + 1 + 1) * Nat.pow 2 52 + 0 := by
        rw [Nat.add_mul (e + 1)]
        omega
      have hpow : Nat.pow 2 (e + 1) = 2 * Nat.pow 2 e := Nat.mul_comm ..
      rw [heq, significandAt_add (pow_two_pos 52), scaleAt_add (pow_two_pos 52),
        if_pos ⟨rfl, Nat.succ_pos e⟩, hpow, ← Nat.mul_assoc]
      congr 1
      rw [fraction_size] at hf hlast ⊢
      omega

theorem lowAt_lt_highAt (m : Nat) : lowAt m < highAt m := by
  unfold lowAt highAt
  refine Nat.mul_lt_mul_of_pos_right ?_ (pow_two_pos _)
  split <;> omega

/-- So the lower ends grow with the magnitude. -/
theorem lowAt_strictMono : StrictMono lowAt :=
  strictMono_nat_of_lt_succ fun m => highAt_eq_lowAt_succ m ▸ lowAt_lt_highAt m

/-! ## §2 What lies in an interval -/

/-- **The real rounds to the magnitude**: it lies in its interval, whose ends belong to it if the
significand is even. -/
def Within (m : Nat) (v : ℚ) : Prop :=
  if significandAt m % 2 = 0 then (lowAt m : ℚ) ≤ v ∧ v ≤ highAt m
  else (lowAt m : ℚ) < v ∧ v < highAt m

theorem Within.le {m : Nat} {v : ℚ} (h : Within m v) : (lowAt m : ℚ) ≤ v ∧ v ≤ highAt m := by
  unfold Within at h
  split at h
  · exact h
  · exact ⟨h.1.le, h.2.le⟩

/-- An end belongs to even magnitudes only. -/
theorem Within.even_of_low {m : Nat} (h : Within m (lowAt m)) : m % 2 = 0 := by
  unfold Within at h
  split at h
  · rwa [← significandAt_mod_two]
  · exact absurd h.1 (lt_irrefl _)

theorem Within.even_of_high {m : Nat} (h : Within m (highAt m)) : m % 2 = 0 := by
  unfold Within at h
  split at h
  · rwa [← significandAt_mod_two]
  · exact absurd h.2 (lt_irrefl _)

theorem not_within_of_lt {m n : Nat} (hlt : m < n) {v : ℚ} (hm : Within m v) : ¬Within n v := by
  intro hn
  have hends : (highAt m : ℚ) ≤ lowAt n := by
    rw [highAt_eq_lowAt_succ]
    exact_mod_cast lowAt_strictMono.monotone hlt
  have hhigh : v = highAt m := le_antisymm hm.le.2 (hends.trans hn.le.1)
  have hlow : v = lowAt n := le_antisymm (hm.le.2.trans hends) hn.le.1
  have hsame : lowAt (m + 1) = lowAt n := by
    rw [← highAt_eq_lowAt_succ]
    exact_mod_cast hhigh.symm.trans hlow
  obtain rfl := lowAt_strictMono.injective hsame
  have heven := Within.even_of_high (hhigh ▸ hm)
  have heven' := Within.even_of_low (hlow ▸ hn)
  omega

/-- **No real rounds to two magnitudes.** -/
theorem within_unique {m n : Nat} {v : ℚ} (hm : Within m v) (hn : Within n v) : m = n := by
  rcases Nat.lt_trichotomy m n with hlt | heq | hgt
  · exact absurd hn (not_within_of_lt hlt hm)
  · exact heq
  · exact absurd hm (not_within_of_lt hgt hn)

theorem Within.pos {m : Nat} (hm : 0 < m) {v : ℚ} (h : Within m v) : 0 < v := by
  have hlow : 0 < lowAt m := Nat.lt_of_le_of_lt (Nat.zero_le _) (lowAt_strictMono hm)
  have hcast : (0 : ℚ) < lowAt m := by exact_mod_cast hlow
  exact hcast.trans_le h.le.1

end TrackingPlan.Binary64
