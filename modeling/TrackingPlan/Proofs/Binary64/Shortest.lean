import TrackingPlan.Proofs.Binary64.Interval
import Mathlib.Algebra.Order.Field.Power
import Mathlib.Data.Rat.Cast.Order
import Mathlib.Tactic.Positivity
import Mathlib.Tactic.Ring

/-!
# The shortest decimal rounds to the number

A decimal is taken from a grid only if it lies within the rounding interval (`value_of_gridPoint?`),
and the finest grid that is tried always has one: its points lie closer together than the interval
is wide (`gridPoint?_finest`).  So the decimal of a finite number other than the zeros rounds to it.
-/

namespace TrackingPlan

/-- The number that a decimal stands for. -/
def Decimal.value (d : Decimal) : ℚ :=
  d.digits * (10 : ℚ) ^ d.exponent

namespace Binary64

/-! ## §1 Points of a grid -/

/-- One, in the unit of the intervals. -/
def unitsOfOne : Nat :=
  Nat.pow 2 1076

/-- The distance of the points of a grid, stretched as the number and its interval are so that all
of them are natural numbers. -/
def gridUnit (p : Int) : Nat :=
  unitsOfOne * Nat.pow 10 p.toNat

/-- By how much they are stretched. -/
def gridStretch (p : Int) : Nat :=
  Nat.pow 10 (-p).toNat

/-- Whether a point of a grid lies in the rounding interval. -/
def isWithin (x : Binary64) (p : Int) (c : Nat) : Bool :=
  if x.significand % 2 = 0 then
    lowAt x.magnitude * gridStretch p ≤ c * gridUnit p ∧
      c * gridUnit p ≤ highAt x.magnitude * gridStretch p
  else
    lowAt x.magnitude * gridStretch p < c * gridUnit p ∧
      c * gridUnit p < highAt x.magnitude * gridStretch p

/-- The point of a grid just below the number. -/
def gridFloor (x : Binary64) (p : Int) : Nat :=
  4 * x.units * gridStretch p / gridUnit p

theorem gridPoint?_eq (x : Binary64) (p : Int) :
    x.gridPoint? p =
      if x.isWithin p (x.gridFloor p) && x.isWithin p (x.gridFloor p + 1) then
        some ⟨divNearestEven (4 * x.units * gridStretch p) (gridUnit p), p⟩
      else if x.isWithin p (x.gridFloor p) then some ⟨x.gridFloor p, p⟩
      else if x.isWithin p (x.gridFloor p + 1) then some ⟨x.gridFloor p + 1, p⟩
      else none := rfl

theorem gridUnit_pos (p : Int) : 0 < gridUnit p :=
  Nat.mul_pos (pow_two_pos 1076) (Nat.pow_pos (by decide))

theorem gridStretch_pos (p : Int) : 0 < gridStretch p :=
  Nat.pow_pos (by decide)

/-- A stretched point is the decimal, in the unit of the intervals. -/
theorem cast_gridPoint (p : Int) (c : Nat) :
    ((c * gridUnit p : Nat) : ℚ) =
      (⟨c, p⟩ : Decimal).value * unitsOfOne * (gridStretch p : Nat) := by
  have hpow : ∀ k : Nat, ((Nat.pow 10 k : Nat) : ℚ) = (10 : ℚ) ^ (k : Int) := by
    intro k
    rw [zpow_natCast, Nat.pow_eq]
    exact Nat.cast_pow 10 k
  have hsplit : ((Nat.pow 10 p.toNat : Nat) : ℚ) =
      (10 : ℚ) ^ p * (Nat.pow 10 (-p).toNat : Nat) := by
    rw [hpow, hpow, ← zpow_add₀ (by norm_num)]
    congr 1
    omega
  rw [gridUnit, gridStretch, Nat.cast_mul, Nat.cast_mul, hsplit, Decimal.value]
  ring

/-- **What the search takes to be within the interval is within it.** -/
theorem isWithin_iff (x : Binary64) (p : Int) (c : Nat) :
    x.isWithin p c = true ↔ Within x.magnitude ((⟨c, p⟩ : Decimal).value * unitsOfOne) := by
  have hpos : (0 : ℚ) < gridStretch p := Nat.cast_pos.mpr (gridStretch_pos p)
  have hle : ∀ n : Nat, n * gridStretch p ≤ c * gridUnit p ↔
      (n : ℚ) ≤ (⟨c, p⟩ : Decimal).value * unitsOfOne := by
    intro n
    rw [← Nat.cast_le (α := ℚ), cast_gridPoint, Nat.cast_mul, mul_le_mul_iff_of_pos_right hpos]
  have hge : ∀ n : Nat, c * gridUnit p ≤ n * gridStretch p ↔
      (⟨c, p⟩ : Decimal).value * unitsOfOne ≤ n := by
    intro n
    rw [← Nat.cast_le (α := ℚ), cast_gridPoint, Nat.cast_mul, mul_le_mul_iff_of_pos_right hpos]
  have hsig : significandAt x.magnitude = x.significand := rfl
  unfold isWithin Within
  rw [hsig]
  by_cases heven : x.significand % 2 = 0
  · rw [if_pos heven, if_pos heven, decide_eq_true_iff, hle, hge]
  · rw [if_neg heven, if_neg heven, decide_eq_true_iff, ← not_le, ← not_le, hle, hge, not_le,
      not_le]

theorem divNearestEven_cases (n d : Nat) :
    divNearestEven n d = n / d ∨ divNearestEven n d = n / d + 1 := by
  unfold divNearestEven
  dsimp only
  split
  · exact .inl rfl
  · split
    · exact .inr rfl
    · split
      · exact .inl rfl
      · exact .inr rfl

/-- **A point that a grid gives rounds to the number.** -/
theorem value_of_gridPoint? {x : Binary64} {p : Int} {d : Decimal}
    (h : x.gridPoint? p = some d) : Within x.magnitude (d.value * unitsOfOne) := by
  rw [gridPoint?_eq] at h
  split at h
  · rename_i hboth
    obtain ⟨hfloor, hnext⟩ := (Bool.and_eq_true _ _).mp hboth
    obtain rfl := Option.some.inj h
    rcases divNearestEven_cases (4 * x.units * gridStretch p) (gridUnit p) with heq | heq
    · rw [heq]
      exact (isWithin_iff x p _).mp hfloor
    · rw [heq]
      exact (isWithin_iff x p _).mp hnext
  · split at h
    · rename_i hfloor
      obtain rfl := Option.some.inj h
      exact (isWithin_iff x p _).mp hfloor
    · split at h
      · rename_i hnext
        obtain rfl := Option.some.inj h
        exact (isWithin_iff x p _).mp hnext
      · cases h

/-! ## §2 The finest grid -/

/-- A thousand is less than `2 ^ 10`. -/
theorem ten_pow_le {p n : Nat} (h : 10 * p ≤ 3 * n) : Nat.pow 10 p ≤ Nat.pow 2 n := by
  have hbase : (10 : Nat) ^ 3 ≤ 2 ^ 10 := by decide
  have hcube : (10 ^ p) ^ 3 ≤ (2 ^ n) ^ 3 :=
    calc (10 ^ p) ^ 3 = (10 ^ 3) ^ p := pow_right_comm 10 p 3
      _ ≤ (2 ^ 10) ^ p := Nat.pow_le_pow_left hbase p
      _ = 2 ^ (10 * p) := (pow_mul 2 10 p).symm
      _ ≤ 2 ^ (n * 3) := Nat.pow_le_pow_right (by decide) (by omega)
      _ = (2 ^ n) ^ 3 := pow_mul 2 n 3
  exact (Nat.pow_le_pow_iff_left (by decide)).mp hcube

/-- And `2 ^ 93` is less than `10 ^ 28`. -/
theorem two_pow_le {q n : Nat} (h : 28 * n ≤ 93 * q) : Nat.pow 2 n ≤ Nat.pow 10 q := by
  have hbase : (2 : Nat) ^ 93 ≤ 10 ^ 28 := by decide
  have hpower : (2 ^ n) ^ 28 ≤ (10 ^ q) ^ 28 :=
    calc (2 ^ n) ^ 28 = 2 ^ (n * 28) := (pow_mul 2 n 28).symm
      _ ≤ 2 ^ (93 * q) := Nat.pow_le_pow_right (by decide) (by omega)
      _ = (2 ^ 93) ^ q := pow_mul 2 93 q
      _ ≤ (10 ^ 28) ^ q := Nat.pow_le_pow_left hbase q
      _ = (10 ^ q) ^ 28 := pow_right_comm 10 28 q
  exact (Nat.pow_le_pow_iff_left (by decide)).mp hpower

theorem significandAt_pos {m : Nat} (h : 0 < m) : 0 < significandAt m := by
  rcases magnitude_cases m with hlt | ⟨e, f, hf, rfl⟩
  · rwa [significandAt_of_lt hlt]
  · rw [significandAt_add hf]
    exact Nat.lt_of_lt_of_le (pow_two_pos 52) (Nat.le_add_right _ f)

theorem significandAt_lt (m : Nat) : significandAt m < Nat.pow 2 53 := by
  have hsize : Nat.pow 2 53 = 2 * Nat.pow 2 52 := rfl
  rcases magnitude_cases m with hlt | ⟨e, f, hf, rfl⟩
  · rw [significandAt_of_lt hlt]
    omega
  · rw [significandAt_add hf]
    omega

theorem scaleAt_le_of_finite {m : Nat} (h : m < infinityBits) : scaleAt m ≤ 2045 := by
  have hbits : infinityBits = 2047 * Nat.pow 2 52 := rfl
  rw [scaleAt]
  rw [hbits, fraction_size] at h
  rw [fraction_size]
  omega

theorem log2_units_le (x : Binary64) (h : 0 < x.magnitude) :
    Nat.log2 x.units ≤ scaleAt x.magnitude + 52 := by
  have hpos : x.units ≠ 0 :=
    (Nat.mul_pos (significandAt_pos h) (pow_two_pos (scaleAt x.magnitude))).ne'
  have hlt : x.units < 2 ^ (53 + scaleAt x.magnitude) := by
    rw [pow_add]
    exact Nat.mul_lt_mul_of_pos_right (significandAt_lt x.magnitude)
      (pow_two_pos (scaleAt x.magnitude))
  have hlog := (Nat.log2_lt hpos).mpr hlt
  omega

/-- A grid is as fine as a power of two, compared with one to the power `n`. -/
theorem two_pow_mul_ten_pow_le {n scale : Nat} {p : Int}
    (hcoarse : 0 ≤ p → n ≤ scale ∧ 10 * p.toNat ≤ 3 * (scale - n))
    (hfine : p < 0 → 28 * (n - scale) ≤ 93 * (-p).toNat) :
    Nat.pow 2 n * Nat.pow 10 p.toNat ≤ Nat.pow 2 scale * Nat.pow 10 (-p).toNat := by
  rcases lt_or_ge p 0 with hneg | hpos
  · have hone : p.toNat = 0 := by omega
    have hten : Nat.pow 2 (n - scale) ≤ Nat.pow 10 (-p).toNat := two_pow_le (hfine hneg)
    calc Nat.pow 2 n * Nat.pow 10 p.toNat = Nat.pow 2 n := by rw [hone]; exact Nat.mul_one _
      _ ≤ Nat.pow 2 (scale + (n - scale)) := Nat.pow_le_pow_right (by decide) (by omega)
      _ = Nat.pow 2 scale * Nat.pow 2 (n - scale) := pow_add 2 scale (n - scale)
      _ ≤ Nat.pow 2 scale * Nat.pow 10 (-p).toNat := Nat.mul_le_mul_left _ hten
  · obtain ⟨hle, hbound⟩ := hcoarse hpos
    have hone : (-p).toNat = 0 := by omega
    have hten : Nat.pow 10 p.toNat ≤ Nat.pow 2 (scale - n) := ten_pow_le hbound
    calc Nat.pow 2 n * Nat.pow 10 p.toNat ≤ Nat.pow 2 n * Nat.pow 2 (scale - n) :=
          Nat.mul_le_mul_left _ hten
      _ = Nat.pow 2 (n + (scale - n)) := (pow_add 2 n (scale - n)).symm
      _ = Nat.pow 2 scale := by rw [Nat.add_sub_cancel' hle]
      _ = Nat.pow 2 scale * Nat.pow 10 (-p).toNat := by rw [hone]; exact (Nat.mul_one _).symm

/-- The points of the finest grid are no further apart than the interval reaches below the
number. -/
theorem gridUnit_finest_le {x : Binary64} (hpos : 0 < x.magnitude)
    (hfinite : x.magnitude < infinityBits) :
    gridUnit (x.decimalTop - 20) ≤
      Nat.pow 2 (scaleAt x.magnitude) * gridStretch (x.decimalTop - 20) := by
  have hlog := log2_units_le x hpos
  have hscale := scaleAt_le_of_finite hfinite
  have htop : x.decimalTop = ((Nat.log2 x.units : Int) - 1073) * 30103 / 100000 + 1 := rfl
  exact two_pow_mul_ten_pow_le (by omega) (by omega)

/-- **The finest grid has a point in the interval**: the one just below the number. -/
theorem isWithin_finest {x : Binary64} (hpos : 0 < x.magnitude)
    (hfinite : x.magnitude < infinityBits) :
    x.isWithin (x.decimalTop - 20) (x.gridFloor (x.decimalTop - 20)) = true := by
  have hunit := gridUnit_finest_le hpos hfinite
  generalize x.decimalTop - 20 = p at hunit ⊢
  have hsig := significandAt_pos hpos
  have hstretch := gridStretch_pos p
  have hfloor : x.gridFloor p * gridUnit p ≤ 4 * x.units * gridStretch p :=
    Nat.div_mul_le_self (4 * x.units * gridStretch p) (gridUnit p)
  have hnext : 4 * x.units * gridStretch p < x.gridFloor p * gridUnit p + gridUnit p := by
    have h := Nat.lt_mul_div_succ (4 * x.units * gridStretch p) (gridUnit_pos p)
    rw [← gridFloor, Nat.mul_add, Nat.mul_one, Nat.mul_comm (gridUnit p)] at h
    exact h
  -- the interval reaches at least one unit in the last place below the number, and above it
  have hlow : lowAt x.magnitude + Nat.pow 2 (scaleAt x.magnitude) ≤ 4 * x.units := by
    have hunits : 4 * x.units = 4 * significandAt x.magnitude * Nat.pow 2 (scaleAt x.magnitude) :=
      (Nat.mul_assoc ..).symm
    rw [hunits, lowAt, ← Nat.succ_mul]
    refine Nat.mul_le_mul_right _ ?_
    split <;> omega
  have hhigh : 4 * x.units < highAt x.magnitude := by
    have hunits : 4 * x.units = 4 * significandAt x.magnitude * Nat.pow 2 (scaleAt x.magnitude) :=
      (Nat.mul_assoc ..).symm
    rw [hunits, highAt]
    exact Nat.mul_lt_mul_of_pos_right (by omega) (pow_two_pos _)
  have hbelow : lowAt x.magnitude * gridStretch p < x.gridFloor p * gridUnit p := by
    have hle := Nat.mul_le_mul_right (gridStretch p) hlow
    rw [Nat.add_mul] at hle
    omega
  have habove : x.gridFloor p * gridUnit p < highAt x.magnitude * gridStretch p :=
    Nat.lt_of_le_of_lt hfloor (Nat.mul_lt_mul_of_pos_right hhigh hstretch)
  unfold isWithin
  split
  · exact decide_eq_true ⟨hbelow.le, habove.le⟩
  · exact decide_eq_true ⟨hbelow, habove⟩

/-! ## §3 The shortest decimal -/

/-- **The shortest decimal of a finite number rounds to it**, unless the number is zero. -/
theorem value_shortest {x : Binary64} (hpos : 0 < x.magnitude)
    (hfinite : x.magnitude < infinityBits) :
    Within x.magnitude (x.shortest.value * unitsOfOne) := by
  have hzero : x.isZero = false := by simpa [isZero] using hpos.ne'
  have hfinest : (x.gridPoint? (x.decimalTop - (20 : Nat))).isSome = true := by
    have hwithin := isWithin_finest hpos hfinite
    rw [gridPoint?_eq]
    simp only [Nat.cast_ofNat, hwithin, Bool.true_and, if_true]
    split <;> rfl
  rw [shortest, hzero, if_neg Bool.false_ne_true]
  cases hsearch : (List.range 21).findSome? fun (k : Nat) => x.gridPoint? (x.decimalTop - k) with
  | none =>
    have hnone := List.findSome?_eq_none_iff.mp hsearch 20 (by decide)
    rw [hnone] at hfinest
    cases hfinest
  | some d =>
    obtain ⟨k, -, hk⟩ := List.exists_of_findSome?_eq_some hsearch
    exact value_of_gridPoint? hk

end Binary64

end TrackingPlan
