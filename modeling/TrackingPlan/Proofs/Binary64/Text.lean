import TrackingPlan.Json.Writer
import TrackingPlan.Proofs.Binary64.Shortest
import TrackingPlan.Proofs.Text.Digits
import Mathlib.Data.List.TakeWhile

/-!
# The JSON text of a number tells the number

The text of a decimal is read back here: digits before and after the point, and a power of ten
(`readDecimal`).  What is read is the decimal's value wherever the point stands
(`readDecimal_format`), the value lies in the rounding interval of the number, and no two intervals
meet; so finite numbers with one text are one number (`toText_injective`).
-/

namespace TrackingPlan

/-! ## §1 Reading a decimal -/

/-- What stands before the first `c`, and what stands after it. -/
def cutAt (c : Char) (cs : List Char) : List Char × List Char :=
  (cs.takeWhile (· != c), (cs.dropWhile (· != c)).drop 1)

theorem cutAt_append {c : Char} {s : List Char} (h : c ∉ s) (t : List Char) :
    cutAt c (s ++ c :: t) = (s, t) := by
  have hall : ∀ d ∈ s, (d != c) = true := fun d hd => by
    simpa using fun heq : d = c => h (heq ▸ hd)
  simp [cutAt, List.takeWhile_append_of_pos hall, List.dropWhile_append_of_pos hall]

theorem cutAt_of_not_mem {c : Char} {s : List Char} (h : c ∉ s) : cutAt c s = (s, []) := by
  have hall : ∀ d ∈ s, (d != c) = true := fun d hd => by
    simpa using fun heq : d = c => h (heq ▸ hd)
  have htake : s.takeWhile (· != c) = s := List.takeWhile_eq_self_iff.mpr hall
  have hdrop : s.dropWhile (· != c) = [] := List.dropWhile_eq_nil_iff.mpr hall
  rw [cutAt, htake, hdrop, List.drop_nil]

/-- A power of ten with its sign. -/
def readPower : List Char → Int
  | '-' :: digits => -(digitsValue digits)
  | _ :: digits => digitsValue digits
  | [] => 0

/-- **The value of a decimal by its text.** -/
def readDecimal (cs : List Char) : ℚ :=
  let (mantissa, power) := cutAt 'e' cs
  let (whole, fraction) := cutAt '.' mantissa
  digitsValue (whole ++ fraction) * (10 : ℚ) ^ (readPower power - fraction.length)

/-! ## §2 How a decimal is written -/

/-- **A written decimal**: digits, perhaps a point with digits after it, perhaps a power of ten. -/
structure WrittenDecimal where
  whole : List Char
  fraction : Option (List Char)
  power : Option Int

namespace WrittenDecimal

/-- The point and the digits after it. -/
def pointed : Option (List Char) → List Char
  | some digits => '.' :: digits
  | none => []

/-- The power of ten. -/
def powered : Option Int → List Char
  | some k => 'e' :: (if k < 0 then '-' else '+') :: (toString k.natAbs).toList
  | none => []

/-- The characters of it. -/
def chars (w : WrittenDecimal) : List Char :=
  w.whole ++ pointed w.fraction ++ powered w.power

/-- **It is a decimal that is no integer in form**: all digits are digits, one stands in front, and
there is a point or a power. -/
structure WellFormed (w : WrittenDecimal) : Prop where
  whole : ∀ c ∈ w.whole, c.isDigit = true
  nonempty : w.whole ≠ []
  fraction : ∀ c ∈ w.fraction.getD [], c.isDigit = true
  marked : w.fraction ≠ none ∨ w.power ≠ none

/-- The number that it stands for. -/
def value (w : WrittenDecimal) : ℚ :=
  digitsValue (w.whole ++ w.fraction.getD []) *
    (10 : ℚ) ^ (w.power.getD 0 - ((w.fraction.getD []).length : Int))

theorem not_mem_of_digits {c : Char} (hc : c.isDigit = false) {cs : List Char}
    (h : ∀ d ∈ cs, d.isDigit = true) : c ∉ cs := fun hmem => by
  rw [h c hmem] at hc
  cases hc

theorem readPower_of_int (k : Int) :
    readPower ((if k < 0 then '-' else '+') :: (toString k.natAbs).toList) = k := by
  by_cases hk : k < 0
  · rw [if_pos hk, readPower, digitsValue_toString]
    omega
  · rw [if_neg hk]
    show (digitsValue (toString k.natAbs).toList : Int) = k
    rw [digitsValue_toString]
    omega

/-- Where digits stand in front of the point and after it, the text tells the value. -/
theorem readDecimal_of_digits {w : WrittenDecimal} (hwhole : ∀ c ∈ w.whole, c.isDigit = true)
    (hfraction : ∀ c ∈ w.fraction.getD [], c.isDigit = true) :
    readDecimal w.chars = w.value := by
  obtain ⟨whole, fraction, power⟩ := w
  have hpoint : '.' ∉ whole := not_mem_of_digits (by decide) hwhole
  have hmark : 'e' ∉ whole := not_mem_of_digits (by decide) hwhole
  have hmark' : 'e' ∉ fraction.getD [] := not_mem_of_digits (by decide) hfraction
  have hmantissa : 'e' ∉ whole ++ pointed fraction := by
    cases fraction with
    | none => simpa [pointed] using hmark
    | some ds => simpa [pointed] using ⟨hmark, hmark'⟩
  have hcut : cutAt '.' (whole ++ pointed fraction) = (whole, fraction.getD []) := by
    cases fraction with
    | none => simpa [pointed] using cutAt_of_not_mem hpoint
    | some ds => exact cutAt_append hpoint ds
  unfold readDecimal chars value
  cases power with
  | none =>
    simp only [powered, List.append_nil, cutAt_of_not_mem hmantissa, hcut, readPower,
      Option.getD_none]
  | some k =>
    simp only [powered, cutAt_append hmantissa, hcut, readPower_of_int, Option.getD_some]

theorem readDecimal_chars {w : WrittenDecimal} (h : w.WellFormed) :
    readDecimal w.chars = w.value :=
  readDecimal_of_digits h.whole h.fraction

end WrittenDecimal

/-! ## §3 What the layout writes -/

namespace DecimalStyle

theorem toList_pushn (c : Char) (n : Nat) : ("".pushn c n).toList = List.replicate n c := by
  rw [String.pushn_eq_repeat_push]
  induction n with
  | zero => rfl
  | succ n ih => rw [Nat.repeat, String.toList_push, ih, List.replicate_succ']

theorem digitsValue_append (ds es : List Char) :
    digitsValue (ds ++ es) = Nat.ofDigitChars 10 es (digitsValue ds) :=
  Nat.ofDigitChars_append 0

theorem digitsValue_zeros (n : Nat) (ds : List Char) :
    digitsValue (List.replicate n '0' ++ ds) = digitsValue ds := by
  rw [digitsValue_append, digitsValue, Nat.ofDigitChars_replicate_zero, Nat.mul_zero, digitsValue]

theorem digitsValue_shift (ds : List Char) (n : Nat) :
    digitsValue (ds ++ List.replicate n '0') = digitsValue ds * 10 ^ n := by
  rw [digitsValue_append, Nat.ofDigitChars_replicate_zero, Nat.mul_comm]

section Layout

variable {ds : List Char} {e : Int}

/-- A whole number takes zeros up to the point, and one after it. -/
theorem wellFormed_whole (hdigit : ∀ c ∈ ds, c.isDigit = true) (hne : ds ≠ []) (he : 0 ≤ e) :
    let w : WrittenDecimal := ⟨ds ++ List.replicate e.toNat '0', some ['0'], none⟩
    w.WellFormed ∧ w.value = digitsValue ds * (10 : ℚ) ^ e := by
  refine ⟨⟨?_, by simp [hne], by simp, .inl (Option.some_ne_none _)⟩, ?_⟩
  · intro c hc
    rcases List.mem_append.mp hc with hmem | hzero
    · exact hdigit c hmem
    · obtain rfl := List.eq_of_mem_replicate hzero
      decide
  · have hdigits : ds ++ List.replicate e.toNat '0' ++ ['0'] =
        ds ++ List.replicate (e.toNat + 1) '0' := by
      rw [List.append_assoc, List.replicate_succ']
    have hpower : ((10 : ℚ) ^ (e.toNat + 1)) * (10 : ℚ) ^ ((0 : Int) - 1) = (10 : ℚ) ^ e := by
      rw [← zpow_natCast, ← zpow_add₀ (by norm_num)]
      congr 1
      omega
    simp only [WrittenDecimal.value, Option.getD_some, Option.getD_none, hdigits, digitsValue_shift,
      List.length_singleton, Nat.cast_mul, Nat.cast_pow, Nat.cast_ofNat, Nat.cast_one, mul_assoc,
      hpower]

/-- The point stands between two digits. -/
theorem wellFormed_between (hdigit : ∀ c ∈ ds, c.isDigit = true) {place : Nat} (hpos : 0 < place)
    (hplace : (place : Int) = ds.length + e) (power : Option Int) (hle : place ≤ ds.length) :
    let w : WrittenDecimal := ⟨ds.take place, some (ds.drop place), power⟩
    w.WellFormed ∧ w.value = digitsValue ds * (10 : ℚ) ^ (power.getD 0 + e) := by
  refine ⟨⟨fun c hc => hdigit c (List.mem_of_mem_take hc), ?_,
    fun c hc => hdigit c (List.mem_of_mem_drop hc), .inl (Option.some_ne_none _)⟩, ?_⟩
  · rw [ne_eq, List.take_eq_nil_iff]
    rintro (hzero | rfl)
    · omega
    · rw [List.length_nil] at hle
      omega
  · have hlength : power.getD 0 - ((ds.drop place).length : Int) = power.getD 0 + e := by
      rw [List.length_drop]
      omega
    simp only [WrittenDecimal.value, Option.getD_some, List.take_append_drop, hlength]

/-- The number is below one: the point goes before zeros. -/
theorem wellFormed_below (hdigit : ∀ c ∈ ds, c.isDigit = true) {zeros : Nat}
    (hzeros : (zeros : Int) = -(ds.length + e)) :
    let w : WrittenDecimal := ⟨['0'], some (List.replicate zeros '0' ++ ds), none⟩
    w.WellFormed ∧ w.value = digitsValue ds * (10 : ℚ) ^ e := by
  refine ⟨⟨by simp, List.cons_ne_nil _ _, ?_, .inl (Option.some_ne_none _)⟩, ?_⟩
  · intro c hc
    rcases List.mem_append.mp hc with hzero | hmem
    · obtain rfl := List.eq_of_mem_replicate hzero
      decide
    · exact hdigit c hmem
  · have hdigits : ['0'] ++ (List.replicate zeros '0' ++ ds) =
        List.replicate (zeros + 1) '0' ++ ds := rfl
    have hlength : (0 : Int) - ((List.replicate zeros '0' ++ ds).length : Int) = e := by
      rw [List.length_append, List.length_replicate]
      omega
    simp only [WrittenDecimal.value, Option.getD_some, Option.getD_none, hdigits, digitsValue_zeros,
      hlength]

/-- One digit before the power of ten needs no point. -/
theorem wellFormed_power (hdigit : ∀ c ∈ ds, c.isDigit = true) (hne : ds ≠ []) (power : Int) :
    let w : WrittenDecimal := ⟨ds, none, some power⟩
    w.WellFormed ∧ w.value = digitsValue ds * (10 : ℚ) ^ power := by
  refine ⟨⟨hdigit, hne, by simp, .inr (Option.some_ne_none _)⟩, ?_⟩
  simp only [WrittenDecimal.value, Option.getD_some, Option.getD_none, List.append_nil,
    List.length_nil, Nat.cast_zero, sub_zero]

end Layout

/-- **What is written is well formed and stands for the decimal**, wherever the point stands. -/
theorem format_json (d : Decimal) : ∃ w : WrittenDecimal,
    (json.format d).toList = w.chars ∧ w.WellFormed ∧ w.value = d.value := by
  obtain ⟨n, e⟩ := d
  have hdigit : ∀ c ∈ (toString n).toList, c.isDigit = true := fun c => isDigit_of_mem_toString
  have hvalue : digitsValue (toString n).toList = n := digitsValue_toString n
  have hnonempty : (toString n).toList ≠ [] := by
    rw [toList_toString_nat]
    exact Nat.toDigits_ne_nil
  unfold format Decimal.value
  simp only [← String.length_toList]
  generalize toString n = text at hdigit hvalue hnonempty ⊢
  rw [← hvalue]
  have hlength : 0 < text.toList.length := List.length_pos_iff.mpr hnonempty
  split
  · split
    · rename_i he
      obtain ⟨hw, hv⟩ := wellFormed_whole hdigit hnonempty he
      refine ⟨_, ?_, hw, hv⟩
      simp [WrittenDecimal.chars, WrittenDecimal.pointed, WrittenDecimal.powered, json,
        toList_pushn]
    · split
      · rename_i he hplace
        obtain ⟨hw, hv⟩ := wellFormed_between hdigit (by omega)
          (Int.toNat_of_nonneg hplace.le) none (by omega)
        refine ⟨_, ?_, hw, hv.trans (by rw [Option.getD_none, zero_add])⟩
        simp [WrittenDecimal.chars, WrittenDecimal.pointed, WrittenDecimal.powered]
      · rename_i he hplace
        obtain ⟨hw, hv⟩ := wellFormed_below hdigit
          (Int.toNat_of_nonneg (by omega : 0 ≤ -(text.toList.length + e)))
        refine ⟨_, ?_, hw, hv⟩
        simp [WrittenDecimal.chars, WrittenDecimal.pointed, WrittenDecimal.powered, toList_pushn]
  · -- one digit stands before the point, so the power is one less than the place
    have hsign : ∀ k : Int, (if k < 0 then "-" else "+").toList =
        [if k < 0 then '-' else '+'] := fun k => by split <;> rfl
    by_cases hone : text.toList.length = 1
    · obtain ⟨hw, hv⟩ := wellFormed_power hdigit hnonempty (text.toList.length + e - 1)
      refine ⟨_, ?_, hw, hv.trans ?_⟩
      · simp only [hone, if_true, String.toList_append, hsign, WrittenDecimal.chars,
          WrittenDecimal.pointed, WrittenDecimal.powered, List.append_nil, List.append_assoc]
        rfl
      · rw [hone]
        congr 2
        omega
    · obtain ⟨hw, hv⟩ := wellFormed_between (e := 1 - (text.toList.length : Int)) hdigit
        Nat.one_pos (by omega) (some (text.toList.length + e - 1)) hlength
      refine ⟨_, ?_, hw, hv.trans ?_⟩
      · simp only [hone, if_false, String.toList_append, hsign, WrittenDecimal.chars,
          WrittenDecimal.pointed, WrittenDecimal.powered, List.append_assoc, String.toList_ofList]
        rfl
      · rw [Option.getD_some]
        congr 2
        omega

/-- **Decimals with one text stand for one number.** -/
theorem value_eq_of_format_eq {d d' : Decimal} (h : json.format d = json.format d') :
    d.value = d'.value := by
  obtain ⟨w, hchars, hw, hv⟩ := format_json d
  obtain ⟨w', hchars', hw', hv'⟩ := format_json d'
  rw [← hv, ← hv', ← WrittenDecimal.readDecimal_chars hw, ← WrittenDecimal.readDecimal_chars hw',
    ← hchars, ← hchars', h]

theorem head_format (d : Decimal) :
    ∃ c rest, (json.format d).toList = c :: rest ∧ c.isDigit = true := by
  obtain ⟨w, hchars, hw, -⟩ := format_json d
  obtain ⟨c, rest, hwhole⟩ := List.exists_cons_of_ne_nil hw.nonempty
  have hdigit : c.isDigit = true := hw.whole c (hwhole ▸ List.mem_cons_self)
  rw [WrittenDecimal.chars, hwhole] at hchars
  exact ⟨c, _, hchars, hdigit⟩

/-- The text shows that the number is not kept as an integer. -/
theorem mark_mem_format (d : Decimal) :
    '.' ∈ (json.format d).toList ∨ 'e' ∈ (json.format d).toList := by
  obtain ⟨w, hchars, hw, -⟩ := format_json d
  rw [hchars, WrittenDecimal.chars]
  rcases hw.marked with hpoint | hpower
  · obtain ⟨ds, hds⟩ := Option.ne_none_iff_exists'.mp hpoint
    exact .inl (by simp [hds, WrittenDecimal.pointed])
  · obtain ⟨k, hk⟩ := Option.ne_none_iff_exists'.mp hpower
    exact .inr (by simp [hk, WrittenDecimal.powered])

end DecimalStyle

/-! ## §4 Numbers -/

namespace Binary64

theorem toText_toList (x : Binary64) :
    (x.toText .json).toList =
      (if x.isNegative then ['-'] else []) ++ (DecimalStyle.json.format x.shortest).toList := by
  rw [toText, String.toList_append]
  split <;> rfl

/-- A text tells its sign, for what comes after the sign begins with a digit. -/
theorem isNegative_iff_head (x : Binary64) :
    x.isNegative = true ↔ (x.toText .json).toList.head? = some '-' := by
  obtain ⟨c, rest, hformat, hdigit⟩ := DecimalStyle.head_format x.shortest
  have hc : c ≠ '-' := by
    rintro rfl
    exact absurd hdigit (by decide)
  rw [toText_toList, hformat]
  cases x.isNegative <;> simp [hc]

theorem magnitude_eq_zero_iff {x : Binary64} : x.magnitude = 0 ↔ x.isZero = true := by
  rw [isZero, beq_iff_eq]

theorem value_shortest_pos {x : Binary64} (hx : x.isFinite = true) (hpos : 0 < x.magnitude) :
    0 < x.shortest.value := by
  have hwithin := value_shortest hpos (of_decide_eq_true hx)
  have hunit : (0 : ℚ) < unitsOfOne := Nat.cast_pos.mpr (pow_two_pos 1076)
  exact pos_of_mul_pos_left (hwithin.pos hpos) hunit.le

/-- **Finite numbers with one text have one magnitude.** -/
theorem magnitude_eq_of_value_eq {x y : Binary64} (hx : x.isFinite = true)
    (hy : y.isFinite = true) (h : x.shortest.value = y.shortest.value) :
    x.magnitude = y.magnitude := by
  have hzero : ∀ z : Binary64, z.magnitude = 0 → z.shortest.value = 0 := by
    intro z hz
    rw [shortest, if_pos (magnitude_eq_zero_iff.mp hz), Decimal.value, Nat.cast_zero, zero_mul]
  rcases Nat.eq_zero_or_pos x.magnitude with hx0 | hxpos
  · rcases Nat.eq_zero_or_pos y.magnitude with hy0 | hypos
    · rw [hx0, hy0]
    · have hpos := value_shortest_pos hy hypos
      rw [← h, hzero x hx0] at hpos
      exact absurd hpos (lt_irrefl _)
  · rcases Nat.eq_zero_or_pos y.magnitude with hy0 | hypos
    · have hpos := value_shortest_pos hx hxpos
      rw [h, hzero y hy0] at hpos
      exact absurd hpos (lt_irrefl _)
    · have hwithin := value_shortest hxpos (of_decide_eq_true hx)
      rw [h] at hwithin
      exact within_unique hwithin (value_shortest hypos (of_decide_eq_true hy))

theorem eq_of_magnitude_eq {x y : Binary64} (hmagnitude : x.magnitude = y.magnitude)
    (hsign : x.isNegative = y.isNegative) : x = y := by
  obtain ⟨a⟩ := x
  obtain ⟨b⟩ := y
  have hsize : Nat.pow 2 63 = 9223372036854775808 := rfl
  have ha := a.toNat_lt
  have hb := b.toNat_lt
  simp only [magnitude, isNegative, hsize, decide_eq_decide] at hmagnitude hsign
  have hbits : a.toNat = b.toNat := by omega
  rw [UInt64.toNat_inj.mp hbits]

/-- **The JSON text of a finite number tells the number**, the sign of a zero included. -/
theorem toText_injective {x y : Binary64} (hx : x.isFinite = true) (hy : y.isFinite = true)
    (h : x.toText .json = y.toText .json) : x = y := by
  have hsign : x.isNegative = y.isNegative := by
    rw [Bool.eq_iff_iff, isNegative_iff_head, isNegative_iff_head, h]
  refine eq_of_magnitude_eq (magnitude_eq_of_value_eq hx hy ?_) hsign
  have hlist := congrArg String.toList h
  rw [toText_toList, toText_toList, hsign] at hlist
  exact DecimalStyle.value_eq_of_format_eq
    (String.toList_inj.mp (List.append_cancel_left hlist))

end Binary64

end TrackingPlan
