import TrackingPlan.Bindings.Token
import TrackingPlan.Proofs.Binary64.Rounding
import TrackingPlan.Proofs.Binary64.Text

/-!
# Numerals of the emitted code and their values

A numeral is a minus sign that stands apart or none, the digits, and the type of the number.  Its
value is read off the text by the rules of the emitted language (`NumeralValue`): an integer is the
value of its digits, and a number in double precision is the finite one whose rounding interval the
written decimal lies in.  A text has at most one value (`NumeralValue.unique`), and what is written
for an integer or a finite number has it as its value.

§1 decimals without an exponent · §2 numerals · §3 what is written.
-/

namespace TrackingPlan

open Binary64 (Within unitsOfOne)

/-! ## §1 Decimals without an exponent -/

/-- **All digits stand in place**: some in front, and perhaps some after a point. -/
structure WrittenDecimal.InPlace (w : WrittenDecimal) : Prop where
  whole : ∀ c ∈ w.whole, c.isDigit = true
  nonempty : w.whole ≠ []
  fraction : ∀ c ∈ w.fraction.getD [], c.isDigit = true
  power : w.power = none

theorem WrittenDecimal.WellFormed.inPlace {w : WrittenDecimal} (h : w.WellFormed)
    (hpower : w.power = none) : w.InPlace :=
  ⟨h.whole, h.nonempty, h.fraction, hpower⟩

namespace DecimalStyle

/-- **Without an exponent, too, what is written stands for the decimal.** -/
theorem format_plain (d : Decimal) : ∃ w : WrittenDecimal,
    (plain.format d).toList = w.chars ∧ w.InPlace ∧ w.value = d.value := by
  obtain ⟨n, e⟩ := d
  have hdigit : ∀ c ∈ (toString n).toList, c.isDigit = true := fun c => isDigit_of_mem_toString
  have hvalue : digitsValue (toString n).toList = n := digitsValue_toString n
  have hnonempty : (toString n).toList ≠ [] := by
    rw [toList_toString_nat]
    exact Nat.toDigits_ne_nil
  have hpositional : ∀ place, plain.isPositional place = true := fun _ => rfl
  unfold format Decimal.value
  simp only [← String.length_toList, hpositional, if_true]
  generalize toString n = text at hdigit hvalue hnonempty ⊢
  rw [← hvalue]
  split
  · rename_i he
    refine ⟨⟨text.toList ++ List.replicate e.toNat '0', none, none⟩, ?_, ⟨?_, ?_, ?_, rfl⟩, ?_⟩
    · simp [WrittenDecimal.chars, WrittenDecimal.pointed, WrittenDecimal.powered, plain,
        toList_pushn]
    · intro c hc
      rcases List.mem_append.mp hc with hmem | hzero
      · exact hdigit c hmem
      · obtain rfl := List.eq_of_mem_replicate hzero
        decide
    · intro hnil
      exact hnonempty (List.append_eq_nil_iff.mp hnil).1
    · intro c hc
      exact absurd hc List.not_mem_nil
    · have hpower : (10 : ℚ) ^ e.toNat = (10 : ℚ) ^ e := by
        rw [← zpow_natCast, Int.toNat_of_nonneg he]
      simp only [WrittenDecimal.value, Option.getD_none, List.append_nil, digitsValue_shift,
        Nat.cast_mul, Nat.cast_pow, Nat.cast_ofNat, hpower, List.length_nil, Nat.cast_zero,
        sub_zero, zpow_zero, mul_one]
  · split
    · rename_i he hplace
      obtain ⟨hw, hv⟩ := wellFormed_between hdigit (by omega)
        (Int.toNat_of_nonneg hplace.le) none (by omega)
      refine ⟨_, ?_, hw.inPlace rfl, hv.trans (by rw [Option.getD_none, zero_add])⟩
      simp [WrittenDecimal.chars, WrittenDecimal.pointed, WrittenDecimal.powered]
    · rename_i he hplace
      obtain ⟨hw, hv⟩ := wellFormed_below hdigit
        (Int.toNat_of_nonneg (by omega : 0 ≤ -(text.toList.length + e)))
      refine ⟨_, ?_, hw.inPlace rfl, hv⟩
      simp [WrittenDecimal.chars, WrittenDecimal.pointed, WrittenDecimal.powered, toList_pushn]

end DecimalStyle

/-- **The shortest decimal of a finite number rounds to it**, also if the number is zero. -/
theorem Binary64.within_shortest {x : Binary64} (hx : x.isFinite = true) :
    Within x.magnitude (x.shortest.value * unitsOfOne) := by
  rcases Nat.eq_zero_or_pos x.magnitude with hzero | hpos
  · have hvalue : x.shortest.value = 0 := by
      rw [shortest, if_pos (magnitude_eq_zero_iff.mp hzero), Decimal.value, Nat.cast_zero, zero_mul]
    have heven : significandAt 0 % 2 = 0 := rfl
    have hlow : lowAt 0 = 0 := rfl
    rw [hzero, hvalue, zero_mul, Within, if_pos heven, hlow]
    exact ⟨le_of_eq Nat.cast_zero, Nat.cast_nonneg _⟩
  · exact value_shortest hpos (of_decide_eq_true hx)

namespace Bindings

/-! ## §2 Numerals -/

/-- The characters of a numeral: its sign, its digits and its type. -/
def numeral (negative : Bool) (digits : List Char) (type : String) : List Char :=
  (if negative then ['-', ' '] else []) ++ digits ++ type.toList

/-- The digits come first, so a sign does not pass for one of them. -/
def BeginsWithDigit (digits : List Char) : Prop :=
  digits.head?.any (·.isDigit) = true

/-- **A numeral is taken apart in one way.** -/
theorem numeral_inj {negative negative' : Bool} {digits digits' : List Char} {type type' : String}
    (hdigits : BeginsWithDigit digits) (hdigits' : BeginsWithDigit digits')
    (htype : type.toList.length = type'.toList.length)
    (h : numeral negative digits type = numeral negative' digits' type') :
    negative = negative' ∧ digits = digits' ∧ type = type' := by
  have hsign : ∀ {ds rest : List Char}, BeginsWithDigit ds → ds ++ rest ≠ '-' :: ' ' :: rest := by
    intro ds rest hds heq
    cases ds with
    | nil => cases hds
    | cons c ds =>
      obtain ⟨rfl, -⟩ := List.cons.inj heq
      exact absurd hds (by simp [BeginsWithDigit])
  have hhead : ∀ {ds : List Char} (rest : List Char), BeginsWithDigit ds →
      ∃ c cs, ds ++ rest = c :: cs ∧ c ≠ '-' := by
    intro ds rest hds
    cases ds with
    | nil => cases hds
    | cons c ds =>
      refine ⟨c, ds ++ rest, rfl, ?_⟩
      rintro rfl
      exact absurd hds (by simp [BeginsWithDigit])
  have hrest : negative = negative' ∧ digits ++ type.toList = digits' ++ type'.toList := by
    obtain ⟨c, cs, hc, hne⟩ := hhead type.toList hdigits
    obtain ⟨c', cs', hc', hne'⟩ := hhead type'.toList hdigits'
    unfold numeral at h
    rw [List.append_assoc, List.append_assoc, hc, hc'] at h
    cases negative with
    | true =>
      cases negative' with
      | true => exact ⟨rfl, by rw [hc, hc']; simpa using h⟩
      | false => exact absurd (List.cons.inj h).1.symm hne'
    | false =>
      cases negative' with
      | true => exact absurd (List.cons.inj h).1 hne
      | false => exact ⟨rfl, by rw [hc, hc']; simpa using h⟩
  obtain ⟨hnegative, happend⟩ := hrest
  obtain ⟨hds, htypes⟩ := List.append_inj' happend htype
  exact ⟨hnegative, hds, String.toList_inj.mp htypes⟩

/-- **The JSON number that a numeral stands for.**  A decimal stands for the finite number in whose
rounding interval it lies. -/
inductive NumeralValue : List Char → Json → Prop
  | integer {cs digits : List Char} {negative : Bool} {i : Int} :
      cs = numeral negative digits "i64" → digits ≠ [] → (∀ c ∈ digits, c.isDigit = true) →
      i = (if negative then -(digitsValue digits : Int) else digitsValue digits) →
      Int64.minValue.toInt ≤ i → i ≤ Int64.maxValue.toInt →
      NumeralValue cs (.number (.integer i))
  | float {cs : List Char} {w : WrittenDecimal} {x : Binary64} :
      cs = numeral x.isNegative w.chars "f64" → w.InPlace → x.isFinite = true →
      Within x.magnitude (w.value * unitsOfOne) → NumeralValue cs (.number (.float x))

theorem beginsWithDigit_of_digits {digits : List Char} (hne : digits ≠ [])
    (h : ∀ c ∈ digits, c.isDigit = true) (rest : List Char) : BeginsWithDigit (digits ++ rest) := by
  cases digits with
  | nil => exact absurd rfl hne
  | cons c ds => exact h c List.mem_cons_self

theorem beginsWithDigit_chars {w : WrittenDecimal} (h : w.InPlace) : BeginsWithDigit w.chars := by
  unfold WrittenDecimal.chars
  rw [List.append_assoc]
  exact beginsWithDigit_of_digits h.nonempty h.whole _

/-- **A text stands for one number at most.** -/
theorem NumeralValue.unique {cs : List Char} {j k : Json} (h : NumeralValue cs j)
    (h' : NumeralValue cs k) : j = k := by
  have hlength : "i64".toList.length = "f64".toList.length := rfl
  have htypes : "i64" ≠ "f64" := by decide
  cases h with
  | integer hcs hne hdigits hi _ _ =>
    have hbegins := beginsWithDigit_of_digits hne hdigits []
    rw [List.append_nil] at hbegins
    cases h' with
    | integer hcs' hne' hdigits' hi' _ _ =>
      have hbegins' := beginsWithDigit_of_digits hne' hdigits' []
      rw [List.append_nil] at hbegins'
      obtain ⟨rfl, rfl, -⟩ := numeral_inj hbegins hbegins' rfl (hcs.symm.trans hcs')
      rw [hi, hi']
    | float hcs' hw _ _ =>
      obtain ⟨-, -, htype⟩ :=
        numeral_inj hbegins (beginsWithDigit_chars hw) hlength (hcs.symm.trans hcs')
      exact absurd htype htypes
  | @float w _ hcs hw hx hwithin =>
    cases h' with
    | integer hcs' hne' hdigits' _ _ _ =>
      have hbegins' := beginsWithDigit_of_digits hne' hdigits' []
      rw [List.append_nil] at hbegins'
      obtain ⟨-, -, htype⟩ :=
        numeral_inj (beginsWithDigit_chars hw) hbegins' hlength.symm (hcs.symm.trans hcs')
      exact absurd htype.symm htypes
    | @float w' _ hcs' hw' hx' hwithin' =>
      obtain ⟨hsign, hchars, -⟩ := numeral_inj (beginsWithDigit_chars hw)
        (beginsWithDigit_chars hw') rfl (hcs.symm.trans hcs')
      -- one text has one value, and no two rounding intervals meet
      have hvalue : w.value = w'.value := by
        rw [← WrittenDecimal.readDecimal_of_digits hw.whole hw.fraction, hchars,
          WrittenDecimal.readDecimal_of_digits hw'.whole hw'.fraction]
      rw [hvalue] at hwithin
      rw [Binary64.eq_of_magnitude_eq (Binary64.within_unique hwithin hwithin') hsign]

/-! ## §3 What is written -/

theorem toList_signed (negative : Bool) (digits type : String) :
    (signed negative (digits ++ type)).toList = numeral negative digits.toList type := by
  cases negative with
  | true => simp [signed, numeral]
  | false => simp [signed, numeral]

/-- **A written integer stands for the integer.** -/
theorem numeralValue_int64 (i : Int64) :
    NumeralValue (Token.int64 i).text.toList (Json.ofInt64 i) := by
  have hnegative : decide (i < 0) = true ↔ i.toInt < 0 := by
    rw [decide_eq_true_iff, Int64.lt_iff_toInt_lt]
    rfl
  refine .integer (toList_signed _ _ _) ?_ (fun c => isDigit_of_mem_toString) ?_
    i.minValue_le_toInt i.toInt_le
  · rw [toList_toString_nat]
    exact Nat.toDigits_ne_nil
  · rw [digitsValue_toString]
    split
    · rename_i h
      have hlt := hnegative.mp h
      omega
    · rename_i h
      have hle := mt hnegative.mpr h
      omega

/-- **A written finite number stands for the number.** -/
theorem numeralValue_float64 {x : Binary64} (hx : x.isFinite = true) :
    NumeralValue (Token.float64 x).text.toList (.number (.float x)) := by
  obtain ⟨w, hchars, hw, hvalue⟩ := DecimalStyle.format_plain x.shortest
  refine .float (w := w) ?_ hw hx ?_
  · rw [← hchars]
    exact toList_signed _ _ _
  · rw [hvalue]
    exact Binary64.within_shortest hx

end Bindings

end TrackingPlan
