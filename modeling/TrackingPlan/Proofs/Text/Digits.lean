import Mathlib.Data.Nat.Init

/-!
# Reading decimal digits back

The text of a natural number is its digits, so it tells the number, and it never holds a character
that is no digit.  The text of an integer has a minus sign in front if the integer is negative.
-/

namespace TrackingPlan

/-- The number that a list of decimal digits stands for. -/
def digitsValue (digits : List Char) : Nat :=
  Nat.ofDigitChars 10 digits 0

theorem toList_toString_nat (n : Nat) : (toString n).toList = Nat.toDigits 10 n := by
  rw [Nat.toString_eq_ofList_toDigits, String.toList_ofList]

theorem digitsValue_toString (n : Nat) : digitsValue (toString n).toList = n := by
  rw [digitsValue, toList_toString_nat, Nat.ofDigitChars_ten_toDigits]

theorem isDigit_of_mem_toString {n : Nat} {c : Char} (h : c ∈ (toString n).toList) :
    c.isDigit = true := by
  rw [toList_toString_nat] at h
  exact Nat.isDigit_of_mem_toDigits (by decide) (by decide) h

/-- **The text of a natural number tells the number.** -/
theorem toString_nat_injective {m n : Nat} (h : toString m = toString n) : m = n := by
  rw [← digitsValue_toString m, h, digitsValue_toString]

theorem toList_toString_int (i : Int) :
    (toString i).toList = (if i < 0 then ['-'] else []) ++ (toString i.natAbs).toList := by
  rw [Int.toString_eq_repr, Int.repr_eq_if, Nat.toString_eq_repr]
  by_cases hi : 0 ≤ i
  · rw [if_pos hi, if_neg (by omega), List.nil_append, show i.toNat = i.natAbs by omega]
  · rw [if_neg hi, if_pos (by omega), String.toList_append, show (-i).toNat = i.natAbs by omega]
    rfl

/-- **The text of an integer tells the integer.** -/
theorem toString_int_injective {i j : Int} (h : toString i = toString j) : i = j := by
  have hsign : ∀ n : Nat, '-' ∉ (toString n).toList := fun n hmem =>
    absurd (isDigit_of_mem_toString hmem) (by decide)
  have hneg : ∀ k : Int, '-' ∈ (toString k).toList ↔ k < 0 := by
    intro k
    rw [toList_toString_int, List.mem_append]
    by_cases hk : k < 0
    · simp [hk]
    · simp only [hk, if_false, List.not_mem_nil, hsign, or_self]
  have hlist := congrArg String.toList h
  have hsigns : i < 0 ↔ j < 0 := by rw [← hneg i, ← hneg j, h]
  have habs : i.natAbs = j.natAbs := by
    rw [toList_toString_int, toList_toString_int] at hlist
    simp only [hsigns] at hlist
    exact toString_nat_injective (String.toList_inj.mp (List.append_cancel_left hlist))
  omega

end TrackingPlan
