/-!
# Character sets — a Unicode property as the ranges of its code points

A property of characters (alphabetic, upper case, white space, …) is a list of ranges of code
points, first and last of each, in increasing order.  Asking whether a character has the property
walks the ranges once and stops at the first range that begins after it.
-/

namespace TrackingPlan.Text

/-- **A character set**: disjoint ranges of code points, ends included, in increasing order. -/
abbrev CharSet := List (Nat × Nat)

namespace CharSet

/-- Whether the code point `n` lies in one of the ranges.  Ranges stand in increasing order, so a
range that begins after `n` ends the search. -/
def containsCode : CharSet → Nat → Bool
  | [], _ => false
  | (first, last) :: rest, n =>
    if n < first then false else if n ≤ last then true else containsCode rest n

/-- Whether the character lies in the set. -/
def contains (s : CharSet) (c : Char) : Bool :=
  s.containsCode c.toNat

/-- A code point the search finds lies within one of the ranges. -/
theorem mem_range_of_containsCode {s : CharSet} {n : Nat} (h : s.containsCode n = true) :
    ∃ r ∈ s, r.1 ≤ n ∧ n ≤ r.2 := by
  induction s with
  | nil => simp [containsCode] at h
  | cons r rest ih =>
    obtain ⟨first, last⟩ := r
    unfold containsCode at h
    by_cases h₁ : n < first
    · simp [h₁] at h
    · by_cases h₂ : n ≤ last
      · exact ⟨(first, last), List.mem_cons_self, Nat.le_of_not_lt h₁, h₂⟩
      · simp only [h₁, h₂, if_false] at h
        obtain ⟨r, hr, hn⟩ := ih h
        exact ⟨r, List.mem_cons_of_mem _ hr, hn⟩

end CharSet

end TrackingPlan.Text
