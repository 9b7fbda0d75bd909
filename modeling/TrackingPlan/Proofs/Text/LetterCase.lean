import TrackingPlan.Text.Lowercase
import TrackingPlan.Text.Numeric
import TrackingPlan.Text.Uppercase
import TrackingPlan.Proofs.Text.Identifier

/-!
# Characters in lower case

A character in lower case may stand in a word (`isAlphanumeric_of_isLowercase`), and is not in upper
case at the same time (`isUppercase_of_isLowercase`).  Both are read off the ranges by one walk over
two sets; for the second the walk asks that no range meets one of the other set
(`CharSet.isApart`).
-/

namespace TrackingPlan.Text

namespace CharSet

/-- Whether no range of the first set meets one of the second: range by range of the second, those
that end before it are taken off the front of the first, and what is left begins after it. -/
def isApart : CharSet → CharSet → Bool
  | _, [] => true
  | s, q :: others =>
    let left := s.dropWhile fun r => r.2 < q.1
    left.head?.all (fun r => q.2 < r.1) && isApart left others

theorem apart_of_isApart {s t : CharSet} (hs : s.IsChain fun r q => r.1 ≤ q.1)
    (ht : t.IsChain fun r q => r.1 ≤ q.1) (h : s.isApart t = true) :
    ∀ r ∈ s, ∀ q ∈ t, r.2 < q.1 ∨ q.2 < r.1 := by
  induction t generalizing s with
  | nil => exact fun r _ q hq => absurd hq List.not_mem_nil
  | cons q others ih =>
    rw [isApart, Bool.and_eq_true] at h
    obtain ⟨hhead, hothers⟩ := h
    obtain ⟨hq, -⟩ := List.pairwise_cons.mp (List.isChain_iff_pairwise.mp ht)
    have hsplit := s.takeWhile_append_dropWhile (p := fun r => r.2 < q.1)
    have hleft : (s.dropWhile fun r => r.2 < q.1).IsChain fun r q => r.1 ≤ q.1 :=
      List.IsChain.suffix hs (List.dropWhile_suffix _)
    intro r hr q' hq'
    rw [← hsplit] at hr
    rcases List.mem_append.mp hr with htaken | hr
    · -- what ends before `q` ends before all that comes after `q`
      have hbefore : r.2 < q.1 := by simpa using List.mem_takeWhile_imp htaken
      rcases List.mem_cons.mp hq' with rfl | hq'
      · exact .inl hbefore
      · exact .inl (hbefore.trans_le (hq q' hq'))
    · rcases List.mem_cons.mp hq' with rfl | hq'
      · -- the first that is left begins after `q`, and the others no earlier
        cases hrest : s.dropWhile fun r => r.2 < q'.1 with
        | nil => exact absurd (hrest ▸ hr) List.not_mem_nil
        | cons first rest =>
          rw [hrest] at hhead hleft hr
          have hfirst : q'.2 < first.1 := by simpa using hhead
          obtain ⟨hrest, -⟩ := List.pairwise_cons.mp (List.isChain_iff_pairwise.mp hleft)
          rcases List.mem_cons.mp hr with rfl | hr
          · exact .inr hfirst
          · exact .inr (hfirst.trans_le (hrest r hr))
      · exact ih hleft (List.IsChain.tail ht) hothers r hr q' hq'

theorem not_contains_of_isApart {s t : CharSet} (hs : s.IsChain fun r q => r.1 ≤ q.1)
    (ht : t.IsChain fun r q => r.1 ≤ q.1) (h : s.isApart t = true) {c : Char}
    (hc : s.contains c = true) : t.contains c = false := by
  obtain ⟨r, hr, hfirst, hlast⟩ := mem_range_of_containsCode hc
  by_contra hcontains
  obtain ⟨q, hq, hbegin, hend⟩ := mem_range_of_containsCode (Bool.not_eq_false _ ▸ hcontains)
  rcases apart_of_isApart hs ht h r hr q hq with hbefore | hafter <;> omega

end CharSet

/-- **What is in lower case may stand in a word.** -/
theorem isAlphanumeric_of_isLowercase {c : Char} (h : isLowercase c = true) :
    isAlphanumeric c = true := by
  have halphabetic : isAlphabetic c = true :=
    CharSet.contains_of_beyond (by decide +kernel) (by decide +kernel) h
  rw [isAlphanumeric, halphabetic, Bool.true_or]

/-- So may what is in upper case. -/
theorem isAlphanumeric_of_isUppercase {c : Char} (h : isUppercase c = true) :
    isAlphanumeric c = true := by
  have halphabetic : isAlphabetic c = true :=
    CharSet.contains_of_beyond (by decide +kernel) (by decide +kernel) h
  rw [isAlphanumeric, halphabetic, Bool.true_or]

/-- **What is in lower case is not in upper case.** -/
theorem isUppercase_of_isLowercase {c : Char} (h : isLowercase c = true) :
    isUppercase c = false :=
  CharSet.not_contains_of_isApart (by decide +kernel) (by decide +kernel) (by decide +kernel) h

end TrackingPlan.Text
