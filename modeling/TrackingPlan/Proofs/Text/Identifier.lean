import TrackingPlan.Text.Identifier
import Mathlib.Data.List.Chain
import Mathlib.Data.List.TakeWhile

/-!
# What an identifier begins with, it may go on with

One set of characters holds another if each range of the other lies within one of its own.  Since
the ranges stand in order, one walk over both tells (`CharSet.beyond`).
-/

namespace TrackingPlan.Text

namespace CharSet

/-- The ranges that are left of the first set when those within a range of the other are taken off
its front, range by range. -/
def beyond : CharSet → CharSet → CharSet
  | s, [] => s
  | s, q :: others => beyond (s.dropWhile fun r => q.1 ≤ r.1 && r.2 ≤ q.2) others

theorem exists_around {s t : CharSet} (h : s.beyond t = []) {r : Nat × Nat} (hr : r ∈ s) :
    ∃ q ∈ t, q.1 ≤ r.1 ∧ r.2 ≤ q.2 := by
  induction t generalizing s with
  | nil =>
    rw [beyond] at h
    exact absurd (h ▸ hr) List.not_mem_nil
  | cons q others ih =>
    rw [← s.takeWhile_append_dropWhile (p := fun r => q.1 ≤ r.1 && r.2 ≤ q.2)] at hr
    rcases List.mem_append.mp hr with htaken | hleft
    · have hwithin := List.mem_takeWhile_imp htaken
      rw [Bool.and_eq_true, decide_eq_true_iff, decide_eq_true_iff] at hwithin
      exact ⟨q, List.mem_cons_self, hwithin⟩
    · obtain ⟨q', hq', haround⟩ := ih h hleft
      exact ⟨q', List.mem_cons_of_mem _ hq', haround⟩

/-- In ranges that stand in order, the search finds what lies in one of them. -/
theorem containsCode_of_mem {s : CharSet} (hs : s.IsChain fun r q => r.1 ≤ q.1) {r : Nat × Nat}
    (hr : r ∈ s) {n : Nat} (hfirst : r.1 ≤ n) (hlast : n ≤ r.2) : s.containsCode n = true := by
  induction s with
  | nil => exact absurd hr List.not_mem_nil
  | cons q rest ih =>
    obtain ⟨hq, -⟩ := List.pairwise_cons.mp (List.isChain_iff_pairwise.mp hs)
    obtain ⟨first, last⟩ := q
    unfold containsCode
    rcases List.mem_cons.mp hr with rfl | hr
    · rw [if_neg (Nat.not_lt.mpr hfirst), if_pos hlast]
    · -- the ranges before it begin no later, so none of them ends the search
      have hbefore : first ≤ n := (hq r hr).trans hfirst
      rw [if_neg (Nat.not_lt.mpr hbefore)]
      split
      · rfl
      · exact ih hs.tail hr

theorem contains_of_beyond {s t : CharSet} (ht : t.IsChain fun r q => r.1 ≤ q.1)
    (h : s.beyond t = []) {c : Char} (hc : s.contains c = true) : t.contains c = true := by
  obtain ⟨r, hr, hfirst, hlast⟩ := mem_range_of_containsCode hc
  obtain ⟨q, hq, hbegin, hend⟩ := exists_around h hr
  exact containsCode_of_mem ht hq (hbegin.trans hfirst) (hlast.trans hend)

end CharSet

/-- **An identifier may go on with what it may begin with.** -/
theorem isIdentifierContinue_of_isIdentifierStart {c : Char} (h : isIdentifierStart c = true) :
    isIdentifierContinue c = true := by
  rcases (Bool.or_eq_true _ _).mp h with hunderscore | hrange
  · obtain rfl := eq_of_beq hunderscore
    decide
  · exact CharSet.contains_of_beyond (by decide +kernel) (by decide +kernel) hrange

end TrackingPlan.Text
