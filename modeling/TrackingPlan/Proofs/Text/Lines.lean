import TrackingPlan.Text.Blank
import Mathlib.Data.List.Basic

/-!
# Lines of a text

A line begins where the text does, and after every line feed that something follows; it goes up to
the next feed (`mem_linesFrom_iff`).  Texts that end in a feed keep their lines when more follows
(`linesFrom_append`).
-/

namespace TrackingPlan.Text

/-- What stands before the next line feed. -/
def upToFeed (cs : List Char) : List Char :=
  cs.takeWhile (· != '\n')

theorem upToFeed_feed (cs : List Char) : upToFeed ('\n' :: cs) = [] := by
  simp [upToFeed]

theorem upToFeed_cons {c : Char} (hc : c ≠ '\n') (cs : List Char) :
    upToFeed (c :: cs) = c :: upToFeed cs := by
  simp [upToFeed, hc]

theorem linesFrom_feed (current cs : List Char) :
    linesFrom current ('\n' :: cs) = current.reverse :: linesFrom [] cs := by
  cases current <;> rfl

theorem linesFrom_cons {c : Char} (hc : c ≠ '\n') (current cs : List Char) :
    linesFrom current (c :: cs) = linesFrom (c :: current) cs := by
  cases current <;> simp [linesFrom]

/-- **A line is what a feed or the end cuts off**, at the head of the text or after a feed. -/
theorem mem_linesFrom_iff {line cs : List Char} : ∀ {current : List Char},
    line ∈ linesFrom current cs ↔
      (current.reverse ++ cs ≠ [] ∧ line = current.reverse ++ upToFeed cs) ∨
        ∃ rest, rest ≠ [] ∧ '\n' :: rest <:+ cs ∧ line = upToFeed rest := by
  induction cs with
  | nil =>
    intro current
    cases current with
    | nil => simp [linesFrom]
    | cons c current => simp [linesFrom, upToFeed]
  | cons c cs ih =>
    intro current
    by_cases hc : c = '\n'
    · -- the line that ends here, or one of those after it
      subst hc
      rw [linesFrom_feed, List.mem_cons, ih, upToFeed_feed]
      constructor
      · rintro (rfl | ⟨hne, rfl⟩ | ⟨rest, hne, hsuffix, rfl⟩)
        · exact .inl ⟨by simp, by simp⟩
        · exact .inr ⟨cs, hne, List.suffix_refl _, rfl⟩
        · exact .inr ⟨rest, hne, hsuffix.trans (List.suffix_cons _ _), rfl⟩
      · rintro (⟨-, rfl⟩ | ⟨rest, hne, hsuffix, rfl⟩)
        · exact .inl (by simp)
        · rcases List.suffix_cons_iff.mp hsuffix with heq | hsuffix
          · obtain ⟨-, rfl⟩ := List.cons.inj heq
            exact .inr (.inl ⟨hne, rfl⟩)
          · exact .inr (.inr ⟨rest, hne, hsuffix, rfl⟩)
    · have hsuffix : ∀ rest, '\n' :: rest <:+ c :: cs ↔ '\n' :: rest <:+ cs := by
        intro rest
        rw [List.suffix_cons_iff]
        exact or_iff_right fun heq => hc (List.cons.inj heq).1.symm
      simp only [linesFrom_cons hc, ih, hsuffix, upToFeed_cons hc, List.reverse_cons,
        List.append_assoc, List.singleton_append]

/-- **A text that ends in a line feed keeps its lines**, and what follows has its own. -/
theorem linesFrom_append {cs : List Char} (more : List Char) : ∀ {current : List Char},
    linesFrom current (cs ++ '\n' :: more) =
      linesFrom current (cs ++ ['\n']) ++ linesFrom [] more := by
  induction cs with
  | nil =>
    intro current
    simp [linesFrom_feed, linesFrom]
  | cons c cs ih =>
    intro current
    by_cases hc : c = '\n'
    · subst hc
      simp only [List.cons_append, linesFrom_feed, ih]
    · simp only [List.cons_append, linesFrom_cons hc, ih]

end TrackingPlan.Text
