import TrackingPlan.Schema.TypeName

/-!
# Names of nested objects

An object that is nested in a case is named after the case: the label of the case stands between the
name of the variant and the key, and the whole is trimmed.  Trimming takes away blanks alone, so a
label that is not blank tells the name from that of an object nested in the base of the variant.
-/

namespace TrackingPlan

namespace Text

/-- **The characters of a text that are not blank.** -/
def ink (s : String) : List Char :=
  s.toList.filter (!isBlank ·)

theorem ink_append (s t : String) : ink (s ++ t) = ink s ++ ink t := by
  rw [ink, String.toList_append, List.filter_append]
  rfl

theorem ink_eq_nil_iff {s : String} : ink s = [] ↔ isBlankText s = true := by
  simp only [ink, isBlankText, List.filter_eq_nil_iff, List.all_eq_true, Bool.not_eq_true',
    Bool.not_eq_false]

/-- What is dropped in front is blank. -/
theorem filter_dropWhile_isBlank (cs : List Char) :
    (cs.dropWhile isBlank).filter (!isBlank ·) = cs.filter (!isBlank ·) := by
  induction cs with
  | nil => rfl
  | cons c rest ih =>
    rw [List.dropWhile_cons]
    split
    · rename_i hblank
      rw [ih, List.filter_cons_of_neg (by rw [hblank]; exact Bool.false_ne_true)]
    · rfl

/-- **Trimming takes away blanks alone.** -/
theorem ink_trim (s : String) : ink (trim s) = ink s := by
  rw [ink, trim, String.toList_ofList, trimChars, List.filter_reverse, filter_dropWhile_isBlank,
    List.filter_reverse, List.reverse_reverse, filter_dropWhile_isBlank]
  rfl

end Text

/-- **An object nested in a case has a name of its own**, unless the label of the case is blank. -/
theorem TypeName.nested_caseScope_ne {label : String} (h : Text.isBlankText label = false)
    (owner : TypeName) (key : String) :
    TypeName.nested (owner.caseScope label) key ≠ TypeName.nested owner key := by
  intro hsame
  have hink : Text.ink (TypeName.nested (owner.caseScope label) key).name =
      Text.ink (TypeName.nested owner key).name := by rw [hsame]
  have hspace : Text.ink " " = [] := rfl
  have hlength := congrArg List.length hink
  simp only [nested, caseScope, Text.ink_trim, Text.ink_append, hspace, List.append_nil,
    List.length_append] at hlength
  -- the label is what one name has more than the other, so it has no ink
  have hnone : (Text.ink label).length = 0 := by omega
  have hblank := Text.ink_eq_nil_iff.mp (List.length_eq_zero_iff.mp hnone)
  rw [h] at hblank
  exact Bool.false_ne_true hblank

end TrackingPlan
