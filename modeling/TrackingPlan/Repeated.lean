/-!
# The first element that repeats

A list whose elements must differ is refused at the first element that stood earlier already.
-/

namespace TrackingPlan

/-- The first element of the list that is in `seen` or stands earlier in the list. -/
def firstRepeatedFrom {α : Type} [BEq α] : List α → List α → Option α
  | _, [] => none
  | seen, x :: rest => if seen.contains x then some x else firstRepeatedFrom (x :: seen) rest

/-- **The first element that stands earlier in the list already.** -/
def firstRepeated? {α : Type} [BEq α] (xs : List α) : Option α :=
  firstRepeatedFrom [] xs

end TrackingPlan
