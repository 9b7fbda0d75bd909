/-!
# The version of the generator
-/

namespace TrackingPlan

/-- **The version of the generator**, stamped into what it emits when no other is asked for. -/
def generatorVersion : String :=
  "0.4.0"

end TrackingPlan
