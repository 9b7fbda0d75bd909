import TrackingPlan.Client.Basic

/-!
# A client that records its calls
-/

namespace TrackingPlan.Client

/-- **A call as it was received**, its context merged. -/
structure RecordedCall where
  kind : CallKind
  target : String
  category : Option String
  payload : Json.Object
  context : Json.Object
  contextTraits : Option Json.Object

/-- **The calls received so far**, in order. -/
structure Recording where
  calls : List RecordedCall := []

namespace Recording

/-- Receives a call. -/
def record (r : Recording) (c : Call) : Recording :=
  ⟨r.calls ++ [⟨c.kind, c.target, c.category?, c.payload, c.options.mergedContext,
    c.options.contextTraits⟩]⟩

/-- The call received last. -/
def last? (r : Recording) : Option RecordedCall :=
  r.calls.getLast?

/-- A recording without calls. -/
def cleared : Recording :=
  {}

end Recording

end TrackingPlan.Client
