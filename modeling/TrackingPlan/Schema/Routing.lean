import TrackingPlan.Schema.Type

/-!
# Routing — which case of a variant a value selects

A discriminator value selects the first tagged case with that literal, and the default case when no
tag matches.  A bare value selects the case of its own kind; an integer may fall to the case of
numbers.
-/

namespace TrackingPlan.VariantType

/-- The tagged case with this literal. -/
def taggedCase? (v : VariantType) (value : Literal) : Option VariantCase :=
  v.cases.find? fun c => c.literal?.any (·.equals value)

/-- **The case for a discriminator value.** -/
def route (v : VariantType) (value : Literal) : Except SchemaError VariantCase :=
  match (v.taggedCase? value).or v.defaultCase with
  | some c => .ok c
  | none => .error (.noMatchingCase v.name.name value.text)

/-- The case for a bare scalar: the one of its kind, or else the first that accepts it. -/
def routeScalar? (v : VariantType) (kind : ScalarKind) : Option VariantCase :=
  (v.cases.find? fun c => c.scalarKind? == some kind).or
    (v.cases.find? fun c => c.scalarKind?.any (·.accepts kind))

/-- **The case for a bare value of a kind.** -/
def routeKind? (v : VariantType) : ValueKind → Option VariantCase
  | .scalar kind => v.routeScalar? kind
  | kind => v.cases.find? fun c => c.valueKind? == some kind

end TrackingPlan.VariantType
