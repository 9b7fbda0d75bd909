import TrackingPlan.Schema.Type

/-!
# Alternations — what a plan declares before it becomes a variant

A plan lets a value be one of several things in two ways: object shapes, each tagged with literals
of a discriminator key and perhaps one more for all other values; or a list of kinds of bare values.
-/

namespace TrackingPlan

/-- **One tagged shape**: the literals that select it, and the fields it adds. -/
structure TaggedShape where
  displayName : String
  description : Option String
  tags : List Literal
  fields : List Field

/-- **Object shapes chosen by a discriminator**, which is one of the base fields. -/
structure DiscriminatedNode where
  name : TypeName
  description : Option String
  baseFields : List Field
  discriminator : String
  shapes : List TaggedShape
  defaultFields : Option (List Field)

/-- **Bare values chosen by their kind.** -/
structure PrimitiveNode where
  name : TypeName
  description : Option String
  kinds : List ValueKind

/-- **An alternation.** -/
inductive AlternationNode where
  | discriminated (node : DiscriminatedNode)
  | primitive (node : PrimitiveNode)

/-- The name of the variant that the alternation becomes. -/
def AlternationNode.name : AlternationNode → TypeName
  | .discriminated node => node.name
  | .primitive node => node.name

end TrackingPlan
