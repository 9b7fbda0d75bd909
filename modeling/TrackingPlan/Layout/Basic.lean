import TrackingPlan.Schema.Routing

/-!
# Layouts — how values of the named types are written as JSON

Every record, enumeration and variant of a model has a flat layout: which keys come out, in which
order, and how each value is written.  Values of other named types are written by looking their
layout up under the type's id.

- fields come out in declaration order
- an absent optional field is left out, never written as `null`
- a tagged case writes its literal under the discriminator key, last
- the default case writes the discriminator value that the caller supplies, last
- a case for bare values writes the bare value
-/

namespace TrackingPlan

/-- **How a value is written**: as a scalar, item by item, by the layout of a named type, or as it
is. -/
inductive ValueLayout where
  | scalar (kind : ScalarKind)
  | array (item : ValueLayout)
  | named (id : String)
  | untyped (kind : UntypedKind)
deriving DecidableEq

/-- One key of an object. -/
structure FieldLayout where
  key : String
  required : Bool
  value : ValueLayout
deriving DecidableEq

/-- **Where the value of a discriminator comes from**: the tag of the case, or the caller. -/
inductive DiscriminatorSlot where
  | fixed (tag : Literal)
  | supplied (value : ValueLayout)
deriving DecidableEq

/-- **How a case is written**: as an object with the discriminator last, or as the bare value. -/
inductive CaseLayout where
  | object (name : String) (fields : List FieldLayout) (key : String) (slot : DiscriminatorSlot)
  | bare (name : String) (kind : ValueKind) (value : ValueLayout)
deriving DecidableEq

/-- The name of the case. -/
def CaseLayout.name : CaseLayout → String
  | .object name _ _ _ => name
  | .bare name _ _ => name

/-- How a record is written. -/
structure RecordLayout where
  name : TypeName
  fields : List FieldLayout

/-- How a variant is written; the variant itself routes values to cases. -/
structure VariantLayout where
  variant : VariantType
  cases : List CaseLayout

/-- The layout of the first case with this name. -/
def VariantLayout.case? (v : VariantLayout) (name : String) : Option CaseLayout :=
  v.cases.find? (·.name == name)

/-- **How a named type is written.**  An enumeration writes the value of the named case. -/
inductive TypeLayout where
  | record (r : RecordLayout)
  | enumeration (name : TypeName) (cases : List EnumCase)
  | variant (v : VariantLayout)

/-- The name of the type. -/
def TypeLayout.name : TypeLayout → TypeName
  | .record r => r.name
  | .enumeration name _ => name
  | .variant v => v.variant.name

/-- **The layouts of a model**, by type id, and what its aliases stand for. -/
structure Layouts where
  types : Entries TypeLayout := []
  aliases : Entries ValueLayout := []

/-- The layout of a named type. -/
def Layouts.find? (ls : Layouts) (name : TypeName) : Option TypeLayout :=
  ls.types.get? name.id

end TrackingPlan
