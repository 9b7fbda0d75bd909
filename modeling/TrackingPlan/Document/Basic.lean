import TrackingPlan.Schema.Basic

/-!
# Plan documents — a plan as it is written

A document lists custom types, properties and rules by name and in order.  Types are referred to by
a primitive name or as `#/customTypes/NAME`; what a reference stands for is settled only when the
model is built.
-/

namespace TrackingPlan

/-! ## References to types -/

/-- **A reference to a type.** -/
inductive TypeRef where
  | string
  | integer
  | number
  | boolean
  | array
  | object
  | null
  | any
  | custom (name : String)
deriving DecidableEq

namespace TypeRef

/-- What a reference to a custom type begins with. -/
def customMark : String :=
  "#/customTypes/"

/-- The text of a reference. -/
def text : TypeRef → String
  | .string => "string"
  | .integer => "integer"
  | .number => "number"
  | .boolean => "boolean"
  | .array => "array"
  | .object => "object"
  | .null => "null"
  | .any => "any"
  | .custom name => customMark ++ name

/-- The name after the mark of a custom type; it is not empty. -/
def customName? (s : String) : Option String :=
  let mark := customMark.toList
  let cs := s.toList
  if mark.isPrefixOf cs then
    let name := cs.drop mark.length
    if name.isEmpty then none else some (String.ofList name)
  else
    none

/-- **The reference with this text.** -/
def ofText (s : String) : Except SchemaError TypeRef :=
  match s with
  | "string" => .ok .string
  | "integer" => .ok .integer
  | "number" => .ok .number
  | "boolean" => .ok .boolean
  | "array" => .ok .array
  | "object" => .ok .object
  | "null" => .ok .null
  | "any" => .ok .any
  | other =>
    match customName? other with
    | some name => .ok (.custom name)
    | none => .error (.unknownType "type reference" other)

end TypeRef

namespace Document

/-! ## Object schemas -/

mutual
/-- **An object schema**: which properties an object has, and whether it may have others. -/
structure ObjectSchema where
  properties : List (String × PropertyUse)
  additionalProperties : Bool

/-- **The use of a property** in an object schema; an object property may be given a schema of its
own there. -/
structure PropertyUse where
  required : Bool
  schema : Option ObjectSchema
end

/-- The schema of an object without properties. -/
def ObjectSchema.empty : ObjectSchema :=
  ⟨[], false⟩

/-- Whether the schema declares nothing and allows nothing. -/
def ObjectSchema.isClosedEmpty (s : ObjectSchema) : Bool :=
  s.properties.isEmpty && !s.additionalProperties

/-! ## Declarations -/

/-- Constraints on a type: the values it may have. -/
structure TypeConfig where
  values : Option (List Json)

/-- **One case of a variant block**: the values that select it, and the properties it adds. -/
structure Case where
  displayName : String
  matchValues : List Json
  description : Option String
  schema : ObjectSchema

/-- **A variant block**: shapes chosen by a discriminator. -/
structure Variant where
  kind : String
  discriminator : String
  cases : List Case
  defaultSchema : Option ObjectSchema

/-- **A custom type.** -/
structure CustomType where
  description : Option String
  type : TypeRef
  itemType : Option TypeRef
  config : Option TypeConfig
  schema : Option ObjectSchema
  variants : List Variant

/-- **A property.** -/
structure Property where
  description : Option String
  types : List TypeRef
  itemTypes : List TypeRef
  config : Option TypeConfig

/-- **The event** a rule is for. -/
structure Event where
  kind : CallKind
  name : String
  description : Option String

/-- **A rule.** -/
structure Rule where
  event : Event
  part : CallPart
  schema : ObjectSchema
  variants : List Variant

/-- The payload schemas of the rules count as empty when they declare and allow nothing. -/
def Rule.isClosedEmpty (r : Rule) : Bool :=
  r.schema.isClosedEmpty

end Document

/-- **A plan document.** -/
structure Document where
  name : String
  metadata : PlanMetadata
  customTypes : Entries Document.CustomType
  properties : Entries Document.Property
  rules : List Document.Rule

end TrackingPlan
