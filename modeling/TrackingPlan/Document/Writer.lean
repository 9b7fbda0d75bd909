import TrackingPlan.Document.Basic

/-!
# Writing a plan document

Every field is written, in the order it is declared and with `null` for what is absent; only the
link of the metadata and the values of a constraint are left out when absent.
-/

namespace TrackingPlan.Document

/-- A string or `null`. -/
def textJson : Option String → Json
  | none => .null
  | some s => .string s

/-- A list of references to types. -/
def typeRefsJson (refs : List TypeRef) : Json :=
  .array (refs.map fun r => .string r.text)

mutual
/-- An object schema. -/
def ObjectSchema.toJson : ObjectSchema → Json
  | ⟨properties, additional⟩ =>
    .object [("properties", .object (usesJson properties)),
      ("additionalProperties", .bool additional)]
termination_by structural s => s

/-- The uses of properties in an object schema. -/
def usesJson : List (String × PropertyUse) → List (String × Json)
  | [] => []
  | (key, ⟨isRequired, schema⟩) :: rest =>
    (key, .object [("required", .bool isRequired), ("schema", optionalSchemaJson schema)]) ::
      usesJson rest
termination_by structural us => us

/-- An object schema or `null`. -/
def optionalSchemaJson : Option ObjectSchema → Json
  | none => .null
  | some s => s.toJson
termination_by structural s => s
end

/-- Constraints on a type. -/
def TypeConfig.toJson (c : TypeConfig) : Json :=
  .object (c.values.toList.map fun values => ("enum", .array values))

/-- Constraints on a type or `null`. -/
def optionalConfigJson : Option TypeConfig → Json
  | none => .null
  | some c => c.toJson

/-- One case of a variant block. -/
def Case.toJson (c : Case) : Json :=
  .object [
    ("displayName", .string c.displayName),
    ("match", .array c.matchValues),
    ("description", textJson c.description),
    ("schema", c.schema.toJson)]

/-- A variant block. -/
def Variant.toJson (v : Variant) : Json :=
  .object [
    ("type", .string v.kind),
    ("discriminator", .string v.discriminator),
    ("cases", .array (v.cases.map Case.toJson)),
    ("defaultSchema", optionalSchemaJson v.defaultSchema)]

/-- A custom type. -/
def CustomType.toJson (t : CustomType) : Json :=
  .object [
    ("description", textJson t.description),
    ("type", .string t.type.text),
    ("itemType", textJson (t.itemType.map TypeRef.text)),
    ("config", optionalConfigJson t.config),
    ("schema", optionalSchemaJson t.schema),
    ("variants", .array (t.variants.map Variant.toJson))]

/-- A property. -/
def Property.toJson (p : Property) : Json :=
  .object [
    ("description", textJson p.description),
    ("type", typeRefsJson p.types),
    ("itemTypes", typeRefsJson p.itemTypes),
    ("config", optionalConfigJson p.config)]

/-- The event of a rule. -/
def Event.toJson (e : Event) : Json :=
  .object [
    ("eventType", .string e.kind.text),
    ("name", .string e.name),
    ("description", textJson e.description)]

/-- A rule. -/
def Rule.toJson (r : Rule) : Json :=
  .object [
    ("event", r.event.toJson),
    ("section", .string r.part.text),
    ("schema", r.schema.toJson),
    ("variants", .array (r.variants.map Variant.toJson))]

end TrackingPlan.Document

namespace TrackingPlan

/-- Where a plan comes from. -/
def PlanMetadata.toJson (m : PlanMetadata) : Json :=
  .object ([
    ("trackingPlanId", .string m.planId),
    ("trackingPlanVersion", Json.ofInt64 m.planVersion)] ++
    m.url.toList.map fun url => ("url", .string url))

/-- **The JSON value of a document.** -/
def Document.toJson (d : Document) : Json :=
  .object [
    ("name", .string d.name),
    ("metadata", d.metadata.toJson),
    ("customTypes", .object (d.customTypes.map fun e => (e.1, e.2.toJson))),
    ("properties", .object (d.properties.map fun e => (e.1, e.2.toJson))),
    ("rules", .array (d.rules.map Document.Rule.toJson))]

end TrackingPlan
