import TrackingPlan.Alternation.Resolver
import TrackingPlan.Document.Basic
import TrackingPlan.Schema.Record

/-!
# The model of a document

Custom types and properties are built when they are first needed and then remembered, so one that
many fields share is built once.  A custom type can only be built after those it refers to; one that
is needed while it is still being built refers back to itself, and the plan is refused.

How deep custom types can refer to one another is bounded by how many there are: those being built
are declared and differ, so the bound is used up only when all of them are being built.

§1 what is remembered · §2 single references · §3 properties · §4 objects · §5 variants ·
§6 custom types · §7 rules and the whole model.
-/

namespace TrackingPlan

/-! ## §1 What is remembered -/

/-- **What was built so far**: alternations, custom types and properties by name, and nested objects
by id. -/
structure BuildState where
  resolver : Resolver := {}
  customTypes : Entries PropertyType := []
  properties : Entries PropertyType := []
  nested : Entries PropertyType := []

/-- A step of building: it may fail, and what it built is remembered. -/
abbrev Build := StateT BuildState (Except SchemaError)

namespace Build

/-- A named type with no form of its own. -/
def aliasOf (name : TypeName) (description : Option String) (target : PropertyType) :
    PropertyType :=
  .aliasType ⟨name, description, target⟩

/-- Resolves an alternation. -/
def resolve (node : AlternationNode) : Build PropertyType := do
  let s ← get
  let (v, resolver) ← s.resolver.resolve node
  set { s with resolver := resolver }
  return .variant v

/-- **Remembers a nested object under its name**; another shape under that name is refused. -/
def nestedShape (name : TypeName) (shape : PropertyType) : Build PropertyType := do
  let s ← get
  match s.nested.get? name.id with
  | none =>
    set { s with nested := s.nested.insert name.id shape }
    return shape
  | some existing =>
    if existing.same shape then return existing
    else throw (.duplicate .nestedObject name.name)

/-! ## §2 Single references -/

/-- The type of a reference.  `custom` builds a declared custom type. -/
def typeRef (doc : Document) (custom : String → Build PropertyType) (owner : String) :
    TypeRef → Build PropertyType
  | .string => return .scalar .string
  | .integer => return .scalar .integer
  | .number => return .scalar .number
  | .boolean => return .scalar .boolean
  | .array => return .array (.untyped .any)
  | .object => return .untyped .object
  | .null => return .untyped .any
  | .any => return .untyped .any
  | .custom name =>
    if doc.customTypes.has name then custom name
    else throw (.unknownType owner (TypeRef.custom name).text)

/-- The kind of bare values that a reference names in an alternation. -/
def valueKind (owner : String) : TypeRef → Except SchemaError ValueKind
  | .object => .ok .object
  | .array => .ok .array
  | .string => .ok (.scalar .string)
  | .integer => .ok (.scalar .integer)
  | .number => .ok (.scalar .number)
  | .boolean => .ok (.scalar .boolean)
  | other => .error (.invalidType owner (.notValueKind other.text))

/-- The values of an enumeration, if the constraint lists any; each is a literal. -/
def enumValues (owner : String) (config : Option Document.TypeConfig) :
    Except SchemaError (Option (List Literal)) :=
  match config.bind (·.values) with
  | none => .ok none
  | some values => do
    let literals ← values.mapM fun v =>
      match Literal.ofJson? v with
      | some l => Except.ok l
      | none => .error (.invalidType owner (.enumerationValue v.text))
    return some literals

/-! ## §3 Properties -/

/-- The alternation of several kinds of bare values. -/
def kindAlternation (owner : String) (name : TypeName) (description : Option String)
    (refs : List TypeRef) : Build PropertyType := do
  let kinds ← (refs.mapM (valueKind owner) : Except SchemaError (List ValueKind))
  resolve (.primitive ⟨name, description, kinds⟩)

/-- The type of the items of an array property. -/
def arrayItem (doc : Document) (custom : String → Build PropertyType) (name : String)
    (itemTypes : List TypeRef) : Build PropertyType :=
  match itemTypes.filter (· != .null) with
  | [] => return .untyped .any
  | [ref] => typeRef doc custom name ref
  | many => kindAlternation name (.property (name ++ " item")) none many

/-- The type of a declared property. -/
def propertyShape (doc : Document) (custom : String → Build PropertyType) (name : String)
    (p : Document.Property) : Build PropertyType := do
  let typeName := TypeName.property name
  match ← enumValues name p.config with
  | some values => return .enumeration (← EnumType.ofValues typeName p.description values)
  | none =>
    match p.types.filter (· != .null) with
    | [] => return aliasOf typeName p.description (.untyped .any)
    | [.array] =>
      return aliasOf typeName p.description (.array (← arrayItem doc custom name p.itemTypes))
    | [ref] => return aliasOf typeName p.description (← typeRef doc custom name ref)
    | many => kindAlternation name typeName p.description many

/-- **The type of a property**, built once. -/
def property (doc : Document) (custom : String → Build PropertyType) (name : String) :
    Build PropertyType := do
  match (← get).properties.get? name with
  | some t => return t
  | none =>
    match doc.properties.get? name with
    | none => throw (.unknownType name name)
    | some p =>
      let t ← propertyShape doc custom name p
      modify fun s => { s with properties := s.properties.insert name t }
      return t

/-! ## §4 Objects -/

/-- The type of a field that is given a nested object: that object, or an array of it if the
property is an array. -/
def withNested (declared nested : PropertyType) : PropertyType :=
  match declared.resolved with
  | .array _ => .array nested
  | _ => nested

mutual
/-- An object without variants: a record of its properties, or any object if it has none. -/
def plainObject (doc : Document) (custom : String → Build PropertyType) :
    Document.ObjectSchema → TypeName → Option String → Build PropertyType
  | ⟨properties, _⟩, name, description => do
    if properties.isEmpty then
      return aliasOf name description (.untyped .object)
    else
      let fields ← objectFields doc custom properties name
      return .record (← RecordType.ofFields name description fields)
termination_by structural s => s

/-- **The fields of an object schema**, named after `owner` where they nest objects. -/
def objectFields (doc : Document) (custom : String → Build PropertyType) :
    List (String × Document.PropertyUse) → TypeName → Build (List Field)
  | [], _ => return []
  | (key, ⟨isRequired, schema⟩) :: rest, owner => do
    match doc.properties.get? key with
    | none => throw (.unknownType owner.name key)
    | some p =>
      let declared ← property doc custom key
      let type ← nestedObject doc custom schema owner key p.description declared
      let fields ← objectFields doc custom rest owner
      return ⟨key, type, isRequired, p.description⟩ :: fields
termination_by structural us => us

/-- The type of a field: the property's own, unless its use gives it a nested object. -/
def nestedObject (doc : Document) (custom : String → Build PropertyType) :
    Option Document.ObjectSchema → TypeName → String → Option String → PropertyType →
    Build PropertyType
  | none, _, _, _, declared => return declared
  | some schema, owner, key, description, declared => do
    let name := TypeName.nested owner key
    let shape ← plainObject doc custom schema name description
    return withNested declared (← nestedShape name shape)
termination_by structural s => s
end

/-! ## §5 Variants -/

/-- The only kind of variant block there is. -/
def discriminatorKind : String :=
  "discriminator"

/-- What objects nested in the default schema are named after. -/
def defaultLabel : String :=
  "default"

/-- What objects nested in a case are named after: its display name, or else its first tag. -/
def caseLabel (c : Document.Case) (tags : List Literal) : String :=
  let display := Text.trim c.displayName
  if display.isEmpty then (tags.head?.map Literal.rawText).getD "" else display

/-- The tags of a case; each is a literal. -/
def caseTags (name : TypeName) (c : Document.Case) : Except SchemaError (List Literal) :=
  c.matchValues.mapM fun v =>
    match Literal.ofJson? v with
    | some l => Except.ok l
    | none => .error (.invalidVariant name.name (.matchNotLiteral v.text c.displayName))

/-- The shapes of the cases of a variant block. -/
def taggedShapes (doc : Document) (custom : String → Build PropertyType) (name : TypeName) :
    List Document.Case → Build (List TaggedShape)
  | [] => return []
  | c :: rest => do
    let tags ← caseTags name c
    let fields ← objectFields doc custom c.schema.properties (name.caseScope (caseLabel c tags))
    let shapes ← taggedShapes doc custom name rest
    return ⟨c.displayName, c.description, tags, fields⟩ :: shapes

/-- **The variant of an object** with one variant block. -/
def variantObject (doc : Document) (custom : String → Build PropertyType) (name : TypeName)
    (description : Option String) (schema : Document.ObjectSchema) (block : Document.Variant) :
    Build PropertyType := do
  if block.kind != discriminatorKind then
    throw (.invalidVariant name.name (.unsupportedKind block.kind))
  let baseFields ← objectFields doc custom schema.properties name
  let shapes ← taggedShapes doc custom name block.cases
  let defaultFields ←
    match block.defaultSchema with
    | none => pure none
    | some s => do
      let fields ← objectFields doc custom s.properties (name.caseScope defaultLabel)
      pure (some fields)
  resolve (.discriminated {
    name := name
    description := description
    baseFields := baseFields
    discriminator := block.discriminator
    shapes := shapes
    defaultFields := defaultFields })

/-- **The type of an object**: plain, or with one variant block. -/
def objectShape (doc : Document) (custom : String → Build PropertyType) (name : TypeName)
    (description : Option String) (schema : Document.ObjectSchema)
    (blocks : List Document.Variant) : Build PropertyType :=
  match blocks with
  | [] => plainObject doc custom schema name description
  | [block] => variantObject doc custom name description schema block
  | _ => throw (.invalidVariant name.name .severalBlocks)

/-! ## §6 Custom types -/

/-- The type of a declared custom type. -/
def customShape (doc : Document) (custom : String → Build PropertyType) (name : String)
    (t : Document.CustomType) : Build PropertyType := do
  let typeName := TypeName.customType name
  match ← enumValues name t.config with
  | some values => return .enumeration (← EnumType.ofValues typeName t.description values)
  | none =>
    if !t.variants.isEmpty && t.type != .object then
      throw (.invalidVariant name .notOnObject)
    match t.type with
    | .object =>
      objectShape doc custom typeName t.description
        (t.schema.getD Document.ObjectSchema.empty) t.variants
    | .array =>
      match t.itemType with
      | none => return aliasOf typeName t.description (.array (.untyped .any))
      | some ref => return aliasOf typeName t.description (.array (← typeRef doc custom name ref))
    | ref => return aliasOf typeName t.description (← typeRef doc custom name ref)

/-- **The type of a custom type**, built once.  `inProgress` holds the custom types that are being
built; the first argument is how many more can be. -/
def customType (doc : Document) : Nat → List String → String → Build PropertyType
  | 0, _, name => do
    match (← get).customTypes.get? name with
    | some t => return t
    | none =>
      if doc.customTypes.has name then throw (.cyclicType name)
      else throw (.unknownType name (TypeRef.custom name).text)
  | left + 1, inProgress, name => do
    match (← get).customTypes.get? name with
    | some t => return t
    | none =>
      match doc.customTypes.get? name with
      | none => throw (.unknownType name (TypeRef.custom name).text)
      | some declared =>
        if inProgress.contains name then
          throw (.cyclicType name)
        let t ← customShape doc (customType doc left (name :: inProgress)) name declared
        modify fun s => { s with customTypes := s.customTypes.insert name t }
        return t

/-! ## §7 Rules and the whole model -/

/-- Builds a custom type from the start. -/
def declaredType (doc : Document) (name : String) : Build PropertyType :=
  customType doc doc.customTypes.length [] name

/-- The rule of a document's rule.  Without properties and variants the payload is empty, or any
object if others are allowed. -/
def rule (doc : Document) (r : Document.Rule) : Build Rule := do
  let event : Event := ⟨r.event.kind, r.event.name, r.event.description⟩
  let name := TypeName.event (Rule.payloadTypeName ⟨event, r.part, .empty⟩)
  if r.variants.isEmpty && r.schema.properties.isEmpty then
    return ⟨event, r.part, if r.schema.additionalProperties then .untyped else .empty⟩
  else
    let type ← objectShape doc (declaredType doc) name r.event.description r.schema r.variants
    return ⟨event, r.part, .typed type⟩

/-- Builds the types of names in order. -/
def named (build : String → Build PropertyType) : List String → Build (Entries PropertyType)
  | [] => return []
  | name :: rest => do
    let t ← build name
    return (name, t) :: (← named build rest)

/-- Builds the whole model. -/
def schema (doc : Document) : Build Schema := do
  let customTypes ← named (declaredType doc) doc.customTypes.keys
  let properties ← named (property doc (declaredType doc)) doc.properties.keys
  let rules ← doc.rules.mapM (rule doc)
  return ⟨doc.name, doc.metadata, customTypes, properties, rules⟩

end Build

/-- **The model of a document.** -/
def Schema.ofDocument (doc : Document) : Except SchemaError Schema := do
  let (schema, _) ← (Build.schema doc).run {}
  return schema

end TrackingPlan
