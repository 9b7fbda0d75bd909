import TrackingPlan.Alternation.Node
import TrackingPlan.Entries
import TrackingPlan.Naming.Words
import TrackingPlan.Repeated
import TrackingPlan.Schema.Enumeration

/-!
# Resolution — alternations become variants

Every literal that tags a shape becomes a case of its own, in declaration order, with the base
fields first and the shape's own after them.  The discriminator is never among the fields of a case.
A resolver remembers what each name resolved to and answers from memory when the name comes again.

§1 fields of a case · §2 what a discriminator can hold · §3 object shapes · §4 bare values ·
§5 the resolver.
-/

namespace TrackingPlan

open Naming (Registry typeName)

/-! ## §1 Fields of a case -/

/-- Makes the first field with this key required if `required` says so. -/
def requireField (key : String) (required : Bool) : List Field → List Field
  | [] => []
  | f :: rest =>
    if f.key == key then { f with required := f.required || required } :: rest
    else f :: requireField key required rest

/-- Adds one field of a shape: the discriminator is passed over, and a key that is there already
keeps its place and type. -/
def mergeField (discriminator : String) (merged : List Field) (f : Field) : List Field :=
  if f.key == discriminator then merged
  else if merged.any (·.key == f.key) then requireField f.key f.required merged
  else merged ++ [f]

/-- **The fields of a case**: the base fields, then the shape's own; a key of both is required if
either requires it. -/
def mergeFields (base own : List Field) (discriminator : String) : List Field :=
  own.foldl (mergeField discriminator) base

/-! ## §2 What a discriminator can hold -/

/-- **The literals a discriminator can hold**: those of some kinds, or the values of an
enumeration. -/
inductive TagDomain where
  | kinds (kinds : List ScalarKind)
  | enumeration (e : EnumType)

/-- Whether the literal is one of them. -/
def TagDomain.accepts : TagDomain → Literal → Bool
  | .kinds ks, l => ks.contains l.kind
  | .enumeration e, l => (e.caseFor? l).isSome

/-- The literals that a type lets a discriminator hold; numbers that are no integers never tag. -/
def PropertyType.tagDomain? (t : PropertyType) : Option TagDomain :=
  match t.resolved with
  | .scalar .number => none
  | .scalar kind => some (.kinds [kind])
  | .enumeration e => some (.enumeration e)
  | .variant v =>
    if v.isPrimitive then
      let kinds := (v.cases.filterMap (·.scalarKind?)).filter (· != .number)
      if kinds.isEmpty then none else some (.kinds kinds)
    else
      none
  | _ => none

/-! ## §3 Object shapes -/

/-- The name of the case for all other values. -/
def defaultCaseName : String :=
  "Default"

/-- The tags met so far, and the case names given out. -/
structure TagState where
  seen : List Literal := []
  names : Registry := {}

namespace DiscriminatedNode

/-- The case of one tag of a shape with these fields.  A tag is an integer if it is a number, one
that the discriminator can hold, and not a tag of an earlier case. -/
def resolveTag (node : DiscriminatedNode) (field : Field) (shape : TaggedShape)
    (fields : List Field) (tag : Literal) (s : TagState) :
    Except SchemaError (VariantCase × TagState) := do
  if tag.isNumber then
    throw (.invalidVariant node.name.name (.nonIntegerTag shape.displayName tag.text))
  if !(field.type.tagDomain?.any (·.accepts tag)) then
    throw (.discriminatorMismatch node.name.name node.discriminator field.type.describe tag.text)
  if s.seen.any (·.equals tag) then
    throw (.duplicateTag node.name.name tag.text)
  let (caseName, names) ←
    (s.names.register tag.text node.name.id (typeName "Case" tag.rawText)).mapError
      SchemaError.invalidName
  return (⟨caseName, .literal tag, shape.description, fields⟩, ⟨tag :: s.seen, names⟩)

/-- The cases of the tags of one shape. -/
def resolveTags (node : DiscriminatedNode) (field : Field) (shape : TaggedShape)
    (fields : List Field) :
    List Literal → TagState → Except SchemaError (List VariantCase × TagState)
  | [], s => .ok ([], s)
  | tag :: rest, s => do
    let (case, s) ← node.resolveTag field shape fields tag s
    let (cases, s) ← node.resolveTags field shape fields rest s
    return (case :: cases, s)

/-- The cases of all shapes; each shape has a tag. -/
def resolveShapes (node : DiscriminatedNode) (field : Field) (base : List Field) :
    List TaggedShape → TagState → Except SchemaError (List VariantCase)
  | [], _ => .ok []
  | shape :: rest, s => do
    if shape.tags.isEmpty then
      throw (.invalidVariant node.name.name (.noMatchValues shape.displayName))
    let fields := mergeFields base shape.fields node.discriminator
    let (cases, s) ← node.resolveTags field shape fields shape.tags s
    return cases ++ (← node.resolveShapes field base rest s)

/-- The base fields without the discriminator. -/
def ownBase (node : DiscriminatedNode) : List Field :=
  node.baseFields.filter (·.key != node.discriminator)

/-- The case for all other values, if the plan declares one. -/
def defaultCase? (node : DiscriminatedNode) : Option VariantCase :=
  node.defaultFields.map fun extra =>
    ⟨defaultCaseName, .fallback, none, mergeFields node.ownBase extra node.discriminator⟩

/-- **The variant of object shapes.** -/
def resolve (node : DiscriminatedNode) : Except SchemaError VariantType :=
  match node.baseFields.find? (·.key == node.discriminator) with
  | none => .error (.invalidVariant node.name.name (.discriminatorNotInBase node.discriminator))
  | some field => do
    if node.shapes.isEmpty && node.defaultFields.isNone then
      throw (.invalidVariant node.name.name .noCases)
    let cases ← node.resolveShapes field node.ownBase node.shapes {}
    return {
      name := node.name
      description := node.description
      discriminator := some ⟨field.key, field.type, field.description⟩
      cases := cases
      defaultCase := node.defaultCase? }

end DiscriminatedNode

/-! ## §4 Bare values -/

/-- The key of the one field of a case for bare values. -/
def wrappedKey : String :=
  "value"

namespace ValueKind

/-- The name of the case for bare values of the kind. -/
def caseName : ValueKind → String
  | .scalar .boolean => "BooleanValue"
  | .scalar .integer => "IntegerValue"
  | .scalar .number => "NumberValue"
  | .scalar .string => "StringValue"
  | .object => "ObjectValue"
  | .array => "ArrayValue"

/-- The type of bare values of the kind. -/
def wrappedType : ValueKind → PropertyType
  | .scalar kind => .scalar kind
  | .object => .untyped .object
  | .array => .array (.untyped .any)

/-- The case for bare values of the kind. -/
def toCase (kind : ValueKind) : VariantCase :=
  ⟨kind.caseName, .kind kind, none, [⟨wrappedKey, kind.wrappedType, true, none⟩]⟩

end ValueKind

/-- **The variant of bare values**: there is at least one kind, and no kind twice. -/
def PrimitiveNode.resolve (node : PrimitiveNode) : Except SchemaError VariantType := do
  if node.kinds.isEmpty then
    throw (.invalidVariant node.name.name .noKinds)
  match firstRepeated? node.kinds with
  | some kind => throw (.duplicateTag node.name.name kind.text)
  | none =>
    return {
      name := node.name
      description := node.description
      discriminator := none
      cases := node.kinds.map ValueKind.toCase
      defaultCase := none }

/-! ## §5 The resolver -/

/-- **What was resolved so far**, by id in order, and how often memory answered. -/
structure Resolver where
  resolved : Entries VariantType := []
  hits : Nat := 0

/-- How many names were resolved. -/
def Resolver.resolvedCount (r : Resolver) : Nat :=
  r.resolved.length

/-- The variant of an alternation, by itself. -/
def AlternationNode.resolve : AlternationNode → Except SchemaError VariantType
  | .discriminated node => node.resolve
  | .primitive node => node.resolve

/-- **Resolves an alternation**, from memory if its name was resolved before.  An error is not
remembered. -/
def Resolver.resolve (r : Resolver) (node : AlternationNode) :
    Except SchemaError (VariantType × Resolver) :=
  match r.resolved.get? node.name.id with
  | some v => .ok (v, { r with hits := r.hits + 1 })
  | none => do
    let v ← node.resolve
    return (v, { r with resolved := r.resolved.insert node.name.id v })

end TrackingPlan
