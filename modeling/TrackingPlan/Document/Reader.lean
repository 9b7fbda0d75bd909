import TrackingPlan.Document.Basic
import TrackingPlan.Json.Source

/-!
# Reading a plan document

A record is an object with known keys, each at most once; unknown keys are passed over unread.  It
may also be an array of its fields in order.  A missing field takes its default where it has one;
`null` stands for absence only where a field is optional.  `depth` is how many containers a value
may still nest; the containers of unknown keys do not count.

§1 readers of single values · §2 records · §3 object schemas · §4 declarations · §5 documents.
-/

namespace TrackingPlan.Document

open Json (Source)

/-! ## §1 Readers of single values -/

/-- **A reader**: takes how deep the value may nest, and the value by its syntax. -/
abbrev Reader (α : Type) := Nat → Source → Option α

/-- A string. -/
def readText : Reader String
  | _, .string s => s
  | _, _ => none

/-- A truth value. -/
def readBool : Reader Bool
  | _, .bool b => some b
  | _, _ => none

/-- A signed 64-bit integer, written without fraction or exponent. -/
def readInt64 : Reader Int64
  | _, .number (some n) => n.toInt64?
  | _, _ => none

/-- Any JSON value. -/
def readJson : Reader Json :=
  fun depth s => s.value? depth

/-- A reference to a type. -/
def readTypeRef : Reader TypeRef
  | _, .string (some s) => (TypeRef.ofText s).toOption
  | _, _ => none

/-- A name among a few, which may also be written as the only key of an object over `null`. -/
def readChoice {α : Type} (ofText? : String → Option α) : Reader α
  | _, .string s => s.bind ofText?
  | depth, .object [(key, .null)] => if 0 < depth then key.bind ofText? else none
  | _, _ => none

/-- A value or `null`. -/
def readOption {α : Type} (read : Reader α) : Reader (Option α)
  | _, .null => some none
  | depth, s => (read depth s).map some

/-- A list. -/
def readList {α : Type} (read : Reader α) : Reader (List α)
  | depth + 1, .array items => items.mapM (read depth)
  | _, _ => none

/-- A map in order.  A key that is repeated keeps its first place and its last value. -/
def readMap {α : Type} (read : Reader α) : Reader (Entries α)
  | depth + 1, .object entries => do
    return Entries.ofList (← entries.mapM fun (key, s) => do return (← key, ← read depth s))
  | _, _ => none

/-! ## §2 Records -/

/-- What is written for a field: nothing, or a value. -/
abbrev Slot := Option Source

/-- The values written for a key. -/
def valuesAt (entries : List (String × Source)) (key : String) : List Source :=
  (entries.filter (·.1 == key)).map (·.2)

/-- What is written for a field of an object; twice is refused. -/
def slotAt (entries : List (String × Source)) (key : String) : Option Slot :=
  match valuesAt entries key with
  | [] => some none
  | [s] => some (some s)
  | _ => none

/-- **The fields of a record**, in the order of `keys`. -/
def slots (keys : List String) : Source → Option (List Slot)
  | .array items =>
    if items.length ≤ keys.length then
      some (items.map some ++ List.replicate (keys.length - items.length) none)
    else
      none
  | .object entries => do
    let entries ← entries.mapM fun (key, s) => do return (← key, s)
    keys.mapM (slotAt entries)
  | _ => none

/-- A field that must be written. -/
def required {α : Type} (read : Reader α) (depth : Nat) : Slot → Option α
  | some s => read depth s
  | none => none

/-- A field with a default. -/
def defaulted {α : Type} (default : α) (read : Reader α) (depth : Nat) : Slot → Option α
  | some s => read depth s
  | none => some default

/-- A field that may be left out or `null`. -/
def optional {α : Type} (read : Reader α) : Nat → Slot → Option (Option α) :=
  defaulted none (readOption read)

/-! ## §3 Object schemas -/

mutual
/-- An object schema. -/
def readObjectSchema : Nat → Source → Option ObjectSchema
  | 0, _ => none
  | depth + 1, s => do
    match ← slots ["properties", "additionalProperties"] s with
    | [properties, additional] =>
      let properties ←
        match properties with
        | none => some []
        | some s => readUses depth s
      return ⟨properties, ← defaulted false readBool depth additional⟩
    | _ => none

/-- The uses of properties in an object schema. -/
def readUses : Nat → Source → Option (List (String × PropertyUse))
  | depth + 1, .object entries => do
    return Entries.ofList (← entries.mapM fun (key, s) => do return (← key, ← readUse depth s))
  | _, _ => none

/-- The use of a property. -/
def readUse : Nat → Source → Option PropertyUse
  | 0, _ => none
  | depth + 1, s => do
    match ← slots ["required", "schema"] s with
    | [isRequired, schema] =>
      let schema ←
        match schema with
        | none | some .null => some none
        | some s => (readObjectSchema depth s).map some
      return ⟨← defaulted false readBool depth isRequired, schema⟩
    | _ => none
end

/-! ## §4 Declarations -/

/-- Where a plan comes from. -/
def readMetadata : Reader PlanMetadata
  | 0, _ => none
  | depth + 1, s => do
    match ← slots ["trackingPlanId", "trackingPlanVersion", "url"] s with
    | [id, version, url] =>
      return ⟨← required readText depth id, ← required readInt64 depth version,
        ← optional readText depth url⟩
    | _ => none

/-- Constraints on a type. -/
def readTypeConfig : Reader TypeConfig
  | 0, _ => none
  | depth + 1, s => do
    match ← slots ["enum"] s with
    | [values] => return ⟨← optional (readList readJson) depth values⟩
    | _ => none

/-- One case of a variant block. -/
def readCase : Reader Case
  | 0, _ => none
  | depth + 1, s => do
    match ← slots ["displayName", "match", "description", "schema"] s with
    | [displayName, matchValues, description, schema] =>
      return {
        displayName := ← required readText depth displayName
        matchValues := ← required (readList readJson) depth matchValues
        description := ← optional readText depth description
        schema := ← defaulted ObjectSchema.empty readObjectSchema depth schema }
    | _ => none

/-- A variant block. -/
def readVariant : Reader Variant
  | 0, _ => none
  | depth + 1, s => do
    match ← slots ["type", "discriminator", "cases", "defaultSchema"] s with
    | [kind, discriminator, cases, defaultSchema] =>
      return {
        kind := ← required readText depth kind
        discriminator := ← required readText depth discriminator
        cases := ← defaulted [] (readList readCase) depth cases
        defaultSchema := ← optional readObjectSchema depth defaultSchema }
    | _ => none

/-- A custom type. -/
def readCustomType : Reader CustomType
  | 0, _ => none
  | depth + 1, s => do
    match ← slots ["description", "type", "itemType", "config", "schema", "variants"] s with
    | [description, type, itemType, config, schema, variants] =>
      return {
        description := ← optional readText depth description
        type := ← required readTypeRef depth type
        itemType := ← optional readTypeRef depth itemType
        config := ← optional readTypeConfig depth config
        schema := ← optional readObjectSchema depth schema
        variants := ← defaulted [] (readList readVariant) depth variants }
    | _ => none

/-- A property. -/
def readProperty : Reader Property
  | 0, _ => none
  | depth + 1, s => do
    match ← slots ["description", "type", "itemTypes", "config"] s with
    | [description, types, itemTypes, config] =>
      return {
        description := ← optional readText depth description
        types := ← defaulted [] (readList readTypeRef) depth types
        itemTypes := ← defaulted [] (readList readTypeRef) depth itemTypes
        config := ← optional readTypeConfig depth config }
    | _ => none

/-- The event of a rule. -/
def readEvent : Reader Event
  | 0, _ => none
  | depth + 1, s => do
    match ← slots ["eventType", "name", "description"] s with
    | [kind, name, description] =>
      return {
        kind := ← required (readChoice CallKind.ofText?) depth kind
        name := ← defaulted "" readText depth name
        description := ← optional readText depth description }
    | _ => none

/-- A rule. -/
def readRule : Reader Rule
  | 0, _ => none
  | depth + 1, s => do
    match ← slots ["event", "section", "schema", "variants"] s with
    | [event, part, schema, variants] =>
      return {
        event := ← required readEvent depth event
        part := ← required (readChoice CallPart.ofText?) depth part
        schema := ← defaulted ObjectSchema.empty readObjectSchema depth schema
        variants := ← defaulted [] (readList readVariant) depth variants }
    | _ => none

/-! ## §5 Documents -/

/-- **A document by its syntax.** -/
def read : Reader Document
  | 0, _ => none
  | depth + 1, s => do
    match ← slots ["name", "metadata", "customTypes", "properties", "rules"] s with
    | [name, metadata, customTypes, properties, rules] =>
      return {
        name := ← required readText depth name
        metadata := ← defaulted PlanMetadata.unknown readMetadata depth metadata
        customTypes := ← defaulted [] (readMap readCustomType) depth customTypes
        properties := ← defaulted [] (readMap readProperty) depth properties
        rules := ← defaulted [] (readList readRule) depth rules }
    | _ => none

/-- **The document that a JSON value is**, however deep it nests. -/
def ofJson? (j : Json) : Option Document :=
  let s := j.toSource
  read s.height s

/-- **The document with this text.** -/
def ofText (text : String) : Except SchemaError Document :=
  match (Source.ofText? text).bind (read Json.depthLimit) with
  | some document => .ok document
  | none => .error .malformedDocument

end TrackingPlan.Document
