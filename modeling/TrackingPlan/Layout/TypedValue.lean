import TrackingPlan.Schema.Literal

/-!
# Typed values — what a caller hands over to be written

A typed value has the shape of an instance of an emitted type: scalars, cases of enumerations,
lists, records, and variant values named by their case or selected by their discriminator.
-/

namespace TrackingPlan

/-- **A typed value.**  The fields of a record or a case are those that are present. -/
inductive TypedValue where
  | bool (value : Bool)
  | integer (value : Int64)
  | number (value : Binary64)
  | string (value : String)
  | enumCase (name : String)
  | array (items : List TypedValue)
  | record (fields : List (String × TypedValue))
  | case (name : String) (fields : List (String × TypedValue))
  | tagged (discriminator : Literal) (fields : List (String × TypedValue))
  | untyped (json : Json)

namespace TypedValue

/-- The shape of the value in a few words, for messages. -/
def kindName : TypedValue → String
  | .bool _ => "boolean"
  | .integer _ => "integer"
  | .number _ => "number"
  | .string _ => "string"
  | .enumCase _ => "enum case"
  | .array _ => "array"
  | .record _ => "record"
  | .case _ _ => "variant case"
  | .tagged _ _ => "tagged variant"
  | .untyped _ => "opaque value"

/-- The kind of a scalar. -/
def scalarKind? : TypedValue → Option ScalarKind
  | .bool _ => some .boolean
  | .integer _ => some .integer
  | .number _ => some .number
  | .string _ => some .string
  | _ => none

/-- The kind of a bare value, as a variant without a discriminator tells them apart. -/
def valueKind? : TypedValue → Option ValueKind
  | .array _ => some .array
  | .untyped (.array _) => some .array
  | .untyped (.object _) => some .object
  | v => v.scalarKind?.map .scalar

/-- The value of a literal. -/
def ofLiteral : Literal → TypedValue
  | .bool b => .bool b
  | .integer i => .integer i
  | .number n => .number n.toBinary64
  | .string s => .string s

end TypedValue

end TrackingPlan
