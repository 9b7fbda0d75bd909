/-!
# Kinds of values
-/

namespace TrackingPlan

/-- **The scalar kinds** a property can have. -/
inductive ScalarKind where
  | boolean
  | integer
  | number
  | string
deriving DecidableEq

namespace ScalarKind

/-- The name of the kind in a plan. -/
def text : ScalarKind → String
  | .boolean => "boolean"
  | .integer => "integer"
  | .number => "number"
  | .string => "string"

/-- The kind with this name. -/
def ofText? : String → Option ScalarKind
  | "boolean" => some .boolean
  | "integer" => some .integer
  | "number" => some .number
  | "string" => some .string
  | _ => none

/-- Whether a value of the other kind can be held: integers widen into numbers, and nothing else
converts. -/
def accepts (kind other : ScalarKind) : Bool :=
  kind == other || (kind == .number && other == .integer)

end ScalarKind

/-- **The kinds of JSON values** that one property can choose among. -/
inductive ValueKind where
  | scalar (kind : ScalarKind)
  | object
  | array
deriving DecidableEq

/-- The name of the kind in a plan. -/
def ValueKind.text : ValueKind → String
  | .scalar kind => kind.text
  | .object => "object"
  | .array => "array"

/-- **Values without a shape of their own**, passed on as they are: any object, or any value. -/
inductive UntypedKind where
  | object
  | any
deriving DecidableEq

/-- The name of the kind in a plan. -/
def UntypedKind.text : UntypedKind → String
  | .object => "object"
  | .any => "any"

end TrackingPlan
