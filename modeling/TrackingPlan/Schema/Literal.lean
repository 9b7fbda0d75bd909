import TrackingPlan.Json.Writer
import TrackingPlan.Schema.Kind

/-!
# Literals — fixed values of enumerations and tags of cases

A literal is a boolean, a signed 64-bit integer, another number, or a string.  A number that is no
integer may be a value of an enumeration and never a tag.
-/

namespace TrackingPlan

/-- **A literal.** -/
inductive Literal where
  | bool (value : Bool)
  | integer (value : Int64)
  | number (value : Json.Number)
  | string (value : String)
deriving DecidableEq

namespace Literal

/-- The literal that a JSON value is; `null`, arrays and objects are none. -/
def ofJson? : Json → Option Literal
  | .bool b => some (.bool b)
  | .number n =>
    match n.toInt64? with
    | some i => some (.integer i)
    | none => some (.number n)
  | .string s => some (.string s)
  | _ => none

/-- The JSON value of a literal. -/
def toJson : Literal → Json
  | .bool b => .bool b
  | .integer i => Json.ofInt64 i
  | .number n => .number n
  | .string s => .string s

/-- The kind of a literal. -/
def kind : Literal → ScalarKind
  | .bool _ => .boolean
  | .integer _ => .integer
  | .number _ => .number
  | .string _ => .string

/-- Whether the literal is a number that is no integer. -/
def isNumber : Literal → Bool
  | .number _ => true
  | _ => false

/-- The text of a literal without quotes: names are made of it. -/
def rawText : Literal → String
  | .bool b => if b then "true" else "false"
  | .integer i => toString i.toInt
  | .number n => n.text
  | .string s => s

/-- The JSON text of a literal. -/
def text (l : Literal) : String :=
  l.toJson.text

/-- Whether two literals are one value: of numbers the two zeros are. -/
def equals : Literal → Literal → Bool
  | .number m, .number n => m.equals n
  | l, m => l == m

end Literal

end TrackingPlan
