import TrackingPlan.Binary64.Basic
import TrackingPlan.Entries

/-!
# JSON values

Objects keep the order of their keys, and a number keeps the form it was given in: a whole number
stays an integer up to 64 bits, signed or unsigned, and every other number is a `Binary64`.
-/

namespace TrackingPlan

/-- **A JSON number**: an integer, or a number in double precision. -/
inductive Json.Number where
  | integer (value : Int)
  | float (value : Binary64)
deriving DecidableEq

/-- **A JSON value.** -/
inductive Json where
  | null
  | bool (value : Bool)
  | number (value : Json.Number)
  | string (value : String)
  | array (items : List Json)
  | object (entries : List (String × Json))
deriving Inhabited

namespace Json

/-- An object by itself: the payload of a call, or its context. -/
abbrev Object := Entries Json

namespace Number

/-- The number as a signed 64-bit integer, if it is one; a number in double precision never is. -/
def toInt64? : Number → Option Int64
  | .integer i =>
    if Int64.minValue.toInt ≤ i ∧ i ≤ Int64.maxValue.toInt then some (Int64.ofInt i) else none
  | .float _ => none

/-- The number in double precision, rounded if it is a large integer. -/
def toBinary64 : Number → Binary64
  | .integer i => Binary64.ofInt i
  | .float x => x

/-- Whether two numbers are the same value in the same form; the two zeros in double precision are
one value. -/
def equals : Number → Number → Bool
  | .integer i, .integer j => i == j
  | .float x, .float y => x.equals y
  | _, _ => false

end Number

/-- The integer as a JSON value. -/
def ofInt64 (i : Int64) : Json :=
  .number (.integer i.toInt)

/-- The number as a JSON value; what is no finite number has no JSON form and becomes `null`. -/
def ofBinary64 (x : Binary64) : Json :=
  if x.isFinite then .number (.float x) else .null

/-- The entry of an object; any other value has none. -/
def get? : Json → String → Option Json
  | .object entries, key => Entries.get? entries key
  | _, _ => none

end Json

end TrackingPlan
