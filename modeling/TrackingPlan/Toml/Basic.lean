import TrackingPlan.Entries

/-!
# TOML values

A number that is no integer, and a moment of time, are kept as they are written: nothing here asks
for more than their kind.
-/

namespace TrackingPlan

/-- **A TOML value.**  A moment is a date, a time of day, or both. -/
inductive Toml where
  | string (value : String)
  | integer (value : Int64)
  | float (text : String)
  | bool (value : Bool)
  | moment (text : String)
  | array (items : List Toml)
  | table (entries : List (String × Toml))

namespace Toml

/-- **A dotted key**: the keys before the last dot, and the last one. -/
structure KeyPath where
  parents : List String
  last : String
deriving DecidableEq

/-- The dotted key of a list of keys, of which there is at least one. -/
def KeyPath.ofList? : List String → Option KeyPath
  | [] => none
  | [key] => some ⟨[], key⟩
  | key :: rest => (ofList? rest).map fun path => ⟨key :: path.parents, path.last⟩

/-- **A statement of a document**: a key and its value, the header of a table, or the header of one
more element of an array of tables. -/
inductive Statement where
  | entry (key : KeyPath) (value : Toml)
  | header (key : KeyPath)
  | element (key : KeyPath)

end Toml

end TrackingPlan
