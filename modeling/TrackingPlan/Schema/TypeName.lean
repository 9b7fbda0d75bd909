import TrackingPlan.Text.Blank

/-!
# Names of types

A type is known by where in the plan it comes from and by the name it has there.  Both together are
its *id*, under which encoders are kept and emitted names are registered.
-/

namespace TrackingPlan

/-- **Where a named type comes from.** -/
inductive TypeOrigin where
  | customType
  | property
  | event
  | nested
deriving DecidableEq

namespace TypeOrigin

/-- What goes before the words of an emitted type name. -/
def label : TypeOrigin → String
  | .customType => "CustomType"
  | .property => "Property"
  | .event => ""
  | .nested => ""

/-- What goes before the name in an id. -/
def key : TypeOrigin → String
  | .customType => "customtype"
  | .property => "property"
  | .event => "event"
  | .nested => "nested"

/-- The origin with this key. -/
def ofKey? : String → Option TypeOrigin
  | "customtype" => some .customType
  | "property" => some .property
  | "event" => some .event
  | "nested" => some .nested
  | _ => none

end TypeOrigin

/-- **The name of a type**: its origin, and the name as the plan writes it. -/
structure TypeName where
  origin : TypeOrigin
  name : String
deriving DecidableEq

namespace TypeName

/-- The name of a custom type. -/
def customType (name : String) : TypeName :=
  ⟨.customType, name⟩

/-- The name of a property's own type. -/
def property (name : String) : TypeName :=
  ⟨.property, name⟩

/-- The name of the payload of a call. -/
def event (name : String) : TypeName :=
  ⟨.event, name⟩

/-- The name of the object nested under a key of `parent`. -/
def nested (parent : TypeName) (key : String) : TypeName :=
  ⟨.nested, Text.trim (parent.origin.label ++ " " ++ parent.name ++ " " ++ key)⟩

/-- What objects nested in one case of `parent` are named after.  It keeps the origin, so that such
objects of two cases have different names. -/
def caseScope (parent : TypeName) (label : String) : TypeName :=
  ⟨parent.origin, parent.name ++ " " ++ label⟩

/-- **The id of a type.** -/
def id (n : TypeName) : String :=
  n.origin.key ++ ":" ++ n.name

/-- The name with this id: what stands before the first colon is the key of the origin. -/
def ofId? (id : String) : Option TypeName :=
  match id.toList.dropWhile (· != ':') with
  | [] => none
  | _ :: name => do
    let origin ← TypeOrigin.ofKey? (String.ofList (id.toList.takeWhile (· != ':')))
    return ⟨origin, String.ofList name⟩

end TypeName

end TrackingPlan
