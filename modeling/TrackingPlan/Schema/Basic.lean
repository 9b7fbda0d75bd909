import TrackingPlan.Entries
import TrackingPlan.Schema.Rule

/-!
# The model of a plan, and the named types in it

`Schema.namedTypes` lists every named type that can be reached from the custom types, the
properties and the payloads, in the order of a walk that visits a type before the types in it.  A
type whose id was met before is left out with all that is in it.
-/

namespace TrackingPlan

/-- **Where a plan comes from.** -/
structure PlanMetadata where
  planId : String
  planVersion : Int64
  url : Option String
deriving DecidableEq

/-- What a plan that says nothing about itself comes from. -/
def PlanMetadata.unknown : PlanMetadata :=
  ⟨"", 0, none⟩

/-- **The model of a plan.** -/
structure Schema where
  name : String
  metadata : PlanMetadata
  customTypes : Entries PropertyType
  properties : Entries PropertyType
  rules : List Rule

/-! ## The walk over named types -/

/-- The ids met so far, and the types found so far in reverse. -/
structure NamedWalk where
  seen : List String
  found : List PropertyType

/-- Meets a named type: `none` if its id was met before. -/
def NamedWalk.enter? (w : NamedWalk) (name : TypeName) (type : PropertyType) : Option NamedWalk :=
  if w.seen.contains name.id then none else some ⟨name.id :: w.seen, type :: w.found⟩

mutual
/-- Walks a type: itself if it is named and new, then the types in it. -/
def PropertyType.walk : PropertyType → NamedWalk → NamedWalk
  | .scalar _, w => w
  | .untyped _, w => w
  | .enumeration e, w => (w.enter? e.name (.enumeration e)).getD w
  | .array item, w => item.walk w
  | .aliasType ⟨name, description, target⟩, w =>
    match w.enter? name (.aliasType ⟨name, description, target⟩) with
    | none => w
    | some w => target.walk w
  | .record ⟨name, description, fields⟩, w =>
    match w.enter? name (.record ⟨name, description, fields⟩) with
    | none => w
    | some w => walkFields fields w
  | .variant ⟨name, description, discriminator, cases, defaultCase⟩, w =>
    match w.enter? name (.variant ⟨name, description, discriminator, cases, defaultCase⟩) with
    | none => w
    | some w => walkDefault defaultCase (walkCases cases (walkDiscriminator discriminator w))
termination_by structural t => t

/-- Walks the types of fields. -/
def walkFields : List Field → NamedWalk → NamedWalk
  | [], w => w
  | ⟨_, type, _, _⟩ :: rest, w => walkFields rest (type.walk w)
termination_by structural fs => fs

/-- Walks the type of a discriminator. -/
def walkDiscriminator : Option Discriminator → NamedWalk → NamedWalk
  | none, w => w
  | some ⟨_, type, _⟩, w => type.walk w
termination_by structural d => d

/-- Walks the types of the fields of cases. -/
def walkCases : List VariantCase → NamedWalk → NamedWalk
  | [], w => w
  | ⟨_, _, _, fields⟩ :: rest, w => walkCases rest (walkFields fields w)
termination_by structural cs => cs

/-- Walks the types of the fields of a default case. -/
def walkDefault : Option VariantCase → NamedWalk → NamedWalk
  | none, w => w
  | some ⟨_, _, _, fields⟩, w => walkFields fields w
termination_by structural c => c
end

namespace Schema

/-- The types the walk starts from: custom types, properties, payloads. -/
def roots (s : Schema) : List PropertyType :=
  s.customTypes.map (·.2) ++ s.properties.map (·.2) ++ s.rules.filterMap (·.payload.type?)

/-- **The named types of a model**, each id once. -/
def namedTypes (s : Schema) : List PropertyType :=
  (s.roots.foldl (fun (w : NamedWalk) (t : PropertyType) => t.walk w) ⟨[], []⟩).found.reverse

/-- How many variants are among the types. -/
def countVariants (types : List PropertyType) : Nat :=
  types.countP fun
    | .variant _ => true
    | _ => false

/-- The model in one line of counts. -/
def summary (s : Schema) : String :=
  let named := s.namedTypes
  "Schema(" ++ toString s.customTypes.length ++ " custom types, " ++
    toString s.properties.length ++ " properties, " ++
    toString s.rules.length ++ " rules, " ++
    toString named.length ++ " named types, " ++
    toString (countVariants named) ++ " variants)"

end Schema

end TrackingPlan
