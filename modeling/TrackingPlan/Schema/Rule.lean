import TrackingPlan.Schema.Type

/-!
# Rules — what one analytics call carries

A rule says, for one call and one part of it, what its payload looks like.  The name of an event
matters for `track` calls only.
-/

namespace TrackingPlan

/-- **The kinds of analytics calls.** -/
inductive CallKind where
  | track
  | identify
  | page
  | screen
  | group
deriving DecidableEq

namespace CallKind

/-- The name of the call. -/
def text : CallKind → String
  | .track => "track"
  | .identify => "identify"
  | .page => "page"
  | .screen => "screen"
  | .group => "group"

/-- The call with this name. -/
def ofText? : String → Option CallKind
  | "track" => some .track
  | "identify" => some .identify
  | "page" => some .page
  | "screen" => some .screen
  | "group" => some .group
  | _ => none

end CallKind

/-- **The part of a call** that a payload fills. -/
inductive CallPart where
  | properties
  | traits
  | contextTraits
deriving DecidableEq

namespace CallPart

/-- The name of the part in a plan. -/
def text : CallPart → String
  | .properties => "properties"
  | .traits => "traits"
  | .contextTraits => "context.traits"

/-- The part with this name. -/
def ofText? : String → Option CallPart
  | "properties" => some .properties
  | "traits" => some .traits
  | "context.traits" => some .contextTraits
  | _ => none

/-- Whether calls of this kind have the part. -/
def isValidFor (part : CallPart) : CallKind → Bool
  | .track | .screen | .page => part == .properties
  | .identify | .group => part != .properties

/-- What a method calls the argument that fills the part. -/
def argumentName : CallPart → String
  | .properties => "properties"
  | .traits => "traits"
  | .contextTraits => "traits"

/-- The part in words, for the name of a payload type. -/
def words : CallPart → String
  | .properties => "properties"
  | .traits => "traits"
  | .contextTraits => "context traits"

end CallPart

/-- **An event**: the kind of call, and the name that a `track` call has. -/
structure Event where
  kind : CallKind
  name : String
  description : Option String

/-- **The shape of a payload**: nothing to pass, any object, or a value of a type. -/
inductive Payload where
  | empty
  | untyped
  | typed (type : PropertyType)

/-- The type of a payload that has one. -/
def Payload.type? : Payload → Option PropertyType
  | .typed type => some type
  | _ => none

/-- **A rule.** -/
structure Rule where
  event : Event
  part : CallPart
  payload : Payload

namespace Rule

/-- The name of the payload's type. -/
def payloadTypeName (r : Rule) : String :=
  match r.event.kind with
  | .track => "Track " ++ r.event.name ++ " " ++ r.part.words
  | kind => kind.text ++ " " ++ r.part.words

/-- Whether the call has the part. -/
def isValid (r : Rule) : Bool :=
  r.part.isValidFor r.event.kind

end Rule

end TrackingPlan
