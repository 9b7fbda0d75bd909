import TrackingPlan.Json.Basic

/-!
# Values that are written as JSON

Scalars are written as themselves, a number that is not finite as `null`, a list item by item, and
JSON values as they are.
-/

namespace TrackingPlan.Json

/-- **Values that have a JSON form.** -/
class Encode (α : Type) where
  encode : α → Json

export Encode (encode)

instance : Encode Bool :=
  ⟨.bool⟩

instance : Encode Int64 :=
  ⟨ofInt64⟩

instance : Encode Binary64 :=
  ⟨ofBinary64⟩

instance : Encode String :=
  ⟨.string⟩

instance : Encode Json :=
  ⟨id⟩

instance {α : Type} [Encode α] : Encode (List α) :=
  ⟨fun items => .array (items.map encode)⟩

instance : Encode (Entries Json) :=
  ⟨.object⟩

/-- **Values whose JSON form is an object.** -/
class EncodeObject (α : Type) extends Encode α where
  encodeObject : α → Json.Object
  encode_eq : ∀ a, encode a = .object (encodeObject a)

export EncodeObject (encodeObject)

instance : EncodeObject (Entries Json) where
  encodeObject := id
  encode_eq _ := rfl

end TrackingPlan.Json
