import TrackingPlan.Repeated
import TrackingPlan.Schema.Type

/-!
# Records, and fields whose keys differ
-/

namespace TrackingPlan

/-- Refuses fields of which two have one key; the error names the second of them. -/
def ensureUniqueKeys (owner : TypeName) (fields : List Field) : Except SchemaError Unit :=
  match firstRepeated? (fields.map (·.key)) with
  | some key => .error (.duplicate .field (owner.name ++ "." ++ key))
  | none => .ok ()

namespace RecordType

/-- **The record with these fields**, unless two have one key. -/
def ofFields (name : TypeName) (description : Option String) (fields : List Field) :
    Except SchemaError RecordType := do
  ensureUniqueKeys name fields
  return ⟨name, description, fields⟩

/-- The field with this key. -/
def field? (r : RecordType) (key : String) : Option Field :=
  r.fields.find? (·.key == key)

/-- The fields that must be present. -/
def requiredFields (r : RecordType) : List Field :=
  r.fields.filter (·.required)

end RecordType

end TrackingPlan
