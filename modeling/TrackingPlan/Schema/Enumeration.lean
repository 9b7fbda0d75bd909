import TrackingPlan.Naming.Words
import TrackingPlan.Schema.Type

/-!
# Enumerations from their values

The name of a case is made of the value's text and registered under its JSON text, so values that
would have one name get numbered ones.  The value itself is kept as it is and never read back from
the name.
-/

namespace TrackingPlan

open Naming (Registry typeName)

namespace EnumType

/-- The name a value asks for.  A number keeps the places of its signs and points as underscores,
so `4.5` asks for `_4_5`; a text without words asks for `Empty`. -/
def caseBaseName (value : Literal) : String :=
  match value with
  | .number _ =>
    String.ofList ('_' :: value.rawText.toList.map fun c => if c.isAlphanum then c else '_')
  | _ =>
    let name := typeName "" value.rawText
    if name.isEmpty then "Empty" else name

/-- The cases of the values from here on; `seen` holds the values before them. -/
def casesFrom (name : TypeName) : List Literal → List Literal → Registry →
    Except SchemaError (List EnumCase)
  | _, [], _ => .ok []
  | seen, value :: rest, names => do
    if seen.any (·.equals value) then
      throw (.duplicate .enumValue (name.name ++ "." ++ value.text))
    let (caseName, names) ←
      (names.register value.text name.id (caseBaseName value)).mapError SchemaError.invalidName
    return ⟨caseName, value⟩ :: (← casesFrom name (value :: seen) rest names)

/-- **The enumeration of these values**: there is at least one, and no two are one value. -/
def ofValues (name : TypeName) (description : Option String) (values : List Literal) :
    Except SchemaError EnumType := do
  if values.isEmpty then
    throw (.invalidType name.name .emptyEnumeration)
  return ⟨name, description, ← casesFrom name [] values {}⟩

/-- The case with this value. -/
def caseFor? (e : EnumType) (value : Literal) : Option EnumCase :=
  e.cases.find? (·.value.equals value)

/-- The case with this name. -/
def caseNamed? (e : EnumType) (name : String) : Option EnumCase :=
  e.cases.find? (·.name == name)

/-- Whether every value is of this kind. -/
def isHomogeneous (e : EnumType) (kind : ScalarKind) : Bool :=
  e.cases.all (·.value.kind == kind)

end EnumType

end TrackingPlan
