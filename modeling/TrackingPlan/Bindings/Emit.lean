import TrackingPlan.Bindings.Item
import TrackingPlan.Naming.Registry

/-!
# Emitting — names are registered as they are needed

Type names share one scope, method names another, and fields have a scope for each record and each
case.  A name that is registered stays registered, also when the step that needed it fails.
-/

namespace TrackingPlan.Bindings

open TrackingPlan.Naming

/-- **Why an item cannot be emitted**: the model is refused, or a registered name is no
identifier. -/
inductive EmitError where
  | rejected (error : SchemaError)
  | notIdentifier (name : String)

/-- **A step of emitting**: it may fail, and the names it registered stay registered. -/
abbrev Emit := ExceptT EmitError (StateM Registry)

namespace Emit

/-- The scope of type names. -/
def typeScope : String :=
  "types"

/-- The scope of method names. -/
def methodScope : String :=
  "methods"

/-- The scope of the fields of a record or a case. -/
def fieldScope (owner : String) : String :=
  "fields:" ++ owner

/-- What owns the fields of a case. -/
def caseOwner (variant : TypeName) (case : String) : String :=
  variant.id ++ "#" ++ case

/-- Refuses the model. -/
def reject {α : Type} (error : SchemaError) : Emit α :=
  throw (.rejected error)

/-- Registers a name for an id in a scope. -/
def register (id scope name : String) : Emit String := do
  let names ← get
  match names.register id scope name with
  | .error e => reject (.invalidName e)
  | .ok (assigned, names) =>
    set names
    return assigned

/-- The identifier that a registered name is. -/
def identifier (found : Option Identifier) (name : String) : Emit Identifier :=
  match found with
  | some i => return i
  | none => throw (.notIdentifier name)

/-- The identifier of a case, whose name is used as it is. -/
def caseIdentifier (name : String) : Emit Identifier :=
  identifier (Identifier.ofText? name) name

/-- Claims a type name. -/
def reserveType (id name : String) : Emit Identifier := do
  let assigned ← register id typeScope name
  identifier (Identifier.ofText? assigned) assigned

/-- **The identifier of a named type.** -/
def typeIdentifier (name : TypeName) : Emit Identifier :=
  let formatted := typeName name.origin.label name.name
  if formatted.isEmpty then reject (.invalidName ⟨name.name, .emptyIdentifier⟩)
  else reserveType name.id formatted

/-- **The identifier of a field.** -/
def fieldIdentifier (owner key : String) : Emit Identifier := do
  let assigned ← register key (fieldScope owner) (memberName key)
  identifier (Identifier.ofMember? assigned) assigned

/-- **The identifier of a method.** -/
def methodIdentifier (id name : String) : Emit Identifier := do
  let assigned ← register id methodScope (memberName name)
  identifier (Identifier.ofMember? assigned) assigned

/-- **The emitted type of values of a type.** -/
def typeExpr : PropertyType → Emit TypeExpr
  | .scalar kind => return .scalar kind
  | .untyped kind => return .untyped kind
  | .array item => return .list (← typeExpr item)
  | .enumeration e => return .named (← typeIdentifier e.name)
  | .record r => return .named (← typeIdentifier r.name)
  | .variant v => return .named (← typeIdentifier v.name)
  | .aliasType a => return .named (← typeIdentifier a.name)
termination_by structural t => t

end Emit

end TrackingPlan.Bindings
