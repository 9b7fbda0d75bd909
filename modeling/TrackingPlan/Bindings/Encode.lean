import TrackingPlan.Bindings.Emit
import TrackingPlan.Layout.Basic

/-!
# The code that writes values, from their layouts

The keys of a layout become statements in its order; identifiers of fields are those of the
declarations, because both register a key under one owner.
-/

namespace TrackingPlan.Bindings

namespace Emit

/-- The identifiers of fields, with the statements that write them. -/
def fieldInserts (owner : String) : List FieldLayout → Emit (List (Identifier × Insert))
  | [] => return []
  | f :: rest => do
    let name ← fieldIdentifier owner f.key
    return (name, .field f.key name f.required) :: (← fieldInserts owner rest)

/-- The code of a case: its fields in order, and the discriminator last. -/
def objectArm (variant : TypeName) (case : String) (fields : List FieldLayout) (key : String)
    (slot : DiscriminatorSlot) : Emit ObjectArm := do
  let owner := caseOwner variant case
  let name ← caseIdentifier case
  let own ← fieldInserts owner fields
  match slot with
  | .fixed tag => return ⟨name, own.map (·.1), own.map (·.2) ++ [.fixed key tag]⟩
  | .supplied _ =>
    let last ← fieldIdentifier owner key
    return ⟨name, own.map (·.1) ++ [last], own.map (·.2) ++ [.supplied key last]⟩

/-- The code of the cases that are written as objects. -/
def objectArms (variant : TypeName) : List CaseLayout → Emit (List ObjectArm)
  | [] => return []
  | .bare _ _ _ :: rest => objectArms variant rest
  | .object case fields key slot :: rest => do
    let arm ← objectArm variant case fields key slot
    return arm :: (← objectArms variant rest)

/-- The identifiers of cases, in order. -/
def caseIdentifiers : List String → Emit (List Identifier)
  | [] => return []
  | name :: rest => do
    let i ← caseIdentifier name
    return i :: (← caseIdentifiers rest)

/-- **The code that writes values of a type.** -/
def encodeImpl : TypeLayout → Emit EncodeImpl
  | .record r => do
    let name ← typeIdentifier r.name
    return .record name ((← fieldInserts r.name.id r.fields).map (·.2))
  | .enumeration enumName cases => do
    let name ← typeIdentifier enumName
    let arms ← caseIdentifiers (cases.map (·.name))
    return .enumeration name (arms.zip (cases.map (·.value)))
  | .variant v => do
    let name ← typeIdentifier v.variant.name
    if v.variant.isPrimitive then
      return .bare name (← caseIdentifiers (v.cases.map CaseLayout.name))
    else
      return .object name (← objectArms v.variant.name v.cases)

end Emit

end TrackingPlan.Bindings
