import TrackingPlan.Bindings.Emit

/-!
# Declarations of the named types
-/

namespace TrackingPlan.Bindings

namespace Emit

/-- The declaration of a field of `owner`. -/
def fieldDecl (owner : String) (f : Field) : Emit FieldDecl := do
  let name ← fieldIdentifier owner f.key
  let type ← typeExpr f.type
  return ⟨docLines f.description, name, type, f.required⟩

/-- The declarations of fields, in order. -/
def fieldDecls (owner : String) : List Field → Emit (List FieldDecl)
  | [] => return []
  | f :: rest => do
    let d ← fieldDecl owner f
    return d :: (← fieldDecls owner rest)

/-- The field of a default case that holds the value of the discriminator. -/
def discriminatorDecl (owner : String) (d : Discriminator) : Emit FieldDecl := do
  let name ← fieldIdentifier owner d.key
  let type ← typeExpr d.type
  return ⟨docLines d.description, name, type, true⟩

/-- The doc of a case: its description, or else the literal that selects it. -/
def caseDocs (c : VariantCase) : List String :=
  match c.description, c.tag with
  | some text, _ => docLines (some text)
  | none, .literal l =>
    docLines (some ("Selected when the discriminator is " ++ ticked l.text ++ "."))
  | none, _ => []

/-- **The declaration of a case.**  A case for bare values wraps its value; any other case has its
fields, and the default case the discriminator after them. -/
def caseDecl (v : VariantType) (c : VariantCase) : Emit CaseDecl := do
  let name ← caseIdentifier c.name
  match c.tag with
  | .kind _ =>
    match c.fields with
    | [wrapped] => return .wrapped (caseDocs c) name (← typeExpr wrapped.type)
    | _ => reject (.invalidVariant v.name.name (.wrapsNotOne c.name))
  | _ =>
    match v.discriminator with
    | none => reject (.invalidVariant v.name.name (.noDiscriminator c.name))
    | some d =>
      let owner := caseOwner v.name c.name
      let fields ← fieldDecls owner c.fields
      if c.isDefault then
        let last ← discriminatorDecl owner d
        return .fields (caseDocs c) name (fields ++ [last])
      else
        return .fields (caseDocs c) name fields

/-- The declarations of cases, in order. -/
def caseDecls (v : VariantType) : List VariantCase → Emit (List CaseDecl)
  | [] => return []
  | c :: rest => do
    let d ← caseDecl v c
    return d :: (← caseDecls v rest)

/-- The declarations of the cases of an enumeration, in order. -/
def enumCaseDecls : List EnumCase → Emit (List EnumCaseDecl)
  | [] => return []
  | c :: rest => do
    let name ← caseIdentifier c.name
    return ⟨" Wire value " ++ ticked c.value.text ++ ".", name⟩ :: (← enumCaseDecls rest)

/-- The declaration of an alias. -/
def declareAlias (a : AliasType) : Emit Declaration := do
  let name ← typeIdentifier a.name
  return .typeAlias (docLines a.description) name (← typeExpr a.target)

/-- The declaration of a record. -/
def declareRecord (r : RecordType) : Emit Declaration := do
  let name ← typeIdentifier r.name
  return .record (docLines r.description) name (← fieldDecls r.name.id r.fields)

/-- The declaration of an enumeration. -/
def declareEnum (e : EnumType) : Emit Declaration := do
  let name ← typeIdentifier e.name
  return .enumeration (docLines e.description) name (← enumCaseDecls e.cases)

/-- The declaration of a variant. -/
def declareVariant (v : VariantType) : Emit Declaration := do
  let name ← typeIdentifier v.name
  return .variant (docLines v.description) name (← caseDecls v v.allCases)

/-- **The declaration of a type**, if it has a name. -/
def declare? : PropertyType → Option (Emit Declaration)
  | .aliasType a => some (declareAlias a)
  | .record r => some (declareRecord r)
  | .enumeration e => some (declareEnum e)
  | .variant v => some (declareVariant v)
  | .scalar _ | .array _ | .untyped _ => none

end Emit

end TrackingPlan.Bindings
