import TrackingPlan.Layout.Basic
import TrackingPlan.Schema.Basic

/-!
# The layouts of a model
-/

namespace TrackingPlan

/-- How values of a type are written.  Aliases do not show. -/
def PropertyType.layout : PropertyType → ValueLayout
  | .scalar kind => .scalar kind
  | .enumeration e => .named e.name.id
  | .array item => .array item.layout
  | .record r => .named r.name.id
  | .variant v => .named v.name.id
  | .aliasType ⟨_, _, target⟩ => target.layout
  | .untyped kind => .untyped kind
termination_by structural t => t

/-- How a field is written. -/
def Field.layout (f : Field) : FieldLayout :=
  ⟨f.key, f.required, f.type.layout⟩

/-- **How a case of a variant is written.**  A tag must fit the variant: literals and the default
need a discriminator, kinds of bare values need none and wrap one value. -/
def VariantType.caseLayout (v : VariantType) (c : VariantCase) : Except SchemaError CaseLayout :=
  match c.tag, v.discriminator with
  | .literal l, some d => .ok (.object c.name (c.fields.map Field.layout) d.key (.fixed l))
  | .fallback, some d =>
    .ok (.object c.name (c.fields.map Field.layout) d.key (.supplied d.type.layout))
  | .kind k, none =>
    match c.fields with
    | [wrapped] => .ok (.bare c.name k wrapped.type.layout)
    | _ => .error (.invalidVariant v.name.name (.wrapsNotOne c.name))
  | _, _ => .error (.invalidVariant v.name.name (.misfit c.name))

namespace Layouts

/-- Adds the layout of one named type, and of nothing in it. -/
def add (ls : Layouts) : PropertyType → Except SchemaError Layouts
  | .record r =>
    .ok { ls with types := ls.types.insert r.name.id (.record ⟨r.name, r.fields.map Field.layout⟩) }
  | .enumeration e =>
    .ok { ls with types := ls.types.insert e.name.id (.enumeration e.name e.cases) }
  | .variant v => do
    let cases ← v.allCases.mapM v.caseLayout
    return { ls with types := ls.types.insert v.name.id (.variant ⟨v, cases⟩) }
  | .aliasType a => .ok { ls with aliases := ls.aliases.insert a.name.id a.target.layout }
  | .scalar _ | .array _ | .untyped _ => .ok ls

/-- **The layouts of a model**, in the order of its named types. -/
def ofSchema (s : Schema) : Except SchemaError Layouts :=
  s.namedTypes.foldlM add {}

end Layouts

end TrackingPlan
