import TrackingPlan.Schema.OfDocument

/-!
# Validation — the invariants of a model, checked as a whole

Building a model refuses bad input as it goes; a model put together by hand is checked here.  All
faults are gathered: of rules that describe one call twice, of single rules, then of every named
record, variant and enumeration.
-/

namespace TrackingPlan

/-! ## Rules -/

/-- What identifies a call: its kind, the name of its event, and the part. -/
def Rule.key (r : Rule) : CallKind × String × CallPart :=
  (r.event.kind, r.event.name, r.part)

/-- The call of a rule, in words. -/
def Rule.callText (r : Rule) : String :=
  match r.event.kind with
  | .track => "track " ++ ticked r.event.name ++ " " ++ r.part.text
  | kind => kind.text ++ " " ++ r.part.text

/-- The rules that describe a call which an earlier rule describes. -/
def duplicateRuleFaults : List (CallKind × String × CallPart) → List Rule → List SchemaError
  | _, [] => []
  | seen, r :: rest =>
    (if seen.contains r.key then [.duplicate .eventRule r.callText] else []) ++
      duplicateRuleFaults (r.key :: seen) rest

/-- The faults of a rule by itself. -/
def Rule.faults (r : Rule) : List SchemaError :=
  (if r.event.kind == .track && Text.isBlankText r.event.name then
    [.invalidType r.payloadTypeName .unnamedTrack]
  else
    []) ++
  match r.payload with
  | .typed t =>
    if t.isObject then [] else [.invalidType r.payloadTypeName (.payloadNotObject t.describe)]
  | _ => []

/-! ## Named types -/

/-- The fault of fields of which two have one key. -/
def fieldFaults (owner : TypeName) (fields : List Field) : List SchemaError :=
  match ensureUniqueKeys owner fields with
  | .error e => [e]
  | .ok () => []

/-- What the tag of a case is told apart by, if the case fits its variant and is tagged. -/
def VariantType.tagKey? (v : VariantType) (c : VariantCase) : Option Literal :=
  match c.tag, v.discriminator with
  | .literal l, some _ => some l
  | .kind k, none => some (.string k.text)
  | _, _ => none

/-- The faults of a case's tag; `tags` are those of the cases before it. -/
def VariantType.tagFaults (v : VariantType) (tags : List Literal) (c : VariantCase) :
    List SchemaError :=
  let name := v.name.name
  let repeated (tag : Literal) (text : String) : List SchemaError :=
    if tags.any (·.equals tag) then [.duplicateTag name text] else []
  match c.tag, v.discriminator with
  | .literal l, some d =>
    (if l.isNumber then [.invalidVariant name (.nonIntegerTag c.name l.text)] else []) ++
    repeated l l.text ++
    (if c.fields.any (·.key == d.key) then
      [.invalidVariant name (.redeclaredDiscriminator c.name d.key)]
    else
      [])
  | .fallback, some _ => []
  | .kind k, none =>
    repeated (.string k.text) k.text ++
    (if c.fields.length == 1 then [] else [.invalidVariant name (.wrapsNotOne c.name)])
  | _, _ => [.invalidVariant name (.misfitIn c.name v.isPrimitive)]

/-- The faults of the cases from here on; `names` and `tags` are those of the cases before. -/
def VariantType.caseFaults (v : VariantType) :
    List String → List Literal → List VariantCase → List SchemaError
  | _, _, [] => []
  | names, tags, c :: rest =>
    (if names.contains c.name then [.duplicate .variantCase (v.name.name ++ "." ++ c.name)]
      else []) ++
    fieldFaults v.name c.fields ++
    v.tagFaults tags c ++
    v.caseFaults (c.name :: names) ((v.tagKey? c).toList ++ tags) rest

/-- The faults of a variant. -/
def VariantType.faults (v : VariantType) : List SchemaError :=
  v.caseFaults [] [] v.allCases ++
  (if v.allCases.isEmpty then [.invalidVariant v.name.name .noCases] else []) ++
  (if v.defaultCase.any (!·.isDefault) then [.invalidVariant v.name.name .defaultNotTagged] else [])

/-- The faults of the cases of an enumeration from here on; `values` and `names` are those of the
cases before. -/
def EnumType.caseFaults (e : EnumType) :
    List Literal → List String → List EnumCase → List SchemaError
  | _, _, [] => []
  | values, names, c :: rest =>
    (if values.any (·.equals c.value) then
      [.duplicate .enumValue (e.name.name ++ "." ++ c.value.text)]
    else
      []) ++
    (if names.contains c.name then [.duplicate .enumCase (e.name.name ++ "." ++ c.name)] else []) ++
    e.caseFaults (c.value :: values) (c.name :: names) rest

/-- The faults of a named type. -/
def PropertyType.faults : PropertyType → List SchemaError
  | .record r => fieldFaults r.name r.fields
  | .variant v => v.faults
  | .enumeration e => e.caseFaults [] [] e.cases
  | _ => []

/-! ## Models -/

namespace Schema

/-- **All faults of a model**, in order. -/
def faults (s : Schema) : List SchemaError :=
  duplicateRuleFaults [] s.rules ++ s.rules.flatMap Rule.faults ++
    s.namedTypes.flatMap PropertyType.faults

/-- **The model, unless it has faults.** -/
def validate (s : Schema) : Except SchemaError Schema :=
  let faults := s.faults
  if faults.isEmpty then .ok s else .error (.validationFailed faults)

end Schema

/-- **The model of a document, built and validated.** -/
def Document.toSchema (doc : Document) : Except SchemaError Schema := do
  (← Schema.ofDocument doc).validate

end TrackingPlan
