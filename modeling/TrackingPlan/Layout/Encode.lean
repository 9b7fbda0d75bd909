import TrackingPlan.Layout.Basic
import TrackingPlan.Layout.TypedValue

/-!
# Writing typed values by their layouts

Writing follows the value: each part of it is turned into what it would write under any layout, and
the layout of the whole then picks the parts by key and in its own order.  So the parts are written
in the order of the layout, and only those that the layout asks for.

A variant without a discriminator passes a bare value on to the layout of one of its cases before
anything is written (`Layouts.settle`).

§1 errors · §2 the layout that a bare value settles on · §3 objects · §4 values without parts ·
§5 values.
-/

namespace TrackingPlan

/-! ## §1 Errors -/

/-- **Why a value cannot be written.** -/
inductive EncodeError where
  | typeMismatch (expected found : String)
  | missingField (owner key : String)
  | unknownField (owner key : String)
  | unknownCase (owner case : String)
  | unknownType (id : String)
  | endlessType (id : String)
  | routing (error : SchemaError)

/-- The error in words. -/
def EncodeError.message : EncodeError → String
  | typeMismatch expected found => "expected " ++ expected ++ ", found " ++ found
  | missingField owner key => "missing required field " ++ ticked key ++ " in " ++ ticked owner
  | unknownField owner key => "unknown field " ++ ticked key ++ " in " ++ ticked owner
  | unknownCase owner case => ticked owner ++ " has no case " ++ ticked case
  | unknownType id => "no encoder for type " ++ ticked id
  | endlessType id => "type " ++ ticked id ++ " wraps itself"
  | routing error => error.message

/-- What a part of a value writes under a layout. -/
abbrev Encoding := ValueLayout → Except EncodeError Json

/-- The error of a value where another shape is expected. -/
def mismatch {α : Type} (expected : String) (found : TypedValue) : Except EncodeError α :=
  .error (.typeMismatch expected found.kindName)

/-! ## §2 The layout that a bare value settles on -/

/-- **What a value is written by**, once named types are looked up. -/
inductive Target where
  | scalar (kind : ScalarKind)
  | array (item : ValueLayout)
  | untyped (kind : UntypedKind)
  | record (r : RecordLayout)
  | enumeration (name : TypeName) (cases : List EnumCase)
  | variant (v : VariantLayout)

/-- What a variant is called where another value is found. -/
def VariantLayout.describe (v : VariantLayout) : String :=
  "variant " ++ ticked v.variant.name.name

/-- The layout of the case that a bare value selects. -/
def VariantLayout.bareLayout (v : VariantLayout) (value : TypedValue) :
    Except EncodeError ValueLayout :=
  match value.valueKind?.bind v.variant.routeKind? with
  | none => mismatch v.describe value
  | some c =>
    match v.case? c.name with
    | some (.bare _ _ wrapped) => .ok wrapped
    | _ => mismatch v.describe value

/-- **Looks named types up** until the layout is none, or is one that the value does not pass
through: a variant that the value names a case of.  The first argument bounds how many variants a
bare value passes through; a type that wraps itself would never end. -/
def Layouts.settle (ls : Layouts) (value : TypedValue) :
    Nat → ValueLayout → Except EncodeError Target
  | _, .scalar kind => .ok (.scalar kind)
  | _, .array item => .ok (.array item)
  | _, .untyped kind => .ok (.untyped kind)
  | left, .named id =>
    match ls.types.get? id with
    | none => .error (.unknownType id)
    | some (.record r) => .ok (.record r)
    | some (.enumeration name cases) => .ok (.enumeration name cases)
    | some (.variant v) =>
      match value with
      | .case _ _ => .ok (.variant v)
      | .tagged _ _ => .ok (.variant v)
      | bare =>
        match left with
        | 0 => .error (.endlessType id)
        | left + 1 => do ls.settle value left (← v.bareLayout bare)

/-- What the value is written by under a layout. -/
def Layouts.target (ls : Layouts) (value : TypedValue) (layout : ValueLayout) :
    Except EncodeError Target :=
  ls.settle value ls.types.length layout

/-! ## §3 Objects -/

/-- The first supplied key that no field declares. -/
def undeclaredKey? (fields : List FieldLayout) (supplied : Entries Encoding) : Option String :=
  supplied.keys.find? fun key => !fields.any (·.key == key)

/-- Writes the fields from here on, after those in `object`. -/
def writeFields (owner : String) (supplied : Entries Encoding) :
    List FieldLayout → Json.Object → Except EncodeError Json.Object
  | [], object => .ok object
  | f :: rest, object =>
    match supplied.get? f.key with
    | some encoding => do writeFields owner supplied rest (object.insert f.key (← encoding f.value))
    | none =>
      if f.required then .error (.missingField owner f.key)
      else writeFields owner supplied rest object

/-- **Writes the fields of an object**: every supplied key is declared, and every required field is
supplied. -/
def encodeFields (owner : String) (fields : List FieldLayout) (supplied : Entries Encoding) :
    Except EncodeError Json.Object :=
  match undeclaredKey? fields supplied with
  | some key => .error (.unknownField owner key)
  | none => writeFields owner supplied fields []

/-- The value of a discriminator.  `routed` is what the value of a routed literal writes; `named`
is what the caller supplied under the discriminator's key of a named case. -/
def encodeDiscriminator (owner key : String) (routed named : Option Encoding) :
    DiscriminatorSlot → Except EncodeError Json
  | .fixed tag =>
    if routed.isNone && named.isSome then .error (.unknownField owner key) else .ok tag.toJson
  | .supplied layout =>
    match routed.or named with
    | some encoding => encoding layout
    | none => .error (.missingField owner key)

/-- **Writes a case as an object**, the discriminator last.  A value routed by its discriminator
must not supply it again. -/
def encodeObjectCase (owner : String) (case : CaseLayout) (supplied : Entries Encoding)
    (routed : Option Encoding) : Except EncodeError Json :=
  match case with
  | .bare _ _ _ => .error (.typeMismatch "object case" "primitive case")
  | .object name fields key slot => do
    let owner := owner ++ "." ++ name
    let named := supplied.get? key
    if routed.isSome && named.isSome then
      throw (.unknownField owner key)
    let object ← encodeFields owner fields (supplied.filter (·.1 != key))
    let tag ← encodeDiscriminator owner key routed named slot
    return .object (object.insert key tag)

/-- Writes a value that names its case.  A case for bare values holds the bare value under the one
key that such a case has. -/
def encodeNamedCase (v : VariantLayout) (name : String) (supplied : Entries Encoding) :
    Except EncodeError Json :=
  let owner := v.variant.name.name
  match v.case? name with
  | none => .error (.unknownCase owner name)
  | some (.bare _ _ wrapped) =>
    match supplied.get? "value" with
    | some encoding => encoding wrapped
    | none => .error (.missingField (owner ++ "." ++ name) "value")
  | some case => encodeObjectCase owner case supplied none

/-- Writes a value that is selected by its discriminator. -/
def encodeTagged (v : VariantLayout) (tag : Literal) (supplied : Entries Encoding)
    (routed : Encoding) : Except EncodeError Json :=
  let owner := v.variant.name.name
  match v.variant.route tag with
  | .error e => .error (.routing e)
  | .ok c =>
    match v.case? c.name with
    | none => .error (.unknownCase owner c.name)
    | some case => encodeObjectCase owner case supplied (some routed)

/-! ## §4 Values without parts -/

/-- What a target is called where another value is found. -/
def Target.describe : Target → String
  | .scalar kind => kind.text
  | .array _ => "array"
  | .untyped .object => "object"
  | .untyped .any => "any JSON value"
  | .record r => "record " ++ ticked r.name.name
  | .enumeration name _ => "enum " ++ ticked name.name
  | .variant v => v.describe

/-- The JSON value of a scalar. -/
def TypedValue.scalarJson? : TypedValue → Option Json
  | .bool b => some (.bool b)
  | .integer i => some (Json.ofInt64 i)
  | .number x => some (Json.ofBinary64 x)
  | .string s => some (.string s)
  | _ => none

/-- The value of a case of an enumeration. -/
def encodeEnumCase (owner : TypeName) (cases : List EnumCase) (name : String) :
    Except EncodeError Json :=
  match cases.find? (·.name == name) with
  | some c => .ok c.value.toJson
  | none => .error (.unknownCase owner.name name)

/-- **Writes a value that has no parts**: a scalar, the case of an enumeration, or untyped data.
Any other value is a mismatch. -/
def encodeAtom (target : Target) (value : TypedValue) : Except EncodeError Json :=
  match target, value with
  | .scalar .boolean, .bool b => .ok (.bool b)
  | .scalar .integer, .integer i => .ok (Json.ofInt64 i)
  | .scalar .number, .integer i => .ok (Json.ofInt64 i)
  | .scalar .number, .number x => .ok (Json.ofBinary64 x)
  | .scalar .string, .string s => .ok (.string s)
  | .enumeration name cases, .enumCase case => encodeEnumCase name cases case
  | .array (.untyped .any), .untyped (.array items) => .ok (.array items)
  | .untyped .object, .untyped (.object entries) => .ok (.object entries)
  | .untyped .any, .untyped json => .ok json
  | .untyped .any, value =>
    match value.scalarJson? with
    | some json => .ok json
    | none => mismatch target.describe value
  | _, _ => mismatch target.describe value

/-- What a value without parts writes. -/
def Layouts.atomEncoding (ls : Layouts) (value : TypedValue) : Encoding := fun layout => do
  encodeAtom (← ls.target value layout) value

/-! ## §5 Values -/

/-- Writes items by one layout, up to the first that fails. -/
def encodeItems (item : ValueLayout) : List Encoding → Except EncodeError (List Json)
  | [] => .ok []
  | encoding :: rest => do
    let j ← encoding item
    return j :: (← encodeItems item rest)

mutual
/-- **What a value writes** under a layout. -/
def Layouts.encoding (ls : Layouts) : TypedValue → Encoding
  | .array items => fun layout => do
    match ← ls.target (.array items) layout with
    | .array item => return .array (← encodeItems item (ls.itemEncodings items))
    | target => encodeAtom target (.array items)
  | .record fields => fun layout => do
    match ← ls.target (.record fields) layout with
    | .record r => return .object (← encodeFields r.name.name r.fields (ls.entryEncodings fields))
    | target => encodeAtom target (.record fields)
  | .case name fields => fun layout => do
    match ← ls.target (.case name fields) layout with
    | .variant v => encodeNamedCase v name (ls.entryEncodings fields)
    | target => encodeAtom target (.case name fields)
  | .tagged tag fields => fun layout => do
    match ← ls.target (.tagged tag fields) layout with
    | .variant v =>
      encodeTagged v tag (ls.entryEncodings fields) (ls.atomEncoding (TypedValue.ofLiteral tag))
    | target => encodeAtom target (.tagged tag fields)
  | .bool b => ls.atomEncoding (.bool b)
  | .integer i => ls.atomEncoding (.integer i)
  | .number x => ls.atomEncoding (.number x)
  | .string s => ls.atomEncoding (.string s)
  | .enumCase name => ls.atomEncoding (.enumCase name)
  | .untyped json => ls.atomEncoding (.untyped json)
termination_by structural v => v

/-- What the items of a list write. -/
def Layouts.itemEncodings (ls : Layouts) : List TypedValue → List Encoding
  | [] => []
  | v :: rest => ls.encoding v :: ls.itemEncodings rest
termination_by structural vs => vs

/-- What the fields of a value write, by key. -/
def Layouts.entryEncodings (ls : Layouts) : List (String × TypedValue) → Entries Encoding
  | [] => []
  | (key, v) :: rest => (key, ls.encoding v) :: ls.entryEncodings rest
termination_by structural es => es
end

/-- The layout of a named type; an alias stands for another layout. -/
def Layouts.layoutOf (ls : Layouts) (name : TypeName) : ValueLayout :=
  (ls.aliases.get? name.id).getD (.named name.id)

/-- **Writes a value of a named type.** -/
def Layouts.encode (ls : Layouts) (name : TypeName) (value : TypedValue) :
    Except EncodeError Json :=
  ls.encoding value (ls.layoutOf name)

end TrackingPlan
