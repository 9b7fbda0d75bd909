import TrackingPlan.Layout.Encode
import TrackingPlan.Schema.Enumeration
import TrackingPlan.Proofs.Schema.Parts

/-!
# Writing a value by its type

`PropertyType.write` writes a typed value by recursion on the type alone: aliases are followed,
lists go item by item, records and cases by their own fields, enumerations by their own cases, bare
values by the type that their case wraps.  There are no layouts here, no ids and nothing is looked
up; it is the plain meaning that the layouts of a model are to agree with.

What a type writes is kept as a function of the value (`Writer`), so that a record or a case is a
list of keys with writers, in declaration order.

§1 writers · §2 values without parts · §3 objects · §4 variants · §5 types · §6 nothing is looked
up.
-/

namespace TrackingPlan

/-! ## §1 Writers -/

/-- **What a type writes** for a value. -/
abbrev Writer := TypedValue → Except EncodeError Json

/-- A field that is written by `write`. -/
structure FieldWriter where
  key : String
  required : Bool
  write : Writer

/-- A case with what its fields write. -/
structure CaseWriter where
  case : VariantCase
  fields : List FieldWriter

/-- A variant with what its cases and its discriminator write. -/
structure VariantWriter where
  name : String
  discriminator : Option (String × Writer)
  cases : List CaseWriter
  defaultCase : Option CaseWriter

/-! ## §2 Values without parts -/

/-- A scalar is written as itself; an integer also where a number is expected. -/
def ScalarKind.write : ScalarKind → Writer
  | .boolean, .bool b => .ok (.bool b)
  | .integer, .integer i => .ok (Json.ofInt64 i)
  | .number, .integer i => .ok (Json.ofInt64 i)
  | .number, .number x => .ok (Json.ofBinary64 x)
  | .string, .string s => .ok (.string s)
  | kind, v => mismatch kind.text v

/-- Untyped data is written as it is; where anything is allowed, so are scalars. -/
def UntypedKind.write : UntypedKind → Writer
  | .object, .untyped (.object entries) => .ok (.object entries)
  | .object, v => mismatch "object" v
  | .any, .untyped json => .ok json
  | .any, v =>
    match v.scalarKind? with
    | some kind => kind.write v
    | none => mismatch "any JSON value" v

/-- The case of an enumeration is written as its value. -/
def EnumType.write (e : EnumType) : Writer
  | .enumCase name =>
    match e.caseNamed? name with
    | some c => .ok c.value.toJson
    | none => .error (.unknownCase e.name.name name)
  | v => mismatch ("enum " ++ ticked e.name.name) v

/-- Items in order, up to the first that cannot be written. -/
def writeItems (item : Writer) : List TypedValue → Except EncodeError (List Json)
  | [] => .ok []
  | v :: rest => do
    let j ← item v
    return j :: (← writeItems item rest)

/-- A list is written item by item; untyped data that is a list only where its items may be
anything. -/
def writeArray (itemsAreAny : Bool) (item : Writer) : Writer
  | .array items => do return .array (← writeItems item items)
  | .untyped (.array items) =>
    if itemsAreAny then .ok (.array items) else mismatch "array" (.untyped (.array items))
  | v => mismatch "array" v

/-! ## §3 Objects -/

/-- The entries of fields in declaration order; an absent field is left out unless it is
required. -/
def writeEntries (owner : String) (values : Entries TypedValue) :
    List FieldWriter → Except EncodeError Json.Object
  | [] => .ok []
  | f :: rest =>
    match values.get? f.key with
    | some v => do
      let j ← f.write v
      return (f.key, j) :: (← writeEntries owner values rest)
    | none =>
      if f.required then .error (.missingField owner f.key)
      else writeEntries owner values rest

/-- **The entries of an object**: every key of the value is one of the fields. -/
def writeObject (owner : String) (fields : List FieldWriter) (values : Entries TypedValue) :
    Except EncodeError Json.Object :=
  match values.keys.find? fun key => !fields.any (·.key == key) with
  | some key => .error (.unknownField owner key)
  | none => writeEntries owner values fields

/-- A record is written as the object of its fields. -/
def writeRecord (name : String) (fields : List FieldWriter) : Writer
  | .record values => do return .object (← writeObject name fields values)
  | v => mismatch ("record " ++ ticked name) v

/-! ## §4 Variants -/

namespace VariantWriter

/-- What the variant is called where another value is found. -/
def describe (w : VariantWriter) : String :=
  "variant " ++ ticked w.name

/-- All cases, the default case last. -/
def allCases (w : VariantWriter) : List CaseWriter :=
  w.cases ++ w.defaultCase.toList

/-- The first case with this name. -/
def caseNamed? (w : VariantWriter) (name : String) : Option CaseWriter :=
  w.allCases.find? (·.case.name == name)

/-- The tagged case with this literal, or else the default case. -/
def caseTagged? (w : VariantWriter) (value : Literal) : Option CaseWriter :=
  (w.cases.find? fun c => c.case.literal?.any (·.equals value)).or w.defaultCase

/-- The case for bare values of a kind; an integer may fall to the case of numbers. -/
def caseOfKind? (w : VariantWriter) : ValueKind → Option CaseWriter
  | .scalar kind =>
    (w.cases.find? fun c => c.case.scalarKind? == some kind).or
      (w.cases.find? fun c => c.case.scalarKind?.any (·.accepts kind))
  | kind => w.cases.find? fun c => c.case.valueKind? == some kind

/-- **An object case**: its own fields, and the discriminator after them.  `tag` is what the
discriminator writes. -/
def writeObjectCase (w : VariantWriter) (c : CaseWriter) (key : String)
    (values : Entries TypedValue) (tag : Except EncodeError Json) : Except EncodeError Json := do
  let object ← writeObject (w.name ++ "." ++ c.case.name) c.fields (values.filter (·.1 != key))
  return .object (object ++ [(key, ← tag)])

/-- A value that names its case.  A tagged case writes its own tag and must not be given another;
the default case must be given one; a case that wraps a bare value writes that value. -/
def writeNamed (w : VariantWriter) (name : String) (values : Entries TypedValue) :
    Except EncodeError Json :=
  match w.caseNamed? name with
  | none => .error (.unknownCase w.name name)
  | some c =>
    let owner := w.name ++ "." ++ c.case.name
    match c.case.tag, w.discriminator, c.fields with
    | .literal l, some (key, _), _ =>
      w.writeObjectCase c key values
        (if values.has key then .error (.unknownField owner key) else .ok l.toJson)
    | .fallback, some (key, write), _ =>
      w.writeObjectCase c key values
        (match values.get? key with
          | some v => write v
          | none => .error (.missingField owner key))
    | .kind _, none, [wrapped] =>
      match values.get? "value" with
      | some v => wrapped.write v
      | none => .error (.missingField owner "value")
    | _, _, _ => mismatch w.describe (.case name values)

/-- A value that is selected by its discriminator, which it must not hold again. -/
def writeTagged (w : VariantWriter) (value : Literal) (values : Entries TypedValue) :
    Except EncodeError Json :=
  match w.caseTagged? value with
  | none => .error (.routing (.noMatchingCase w.name value.text))
  | some c =>
    match w.discriminator with
    | none => mismatch w.describe (.tagged value values)
    | some (key, write) =>
      if values.has key then .error (.unknownField (w.name ++ "." ++ c.case.name) key)
      else
        match c.case.tag with
        | .literal l => w.writeObjectCase c key values (.ok l.toJson)
        | _ => w.writeObjectCase c key values (write (TypedValue.ofLiteral value))

/-- A bare value, by the type that its case wraps. -/
def writeBare (w : VariantWriter) (value : TypedValue) : Except EncodeError Json :=
  match value.valueKind?.bind w.caseOfKind? with
  | none => mismatch w.describe value
  | some c =>
    match c.case.tag, w.discriminator, c.fields with
    | .kind _, none, [wrapped] => wrapped.write value
    | _, _, _ => mismatch w.describe value

/-- **What a variant writes.** -/
def write (w : VariantWriter) : Writer
  | .case name values => w.writeNamed name values
  | .tagged value values => w.writeTagged value values
  | value => w.writeBare value

end VariantWriter

/-! ## §5 Types -/

/-- Whether values of the type may be anything. -/
def PropertyType.isAny (t : PropertyType) : Bool :=
  match t.resolved with
  | .untyped .any => true
  | _ => false

mutual
/-- **What a type writes**, by the type itself. -/
def PropertyType.write : PropertyType → Writer
  | .scalar kind => kind.write
  | .untyped kind => kind.write
  | .enumeration e => e.write
  | .array item => writeArray item.isAny item.write
  | .aliasType ⟨_, _, target⟩ => target.write
  | .record ⟨name, _, fields⟩ => writeRecord name.name (fieldWriters fields)
  | .variant ⟨name, _, discriminator, cases, defaultCase⟩ =>
    VariantWriter.write ⟨name.name, discriminatorWriter discriminator, caseWriters cases,
      defaultWriter defaultCase⟩
termination_by structural t => t

/-- What fields write. -/
def fieldWriters : List Field → List FieldWriter
  | [] => []
  | ⟨key, type, required, _⟩ :: rest => ⟨key, required, type.write⟩ :: fieldWriters rest
termination_by structural fs => fs

/-- What a discriminator writes. -/
def discriminatorWriter : Option Discriminator → Option (String × Writer)
  | none => none
  | some ⟨key, type, _⟩ => some (key, type.write)
termination_by structural d => d

/-- What cases write. -/
def caseWriters : List VariantCase → List CaseWriter
  | [] => []
  | ⟨name, tag, description, fields⟩ :: rest =>
    ⟨⟨name, tag, description, fields⟩, fieldWriters fields⟩ :: caseWriters rest
termination_by structural cs => cs

/-- What a default case writes. -/
def defaultWriter : Option VariantCase → Option CaseWriter
  | none => none
  | some ⟨name, tag, description, fields⟩ =>
    some ⟨⟨name, tag, description, fields⟩, fieldWriters fields⟩
termination_by structural c => c
end

/-! The recursion runs over fields and cases apart; in terms of lists it is a map. -/

/-- What a field writes. -/
def Field.writer (f : Field) : FieldWriter :=
  ⟨f.key, f.required, f.type.write⟩

/-- What a case writes. -/
def VariantCase.writer (c : VariantCase) : CaseWriter :=
  ⟨c, c.fields.map Field.writer⟩

/-- What the cases of a variant write. -/
def VariantType.writer (v : VariantType) : VariantWriter where
  name := v.name.name
  discriminator := v.discriminator.map fun d => (d.key, d.type.write)
  cases := v.cases.map VariantCase.writer
  defaultCase := v.defaultCase.map VariantCase.writer

theorem VariantType.writer_allCases (v : VariantType) :
    v.writer.allCases = v.allCases.map VariantCase.writer := by
  unfold VariantWriter.allCases allCases writer
  cases v.defaultCase <;> simp

theorem fieldWriters_eq (fields : List Field) : fieldWriters fields = fields.map Field.writer := by
  induction fields with
  | nil => rfl
  | cons f rest ih =>
    obtain ⟨key, type, required, description⟩ := f
    rw [fieldWriters, ih]
    rfl

theorem caseWriters_eq (cases : List VariantCase) :
    caseWriters cases = cases.map VariantCase.writer := by
  induction cases with
  | nil => rfl
  | cons c rest ih =>
    obtain ⟨name, tag, description, fields⟩ := c
    rw [caseWriters, ih, fieldWriters_eq]
    rfl

namespace PropertyType

theorem write_aliasType (a : AliasType) : (aliasType a).write = a.target.write := by
  obtain ⟨name, description, target⟩ := a
  rfl

theorem write_array (item : PropertyType) :
    (array item).write = writeArray item.isAny item.write := rfl

theorem write_record (r : RecordType) :
    (record r).write = writeRecord r.name.name (r.fields.map Field.writer) := by
  obtain ⟨name, description, fields⟩ := r
  rw [write, fieldWriters_eq]

theorem write_variant (v : VariantType) : (variant v).write = v.writer.write := by
  obtain ⟨name, description, discriminator, cases, defaultCase⟩ := v
  have hdisc : discriminatorWriter discriminator =
      discriminator.map fun d => (d.key, d.type.write) := by
    rcases discriminator with _ | ⟨key, type, about⟩ <;> rfl
  have hdefault : defaultWriter defaultCase = defaultCase.map VariantCase.writer := by
    rcases defaultCase with _ | ⟨name, tag, about, fields⟩
    · rfl
    · rw [defaultWriter, fieldWriters_eq]
      rfl
  rw [write, hdisc, hdefault, caseWriters_eq]
  rfl

end PropertyType

/-! ## §6 Nothing is looked up -/

/-- Whether the error is about looking a type up by its id. -/
def EncodeError.isLookup : EncodeError → Bool
  | .unknownType _ => true
  | .endlessType _ => true
  | _ => false

/-- The result is no error about looking a type up. -/
def NoLookupError {α : Type} (result : Except EncodeError α) : Prop :=
  ∀ e, result = .error e → e.isLookup = false

section NoLookupError

variable {α β : Type}

theorem noLookup_ok (a : α) : NoLookupError (.ok a : Except EncodeError α) :=
  nofun

theorem noLookup_error {e : EncodeError} (h : e.isLookup = false) :
    NoLookupError (.error e : Except EncodeError α) := by
  rintro _ ⟨rfl⟩
  exact h

theorem noLookup_mismatch (expected : String) (found : TypedValue) :
    NoLookupError (mismatch expected found : Except EncodeError α) :=
  noLookup_error rfl

theorem noLookup_bind {result : Except EncodeError α} {next : α → Except EncodeError β}
    (h : NoLookupError result) (hnext : ∀ a, NoLookupError (next a)) :
    NoLookupError (result >>= next) := by
  cases result with
  | error e => exact noLookup_error (h e rfl)
  | ok a => exact hnext a

theorem ScalarKind.write_noLookup (kind : ScalarKind) (v : TypedValue) :
    NoLookupError (kind.write v) := by
  unfold ScalarKind.write
  split <;> first | exact noLookup_ok _ | exact noLookup_mismatch _ _

theorem UntypedKind.write_noLookup (kind : UntypedKind) (v : TypedValue) :
    NoLookupError (kind.write v) := by
  unfold UntypedKind.write
  split
  · exact noLookup_ok _
  · exact noLookup_mismatch _ _
  · exact noLookup_ok _
  · split
    · exact ScalarKind.write_noLookup _ _
    · exact noLookup_mismatch _ _

theorem EnumType.write_noLookup (e : EnumType) (v : TypedValue) : NoLookupError (e.write v) := by
  unfold EnumType.write
  split
  · split
    · exact noLookup_ok _
    · exact noLookup_error rfl
  · exact noLookup_mismatch _ _

variable {item : Writer}

theorem writeItems_noLookup (hitem : ∀ v, NoLookupError (item v)) (items : List TypedValue) :
    NoLookupError (writeItems item items) := by
  induction items with
  | nil => exact noLookup_ok _
  | cons v rest ih =>
    exact noLookup_bind (hitem v) fun j => noLookup_bind ih fun js => noLookup_ok _

theorem writeArray_noLookup (isAny : Bool) (hitem : ∀ v, NoLookupError (item v))
    (v : TypedValue) : NoLookupError (writeArray isAny item v) := by
  unfold writeArray
  split
  · exact noLookup_bind (writeItems_noLookup hitem _) fun js => noLookup_ok _
  · split
    · exact noLookup_ok _
    · exact noLookup_mismatch _ _
  · exact noLookup_mismatch _ _

variable {fields : List FieldWriter}

theorem writeObject_noLookup (hfields : ∀ f ∈ fields, ∀ v, NoLookupError (f.write v))
    (owner : String) (values : Entries TypedValue) :
    NoLookupError (writeObject owner fields values) := by
  have hentries : NoLookupError (writeEntries owner values fields) := by
    induction fields with
    | nil => exact noLookup_ok _
    | cons f rest ih =>
      have ih := ih fun g hg => hfields g (List.mem_cons_of_mem f hg)
      unfold writeEntries
      split
      · exact noLookup_bind (hfields f List.mem_cons_self _) fun j =>
          noLookup_bind ih fun js => noLookup_ok _
      · split
        · exact noLookup_error rfl
        · exact ih
  unfold writeObject
  split
  · exact noLookup_error rfl
  · exact hentries

theorem writeRecord_noLookup (hfields : ∀ f ∈ fields, ∀ v, NoLookupError (f.write v))
    (name : String) (v : TypedValue) : NoLookupError (writeRecord name fields v) := by
  unfold writeRecord
  split
  · exact noLookup_bind (writeObject_noLookup hfields _ _) fun js => noLookup_ok _
  · exact noLookup_mismatch _ _

namespace VariantWriter

variable {w : VariantWriter}

theorem mem_allCases_of_caseTagged? {value : Literal} {c : CaseWriter}
    (h : w.caseTagged? value = some c) : c ∈ w.allCases := by
  rcases Option.or_eq_some_iff.mp h with htag | ⟨-, hdefault⟩
  · exact List.mem_append_left _ (List.mem_of_find?_eq_some htag)
  · exact List.mem_append_right _ (Option.mem_toList.mpr hdefault)

theorem mem_allCases_of_caseOfKind? {kind : ValueKind} {c : CaseWriter}
    (h : w.caseOfKind? kind = some c) : c ∈ w.allCases := by
  refine List.mem_append_left _ ?_
  unfold caseOfKind? at h
  split at h
  · rcases Option.or_eq_some_iff.mp h with hexact | ⟨-, haccepts⟩
    · exact List.mem_of_find?_eq_some hexact
    · exact List.mem_of_find?_eq_some haccepts
  · exact List.mem_of_find?_eq_some h

theorem writeObjectCase_noLookup {c : CaseWriter}
    (hfields : ∀ f ∈ c.fields, ∀ v, NoLookupError (f.write v)) (key : String)
    (values : Entries TypedValue) {tag : Except EncodeError Json} (htag : NoLookupError tag) :
    NoLookupError (w.writeObjectCase c key values tag) :=
  noLookup_bind (writeObject_noLookup hfields _ _) fun _ =>
    noLookup_bind htag fun _ => noLookup_ok _

section Cases

variable (hdisc : ∀ d, w.discriminator = some d → ∀ v, NoLookupError (d.2 v))
  (hcases : ∀ c ∈ w.allCases, ∀ f ∈ c.fields, ∀ v, NoLookupError (f.write v))

include hdisc hcases

theorem writeNamed_noLookup (name : String) (values : Entries TypedValue) :
    NoLookupError (w.writeNamed name values) := by
  unfold writeNamed
  split
  · exact noLookup_error rfl
  · rename_i c hcase
    have hc := List.mem_of_find?_eq_some hcase
    dsimp only
    split
    · refine writeObjectCase_noLookup (hcases c hc) _ _ ?_
      split
      · exact noLookup_error rfl
      · exact noLookup_ok _
    · rename_i hd
      refine writeObjectCase_noLookup (hcases c hc) _ _ ?_
      split
      · exact hdisc _ hd _
      · exact noLookup_error rfl
    · rename_i wrapped _ _ hwrapped
      split
      · exact hcases c hc wrapped (by simp [hwrapped]) _
      · exact noLookup_error rfl
    · exact noLookup_mismatch _ _

theorem writeTagged_noLookup (value : Literal) (values : Entries TypedValue) :
    NoLookupError (w.writeTagged value values) := by
  unfold writeTagged
  split
  · exact noLookup_error rfl
  · rename_i c hcase
    have hfields := hcases c (mem_allCases_of_caseTagged? hcase)
    split
    · exact noLookup_mismatch _ _
    · rename_i hd
      split
      · exact noLookup_error rfl
      · split
        · exact writeObjectCase_noLookup hfields _ _ (noLookup_ok _)
        · exact writeObjectCase_noLookup hfields _ _ (hdisc _ hd _)

omit hdisc in
theorem writeBare_noLookup (value : TypedValue) : NoLookupError (w.writeBare value) := by
  unfold writeBare
  split
  · exact noLookup_mismatch _ _
  · rename_i c hcase
    obtain ⟨kind, -, hkind⟩ := Option.bind_eq_some_iff.mp hcase
    split
    · rename_i wrapped _ _ hwrapped
      exact hcases c (mem_allCases_of_caseOfKind? hkind) wrapped (by simp [hwrapped]) _
    · exact noLookup_mismatch _ _

/-- A variant looks nothing up where neither its cases nor its discriminator do. -/
theorem write_noLookup (value : TypedValue) : NoLookupError (w.write value) := by
  unfold write
  split
  · exact writeNamed_noLookup hdisc hcases _ _
  · exact writeTagged_noLookup hdisc hcases _ _
  · exact writeBare_noLookup hcases _

end Cases

end VariantWriter

/-- **What a type writes is no error about looking a type up.** -/
theorem PropertyType.write_noLookup (t : PropertyType) : ∀ v, NoLookupError (t.write v) := by
  induction t using parts_induction with
  | step t ih =>
    intro value
    cases t with
    | scalar kind => exact kind.write_noLookup value
    | untyped kind => exact kind.write_noLookup value
    | enumeration e => exact e.write_noLookup value
    | array item => exact writeArray_noLookup _ (ih item (List.mem_singleton.mpr rfl)) value
    | aliasType a =>
      rw [write_aliasType]
      exact ih a.target (List.mem_singleton.mpr rfl) value
    | record r =>
      rw [write_record]
      refine writeRecord_noLookup (fun w hw => ?_) _ value
      obtain ⟨f, hf, rfl⟩ := List.mem_map.mp hw
      exact ih f.type (List.mem_map.mpr ⟨f, hf, rfl⟩)
    | variant v =>
      rw [write_variant]
      refine VariantWriter.write_noLookup (fun d hd => ?_) (fun c hc w hw => ?_) value
      · obtain ⟨d, hd', rfl⟩ := Option.map_eq_some_iff.mp hd
        exact ih d.type (type_mem_parts_of_discriminator hd')
      · rw [VariantType.writer_allCases] at hc
        obtain ⟨c, hcase, rfl⟩ := List.mem_map.mp hc
        obtain ⟨f, hf, rfl⟩ := List.mem_map.mp hw
        exact ih f.type (type_mem_parts_of_case hcase hf)

end NoLookupError

end TrackingPlan
