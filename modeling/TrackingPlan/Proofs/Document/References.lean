import TrackingPlan.Proofs.Build.Order

/-!
# What a document refers to

A document refers to custom types and to properties by their names.  Building follows a reference
only where it plays a part: an enumeration is made of its values alone, the type of items counts for
lists only, and the schemas of a custom type for objects only.  So a declaration's references are
those at places that building reads (`read`) and those that it passes over (`unread`).

§1 references · §2 schemas · §3 declarations · §4 documents.
-/

namespace TrackingPlan.Document

/-! ## §1 References -/

/-- **A reference**: to a custom type, or in a schema to a property. -/
inductive Reference where
  | customType (name : String)
  | property (key : String)
deriving DecidableEq

/-- **The reference names something that is declared.** -/
def Reference.IsDeclared (doc : Document) : Reference → Prop
  | .customType name => name ∈ doc.customTypes.keys
  | .property key => key ∈ doc.properties.keys

instance (doc : Document) (r : Reference) : Decidable (r.IsDeclared doc) :=
  match r with
  | .customType name => inferInstanceAs (Decidable (name ∈ doc.customTypes.keys))
  | .property key => inferInstanceAs (Decidable (key ∈ doc.properties.keys))

/-- The custom type that a reference to a type names, if it names one. -/
def typeReference? : TypeRef → Option Reference
  | .custom name => some (.customType name)
  | _ => none

/-- The custom types that references to types name. -/
def typeReferences (refs : List TypeRef) : List Reference :=
  refs.filterMap typeReference?

theorem mem_typeReferences {refs : List TypeRef} {r : Reference} :
    r ∈ typeReferences refs ↔ ∃ name, .custom name ∈ refs ∧ r = .customType name := by
  rw [typeReferences, List.mem_filterMap]
  constructor
  · rintro ⟨ref, href, hr⟩
    cases ref with
    | custom name => exact ⟨name, href, (Option.some.inj hr).symm⟩
    | _ => cases hr
  · rintro ⟨name, href, rfl⟩
    exact ⟨.custom name, href, rfl⟩

theorem typeReferences_append (refs more : List TypeRef) :
    typeReferences (refs ++ more) = typeReferences refs ++ typeReferences more :=
  List.filterMap_append

/-- `null` names no custom type, so leaving it out loses no reference. -/
theorem typeReferences_filter (refs : List TypeRef) :
    typeReferences (refs.filter (· != .null)) = typeReferences refs := by
  unfold typeReferences
  rw [List.filterMap_filter]
  refine List.filterMap_congr fun ref _ => ?_
  cases ref <;> rfl

/-! ## §2 Schemas -/

mutual
/-- The properties that a schema uses, at any depth. -/
def ObjectSchema.references : ObjectSchema → List Reference
  | ⟨properties, _⟩ => useReferences properties
termination_by structural schema => schema

/-- The properties that are used, with those that nested schemas use. -/
def useReferences : List (String × PropertyUse) → List Reference
  | [] => []
  | (key, ⟨_, schema⟩) :: rest => .property key :: nestedReferences schema ++ useReferences rest
termination_by structural uses => uses

/-- The properties that a nested schema uses, if there is one. -/
def nestedReferences : Option ObjectSchema → List Reference
  | none => []
  | some schema => schema.references
termination_by structural schema => schema
end

theorem ObjectSchema.references_eq (schema : ObjectSchema) :
    schema.references = useReferences schema.properties := by
  cases schema
  rfl

/-- The properties that any of the schemas uses. -/
def schemaReferences (schemas : List ObjectSchema) : List Reference :=
  schemas.flatMap ObjectSchema.references

/-! ## §3 Declarations -/

namespace CustomType

/-- **All references of a custom type.** -/
def references (t : CustomType) : List Reference :=
  typeReferences (t.type :: t.itemType.toList) ++ schemaReferences t.schemas

/-- **Those that building reads.** -/
def read (t : CustomType) : List Reference :=
  if t.isEnumeration then
    []
  else
    typeReferences [t.type] ++
      ((if t.type = .array then typeReferences t.itemType.toList else []) ++
        if t.type = .object then schemaReferences t.schemas else [])

/-- **Those that building passes over.** -/
def unread (t : CustomType) : List Reference :=
  if t.isEnumeration then
    t.references
  else
    (if t.type = .array then [] else typeReferences t.itemType.toList) ++
      if t.type = .object then [] else schemaReferences t.schemas

/-- **Each reference is read or passed over.** -/
theorem mem_references_iff {t : CustomType} {r : Reference} :
    r ∈ t.references ↔ r ∈ t.read ∨ r ∈ t.unread := by
  have hsplit : t.references = typeReferences [t.type] ++
      (typeReferences t.itemType.toList ++ schemaReferences t.schemas) := by
    rw [references, ← List.singleton_append, typeReferences_append, List.append_assoc]
  unfold read unread
  split
  · simp
  · rw [hsplit]
    by_cases harray : t.type = .array
    · have hobject : t.type ≠ .object := by rw [harray]; exact nofun
      simp [harray, or_assoc]
    · by_cases hobject : t.type = .object
      · simp [hobject, or_left_comm, or_comm]
      · simp [harray, hobject]

end CustomType

namespace Property

/-- **All references of a property.** -/
def references (q : Property) : List Reference :=
  typeReferences (q.types ++ q.itemTypes)

/-- **Those that building reads.** -/
def read (q : Property) : List Reference :=
  if q.isEnumeration then
    []
  else
    typeReferences q.kinds ++ if q.kinds = [.array] then typeReferences q.itemTypes else []

/-- **Those that building passes over.** -/
def unread (q : Property) : List Reference :=
  if q.isEnumeration then
    q.references
  else if q.kinds = [.array] then
    []
  else
    typeReferences q.itemTypes

/-- **Each reference is read or passed over.** -/
theorem mem_references_iff {q : Property} {r : Reference} :
    r ∈ q.references ↔ r ∈ q.read ∨ r ∈ q.unread := by
  have hsplit : q.references = typeReferences q.kinds ++ typeReferences q.itemTypes := by
    rw [references, typeReferences_append, kinds, typeReferences_filter]
  unfold read unread
  split
  · simp
  · rw [hsplit]
    by_cases harray : q.kinds = [.array]
    · simp [harray]
    · simp [harray]

end Property

/-- The references of a rule; building passes over none. -/
def Rule.references (r : Rule) : List Reference :=
  schemaReferences (r.schema :: r.variants.flatMap Variant.schemas)

/-! ## §4 Documents -/

/-- **The document refers to it**, somewhere. -/
inductive Refers (doc : Document) (r : Reference) : Prop
  | customType {name : String} {t : CustomType} : doc.customTypes.get? name = some t →
      r ∈ t.references → Refers doc r
  | property {key : String} {q : Property} : doc.properties.get? key = some q →
      r ∈ q.references → Refers doc r
  | rule {rule : Rule} : rule ∈ doc.rules → r ∈ rule.references → Refers doc r

/-- **The document refers to it where building reads it.** -/
inductive Reads (doc : Document) (r : Reference) : Prop
  | customType {name : String} {t : CustomType} : doc.customTypes.get? name = some t →
      r ∈ t.read → Reads doc r
  | property {key : String} {q : Property} : doc.properties.get? key = some q →
      r ∈ q.read → Reads doc r
  | rule {rule : Rule} : rule ∈ doc.rules → r ∈ rule.references → Reads doc r

/-- **The document refers to it where building passes over it.** -/
inductive PassesOver (doc : Document) (r : Reference) : Prop
  | customType {name : String} {t : CustomType} : doc.customTypes.get? name = some t →
      r ∈ t.unread → PassesOver doc r
  | property {key : String} {q : Property} : doc.properties.get? key = some q →
      r ∈ q.unread → PassesOver doc r

theorem refers_iff {doc : Document} {r : Reference} :
    doc.Refers r ↔ doc.Reads r ∨ doc.PassesOver r := by
  constructor
  · intro h
    cases h with
    | customType ht hr =>
      exact (CustomType.mem_references_iff.mp hr).imp (.customType ht) (.customType ht)
    | property hq hr =>
      exact (Property.mem_references_iff.mp hr).imp (.property hq) (.property hq)
    | rule hmem hr => exact .inl (.rule hmem hr)
  · rintro (h | h)
    · cases h with
      | customType ht hr => exact .customType ht (CustomType.mem_references_iff.mpr (.inl hr))
      | property hq hr => exact .property hq (Property.mem_references_iff.mpr (.inl hr))
      | rule hmem hr => exact .rule hmem hr
    · cases h with
      | customType ht hr => exact .customType ht (CustomType.mem_references_iff.mpr (.inr hr))
      | property hq hr => exact .property hq (Property.mem_references_iff.mpr (.inr hr))

end TrackingPlan.Document
