import TrackingPlan.Proofs.Build.Identification
import TrackingPlan.Proofs.Schema.Equality
import TrackingPlan.Proofs.Schema.NestedNames

/-!
# What a document says of nested objects

What an object without variants becomes can be read off the document, given the types of properties
(`Document.plainType`).  A field that building makes of a property's use agrees with it, by the
types of properties that are known then and by those of any tables that these grow to
(`BuildState.Becomes`).  So what a field holds can be compared across owners: two objects nested
under one key are one type only if they go by one name.

§1 types by the document · §2 fields that agree · §3 fields of two owners.
-/

namespace TrackingPlan

/-! ## §1 Types by the document -/

namespace Document

/-- The description of a property. -/
def about (doc : Document) (key : String) : Option String :=
  (doc.properties.get? key).bind (·.description)

mutual
/-- **What an object without variants is**: a record of its properties, or any object if it has
none.  `types` gives the types of properties. -/
def plainType (doc : Document) (types : String → Option PropertyType) :
    ObjectSchema → TypeName → Option String → PropertyType
  | ⟨properties, _⟩, name, description =>
    if properties.isEmpty then
      Build.aliasOf name description (.untyped .object)
    else
      .record ⟨name, description, plainFields doc types properties name⟩
termination_by structural s => s

/-- The fields of an object schema, with what is nested there named after `owner`. -/
def plainFields (doc : Document) (types : String → Option PropertyType) :
    List (String × PropertyUse) → TypeName → List Field
  | [], _ => []
  | (key, ⟨required, schema⟩) :: rest, owner =>
    ⟨key, usedType doc types schema owner key, required, doc.about key⟩ ::
      plainFields doc types rest owner
termination_by structural us => us

/-- **What a field holds**: what its property does, or an object that its use nests there; an array
of it if the property is an array. -/
def usedType (doc : Document) (types : String → Option PropertyType) :
    Option ObjectSchema → TypeName → String → PropertyType
  | none, _, key => (types key).getD (.untyped .any)
  | some schema, owner, key =>
    Build.withNested ((types key).getD (.untyped .any))
      (plainType doc types schema (TypeName.nested owner key) (doc.about key))
termination_by structural s => s
end

end Document

/-! ## §2 Fields that agree -/

namespace BuildState

variable {doc : Document} {σ σ' τ : BuildState} {owner owner' : TypeName}
  {uses : List (String × Document.PropertyUse)} {fields : List Field}

/-- **The field that a use becomes**, and what it holds by the document, from now on. -/
structure Becomes (doc : Document) (σ : BuildState) (owner : TypeName)
    (use : String × Document.PropertyUse) (f : Field) : Prop extends FieldOf doc σ owner use f where
  settled : ∀ τ, σ.Grows τ → f.type = doc.usedType τ.properties.get? use.2.schema owner use.1

theorem Becomes.mono (h : σ.Grows σ') {use : String × Document.PropertyUse} {f : Field}
    (hf : σ.Becomes doc owner use f) : σ'.Becomes doc owner use f :=
  ⟨hf.toFieldOf.mono h, fun τ hτ => hf.settled τ (h.trans hτ)⟩

theorem becomes_mono (h : σ.Grows σ') (hf : List.Forall₂ (σ.Becomes doc owner) uses fields) :
    List.Forall₂ (σ'.Becomes doc owner) uses fields :=
  hf.imp fun _ _ hfield => hfield.mono h

/-- **The fields of an object are what the document says.** -/
theorem eq_plainFields (hf : List.Forall₂ (σ.Becomes doc owner) uses fields) (hτ : σ.Grows τ) :
    fields = doc.plainFields τ.properties.get? uses owner := by
  induction hf with
  | nil => rfl
  | @cons use f rest fields hfirst _ ih =>
    obtain ⟨key, required, schema⟩ := use
    obtain ⟨fieldKey, type, fieldRequired, description⟩ := f
    obtain ⟨p, hp, hdescription⟩ := hfirst.description
    have habout : doc.about key = p.description := by rw [Document.about, hp, Option.bind_some]
    obtain rfl : fieldKey = key := hfirst.key
    obtain rfl : fieldRequired = required := hfirst.required
    obtain rfl : description = doc.about fieldKey := hdescription.trans habout.symm
    rw [Document.plainFields, ← hfirst.settled τ hτ, ← ih]

/-- The first use of a key becomes the first field of the key. -/
theorem exists_find?_of_becomes (hf : List.Forall₂ (σ.Becomes doc owner) uses fields)
    {key : String} {use : Document.PropertyUse} (huse : Entries.get? uses key = some use) :
    ∃ f, fields.find? (·.key == key) = some f ∧ σ.Becomes doc owner (key, use) f := by
  induction hf with
  | nil => cases huse
  | @cons first f rest fields hfirst _ ih =>
    obtain ⟨k, firstUse⟩ := first
    rw [Entries.get?_cons] at huse
    rw [List.find?_cons, hfirst.key]
    by_cases hkey : k = key
    · subst hkey
      rw [if_pos rfl] at huse
      obtain rfl := Option.some.inj huse
      exact ⟨f, by rw [beq_self_eq_true], hfirst⟩
    · rw [if_neg hkey] at huse
      rw [beq_eq_false_iff_ne.mpr hkey]
      exact ih huse

/-! ## §3 Fields of two owners -/

theorem withNested_injective {declared shape shape' : PropertyType}
    (h : Build.withNested declared shape = Build.withNested declared shape') : shape = shape' := by
  unfold Build.withNested at h
  split at h
  · exact PropertyType.array.inj h
  · exact h

/-- **Objects that two owners nest under one key differ where their names do**, and each differs
from what the property holds by itself. -/
theorem FieldOf.type_ne (hσ : σ.Sound doc) {key : String} {use use' : Document.PropertyUse}
    {f f' : Field} (hf : σ.FieldOf doc owner (key, use) f)
    (hf' : σ.FieldOf doc owner' (key, use') f') (hnested : use'.schema.isSome = true)
    (hnames : TypeName.nested owner' key ≠ TypeName.nested owner key) : f.type ≠ f'.type := by
  intro heq
  have hsome : use.schema.isSome = true := by
    rw [hf.isSome_iff hσ, heq]
    exact (hf'.isSome_iff hσ).mp hnested
  obtain ⟨inner, hinner⟩ := Option.isSome_iff_exists.mp hsome
  obtain ⟨inner', hinner'⟩ := Option.isSome_iff_exists.mp hnested
  obtain ⟨declared, hdeclared, htype⟩ := hf.type
  obtain ⟨declared', hdeclared', htype'⟩ := hf'.type
  obtain rfl := Option.some.inj (hdeclared.symm.trans hdeclared')
  dsimp only at htype htype'
  rw [hinner] at htype
  rw [hinner'] at htype'
  obtain ⟨shape, hshape, hof⟩ := htype
  obtain ⟨shape', hshape', hof'⟩ := htype'
  -- both hold one shape, which was made under one name
  obtain rfl := withNested_injective (hof.symm.trans (heq.trans hof'))
  have hname := (hσ.nested_made hshape).name
  have hname' := (hσ.nested_made hshape').name
  exact hnames (Option.some.inj (hname'.symm.trans hname))

end BuildState

end TrackingPlan
