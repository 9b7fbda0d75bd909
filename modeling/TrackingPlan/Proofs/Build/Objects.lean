import TrackingPlan.Proofs.Build.Properties

/-!
# Building objects

An object without variants becomes a record with one field for each property it uses, in order
(`BuildState.PlainOf`).  The type of a field can be looked up afterwards: it is the property's own,
or is made of the object nested there, which is kept under the name that the owner and the key give
it.  So an object is told by the tables and by how it uses properties, whenever it was built.

§1 what fields become · §2 plain objects · §3 variants.
-/

namespace TrackingPlan

namespace BuildState

variable {doc : Document} {σ σ' : BuildState} {owner : TypeName}

/-! ## §1 What fields become -/

/-- **The type of a field** whose property is declared as `declared`. -/
def UsedAs (σ : BuildState) (owner : TypeName) (key : String)
    (schema : Option Document.ObjectSchema) (declared t : PropertyType) : Prop :=
  match schema with
  | none => t = declared
  | some _ => ∃ shape, σ.nested.get? (TypeName.nested owner key).id = some shape ∧
      t = Build.withNested declared shape

/-- **The field that the use of a property becomes.** -/
structure FieldOf (doc : Document) (σ : BuildState) (owner : TypeName)
    (use : String × Document.PropertyUse) (f : Field) : Prop where
  key : f.key = use.1
  required : f.required = use.2.required
  description : ∃ p, doc.properties.get? use.1 = some p ∧ f.description = p.description
  type : ∃ declared, σ.properties.get? use.1 = some declared ∧
    σ.UsedAs owner use.1 use.2.schema declared f.type

theorem UsedAs.mono (h : σ.Grows σ') {key : String} {schema : Option Document.ObjectSchema}
    {declared t : PropertyType} (ht : σ.UsedAs owner key schema declared t) :
    σ'.UsedAs owner key schema declared t := by
  cases schema with
  | none => exact ht
  | some _ =>
    obtain ⟨shape, hshape, heq⟩ := ht
    exact ⟨shape, h.nested _ _ hshape, heq⟩

theorem FieldOf.mono (h : σ.Grows σ') {use : String × Document.PropertyUse} {f : Field}
    (hf : σ.FieldOf doc owner use f) : σ'.FieldOf doc owner use f := by
  obtain ⟨declared, hdeclared, htype⟩ := hf.type
  exact ⟨hf.key, hf.required, hf.description, declared, h.properties _ _ hdeclared, htype.mono h⟩

theorem fieldsOf_mono (h : σ.Grows σ') {uses : List (String × Document.PropertyUse)}
    {fields : List Field} (hf : List.Forall₂ (σ.FieldOf doc owner) uses fields) :
    List.Forall₂ (σ'.FieldOf doc owner) uses fields :=
  hf.imp fun _ _ hfield => hfield.mono h

theorem fieldsOf_keys {uses : List (String × Document.PropertyUse)} {fields : List Field}
    (h : List.Forall₂ (σ.FieldOf doc owner) uses fields) :
    fields.map Field.key = uses.map Prod.fst := by
  induction h with
  | nil => rfl
  | cons hf _ ih => rw [List.map_cons, List.map_cons, hf.key, ih]

theorem known_withNested {declared shape : PropertyType} (h : σ.Known doc shape) :
    σ.Known doc (Build.withNested declared shape) := by
  unfold Build.withNested
  split
  · exact known_array h
  · exact h

/-- The type of a field is kept with all within it. -/
theorem FieldOf.known (hσ : σ.Sound doc) {use : String × Document.PropertyUse} {f : Field}
    (hf : σ.FieldOf doc owner use f) : σ.Known doc f.type := by
  obtain ⟨declared, hdeclared, htype⟩ := hf.type
  cases hschema : use.2.schema with
  | none =>
    rw [hschema] at htype
    obtain rfl : f.type = declared := htype
    exact (hσ.properties _ _ hdeclared).known (.inl hdeclared)
  | some _ =>
    rw [hschema] at htype
    obtain ⟨shape, hshape, heq⟩ := htype
    rw [heq]
    exact known_withNested ((hσ.nested_made hshape).known hshape)

theorem fieldsOf_known (hσ : σ.Sound doc) {uses : List (String × Document.PropertyUse)}
    {fields : List Field} (h : List.Forall₂ (σ.FieldOf doc owner) uses fields) :
    ∀ f ∈ fields, σ.Known doc f.type := by
  induction h with
  | nil => exact fun f hf => absurd hf List.not_mem_nil
  | cons hf _ ih => exact List.forall_mem_cons.mpr ⟨hf.known hσ, ih⟩

/-- **What an object without variants becomes.** -/
inductive PlainOf (doc : Document) (σ : BuildState) (name : TypeName)
    (description : Option String) : List (String × Document.PropertyUse) → PropertyType → Prop
  | any : PlainOf doc σ name description [] (Build.aliasOf name description (.untyped .object))
  | record {uses : List (String × Document.PropertyUse)} {fields : List Field} : uses ≠ [] →
      List.Forall₂ (σ.FieldOf doc name) uses fields → (uses.map Prod.fst).Nodup →
      PlainOf doc σ name description uses (.record ⟨name, description, fields⟩)

theorem PlainOf.mono (h : σ.Grows σ') {name : TypeName} {description : Option String}
    {uses : List (String × Document.PropertyUse)} {t : PropertyType}
    (ht : σ.PlainOf doc name description uses t) : σ'.PlainOf doc name description uses t := by
  cases ht with
  | any => exact .any
  | record hne hfields hkeys => exact .record hne (fieldsOf_mono h hfields) hkeys

theorem PlainOf.isObject {name : TypeName} {description : Option String}
    {uses : List (String × Document.PropertyUse)} {t : PropertyType}
    (ht : σ.PlainOf doc name description uses t) : t.isObject = true := by
  cases ht <;> rfl

theorem PlainOf.ne_variant {name : TypeName} {description : Option String}
    {uses : List (String × Document.PropertyUse)} {t : PropertyType}
    (ht : σ.PlainOf doc name description uses t) (v : VariantType) : t ≠ .variant v := by
  cases ht <;> exact nofun

/-- An object that uses properties is a record. -/
theorem PlainOf.exists_fields {name : TypeName} {description : Option String}
    {uses : List (String × Document.PropertyUse)} {t : PropertyType} (hne : uses ≠ [])
    (ht : σ.PlainOf doc name description uses t) :
    ∃ fields, t = .record ⟨name, description, fields⟩ ∧
      List.Forall₂ (σ.FieldOf doc name) uses fields ∧ (uses.map Prod.fst).Nodup := by
  cases ht with
  | any => exact absurd rfl hne
  | record _ hfields hkeys => exact ⟨_, rfl, hfields, hkeys⟩

end BuildState

/-! ## §2 Plain objects -/

namespace Build

open BuildState

variable {doc : Document} {busy : List String} {custom : String → Build PropertyType}
  {σ σ' : BuildState} {t : PropertyType}

/-- **A nested object is entered under its name**, or the same one was there. -/
theorem nestedShape_run {name : TypeName} {shape : PropertyType}
    (h : (nestedShape name shape).run σ = .ok (t, σ')) :
    σ' = σ ∧ σ.nested.get? name.id = some t ∧ t.same shape = true ∨
      σ.nested.get? name.id = none ∧ t = shape ∧
        σ' = { σ with nested := σ.nested.insert name.id t } := by
  unfold nestedShape at h
  obtain ⟨_, _, hget, h⟩ := state_bind_eq_ok.mp h
  obtain ⟨rfl, rfl⟩ := state_get_eq_ok.mp hget
  split at h
  · rename_i hnew
    obtain ⟨_, _, hset, h⟩ := state_bind_eq_ok.mp h
    obtain rfl := state_set_eq_ok.mp hset
    obtain ⟨rfl, rfl⟩ := state_pure_eq_ok.mp h
    exact .inr ⟨hnew, rfl, rfl⟩
  · rename_i existing hexisting
    split at h
    · rename_i hsame
      obtain ⟨rfl, rfl⟩ := state_pure_eq_ok.mp h
      exact .inl ⟨rfl, hexisting, hsame⟩
    · cases h

/-- **A nested object is kept under its name.** -/
theorem nestedShape_eq_ok (busy : List String) (hσ : σ.Sound doc) {name : TypeName}
    {shape : PropertyType}
    (hshape : σ.Made doc name shape) (h : (nestedShape name shape).run σ = .ok (t, σ')) :
    σ.Step doc busy σ' ∧ σ'.nested.get? name.id = some t := by
  rcases nestedShape_run h with ⟨rfl, hkept, -⟩ | ⟨hnew, rfl, rfl⟩
  · exact ⟨.refl busy hσ, hkept⟩
  · exact ⟨step_insert_nested hσ hnew hshape, Entries.get?_insert_self _ _ _⟩

mutual
/-- **An object without variants** is made under its name. -/
theorem plainObject_eq_ok (hcustom : CustomSteps doc busy custom) :
    ∀ (schema : Document.ObjectSchema) {name : TypeName} {description : Option String}
      {σ σ' : BuildState} {t : PropertyType}, σ.Sound doc →
      (plainObject doc custom schema name description).run σ = .ok (t, σ') →
      σ.Step doc busy σ' ∧ σ'.Made doc name t ∧
        σ'.PlainOf doc name description schema.properties t
  | ⟨properties, additional⟩, name, description, σ, σ', t, hσ, h => by
    rw [plainObject] at h
    cases properties with
    | nil =>
      obtain ⟨rfl, rfl⟩ := state_pure_eq_ok.mp h
      exact ⟨.refl busy hσ, made_aliasOf _ _ (known_untyped .object), .any⟩
    | cons use rest =>
      obtain ⟨fields, σ₁, hfields, h⟩ := state_bind_eq_ok.mp h
      obtain ⟨r, _, hlift, h⟩ := state_bind_eq_ok.mp h
      obtain ⟨hr, rfl⟩ := state_lift_eq_ok.mp hlift
      obtain ⟨rfl, rfl⟩ := state_pure_eq_ok.mp h
      obtain ⟨hstep, hof⟩ := objectFields_eq_ok hcustom (use :: rest) hσ hfields
      obtain ⟨rfl, hkeys, hmade⟩ := made_record hr (fieldsOf_known hstep.sound hof)
      exact ⟨hstep, hmade, .record nofun hof (fieldsOf_keys hof ▸ hkeys)⟩
termination_by structural schema => schema

/-- **Each use of a property becomes a field.** -/
theorem objectFields_eq_ok (hcustom : CustomSteps doc busy custom) :
    ∀ (uses : List (String × Document.PropertyUse)) {owner : TypeName} {σ σ' : BuildState}
      {fields : List Field}, σ.Sound doc →
      (objectFields doc custom uses owner).run σ = .ok (fields, σ') →
      σ.Step doc busy σ' ∧ List.Forall₂ (σ'.FieldOf doc owner) uses fields
  | [], owner, σ, σ', fields, hσ, h => by
    obtain ⟨rfl, rfl⟩ := state_pure_eq_ok.mp h
    exact ⟨.refl busy hσ, .nil⟩
  | (key, ⟨required, schema⟩) :: rest, owner, σ, σ', fields, hσ, h => by
    rw [objectFields] at h
    split at h
    · cases h
    · rename_i p hp
      obtain ⟨declared, σ₁, hdeclared, h⟩ := state_bind_eq_ok.mp h
      obtain ⟨type, σ₂, htype, h⟩ := state_bind_eq_ok.mp h
      obtain ⟨others, σ₃, hothers, h⟩ := state_bind_eq_ok.mp h
      obtain ⟨rfl, rfl⟩ := state_pure_eq_ok.mp h
      obtain ⟨hstep₁, hkept⟩ := property_eq_ok hcustom hσ hdeclared
      obtain ⟨hstep₂, hused⟩ := nestedObject_eq_ok hcustom schema hstep₁.sound htype
      obtain ⟨hstep₃, hof⟩ := objectFields_eq_ok hcustom rest hstep₂.sound hothers
      have hgrows := hstep₂.toGrows.trans hstep₃.toGrows
      refine ⟨hstep₁.trans (hstep₂.trans hstep₃), .cons ⟨rfl, rfl, ⟨p, hp, rfl⟩, declared,
        hgrows.properties _ _ hkept, hused.mono hstep₃.toGrows⟩ hof⟩
termination_by structural uses => uses

/-- **The type of a field** is its property's, or is made of the object nested there. -/
theorem nestedObject_eq_ok (hcustom : CustomSteps doc busy custom) :
    ∀ (schema : Option Document.ObjectSchema) {owner : TypeName} {key : String}
      {description : Option String} {declared : PropertyType} {σ σ' : BuildState}
      {t : PropertyType}, σ.Sound doc →
      (nestedObject doc custom schema owner key description declared).run σ = .ok (t, σ') →
      σ.Step doc busy σ' ∧ σ'.UsedAs owner key schema declared t
  | none, owner, key, description, declared, σ, σ', t, hσ, h => by
    obtain ⟨rfl, rfl⟩ := state_pure_eq_ok.mp h
    exact ⟨.refl busy hσ, rfl⟩
  | some schema, owner, key, description, declared, σ, σ', t, hσ, h => by
    rw [nestedObject] at h
    obtain ⟨shape, σ₁, hshape, h⟩ := state_bind_eq_ok.mp h
    obtain ⟨kept, σ₂, hkept, h⟩ := state_bind_eq_ok.mp h
    obtain ⟨rfl, rfl⟩ := state_pure_eq_ok.mp h
    obtain ⟨hstep, hmade, -⟩ := plainObject_eq_ok hcustom schema hσ hshape
    obtain ⟨hstep', hentry⟩ := nestedShape_eq_ok busy hstep.sound hmade hkept
    exact ⟨hstep.trans hstep', kept, hentry, rfl⟩
termination_by structural schema => schema
end

/-! ## §3 Variants -/

theorem taggedShapes_eq_ok (hcustom : CustomSteps doc busy custom) {name : TypeName}
    {cases : List Document.Case} :
    ∀ {σ σ' : BuildState} {shapes : List TaggedShape}, σ.Sound doc →
      (taggedShapes doc custom name cases).run σ = .ok (shapes, σ') →
      σ.Step doc busy σ' ∧ ∀ shape ∈ shapes, ∀ f ∈ shape.fields, σ'.Known doc f.type := by
  induction cases with
  | nil =>
    intro σ σ' shapes hσ h
    obtain ⟨rfl, rfl⟩ := state_pure_eq_ok.mp h
    exact ⟨.refl busy hσ, fun _ hshape => absurd hshape List.not_mem_nil⟩
  | cons c rest ih =>
    intro σ σ' shapes hσ h
    rw [taggedShapes] at h
    obtain ⟨tags, _, hlift, h⟩ := state_bind_eq_ok.mp h
    obtain ⟨-, rfl⟩ := state_lift_eq_ok.mp hlift
    obtain ⟨fields, σ₁, hfields, h⟩ := state_bind_eq_ok.mp h
    obtain ⟨others, σ₂, hothers, h⟩ := state_bind_eq_ok.mp h
    obtain ⟨rfl, rfl⟩ := state_pure_eq_ok.mp h
    obtain ⟨hstep, hof⟩ := objectFields_eq_ok hcustom _ hσ hfields
    obtain ⟨hstep', hknown⟩ := ih hstep.sound hothers
    refine ⟨hstep.trans hstep', List.forall_mem_cons.mpr ⟨fun f hf => ?_, hknown⟩⟩
    exact (fieldsOf_known hstep.sound hof f hf).mono hstep'.toGrows

theorem made_discriminated {node : DiscriminatedNode} {v : VariantType}
    (h : node.resolve = .ok v) (hbase : ∀ f ∈ node.baseFields, σ.Known doc f.type)
    (hshapes : ∀ shape ∈ node.shapes, ∀ f ∈ shape.fields, σ.Known doc f.type)
    (hdefault : ∀ extra, node.defaultFields = some extra → ∀ f ∈ extra, σ.Known doc f.type)
    (hkeys : doc.WellFormed → (node.baseFields.map Field.key).Nodup) :
    σ.Made doc node.name (.variant v) ∧ v.discriminator ≠ none := by
  have hv := DiscriminatedNode.resolvesTo_of_resolve h
  refine ⟨⟨congrArg some hv.name, fun u hu => ?_, fun hdoc =>
    VariantType.faults_eq_nil_iff.mpr (hv.wellFormed (hkeys hdoc))⟩, ?_⟩
  · rcases hv.mem_parts hu with hmem | ⟨shape, hshape, hmem⟩ | ⟨extra, hextra, hmem⟩
    · obtain ⟨f, hf, rfl⟩ := List.mem_map.mp hmem
      exact hbase f hf
    · obtain ⟨f, hf, rfl⟩ := List.mem_map.mp hmem
      exact hshapes shape hshape f hf
    · obtain ⟨f, hf, rfl⟩ := List.mem_map.mp hmem
      exact hdefault extra hextra f hf
  · obtain ⟨f, -, -, hdisc⟩ := hv.discriminator
    rw [hdisc]
    exact Option.some_ne_none _

/-- **An object with a variant block** is what the resolver keeps under its name. -/
theorem variantObject_eq_ok (hcustom : CustomSteps doc busy custom) (hσ : σ.Sound doc)
    {name : TypeName} {description : Option String} {schema : Document.ObjectSchema}
    {block : Document.Variant} (hname : name.origin ≠ .property)
    (hkeys : doc.WellFormed → (schema.properties.map Prod.fst).Nodup)
    (h : (variantObject doc custom name description schema block).run σ = .ok (t, σ')) :
    σ.Step doc busy σ' ∧
      ∃ v, t = .variant v ∧ σ'.resolver.resolved.get? name.id = some v := by
  unfold variantObject at h
  dsimp only at h
  split at h
  · cases h
  · obtain ⟨base, σ₁, hbase, h⟩ := state_bind_eq_ok.mp h
    obtain ⟨shapes, σ₂, hshapes, h⟩ := state_bind_eq_ok.mp h
    obtain ⟨hstep₁, hof⟩ := objectFields_eq_ok hcustom _ hσ hbase
    obtain ⟨hstep₂, hshapes⟩ := taggedShapes_eq_ok hcustom hstep₁.sound hshapes
    have hrest : ∃ extra σ₃, σ₂.Step doc busy σ₃ ∧
        (∀ fields, extra = some fields → ∀ f ∈ fields, σ₃.Known doc f.type) ∧
        (resolve (.discriminated ⟨name, description, base, block.discriminator, shapes,
          extra⟩)).run σ₃ = .ok (t, σ') := by
      split at h
      · exact ⟨none, σ₂, .refl busy hstep₂.sound, nofun, h⟩
      · obtain ⟨fields, σ₃, hfields, h⟩ := state_bind_eq_ok.mp h
        obtain ⟨hstep, hof⟩ := objectFields_eq_ok hcustom _ hstep₂.sound hfields
        refine ⟨some fields, σ₃, hstep, fun others heq => ?_, h⟩
        exact Option.some.inj heq ▸ fieldsOf_known hstep.sound hof
    obtain ⟨extra, σ₃, hstep₃, hextra, h⟩ := hrest
    have hgrows := hstep₂.toGrows.trans hstep₃.toGrows
    obtain ⟨hstep₄, -, hkept⟩ := resolve_eq_ok busy hstep₃.sound h fun v hv => by
      obtain ⟨hmade, hdisc⟩ := made_discriminated hv
        (fun f hf => (fieldsOf_known hstep₁.sound hof f hf).mono hgrows)
        (fun shape hshape f hf => (hshapes shape hshape f hf).mono hstep₃.toGrows) hextra
        fun hdoc => fieldsOf_keys hof ▸ hkeys hdoc
      exact ⟨hmade, fun heq => absurd heq hname, fun _ => hdisc⟩
    exact ⟨hstep₁.trans (hstep₂.trans (hstep₃.trans hstep₄)), hkept⟩

end Build

namespace BuildState

variable {doc : Document} {σ σ' : BuildState} {name : TypeName} {description : Option String}
  {uses : List (String × Document.PropertyUse)} {blocks : List Document.Variant} {t : PropertyType}

/-- **What an object becomes**: plain, or the variant that the resolver keeps for it. -/
inductive ObjectOf (doc : Document) (σ : BuildState) (name : TypeName)
    (description : Option String) (uses : List (String × Document.PropertyUse)) :
    List Document.Variant → PropertyType → Prop
  | plain {t : PropertyType} : σ.PlainOf doc name description uses t →
      ObjectOf doc σ name description uses [] t
  | variant {blocks : List Document.Variant} {v : VariantType} : blocks ≠ [] →
      σ.resolver.resolved.get? name.id = some v →
      ObjectOf doc σ name description uses blocks (.variant v)

theorem ObjectOf.mono (h : σ.Grows σ') (ht : σ.ObjectOf doc name description uses blocks t) :
    σ'.ObjectOf doc name description uses blocks t := by
  cases ht with
  | plain hplain => exact .plain (hplain.mono h)
  | variant hne hkept => exact .variant hne (h.resolved _ _ hkept)

theorem ObjectOf.plain_of_nil (hblocks : blocks = [])
    (ht : σ.ObjectOf doc name description uses blocks t) :
    σ.PlainOf doc name description uses t := by
  cases ht with
  | plain hplain => exact hplain
  | variant hne _ => exact absurd hblocks hne

theorem ObjectOf.exists_variant (hblocks : blocks ≠ [])
    (ht : σ.ObjectOf doc name description uses blocks t) :
    ∃ v, t = .variant v ∧ σ.resolver.resolved.get? name.id = some v := by
  cases ht with
  | plain _ => exact absurd rfl hblocks
  | variant _ hkept => exact ⟨_, rfl, hkept⟩

end BuildState

namespace Build

open BuildState

variable {doc : Document} {busy : List String} {custom : String → Build PropertyType}
  {σ σ' : BuildState} {t : PropertyType}

/-- **An object is made under its name**, and written as one outside of properties. -/
theorem objectShape_eq_ok (hcustom : CustomSteps doc busy custom) (hσ : σ.Sound doc)
    {name : TypeName} {description : Option String} {schema : Document.ObjectSchema}
    {blocks : List Document.Variant} (hname : name.origin ≠ .property)
    (hkeys : doc.WellFormed → (schema.properties.map Prod.fst).Nodup)
    (h : (objectShape doc custom name description schema blocks).run σ = .ok (t, σ')) :
    σ.Step doc busy σ' ∧ σ'.Made doc name t ∧ t.isObject = true ∧
      σ'.ObjectOf doc name description schema.properties blocks t := by
  unfold objectShape at h
  split at h
  · obtain ⟨hstep, hmade, hplain⟩ := plainObject_eq_ok hcustom schema hσ h
    exact ⟨hstep, hmade, hplain.isObject, .plain hplain⟩
  · obtain ⟨hstep, v, rfl, hkept⟩ := variantObject_eq_ok hcustom hσ hname hkeys h
    obtain ⟨hmade, hoffers⟩ := hstep.sound.resolved_made hkept
    refine ⟨hstep, hmade, ?_, .variant nofun hkept⟩
    obtain ⟨d, hd⟩ := Option.ne_none_iff_exists'.mp (hoffers.shaped hname)
    show (!v.discriminator.isNone) = true
    rw [hd]
    rfl
  · cases h

end Build

end TrackingPlan
