import TrackingPlan.Proofs.Build.Order
import TrackingPlan.Proofs.Build.PlainTypes

/-!
# Where variants of objects come from

A variant with a discriminator is what a variant block of the document resolved to, the block of a
custom type or of a rule.  The tables are traced if this holds of all that they keep
(`BuildState.Traced`), and each step of building keeps them so; on the way it tells what the uses of
properties became, which are the fields that the block was resolved with.  So whatever the resolver
answers from memory, it answers with a block under the name that was asked for.

§1 variant blocks · §2 traced tables · §3 references and properties · §4 objects · §5 variants ·
§6 custom types · §7 rules · §8 the model.
-/

namespace TrackingPlan

/-! ## §1 Variant blocks -/

/-- **A variant block of the document**, with the schema that its cases share: of a custom type that
is no enumeration, or of a rule. -/
inductive Document.HasBlock (doc : Document) :
    TypeName → Document.ObjectSchema → Document.Variant → Prop
  | customType {name : String} {t : Document.CustomType} {block : Document.Variant} :
      doc.customTypes.get? name = some t → t.isEnumeration = false → t.variants = [block] →
      HasBlock doc (.customType name) (t.schema.getD .empty) block
  | rule {r : Document.Rule} {block : Document.Variant} : r ∈ doc.rules → r.variants = [block] →
      HasBlock doc (.event r.payloadTypeName) r.schema block

namespace BuildState

variable {doc : Document} {σ σ' : BuildState} {v : VariantType}

/-- **The shape that a case becomes**, with the objects nested there named after the case. -/
structure ShapeOf (doc : Document) (σ : BuildState) (name : TypeName) (c : Document.Case)
    (shape : TaggedShape) : Prop where
  tags : Build.caseTags name c = .ok shape.tags
  fields : List.Forall₂ (σ.Becomes doc (name.caseScope (Build.caseLabel c shape.tags)))
    c.schema.properties shape.fields

/-- **The alternation that a variant block becomes.** -/
structure NodeOf (doc : Document) (σ : BuildState) (base : Document.ObjectSchema)
    (block : Document.Variant) (node : DiscriminatedNode) : Prop where
  discriminator : node.discriminator = block.discriminator
  base : List.Forall₂ (σ.Becomes doc node.name) base.properties node.baseFields
  shapes : List.Forall₂ (σ.ShapeOf doc node.name) block.cases node.shapes
  default : ∀ extra, node.defaultFields = some extra → ∃ own, block.defaultSchema = some own ∧
    List.Forall₂ (σ.Becomes doc (node.name.caseScope Build.defaultLabel)) own.properties extra

/-- **A variant that comes from a variant block.** -/
def FromBlock (doc : Document) (σ : BuildState) (v : VariantType) : Prop :=
  ∃ base block node, doc.HasBlock node.name base block ∧ σ.NodeOf doc base block node ∧
    node.resolve = .ok v

theorem ShapeOf.mono (h : σ.Grows σ') {name : TypeName} {c : Document.Case} {shape : TaggedShape}
    (hc : σ.ShapeOf doc name c shape) : σ'.ShapeOf doc name c shape :=
  ⟨hc.tags, becomes_mono h hc.fields⟩

theorem NodeOf.mono (h : σ.Grows σ') {base : Document.ObjectSchema} {block : Document.Variant}
    {node : DiscriminatedNode} (hnode : σ.NodeOf doc base block node) :
    σ'.NodeOf doc base block node := by
  refine ⟨hnode.discriminator, becomes_mono h hnode.base,
    hnode.shapes.imp fun _ _ hc => hc.mono h, fun extra hextra => ?_⟩
  obtain ⟨own, hown, hfields⟩ := hnode.default extra hextra
  exact ⟨own, hown, becomes_mono h hfields⟩

theorem FromBlock.mono (h : σ.Grows σ') (hv : σ.FromBlock doc v) : σ'.FromBlock doc v := by
  obtain ⟨base, block, node, hblock, hnode, hresolve⟩ := hv
  exact ⟨base, block, node, hblock, hnode.mono h, hresolve⟩

/-! ## §2 Traced tables -/

/-- **The tables are traced**: each variant with a discriminator that is kept comes from a variant
block, and no nested object is a variant. -/
structure Traced (doc : Document) (σ : BuildState) : Prop where
  resolved : ∀ id v, σ.resolver.resolved.get? id = some v → v.discriminator ≠ none →
    σ.FromBlock doc v
  customTypes : ∀ name v, σ.customTypes.get? name = some (.variant v) → σ.FromBlock doc v
  nested : ∀ id v, σ.nested.get? id ≠ some (.variant v)

theorem traced_start (doc : Document) : Traced doc {} :=
  ⟨nofun, nofun, nofun⟩

/-- The tables stay traced when they grow by traced entries. -/
theorem Traced.of_grows (ht : σ.Traced doc) (h : σ.Grows σ')
    (hresolved : ∀ id v, σ'.resolver.resolved.get? id = some v →
      σ.resolver.resolved.get? id = some v ∨ (v.discriminator ≠ none → σ.FromBlock doc v))
    (hcustom : ∀ name v, σ'.customTypes.get? name = some (.variant v) →
      σ.customTypes.get? name = some (.variant v) ∨ σ.FromBlock doc v)
    (hnested : ∀ id v, σ'.nested.get? id = some (.variant v) →
      σ.nested.get? id = some (.variant v)) : σ'.Traced doc := by
  refine ⟨fun id v hv hdisc => ?_, fun name v hv => ?_, fun id v hv => ?_⟩
  · rcases hresolved id v hv with hold | hnew
    · exact (ht.resolved id v hold hdisc).mono h
    · exact (hnew hdisc).mono h
  · rcases hcustom name v hv with hold | hnew
    · exact (ht.customTypes name v hold).mono h
    · exact hnew.mono h
  · exact ht.nested id v (hnested id v hv)

end BuildState

namespace Build

open BuildState

variable {doc : Document} {busy : List String} {custom : String → Build PropertyType}
  {σ σ' : BuildState} {t : PropertyType}

/-- **What resolving adds to the tables** comes from a block if the alternation does. -/
theorem resolve_traced (ht : σ.Traced doc) {node : AlternationNode}
    (hnode : ∀ v, node.resolve = .ok v → v.discriminator ≠ none → σ.FromBlock doc v)
    (h : (resolve node).run σ = .ok (t, σ')) : σ'.Traced doc := by
  obtain ⟨v, resolver, -, hresolves, rfl⟩ := resolve_run h
  cases hresolves with
  | remembered _ =>
    have hgrows : σ.Grows { σ with resolver := { σ.resolver with hits := σ.resolver.hits + 1 } } :=
      ⟨fun _ _ h => h, fun _ _ h => h, fun _ _ h => h, fun _ _ h => h⟩
    exact ht.of_grows hgrows (fun _ _ hv => .inl hv) (fun _ _ hv => .inl hv) fun _ _ hv => hv
  | made hnew hv =>
    have hgrows : σ.Grows { σ with resolver :=
        { σ.resolver with resolved := σ.resolver.resolved.insert node.name.id v } } :=
      ⟨fun _ _ h => h, fun _ _ h => h, fun _ _ h => h,
        fun _ _ h => Entries.get?_insert_of_new hnew h⟩
    refine ht.of_grows hgrows (fun id w hw => ?_) (fun _ _ hw => .inl hw) fun _ _ hw => hw
    rcases Entries.of_get?_insert hw with ⟨-, rfl⟩ | hold
    · exact .inr (hnode _ hv)
    · exact .inl hold

/-! ## §3 References and properties -/

/-- Building a custom type keeps the tables traced. -/
abbrev TracesTypes (doc : Document) (custom : String → Build PropertyType) : Prop :=
  ∀ {name : String} {σ σ' : BuildState} {t : PropertyType}, σ.Sound doc → σ.Traced doc →
    (custom name).run σ = .ok (t, σ') → σ'.Traced doc

theorem typeRef_traced (htypes : TracesTypes doc custom) (hσ : σ.Sound doc) (ht : σ.Traced doc)
    {owner : String} {ref : TypeRef} (h : (typeRef doc custom owner ref).run σ = .ok (t, σ')) :
    σ'.Traced doc := by
  cases ref with
  | custom c =>
    unfold typeRef at h
    dsimp only at h
    split at h
    · exact htypes hσ ht h
    · cases h
  | _ =>
    obtain ⟨-, rfl⟩ := state_pure_eq_ok.mp h
    exact ht

/-- Variants of bare values have no discriminator to trace. -/
theorem kindAlternation_traced (ht : σ.Traced doc) {owner : String} {name : TypeName}
    {description : Option String} {refs : List TypeRef}
    (h : (kindAlternation owner name description refs).run σ = .ok (t, σ')) : σ'.Traced doc := by
  unfold kindAlternation at h
  obtain ⟨kinds, _, hlift, h⟩ := state_bind_eq_ok.mp h
  obtain ⟨-, rfl⟩ := state_lift_eq_ok.mp hlift
  refine resolve_traced ht (fun v hv hdisc => ?_) h
  rw [(PrimitiveNode.resolvesTo_of_resolve hv).eq] at hdisc
  exact absurd rfl hdisc

theorem arrayItem_traced (htypes : TracesTypes doc custom) (hσ : σ.Sound doc) (ht : σ.Traced doc)
    {name : String} {itemTypes : List TypeRef}
    (h : (arrayItem doc custom name itemTypes).run σ = .ok (t, σ')) : σ'.Traced doc := by
  unfold arrayItem at h
  split at h
  · obtain ⟨-, rfl⟩ := state_pure_eq_ok.mp h
    exact ht
  · exact typeRef_traced htypes hσ ht h
  · exact kindAlternation_traced ht h

theorem propertyShape_traced (htypes : TracesTypes doc custom) (hσ : σ.Sound doc)
    (ht : σ.Traced doc) {name : String} {q : Document.Property}
    (h : (propertyShape doc custom name q).run σ = .ok (t, σ')) : σ'.Traced doc := by
  unfold propertyShape at h
  obtain ⟨listed, _, hlift, h⟩ := state_bind_eq_ok.mp h
  obtain ⟨-, rfl⟩ := state_lift_eq_ok.mp hlift
  cases listed with
  | some values =>
    obtain ⟨e, _, hlift, h⟩ := state_bind_eq_ok.mp h
    obtain ⟨-, rfl⟩ := state_lift_eq_ok.mp hlift
    obtain ⟨-, rfl⟩ := state_pure_eq_ok.mp h
    exact ht
  | none =>
    dsimp only at h
    split at h
    · obtain ⟨-, rfl⟩ := state_pure_eq_ok.mp h
      exact ht
    · obtain ⟨item, _, hitem, h⟩ := state_bind_eq_ok.mp h
      obtain ⟨-, rfl⟩ := state_pure_eq_ok.mp h
      exact arrayItem_traced htypes hσ ht hitem
    · obtain ⟨target, _, htarget, h⟩ := state_bind_eq_ok.mp h
      obtain ⟨-, rfl⟩ := state_pure_eq_ok.mp h
      exact typeRef_traced htypes hσ ht htarget
    · exact kindAlternation_traced ht h

/-- **A property is entered beside the variants that are kept.** -/
theorem property_traced (hsteps : CustomSteps doc busy custom) (htypes : TracesTypes doc custom)
    {name : String} (hσ : σ.Sound doc) (ht : σ.Traced doc)
    (h : (property doc custom name).run σ = .ok (t, σ')) : σ'.Traced doc := by
  rcases property_run h with ⟨rfl, -⟩ | ⟨q, σ₁, hnew, hq, hshape, rfl⟩
  · exact ht
  · obtain ⟨hstep, hmade, hbuilt, hfree, hrefs⟩ := propertyShape_eq_ok hsteps hσ hq hshape
    have hentered : σ₁.Step doc busy { σ₁ with properties := σ₁.properties.insert name t } :=
      step_insert_property hstep.sound (hfree hnew) hmade hq hbuilt hrefs
    exact (propertyShape_traced htypes hσ ht hshape).of_grows hentered.toGrows
      (fun _ _ hv => .inl hv) (fun _ _ hv => .inl hv) fun _ _ hv => hv

/-! ## §4 Objects -/

/-- **What is kept for a nested object is that object**, for only an equal one may be there. -/
theorem nestedShape_traced (ht : σ.Traced doc) {name : TypeName} {shape : PropertyType}
    (hshape : ∀ v, shape ≠ .variant v) (hgrows : σ.Grows σ')
    (h : (nestedShape name shape).run σ = .ok (t, σ')) : t = shape ∧ σ'.Traced doc := by
  rcases nestedShape_run h with ⟨rfl, -, hsame⟩ | ⟨-, rfl, rfl⟩
  · exact ⟨PropertyType.eq_of_same hsame, ht⟩
  · refine ⟨rfl, ht.of_grows hgrows (fun _ _ hv => .inl hv) (fun _ _ hv => .inl hv)
      fun id v hv => ?_⟩
    rcases Entries.of_get?_insert hv with ⟨-, heq⟩ | hold
    · exact absurd heq (hshape v)
    · exact hold

mutual
/-- **An object without variants is what the document says**, by the properties built so far. -/
theorem plainObject_traced (hsteps : CustomSteps doc busy custom)
    (htypes : TracesTypes doc custom) :
    ∀ (schema : Document.ObjectSchema) {name : TypeName} {description : Option String}
      {σ σ' : BuildState} {t : PropertyType}, σ.Sound doc → σ.Traced doc →
      (plainObject doc custom schema name description).run σ = .ok (t, σ') →
      σ'.Traced doc ∧ ∀ τ, σ'.Grows τ →
        t = doc.plainType τ.properties.get? schema name description
  | ⟨properties, additional⟩, name, description, σ, σ', t, hσ, ht, h => by
    rw [plainObject] at h
    cases properties with
    | nil =>
      obtain ⟨rfl, rfl⟩ := state_pure_eq_ok.mp h
      exact ⟨ht, fun τ _ => rfl⟩
    | cons use rest =>
      obtain ⟨fields, σ₁, hfields, h⟩ := state_bind_eq_ok.mp h
      obtain ⟨r, _, hlift, h⟩ := state_bind_eq_ok.mp h
      obtain ⟨hr, rfl⟩ := state_lift_eq_ok.mp hlift
      obtain ⟨rfl, rfl⟩ := state_pure_eq_ok.mp h
      obtain ⟨hstep, hof⟩ := objectFields_eq_ok hsteps (use :: rest) hσ hfields
      obtain ⟨rfl, -, -⟩ := made_record hr (fieldsOf_known hstep.sound hof)
      obtain ⟨htraced, hbecomes⟩ := objectFields_traced hsteps htypes (use :: rest) hσ ht hfields
      refine ⟨htraced, fun τ hτ => ?_⟩
      rw [Document.plainType, ← eq_plainFields hbecomes hτ]
      rfl
termination_by structural schema => schema

/-- **Each use of a property becomes what the document says.** -/
theorem objectFields_traced (hsteps : CustomSteps doc busy custom)
    (htypes : TracesTypes doc custom) :
    ∀ (uses : List (String × Document.PropertyUse)) {owner : TypeName} {σ σ' : BuildState}
      {fields : List Field}, σ.Sound doc → σ.Traced doc →
      (objectFields doc custom uses owner).run σ = .ok (fields, σ') →
      σ'.Traced doc ∧ List.Forall₂ (σ'.Becomes doc owner) uses fields
  | [], owner, σ, σ', fields, hσ, ht, h => by
    obtain ⟨rfl, rfl⟩ := state_pure_eq_ok.mp h
    exact ⟨ht, .nil⟩
  | (key, ⟨required, schema⟩) :: rest, owner, σ, σ', fields, hσ, ht, h => by
    rw [objectFields] at h
    split at h
    · cases h
    · rename_i p hp
      obtain ⟨declared, σ₁, hdeclared, h⟩ := state_bind_eq_ok.mp h
      obtain ⟨type, σ₂, htype, h⟩ := state_bind_eq_ok.mp h
      obtain ⟨others, σ₃, hothers, h⟩ := state_bind_eq_ok.mp h
      obtain ⟨rfl, rfl⟩ := state_pure_eq_ok.mp h
      obtain ⟨hstep₁, hkept⟩ := property_eq_ok hsteps hσ hdeclared
      obtain ⟨hstep₂, hused⟩ := nestedObject_eq_ok hsteps schema hstep₁.sound htype
      obtain ⟨hstep₃, -⟩ := objectFields_eq_ok hsteps rest hstep₂.sound hothers
      have ht₁ := property_traced hsteps htypes hσ ht hdeclared
      have habout : doc.about key = p.description := by rw [Document.about, hp, Option.bind_some]
      obtain ⟨ht₂, hsettled⟩ :=
        nestedObject_traced hsteps htypes schema hstep₁.sound ht₁ hkept habout htype
      obtain ⟨ht₃, hbecomes⟩ := objectFields_traced hsteps htypes rest hstep₂.sound ht₂ hothers
      have hgrows := hstep₂.toGrows.trans hstep₃.toGrows
      have hfield : σ₃.FieldOf doc owner (key, ⟨required, schema⟩)
          ⟨key, type, required, p.description⟩ :=
        ⟨rfl, rfl, ⟨p, hp, rfl⟩, declared, hgrows.properties _ _ hkept, hused.mono hstep₃.toGrows⟩
      exact ⟨ht₃, .cons ⟨hfield, fun τ hτ => hsettled τ (hstep₃.toGrows.trans hτ)⟩ hbecomes⟩
termination_by structural uses => uses

/-- **What is nested in a field is what the document says.** -/
theorem nestedObject_traced (hsteps : CustomSteps doc busy custom)
    (htypes : TracesTypes doc custom) :
    ∀ (schema : Option Document.ObjectSchema) {owner : TypeName} {key : String}
      {description : Option String} {declared : PropertyType} {σ σ' : BuildState}
      {t : PropertyType}, σ.Sound doc → σ.Traced doc → σ.properties.get? key = some declared →
      doc.about key = description →
      (nestedObject doc custom schema owner key description declared).run σ = .ok (t, σ') →
      σ'.Traced doc ∧ ∀ τ, σ'.Grows τ → t = doc.usedType τ.properties.get? schema owner key
  | none, owner, key, description, declared, σ, σ', t, hσ, ht, hkept, habout, h => by
    obtain ⟨rfl, rfl⟩ := state_pure_eq_ok.mp h
    refine ⟨ht, fun τ hτ => ?_⟩
    rw [Document.usedType, hτ.properties _ _ hkept]
    rfl
  | some schema, owner, key, description, declared, σ, σ', t, hσ, ht, hkept, habout, h => by
    rw [nestedObject] at h
    obtain ⟨shape, σ₁, hshape, h⟩ := state_bind_eq_ok.mp h
    obtain ⟨kept, σ₂, hentered, h⟩ := state_bind_eq_ok.mp h
    obtain ⟨rfl, rfl⟩ := state_pure_eq_ok.mp h
    obtain ⟨hstep, hmade, hplain⟩ := plainObject_eq_ok hsteps schema hσ hshape
    obtain ⟨ht₁, hsettled⟩ := plainObject_traced hsteps htypes schema hσ ht hshape
    obtain ⟨hstep', -⟩ := nestedShape_eq_ok busy hstep.sound hmade hentered
    obtain ⟨rfl, ht₂⟩ := nestedShape_traced ht₁ hplain.ne_variant hstep'.toGrows hentered
    refine ⟨ht₂, fun τ hτ => ?_⟩
    have hgrows := hstep'.toGrows.trans hτ
    rw [Document.usedType, (hstep.toGrows.trans hgrows).properties _ _ hkept, habout,
      ← hsettled τ hgrows]
    rfl
termination_by structural schema => schema
end

/-! ## §5 Variants -/

theorem taggedShapes_traced (hsteps : CustomSteps doc busy custom)
    (htypes : TracesTypes doc custom) {name : TypeName} {cases : List Document.Case} :
    ∀ {σ σ' : BuildState} {shapes : List TaggedShape}, σ.Sound doc → σ.Traced doc →
      (taggedShapes doc custom name cases).run σ = .ok (shapes, σ') →
      σ'.Traced doc ∧ List.Forall₂ (σ'.ShapeOf doc name) cases shapes := by
  induction cases with
  | nil =>
    intro σ σ' shapes hσ ht h
    obtain ⟨rfl, rfl⟩ := state_pure_eq_ok.mp h
    exact ⟨ht, .nil⟩
  | cons c rest ih =>
    intro σ σ' shapes hσ ht h
    rw [taggedShapes] at h
    obtain ⟨tags, _, hlift, h⟩ := state_bind_eq_ok.mp h
    obtain ⟨htags, rfl⟩ := state_lift_eq_ok.mp hlift
    obtain ⟨fields, σ₁, hfields, h⟩ := state_bind_eq_ok.mp h
    obtain ⟨others, σ₂, hothers, h⟩ := state_bind_eq_ok.mp h
    obtain ⟨rfl, rfl⟩ := state_pure_eq_ok.mp h
    obtain ⟨hstep, -⟩ := objectFields_eq_ok hsteps _ hσ hfields
    obtain ⟨hstep', -⟩ := taggedShapes_eq_ok hsteps hstep.sound hothers
    obtain ⟨ht₁, hbecomes⟩ := objectFields_traced hsteps htypes _ hσ ht hfields
    obtain ⟨ht₂, hshapes⟩ := ih hstep.sound ht₁ hothers
    exact ⟨ht₂, .cons ⟨htags, becomes_mono hstep'.toGrows hbecomes⟩ hshapes⟩

/-- **A variant block is resolved with the fields that the document says.** -/
theorem variantObject_traced (hsteps : CustomSteps doc busy custom)
    (htypes : TracesTypes doc custom) (hσ : σ.Sound doc) (ht : σ.Traced doc) {name : TypeName}
    {description : Option String} {schema : Document.ObjectSchema} {block : Document.Variant}
    (hblock : doc.HasBlock name schema block)
    (h : (variantObject doc custom name description schema block).run σ = .ok (t, σ')) :
    σ'.Traced doc := by
  unfold variantObject at h
  dsimp only at h
  split at h
  · cases h
  · obtain ⟨base, σ₁, hbase, h⟩ := state_bind_eq_ok.mp h
    obtain ⟨shapes, σ₂, hshapes, h⟩ := state_bind_eq_ok.mp h
    obtain ⟨hstep₁, -⟩ := objectFields_eq_ok hsteps _ hσ hbase
    obtain ⟨hstep₂, -⟩ := taggedShapes_eq_ok hsteps hstep₁.sound hshapes
    obtain ⟨ht₁, hbase⟩ := objectFields_traced hsteps htypes _ hσ ht hbase
    obtain ⟨ht₂, hshapes⟩ := taggedShapes_traced hsteps htypes hstep₁.sound ht₁ hshapes
    -- the default is built last, if there is one
    have hrest : ∃ extra σ₃, σ₂.Grows σ₃ ∧ σ₃.Traced doc ∧
        (∀ fields, extra = some fields → ∃ own, block.defaultSchema = some own ∧
          List.Forall₂ (σ₃.Becomes doc (name.caseScope defaultLabel)) own.properties fields) ∧
        (resolve (.discriminated ⟨name, description, base, block.discriminator, shapes,
          extra⟩)).run σ₃ = .ok (t, σ') := by
      split at h
      · exact ⟨none, σ₂, .refl σ₂, ht₂, nofun, h⟩
      · rename_i own hown
        obtain ⟨fields, σ₃, hfields, h⟩ := state_bind_eq_ok.mp h
        obtain ⟨hstep, -⟩ := objectFields_eq_ok hsteps _ hstep₂.sound hfields
        obtain ⟨ht₃, hbecomes⟩ := objectFields_traced hsteps htypes _ hstep₂.sound ht₂ hfields
        refine ⟨some fields, σ₃, hstep.toGrows, ht₃, fun others heq => ?_, h⟩
        exact ⟨own, hown, Option.some.inj heq ▸ hbecomes⟩
    obtain ⟨extra, σ₃, hgrows, ht₃, hextra, h⟩ := hrest
    refine resolve_traced ht₃ (fun v hv _ => ?_) h
    refine ⟨schema, block, _, hblock, ⟨rfl, ?_, ?_, hextra⟩, hv⟩
    · exact becomes_mono (hstep₂.toGrows.trans hgrows) hbase
    · exact hshapes.imp fun _ _ hc => hc.mono hgrows

theorem objectShape_traced (hsteps : CustomSteps doc busy custom)
    (htypes : TracesTypes doc custom) (hσ : σ.Sound doc) (ht : σ.Traced doc) {name : TypeName}
    {description : Option String} {schema : Document.ObjectSchema} {blocks : List Document.Variant}
    (hblock : ∀ block, blocks = [block] → doc.HasBlock name schema block)
    (h : (objectShape doc custom name description schema blocks).run σ = .ok (t, σ')) :
    σ'.Traced doc := by
  unfold objectShape at h
  split at h
  · exact (plainObject_traced hsteps htypes schema hσ ht h).1
  · exact variantObject_traced hsteps htypes hσ ht (hblock _ rfl) h
  · cases h

/-- **A variant that an object becomes comes from a block**: the resolver keeps it. -/
theorem fromBlock_of_object (hσ : σ.Sound doc) (ht : σ.Traced doc) {name : TypeName}
    (hname : name.origin ≠ .property) {description : Option String}
    {uses : List (String × Document.PropertyUse)} {blocks : List Document.Variant} {v : VariantType}
    (h : σ.ObjectOf doc name description uses blocks (.variant v)) : σ.FromBlock doc v := by
  cases h with
  | plain hplain => exact absurd rfl (hplain.ne_variant v)
  | variant _ hkept =>
    obtain ⟨-, hoffers⟩ := hσ.resolved_made hkept
    exact ht.resolved _ v hkept (hoffers.shaped hname)

/-! ## §6 Custom types -/

theorem customShape_traced (hsteps : CustomSteps doc busy custom)
    (htypes : TracesTypes doc custom) (hσ : σ.Sound doc) (ht : σ.Traced doc) {name : String}
    {declared : Document.CustomType} (hdeclared : doc.customTypes.get? name = some declared)
    (h : (customShape doc custom name declared).run σ = .ok (t, σ')) :
    σ'.Traced doc ∧ ∀ v, t = .variant v → σ'.FromBlock doc v := by
  unfold customShape at h
  obtain ⟨listed, _, hlift, h⟩ := state_bind_eq_ok.mp h
  obtain ⟨henum, rfl⟩ := state_lift_eq_ok.mp hlift
  cases listed with
  | some values =>
    obtain ⟨e, _, hlift, h⟩ := state_bind_eq_ok.mp h
    obtain ⟨-, rfl⟩ := state_lift_eq_ok.mp hlift
    obtain ⟨rfl, rfl⟩ := state_pure_eq_ok.mp h
    exact ⟨ht, nofun⟩
  | none =>
    have hnot : declared.isEnumeration = false := by
      rw [Document.CustomType.isEnumeration, enumValues_eq_none henum]
      rfl
    dsimp only at h
    split at h
    · cases h
    · split at h
      · have hkeys := nodup_keys_of_customType hdeclared
        have hname : TypeOrigin.customType ≠ .property := nofun
        have ht' := objectShape_traced hsteps htypes hσ ht
          (fun block hblock => .customType hdeclared hnot hblock) h
        obtain ⟨hstep, -, -, hobject⟩ := objectShape_eq_ok hsteps hσ hname hkeys h
        refine ⟨ht', fun v hv => ?_⟩
        rw [hv] at hobject
        exact fromBlock_of_object hstep.sound ht' hname hobject
      · split at h
        · obtain ⟨rfl, rfl⟩ := state_pure_eq_ok.mp h
          exact ⟨ht, nofun⟩
        · obtain ⟨item, _, hitem, h⟩ := state_bind_eq_ok.mp h
          obtain ⟨rfl, rfl⟩ := state_pure_eq_ok.mp h
          exact ⟨typeRef_traced htypes hσ ht hitem, nofun⟩
      · obtain ⟨target, _, htarget, h⟩ := state_bind_eq_ok.mp h
        obtain ⟨rfl, rfl⟩ := state_pure_eq_ok.mp h
        exact ⟨typeRef_traced htypes hσ ht htarget, nofun⟩

/-- **Building a custom type keeps the tables traced**, however many more can be built. -/
theorem customType_traced (doc : Document) (left : Nat) :
    ∀ busy, TracesTypes doc (customType doc left busy) := by
  induction left with
  | zero =>
    intro busy name σ σ' t _ ht h
    obtain ⟨rfl, -⟩ := customType_zero_eq_ok h
    exact ht
  | succ left ih =>
    intro busy name σ σ' t hσ ht h
    rcases customType_succ_run h with ⟨rfl, -⟩ |
      ⟨declared, σ₁, hnew, hdeclared, hidle, hshape, rfl⟩
    · exact ht
    · have hsteps := customType_steps doc left (name :: busy)
      obtain ⟨hstep, hmade⟩ := customShape_eq_ok hsteps hσ hdeclared hshape
      obtain ⟨ht₁, hfrom⟩ := customShape_traced hsteps (ih _) hσ ht hdeclared hshape
      -- while it was being built, the type was not entered
      have hstill := hstep.busy _ List.mem_cons_self hnew
      have hentered : σ₁.Step doc busy { σ₁ with customTypes := σ₁.customTypes.insert name t } :=
        step_insert_customType hstep.sound hstill hidle hmade
      refine ht₁.of_grows hentered.toGrows (fun _ _ hv => .inl hv) (fun c v hv => ?_)
        fun _ _ hv => hv
      rcases Entries.of_get?_insert hv with ⟨-, heq⟩ | hold
      · exact .inr (hfrom v heq)
      · exact .inl hold

/-! ## §7 Rules -/

theorem declaredType_traced (doc : Document) : TracesTypes doc (declaredType doc) :=
  customType_traced doc doc.customTypes.length []

theorem rule_traced (hσ : σ.Sound doc) (ht : σ.Traced doc) {r : Document.Rule} (hr : r ∈ doc.rules)
    {r' : Rule} (h : (rule doc r).run σ = .ok (r', σ')) : σ'.Traced doc := by
  unfold rule at h
  dsimp only at h
  split at h
  · obtain ⟨-, rfl⟩ := state_pure_eq_ok.mp h
    exact ht
  · obtain ⟨u, σ₁, hshape, h⟩ := state_bind_eq_ok.mp h
    obtain ⟨-, rfl⟩ := state_pure_eq_ok.mp h
    exact objectShape_traced (declaredType_steps doc) (declaredType_traced doc) hσ ht
      (fun block hblock => .rule hr hblock) hshape

/-- Types built in order, each of which leaves the tables traced. -/
theorem named_traced {build : String → Build PropertyType}
    (hsteps : ∀ {name : String} {σ σ' : BuildState} {t : PropertyType}, σ.Sound doc →
      (build name).run σ = .ok (t, σ') → σ.Step doc [] σ')
    (hbuild : TracesTypes doc build) {names : List String} :
    ∀ {σ σ' : BuildState} {entries : Entries PropertyType}, σ.Sound doc → σ.Traced doc →
      (named build names).run σ = .ok (entries, σ') → σ'.Sound doc ∧ σ'.Traced doc := by
  induction names with
  | nil =>
    intro σ σ' entries hσ ht h
    obtain ⟨-, rfl⟩ := state_pure_eq_ok.mp h
    exact ⟨hσ, ht⟩
  | cons name rest ih =>
    intro σ σ' entries hσ ht h
    rw [named] at h
    obtain ⟨t, σ₁, hfirst, h⟩ := state_bind_eq_ok.mp h
    obtain ⟨others, σ₂, hothers, h⟩ := state_bind_eq_ok.mp h
    obtain ⟨-, rfl⟩ := state_pure_eq_ok.mp h
    exact ih (hsteps hσ hfirst).sound (hbuild hσ ht hfirst) hothers

theorem rules_traced {rules : List Document.Rule} :
    ∀ {σ σ' : BuildState} {built : List Rule}, σ.Sound doc → σ.Traced doc →
      (∀ r ∈ rules, r ∈ doc.rules) → (rules.mapM (rule doc)).run σ = .ok (built, σ') →
      σ'.Traced doc := by
  induction rules with
  | nil =>
    intro σ σ' built _ ht _ h
    obtain ⟨-, rfl⟩ := state_pure_eq_ok.mp h
    exact ht
  | cons r rest ih =>
    intro σ σ' built hσ ht hmem h
    obtain ⟨hr, hrest⟩ := List.forall_mem_cons.mp hmem
    rw [List.mapM_cons] at h
    obtain ⟨r', σ₁, hfirst, h⟩ := state_bind_eq_ok.mp h
    obtain ⟨others, σ₂, hothers, h⟩ := state_bind_eq_ok.mp h
    obtain ⟨-, rfl⟩ := state_pure_eq_ok.mp h
    exact ih (rule_eq_ok hσ hr hfirst).1.sound (rule_traced hσ ht hr hfirst) hrest hothers

/-! ## §8 The model -/

/-- **The tables that a build leaves are traced.** -/
theorem schema_traced {s : Schema} (h : (Build.schema doc).run {} = .ok (s, σ)) :
    σ.Traced doc := by
  unfold Build.schema at h
  obtain ⟨customTypes, σ₁, hcustom, h⟩ := state_bind_eq_ok.mp h
  obtain ⟨properties, σ₂, hproperties, h⟩ := state_bind_eq_ok.mp h
  obtain ⟨rules, σ₃, hrules, h⟩ := state_bind_eq_ok.mp h
  obtain ⟨-, rfl⟩ := state_pure_eq_ok.mp h
  have hsteps := declaredType_steps doc
  obtain ⟨hσ₁, ht₁⟩ := named_traced (fun hσ h => (hsteps.step hσ h).1) (declaredType_traced doc)
    (sound_start doc) (traced_start doc) hcustom
  obtain ⟨hσ₂, ht₂⟩ := named_traced (fun hσ h => (property_eq_ok hsteps hσ h).1)
    (fun hσ ht h => property_traced hsteps (declaredType_traced doc) hσ ht h) hσ₁ ht₁ hproperties
  exact rules_traced hσ₂ ht₂ (fun _ hr => hr) hrules

end Build

variable {doc : Document} {σ : BuildState}

/-- A property that is a variant is one of bare values. -/
theorem BuildState.Sound.undiscriminated_property (hσ : σ.Sound doc) {name : String}
    {v : VariantType} (h : σ.properties.get? name = some (.variant v)) :
    v.discriminator = none := by
  obtain ⟨q, -, hbuilt, -⟩ := hσ.declared name _ h
  by_cases halt : q.Alternates
  · obtain ⟨w, hw, hkept⟩ := hbuilt.alternates halt
    obtain rfl := PropertyType.variant.inj hw
    obtain ⟨refs, -, hbetween⟩ := (hσ.resolved_made hkept).2.listed rfl
    exact hbetween.discriminator
  · exact absurd rfl (hbuilt.single halt v)

/-- **A variant of the model that has a discriminator comes from a variant block.** -/
theorem Schema.BuiltFrom.fromBlock {s : Schema} (h : s.BuiltFrom doc σ) (ht : σ.Traced doc)
    {v : VariantType} (hv : s.Reaches (.variant v)) (hdisc : v.discriminator ≠ none) :
    σ.FromBlock doc v := by
  rcases h.knows_or_payload hv rfl with hk | ⟨r, -, -, hof⟩
  · unfold BuildState.Knows at hk
    split at hk
    · exact ht.customTypes _ v hk
    · rcases hk with hk | ⟨_, _, w, -, -, -, hw, hkept⟩
      · exact absurd (h.sound.undiscriminated_property hk) hdisc
      · obtain rfl := PropertyType.variant.inj hw
        exact ht.resolved _ v hkept hdisc
    · exact absurd hk (ht.nested _ v)
    · exact hk.elim
  · have hname : TypeOrigin.event ≠ .property := nofun
    exact Build.fromBlock_of_object h.sound ht hname hof.object

end TrackingPlan
