import TrackingPlan.Proofs.Alternation.ObjectShapes
import TrackingPlan.Proofs.Build.Blocks

/-!
# When a case keeps the objects that it nests

A case of a variant block can nest an object under a key, and the object is named after the case, so
that cases can nest different objects under one key.  Merging puts the fields of the case behind
those of the base, and a key of both keeps the type that it has in the base.  So the object of the
case is built, and then forgotten if the base declares its key: a case keeps what it nests exactly
under the keys that its base leaves to it (`Schema.case_keeps_iff`).

§1 types of merged fields · §2 labels of cases · §3 where a case comes from ·
§4 cases that keep what they nest · §5 a plan.
-/

namespace TrackingPlan

/-! ## §1 Types of merged fields -/

/-- The type under a key: that of the first field that has the key. -/
def fieldType? (fields : List Field) (key : String) : Option PropertyType :=
  (fields.find? (·.key == key)).map Field.type

section Merged

variable {fields base own : List Field} {discriminator key : String}

theorem fieldType?_cons (f : Field) (rest : List Field) (key : String) :
    fieldType? (f :: rest) key = if f.key = key then some f.type else fieldType? rest key := by
  unfold fieldType?
  rw [List.find?_cons]
  by_cases h : f.key = key
  · rw [if_pos h, beq_iff_eq.mpr h, Option.map_some]
  · rw [if_neg h, beq_eq_false_iff_ne.mpr h]

theorem fieldType?_append (fields more : List Field) (key : String) :
    fieldType? (fields ++ more) key = (fieldType? fields key).or (fieldType? more key) := by
  rw [fieldType?, List.find?_append, Option.map_or]
  rfl

theorem fieldType?_isSome_iff : (fieldType? fields key).isSome = true ↔
    key ∈ fields.map Field.key := by
  simp [fieldType?]

/-- Requiring a field leaves its type. -/
theorem fieldType?_requireField (k : String) (required : Bool) (fields : List Field)
    (key : String) : fieldType? (requireField k required fields) key = fieldType? fields key := by
  induction fields with
  | nil => rfl
  | cons f rest ih =>
    rw [requireField]
    split
    · rw [fieldType?_cons, fieldType?_cons]
    · rw [fieldType?_cons, fieldType?_cons, ih]

theorem fieldType?_mergeField (hkey : key ≠ discriminator) (fields : List Field) (f : Field) :
    fieldType? (mergeField discriminator fields f) key =
      (fieldType? fields key).or (fieldType? [f] key) := by
  unfold mergeField
  split
  · -- the discriminator is passed over, and the key is another
    rename_i hdisc
    have hne : f.key ≠ key := fun h => hkey (h.symm.trans (beq_iff_eq.mp hdisc))
    rw [fieldType?_cons, if_neg hne]
    exact (Option.or_none).symm
  · split
    · -- a key that is there keeps its type
      rename_i hany
      rw [fieldType?_requireField, fieldType?_cons]
      by_cases hf : f.key = key
      · have hmem : key ∈ fields.map Field.key := by
          rw [← hf]
          simpa using hany
        obtain ⟨t, ht⟩ := Option.isSome_iff_exists.mp (fieldType?_isSome_iff.mpr hmem)
        rw [ht, Option.some_or]
      · rw [if_neg hf]
        exact (Option.or_none).symm
    · rw [fieldType?_append]

/-- **A merged key has its type from the base, and else from the shape.** -/
theorem fieldType?_mergeFields (hkey : key ≠ discriminator) (base own : List Field) :
    fieldType? (mergeFields base own discriminator) key =
      (fieldType? base key).or (fieldType? own key) := by
  induction own generalizing base with
  | nil => exact (Option.or_none).symm
  | cons f rest ih =>
    have hfold : mergeFields base (f :: rest) discriminator =
        mergeFields (mergeField discriminator base f) rest discriminator := rfl
    rw [hfold, ih, fieldType?_mergeField hkey, Option.or_assoc, ← fieldType?_append]
    rfl

theorem fieldType?_ownBase {node : DiscriminatedNode} (hkey : key ≠ node.discriminator) :
    fieldType? node.ownBase key = fieldType? node.baseFields key := by
  unfold fieldType? DiscriminatedNode.ownBase
  rw [List.find?_filter]
  congr 2
  funext f
  by_cases hf : f.key = key
  · simp [hf, hkey]
  · simp [hf]

end Merged

/-! ## §2 Labels of cases -/

/-- What trimming leaves of a text is blank only if nothing is left. -/
theorem Text.isBlankText_trim {s : String} (h : trim s ≠ "") : isBlankText (trim s) = false := by
  refine Bool.eq_false_iff.mpr fun hblank => h ?_
  have hink : ink s = [] := (ink_trim s).symm.trans (ink_eq_nil_iff.mpr hblank)
  have hall : ∀ c ∈ s.toList, isBlank c = true := List.all_eq_true.mp (ink_eq_nil_iff.mp hink)
  rw [trim, Naming.trimChars_eq_nil_iff.mpr hall]

/-- **The label of a case is not blank** if no tag of it is. -/
theorem Build.isBlankText_caseLabel {c : Document.Case} {tags : List Literal} {tag : Literal}
    (hmem : tag ∈ tags) (htags : ∀ tag ∈ tags, Text.isBlankText tag.rawText = false) :
    Text.isBlankText (Build.caseLabel c tags) = false := by
  unfold Build.caseLabel
  dsimp only
  split
  · cases tags with
    | nil => exact absurd hmem List.not_mem_nil
    | cons first rest => exact htags first List.mem_cons_self
  · rename_i hdisplay
    exact Text.isBlankText_trim fun hempty => hdisplay (String.isEmpty_iff.mpr hempty)

/-- The tags of an alternation that resolves are not blank, and none stands twice. -/
theorem DiscriminatedNode.tags_of_resolve {node : DiscriminatedNode} {v : VariantType}
    (h : node.resolve = .ok v) :
    (∀ tag ∈ node.tags, Text.isBlankText tag.rawText = false) ∧ node.tags.Nodup := by
  obtain ⟨field, cases, -, -, hshapes, -⟩ := resolve_eq_ok_iff.mp h
  obtain ⟨-, hadmits, hdistinct⟩ :=
    (exists_resolveShapes_iff field node.ownBase).mp ⟨cases, hshapes⟩
  refine ⟨fun tag htag => (hadmits tag htag).worded, ?_⟩
  exact (pairwise_differs_iff fun tag htag => (hadmits tag htag).integer).mp
    (distinctFrom_start.mp hdistinct)

/-! ## §3 Where a case comes from -/

/-- **A case of a variant comes from a schema**: that of the case of the block that has its tag, or
the default schema.  The label goes into the names of objects nested there. -/
inductive Document.Variant.CaseFrom (block : Document.Variant) (name : TypeName)
    (c : VariantCase) : Document.ObjectSchema → String → Prop
  | tagged {own : Document.Case} {tags : List Literal} {tag : Literal} : own ∈ block.cases →
      Build.caseTags name own = .ok tags → tag ∈ tags → c.tag = .literal tag →
      CaseFrom block name c own.schema (Build.caseLabel own tags)
  | default {own : Document.ObjectSchema} : block.defaultSchema = some own → c.tag = .fallback →
      CaseFrom block name c own Build.defaultLabel

/-- **Every case merges the fields of a shape, or of the default, into the base.** -/
theorem DiscriminatedNode.exists_own {node : DiscriminatedNode} {v : VariantType}
    (h : node.resolve = .ok v) {c : VariantCase} (hc : c ∈ v.allCases) :
    (∃ shape ∈ node.shapes, ∃ tag ∈ shape.tags, c.tag = .literal tag ∧
      c.fields = mergeFields node.ownBase shape.fields node.discriminator) ∨
    c.tag = .fallback ∧ ∃ extra, node.defaultFields = some extra ∧
      c.fields = mergeFields node.ownBase extra node.discriminator := by
  obtain ⟨field, cases, -, -, hshapes, rfl⟩ := resolve_eq_ok_iff.mp h
  rcases List.mem_append.mp hc with hmem | hmem
  · have hbody : c.body ∈ cases.map VariantCase.body := List.mem_map.mpr ⟨c, hmem, rfl⟩
    rw [bodies_of_resolveShapes hshapes] at hbody
    obtain ⟨shape, hshape, hbody⟩ := List.mem_flatMap.mp hbody
    obtain ⟨tag, htag, hbody⟩ := List.mem_map.mp hbody
    have hsame : shape.bodyOf _ tag = c.body := hbody
    exact .inl ⟨shape, hshape, tag, htag, (congrArg CaseBody.tag hsame).symm,
      (congrArg CaseBody.fields hsame).symm⟩
  · have hdefault := Option.mem_toList.mp hmem
    obtain ⟨extra, hextra, rfl⟩ := Option.map_eq_some_iff.mp hdefault
    exact .inr ⟨rfl, extra, hextra, rfl⟩

namespace BuildState

variable {doc : Document} {σ : BuildState} {owner : TypeName}
  {uses : List (String × Document.PropertyUse)} {fields : List Field} {key : String}

/-- **A case of a block has the fields of its own schema merged into those of the base.** -/
theorem NodeOf.exists_caseFrom {base : Document.ObjectSchema} {block : Document.Variant}
    {node : DiscriminatedNode} {v : VariantType} (hnode : σ.NodeOf doc base block node)
    (h : node.resolve = .ok v) {c : VariantCase} (hc : c ∈ v.allCases) :
    ∃ own label fields, block.CaseFrom node.name c own label ∧ Text.isBlankText label = false ∧
      List.Forall₂ (σ.Becomes doc (node.name.caseScope label)) own.properties fields ∧
      c.fields = mergeFields node.ownBase fields node.discriminator := by
  rcases node.exists_own h hc with ⟨shape, hshape, tag, htag, hliteral, hfields⟩ |
    ⟨hfallback, extra, hextra, hfields⟩
  · obtain ⟨own, hown, hof⟩ := exists_left_of_forall₂ hnode.shapes hshape
    have hworded : ∀ tag ∈ shape.tags, Text.isBlankText tag.rawText = false := fun other hother =>
      (node.tags_of_resolve h).1 other (List.mem_flatMap.mpr ⟨shape, hshape, hother⟩)
    exact ⟨own.schema, _, shape.fields, .tagged hown hof.tags htag hliteral,
      Build.isBlankText_caseLabel htag hworded, hof.fields, hfields⟩
  · obtain ⟨own, hown, hof⟩ := hnode.default extra hextra
    exact ⟨own, _, extra, .default hown hfallback, by decide, hof, hfields⟩

/-- A tag stands in one case. -/
theorem eq_of_mem_tags {name : TypeName} {cases : List Document.Case} {shapes : List TaggedShape}
    (hshapes : List.Forall₂ (σ.ShapeOf doc name) cases shapes)
    (hdistinct : (shapes.flatMap TaggedShape.tags).Nodup) {c c' : Document.Case}
    {tags tags' : List Literal} {tag : Literal} (hc : c ∈ cases) (hc' : c' ∈ cases)
    (htags : Build.caseTags name c = .ok tags) (htags' : Build.caseTags name c' = .ok tags')
    (hmem : tag ∈ tags) (hmem' : tag ∈ tags') : c = c' := by
  induction hshapes with
  | nil => exact absurd hc List.not_mem_nil
  | @cons first shape rest others hfirst hrest ih =>
    rw [List.flatMap_cons, List.nodup_append] at hdistinct
    obtain ⟨-, hnodup, hapart⟩ := hdistinct
    -- a tag of the first case is none of those behind it
    have hlone : ∀ {other : Document.Case} {its : List Literal}, other ∈ rest →
        Build.caseTags name other = .ok its → tag ∈ its → tag ∉ shape.tags := by
      intro other its hother hits hin hshape
      obtain ⟨otherShape, hotherShape, hof⟩ := exists_right_of_forall₂ hrest hother
      obtain rfl := Except.ok.inj (hof.tags.symm.trans hits)
      exact hapart tag hshape tag (List.mem_flatMap.mpr ⟨otherShape, hotherShape, hin⟩) rfl
    rcases List.mem_cons.mp hc with rfl | hlater <;> rcases List.mem_cons.mp hc' with rfl | hlater'
    · rfl
    · obtain rfl := Except.ok.inj (hfirst.tags.symm.trans htags)
      exact absurd hmem (hlone hlater' htags' hmem')
    · obtain rfl := Except.ok.inj (hfirst.tags.symm.trans htags')
      exact absurd hmem' (hlone hlater htags hmem)
    · exact ih hnodup hlater hlater'

/-- **A case comes from one schema.** -/
theorem NodeOf.caseFrom_unique {base : Document.ObjectSchema} {block : Document.Variant}
    {node : DiscriminatedNode} {v : VariantType} (hnode : σ.NodeOf doc base block node)
    (h : node.resolve = .ok v) {c : VariantCase} {own own' : Document.ObjectSchema}
    {label label' : String} (hfrom : block.CaseFrom node.name c own label)
    (hfrom' : block.CaseFrom node.name c own' label') : own = own' ∧ label = label' := by
  cases hfrom with
  | tagged hmem htags htag hliteral =>
    cases hfrom' with
    | tagged hmem' htags' htag' hliteral' =>
      obtain rfl := CaseTag.literal.inj (hliteral.symm.trans hliteral')
      obtain rfl := eq_of_mem_tags hnode.shapes (node.tags_of_resolve h).2 hmem hmem' htags htags'
        htag htag'
      obtain rfl := Except.ok.inj (htags.symm.trans htags')
      exact ⟨rfl, rfl⟩
    | default _ hfallback => cases hliteral.symm.trans hfallback
  | default hdefault hfallback =>
    cases hfrom' with
    | tagged _ _ _ hliteral => cases hliteral.symm.trans hfallback
    | default hdefault' _ => exact ⟨Option.some.inj (hdefault.symm.trans hdefault'), rfl⟩

/-- The type under a key is that of its first use. -/
theorem fieldType?_of_becomes (hf : List.Forall₂ (σ.Becomes doc owner) uses fields)
    {use : Document.PropertyUse} (huse : Entries.get? uses key = some use) :
    fieldType? fields key = some (doc.usedType σ.properties.get? use.schema owner key) := by
  obtain ⟨f, hfind, hbecomes⟩ := exists_find?_of_becomes hf huse
  rw [fieldType?, hfind, Option.map_some, hbecomes.settled σ (.refl σ)]

theorem fieldType?_eq_none (hf : List.Forall₂ (σ.Becomes doc owner) uses fields)
    (hkey : key ∉ uses.map Prod.fst) : fieldType? fields key = none := by
  rw [← fieldsOf_keys (hf.imp fun _ _ hfield => hfield.toFieldOf)] at hkey
  exact Option.not_isSome_iff_eq_none.mp (mt fieldType?_isSome_iff.mp hkey)

end BuildState

/-! ## §4 Cases that keep what they nest -/

namespace Schema

variable {doc : Document} {σ : BuildState} {s : Schema}

/-- The model has the types of properties that were built. -/
theorem BuiltFrom.properties_eq (h : s.BuiltFrom doc σ) :
    s.properties.get? = σ.properties.get? := by
  funext key
  cases hkept : σ.properties.get? key with
  | some t =>
    obtain ⟨q, hq, -⟩ := h.sound.declared key t hkept
    obtain ⟨t', ht', hkept', -⟩ := h.get?_property hq
    rw [ht', ← hkept', hkept]
  | none =>
    by_contra hne
    obtain ⟨t, ht⟩ := Option.ne_none_iff_exists'.mp hne
    rw [h.properties _ (Entries.mem_of_get? ht)] at hkept
    cases hkept

/-- **A case keeps what it nests exactly under the keys that its base leaves to it.**  A variant
with a discriminator comes from a block of a custom type or a rule, and each case of it from a
schema of that block.  Where that schema nests an object under a key other than the discriminator's,
the field of the case holds this object, or a list of it if the property is a list, if and only if
the base does not declare the key; and otherwise it holds what the base makes of the property. -/
theorem case_keeps_iff (h : ofDocument doc = .ok s) {v : VariantType}
    (hv : s.Reaches (.variant v)) {d : Discriminator} (hd : v.discriminator = some d) :
    ∃ base block, doc.HasBlock v.name base block ∧ ∀ c ∈ v.allCases,
      (∃ own label, block.CaseFrom v.name c own label) ∧
      ∀ own label, block.CaseFrom v.name c own label → ∀ key, key ≠ d.key → ∀ required inner,
        Entries.get? own.properties key = some ⟨required, some inner⟩ →
        (fieldType? c.fields key =
            some (doc.usedType s.properties.get? (some inner) (v.name.caseScope label) key) ↔
          key ∉ base.properties.map Prod.fst) ∧
        ∀ shared, Entries.get? base.properties key = some shared →
          fieldType? c.fields key =
            some (doc.usedType s.properties.get? shared.schema v.name key) := by
  obtain ⟨σ, hrun⟩ := ofDocument_eq_ok_iff.mp h
  have hbuilt := Build.schema_eq_ok hrun
  have hdisc : v.discriminator ≠ none := by
    rw [hd]
    exact Option.some_ne_none d
  obtain ⟨base, block, node, hblock, hnode, hresolve⟩ :=
    hbuilt.fromBlock (Build.schema_traced hrun) hv hdisc
  have hresolved := DiscriminatedNode.resolvesTo_of_resolve hresolve
  rw [hbuilt.properties_eq, hresolved.name]
  refine ⟨base, block, hblock, fun c hc => ?_⟩
  obtain ⟨own, label, fields, hfrom, hlabel, hfields, hmerged⟩ := hnode.exists_caseFrom hresolve hc
  refine ⟨⟨own, label, hfrom⟩, fun own' label' hfrom' key hkey required inner hinner => ?_⟩
  obtain ⟨rfl, rfl⟩ := hnode.caseFrom_unique hresolve hfrom hfrom'
  rw [hresolved.discriminator_key hd] at hkey
  have hown := BuildState.fieldType?_of_becomes hfields hinner
  -- what the base says of the key goes first
  have htype : fieldType? c.fields key = (fieldType? node.baseFields key).or
      (some (doc.usedType σ.properties.get? (some inner) (node.name.caseScope label) key)) := by
    rw [hmerged, fieldType?_mergeFields hkey, fieldType?_ownBase hkey, hown]
  have hshared : ∀ shared, Entries.get? base.properties key = some shared →
      fieldType? c.fields key =
        some (doc.usedType σ.properties.get? shared.schema node.name key) := by
    intro shared hget
    rw [htype, BuildState.fieldType?_of_becomes hnode.base hget, Option.some_or]
  refine ⟨⟨fun hkeeps hmem => ?_, fun hfree => ?_⟩, hshared⟩
  · obtain ⟨shared, hget⟩ := Option.isSome_iff_exists.mp (Entries.get?_isSome_iff.mpr hmem)
    obtain ⟨f, -, hbase⟩ := BuildState.exists_find?_of_becomes hnode.base hget
    obtain ⟨f', -, hcase⟩ := BuildState.exists_find?_of_becomes hfields hinner
    -- the objects of the base and of the case go by two names
    have hne : f.type ≠ f'.type := hbase.toFieldOf.type_ne hbuilt.sound hcase.toFieldOf rfl
      (TypeName.nested_caseScope_ne hlabel node.name key)
    rw [hbase.settled σ (.refl σ), hcase.settled σ (.refl σ)] at hne
    exact hne (Option.some.inj ((hshared shared hget).symm.trans hkeeps))
  · rw [htype, BuildState.fieldType?_eq_none hnode.base hfree, Option.none_or]

end Schema

/-! ## §5 A plan -/

/-- A block of a custom type is the one that the type declares. -/
theorem Document.HasBlock.of_customType {doc : Document} {name : String}
    {base : Document.ObjectSchema} {block : Document.Variant}
    (h : doc.HasBlock (.customType name) base block) : ∃ t, doc.customTypes.get? name = some t ∧
      t.variants = [block] ∧ base = t.schema.getD .empty := by
  generalize hname : TypeName.customType name = n at h
  cases h with
  | customType ht _ hblock =>
    obtain rfl : name = _ := congrArg TypeName.name hname
    exact ⟨_, ht, hblock, rfl⟩
  | rule _ _ => cases congrArg TypeName.origin hname

/-- A width. -/
def Document.ObjectSchema.ofWidth : Document.ObjectSchema :=
  ⟨[("width", ⟨true, none⟩)], false⟩

/-- What a square adds to a shape: a width in its details, and one in each of its corners. -/
def Document.ObjectSchema.ofSquare : Document.ObjectSchema :=
  ⟨[("details", ⟨true, some .ofWidth⟩), ("corners", ⟨false, some .ofWidth⟩)], false⟩

/-- What all shapes have: a kind, and any details. -/
def Document.ObjectSchema.ofShape : Document.ObjectSchema :=
  ⟨[("kind", ⟨true, none⟩), ("details", ⟨false, none⟩)], false⟩

/-- The one kind of shape. -/
def Document.Case.square : Document.Case :=
  ⟨"Square", [.string "square"], none, .ofSquare⟩

/-- The kinds of shapes. -/
def Document.Variant.ofShape : Document.Variant :=
  ⟨"discriminator", "kind", [.square], none⟩

/-- Shapes, told apart by their kind. -/
def Document.CustomType.shape : Document.CustomType :=
  ⟨none, .object, none, none, some .ofShape, [.ofShape]⟩

/-- A plan with shapes. -/
def Document.shapes : Document where
  name := "shapes"
  metadata := .unknown
  customTypes := [("shape", .shape)]
  properties := [("kind", ⟨none, [.string], [], none⟩), ("details", ⟨none, [.object], [], none⟩),
    ("corners", ⟨none, [.array], [], none⟩), ("width", ⟨none, [.integer], [], none⟩)]
  rules := []

namespace Schema

/-- The properties of shapes by themselves. -/
def shapeProperties : Entries PropertyType :=
  [("kind", .aliasType ⟨.property "kind", none, .scalar .string⟩),
    ("details", .aliasType ⟨.property "details", none, .untyped .object⟩),
    ("corners", .aliasType ⟨.property "corners", none, .array (.untyped .any)⟩),
    ("width", .aliasType ⟨.property "width", none, .scalar .integer⟩)]

/-- A square: its details are any, and its corners have widths. -/
def squareCase : VariantCase :=
  ⟨"CaseSquare", .literal (.string "square"), none,
    [⟨"details", .aliasType ⟨.property "details", none, .untyped .object⟩, true, none⟩,
      ⟨"corners", .array (.record ⟨⟨.nested, "CustomType shape Square corners"⟩, none,
        [⟨"width", .aliasType ⟨.property "width", none, .scalar .integer⟩, true, none⟩]⟩), false,
        none⟩]⟩

/-- The kind of a shape. -/
def shapeKind : Discriminator :=
  ⟨"kind", .aliasType ⟨.property "kind", none, .scalar .string⟩, none⟩

/-- The variant of shapes. -/
def shapeVariant : VariantType :=
  ⟨.customType "shape", none, some shapeKind, [squareCase], none⟩

/-- The model of shapes. -/
def shapes : Schema :=
  ⟨"shapes", .unknown, [("shape", .variant shapeVariant)], shapeProperties, []⟩

theorem shapes_hasBlock : Document.shapes.HasBlock shapeVariant.name .ofShape .ofShape := by
  have hshape : Document.shapes.customTypes.get? "shape" = some .shape := rfl
  exact .customType hshape rfl rfl

theorem squareCase_from_square :
    Document.Variant.ofShape.CaseFrom shapeVariant.name squareCase .ofSquare "Square" := by
  have hmem : Document.Case.square ∈ Document.Variant.ofShape.cases := List.mem_cons_self
  have htags : Build.caseTags shapeVariant.name .square = .ok [.string "square"] := rfl
  exact .tagged hmem htags List.mem_cons_self rfl

/-- The corners of a square are kept. -/
theorem case_keeps_corners : ofDocument Document.shapes = .ok shapes ∧
    shapes.Reaches (.variant shapeVariant) ∧ shapeVariant.discriminator = some shapeKind ∧
    fieldType? squareCase.fields "corners" = some (Document.shapes.usedType
      shapes.properties.get? (some .ofWidth) (.caseScope (.customType "shape") "Square")
      "corners") := by
  have hshapes : ofDocument Document.shapes = .ok shapes := rfl
  have hreach : shapes.Reaches (.variant shapeVariant) := reaches_of_mem_roots List.mem_cons_self
  obtain ⟨base, block, hblock, hcases⟩ := case_keeps_iff hshapes hreach rfl
  obtain ⟨t, ht, hvariants, rfl⟩ := hblock.of_customType
  obtain rfl := Option.some.inj ht
  obtain ⟨-, hkeeps⟩ := hcases squareCase List.mem_cons_self
  obtain rfl := (List.cons.inj hvariants).1
  obtain ⟨hcorners, -⟩ := hkeeps _ _ squareCase_from_square "corners" (by decide) false .ofWidth rfl
  exact ⟨hshapes, hreach, rfl, hcorners.mpr (by decide)⟩

/-- **The width in the details of a square is lost**: shapes have details of their own. -/
theorem case_loses_details : ofDocument Document.shapes = .ok shapes ∧
    shapes.Reaches (.variant shapeVariant) ∧ shapeVariant.discriminator = some shapeKind ∧
    Document.shapes.HasBlock shapeVariant.name .ofShape .ofShape ∧
    squareCase ∈ shapeVariant.allCases ∧
    Document.Variant.ofShape.CaseFrom shapeVariant.name squareCase .ofSquare "Square" ∧
    "details" ≠ shapeKind.key ∧
    Entries.get? Document.ObjectSchema.ofSquare.properties "details" = some ⟨true, some .ofWidth⟩ ∧
    fieldType? squareCase.fields "details" ≠ some (Document.shapes.usedType
      shapes.properties.get? (some .ofWidth) (.caseScope (.customType "shape") "Square")
      "details") := by
  refine ⟨rfl, reaches_of_mem_roots List.mem_cons_self, rfl, shapes_hasBlock, List.mem_cons_self,
    squareCase_from_square, by decide, rfl, fun hsame => ?_⟩
  -- the case holds the alias of the property, and not a record
  have hdetails : PropertyType.aliasType _ = PropertyType.record _ := Option.some.inj hsame
  cases hdetails

end Schema

end TrackingPlan
