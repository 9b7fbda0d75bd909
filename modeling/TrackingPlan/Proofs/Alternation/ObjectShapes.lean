import TrackingPlan.Proofs.Alternation
import TrackingPlan.Proofs.Alternation.Memory
import TrackingPlan.Proofs.Layout.Discriminators
import TrackingPlan.Proofs.Naming.Growth
import TrackingPlan.Proofs.Naming.Words

/-!
# When object shapes resolve, and to what

An alternation of object shapes is accepted exactly if its discriminator is declared, it has a case,
each shape has a tag, and the tags can be held, differ, and have a word to make a name of
(`DiscriminatedNode.Resolvable`).  Then each tag of each shape has its case, in order, with the
fields that `DiscriminatedNode.caseFields` says at once and merging makes one by one.

§1 merged fields · §2 the tags that a type can hold · §3 tags, one after another ·
§4 shapes, one after another · §5 resolution.
-/

namespace TrackingPlan

open Naming (Registry typeName typeName_eq_empty_iff)

/-! ## §1 Merged fields -/

/-- One of the fields requires the key. -/
def RequiresKey (fields : List Field) (key : String) : Prop :=
  ∃ f ∈ fields, f.key = key ∧ f.required = true

instance (fields : List Field) (key : String) : Decidable (RequiresKey fields key) :=
  inferInstanceAs (Decidable (∃ f ∈ fields, f.key = key ∧ f.required = true))

/-- The fields whose keys are new, in order; of those with one key the first. -/
def newFields : List String → List Field → List Field
  | _, [] => []
  | known, f :: rest =>
    if f.key ∈ known then newFields known rest else f :: newFields (f.key :: known) rest

/-- The field, required also if this says so. -/
def Field.orRequired (f : Field) (required : Bool) : Field :=
  { f with required := f.required || required }

/-- The field, required also if one of these fields requires its key. -/
def Field.requiredBy (f : Field) (own : List Field) : Field :=
  f.orRequired (decide (RequiresKey own f.key))

section Merge

variable {f g : Field} {fields own : List Field} {key : String} {known known' : List String}

theorem requiresKey_cons : RequiresKey (g :: own) key ↔
    g.key = key ∧ g.required = true ∨ RequiresKey own key :=
  List.exists_mem_cons_iff _ _ _

theorem Field.orRequired_false (f : Field) : f.orRequired false = f := by
  cases f
  simp only [orRequired, Bool.or_false]

theorem Field.orRequired_self (f : Field) : f.orRequired f.required = f := by
  cases f
  simp only [orRequired, Bool.or_self]

theorem Field.requiredBy_nil (f : Field) : f.requiredBy [] = f := by
  have hnone : ¬RequiresKey [] f.key := fun ⟨_, hmem, _⟩ => List.not_mem_nil hmem
  rw [requiredBy, decide_eq_false hnone, orRequired_false]

theorem Field.requiredBy_cons_of_ne (h : g.key ≠ f.key) :
    f.requiredBy (g :: own) = f.requiredBy own := by
  have hiff : RequiresKey (g :: own) f.key ↔ RequiresKey own f.key :=
    requiresKey_cons.trans (or_iff_right fun hg => h hg.1)
  rw [requiredBy, requiredBy, decide_eq_decide.mpr hiff]

theorem Field.requiredBy_cons_of_eq (h : g.key = f.key) :
    f.requiredBy (g :: own) = (f.orRequired g.required).requiredBy own := by
  have hiff : RequiresKey (g :: own) f.key ↔ g.required = true ∨ RequiresKey own f.key :=
    requiresKey_cons.trans (or_congr_left (and_iff_right h))
  simp only [requiredBy, orRequired, decide_eq_decide.mpr hiff, Bool.decide_or,
    Bool.decide_eq_true, Bool.or_assoc]
  rfl

/-- Where keys differ, the first field of a key is the only one. -/
theorem requireField_eq_map (key : String) (required : Bool)
    (h : (fields.map Field.key).Nodup) : requireField key required fields =
      fields.map fun f => if f.key = key then f.orRequired required else f := by
  induction fields with
  | nil => rfl
  | cons f rest ih =>
    obtain ⟨hfresh, hrest⟩ := List.nodup_cons.mp h
    rw [requireField, List.map_cons]
    by_cases hkey : f.key = key
    · have hothers : rest.map (fun g => if g.key = key then g.orRequired required else g) =
          rest := by
        refine (List.map_congr_left fun g hg => if_neg fun hgkey => ?_).trans (List.map_id _)
        exact hfresh (List.mem_map.mpr ⟨g, hg, hgkey.trans hkey.symm⟩)
      rw [if_pos (beq_iff_eq.mpr hkey), if_pos hkey, hothers]
      rfl
    · rw [if_neg fun hbeq => hkey (beq_iff_eq.mp hbeq), if_neg hkey, ih hrest]

theorem mem_of_mem_newFields (h : f ∈ newFields known own) : f.key ∉ known ∧ f ∈ own := by
  induction own generalizing known with
  | nil => exact absurd h List.not_mem_nil
  | cons g rest ih =>
    rw [newFields] at h
    split at h
    · obtain ⟨hnew, hmem⟩ := ih h
      exact ⟨hnew, List.mem_cons_of_mem g hmem⟩
    · rename_i hg
      rcases List.mem_cons.mp h with rfl | hmem
      · exact ⟨hg, List.mem_cons_self⟩
      · obtain ⟨hnew, hrest⟩ := ih hmem
        exact ⟨fun hknown => hnew (List.mem_cons_of_mem g.key hknown),
          List.mem_cons_of_mem g hrest⟩

/-- Which fields are new does not depend on the order of what is known. -/
theorem newFields_congr (h : ∀ key, key ∈ known ↔ key ∈ known') :
    newFields known own = newFields known' own := by
  induction own generalizing known known' with
  | nil => rfl
  | cons f rest ih =>
    have hcons : ∀ key, key ∈ f.key :: known ↔ key ∈ f.key :: known' := by
      intro key
      rw [List.mem_cons, List.mem_cons, h]
    rw [newFields, newFields, ih h, ih hcons]
    simp only [h]

/-- A field says nothing of fields with other keys. -/
theorem map_requiredBy_cons (h : ∀ g ∈ fields, f.key ≠ g.key) :
    fields.map (·.requiredBy (f :: own)) = fields.map (·.requiredBy own) :=
  List.map_congr_left fun g hg => Field.requiredBy_cons_of_ne (h g hg)

theorem newFields_requiredBy_cons (h : f.key ∈ known) :
    (newFields known own).map (·.requiredBy (f :: own)) =
      (newFields known own).map (·.requiredBy own) :=
  map_requiredBy_cons fun _ hg hkey => (mem_of_mem_newFields hg).1 (hkey ▸ h)

/-- What a field requires is required of the one with its key. -/
theorem requireField_requiredBy (h : (fields.map Field.key).Nodup) :
    (requireField f.key f.required fields).map (·.requiredBy own) =
      fields.map (·.requiredBy (f :: own)) := by
  rw [requireField_eq_map f.key f.required h, List.map_map]
  refine List.map_congr_left fun g _ => ?_
  by_cases hkey : g.key = f.key
  · rw [Function.comp_apply, if_pos hkey, Field.requiredBy_cons_of_eq hkey.symm]
  · rw [Function.comp_apply, if_neg hkey,
      Field.requiredBy_cons_of_ne fun heq => hkey heq.symm]

/-- **Merging adds the fields that are new**, and requires what either side requires. -/
theorem mergeFields_eq {discriminator : String} : ∀ {base : List Field},
    CaseFields discriminator base → mergeFields base own discriminator =
      (base ++ newFields (discriminator :: base.map Field.key) own).map (·.requiredBy own) := by
  induction own with
  | nil =>
    intro base _
    rw [newFields, List.append_nil]
    exact ((List.map_congr_left fun f _ => f.requiredBy_nil).trans (List.map_id base)).symm
  | cons f rest ih =>
    intro base h
    have hmerged : CaseFields discriminator (mergeField discriminator base f) := h.mergeFields [f]
    have hfold : mergeFields base (f :: rest) discriminator =
        mergeFields (mergeField discriminator base f) rest discriminator := rfl
    rw [hfold, ih hmerged, newFields, List.map_append]
    by_cases hdisc : f.key = discriminator
    · -- the discriminator is passed over
      have hknown : f.key ∈ discriminator :: base.map Field.key := hdisc ▸ List.mem_cons_self
      have hbase : ∀ g ∈ base, f.key ≠ g.key := fun g hg hkey =>
        h.discriminator (List.mem_map.mpr ⟨g, hg, hkey.symm.trans hdisc⟩)
      rw [mergeField, if_pos (beq_iff_eq.mpr hdisc), if_pos hknown, List.map_append,
        map_requiredBy_cons hbase, newFields_requiredBy_cons hknown]
    · rw [mergeField, if_neg fun hbeq => hdisc (beq_iff_eq.mp hbeq)]
      by_cases hmem : f.key ∈ base.map Field.key
      · -- a key of the base keeps its place
        have hknown : f.key ∈ discriminator :: base.map Field.key := List.mem_cons_of_mem _ hmem
        have hany : (base.any fun g => g.key == f.key) = true := by simpa using hmem
        rw [if_pos hany, if_pos hknown, keys_requireField, requireField_requiredBy h.keys,
          List.map_append, newFields_requiredBy_cons hknown]
      · -- a new key goes to the end
        have hknown : f.key ∉ discriminator :: base.map Field.key :=
          fun hcons => (List.mem_cons.mp hcons).elim hdisc hmem
        have hany : ¬(base.any fun g => g.key == f.key) = true := by simpa using hmem
        have hbase : ∀ g ∈ base, f.key ≠ g.key := fun g hg hkey =>
          hmem (List.mem_map.mpr ⟨g, hg, hkey.symm⟩)
        have hset : ∀ key, key ∈ discriminator :: (base ++ [f]).map Field.key ↔
            key ∈ f.key :: discriminator :: base.map Field.key := by
          intro key
          simp only [List.map_append, List.map_cons, List.map_nil, List.mem_cons, List.mem_append,
            List.not_mem_nil, or_false]
          tauto
        have hself : f.requiredBy (f :: rest) = f.requiredBy rest := by
          rw [Field.requiredBy_cons_of_eq rfl, Field.orRequired_self]
        rw [if_neg hany, if_neg hknown, newFields_congr hset, ← List.map_append, List.append_assoc,
          List.singleton_append, List.map_append, List.map_cons, List.map_append, List.map_cons,
          hself, map_requiredBy_cons hbase, newFields_requiredBy_cons List.mem_cons_self]

end Merge

namespace DiscriminatedNode

variable {node : DiscriminatedNode}

/-- **The fields of a case**: the base without the discriminator, then what the shape adds to it;
each is required if the base or the shape requires it. -/
def caseFields (node : DiscriminatedNode) (own : List Field) : List Field :=
  (node.ownBase ++ newFields (node.discriminator :: node.baseFields.map Field.key) own).map fun f =>
    { f with required := decide (RequiresKey node.baseFields f.key ∨ RequiresKey own f.key) }

/-- **Merging makes the fields of a case.** -/
theorem mergeFields_ownBase (hkeys : (node.baseFields.map Field.key).Nodup) (own : List Field) :
    mergeFields node.ownBase own node.discriminator = node.caseFields own := by
  have hset : ∀ key, key ∈ node.discriminator :: node.ownBase.map Field.key ↔
      key ∈ node.discriminator :: node.baseFields.map Field.key := by
    intro key
    simp only [List.mem_cons, ownBase, List.mem_map, List.mem_filter, bne_iff_ne]
    constructor
    · rintro (h | ⟨f, ⟨hf, -⟩, rfl⟩)
      · exact .inl h
      · exact .inr ⟨f, hf, rfl⟩
    · rintro (h | ⟨f, hf, rfl⟩)
      · exact .inl h
      · exact (em (f.key = node.discriminator)).imp id fun hne => ⟨f, ⟨hf, hne⟩, rfl⟩
  rw [mergeFields_eq (CaseFields.ownBase hkeys), newFields_congr hset, caseFields]
  refine List.map_congr_left fun f hf => ?_
  have hrequired : (f.required = true ∨ RequiresKey own f.key) ↔
      (RequiresKey node.baseFields f.key ∨ RequiresKey own f.key) := by
    rcases List.mem_append.mp hf with hbase | hnew
    · -- a field of the base is the only one of its key there
      have hmem : f ∈ node.baseFields := (List.mem_filter.mp hbase).1
      refine or_congr_left ⟨fun h => ⟨f, hmem, rfl, h⟩, ?_⟩
      rintro ⟨g, hg, hkey, hrequired⟩
      obtain rfl := List.inj_on_of_nodup_map hkeys hg hmem hkey
      exact hrequired
    · -- a new field has no key of the base, and stands in the shape itself
      obtain ⟨hfresh, hown⟩ := mem_of_mem_newFields hnew
      have hbase : ¬RequiresKey node.baseFields f.key := fun ⟨g, hg, hkey, _⟩ =>
        hfresh (List.mem_cons_of_mem _ (List.mem_map.mpr ⟨g, hg, hkey⟩))
      rw [or_iff_right hbase]
      exact or_iff_right_of_imp fun h => ⟨f, hown, rfl, h⟩
  simp only [Field.requiredBy, Field.orRequired, ← decide_eq_decide.mpr hrequired,
    Bool.decide_or, Bool.decide_eq_true]

end DiscriminatedNode

/-! ## §2 The tags that a type can hold -/

/-- **The tags that a discriminator of a type can hold**: literals of the kind of a scalar, values
of an enumeration, and literals of a kind that bare values alternate between. -/
inductive PropertyType.HoldsTag (t : PropertyType) (tag : Literal) : Prop
  | scalar : t.resolved = .scalar tag.kind → HoldsTag t tag
  | enumeration {e : EnumType} : t.resolved = .enumeration e →
      tag ∈ e.cases.map EnumCase.value → HoldsTag t tag
  | alternation {v : VariantType} : t.resolved = .variant v → v.isPrimitive = true →
      (∃ c ∈ v.cases, c.tag = .kind (.scalar tag.kind)) → HoldsTag t tag

theorem VariantCase.scalarKind?_eq_some_iff {c : VariantCase} {kind : ScalarKind} :
    c.scalarKind? = some kind ↔ c.tag = .kind (.scalar kind) := by
  unfold scalarKind?
  split <;> simp_all

theorem EnumType.caseFor?_isSome_iff {e : EnumType} {tag : Literal} (h : tag.isNumber = false) :
    (e.caseFor? tag).isSome = true ↔ tag ∈ e.cases.map EnumCase.value := by
  rw [caseFor?, List.find?_isSome, List.mem_map]
  constructor
  · rintro ⟨c, hc, hequals⟩
    exact ⟨c, hc, Literal.eq_of_equals hequals (.inr h)⟩
  · rintro ⟨c, hc, rfl⟩
    exact ⟨c, hc, Literal.equals_self (DiscriminatedNode.canonical_of_not_number h)⟩

theorem Literal.kind_ne_number {tag : Literal} (h : tag.isNumber = false) : tag.kind ≠ .number := by
  cases tag with
  | number n => cases h
  | _ => exact nofun

theorem PropertyType.holdsTag_iff {t : PropertyType} {tag : Literal} : t.HoldsTag tag ↔
    t.resolved = .scalar tag.kind ∨
      (∃ e, t.resolved = .enumeration e ∧ tag ∈ e.cases.map EnumCase.value) ∨
        ∃ v, t.resolved = .variant v ∧ v.isPrimitive = true ∧
          ∃ c ∈ v.cases, c.tag = .kind (.scalar tag.kind) := by
  constructor
  · intro h
    cases h with
    | scalar ht => exact .inl ht
    | enumeration he hmem => exact .inr (.inl ⟨_, he, hmem⟩)
    | alternation hv hprimitive hcase => exact .inr (.inr ⟨_, hv, hprimitive, hcase⟩)
  · rintro (ht | ⟨e, he, hmem⟩ | ⟨v, hv, hprimitive, hcase⟩)
    · exact .scalar ht
    · exact .enumeration he hmem
    · exact .alternation hv hprimitive hcase

/-- The kinds that bare values let a tag have are those of the cases, without fractions. -/
theorem VariantType.mem_scalarKinds_iff {v : VariantType} {kind : ScalarKind}
    (h : kind ≠ .number) : kind ∈ (v.cases.filterMap (·.scalarKind?)).filter (· != .number) ↔
      ∃ c ∈ v.cases, c.tag = .kind (.scalar kind) := by
  simp only [List.mem_filter, List.mem_filterMap, VariantCase.scalarKind?_eq_some_iff,
    bne_iff_ne, ne_eq, h, not_false_eq_true, and_true]

/-- **The check of a tag says whether it can be held.** -/
theorem PropertyType.tagDomain?_accepts_iff {t : PropertyType} {tag : Literal}
    (h : tag.isNumber = false) : t.tagDomain?.any (·.accepts tag) = true ↔ t.HoldsTag tag := by
  have hkind := Literal.kind_ne_number h
  rw [holdsTag_iff]
  unfold tagDomain?
  cases ht : t.resolved with
  | scalar kind =>
    cases kind with
    | number => simp [hkind.symm]
    | _ => simp [TagDomain.accepts, @eq_comm _ tag.kind]
  | enumeration e =>
    simpa [TagDomain.accepts] using EnumType.caseFor?_isSome_iff (e := e) h
  | variant v =>
    have hmem := v.mem_scalarKinds_iff hkind
    dsimp only
    split
    · rename_i hprimitive
      split
      · -- no kind is left, so none is that of the tag
        rename_i hempty
        rw [List.isEmpty_iff.mp hempty] at hmem
        simpa [hprimitive] using hmem
      · simpa [TagDomain.accepts, hprimitive] using hmem
    · rename_i hprimitive
      simp [hprimitive]
  | _ => simp

/-- **A tag that a case can have**: no fraction, held by the type of the discriminator, and with a
text that a name can be made of. -/
structure PropertyType.AdmitsTag (t : PropertyType) (tag : Literal) : Prop where
  integer : tag.isNumber = false
  held : t.HoldsTag tag
  worded : Text.isBlankText tag.rawText = false

/-! ## §3 Tags, one after another -/

theorem TypeName.id_ne_empty (n : TypeName) : n.id ≠ "" := by
  intro h
  have hprefix := (String.append_eq_empty_iff.mp h).1
  exact absurd (String.append_eq_empty_iff.mp hprefix).2 (by decide)

/-- What a case is apart from its name. -/
structure CaseBody where
  tag : CaseTag
  description : Option String
  fields : List Field

/-- The case without its name. -/
def VariantCase.body (c : VariantCase) : CaseBody :=
  ⟨c.tag, c.description, c.fields⟩

/-- What the case of a tag of a shape is, if it has these fields. -/
def TaggedShape.bodyOf (shape : TaggedShape) (fields : List Field) (tag : Literal) : CaseBody :=
  ⟨.literal tag, shape.description, fields⟩

namespace DiscriminatedNode

/-- The tags of all shapes, in declaration order. -/
def tags (node : DiscriminatedNode) : List Literal :=
  node.shapes.flatMap TaggedShape.tags

variable {node : DiscriminatedNode} {field : Field} {shape : TaggedShape} {fields : List Field}
  {tag : Literal} {tags : List Literal} {s s' : TagState}

/-- **A tag has a case exactly if it can have one and no earlier tag is the same value.** -/
theorem exists_resolveTag_iff (shape : TaggedShape) (fields : List Field) :
    (∃ result, node.resolveTag field shape fields tag s = .ok result) ↔
      field.type.AdmitsTag tag ∧ ∀ a ∈ s.seen, a.Differs tag := by
  have hlabel : "Case" ≠ "" := by decide
  constructor
  · rintro ⟨⟨c, s'⟩, h⟩
    obtain ⟨hinteger, hheld, hdiffers, name, registry, hregister, -, -⟩ :=
      resolveTag_eq_ok_iff.mp h
    have hname := (Registry.register_eq_ok_iff.mp hregister).1.2.2
    exact ⟨⟨hinteger, (PropertyType.tagDomain?_accepts_iff hinteger).mp hheld,
      Bool.eq_false_iff.mpr (mt (typeName_eq_empty_iff hlabel _).mpr hname)⟩, hdiffers⟩
  · rintro ⟨hadmits, hdiffers⟩
    have hname : typeName "Case" tag.rawText ≠ "" :=
      mt (typeName_eq_empty_iff hlabel _).mp (Bool.eq_false_iff.mp hadmits.worded)
    have hheld := (PropertyType.tagDomain?_accepts_iff hadmits.integer).mpr hadmits.held
    obtain ⟨⟨name, registry⟩, hregister⟩ := s.names.exists_register_eq_ok
      ⟨tag.text_ne_empty, node.name.id_ne_empty, hname⟩
    exact ⟨(_, _), resolveTag_eq_ok_iff.mpr
      ⟨hadmits.integer, hheld, hdiffers, name, registry, hregister, rfl, rfl⟩⟩

/-- **The case of a tag** carries it, and the tag counts as seen. -/
theorem body_of_resolveTag {c : VariantCase}
    (h : node.resolveTag field shape fields tag s = .ok (c, s')) :
    c.body = shape.bodyOf fields tag ∧ s'.seen = tag :: s.seen := by
  obtain ⟨-, -, -, _, _, -, rfl, rfl⟩ := resolveTag_eq_ok_iff.mp h
  exact ⟨rfl, rfl⟩

theorem exists_resolveTags_iff (shape : TaggedShape) (fields : List Field) :
    ∀ {s : TagState}, (∃ result, node.resolveTags field shape fields tags s = .ok result) ↔
      (∀ tag ∈ tags, field.type.AdmitsTag tag) ∧ DistinctFrom Literal.Differs s.seen tags := by
  induction tags with
  | nil =>
    exact iff_of_true ⟨_, rfl⟩ ⟨fun _ h => absurd h List.not_mem_nil, distinctFrom_nil⟩
  | cons tag rest ih =>
    intro s
    constructor
    · rintro ⟨result, h⟩
      rw [resolveTags] at h
      obtain ⟨⟨c, s₁⟩, htag, h⟩ := except_bind_eq_ok.mp h
      obtain ⟨others, hothers, -⟩ := except_bind_eq_ok.mp h
      obtain ⟨hadmits, hdiffers⟩ := (exists_resolveTag_iff shape fields).mp ⟨_, htag⟩
      obtain ⟨hrest, hdistinct⟩ := ih.mp ⟨_, hothers⟩
      rw [(body_of_resolveTag htag).2] at hdistinct
      exact ⟨List.forall_mem_cons.mpr ⟨hadmits, hrest⟩,
        distinctFrom_cons.mpr ⟨hdiffers, hdistinct⟩⟩
    · rintro ⟨hadmits, hdistinct⟩
      obtain ⟨hadmitsTag, hadmitsRest⟩ := List.forall_mem_cons.mp hadmits
      obtain ⟨hdiffers, hdistinctRest⟩ := distinctFrom_cons.mp hdistinct
      obtain ⟨⟨c, s₁⟩, htag⟩ :=
        (exists_resolveTag_iff shape fields).mpr ⟨hadmitsTag, hdiffers⟩
      rw [← (body_of_resolveTag htag).2] at hdistinctRest
      obtain ⟨others, hothers⟩ := ih.mpr ⟨hadmitsRest, hdistinctRest⟩
      refine ⟨(c :: others.1, others.2), ?_⟩
      rw [resolveTags]
      exact except_bind_eq_ok.mpr ⟨_, htag, except_bind_eq_ok.mpr ⟨_, hothers, rfl⟩⟩

theorem bodies_of_resolveTags : ∀ {s s' : TagState} {cases : List VariantCase},
    node.resolveTags field shape fields tags s = .ok (cases, s') →
      cases.map VariantCase.body = tags.map (shape.bodyOf fields) ∧
        s'.seen = tags.reverse ++ s.seen := by
  induction tags with
  | nil =>
    intro s s' cases h
    obtain ⟨rfl, rfl⟩ := Prod.mk.inj (Except.ok.inj h)
    exact ⟨rfl, rfl⟩
  | cons tag rest ih =>
    intro s s' cases h
    rw [resolveTags] at h
    obtain ⟨⟨c, s₁⟩, htag, h⟩ := except_bind_eq_ok.mp h
    obtain ⟨⟨others, s₂⟩, hothers, h⟩ := except_bind_eq_ok.mp h
    obtain ⟨rfl, rfl⟩ := Prod.mk.inj (except_pure_eq_ok.mp h)
    obtain ⟨hbody, hseen⟩ := body_of_resolveTag htag
    obtain ⟨hbodies, hseenRest⟩ := ih hothers
    refine ⟨by rw [List.map_cons, List.map_cons, hbody, hbodies], ?_⟩
    rw [hseenRest, hseen, List.reverse_cons, List.append_assoc, List.singleton_append]

/-! ## §4 Shapes, one after another -/

variable {base : List Field} {shapes : List TaggedShape}

/-- **Shapes have their cases exactly if** each has a tag, and the tags of all of them can tag and
are different values. -/
theorem exists_resolveShapes_iff (field : Field) (base : List Field) :
    ∀ {s : TagState}, (∃ cases, node.resolveShapes field base shapes s = .ok cases) ↔
      (∀ shape ∈ shapes, shape.tags ≠ []) ∧
        (∀ tag ∈ shapes.flatMap TaggedShape.tags, field.type.AdmitsTag tag) ∧
          DistinctFrom Literal.Differs s.seen (shapes.flatMap TaggedShape.tags) := by
  induction shapes with
  | nil =>
    exact iff_of_true ⟨_, rfl⟩ ⟨fun _ h => absurd h List.not_mem_nil,
      fun _ h => absurd h List.not_mem_nil, distinctFrom_nil⟩
  | cons shape rest ih =>
    intro s
    rw [List.flatMap_cons, List.forall_mem_cons, List.forall_mem_append, distinctFrom_append]
    constructor
    · rintro ⟨cases, h⟩
      rw [resolveShapes] at h
      split at h
      · cases h
      · rename_i htags
        obtain ⟨⟨first, s₁⟩, hfirst, h⟩ := except_bind_eq_ok.mp h
        obtain ⟨others, hothers, -⟩ := except_bind_eq_ok.mp h
        obtain ⟨hadmits, hdistinct⟩ := (exists_resolveTags_iff _ _).mp ⟨_, hfirst⟩
        obtain ⟨htagged, hadmitsRest, hdistinctRest⟩ := ih.mp ⟨_, hothers⟩
        rw [(bodies_of_resolveTags hfirst).2] at hdistinctRest
        exact ⟨⟨fun hnil => htags (List.isEmpty_iff.mpr hnil), htagged⟩, ⟨hadmits, hadmitsRest⟩,
          hdistinct, hdistinctRest⟩
    · rintro ⟨⟨htags, htagged⟩, ⟨hadmits, hadmitsRest⟩, hdistinct, hdistinctRest⟩
      obtain ⟨⟨first, s₁⟩, hfirst⟩ := (exists_resolveTags_iff shape
        (mergeFields base shape.fields node.discriminator)).mpr ⟨hadmits, hdistinct⟩
      rw [← (bodies_of_resolveTags hfirst).2] at hdistinctRest
      obtain ⟨others, hothers⟩ := ih.mpr ⟨htagged, hadmitsRest, hdistinctRest⟩
      refine ⟨first ++ others, ?_⟩
      rw [resolveShapes, if_neg fun hempty => htags (List.isEmpty_iff.mp hempty)]
      exact except_bind_eq_ok.mpr ⟨_, hfirst, except_bind_eq_ok.mpr ⟨_, hothers, rfl⟩⟩

theorem bodies_of_resolveShapes : ∀ {s : TagState} {cases : List VariantCase},
    node.resolveShapes field base shapes s = .ok cases →
      cases.map VariantCase.body = shapes.flatMap fun shape =>
        shape.tags.map (shape.bodyOf (mergeFields base shape.fields node.discriminator)) := by
  induction shapes with
  | nil =>
    intro s cases h
    obtain rfl := Except.ok.inj h
    rfl
  | cons shape rest ih =>
    intro s cases h
    rw [resolveShapes] at h
    split at h
    · cases h
    · obtain ⟨⟨first, s₁⟩, hfirst, h⟩ := except_bind_eq_ok.mp h
      obtain ⟨others, hothers, h⟩ := except_bind_eq_ok.mp h
      obtain rfl := except_pure_eq_ok.mp h
      rw [List.map_append, List.flatMap_cons, (bodies_of_resolveTags hfirst).1, ih hothers]

/-! ## §5 Resolution -/

/-- **When object shapes resolve**: the discriminator is declared, and its type admits every tag;
there is a case, each shape has a tag, and no tag stands twice. -/
structure Resolvable (node : DiscriminatedNode) : Prop where
  discriminator : ∃ f ∈ node.baseFields, f.key = node.discriminator ∧
    ∀ tag ∈ node.tags, f.type.AdmitsTag tag
  nonempty : node.shapes ≠ [] ∨ ∃ extra, node.defaultFields = some extra
  tagged : ∀ shape ∈ node.shapes, shape.tags ≠ []
  distinct : node.tags.Nodup

/-- **The variant that object shapes make**: each tag of each shape has its case, in order, and the
default case comes exactly if it is declared. -/
structure Makes (node : DiscriminatedNode) (v : VariantType) : Prop where
  name : v.name = node.name
  description : v.description = node.description
  discriminator : ∃ f ∈ node.baseFields, f.key = node.discriminator ∧
    v.discriminator = some ⟨f.key, f.type, f.description⟩
  cases : v.cases.map VariantCase.body = node.shapes.flatMap fun shape =>
    shape.tags.map (shape.bodyOf (node.caseFields shape.fields))
  default : v.defaultCase = node.defaultFields.map fun extra =>
    ⟨defaultCaseName, .fallback, none, node.caseFields extra⟩
  names : (v.allCases.map VariantCase.name).Nodup
  keys : ∀ c ∈ v.allCases, CaseFields node.discriminator c.fields

/-- Tags that are no fractions are different values exactly if no literal stands twice. -/
theorem pairwise_differs_iff (h : ∀ tag ∈ tags, tag.isNumber = false) :
    tags.Pairwise Literal.Differs ↔ tags.Nodup := by
  constructor
  · refine fun hdiffers => hdiffers.imp_of_mem fun {l m} hl _ hlm heq => ?_
    have hself := Literal.equals_self (canonical_of_not_number (h l hl))
    rw [← heq] at hlm
    cases hself.symm.trans hlm
  · refine fun hnodup => hnodup.imp_of_mem fun {l m} hl _ hne => ?_
    exact Bool.eq_false_iff.mpr fun hequals => hne (Literal.eq_of_equals hequals (.inl (h l hl)))

/-- The keys of the base differ, so the discriminator is the field that is found. -/
theorem find?_discriminator (hkeys : (node.baseFields.map Field.key).Nodup) {f : Field}
    (hf : f ∈ node.baseFields) (hkey : f.key = node.discriminator) :
    node.baseFields.find? (·.key == node.discriminator) = some f := by
  have hsome : (node.baseFields.find? (·.key == node.discriminator)).isSome = true :=
    List.find?_isSome.mpr ⟨f, hf, beq_iff_eq.mpr hkey⟩
  obtain ⟨g, hg⟩ := Option.isSome_iff_exists.mp hsome
  have hgkey : g.key = node.discriminator := by simpa using List.find?_some hg
  rw [hg, List.inj_on_of_nodup_map hkeys (List.mem_of_find?_eq_some hg) hf
    (hgkey.trans hkey.symm)]

theorem exists_resolve_iff (hkeys : (node.baseFields.map Field.key).Nodup) :
    (∃ v, node.resolve = .ok v) ↔ node.Resolvable := by
  constructor
  · rintro ⟨v, h⟩
    obtain ⟨field, cases, hfield, hnonempty, hshapes, -⟩ := resolve_eq_ok_iff.mp h
    obtain ⟨htagged, hadmits, hdistinct⟩ :=
      (exists_resolveShapes_iff field node.ownBase).mp ⟨cases, hshapes⟩
    have hkey : field.key = node.discriminator := by simpa using List.find?_some hfield
    exact ⟨⟨field, List.mem_of_find?_eq_some hfield, hkey, hadmits⟩, hnonempty, htagged,
      (pairwise_differs_iff fun tag htag => (hadmits tag htag).integer).mp
        (distinctFrom_start.mp hdistinct)⟩
  · rintro ⟨⟨field, hfield, hkey, hadmits⟩, hnonempty, htagged, hdistinct⟩
    have hdiffers := (pairwise_differs_iff fun tag htag => (hadmits tag htag).integer).mpr hdistinct
    obtain ⟨cases, hcases⟩ := (exists_resolveShapes_iff field node.ownBase (s := {})).mpr
      ⟨htagged, hadmits, distinctFrom_start.mpr hdiffers⟩
    exact ⟨_, resolve_eq_ok_iff.mpr ⟨field, cases, find?_discriminator hkeys hfield hkey,
      hnonempty, hcases, rfl⟩⟩

theorem makes_of_resolve (hkeys : (node.baseFields.map Field.key).Nodup) {v : VariantType}
    (h : node.resolve = .ok v) : node.Makes v := by
  have hres := resolvesTo_of_resolve h
  obtain ⟨field, cases, -, -, hshapes, rfl⟩ := resolve_eq_ok_iff.mp h
  have hmerge := mergeFields_ownBase hkeys
  refine ⟨rfl, rfl, hres.discriminator, ?_, ?_, hres.nodup_names,
    fun c hc => hres.caseFields hkeys hc⟩
  · rw [bodies_of_resolveShapes hshapes]
    simp only [hmerge]
  · simp only [defaultCase?, hmerge]

end DiscriminatedNode

/-- **Object shapes resolve exactly if they can**, and then to the variant that they make. -/
theorem Resolver.resolve_discriminated {node : DiscriminatedNode}
    (hkeys : (node.baseFields.map Field.key).Nodup) :
    ((∃ v r, Resolver.resolve {} (.discriminated node) = .ok (v, r)) ↔ node.Resolvable) ∧
      ∀ {v r}, Resolver.resolve {} (.discriminated node) = .ok (v, r) → node.Makes v := by
  have hfresh : ∀ {v r}, Resolver.resolve {} (.discriminated node) = .ok (v, r) →
      node.resolve = .ok v := by
    intro v r h
    rw [← Run.answer_of_ok h]
    exact (fresh_eq (.discriminated node)).symm
  refine ⟨?_, fun h => DiscriminatedNode.makes_of_resolve hkeys (hfresh h)⟩
  rw [← DiscriminatedNode.exists_resolve_iff hkeys]
  constructor
  · rintro ⟨v, r, h⟩
    exact ⟨v, hfresh h⟩
  · rintro ⟨v, h⟩
    exact ⟨v, _, resolve_eq_ok_iff.mpr (.made rfl h)⟩

/-- Two shapes, one of them with two tags, that declare keys of the base and a key twice, and a
default. -/
def DiscriminatedNode.channels : DiscriminatedNode where
  name := .customType "Contact"
  description := none
  baseFields := [⟨"channel", .scalar .string, true, none⟩, ⟨"id", .scalar .string, false, none⟩]
  discriminator := "channel"
  shapes := [
    ⟨"Mail", none, [.string "mail", .string "e-mail"], [⟨"address", .scalar .string, false, none⟩,
      ⟨"id", .scalar .integer, true, none⟩, ⟨"address", .scalar .string, true, none⟩]⟩,
    ⟨"Phone", none, [.string "phone"], [⟨"channel", .scalar .string, true, none⟩]⟩]
  defaultFields := some []

theorem DiscriminatedNode.resolvable_channels : channels.Resolvable where
  discriminator := by
    refine ⟨⟨"channel", .scalar .string, true, none⟩, List.mem_cons_self, rfl, fun tag htag => ?_⟩
    have hmem : tag ∈ [Literal.string "mail", .string "e-mail", .string "phone"] := htag
    simp only [List.mem_cons, List.not_mem_nil, or_false] at hmem
    obtain rfl | rfl | rfl := hmem <;> exact ⟨rfl, .scalar rfl, by decide⟩
  nonempty := .inr ⟨[], rfl⟩
  tagged := by decide
  distinct := by decide

theorem Resolver.resolve_channels :
    (DiscriminatedNode.channels.baseFields.map Field.key).Nodup ∧
      ∃ v r, Resolver.resolve {} (.discriminated .channels) = .ok (v, r) ∧
        DiscriminatedNode.channels.Makes v := by
  have hkeys : (DiscriminatedNode.channels.baseFields.map Field.key).Nodup := by decide
  obtain ⟨hresolves, hmakes⟩ := resolve_discriminated hkeys
  obtain ⟨v, r, h⟩ := hresolves.mpr DiscriminatedNode.resolvable_channels
  exact ⟨hkeys, v, r, h, hmakes h⟩

end TrackingPlan
