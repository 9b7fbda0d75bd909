import TrackingPlan.Alternation.Resolver
import TrackingPlan.Proofs.Schema.Enumeration
import TrackingPlan.Proofs.Schema.Parts

/-!
# Alternations resolve to well-formed variants

The fields of a case are the base fields without the discriminator, and fields of the shape whose
keys are new; so if the keys of the base differ, those of each case do.  Case names are registered
under the texts of their tags and begin with `Case`, which the default case's name does not.

§1 fields of a case · §2 cases of tags · §3 object shapes · §4 bare values · §5 the resolver.
-/

namespace TrackingPlan

open Naming (Registry typeName)

/-! ## §1 Fields of a case -/

theorem keys_requireField (key : String) (required : Bool) (fields : List Field) :
    (requireField key required fields).map Field.key = fields.map Field.key := by
  induction fields with
  | nil => rfl
  | cons f rest ih =>
    rw [requireField]
    split
    · rfl
    · rw [List.map_cons, List.map_cons, ih]

theorem types_requireField (key : String) (required : Bool) (fields : List Field) :
    (requireField key required fields).map Field.type = fields.map Field.type := by
  induction fields with
  | nil => rfl
  | cons f rest ih =>
    rw [requireField]
    split
    · rfl
    · rw [List.map_cons, List.map_cons, ih]

/-- The discriminator is passed over. -/
theorem discriminator_not_mem_mergeFields {discriminator : String} {own : List Field} :
    ∀ {base : List Field}, discriminator ∉ base.map Field.key →
      discriminator ∉ (mergeFields base own discriminator).map Field.key := by
  induction own with
  | nil => exact fun h => h
  | cons f rest ih =>
    intro base h
    -- a field that is added is none of the discriminator's key, for that is passed over
    have hmerged : discriminator ∉ (mergeField discriminator base f).map Field.key := by
      unfold mergeField
      split
      · exact h
      · rename_i hdisc
        split
        · rw [keys_requireField]
          exact h
        · have hne : f.key ≠ discriminator := by simpa using hdisc
          rw [List.map_append, List.map_singleton, List.mem_append, List.mem_singleton]
          exact fun hmem => hmem.elim h (Ne.symm hne)
    exact ih hmerged

/-- **Fields of a case**: their keys differ, and none is the discriminator. -/
structure CaseFields (discriminator : String) (fields : List Field) : Prop where
  keys : (fields.map Field.key).Nodup
  discriminator : discriminator ∉ fields.map Field.key

theorem nodup_keys_mergeField {discriminator : String} {merged : List Field}
    (h : (merged.map Field.key).Nodup) (f : Field) :
    ((mergeField discriminator merged f).map Field.key).Nodup := by
  unfold mergeField
  split
  · exact h
  · split
    · exact keys_requireField f.key f.required merged ▸ h
    · rename_i hkey
      have hfresh : f.key ∉ merged.map Field.key := by simpa using hkey
      rw [List.map_append, List.map_singleton]
      refine List.nodup_append.mpr ⟨h, List.nodup_singleton _, ?_⟩
      rintro key hkey _ hlast rfl
      exact hfresh (List.mem_singleton.mp hlast ▸ hkey)

/-- **Merging keeps keys apart.** -/
theorem CaseFields.mergeFields {discriminator : String} {base : List Field}
    (h : CaseFields discriminator base) (own : List Field) :
    CaseFields discriminator (mergeFields base own discriminator) := by
  refine ⟨?_, discriminator_not_mem_mergeFields h.discriminator⟩
  have hkeys := h.keys
  unfold TrackingPlan.mergeFields
  clear h
  induction own generalizing base with
  | nil => exact hkeys
  | cons f rest ih => exact ih (nodup_keys_mergeField hkeys f)

theorem types_mergeField {discriminator : String} {merged : List Field} {f : Field}
    {t : PropertyType} (h : t ∈ (mergeField discriminator merged f).map Field.type) :
    t ∈ merged.map Field.type ∨ t = f.type := by
  unfold mergeField at h
  split at h
  · exact .inl h
  · split at h
    · rw [types_requireField] at h
      exact .inl h
    · rw [List.map_append, List.map_singleton, List.mem_append, List.mem_singleton] at h
      exact h

/-- The types in a case are those of the base and of the shape. -/
theorem types_mergeFields {discriminator : String} {own : List Field} {t : PropertyType} :
    ∀ {base : List Field}, t ∈ (mergeFields base own discriminator).map Field.type →
      t ∈ base.map Field.type ∨ t ∈ own.map Field.type := by
  induction own with
  | nil => exact fun h => .inl h
  | cons f rest ih =>
    intro base h
    rcases ih h with hmerged | hrest
    · rcases types_mergeField hmerged with hbase | rfl
      · exact .inl hbase
      · exact .inr List.mem_cons_self
    · exact .inr (List.mem_cons_of_mem _ hrest)

/-! ## §2 Cases of tags -/

namespace DiscriminatedNode

/-- **The case of a tag**: an integer, a truth value or a string, and a name that begins with
`Case`. -/
structure TaggedCase (c : VariantCase) : Prop where
  tag : ∃ l : Literal, c.tag = .literal l ∧ l.isNumber = false
  name : ∃ rest, c.name = "Case" ++ rest

/-- **Cases of tags**, after some tags and names: neither tags nor names come again. -/
structure TaggedCases (seen : List Literal) (names : List String) (cases : List VariantCase) :
    Prop where
  tagged : ∀ c ∈ cases, TaggedCase c
  tags : DistinctFrom Literal.Differs seen (cases.filterMap VariantCase.literal?)
  names : DistinctFrom (· ≠ ·) names (cases.map VariantCase.name)

theorem exists_append_of_typeName {label name : String} (h : typeName label name ≠ "") :
    ∃ rest, typeName label name = label ++ rest := by
  unfold typeName at h ⊢
  dsimp only at h ⊢
  split at h
  · exact absurd rfl h
  · rename_i hblank
    rw [if_neg hblank]
    exact ⟨_, rfl⟩

theorem canonical_of_not_number {l : Literal} (h : l.isNumber = false) : l.Canonical := by
  cases l with
  | number n => cases h
  | _ => trivial

/-- **What the resolution of a tag did**: it let the tag pass three checks, and registered the name
of its case. -/
theorem resolveTag_eq_ok_iff {node : DiscriminatedNode} {field : Field} {shape : TaggedShape}
    {fields : List Field} {tag : Literal} {s s' : TagState} {c : VariantCase} :
    node.resolveTag field shape fields tag s = .ok (c, s') ↔
      tag.isNumber = false ∧ field.type.tagDomain?.any (·.accepts tag) = true ∧
        (∀ a ∈ s.seen, a.Differs tag) ∧ ∃ name registry,
          s.names.register tag.text node.name.id (typeName "Case" tag.rawText) =
            .ok (name, registry) ∧
          c = ⟨name, .literal tag, shape.description, fields⟩ ∧ s' = ⟨tag :: s.seen, registry⟩ := by
  unfold resolveTag
  rw [← not_any_equals_iff]
  constructor
  · intro h
    dsimp only at h
    split at h
    · cases h
    · rename_i hnumber
      split at h
      · cases h
      · rename_i hheld
        split at h
        · cases h
        · rename_i hseen
          obtain ⟨⟨name, registry⟩, hregister, h⟩ := except_bind_eq_ok.mp h
          obtain ⟨rfl, rfl⟩ := Prod.mk.inj (except_pure_eq_ok.mp h)
          exact ⟨Bool.eq_false_iff.mpr hnumber, by simpa using hheld, Bool.eq_false_iff.mpr hseen,
            name, registry, except_mapError_eq_ok.mp hregister, rfl, rfl⟩
  · rintro ⟨hnumber, hheld, hseen, name, registry, hregister, rfl, rfl⟩
    dsimp only
    rw [if_neg (Bool.eq_false_iff.mp hnumber), if_neg (by simpa using hheld),
      if_neg (Bool.eq_false_iff.mp hseen), hregister]
    rfl

theorem resolveTag_eq_ok {node : DiscriminatedNode} {field : Field} {shape : TaggedShape}
    {fields : List Field} {tag : Literal} {s s' : TagState} {c : VariantCase}
    {names : List String} (hs : s.names.Names node.name.id s.seen names)
    (h : node.resolveTag field shape fields tag s = .ok (c, s')) :
    TaggedCase c ∧ c.literal? = some tag ∧ c.fields = fields ∧ (∀ a ∈ s.seen, a.Differs tag) ∧
      (∀ n ∈ names, n ≠ c.name) ∧ s'.seen = tag :: s.seen ∧
      s'.names.Names node.name.id s'.seen (c.name :: names) := by
  obtain ⟨hinteger, -, hdiffers, name, registry, hregister, rfl, rfl⟩ :=
    resolveTag_eq_ok_iff.mp h
  obtain ⟨hnames, hfresh, hname, digits, hassigned⟩ :=
    hs.register (canonical_of_not_number hinteger) hdiffers hregister
  obtain ⟨rest, hrest⟩ := exists_append_of_typeName hname
  refine ⟨⟨⟨tag, rfl, hinteger⟩, rest ++ digits, ?_⟩, rfl, rfl, hdiffers, hfresh, rfl, hnames⟩
  show name = "Case" ++ (rest ++ digits)
  rw [hassigned, hrest, String.append_assoc]

theorem resolveTags_eq_ok {node : DiscriminatedNode} {field : Field} {shape : TaggedShape}
    {fields : List Field} {tags : List Literal} :
    ∀ {s s' : TagState} {cases : List VariantCase} {names : List String},
      s.names.Names node.name.id s.seen names →
      node.resolveTags field shape fields tags s = .ok (cases, s') →
      TaggedCases s.seen names cases ∧ (∀ c ∈ cases, c.fields = fields) ∧
        cases.length = tags.length ∧
        ∃ names', s'.names.Names node.name.id s'.seen names' ∧
          (∀ l, l ∈ s.seen ∨ l ∈ cases.filterMap VariantCase.literal? → l ∈ s'.seen) ∧
          ∀ n, n ∈ names ∨ n ∈ cases.map VariantCase.name → n ∈ names' := by
  induction tags with
  | nil =>
    intro s s' cases names hs h
    obtain ⟨rfl, rfl⟩ := Prod.mk.inj (Except.ok.inj h)
    refine ⟨⟨fun _ hc => absurd hc List.not_mem_nil, distinctFrom_nil, distinctFrom_nil⟩,
      fun _ hc => absurd hc List.not_mem_nil, rfl, names, hs, fun l hl => ?_, fun n hn => ?_⟩
    · exact hl.elim id fun hmem => absurd hmem List.not_mem_nil
    · exact hn.elim id fun hmem => absurd hmem List.not_mem_nil
  | cons tag rest ih =>
    intro s s' cases names hs h
    rw [resolveTags] at h
    obtain ⟨⟨c, s₁⟩, htag, h⟩ := except_bind_eq_ok.mp h
    obtain ⟨⟨others, s₂⟩, hothers, h⟩ := except_bind_eq_ok.mp h
    obtain ⟨rfl, rfl⟩ := Prod.mk.inj (except_pure_eq_ok.mp h)
    obtain ⟨hcase, hliteral, hfields, hdiffers, hfresh, hseen, hs₁⟩ := resolveTag_eq_ok hs htag
    obtain ⟨hcases, hsame, hlength, names', hs₂, hseen₂, hnames₂⟩ := ih hs₁ hothers
    rw [hseen] at hcases hseen₂
    refine ⟨⟨List.forall_mem_cons.mpr ⟨hcase, hcases.tagged⟩, ?_, ?_⟩,
      List.forall_mem_cons.mpr ⟨hfields, hsame⟩, congrArg (· + 1) hlength, names', hs₂,
      fun l hl => hseen₂ l ?_, fun n hn => hnames₂ n ?_⟩
    · rw [List.filterMap_cons_some hliteral]
      exact distinctFrom_cons.mpr ⟨hdiffers, hcases.tags⟩
    · exact distinctFrom_cons.mpr ⟨hfresh, hcases.names⟩
    · rw [List.filterMap_cons_some hliteral, List.mem_cons] at hl
      rw [List.mem_cons]
      tauto
    · rw [List.map_cons, List.mem_cons] at hn
      rw [List.mem_cons]
      tauto

/-! ## §3 Object shapes -/

theorem resolveShapes_eq_ok {node : DiscriminatedNode} {field : Field} {base : List Field}
    {shapes : List TaggedShape} :
    ∀ {s : TagState} {cases : List VariantCase} {names : List String},
      s.names.Names node.name.id s.seen names → node.resolveShapes field base shapes s = .ok cases →
      TaggedCases s.seen names cases ∧
        (∀ c ∈ cases, ∃ shape ∈ shapes,
          c.fields = mergeFields base shape.fields node.discriminator) ∧
        (shapes ≠ [] → cases ≠ []) := by
  induction shapes with
  | nil =>
    intro s cases names _ h
    obtain rfl := Except.ok.inj h
    exact ⟨⟨fun _ hc => absurd hc List.not_mem_nil, distinctFrom_nil, distinctFrom_nil⟩,
      fun _ hc => absurd hc List.not_mem_nil, fun hne => absurd rfl hne⟩
  | cons shape rest ih =>
    intro s cases names hs h
    rw [resolveShapes] at h
    split at h
    · cases h
    · rename_i htags
      obtain ⟨⟨first, s₁⟩, hfirst, h⟩ := except_bind_eq_ok.mp h
      obtain ⟨others, hothers, h⟩ := except_bind_eq_ok.mp h
      obtain rfl := except_pure_eq_ok.mp h
      obtain ⟨hcases, hfields, hlength, names', hs₁, hseen, hnames⟩ := resolveTags_eq_ok hs hfirst
      obtain ⟨hcases', hfields', -⟩ := ih hs₁ hothers
      refine ⟨⟨?_, ?_, ?_⟩, fun c hc => ?_, fun _ hnil => ?_⟩
      · exact List.forall_mem_append.mpr ⟨hcases.tagged, hcases'.tagged⟩
      · rw [List.filterMap_append]
        exact hcases.tags.append hcases'.tags hseen
      · rw [List.map_append]
        exact hcases.names.append hcases'.names hnames
      · rcases List.mem_append.mp hc with hmem | hmem
        · exact ⟨shape, List.mem_cons_self, hfields c hmem⟩
        · obtain ⟨other, hother, heq⟩ := hfields' c hmem
          exact ⟨other, List.mem_cons_of_mem shape hother, heq⟩
      · obtain ⟨rfl, -⟩ := List.append_eq_nil_iff.mp hnil
        have hempty : shape.tags = [] := List.length_eq_zero_iff.mp hlength.symm
        exact htags (by rw [hempty]; rfl)

/-- **What an alternation of object shapes resolves to.** -/
structure ResolvesTo (node : DiscriminatedNode) (v : VariantType) : Prop where
  name : v.name = node.name
  discriminator : ∃ f ∈ node.baseFields, f.key = node.discriminator ∧
    v.discriminator = some ⟨f.key, f.type, f.description⟩
  cases : TaggedCases [] [] v.cases
  fields : ∀ c ∈ v.cases, ∃ shape ∈ node.shapes,
    c.fields = mergeFields node.ownBase shape.fields node.discriminator
  default : v.defaultCase = node.defaultCase?
  nonempty : v.allCases ≠ []

/-- **What resolution did**: it found the discriminator and a case, and resolved the shapes. -/
theorem resolve_eq_ok_iff {node : DiscriminatedNode} {v : VariantType} : node.resolve = .ok v ↔
    ∃ field cases, node.baseFields.find? (·.key == node.discriminator) = some field ∧
      (node.shapes ≠ [] ∨ ∃ extra, node.defaultFields = some extra) ∧
      node.resolveShapes field node.ownBase node.shapes {} = .ok cases ∧
      v = ⟨node.name, node.description, some ⟨field.key, field.type, field.description⟩, cases,
        node.defaultCase?⟩ := by
  have hempty : (node.shapes.isEmpty && node.defaultFields.isNone) = true ↔
      ¬(node.shapes ≠ [] ∨ ∃ extra, node.defaultFields = some extra) := by
    rw [← Option.ne_none_iff_exists', Bool.and_eq_true, List.isEmpty_iff, Option.isNone_iff_eq_none]
    tauto
  unfold resolve
  constructor
  · intro h
    split at h
    · cases h
    · rename_i field hfield
      dsimp only at h
      split at h
      · cases h
      · rename_i hcases
        obtain ⟨cases, hshapes, h⟩ := except_bind_eq_ok.mp h
        exact ⟨field, cases, hfield, not_not.mp (mt hempty.mpr hcases), hshapes,
          (except_pure_eq_ok.mp h).symm⟩
  · rintro ⟨field, cases, hfield, hcases, hshapes, rfl⟩
    rw [hfield]
    dsimp only
    rw [if_neg fun h => hempty.mp h hcases]
    exact except_bind_eq_ok.mpr ⟨_, hshapes, rfl⟩

theorem resolvesTo_of_resolve {node : DiscriminatedNode} {v : VariantType}
    (h : node.resolve = .ok v) : node.ResolvesTo v := by
  obtain ⟨field, cases, hfield, hcases, hshapes, rfl⟩ := resolve_eq_ok_iff.mp h
  obtain ⟨htagged, hfields, hnonempty⟩ := resolveShapes_eq_ok (s := {}) (.start _) hshapes
  have hkey : field.key = node.discriminator := by simpa using List.find?_some hfield
  refine ⟨rfl, ⟨field, List.mem_of_find?_eq_some hfield, hkey, rfl⟩, htagged, hfields, rfl, ?_⟩
  intro hnil
  obtain ⟨hnone, hdefault⟩ := List.append_eq_nil_iff.mp hnil
  rcases hcases with hshape | ⟨extra, hextra⟩
  · exact hnonempty hshape hnone
  · simp [defaultCase?, hextra] at hdefault

theorem discriminator_not_mem_ownBase (node : DiscriminatedNode) :
    node.discriminator ∉ node.ownBase.map Field.key := by
  intro hmem
  obtain ⟨f, hf, hkey⟩ := List.mem_map.mp hmem
  exact absurd hkey (by simpa using (List.mem_filter.mp hf).2)

theorem CaseFields.ownBase {node : DiscriminatedNode}
    (h : (node.baseFields.map Field.key).Nodup) : CaseFields node.discriminator node.ownBase :=
  ⟨h.sublist (List.filter_sublist.map Field.key), node.discriminator_not_mem_ownBase⟩

namespace ResolvesTo

variable {node : DiscriminatedNode} {v : VariantType}

theorem discriminator_key (h : node.ResolvesTo v) {d : Discriminator}
    (hd : v.discriminator = some d) : d.key = node.discriminator := by
  obtain ⟨f, -, hkey, hdisc⟩ := h.discriminator
  obtain rfl := Option.some.inj (hd.symm.trans hdisc)
  exact hkey

theorem tag_default (h : node.ResolvesTo v) {c : VariantCase} (hc : v.defaultCase = some c) :
    c.tag = .fallback ∧ c.name = defaultCaseName := by
  rw [h.default, defaultCase?] at hc
  obtain ⟨_, -, rfl⟩ := Option.map_eq_some_iff.mp hc
  exact ⟨rfl, rfl⟩

/-- Every case merges its fields into the base. -/
theorem exists_mergeFields (h : node.ResolvesTo v) {c : VariantCase} (hc : c ∈ v.allCases) :
    ∃ own, c.fields = mergeFields node.ownBase own node.discriminator := by
  rcases List.mem_append.mp hc with hmem | hmem
  · obtain ⟨shape, -, hfields⟩ := h.fields c hmem
    exact ⟨shape.fields, hfields⟩
  · have hdefault := Option.mem_toList.mp hmem
    rw [h.default, defaultCase?] at hdefault
    obtain ⟨extra, -, rfl⟩ := Option.map_eq_some_iff.mp hdefault
    exact ⟨extra, rfl⟩

/-- So it holds each key once and not the discriminator's. -/
theorem caseFields (h : node.ResolvesTo v) (hkeys : (node.baseFields.map Field.key).Nodup)
    {c : VariantCase} (hc : c ∈ v.allCases) : CaseFields node.discriminator c.fields := by
  obtain ⟨own, hfields⟩ := h.exists_mergeFields hc
  rw [hfields]
  exact (CaseFields.ownBase hkeys).mergeFields own

/-- Not even a base that repeats keys brings the discriminator into a case. -/
theorem discriminator_not_mem (h : node.ResolvesTo v) {c : VariantCase} (hc : c ∈ v.allCases) :
    node.discriminator ∉ c.fields.map Field.key := by
  obtain ⟨own, hfields⟩ := h.exists_mergeFields hc
  rw [hfields]
  exact discriminator_not_mem_mergeFields node.discriminator_not_mem_ownBase

theorem fits (h : node.ResolvesTo v) (hkeys : (node.baseFields.map Field.key).Nodup)
    {c : VariantCase} (hc : c ∈ v.allCases) : v.Fits c := by
  obtain ⟨f, -, hkey, hdisc⟩ := h.discriminator
  unfold VariantType.Fits
  rw [hdisc]
  rcases List.mem_append.mp hc with hmem | hmem
  · obtain ⟨l, htag, hnumber⟩ := (h.cases.tagged c hmem).tag
    rw [htag]
    exact ⟨hnumber, hkey ▸ (h.caseFields hkeys hc).discriminator⟩
  · rw [(h.tag_default (Option.mem_toList.mp hmem)).1]
    trivial

/-- The names of cases begin with `Case`, and that of the default case does not. -/
theorem nodup_names (h : node.ResolvesTo v) : (v.allCases.map VariantCase.name).Nodup := by
  rw [VariantType.allCases, List.map_append]
  refine List.nodup_append.mpr ⟨distinctFrom_start.mp h.cases.names, ?_, ?_⟩
  · cases v.defaultCase <;> simp
  · rintro a ha b hb rfl
    obtain ⟨c, hc, rfl⟩ := List.mem_map.mp ha
    obtain ⟨d, hd, hname⟩ := List.mem_map.mp hb
    obtain ⟨rest, hrest⟩ := (h.cases.tagged c hc).name
    rw [(h.tag_default (Option.mem_toList.mp hd)).2, hrest] at hname
    simpa [defaultCaseName, String.toList_append] using congrArg String.toList hname

/-- The tags of the variant are those of its cases: the default case has none. -/
theorem tags_eq (h : node.ResolvesTo v) :
    v.allCases.filterMap v.tagKey? = v.cases.filterMap VariantCase.literal? := by
  obtain ⟨f, -, -, hdisc⟩ := h.discriminator
  have hnone : v.defaultCase.toList.filterMap v.tagKey? = [] := by
    cases hdefault : v.defaultCase with
    | none => rfl
    | some c => simp [VariantType.tagKey?, hdisc, (h.tag_default hdefault).1]
  have hsame : v.cases.filterMap v.tagKey? = v.cases.filterMap VariantCase.literal? := by
    refine List.filterMap_congr fun c hc => ?_
    obtain ⟨l, htag, -⟩ := (h.cases.tagged c hc).tag
    simp [VariantType.tagKey?, VariantCase.literal?, htag, hdisc]
  rw [VariantType.allCases, List.filterMap_append, hnone, List.append_nil, hsame]

/-- **Object shapes over a base with different keys make a well-formed variant.** -/
theorem wellFormed (h : node.ResolvesTo v) (hkeys : (node.baseFields.map Field.key).Nodup) :
    v.WellFormed where
  names := h.nodup_names
  keys := fun _ hc => (h.caseFields hkeys hc).keys
  fits := fun _ hc => h.fits hkeys hc
  tags := by
    rw [h.tags_eq]
    exact distinctFrom_start.mp h.cases.tags
  nonempty := h.nonempty
  default := fun _ hc => (h.tag_default hc).1

end ResolvesTo

/-- **All that stands in the variant stands in the alternation.** -/
theorem ResolvesTo.mem_parts {node : DiscriminatedNode} {v : VariantType} (h : node.ResolvesTo v)
    {t : PropertyType} (ht : t ∈ (PropertyType.variant v).parts) :
    t ∈ node.baseFields.map Field.type ∨
      (∃ shape ∈ node.shapes, t ∈ shape.fields.map Field.type) ∨
      ∃ extra, node.defaultFields = some extra ∧ t ∈ extra.map Field.type := by
  have hbase : t ∈ node.ownBase.map Field.type → t ∈ node.baseFields.map Field.type :=
    fun hmem => (List.filter_sublist.map Field.type).subset hmem
  rcases List.mem_append.mp ht with hdisc | hcase
  · obtain ⟨f, hf, -, hd⟩ := h.discriminator
    rw [hd] at hdisc
    obtain rfl := List.mem_singleton.mp hdisc
    exact .inl (List.mem_map.mpr ⟨f, hf, rfl⟩)
  · obtain ⟨c, hc, hfields⟩ := List.mem_flatMap.mp hcase
    rcases List.mem_append.mp hc with hmem | hmem
    · obtain ⟨shape, hshape, heq⟩ := h.fields c hmem
      rw [heq] at hfields
      rcases types_mergeFields hfields with hown | hextra
      · exact .inl (hbase hown)
      · exact .inr (.inl ⟨shape, hshape, hextra⟩)
    · have hdef := Option.mem_toList.mp hmem
      rw [h.default, defaultCase?] at hdef
      obtain ⟨extra, hextra, rfl⟩ := Option.map_eq_some_iff.mp hdef
      rcases types_mergeFields hfields with hown | hmore
      · exact .inl (hbase hown)
      · exact .inr (.inr ⟨extra, hextra, hmore⟩)

end DiscriminatedNode

/-! ## §4 Bare values -/

theorem ScalarKind.text_injective {j k : ScalarKind} (h : j.text = k.text) : j = k := by
  cases j <;> cases k <;> first | rfl | exact absurd h (by decide)

theorem ScalarKind.text_ne_object (k : ScalarKind) : k.text ≠ ValueKind.object.text := by
  cases k <;> decide

theorem ScalarKind.text_ne_array (k : ScalarKind) : k.text ≠ ValueKind.array.text := by
  cases k <;> decide

namespace ValueKind

theorem text_injective {j k : ValueKind} (h : j.text = k.text) : j = k := by
  cases j with
  | scalar a =>
    cases k with
    | scalar b => rw [ScalarKind.text_injective h]
    | object => exact absurd h a.text_ne_object
    | array => exact absurd h a.text_ne_array
  | object =>
    cases k with
    | scalar b => exact absurd h.symm b.text_ne_object
    | object => rfl
    | array => exact absurd h (by decide)
  | array =>
    cases k with
    | scalar b => exact absurd h.symm b.text_ne_array
    | object => exact absurd h (by decide)
    | array => rfl

/-- The kind whose case has this name. -/
def ofCaseName? (name : String) : Option ValueKind :=
  [.scalar .boolean, .scalar .integer, .scalar .number, .scalar .string, .object, .array].find?
    (·.caseName == name)

theorem ofCaseName?_caseName (k : ValueKind) : ofCaseName? k.caseName = some k := by
  rcases k with (_ | _ | _ | _) | _ | _ <;> decide

theorem caseName_injective {j k : ValueKind} (h : j.caseName = k.caseName) : j = k := by
  have hread : ofCaseName? j.caseName = ofCaseName? k.caseName := congrArg ofCaseName? h
  rw [ofCaseName?_caseName, ofCaseName?_caseName] at hread
  exact Option.some.inj hread

/-- What bare values hold has no name within. -/
theorem unnamed_of_wrappedType (k : ValueKind) {u : PropertyType} (h : k.wrappedType.Reaches u) :
    u.name? = none := by
  rcases PropertyType.reaches_iff.mp h with rfl | ⟨item, hitem, hreach⟩
  · cases k <;> rfl
  · cases k with
    | array =>
      obtain rfl := List.mem_singleton.mp hitem
      rcases PropertyType.reaches_iff.mp hreach with rfl | ⟨_, hnone, _⟩
      · rfl
      · exact absurd hnone List.not_mem_nil
    | _ => exact absurd hitem List.not_mem_nil

end ValueKind

namespace PrimitiveNode

/-- **What an alternation of bare values resolves to.** -/
structure ResolvesTo (node : PrimitiveNode) (v : VariantType) : Prop where
  eq : v = ⟨node.name, node.description, none, node.kinds.map ValueKind.toCase, none⟩
  nonempty : node.kinds ≠ []
  distinct : node.kinds.Nodup

theorem resolvesTo_of_resolve {node : PrimitiveNode} {v : VariantType}
    (h : node.resolve = .ok v) : node.ResolvesTo v := by
  unfold resolve at h
  dsimp only at h
  split at h
  · cases h
  · rename_i hkinds
    split at h
    · cases h
    · rename_i hdistinct
      exact ⟨(except_pure_eq_ok.mp h).symm, fun hnil => hkinds (by rw [hnil]; rfl),
        firstRepeated?_eq_none_iff.mp hdistinct⟩

/-- **Bare values make a well-formed variant.** -/
theorem ResolvesTo.wellFormed {node : PrimitiveNode} {v : VariantType} (h : node.ResolvesTo v) :
    v.WellFormed := by
  obtain ⟨rfl, hnonempty, hdistinct⟩ := h
  have hall : VariantType.allCases
      ⟨node.name, node.description, none, node.kinds.map ValueKind.toCase, none⟩ =
      node.kinds.map ValueKind.toCase := List.append_nil _
  refine ⟨?_, fun c hc => ?_, fun c hc => ?_, ?_, ?_, fun _ hc => nomatch hc⟩
  · rw [hall, List.map_map]
    exact hdistinct.map fun _ _ => ValueKind.caseName_injective
  · rw [hall] at hc
    obtain ⟨k, -, rfl⟩ := List.mem_map.mp hc
    exact List.nodup_singleton _
  · rw [hall] at hc
    obtain ⟨k, -, rfl⟩ := List.mem_map.mp hc
    rfl
  · rw [hall, List.filterMap_map, List.pairwise_filterMap]
    refine hdistinct.imp fun {j k} hne t ht u hu => ?_
    obtain rfl : Literal.string j.text = t := Option.some.inj ht
    obtain rfl : Literal.string k.text = u := Option.some.inj hu
    exact beq_eq_false_iff_ne.mpr fun heq =>
      hne (ValueKind.text_injective (Literal.string.inj heq))
  · rw [hall]
    exact fun hnil => hnonempty (List.map_eq_nil_iff.mp hnil)

/-- Nothing that stands in the variant has a name. -/
theorem ResolvesTo.unnamed {node : PrimitiveNode} {v : VariantType} (h : node.ResolvesTo v)
    {t u : PropertyType} (ht : t ∈ (PropertyType.variant v).parts) (hu : t.Reaches u) :
    u.name? = none := by
  obtain ⟨rfl, -, -⟩ := h
  obtain ⟨c, hc, hfields⟩ := List.mem_flatMap.mp ht
  rw [VariantType.allCases, Option.toList_none, List.append_nil] at hc
  obtain ⟨k, -, rfl⟩ := List.mem_map.mp hc
  obtain rfl := List.mem_singleton.mp hfields
  exact k.unnamed_of_wrappedType hu

end PrimitiveNode

/-! ## §5 The resolver -/

namespace Resolver

variable {r r' : Resolver} {node : AlternationNode} {v : VariantType}

/-- **How an alternation was resolved**: from memory, or by itself and then remembered. -/
inductive Resolves (r : Resolver) (node : AlternationNode) : VariantType → Resolver → Prop
  | remembered {v : VariantType} : r.resolved.get? node.name.id = some v →
      Resolves r node v { r with hits := r.hits + 1 }
  | made {v : VariantType} : r.resolved.get? node.name.id = none → node.resolve = .ok v →
      Resolves r node v { r with resolved := r.resolved.insert node.name.id v }

theorem resolve_eq_ok_iff : r.resolve node = .ok (v, r') ↔ r.Resolves node v r' := by
  unfold resolve
  constructor
  · intro h
    split at h
    · rename_i w hw
      obtain ⟨rfl, rfl⟩ := Prod.mk.inj (Except.ok.inj h)
      exact .remembered hw
    · rename_i hnew
      obtain ⟨w, hw, h⟩ := except_bind_eq_ok.mp h
      obtain ⟨rfl, rfl⟩ := Prod.mk.inj (except_pure_eq_ok.mp h)
      exact .made hnew hw
  · intro h
    cases h with
    | remembered hv => rw [hv]
    | made hnew hv =>
      rw [hnew, hv]
      rfl

end Resolver

end TrackingPlan
