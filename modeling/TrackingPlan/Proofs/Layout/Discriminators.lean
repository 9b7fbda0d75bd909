import TrackingPlan.Proofs.Alternation
import TrackingPlan.Proofs.Layout.Refinement
import TrackingPlan.Proofs.Layout.Written

/-!
# Object shapes chosen by a discriminator, as they are written

A value of such a variant names its case, or is routed to it by a literal.  Both are written in one
way (`HoldsCases.encode_eq_ok_iff`): the fields of the case, then the discriminator.  A tagged case
writes its own tag; the default case writes what the caller supplies under the discriminator's key,
and for a routed value the literal itself, by the layout of the discriminator's type.

Any accepted variant of object shapes is written so (`HoldsCases`).  One that an alternation
resolved to has its discriminator apart from the fields, and no default case but its own
(`Discriminates`).

§1 cases and their layouts · §2 the tags of cases · §3 values of the variant.
-/

namespace TrackingPlan

/-! ## §1 Cases and their layouts -/

/-- Where the discriminator of a case gets its value from. -/
def Discriminator.slot (d : Discriminator) (c : VariantCase) : DiscriminatorSlot :=
  match c.literal? with
  | some tag => .fixed tag
  | none => .supplied d.type.layout

/-- **The layouts hold the object cases of a variant**: each is found under its name, and is tagged
by a literal or is a default case. -/
structure Layouts.HoldsCases (ls : Layouts) (v : VariantType) (d : Discriminator) : Prop where
  discriminator : v.discriminator = some d
  names : (v.allCases.map VariantCase.name).Nodup
  tags : ∀ c ∈ v.allCases, c.tag = .fallback ∨ ∃ tag : Literal, c.tag = .literal tag
  layout : ∃ w : VariantLayout, w.Of v ∧ ls.types.get? v.name.id = some (.variant w)
  direct : ls.layoutOf v.name = .named v.name.id

/-- **The layouts of a variant of object shapes**: each case is found under its name, adds no field
under the discriminator's key, and is tagged by a literal of its own or is the default case. -/
structure Layouts.Discriminates (ls : Layouts) (v : VariantType) (d : Discriminator) : Prop where
  discriminator : v.discriminator = some d
  names : (v.allCases.map VariantCase.name).Nodup
  tagged : ∀ c ∈ v.cases, ∃ tag : Literal, c.tag = .literal tag ∧ tag.isNumber = false
  tags : (v.cases.filterMap VariantCase.literal?).Pairwise Literal.Differs
  fallback : ∀ c, v.defaultCase = some c → c.tag = .fallback
  absent : ∀ c ∈ v.allCases, d.key ∉ c.fields.map Field.key
  layout : ∃ w : VariantLayout, w.Of v ∧ ls.types.get? v.name.id = some (.variant w)
  direct : ls.layoutOf v.name = .named v.name.id

/-- A variant that is among the named types of a model finds its layout there. -/
theorem Layouts.exists_variantLayout {s : Schema} {ls : Layouts}
    (hls : Layouts.ofSchema s = .ok ls) {v : VariantType} (hv : .variant v ∈ s.namedTypes)
    (hcases : ∀ c ∈ v.allCases, ∃ l, v.caseLayout c = .ok l) :
    ∃ w : VariantLayout, w.Of v ∧ ls.types.get? v.name.id = some (.variant w) := by
  obtain ⟨cases, hmap, -⟩ := VariantType.exists_caseLayouts hcases
  refine ⟨⟨v, cases⟩, ⟨rfl, hmap⟩, ?_⟩
  rw [Layouts.eq_of_ofSchema hls]
  refine Schema.get?_entries hv rfl ?_
  simp only [PropertyType.typeLayout?, hmap, Except.toOption, Option.map_some]

/-- **An alternation of object shapes that is among the named types of a model** is written as
such. -/
theorem Layouts.discriminates {node : DiscriminatedNode} {v : VariantType}
    (hnode : node.resolve = .ok v) {s : Schema} {ls : Layouts} (hls : Layouts.ofSchema s = .ok ls)
    (hv : .variant v ∈ s.namedTypes) {d : Discriminator} (hd : v.discriminator = some d) :
    ls.Discriminates v d := by
  have hres := DiscriminatedNode.resolvesTo_of_resolve hnode
  have hkey := hres.discriminator_key hd
  have hfallback : ∀ c, v.defaultCase = some c → c.tag = .fallback :=
    fun c hc => (hres.tag_default hc).1
  refine ⟨hd, hres.nodup_names, fun c hc => (hres.cases.tagged c hc).tag,
    distinctFrom_start.mp hres.cases.tags, hfallback,
    fun c hc => hkey ▸ hres.discriminator_not_mem hc, ?_, ?_⟩
  · -- the variant has a discriminator, so tags and the default case alike have a layout
    apply Layouts.exists_variantLayout hls hv
    intro c hc
    rcases List.mem_append.mp hc with hmem | hmem
    · obtain ⟨tag, htag, -⟩ := (hres.cases.tagged c hmem).tag
      exact ⟨_, by rw [VariantType.caseLayout, htag, hd]⟩
    · have htag := hfallback c (Option.mem_toList.mp hmem)
      exact ⟨_, by rw [VariantType.caseLayout, htag, hd]⟩
  · rw [Layouts.eq_of_ofSchema hls]
    exact Schema.layoutOf_layouts hv rfl

/-- **A variant of object shapes that is among the named types of an accepted model** is held. -/
theorem Layouts.holdsCases {s : Schema} (hfaults : s.faults = []) {ls : Layouts}
    (hls : Layouts.ofSchema s = .ok ls) {v : VariantType} (hv : .variant v ∈ s.namedTypes)
    {d : Discriminator} (hd : v.discriminator = some d) : ls.HoldsCases v d := by
  have hwell := VariantType.faults_eq_nil_iff.mp (Schema.faults_of_mem_namedTypes hfaults hv)
  refine ⟨hd, hwell.names, fun c hc => ?_, ?_, ?_⟩
  · cases (hwell.fits c hc).fitting with
    | literal _ l _ htag => exact .inr ⟨l, htag⟩
    | fallback _ _ htag => exact .inl htag
    | bare _ _ hnone => cases hd.symm.trans hnone
  · exact Layouts.exists_variantLayout hls hv fun c hc =>
      VariantType.exists_caseLayout (hwell.fits c hc)
  · rw [Layouts.eq_of_ofSchema hls]
    exact Schema.layoutOf_layouts hv rfl

theorem Layouts.HoldsCases.caseLayout_eq {ls : Layouts} {v : VariantType} {d : Discriminator}
    {c : VariantCase} (h : ls.HoldsCases v d) (hc : c ∈ v.allCases) :
    v.caseLayout c = .ok (.object c.name (c.fields.map Field.layout) d.key (d.slot c)) := by
  rcases h.tags c hc with htag | ⟨tag, htag⟩
  · simp only [VariantType.caseLayout, Discriminator.slot, VariantCase.literal?, htag,
      h.discriminator]
  · simp only [VariantType.caseLayout, Discriminator.slot, VariantCase.literal?, htag,
      h.discriminator]

namespace Layouts.Discriminates

variable {ls : Layouts} {v : VariantType} {d : Discriminator} {c : VariantCase}

theorem holdsCases (h : ls.Discriminates v d) : ls.HoldsCases v d := by
  refine ⟨h.discriminator, h.names, fun c hc => ?_, h.layout, h.direct⟩
  rcases List.mem_append.mp hc with hmem | hmem
  · obtain ⟨tag, htag, -⟩ := h.tagged c hmem
    exact .inr ⟨tag, htag⟩
  · exact .inl (h.fallback c (Option.mem_toList.mp hmem))

theorem fields_absent (h : ls.Discriminates v d) (hc : c ∈ v.allCases) :
    d.key ∉ (c.fields.map Field.layout).map FieldLayout.key := by
  rw [List.map_map]
  exact h.absent c hc

end Layouts.Discriminates

/-! ## §2 The tags of cases -/

/-- Only two numbers that are no integers can be one value without being one literal. -/
theorem Literal.eq_of_equals {l m : Literal} (h : l.equals m = true)
    (hnumber : l.isNumber = false ∨ m.isNumber = false) : l = m := by
  cases l with
  | number n =>
    cases m with
    | number n' => rcases hnumber with hl | hm <;> contradiction
    | _ => cases h
  | _ => exact eq_of_beq h

namespace VariantType

/-- **The tags of a variant tell its cases apart**: none is a fraction, and no two are one value. -/
structure TagsApart (v : VariantType) : Prop where
  integers : ∀ c ∈ v.cases, ∀ tag, c.literal? = some tag → tag.isNumber = false
  differ : (v.cases.filterMap VariantCase.literal?).Pairwise Literal.Differs

variable {v : VariantType} {c : VariantCase} {tag : Literal}

/-- **A literal selects the case that it tags.** -/
theorem TagsApart.taggedCase?_eq_some_iff (h : v.TagsApart) :
    v.taggedCase? tag = some c ↔ c ∈ v.cases ∧ c.literal? = some tag := by
  have hfound : ∀ {b}, v.taggedCase? tag = some b → b ∈ v.cases ∧ b.literal? = some tag := by
    intro b hb
    have hmem := List.mem_of_find?_eq_some hb
    have hany := List.find?_some hb
    obtain ⟨own, hown, hequals⟩ := (Option.any_eq_true _ _).mp hany
    rw [hown, Literal.eq_of_equals hequals (.inl (h.integers b hmem own hown))]
    exact ⟨hmem, rfl⟩
  refine ⟨hfound, fun ⟨hc, htag⟩ => ?_⟩
  have hself : tag.equals tag = true :=
    Literal.equals_self (DiscriminatedNode.canonical_of_not_number (h.integers c hc tag htag))
  -- two cases with one tag would have a tag that differs from itself
  have hapart : v.cases.Pairwise fun a b => ¬(a.literal? = some tag ∧ b.literal? = some tag) := by
    refine (List.pairwise_filterMap.mp h.differ).imp fun {a b} hdiffers hboth => ?_
    have hdiffer : tag.equals tag = false := hdiffers tag hboth.1 tag hboth.2
    rw [hself] at hdiffer
    cases hdiffer
  have hsome : (v.taggedCase? tag).isSome = true := by
    refine List.find?_isSome.mpr ⟨c, hc, ?_⟩
    rw [htag]
    exact hself
  obtain ⟨c', hc'⟩ := Option.isSome_iff_exists.mp hsome
  have hsame : c' = c := by
    have : Std.Symm fun a b : VariantCase => ¬(a.literal? = some tag ∧ b.literal? = some tag) :=
      ⟨fun a b hab hba => hab hba.symm⟩
    by_contra hne
    exact hapart.forall (hfound hc').1 hc hne ⟨(hfound hc').2, htag⟩
  rw [hc', hsame]

/-- A literal that tags no case selects none. -/
theorem TagsApart.taggedCase?_eq_none_iff (h : v.TagsApart) :
    v.taggedCase? tag = none ↔ ∀ c ∈ v.cases, c.literal? ≠ some tag := by
  rw [Option.eq_none_iff_forall_ne_some]
  simp only [ne_eq, h.taggedCase?_eq_some_iff, not_and]

/-- An accepted variant has its tags apart. -/
theorem WellFormed.tagsApart (h : v.WellFormed) : v.TagsApart := by
  have hkey : ∀ c ∈ v.cases, ∀ tag, c.literal? = some tag →
      tag.isNumber = false ∧ v.tagKey? c = some tag := by
    intro c hc tag htag
    have hfits := h.fits c (List.mem_append_left _ hc)
    unfold VariantCase.literal? at htag
    split at htag
    · rename_i l hl
      obtain rfl := Option.some.inj htag
      unfold VariantType.Fits at hfits
      unfold VariantType.tagKey?
      cases hd : v.discriminator with
      | some d =>
        simp only [hl, hd] at hfits
        exact ⟨hfits.1, by simp only [hl]⟩
      | none =>
        simp only [hl, hd] at hfits
    · cases htag
  refine ⟨fun c hc tag htag => (hkey c hc tag htag).1, ?_⟩
  have htags := List.pairwise_filterMap.mp h.tags
  rw [allCases, List.pairwise_append] at htags
  refine List.pairwise_filterMap.mpr (htags.1.imp_of_mem fun {a b} ha hb hdiffers => ?_)
  exact fun l hl m hm => hdiffers l (hkey a ha l hl).2 m (hkey b hb m hm).2

end VariantType

namespace Layouts.Discriminates

variable {ls : Layouts} {v : VariantType} {d : Discriminator} {c : VariantCase} {tag : Literal}

theorem exists_literal? (h : ls.Discriminates v d) (hc : c ∈ v.cases) :
    ∃ own : Literal, c.literal? = some own ∧ own.isNumber = false := by
  obtain ⟨own, hown, hnumber⟩ := h.tagged c hc
  exact ⟨own, by rw [VariantCase.literal?, hown], hnumber⟩

theorem tagsApart (h : ls.Discriminates v d) : v.TagsApart := by
  refine ⟨fun c hc tag htag => ?_, h.tags⟩
  obtain ⟨own, hown, hnumber⟩ := h.exists_literal? hc
  obtain rfl := Option.some.inj (hown.symm.trans htag)
  exact hnumber

theorem literal?_of_default (h : ls.Discriminates v d) (hc : v.defaultCase = some c) :
    c.literal? = none := by
  rw [VariantCase.literal?, h.fallback c hc]

/-- The tagged case that a literal selects is tagged by it. -/
theorem literal?_of_taggedCase? (h : ls.Discriminates v d) (hc : v.taggedCase? tag = some c) :
    c.literal? = some tag :=
  (h.tagsApart.taggedCase?_eq_some_iff.mp hc).2

theorem slot_of_default (h : ls.Discriminates v d) (hc : v.defaultCase = some c) :
    d.slot c = .supplied d.type.layout := by
  rw [Discriminator.slot, h.literal?_of_default hc]

theorem slot_of_taggedCase? (h : ls.Discriminates v d) (hc : v.taggedCase? tag = some c) :
    d.slot c = .fixed tag := by
  rw [Discriminator.slot, h.literal?_of_taggedCase? hc]

end Layouts.Discriminates

/-! ## §3 Values of the variant -/

/-- The fields that a value holds, if it holds any. -/
def TypedValue.fields : TypedValue → Entries TypedValue
  | .record fields => fields
  | .case _ fields => fields
  | .tagged _ fields => fields
  | _ => []

/-- **The case that a value is written by**: the one that it names, or the one that its literal
selects. -/
def VariantType.chosenCase? (v : VariantType) : TypedValue → Option VariantCase
  | .case name _ => v.caseNamed? name
  | .tagged tag _ => (v.route tag).toOption
  | _ => none

/-- What the literal of a routed value writes. -/
def Layouts.routed? (ls : Layouts) : TypedValue → Option Encoding
  | .tagged tag _ => some (ls.encoding (TypedValue.ofLiteral tag))
  | _ => none

theorem VariantType.route_eq_ok_iff {v : VariantType} {tag : Literal} {c : VariantCase} :
    v.route tag = .ok c ↔ (v.taggedCase? tag).or v.defaultCase = some c := by
  unfold VariantType.route
  cases (v.taggedCase? tag).or v.defaultCase <;> simp

theorem VariantType.mem_allCases_of_chosenCase? {v : VariantType} {value : TypedValue}
    {c : VariantCase} (h : v.chosenCase? value = some c) : c ∈ v.allCases := by
  cases value with
  | case name fields => exact (mem_allCases_of_caseNamed? h).1
  | tagged tag fields =>
    exact mem_allCases_of_tagged (route_eq_ok_iff.mp (except_toOption_eq_some.mp h))
  | _ => cases h

namespace Layouts.HoldsCases

variable {ls : Layouts} {v : VariantType} {d : Discriminator} {value : TypedValue}

/-- A value is written by the layout of its case. -/
theorem encode_eq (h : ls.HoldsCases v d) (hvalue : value.isBare = false) {c : VariantCase}
    (hc : v.chosenCase? value = some c) :
    ls.encode v.name value =
      encodeObjectCase v.name.name (.object c.name (c.fields.map Field.layout) d.key (d.slot c))
        (ls.entryEncodings value.fields) (ls.routed? value) := by
  obtain ⟨w, hw, hget⟩ := h.layout
  have hmem := VariantType.mem_allCases_of_chosenCase? hc
  have hcase : w.case? c.name =
      some (.object c.name (c.fields.map Field.layout) d.key (d.slot c)) := by
    rw [hw.case?_of_mem h.names hmem, h.caseLayout_eq hmem]
    rfl
  rw [Layouts.encode, h.direct,
    Layouts.encoding_of_target (settle_of_not_bare hget hvalue ls.types.length), ← hw.variant]
  -- either way the layout is looked up by the name of the case
  cases value with
  | case name fields =>
    obtain ⟨-, rfl⟩ := VariantType.mem_allCases_of_caseNamed? hc
    exact encodeNamedCase_of_object hcase (ls.entryEncodings fields)
  | tagged tag fields =>
    have hroute : w.variant.route tag = .ok c := hw.variant.symm ▸ except_toOption_eq_some.mp hc
    show encodeTagged w tag (ls.entryEncodings fields) _ = _
    rw [encodeTagged_of_route hroute hcase, ls.atomEncoding_ofLiteral]
    rfl
  | _ => cases hvalue

/-- A value that was written was written by a case. -/
theorem exists_chosenCase (h : ls.HoldsCases v d) (hvalue : value.isBare = false) {json : Json}
    (hjson : ls.encode v.name value = .ok json) : ∃ c, v.chosenCase? value = some c := by
  obtain ⟨w, hw, hget⟩ := h.layout
  rw [Layouts.encode, h.direct,
    Layouts.encoding_of_target (settle_of_not_bare hget hvalue ls.types.length)] at hjson
  cases value with
  | case name fields =>
    obtain ⟨l, hl⟩ := exists_case_of_encodeNamedCase hjson
    rw [hw.case?_eq] at hl
    obtain ⟨c, hc, -⟩ := Option.bind_eq_some_iff.mp hl
    exact ⟨c, hc⟩
  | tagged tag fields =>
    obtain ⟨c, -, -, -, -, hroute, -⟩ := exists_object_of_encodeTagged hjson
    exact ⟨c, except_toOption_eq_some.mpr (hw.variant ▸ hroute)⟩
  | _ => cases hvalue

/-- **A value is written as the fields of its case, and then the discriminator**; a routed value
does not hold the discriminator among its fields. -/
theorem encode_eq_ok_iff (h : ls.HoldsCases v d) (hvalue : value.isBare = false) {json : Json} :
    ls.encode v.name value = .ok json ↔
      ∃ c, v.chosenCase? value = some c ∧
        ((ls.routed? value).isSome = true → d.key ∉ value.fields.keys) ∧
        ∃ object tag,
          encodeFields (v.name.name ++ "." ++ c.name) (c.fields.map Field.layout)
              (ls.entryEncodings (value.fields.filter (·.1 != d.key))) = .ok object ∧
            encodeDiscriminator (v.name.name ++ "." ++ c.name) d.key (ls.routed? value)
              ((value.fields.get? d.key).map ls.encoding) (d.slot c) = .ok tag ∧
            d.key ∉ object.keys ∧ json = .object (object ++ [(d.key, tag)]) := by
  constructor
  · intro hjson
    obtain ⟨c, hc⟩ := h.exists_chosenCase hvalue hjson
    rw [h.encode_eq hvalue hc, encodeObjectCase_eq_ok_iff, Layouts.keys_entryEncodings,
      Layouts.get?_entryEncodings, ls.filter_entryEncodings value.fields (· != d.key)] at hjson
    obtain ⟨hfree, object, tag, hobject, htag, rfl⟩ := hjson
    -- what is supplied under its key is kept back, so no field writes it
    have hnew : d.key ∉ object.keys := fun hmem =>
      ls.not_mem_keys_kept value.fields d.key (mem_supplied_of_encodeFields hobject hmem)
    refine ⟨c, hc, hfree, object, tag, hobject, htag, hnew, ?_⟩
    rw [Entries.insert_of_not_mem tag hnew]
  · rintro ⟨c, hc, hfree, object, tag, hobject, htag, hnew, rfl⟩
    rw [h.encode_eq hvalue hc, encodeObjectCase_eq_ok_iff, Layouts.keys_entryEncodings,
      Layouts.get?_entryEncodings, ls.filter_entryEncodings value.fields (· != d.key)]
    refine ⟨hfree, object, tag, hobject, htag, ?_⟩
    rw [Entries.insert_of_not_mem tag hnew]

end Layouts.HoldsCases

end TrackingPlan
