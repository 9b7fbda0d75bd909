import TrackingPlan.Proofs.Layout.Objects

/-!
# Variants written by layouts

A well-formed variant finds the layout of each of its cases by the case's name, so the layouts route
every value to the case that the variant itself routes it to (`encodeNamedCase_eq`,
`encodeTagged_eq`, `bareLayout_eq`).
-/

namespace TrackingPlan

/-! ## §1 Routing -/

namespace VariantType

variable (v : VariantType)

theorem writer_caseNamed? (name : String) :
    v.writer.caseNamed? name = (v.caseNamed? name).map VariantCase.writer := by
  rw [VariantWriter.caseNamed?, writer_allCases, List.find?_map]
  rfl

theorem writer_caseTagged? (value : Literal) :
    v.writer.caseTagged? value =
      ((v.taggedCase? value).or v.defaultCase).map VariantCase.writer := by
  rw [VariantWriter.caseTagged?, writer, List.find?_map, ← Option.map_or]
  rfl

theorem writer_caseOfKind? (kind : ValueKind) :
    v.writer.caseOfKind? kind = (v.routeKind? kind).map VariantCase.writer := by
  cases kind with
  | scalar kind =>
    simp only [VariantWriter.caseOfKind?, routeKind?, routeScalar?, writer, List.find?_map,
      ← Option.map_or]
    rfl
  | object => exact List.find?_map ..
  | array => exact List.find?_map ..

variable {v}

theorem mem_allCases_of_caseNamed? {name : String} {c : VariantCase}
    (h : v.caseNamed? name = some c) : c ∈ v.allCases ∧ c.name = name :=
  ⟨List.mem_of_find?_eq_some h, by simpa using List.find?_some h⟩

theorem mem_allCases_of_tagged {value : Literal} {c : VariantCase}
    (h : (v.taggedCase? value).or v.defaultCase = some c) : c ∈ v.allCases := by
  rcases Option.or_eq_some_iff.mp h with htag | ⟨-, hdefault⟩
  · exact List.mem_append_left _ (List.mem_of_find?_eq_some htag)
  · exact List.mem_append_right _ (Option.mem_toList.mpr hdefault)

theorem mem_allCases_of_routeKind? {kind : ValueKind} {c : VariantCase}
    (h : v.routeKind? kind = some c) : c ∈ v.allCases := by
  refine List.mem_append_left _ ?_
  cases kind with
  | scalar kind =>
    rcases Option.or_eq_some_iff.mp h with hexact | ⟨-, haccepts⟩
    · exact List.mem_of_find?_eq_some hexact
    · exact List.mem_of_find?_eq_some haccepts
  | object => exact List.mem_of_find?_eq_some h
  | array => exact List.mem_of_find?_eq_some h

/-- **A case is the one of its name.** -/
theorem caseNamed?_of_mem (hnames : (v.allCases.map VariantCase.name).Nodup) {c : VariantCase}
    (hc : c ∈ v.allCases) : v.caseNamed? c.name = some c := by
  obtain ⟨d, hd⟩ : ∃ d, v.caseNamed? c.name = some d := by
    rw [← Option.isSome_iff_exists]
    exact List.find?_isSome.mpr ⟨c, hc, by simp⟩
  obtain ⟨hmem, hname⟩ := mem_allCases_of_caseNamed? hd
  rw [hd, List.inj_on_of_nodup_map hnames hmem hc hname]

/-- Only a variant with a discriminator has a case for one of its values, and such a case is an
object. -/
theorem WellFormed.layout_of_tagged (hv : v.WellFormed) {value : Literal} {c : VariantCase}
    (h : (v.taggedCase? value).or v.defaultCase = some c) :
    ∃ d slot, v.discriminator = some d ∧
      v.caseLayout c = .ok (.object c.name (c.fields.map Field.layout) d.key slot) ∧
      (c.tag = .fallback ∧ slot = .supplied d.type.layout ∨
        ∃ l, c.tag = .literal l ∧ slot = .fixed l) := by
  cases (hv.fits c (mem_allCases_of_tagged h)).fitting with
  | literal d l hdisc htag hlayout => exact ⟨d, _, hdisc, hlayout, .inr ⟨l, htag, rfl⟩⟩
  | fallback d hdisc htag hlayout => exact ⟨d, _, hdisc, hlayout, .inl ⟨htag, rfl⟩⟩
  | bare k f _ htag _ _ =>
    -- a case of a kind has no literal, and the default case is of none
    rcases Option.or_eq_some_iff.mp h with htagged | ⟨-, hdefault⟩
    · have hliteral := List.find?_some htagged
      simp [VariantCase.literal?, htag] at hliteral
    · cases htag.symm.trans (hv.default c hdefault)

end VariantType

/-! ## §2 The layouts of a variant -/

/-- **The layout of a variant**, as it is kept under the variant's id. -/
structure VariantLayout.Of (w : VariantLayout) (v : VariantType) : Prop where
  variant : w.variant = v
  cases : v.allCases.mapM v.caseLayout = .ok w.cases

namespace VariantLayout.Of

variable {ls : Layouts} {w : VariantLayout} {v : VariantType}

theorem case?_eq (hw : w.Of v) (name : String) :
    w.case? name = (v.caseNamed? name).bind fun c => (v.caseLayout c).toOption := by
  obtain ⟨layouts, hlayouts, hfind⟩ := VariantType.exists_caseLayouts
    fun c hc => exists_of_mapM_eq_ok hw.cases hc
  obtain rfl : layouts = w.cases := Except.ok.inj (hlayouts.symm.trans hw.cases)
  exact hfind name

theorem case?_of_mem (hw : w.Of v) (hnames : (v.allCases.map VariantCase.name).Nodup)
    {c : VariantCase} (hc : c ∈ v.allCases) :
    w.case? c.name = (v.caseLayout c).toOption := by
  rw [hw.case?_eq, VariantType.caseNamed?_of_mem hnames hc]
  rfl

end VariantLayout.Of

/-! ## §3 Values of a variant -/

theorem Layouts.atomEncoding_ofLiteral (ls : Layouts) (value : Literal) :
    ls.atomEncoding (TypedValue.ofLiteral value) = ls.encoding (TypedValue.ofLiteral value) := by
  cases value <;> rfl

section Values

variable {ls : Layouts} {w : VariantLayout} {v : VariantType}

/-- **A value that names its case** is written as the variant writes it. -/
theorem encodeNamedCase_eq (hw : w.Of v) (hv : v.WellFormed)
    (hparts : ∀ t ∈ (PropertyType.variant v).parts, ls.Writes t) (name : String)
    (values : Entries TypedValue) :
    encodeNamedCase w name (ls.entryEncodings values) = v.writer.writeNamed name values := by
  unfold encodeNamedCase VariantWriter.writeNamed
  rw [hw.case?_eq, v.writer_caseNamed?, hw.variant]
  cases hcase : v.caseNamed? name with
  | none => rfl
  | some c =>
    obtain ⟨hc, hname⟩ := VariantType.mem_allCases_of_caseNamed? hcase
    have hwrites : ∀ f ∈ c.fields, ls.Writes f.type := fun f hf =>
      hparts _ (PropertyType.type_mem_parts_of_case hc hf)
    have hkeys := hv.keys c hc
    have hobject : ∀ (key : String) (slot : DiscriminatorSlot),
        encodeObjectCase v.writer.name (.object c.name (c.fields.map Field.layout) key slot)
          (ls.entryEncodings values) none = _ := fun key slot =>
      encodeObjectCase_eq values none slot hwrites hkeys nofun
    simp only [Option.map_some, Option.bind_some, VariantCase.writer, VariantType.writer]
    cases (hv.fits c hc).fitting with
    | literal d l hdisc htag hlayout =>
      rw [hlayout]
      refine (hobject d.key (.fixed l)).trans ?_
      simp only [htag, hdisc, encodeDiscriminator, Option.map_some, Option.isNone_none,
        Bool.true_and, Option.isSome_map, Entries.has_eq_isSome]
      rfl
    | fallback d hdisc htag hlayout =>
      rw [hlayout]
      refine (hobject d.key (.supplied d.type.layout)).trans ?_
      have hd := hparts _ (PropertyType.type_mem_parts_of_discriminator hdisc)
      cases hvalue : values.get? d.key with
      | none => simp [htag, hdisc, encodeDiscriminator, hvalue, VariantWriter.writeObjectCase,
          VariantType.writer, VariantCase.writer]
      | some x =>
        simp only [htag, hdisc, encodeDiscriminator, hvalue, Option.map_some, Option.none_or, hd x]
        rfl
    | bare k f hdisc htag hf hlayout =>
      rw [hlayout]
      have hfield : ls.Writes f.type := hwrites f (by simp [hf])
      simp only [htag, hdisc, Except.toOption, Layouts.get?_entryEncodings, hf, List.map_cons,
        List.map_nil, Option.map_none]
      cases values.get? "value" with
      | none => simp only [Option.map_none, hname]
      | some x => exact hfield x

/-- **A value that is selected by its discriminator** is written as the variant writes it. -/
theorem encodeTagged_eq (hw : w.Of v) (hv : v.WellFormed)
    (hparts : ∀ t ∈ (PropertyType.variant v).parts, ls.Writes t) (value : Literal)
    (values : Entries TypedValue) :
    encodeTagged w value (ls.entryEncodings values) (ls.atomEncoding (TypedValue.ofLiteral value)) =
      v.writer.writeTagged value values := by
  unfold encodeTagged VariantWriter.writeTagged VariantType.route
  rw [v.writer_caseTagged?, hw.variant, ls.atomEncoding_ofLiteral]
  cases hcase : (v.taggedCase? value).or v.defaultCase with
  | none => rfl
  | some c =>
    have hc := VariantType.mem_allCases_of_tagged hcase
    have hwrites : ∀ f ∈ c.fields, ls.Writes f.type := fun f hf =>
      hparts _ (PropertyType.type_mem_parts_of_case hc hf)
    -- both kinds of case are objects; they differ in where the tag comes from
    obtain ⟨d, slot, hdisc, hlayout, htag⟩ := hv.layout_of_tagged hcase
    have hd := hparts _ (PropertyType.type_mem_parts_of_discriminator hdisc)
    simp only [hw.case?_of_mem hv.names hc, hlayout, Except.toOption, Option.map_some]
    by_cases hkey : d.key ∈ values.keys
    · refine (encodeObjectCase_clash (w := v.writer) values _ slot _ hkey).trans ?_
      simp only [VariantType.writer, hdisc, Option.map_some, Entries.has_eq_true_iff.mpr hkey,
        if_true]
      rfl
    · refine (encodeObjectCase_eq (w := v.writer) values _ slot hwrites (hv.keys c hc)
        fun _ => hkey).trans ?_
      have hhas : values.has d.key = false := by
        rw [← Bool.not_eq_true, Entries.has_eq_true_iff]
        exact hkey
      have hget : values.get? d.key = none := Entries.get?_eq_none_iff.mpr hkey
      simp only [VariantType.writer, hdisc, Option.map_some, hhas, Bool.false_eq_true, if_false,
        VariantCase.writer, hget, Option.map_none]
      rcases htag with ⟨htag, rfl⟩ | ⟨l, htag, rfl⟩
      · simp only [htag, encodeDiscriminator, Option.some_or, hd (TypedValue.ofLiteral value)]
      · simp only [htag, encodeDiscriminator, Option.isSome_none, Bool.and_false,
          Bool.false_eq_true, if_false]

/-- **A bare value** goes on to the type that its case wraps, or is refused. -/
theorem bareLayout_eq (hw : w.Of v) (hv : v.WellFormed) (value : TypedValue) :
    (∃ t ∈ (PropertyType.variant v).parts, w.bareLayout value = .ok t.layout ∧
        v.writer.writeBare value = t.write value) ∨
      w.bareLayout value = mismatch w.describe value ∧
        v.writer.writeBare value = mismatch w.describe value := by
  have hdescribe : v.writer.describe = w.describe := by
    rw [VariantLayout.describe, hw.variant]
    rfl
  have hroute : value.valueKind?.bind v.writer.caseOfKind? =
      (value.valueKind?.bind v.routeKind?).map VariantCase.writer := by
    cases value.valueKind? with
    | none => rfl
    | some kind => exact v.writer_caseOfKind? kind
  unfold VariantLayout.bareLayout VariantWriter.writeBare
  rw [hw.variant, hroute, hdescribe]
  cases hcase : value.valueKind?.bind v.routeKind? with
  | none => exact .inr ⟨rfl, rfl⟩
  | some c =>
    obtain ⟨kind, -, hkind⟩ := Option.bind_eq_some_iff.mp hcase
    have hc := VariantType.mem_allCases_of_routeKind? hkind
    simp only [hw.case?_of_mem hv.names hc, Option.map_some, VariantCase.writer, VariantType.writer]
    cases (hv.fits c hc).fitting with
    | literal d l hdisc htag hlayout =>
      right
      simp only [hlayout, htag, hdisc, Except.toOption, and_self]
    | fallback d hdisc htag hlayout =>
      right
      simp only [hlayout, htag, hdisc, Except.toOption, and_self]
    | bare k f hdisc htag hf hlayout =>
      refine .inl ⟨f.type, PropertyType.type_mem_parts_of_case hc (by simp [hf]), ?_, ?_⟩
      · simp only [hlayout, Except.toOption]
      · simp only [htag, hdisc, hf, List.map_cons, List.map_nil, Option.map_none]
        rfl

end Values

end TrackingPlan
