import TrackingPlan.Proofs.Layout.RoutedLiterals

/-!
# The case of a written value, read back

A value of a variant of object shapes ends with its discriminator.  Whoever reads the value takes
the case that the discriminator selects (`VariantType.readCase?`).  That is the case that the value
was written by, whichever way it was chosen, with one exception: a value that names the default case
brings its discriminator along, and nothing keeps it from being the tag of another case, or no
literal at all (`readCase_encode_iff`).

§1 what the discriminator is read as · §2 cases and their tags · §3 reading the case.
-/

namespace TrackingPlan

/-- The case that a written discriminator selects, read as a literal. -/
def VariantType.readTag? (v : VariantType) (tag : Json) : Option VariantCase :=
  (Literal.ofJson? tag).bind fun l => (v.route l).toOption

/-- **The case that a written value is read as**: the one that its discriminator selects. -/
def VariantType.readCase? (v : VariantType) (json : Json) : Option VariantCase :=
  v.discriminator.bind fun d => (json.get? d.key).bind v.readTag?

/-! ## §1 What the discriminator is read as -/

/-- A scalar is written as itself, or not at all. -/
theorem encodeAtom_ofLiteral_eq_ok {target : Target} {tag : Literal} {json : Json}
    (h : encodeAtom target (TypedValue.ofLiteral tag) = .ok json) :
    (TypedValue.ofLiteral tag).scalarJson? = some json := by
  cases target with
  | scalar kind =>
    cases kind <;> cases tag <;> first | exact congrArg some (Except.ok.inj h) | cases h
  | untyped kind =>
    cases kind <;> cases tag <;> first | exact congrArg some (Except.ok.inj h) | cases h
  | array item =>
    cases item with
    | untyped kind => cases kind <;> cases tag <;> cases h
    | _ => cases tag <;> cases h
  | _ => cases tag <;> cases h

/-- **What a routed literal is written as reads back** as the literal, or as a number that is no
integer. -/
theorem Layouts.exists_ofJson?_of_encoding {ls : Layouts} {tag : Literal} {layout : ValueLayout}
    {json : Json} (hfinite : ∀ n, tag = .number n → n.toBinary64.isFinite = true)
    (h : ls.encoding (TypedValue.ofLiteral tag) layout = .ok json) :
    ∃ read, Literal.ofJson? json = some read ∧ (read = tag ∨ read.isNumber = true) := by
  rw [← ls.atomEncoding_ofLiteral] at h
  obtain ⟨target, -, h⟩ := except_bind_eq_ok.mp h
  have hjson := encodeAtom_ofLiteral_eq_ok h
  cases hnumber : tag.isNumber with
  | false =>
    have hself : (TypedValue.ofLiteral tag).scalarJson? = some tag.toJson := by
      cases tag <;> first | rfl | cases hnumber
    obtain rfl := Option.some.inj (hself.symm.trans hjson)
    exact ⟨tag, Literal.ofJson?_toJson (DiscriminatedNode.canonical_of_not_number hnumber),
      .inl rfl⟩
  | true =>
    cases tag with
    | number n =>
      have hread : Literal.ofJson? (Json.ofBinary64 n.toBinary64) =
          some (.number (.float n.toBinary64)) := by
        rw [Json.ofBinary64, if_pos (hfinite n rfl)]
        rfl
      obtain rfl := Option.some.inj hjson
      exact ⟨_, hread, .inr rfl⟩
    | _ => cases hnumber

/-! ## §2 Cases and their tags -/

namespace Layouts.Discriminates

variable {ls : Layouts} {v : VariantType} {d : Discriminator} {c : VariantCase} {tag : Literal}

/-- No tag is a number that is no integer. -/
theorem taggedCase?_of_number (h : ls.Discriminates v d) (hnumber : tag.isNumber = true) :
    v.taggedCase? tag = none := by
  cases hc : v.taggedCase? tag with
  | none => rfl
  | some c =>
    obtain ⟨own, hown, hinteger⟩ := h.exists_literal? (List.mem_of_find?_eq_some hc)
    obtain rfl := Option.some.inj (hown.symm.trans (h.literal?_of_taggedCase? hc))
    rw [hinteger] at hnumber
    cases hnumber

/-- **A tag selects its own case.** -/
theorem taggedCase?_of_literal? (h : ls.Discriminates v d) (hc : c ∈ v.cases)
    (htag : c.literal? = some tag) : v.taggedCase? tag = some c :=
  h.tagsApart.taggedCase?_eq_some_iff.mpr ⟨hc, htag⟩

/-- **A tagged case is read back** from its discriminator, which is its own tag. -/
theorem readTag?_tagged (h : ls.Discriminates v d) (hc : c ∈ v.cases) {owner : String}
    {routed named : Option Encoding} {written : Json}
    (hwritten : encodeDiscriminator owner d.key routed named (d.slot c) = .ok written) :
    v.readTag? written = some c := by
  obtain ⟨tag, htag, hnumber⟩ := h.exists_literal? hc
  have htagged := h.taggedCase?_of_literal? hc htag
  have hroute : v.route tag = .ok c := VariantType.route_eq_ok_iff.mpr (by rw [htagged]; rfl)
  have hown : written = tag.toJson := by
    rw [h.slot_of_taggedCase? htagged, encodeDiscriminator] at hwritten
    split at hwritten
    · cases hwritten
    · exact (Except.ok.inj hwritten).symm
  rw [VariantType.readTag?, hown,
    Literal.ofJson?_toJson (DiscriminatedNode.canonical_of_not_number hnumber)]
  exact except_toOption_eq_some.mpr hroute

/-- A literal is routed to the default case exactly if it is no tag. -/
theorem route_eq_default_iff (h : ls.Discriminates v d) (hc : v.defaultCase = some c) :
    v.route tag = .ok c ↔ v.taggedCase? tag = none := by
  rw [VariantType.route_eq_ok_iff, hc]
  cases hcase : v.taggedCase? tag with
  | none => simp
  | some c' =>
    have hne : c' ≠ c := by
      rintro rfl
      cases (h.literal?_of_default hc).symm.trans (h.literal?_of_taggedCase? hcase)
    simp [hne]

/-- **The default case is read back** exactly from the literals that are no tags. -/
theorem readTag?_eq_default_iff (h : ls.Discriminates v d) (hc : v.defaultCase = some c)
    {written : Json} : v.readTag? written = some c ↔
      ∃ l, Literal.ofJson? written = some l ∧ v.taggedCase? l = none := by
  rw [VariantType.readTag?, Option.bind_eq_some_iff]
  simp only [except_toOption_eq_some, h.route_eq_default_iff hc]

/-- A literal that was routed to the default case is read back from there. -/
theorem readTag?_routed (h : ls.Discriminates v d) (hc : v.defaultCase = some c)
    (hfinite : ∀ n, tag = .number n → n.toBinary64.isFinite = true) (hroute : v.route tag = .ok c)
    {layout : ValueLayout} {written : Json}
    (hwritten : ls.encoding (TypedValue.ofLiteral tag) layout = .ok written) :
    v.readTag? written = some c := by
  rw [h.readTag?_eq_default_iff hc]
  -- a number may come back in double precision, but no number is a tag
  obtain ⟨read, hread, hsame⟩ := Layouts.exists_ofJson?_of_encoding hfinite hwritten
  refine ⟨read, hread, ?_⟩
  rcases hsame with rfl | hnumber
  · exact (h.route_eq_default_iff hc).mp hroute
  · exact h.taggedCase?_of_number hnumber

end Layouts.Discriminates

/-! ## §3 Reading the case -/

section Reading

variable {node : DiscriminatedNode} {v : VariantType} {s : Schema} {ls : Layouts}
  {d : Discriminator} {value : TypedValue} {json : Json}

/-- The discriminator is found after the fields of an object. -/
theorem VariantType.readCase?_append (hd : v.discriminator = some d) {object : Json.Object}
    (hnew : d.key ∉ object.keys) (tag : Json) :
    v.readCase? (.object (object ++ [(d.key, tag)])) = v.readTag? tag := by
  have hget : Json.get? (.object (object ++ [(d.key, tag)])) d.key = some tag := by
    show Entries.get? (object ++ [(d.key, tag)]) d.key = some tag
    rw [← Entries.insert_of_not_mem tag hnew, Entries.get?_insert_self]
  rw [VariantType.readCase?, hd, Option.bind_some, hget, Option.bind_some]

/-- **The case that is read from a written value is the one whose fields were written**, if the
value names no default case; and if it does, exactly if its discriminator is written as a literal
that is no tag. -/
theorem Layouts.readCase_encode_iff (hnode : node.resolve = .ok v)
    (hls : Layouts.ofSchema s = .ok ls) (hv : .variant v ∈ s.namedTypes)
    (hd : v.discriminator = some d) (hvalue : value.isBare = false)
    (hfinite : ∀ n values, value = .tagged (.number n) values → n.toBinary64.isFinite = true)
    (hjson : ls.encode v.name value = .ok json) :
    ∃ c, v.chosenCase? value = some c ∧
      (∃ object tag, encodeFields (v.name.name ++ "." ++ c.name) (c.fields.map Field.layout)
          (ls.entryEncodings (value.fields.filter (·.1 != d.key))) = .ok object ∧
        d.key ∉ object.keys ∧ json = .object (object ++ [(d.key, tag)])) ∧
      (v.readCase? json = some c ↔
        ∀ (name : String) (values : Entries TypedValue), value = .case name values →
          v.defaultCase = some c →
          ∃ x tag l, values.get? d.key = some x ∧ ls.encoding x d.type.layout = .ok tag ∧
            Literal.ofJson? tag = some l ∧ v.taggedCase? l = none) := by
  have hdisc := Layouts.discriminates hnode hls hv hd
  obtain ⟨c, hc, -, object, tag, hobject, htag, hnew, rfl⟩ :=
    (hdisc.holdsCases.encode_eq_ok_iff hvalue).mp hjson
  refine ⟨c, hc, ⟨object, tag, hobject, hnew, rfl⟩, ?_⟩
  rw [VariantType.readCase?_append hd hnew]
  rcases List.mem_append.mp (VariantType.mem_allCases_of_chosenCase? hc) with hmem | hmem
  · refine iff_of_true (hdisc.readTag?_tagged hmem htag) fun _ _ _ hdefault => ?_
    -- a case that has a tag is not the default case
    obtain ⟨own, hown, -⟩ := hdisc.exists_literal? hmem
    cases (hdisc.literal?_of_default hdefault).symm.trans hown
  · have hdefault := Option.mem_toList.mp hmem
    rw [hdisc.slot_of_default hdefault] at htag
    cases value with
    | tagged routed values =>
      have hroute : v.route routed = .ok c := except_toOption_eq_some.mp hc
      have hread := hdisc.readTag?_routed hdefault
        (fun n hn => hfinite n values (hn ▸ rfl)) hroute htag
      exact iff_of_true hread fun _ _ hcase => nomatch hcase
    | case name values =>
      -- the caller's own value stands under the discriminator's key
      obtain ⟨x, hget, hx⟩ : ∃ x, Entries.get? values d.key = some x ∧
          ls.encoding x d.type.layout = .ok tag := by
        cases hget : Entries.get? values d.key with
        | some x =>
          refine ⟨x, rfl, ?_⟩
          simpa [encodeDiscriminator, Layouts.routed?, TypedValue.fields, hget] using htag
        | none =>
          simp [encodeDiscriminator, Layouts.routed?, TypedValue.fields, hget] at htag
      rw [hdisc.readTag?_eq_default_iff hdefault]
      constructor
      · rintro ⟨l, hl, hnone⟩ _ values' hsame -
        obtain ⟨rfl, rfl⟩ := TypedValue.case.inj hsame
        exact ⟨x, tag, l, hget, hx, hl, hnone⟩
      · intro hread
        obtain ⟨x', tag', l, hget', hx', hl, hnone⟩ := hread name values rfl hdefault
        obtain rfl := Option.some.inj (hget.symm.trans hget')
        obtain rfl := Except.ok.inj (hx.symm.trans hx')
        exact ⟨l, hl, hnone⟩
    | _ => cases hvalue

/-- The pending contact is read as what it was written as, a contact of the default case. -/
theorem Layouts.readCase_encode_pending : ∃ json,
    Schema.contacts.layouts.encode (.customType "contact")
        (.tagged (.string "pending") [("channel", .string "mail")]) = .ok json ∧
      (contactVariant.readCase? json).map VariantCase.name = some "Default" := by
  have hnode : contactNode.resolve = .ok contactVariant := rfl
  have hls : Layouts.ofSchema Schema.contacts = .ok Schema.contacts.layouts := rfl
  have hv : .variant contactVariant ∈ Schema.contacts.namedTypes :=
    List.mem_of_getElem? (i := 0) rfl
  have hjson : Schema.contacts.layouts.encode (.customType "contact")
      (.tagged (.string "pending") [("channel", .string "mail")]) =
        .ok (.object [("channel", .string "mail"), ("verified", .string "pending")]) := rfl
  obtain ⟨c, hc, -, hread⟩ := readCase_encode_iff hnode hls hv rfl rfl
    (fun n values h => by cases h) hjson
  obtain rfl := Option.some.inj hc
  refine ⟨_, hjson, ?_⟩
  rw [hread.mpr fun _ _ h => nomatch h]
  rfl

/-- A contact that names the default case and says that it is verified is written without the
address of a verified contact, and read as one. -/
theorem Layouts.readCase_encode_misread : ∃ json,
    Schema.contacts.layouts.encode (.customType "contact")
        (.case "Default" [("verified", .bool true)]) = .ok json ∧
      contactVariant.chosenCase? (.case "Default" [("verified", .bool true)]) =
        contactVariant.defaultCase ∧
      contactVariant.readCase? json = contactVariant.taggedCase? (.bool true) ∧
      (contactVariant.taggedCase? (.bool true)).map VariantCase.name = some "Case_True" :=
  ⟨.object [("verified", .bool true)], rfl, rfl, rfl, rfl⟩

end Reading

end TrackingPlan
