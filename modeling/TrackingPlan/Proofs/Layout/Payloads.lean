import TrackingPlan.Proofs.Build.Model
import TrackingPlan.Proofs.Layout.Objects

/-!
# The order of a payload

A rule lists the properties of its payload, and the record that is written for the payload lists the
same keys in the same order: through the fields of the record, the layouts of the fields and the
insertion of key by key.  Nothing else of the plan matters for that, not even whether its ids
identify types, as long as no other rule has a payload of that name.
-/

namespace TrackingPlan

variable {doc : Document} {σ : BuildState} {s : Schema}

/-- A record that is listed is written by the layouts of its fields. -/
theorem Schema.encode_record {r : RecordType} (hr : .record r ∈ s.namedTypes)
    (values : Entries TypedValue) : s.layouts.encode r.name (.record values) =
      (encodeFields r.name.name (r.fields.map Field.layout) (s.layouts.entryEncodings values)).map
        Json.object := by
  have hid : (PropertyType.record r).id? = some r.name.id := rfl
  have halias : s.layouts.aliases.get? r.name.id = none := get?_entries_eq hr hid
  have htype : s.layouts.types.get? r.name.id =
      some (.record ⟨r.name, r.fields.map Field.layout⟩) := get?_entries_eq hr hid
  have htarget : s.layouts.target (.record values) (.named r.name.id) =
      .ok (.record ⟨r.name, r.fields.map Field.layout⟩) := by
    unfold Layouts.target Layouts.settle
    rw [htype]
  rw [Layouts.encode, Layouts.layoutOf, halias, Option.getD_none, Layouts.encoding]
  dsimp only
  rw [htarget]
  rfl

/-- **What a record writes**: its own keys that the value has, in their order.  The value has all
keys that are required, and no others than those of the record. -/
theorem Schema.keys_encode_record {r : RecordType} (hr : .record r ∈ s.namedTypes)
    (hkeys : (r.fields.map Field.key).Nodup) {values : Entries TypedValue} {j : Json}
    (h : s.layouts.encode r.name (.record values) = .ok j) :
    (∃ object : Json.Object, j = .object object ∧
        object.keys = (r.fields.map Field.key).filter values.has) ∧
      (∀ f ∈ r.fields, f.required = true → values.has f.key = true) ∧
      ∀ key ∈ values.keys, key ∈ r.fields.map Field.key := by
  have hlayouts : (r.fields.map Field.layout).map FieldLayout.key = r.fields.map Field.key :=
    List.map_map
  have hwriters : ((r.fields.map Field.layout).map s.layouts.fieldWriter).map FieldWriter.key =
      r.fields.map Field.key := by
    rw [List.map_map, hlayouts.symm]
    rfl
  rw [encode_record hr, encodeFields_eq_writeObject (hlayouts ▸ hkeys)] at h
  obtain ⟨object, hobject, rfl⟩ := except_map_eq_ok.mp h
  obtain ⟨hwritten, hrequired, hdeclared⟩ := keys_writeObject hobject
  rw [hwriters] at hwritten hdeclared
  refine ⟨⟨object, rfl, hwritten⟩, fun f hf => ?_, hdeclared⟩
  exact hrequired (s.layouts.fieldWriter f.layout)
    (List.mem_map.mpr ⟨f.layout, List.mem_map.mpr ⟨f, hf, rfl⟩, rfl⟩)

/-- **A payload that no other rule names** is listed as what its rule became. -/
theorem Schema.BuiltFrom.payload_mem_namedTypes (h : s.BuiltFrom doc σ)
    {before after : List Document.Rule} {r : Document.Rule}
    (hrules : doc.rules = before ++ r :: after) (htype : r.HasType)
    (hname : ∀ r' ∈ before ++ after, r'.payloadTypeName ≠ r.payloadTypeName) :
    ∃ t ∈ s.namedTypes, σ.PayloadOf doc r t := by
  have hr : r ∈ doc.rules := by
    rw [hrules]
    exact List.mem_append_right before List.mem_cons_self
  obtain ⟨t, ht, hof⟩ := h.exists_payload hr htype
  obtain ⟨u, hu, hid⟩ := exists_mem_namedTypes ht
    (PropertyType.id?_eq_some_iff.mpr ⟨_, hof.made.name, rfl⟩)
  obtain ⟨n, hn, heq⟩ := PropertyType.id?_eq_some_iff.mp hid
  obtain rfl := TypeName.id_injective heq
  refine ⟨u, hu, ?_⟩
  -- What is listed under the id of the payload is a payload, and only `r` has one of that name.
  rcases h.knows_or_payload (reaches_of_mem_namedTypes hu) hn with hk | ⟨r', hr', -, hof'⟩
  · exact hk.elim
  · have hsame : r'.payloadTypeName = r.payloadTypeName :=
      congrArg TypeName.name (Option.some.inj (hof'.made.name.symm.trans hn))
    rw [hrules, List.mem_append, List.mem_cons] at hr'
    rcases hr' with hmem | rfl | hmem
    · exact absurd hsame (hname r' (List.mem_append_left after hmem))
    · exact hof'
    · exact absurd hsame (hname r' (List.mem_append_right before hmem))

/-- **A payload is written in the order of its rule.**  An accepted plan has layouts; under the name
of a payload without variants, whose name no other rule shares, they write exactly the declared keys
that a value has, in declaration order, and refuse a value that lacks a required key or has one that
is not declared. -/
theorem Document.keys_encode_payload (h : doc.toSchema = .ok s)
    {before after : List Document.Rule} {r : Document.Rule}
    (hrules : doc.rules = before ++ r :: after) (hvariants : r.variants = [])
    (hproperties : r.schema.properties ≠ [])
    (hname : ∀ r' ∈ before ++ after, r'.payloadTypeName ≠ r.payloadTypeName) :
    ∃ ls, Layouts.ofSchema s = .ok ls ∧ ∀ values : Entries TypedValue,
      (∀ j, ls.encode (.event r.payloadTypeName) (.record values) = .ok j →
        ∃ object : Json.Object, j = .object object ∧
          object.keys = (r.schema.properties.map Prod.fst).filter values.has) ∧
      ((∃ use ∈ r.schema.properties, use.2.required = true ∧ values.has use.1 = false) →
        ∃ e, ls.encode (.event r.payloadTypeName) (.record values) = .error e) ∧
      ((∃ key ∈ values.keys, key ∉ r.schema.properties.map Prod.fst) →
        ∃ e, ls.encode (.event r.payloadTypeName) (.record values) = .error e) := by
  obtain ⟨s₀, hs₀, hvalid⟩ := except_bind_eq_ok.mp h
  obtain ⟨hnone, rfl⟩ := Schema.validate_eq_ok_iff.mp hvalid
  obtain ⟨σ, hbuilt⟩ := Schema.builtFrom_of_ofDocument hs₀
  have htype : r.HasType := fun hempty => hproperties hempty.2
  obtain ⟨t, ht, hof⟩ := hbuilt.payload_mem_namedTypes hrules htype hname
  obtain ⟨fields, rfl, hfields, hkeys⟩ :=
    (hof.object.plain_of_nil hvariants).exists_fields hproperties
  have hfieldKeys := BuildState.fieldsOf_keys hfields
  rw [← hfieldKeys] at hkeys ⊢
  have hwritten {values : Entries TypedValue} {j : Json}
      (hj : s.layouts.encode (.event r.payloadTypeName) (.record values) = .ok j) :=
    Schema.keys_encode_record ht hkeys hj
  refine ⟨s.layouts, Layouts.ofSchema_eq fun u hu => Schema.faults_of_mem_namedTypes hnone hu,
    fun values => ⟨fun j hj => (hwritten hj).1, ?_, ?_⟩⟩
  · rintro ⟨use, huse, hreq, hlacks⟩
    refine exists_error_of_not_ok fun j hj => ?_
    obtain ⟨f, hf, hfield⟩ := exists_right_of_forall₂ hfields huse
    have hhas := (hwritten hj).2.1 f hf (hfield.required.trans hreq)
    rw [hfield.key, hlacks] at hhas
    cases hhas
  · rintro ⟨key, hkey, hundeclared⟩
    refine exists_error_of_not_ok fun j hj => ?_
    exact hundeclared ((hwritten hj).2.2 key hkey)

/-- An order is written with its keys as they are declared, and only those that it has: one that
gives its tags first, and no profile, has them last.  An order without an address is refused, and
one with a coupon too. -/
theorem Document.keys_encode_orderPlaced : ∃ s ls, Document.shop.toSchema = .ok s ∧
    Layouts.ofSchema s = .ok ls ∧
    (∀ (values : Entries TypedValue) (j : Json),
      ls.encode (.event "Track Order Placed properties") (.record values) = .ok j →
        ∃ object : Json.Object, j = .object object ∧
          object.keys = ["total", "address", "tags", "profile"].filter values.has) ∧
    (∃ object : Json.Object,
      ls.encode (.event "Track Order Placed properties") (.record [
          ("tags", .array [.string "gift", .integer 2]),
          ("address", .record [("street", .string "rue")]),
          ("total", .string "free")]) = .ok (.object object) ∧
        object.keys = ["total", "address", "tags"]) ∧
    (∃ e, ls.encode (.event "Track Order Placed properties")
      (.record [("total", .string "free")]) = .error e) ∧
    ∃ e, ls.encode (.event "Track Order Placed properties") (.record [
        ("address", .record [("street", .string "rue")]),
        ("coupon", .string "spring")]) = .error e := by
  have haccepted : ∃ s, Document.shop.toSchema = .ok s := ⟨_, rfl⟩
  obtain ⟨s, hs⟩ := haccepted
  have hrules : Document.shop.rules = [] ++ orderPlaced :: [customer] := rfl
  obtain ⟨ls, hls, hencode⟩ := keys_encode_payload hs hrules rfl nofun (by decide)
  -- that this order is written is computed, the order of its keys is not
  have hcomputed : (Document.shop.toSchema.toOption.bind fun s => (Layouts.ofSchema s).toOption).any
      (fun ls => (ls.encode (.event "Track Order Placed properties") (.record [
        ("tags", .array [.string "gift", .integer 2]),
        ("address", .record [("street", .string "rue")]),
        ("total", .string "free")])).toOption.isSome) = true := by decide +kernel
  rw [hs, Except.toOption, Option.bind_some, hls, Except.toOption, Option.any_some] at hcomputed
  obtain ⟨j, hj⟩ := Option.isSome_iff_exists.mp hcomputed
  replace hj := except_toOption_eq_some.mp hj
  obtain ⟨object, rfl, hkeys⟩ := (hencode _).1 j hj
  refine ⟨s, ls, hs, hls, fun values => (hencode values).1, ⟨object, hj, hkeys⟩, ?_, ?_⟩
  · exact (hencode _).2.1 ⟨("address", ⟨true, none⟩), .tail _ List.mem_cons_self, rfl, rfl⟩
  · exact (hencode _).2.2 ⟨"coupon", by decide, by decide⟩

end TrackingPlan
