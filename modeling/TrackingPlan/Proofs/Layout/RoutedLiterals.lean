import TrackingPlan.Proofs.Layout.Discriminators

/-!
# Literals that select a case, as they are written

A value that is routed to its case by a literal writes the literal last.  A tagged case has it as
its tag; the default case asks the layout of the discriminator's type to write it.  That layout may
refuse it, although the discriminator can hold it: a literal goes by its kind, and the values of an
enumeration go by the names of their cases.  So each literal that the discriminator can hold is
written, unless it falls to the default case and is a value of an enumeration
(`encode_tagged_of_admits`).

§1 the literals that a discriminator can hold · §2 literals written by their type · §3 routed
values.
-/

namespace TrackingPlan

/-! ## §1 The literals that a discriminator can hold -/

/-- **The literals that a discriminator of a type can hold**: those of the kind of a scalar, the
values of an enumeration, and those of one of the kinds that the type alternates between.  Integers
are numbers too. -/
inductive PropertyType.Admits (t : PropertyType) (tag : Literal) : Prop
  | scalar (kind : ScalarKind) (resolved : t.resolved = .scalar kind)
      (accepts : kind.accepts tag.kind = true)
  | enumeration (e : EnumType) (resolved : t.resolved = .enumeration e)
      (value : tag ∈ e.cases.map EnumCase.value)
  | alternation (node : PrimitiveNode) (v : VariantType) (resolve : node.resolve = .ok v)
      (resolved : t.resolved = .variant v) (kind : ScalarKind) (mem : .scalar kind ∈ node.kinds)
      (accepts : kind.accepts tag.kind = true)

theorem ScalarKind.accepts_self (kind : ScalarKind) : kind.accepts kind = true := by
  rw [accepts, beq_self_eq_true, Bool.true_or]

theorem ValueKind.eq_of_scalarKind? {k : ValueKind} {kind : ScalarKind}
    (h : k.toCase.scalarKind? = some kind) : k = .scalar kind := by
  cases k with
  | scalar j => rw [Option.some.inj h]
  | _ => cases h

/-! ## §2 Literals written by their type -/

/-- A type is written as the type behind its aliases. -/
theorem PropertyType.layout_resolved (t : PropertyType) : t.resolved.layout = t.layout := by
  induction t using parts_induction with
  | step t ih =>
    cases t with
    | aliasType a =>
      rw [layout_aliasType, ← ih a.target (List.mem_singleton.mpr rfl)]
      obtain ⟨name, description, target⟩ := a
      rfl
    | _ => rfl

theorem TypedValue.valueKind?_ofLiteral (tag : Literal) :
    (TypedValue.ofLiteral tag).valueKind? = some (.scalar tag.kind) := by
  cases tag <;> rfl

theorem TypedValue.isBare_ofLiteral (tag : Literal) :
    (TypedValue.ofLiteral tag).isBare = true := by
  cases tag <;> rfl

/-- A literal of an accepted kind is written as itself. -/
theorem encodeAtom_ofLiteral {kind : ScalarKind} {tag : Literal} (hnumber : tag.isNumber = false)
    (h : kind.accepts tag.kind = true) :
    encodeAtom (.scalar kind) (TypedValue.ofLiteral tag) = .ok tag.toJson := by
  cases tag with
  | number n => cases hnumber
  | bool b => cases kind <;> first | rfl | cases h
  | integer i => cases kind <;> first | rfl | cases h
  | string s => cases kind <;> first | rfl | cases h

/-- A literal of a kind that is alternated between goes to a case of a kind that accepts it. -/
theorem PrimitiveNode.ResolvesTo.exists_routeScalar {node : PrimitiveNode} {v : VariantType}
    (h : node.ResolvesTo v) {kind other : ScalarKind} (hkind : .scalar kind ∈ node.kinds)
    (haccepts : kind.accepts other = true) :
    ∃ k : ScalarKind, k.accepts other = true ∧
      v.routeScalar? other = some (ValueKind.toCase (.scalar k)) := by
  obtain ⟨rfl, -, -⟩ := h
  unfold VariantType.routeScalar?
  dsimp only
  -- the kind itself comes first; if it is not among the kinds, one that accepts it is
  cases hexact : (node.kinds.map ValueKind.toCase).find? fun c => c.scalarKind? == some other with
  | some c =>
    obtain ⟨k, -, rfl⟩ := List.mem_map.mp (List.mem_of_find?_eq_some hexact)
    have hother : k.toCase.scalarKind? = some other := by simpa using List.find?_some hexact
    obtain rfl := ValueKind.eq_of_scalarKind? hother
    exact ⟨other, other.accepts_self, rfl⟩
  | none =>
    have hsome : ((node.kinds.map ValueKind.toCase).find? fun c =>
        c.scalarKind?.any (·.accepts other)).isSome = true :=
      List.find?_isSome.mpr ⟨_, List.mem_map.mpr ⟨_, hkind, rfl⟩, haccepts⟩
    obtain ⟨c, hc⟩ := Option.isSome_iff_exists.mp hsome
    obtain ⟨k, -, rfl⟩ := List.mem_map.mp (List.mem_of_find?_eq_some hc)
    obtain ⟨j, hj, hother⟩ : ∃ j, k.toCase.scalarKind? = some j ∧ j.accepts other = true := by
      simpa only [Option.any_eq_true] using List.find?_some hc
    obtain rfl := ValueKind.eq_of_scalarKind? hj
    exact ⟨j, hother, by rw [hc, Option.none_or]⟩

section Literals

variable {s : Schema} {ls : Layouts} {tag : Literal}

theorem Layouts.writeAs_ofLiteral (ls : Layouts) (tag : Literal) (target : Target) :
    ls.writeAs (TypedValue.ofLiteral tag) target =
      encodeAtom target (TypedValue.ofLiteral tag) := by
  cases tag <;> rfl

/-- A variant of kinds of bare values passes a literal on to a scalar kind that accepts it. -/
theorem PrimitiveNode.exists_target_ofLiteral {node : PrimitiveNode} {v : VariantType}
    (hnode : node.resolve = .ok v) (hls : Layouts.ofSchema s = .ok ls)
    (hv : .variant v ∈ s.namedTypes) {kind : ScalarKind} (hkind : .scalar kind ∈ node.kinds)
    (haccepts : kind.accepts tag.kind = true) :
    ∃ k : ScalarKind, k.accepts tag.kind = true ∧
      ls.target (TypedValue.ofLiteral tag) (.named v.name.id) = .ok (.scalar k) := by
  have hres := PrimitiveNode.resolvesTo_of_resolve hnode
  have hwell := hres.wellFormed
  obtain ⟨w, hw, hget⟩ := Layouts.exists_variantLayout hls hv
    fun c hc => VariantType.exists_caseLayout (hwell.fits c hc)
  obtain ⟨k, hother, hroute⟩ := hres.exists_routeScalar hkind haccepts
  refine ⟨k, hother, ?_⟩
  have hselect : v.routeKind? (.scalar tag.kind) = some (ValueKind.toCase (.scalar k)) := hroute
  have hmem := VariantType.mem_allCases_of_routeKind? hselect
  have hlayout : v.caseLayout (ValueKind.toCase (.scalar k)) =
      .ok (.bare (ValueKind.scalar k).caseName (.scalar k) (.scalar k)) := by
    obtain ⟨rfl, -, -⟩ := hres
    rfl
  have hbare : w.bareLayout (TypedValue.ofLiteral tag) = .ok (.scalar k) := by
    unfold VariantLayout.bareLayout
    rw [TypedValue.valueKind?_ofLiteral, Option.bind_some, hw.variant, hselect]
    dsimp only
    rw [hw.case?_of_mem hwell.names hmem, hlayout]
    rfl
  -- the variant is kept, so the bound allows for passing through it
  obtain ⟨left, hleft⟩ : ∃ left, ls.types.length = left + 1 :=
    Nat.exists_eq_add_one.mpr (List.length_pos_of_mem (Entries.mem_of_get? hget))
  rw [Layouts.target, hleft, settle_of_bare hget (TypedValue.isBare_ofLiteral tag), hbare]
  exact settle_scalar left k

/-- **A literal that a discriminator can hold is written as itself**, by a type that is no
enumeration. -/
theorem Layouts.encoding_of_admits (hls : Layouts.ofSchema s = .ok ls) {t : PropertyType}
    (hlisted : ∀ i, t.resolved.id? = some i → t.resolved ∈ s.namedTypes)
    (hadmits : t.Admits tag) (hnumber : tag.isNumber = false)
    (hopen : ∀ e, t.resolved ≠ .enumeration e) :
    ls.encoding (TypedValue.ofLiteral tag) t.layout = .ok tag.toJson := by
  rw [← t.layout_resolved]
  cases hadmits with
  | scalar kind hkind haccepts =>
    have htarget : ls.target (TypedValue.ofLiteral tag) (.scalar kind) = .ok (.scalar kind) :=
      settle_scalar _ kind
    rw [hkind, PropertyType.layout, Layouts.encoding_of_target htarget, ls.writeAs_ofLiteral,
      encodeAtom_ofLiteral hnumber haccepts]
  | enumeration e he _ => exact absurd he (hopen e)
  | alternation node v hnode hv kind hkind haccepts =>
    rw [hv] at hlisted ⊢
    obtain ⟨k, hother, htarget⟩ :=
      PrimitiveNode.exists_target_ofLiteral hnode hls (hlisted _ rfl) hkind haccepts
    rw [PropertyType.layout, Layouts.encoding_of_target htarget, ls.writeAs_ofLiteral,
      encodeAtom_ofLiteral hnumber hother]

/-- **An enumeration writes no literal**, not even one of its values: it writes named cases. -/
theorem Layouts.encoding_of_enumeration (hls : Layouts.ofSchema s = .ok ls) {t : PropertyType}
    {e : EnumType} (he : t.resolved = .enumeration e) (hlisted : .enumeration e ∈ s.namedTypes)
    (tag : Literal) :
    ls.encoding (TypedValue.ofLiteral tag) t.layout =
      mismatch ("enum " ++ ticked e.name.name) (TypedValue.ofLiteral tag) := by
  have hget : ls.types.get? e.name.id = some (.enumeration e.name e.cases) := by
    rw [Layouts.eq_of_ofSchema hls]
    exact Schema.get?_entries hlisted rfl rfl
  rw [← t.layout_resolved, he, PropertyType.layout, Layouts.encoding_eq, Layouts.target,
    Layouts.settle, hget]
  cases tag <;> rfl

end Literals

/-! ## §3 Routed values -/

/-- **The value fits the fields**: it has every required one and no others, and each can be
written. -/
structure Layouts.Fits (ls : Layouts) (fields : List FieldLayout) (values : Entries TypedValue) :
    Prop where
  declared : ∀ key ∈ values.keys, key ∈ fields.map FieldLayout.key
  writable : ∀ f ∈ fields, f.Writable (ls.entryEncodings values)

theorem Layouts.exists_encodeFields_iff (ls : Layouts) {fields : List FieldLayout}
    {values : Entries TypedValue} (owner : String) :
    (∃ object, encodeFields owner fields (ls.entryEncodings values) = .ok object) ↔
      ls.Fits fields values := by
  simp only [encodeFields_eq_ok_iff, exists_and_left, exists_writeFields_iff,
    Layouts.keys_entryEncodings]
  exact ⟨fun ⟨hdeclared, hwritable⟩ => ⟨hdeclared, hwritable⟩, fun h => ⟨h.declared, h.writable⟩⟩

namespace Layouts.Discriminates

variable {ls : Layouts} {v : VariantType} {d : Discriminator} {c : VariantCase} {tag : Literal}

/-- **A routed value whose fields fit its case** is written as these fields and the discriminator,
or refused as the discriminator is. -/
theorem encode_tagged_eq (h : ls.Discriminates v d) (hroute : v.route tag = .ok c)
    {values : Entries TypedValue} (hfree : d.key ∉ values.keys)
    (hfits : ls.Fits (c.fields.map Field.layout) values) :
    ∃ object, encodeFields (v.name.name ++ "." ++ c.name) (c.fields.map Field.layout)
        (ls.entryEncodings values) = .ok object ∧ d.key ∉ object.keys ∧
      ls.encode v.name (.tagged tag values) =
        (encodeDiscriminator (v.name.name ++ "." ++ c.name) d.key
          (some (ls.encoding (TypedValue.ofLiteral tag))) none (d.slot c)).map
            fun json => .object (object ++ [(d.key, json)]) := by
  have hchosen : v.chosenCase? (.tagged tag values) = some c :=
    except_toOption_eq_some.mpr hroute
  obtain ⟨object, hobject⟩ := (ls.exists_encodeFields_iff (v.name.name ++ "." ++ c.name)).mpr hfits
  have hnew : d.key ∉ object.keys := fun hmem =>
    h.fields_absent (VariantType.mem_allCases_of_chosenCase? hchosen)
      (mem_keys_of_encodeFields hobject hmem)
  refine ⟨object, hobject, hnew, ?_⟩
  -- nothing is supplied for the discriminator, so all that is supplied goes to the fields
  have hget : values.get? d.key = none := Entries.get?_eq_none_iff.mpr hfree
  have hown : values.filter (·.1 != d.key) = values := by
    refine List.filter_eq_self.mpr fun e he => bne_iff_ne.mpr fun hkey => hfree ?_
    exact List.mem_map.mpr ⟨e, he, hkey⟩
  rw [h.holdsCases.encode_eq rfl hchosen]
  show encodeObjectCase v.name.name _ (ls.entryEncodings values)
    (some (ls.encoding (TypedValue.ofLiteral tag))) = _
  unfold encodeObjectCase
  dsimp only
  rw [Layouts.get?_entryEncodings, hget, ls.filter_entryEncodings values (· != d.key), hown,
    hobject]
  show (encodeDiscriminator _ d.key _ none (d.slot c) >>= fun json =>
    pure (Json.object (object.insert d.key json))) = _
  simp only [Entries.insert_of_not_mem _ hnew]
  rfl

end Layouts.Discriminates

section Routed

variable {node : DiscriminatedNode} {v : VariantType} {s : Schema} {ls : Layouts}
  {d : Discriminator} {tag : Literal}

/-- **Every literal that the discriminator can hold selects a case, and is written last** after the
fields of that case; only a literal that falls to the default case is refused where the
discriminator's type is an enumeration. -/
theorem Layouts.encode_tagged_of_admits (hnode : node.resolve = .ok v)
    (hls : Layouts.ofSchema s = .ok ls) (hv : .variant v ∈ s.namedTypes)
    (hd : v.discriminator = some d)
    (hlisted : ∀ i, d.type.resolved.id? = some i → d.type.resolved ∈ s.namedTypes)
    (hdefault : v.defaultCase.isSome = true) (hadmits : d.type.Admits tag)
    (hnumber : tag.isNumber = false) {values : Entries TypedValue} (hfree : d.key ∉ values.keys) :
    ∃ c, v.route tag = .ok c ∧
      (ls.Fits (c.fields.map Field.layout) values →
        ∃ object, encodeFields (v.name.name ++ "." ++ c.name) (c.fields.map Field.layout)
            (ls.entryEncodings values) = .ok object ∧ d.key ∉ object.keys ∧
          ls.encode v.name (.tagged tag values) =
            match v.taggedCase? tag, d.type.resolved with
            | none, .enumeration e =>
              mismatch ("enum " ++ ticked e.name.name) (TypedValue.ofLiteral tag)
            | _, _ => .ok (.object (object ++ [(d.key, tag.toJson)]))) := by
  have hdisc := Layouts.discriminates hnode hls hv hd
  cases htagged : v.taggedCase? tag with
  | some c =>
    -- a tagged case writes its own literal, whatever the discriminator's type is
    have hroute : v.route tag = .ok c := VariantType.route_eq_ok_iff.mpr (by rw [htagged]; rfl)
    refine ⟨c, hroute, fun hfits => ?_⟩
    obtain ⟨object, hobject, hnew, hencode⟩ := hdisc.encode_tagged_eq hroute hfree hfits
    refine ⟨object, hobject, hnew, ?_⟩
    rw [hencode, hdisc.slot_of_taggedCase? htagged]
    rfl
  | none =>
    -- the default case has the type of the discriminator write the literal
    obtain ⟨c, hc⟩ := Option.isSome_iff_exists.mp hdefault
    have hroute : v.route tag = .ok c := VariantType.route_eq_ok_iff.mpr (by rw [htagged, hc]; rfl)
    refine ⟨c, hroute, fun hfits => ?_⟩
    obtain ⟨object, hobject, hnew, hencode⟩ := hdisc.encode_tagged_eq hroute hfree hfits
    refine ⟨object, hobject, hnew, ?_⟩
    rw [hencode, hdisc.slot_of_default hc]
    show (ls.encoding (TypedValue.ofLiteral tag) d.type.layout).map _ = _
    split
    · rename_i e _ he
      rw [Layouts.encoding_of_enumeration hls he (he ▸ hlisted e.name.id (he ▸ rfl)) tag]
      rfl
    · rename_i hopen
      rw [Layouts.encoding_of_admits hls hlisted hadmits hnumber fun e he => hopen e rfl he]
      rfl

/-- Whether a contact is verified: a truth value, or the state of the check in words. -/
def verifiedNode : PrimitiveNode where
  name := .property "verified"
  description := none
  kinds := [.scalar .boolean, .scalar .string]

/-- The variant of these values. -/
def verifiedType : VariantType :=
  ⟨.property "verified", none, none,
    [ValueKind.toCase (.scalar .boolean), ValueKind.toCase (.scalar .string)], none⟩

/-- Contacts that are verified have an address. -/
def contactNode : DiscriminatedNode where
  name := .customType "contact"
  description := none
  baseFields := [
    ⟨"verified", .variant verifiedType, true, none⟩,
    ⟨"channel", .aliasType ⟨.property "channel", none, .scalar .string⟩, false, none⟩]
  discriminator := "verified"
  shapes := [⟨"Verified", none, [.bool true], [⟨"address", .scalar .string, true, none⟩]⟩]
  defaultFields := some []

/-- The variant of contacts. -/
def contactVariant : VariantType where
  name := .customType "contact"
  description := none
  discriminator := some ⟨"verified", .variant verifiedType, none⟩
  cases := [⟨"Case_True", .literal (.bool true), none, [
    ⟨"channel", .aliasType ⟨.property "channel", none, .scalar .string⟩, false, none⟩,
    ⟨"address", .scalar .string, true, none⟩]⟩]
  defaultCase := some ⟨"Default", .fallback, none, [
    ⟨"channel", .aliasType ⟨.property "channel", none, .scalar .string⟩, false, none⟩]⟩

/-- A plan of contacts. -/
def Schema.contacts : Schema where
  name := "contacts"
  metadata := .unknown
  customTypes := [("contact", .variant contactVariant)]
  properties := [("verified", .variant verifiedType)]
  rules := []

/-- A contact whose check is pending is written by the default case, its state last. -/
theorem Layouts.encode_tagged_contact : ∃ ls, Layouts.ofSchema Schema.contacts = .ok ls ∧
    ls.encode (.customType "contact")
        (.tagged (.string "pending") [("channel", .string "mail")]) =
      .ok (.object [("channel", .string "mail"), ("verified", .string "pending")]) := by
  have hnode : contactNode.resolve = .ok contactVariant := rfl
  have hls : Layouts.ofSchema Schema.contacts = .ok Schema.contacts.layouts := rfl
  have hv : .variant contactVariant ∈ Schema.contacts.namedTypes :=
    List.mem_of_getElem? (i := 0) rfl
  have hlisted : .variant verifiedType ∈ Schema.contacts.namedTypes :=
    List.mem_of_getElem? (i := 1) rfl
  have hadmits : (PropertyType.variant verifiedType).Admits (.string "pending") :=
    .alternation verifiedNode verifiedType rfl rfl .string (by decide) rfl
  have hfree : "verified" ∉ Entries.keys [("channel", TypedValue.string "mail")] := by decide
  obtain ⟨c, hroute, hencode⟩ :=
    encode_tagged_of_admits hnode hls hv rfl (fun _ _ => hlisted) rfl hadmits rfl hfree
  obtain rfl := Except.ok.inj hroute
  have hfits : Schema.contacts.layouts.Fits [⟨"channel", false, .scalar .string⟩]
      [("channel", .string "mail")] :=
    (exists_encodeFields_iff _ "contact.Default").mp ⟨[("channel", .string "mail")], rfl⟩
  obtain ⟨object, hobject, -, hwritten⟩ := hencode hfits
  obtain rfl := Except.ok.inj hobject
  exact ⟨_, hls, hwritten⟩

/-- The devices that a visit can come from. -/
def deviceType : EnumType :=
  ⟨.property "device", none, [⟨"Mobile", .string "mobile"⟩, ⟨"Desktop", .string "desktop"⟩]⟩

/-- Visits, of which those on a mobile device stand out. -/
def visitNode : DiscriminatedNode where
  name := .customType "visit"
  description := none
  baseFields := [⟨"device", .enumeration deviceType, true, none⟩]
  discriminator := "device"
  shapes := [⟨"Mobile", none, [.string "mobile"], []⟩]
  defaultFields := some []

/-- The variant of visits. -/
def visitVariant : VariantType where
  name := .customType "visit"
  description := none
  discriminator := some ⟨"device", .enumeration deviceType, none⟩
  cases := [⟨"CaseMobile", .literal (.string "mobile"), none, []⟩]
  defaultCase := some ⟨"Default", .fallback, none, []⟩

/-- A plan of visits. -/
def Schema.visits : Schema where
  name := "visits"
  metadata := .unknown
  customTypes := [("visit", .variant visitVariant)]
  properties := [("device", .enumeration deviceType)]
  rules := []

/-- A visit from a desktop is refused, although a device can be a desktop and the default case
takes it: the enumeration is asked to write the text of its value. -/
theorem Layouts.encode_tagged_visit_refused : visitNode.resolve = .ok visitVariant ∧
    Schema.visits.validate = .ok Schema.visits ∧
    PropertyType.Admits (.enumeration deviceType) (.string "desktop") ∧
    visitVariant.route (.string "desktop") = .ok ⟨"Default", .fallback, none, []⟩ ∧
    Schema.visits.layouts.Fits [] [] ∧
    Layouts.ofSchema Schema.visits = .ok Schema.visits.layouts ∧
    Schema.visits.layouts.encode (.customType "visit") (.tagged (.string "desktop") []) =
      .error (.typeMismatch "enum \x60device\x60" "string") := by
  refine ⟨rfl, Schema.validate_eq_ok_iff.mpr ⟨rfl, rfl⟩, .enumeration deviceType rfl (by decide),
    rfl, ?_, rfl, rfl⟩
  exact (Layouts.exists_encodeFields_iff _ "visit.Default").mp ⟨[], rfl⟩

end Routed

end TrackingPlan
