import TrackingPlan.Layout.Encode
import TrackingPlan.Layout.OfSchema
import TrackingPlan.Proofs.Build.Model
import TrackingPlan.Proofs.Schema.NamedTypes

/-!
# When ids identify the types of a plan

Custom types and nested objects are kept under their names once, so their ids identify them.  Two
names are given without looking whether they are taken: that of the alternating items of a list,
which a property may have, and that of a payload, which several rules may have.  Ids identify the
types of an accepted plan exactly if neither does harm (`Document.NamesApart`), and whether it does
can be read off the document.

§1 rules that share a payload name · §2 names that do no harm · §3 ids.
-/

namespace TrackingPlan

open BuildState

variable {doc : Document} {σ : BuildState} {s : Schema} {owner : TypeName}

/-! ## §1 Rules that share a payload name -/

/-- **What shows of the use of a property**: its key, whether it is required, and whether an object
is nested there. -/
def useOutline (use : String × Document.PropertyUse) : String × Bool × Bool :=
  (use.1, use.2.required, use.2.schema.isSome)

namespace Document.Rule

/-- How a rule uses properties. -/
def outline (r : Document.Rule) : List (String × Bool × Bool) :=
  r.schema.properties.map useOutline

/-- **Rules that agree on their payload**, if it has one name.  What is nested under one key agrees
anyway, and a second block of variants is answered from memory, whatever it says. -/
def SamePayload (r r' : Document.Rule) : Prop :=
  (r.variants = [] ↔ r'.variants = []) ∧
    (r.variants = [] → r.event.description = r'.event.description ∧ r.outline = r'.outline)

instance (r : Document.Rule) : Decidable r.HasType :=
  inferInstanceAs (Decidable (¬(r.variants = [] ∧ r.schema.properties = [])))

instance (r r' : Document.Rule) : Decidable (r.SamePayload r') :=
  inferInstanceAs (Decidable ((r.variants = [] ↔ r'.variants = []) ∧
    (r.variants = [] → r.event.description = r'.event.description ∧ r.outline = r'.outline)))

end Document.Rule

/-- An object nested in a field shows in the name of its type. -/
theorem BuildState.FieldOf.isSome_iff (hσ : σ.Sound doc) {use : String × Document.PropertyUse}
    {f : Field} (hf : σ.FieldOf doc owner use f) :
    use.2.schema.isSome = true ↔ f.type.name? ≠ some (.property use.1) := by
  obtain ⟨declared, hdeclared, htype⟩ := hf.type
  have hname := (hσ.properties _ _ hdeclared).name
  cases hschema : use.2.schema with
  | none =>
    rw [hschema] at htype
    obtain rfl : f.type = declared := htype
    exact iff_of_false nofun fun hne => hne hname
  | some _ =>
    rw [hschema] at htype
    obtain ⟨shape, hshape, heq⟩ := htype
    have hnested := (hσ.nested_made hshape).name
    refine iff_of_true rfl ?_
    rw [heq, Build.withNested]
    split
    · exact nofun
    · rw [hnested]
      exact fun hsame => nomatch congrArg TypeName.origin (Option.some.inj hsame)

theorem BuildState.UsedAs.eq {key : String} {schema schema' : Option Document.ObjectSchema}
    {declared t t' : PropertyType} (ht : σ.UsedAs owner key schema declared t)
    (ht' : σ.UsedAs owner key schema' declared t') (hsome : schema.isSome = schema'.isSome) :
    t = t' := by
  cases schema with
  | none =>
    cases schema' with
    | none => exact ht.trans ht'.symm
    | some _ => cases hsome
  | some _ =>
    cases schema' with
    | none => cases hsome
    | some _ =>
      obtain ⟨shape, hshape, rfl⟩ := ht
      obtain ⟨shape', hshape', rfl⟩ := ht'
      obtain rfl := Option.some.inj (hshape.symm.trans hshape')
      rfl

/-- **A field is told by the tables and by what shows of its property's use.** -/
theorem BuildState.FieldOf.eq {use use' : String × Document.PropertyUse} {f f' : Field}
    (hf : σ.FieldOf doc owner use f) (hf' : σ.FieldOf doc owner use' f')
    (h : useOutline use = useOutline use') : f = f' := by
  obtain ⟨hkey, hrest⟩ := Prod.mk.inj h
  obtain ⟨hrequired, hsome⟩ := Prod.mk.inj hrest
  obtain ⟨declared, hdeclared, htype⟩ := hf.type
  obtain ⟨declared', hdeclared', htype'⟩ := hf'.type
  obtain ⟨p, hp, hdescription⟩ := hf.description
  obtain ⟨p', hp', hdescription'⟩ := hf'.description
  rw [hkey] at hdeclared hp htype
  obtain rfl := Option.some.inj (hdeclared.symm.trans hdeclared')
  obtain rfl := Option.some.inj (hp.symm.trans hp')
  obtain ⟨key, type, required, description⟩ := f
  obtain ⟨key', type', required', description'⟩ := f'
  obtain rfl : type = type' := htype.eq htype' hsome
  obtain rfl : key = key' := hf.key.trans (hkey.trans hf'.key.symm)
  obtain rfl : required = required' := hf.required.trans (hrequired.trans hf'.required.symm)
  obtain rfl : description = description' := hdescription.trans hdescription'.symm
  rfl

theorem fieldsOf_eq_iff (hσ : σ.Sound doc) {uses : List (String × Document.PropertyUse)}
    {fields : List Field} (hf : List.Forall₂ (σ.FieldOf doc owner) uses fields) :
    ∀ {uses' : List (String × Document.PropertyUse)} {fields' : List Field},
      List.Forall₂ (σ.FieldOf doc owner) uses' fields' →
      (fields = fields' ↔ uses.map useOutline = uses'.map useOutline) := by
  induction hf with
  | nil =>
    intro uses' fields' hf'
    cases hf' with
    | nil => exact iff_of_true rfl rfl
    | cons _ _ => exact iff_of_false nofun nofun
  | @cons use f rest fields hfirst _ ih =>
    intro uses' fields' hf'
    cases hf' with
    | nil => exact iff_of_false nofun nofun
    | @cons use' f' rest' fields' hfirst' hrest' =>
      rw [List.map_cons, List.map_cons, List.cons.injEq, List.cons.injEq, ih hrest']
      refine and_congr_left fun _ => ⟨?_, hfirst.eq hfirst'⟩
      rintro rfl
      have hkey : use.1 = use'.1 := hfirst.key.symm.trans hfirst'.key
      have hsome : use.2.schema.isSome = use'.2.schema.isSome := by
        rw [Bool.eq_iff_iff, hfirst.isSome_iff hσ, hfirst'.isSome_iff hσ, hkey]
      rw [useOutline, useOutline, hkey, hfirst.required.symm.trans hfirst'.required, hsome]

/-- **Payloads with one name are one type exactly if their rules agree on it.** -/
theorem payloads_eq_iff (hσ : σ.Sound doc) {r r' : Document.Rule} {t t' : PropertyType}
    (htype : r.HasType) (htype' : r'.HasType) (hname : r.payloadTypeName = r'.payloadTypeName)
    (ht : σ.PayloadOf doc r t) (ht' : σ.PayloadOf doc r' t') : t = t' ↔ r.SamePayload r' := by
  have hobject := ht.object
  have hobject' := ht'.object
  rw [← hname] at hobject'
  by_cases hplain : r.variants = []
  · have hof := hobject.plain_of_nil hplain
    by_cases hplain' : r'.variants = []
    · have hne : r.schema.properties ≠ [] := fun hnil => htype ⟨hplain, hnil⟩
      have hne' : r'.schema.properties ≠ [] := fun hnil => htype' ⟨hplain', hnil⟩
      obtain ⟨fields, rfl, hfields, -⟩ := hof.exists_fields hne
      obtain ⟨fields', rfl, hfields', -⟩ := (hobject'.plain_of_nil hplain').exists_fields hne'
      have hrecord : PropertyType.record ⟨.event r.payloadTypeName, r.event.description, fields⟩ =
          .record ⟨.event r.payloadTypeName, r'.event.description, fields'⟩ ↔
          r.event.description = r'.event.description ∧ fields = fields' := by simp
      rw [hrecord, fieldsOf_eq_iff hσ hfields hfields']
      exact ⟨fun h => ⟨iff_of_true hplain hplain', fun _ => h⟩, fun h => h.2 hplain⟩
    · obtain ⟨v, rfl, -⟩ := hobject'.exists_variant hplain'
      exact iff_of_false (hof.ne_variant v) fun h => hplain' (h.1.mp hplain)
  · obtain ⟨v, rfl, hv⟩ := hobject.exists_variant hplain
    by_cases hplain' : r'.variants = []
    · exact iff_of_false (fun h => (hobject'.plain_of_nil hplain').ne_variant v h.symm)
        fun h => hplain (h.1.mpr hplain')
    · obtain ⟨v', rfl, hv'⟩ := hobject'.exists_variant hplain'
      obtain rfl := Option.some.inj (hv.symm.trans hv')
      exact iff_of_true rfl ⟨iff_of_false hplain hplain', fun h => absurd h hplain⟩

/-! ## §2 Names that do no harm -/

instance (q : Document.Property) : Decidable q.Alternates :=
  inferInstanceAs (Decidable (q.isEnumeration = false ∧ 2 ≤ q.kinds.length))

instance (q : Document.Property) : Decidable q.ItemsAlternate :=
  inferInstanceAs (Decidable (q.isEnumeration = false ∧ q.kinds = [.array] ∧
    2 ≤ q.itemKinds.length))

/-- **Names keep apart**: a property with the name of alternating items alternates itself, and then
one of the two is answered from memory; and rules that share a payload name agree on the payload. -/
structure Document.NamesApart (doc : Document) : Prop where
  items : ∀ x ∈ doc.properties.keys, ∀ p ∈ doc.properties.get? x, p.ItemsAlternate →
    ∀ q ∈ doc.properties.get? (itemName x), q.Alternates
  payloads : ∀ r ∈ doc.rules, ∀ r' ∈ doc.rules, r.HasType → r'.HasType →
    r.payloadTypeName = r'.payloadTypeName → r.SamePayload r'

instance (doc : Document) : Decidable doc.NamesApart :=
  decidable_of_iff ((∀ x ∈ doc.properties.keys, ∀ p ∈ doc.properties.get? x, p.ItemsAlternate →
      ∀ q ∈ doc.properties.get? (itemName x), q.Alternates) ∧
      ∀ r ∈ doc.rules, ∀ r' ∈ doc.rules, r.HasType → r'.HasType →
        r.payloadTypeName = r'.payloadTypeName → r.SamePayload r')
    ⟨fun ⟨hitems, hpayloads⟩ => ⟨hitems, hpayloads⟩, fun h => ⟨h.items, h.payloads⟩⟩

/-! ## §3 Ids -/

namespace Schema.BuiltFrom

/-- Each declared property stands in the model as it was built. -/
theorem get?_property (h : s.BuiltFrom doc σ) {x : String} {p : Document.Property}
    (hp : doc.properties.get? x = some p) :
    ∃ t, s.properties.get? x = some t ∧ σ.properties.get? x = some t ∧ σ.BuiltAs x p t := by
  have hx : x ∈ s.properties.keys := by
    rw [h.propertyNames, ← Entries.get?_isSome_iff, hp]
    rfl
  obtain ⟨t, ht⟩ := Option.isSome_iff_exists.mp (Entries.get?_isSome_iff.mpr hx)
  have hkept := h.properties _ (Entries.mem_of_get? ht)
  obtain ⟨p', hp', hbuilt, -⟩ := h.sound.declared x t hkept
  obtain rfl := Option.some.inj (hp.symm.trans hp')
  exact ⟨t, ht, hkept, hbuilt⟩

/-- Each declared property is among the properties of the model. -/
theorem exists_property (h : s.BuiltFrom doc σ) {x : String} {p : Document.Property}
    (hp : doc.properties.get? x = some p) :
    ∃ t, s.Reaches t ∧ σ.properties.get? x = some t ∧ σ.BuiltAs x p t := by
  obtain ⟨t, ht, hkept, hbuilt⟩ := h.get?_property hp
  refine ⟨t, reaches_of_mem_roots ?_, hkept, hbuilt⟩
  have hmem : t ∈ s.properties.map Prod.snd :=
    List.mem_map.mpr ⟨_, Entries.mem_of_get? ht, rfl⟩
  exact List.mem_append_left _ (List.mem_append_right _ hmem)

/-- The alternating items of a list are the variant under their name. -/
theorem exists_items (h : s.BuiltFrom doc σ) {x : String} {p : Document.Property}
    (hp : doc.properties.get? x = some p) (hitems : p.ItemsAlternate) :
    ∃ v, s.Reaches (.variant v) ∧ v.name = .property (itemName x) := by
  obtain ⟨t, ht, -, hbuilt⟩ := h.exists_property hp
  obtain ⟨v, about, rfl, hv⟩ := hbuilt.items hitems
  refine ⟨v, ht.trans ?_, hv⟩
  exact .part List.mem_cons_self (.of_mem_parts List.mem_cons_self)

theorem namesApart (h : s.BuiltFrom doc σ) (hids : s.IdsIdentify) : doc.NamesApart := by
  refine ⟨fun x _ p hp hitems q hq => ?_, fun r hr r' hr' htype htype' hname => ?_⟩
  · -- The variant of the items and the property are one type, so the property is a variant.
    obtain ⟨v, hv, hvname⟩ := h.exists_items hp hitems
    obtain ⟨t, ht, hkept, hbuilt⟩ := h.exists_property hq
    have htname := (h.sound.properties _ _ hkept).name
    have hsame : t = .variant v := hids t (.variant v) ht hv _
      (PropertyType.id?_eq_some_iff.mpr ⟨_, htname, rfl⟩)
      (PropertyType.id?_eq_some_iff.mpr ⟨_, congrArg some hvname, rfl⟩)
    by_contra hnot
    exact hbuilt.single hnot v hsame
  · obtain ⟨t, ht, hof⟩ := h.exists_payload hr htype
    obtain ⟨t', ht', hof'⟩ := h.exists_payload hr' htype'
    have hsame : t = t' := hids t t' (reaches_of_mem_roots ht) (reaches_of_mem_roots ht') _
      (PropertyType.id?_eq_some_iff.mpr ⟨_, hof.made.name, rfl⟩)
      (PropertyType.id?_eq_some_iff.mpr ⟨_, hof'.made.name, by rw [hname]⟩)
    exact (payloads_eq_iff h.sound htype htype' hname hof hof').mp hsame

/-- What the tables keep under a name is one type, if names keep apart. -/
theorem knows_unique (h : s.BuiltFrom doc σ) (hnames : doc.NamesApart) {n : TypeName}
    {t u : PropertyType} (ht : σ.Knows doc n t) (hu : σ.Knows doc n u) : t = u := by
  obtain ⟨origin, name⟩ := n
  -- A property by its own name, and the items of another by the same.
  have hmixed : ∀ {t x p v}, σ.properties.get? name = some t → doc.properties.get? x = some p →
      p.ItemsAlternate → name = itemName x →
      σ.resolver.resolved.get? (TypeName.property name).id = some v → t = .variant v := by
    rintro t x p v ht hp hitems rfl hv
    obtain ⟨q, hq, hbuilt, -⟩ := h.sound.declared _ _ ht
    have hx : x ∈ doc.properties.keys := by
      rw [← Entries.get?_isSome_iff, hp]
      rfl
    obtain ⟨v', rfl, hv'⟩ := hbuilt.alternates (hnames.items x hx p hp hitems q hq)
    rw [Option.some.inj (hv.symm.trans hv')]
  cases origin with
  | customType => exact Option.some.inj (ht.symm.trans hu)
  | nested => exact Option.some.inj (ht.symm.trans hu)
  | event => exact ht.elim
  | property =>
    rcases ht with ht | ⟨x, p, v, hp, hitems, hname, rfl, hv⟩
    · rcases hu with hu | ⟨y, q, w, hq, hitems', hname', rfl, hw⟩
      · exact Option.some.inj (ht.symm.trans hu)
      · exact hmixed ht hq hitems' hname' hw
    · rcases hu with hu | ⟨y, q, w, hq, hitems', hname', rfl, hw⟩
      · exact (hmixed hu hp hitems hname hv).symm
      · rw [Option.some.inj (hv.symm.trans hw)]

theorem idsIdentify (h : s.BuiltFrom doc σ) (hnames : doc.NamesApart) : s.IdsIdentify := by
  intro t u ht hu i hti hui
  obtain ⟨n, hn, rfl⟩ := PropertyType.id?_eq_some_iff.mp hti
  obtain ⟨m, hm, hid⟩ := PropertyType.id?_eq_some_iff.mp hui
  obtain rfl := TypeName.id_injective hid
  rcases h.knows_or_payload ht hn with hkt | ⟨r, hr, htype, hof⟩
  · rcases h.knows_or_payload hu hm with hku | ⟨r', -, -, hof'⟩
    · exact h.knows_unique hnames hkt hku
    · obtain rfl := Option.some.inj (hm.symm.trans hof'.made.name)
      exact hkt.elim
  · obtain rfl := Option.some.inj (hn.symm.trans hof.made.name)
    rcases h.knows_or_payload hu hm with hku | ⟨r', hr', htype', hof'⟩
    · exact hku.elim
    · have hname : r.payloadTypeName = r'.payloadTypeName :=
        congrArg TypeName.name (Option.some.inj (hm.symm.trans hof'.made.name))
      exact (payloads_eq_iff h.sound htype htype' hname hof hof').mpr
        (hnames.payloads r hr r' hr' htype htype' hname)

end Schema.BuiltFrom

/-- **Ids identify the types of an accepted plan exactly if its names keep apart.** -/
theorem Document.idsIdentify_iff (h : doc.toSchema = .ok s) :
    s.IdsIdentify ↔ doc.NamesApart := by
  obtain ⟨s₀, hs₀, hvalid⟩ := except_bind_eq_ok.mp h
  obtain ⟨-, rfl⟩ := Schema.validate_eq_ok_iff.mp hvalid
  obtain ⟨σ, hbuilt⟩ := Schema.builtFrom_of_ofDocument hs₀
  exact ⟨hbuilt.namesApart, hbuilt.idsIdentify⟩

/-- A plan with a list of texts and integers, and a truth value beside it. -/
def Document.tagged (other : String) : Document where
  name := "tagged"
  metadata := .unknown
  customTypes := []
  properties := [(other, ⟨none, [.boolean], [], none⟩),
    ("tags", ⟨none, [.array], [.string, .integer], none⟩)]
  rules := []

theorem Document.idsIdentify_tagged :
    ∃ s, (Document.tagged "label").toSchema = .ok s ∧ s.IdsIdentify := by
  have haccepted : ∃ s, (Document.tagged "label").toSchema = .ok s := ⟨_, rfl⟩
  obtain ⟨s, hs⟩ := haccepted
  exact ⟨s, hs, (idsIdentify_iff hs).mpr (by decide)⟩

/-- Its items, where the truth value is named as they are. -/
def Document.taggedItems : VariantType :=
  ⟨.property "tags item", none, none,
    [ValueKind.toCase (.scalar .string), ValueKind.toCase (.scalar .integer)], none⟩

/-- The truth value. -/
def Document.taggedFlag : PropertyType :=
  .aliasType ⟨.property "tags item", none, .scalar .boolean⟩

/-- The models of that plan, and of the plan with its two properties the other way round. -/
def Document.taggedModels : Schema × Schema :=
  let list : PropertyType := .aliasType ⟨.property "tags", none, .array (.variant taggedItems)⟩
  (⟨"tagged", .unknown, [], [("tags item", taggedFlag), ("tags", list)], []⟩,
    ⟨"tagged", .unknown, [], [("tags", list), ("tags item", taggedFlag)], []⟩)

/-- That plan with its two properties the other way round. -/
def Document.taggedLast : Document :=
  { tagged "tags item" with properties := (tagged "tags item").properties.reverse }

/-- **The truth value is an alias under the id of the items**, which are a variant.  Only the first
of the two is written: where the truth value comes first the list is refused, and where it comes
last the truth value is. -/
theorem Document.not_idsIdentify_tagged :
    (∃ s ls, (Document.tagged "tags item").toSchema = .ok s ∧ ¬s.IdsIdentify ∧
      Layouts.ofSchema s = .ok ls ∧ ls.encode (.property "tags") (.array [.string "a"]) =
        .error (.unknownType "property:tags item")) ∧
    ∃ s ls, Document.taggedLast.toSchema = .ok s ∧ ¬s.IdsIdentify ∧
      Layouts.ofSchema s = .ok ls ∧ ls.encode (.property "tags item") (.bool true) =
        .error (.typeMismatch ("variant " ++ ticked "tags item") "boolean") := by
  have hshapes : ∀ s : Schema, s.Reaches taggedFlag → s.Reaches (.variant taggedItems) →
      ¬s.IdsIdentify := fun s hflag hitems hids =>
    PropertyType.noConfusion (hids taggedFlag (.variant taggedItems) hflag hitems _ rfl rfl)
  constructor
  · refine ⟨taggedModels.1, _, rfl,
      hshapes _ ⟨taggedFlag, List.mem_cons_self, .refl _⟩ ?_, rfl, rfl⟩
    exact ⟨_, List.mem_cons_of_mem _ List.mem_cons_self,
      .part List.mem_cons_self (.of_mem_parts List.mem_cons_self)⟩
  · refine ⟨taggedModels.2, _, rfl, hshapes _ ?_ ?_, rfl, rfl⟩
    · exact ⟨taggedFlag, List.mem_cons_of_mem _ List.mem_cons_self, .refl _⟩
    · exact ⟨_, List.mem_cons_self, .part List.mem_cons_self (.of_mem_parts List.mem_cons_self)⟩

end TrackingPlan
