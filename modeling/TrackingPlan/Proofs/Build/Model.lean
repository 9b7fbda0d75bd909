import TrackingPlan.Proofs.Build.Objects

/-!
# Building the whole model

Custom types are built by recursion on how many more can be; whatever that bound and those in
progress are, what comes out is entered (`Build.customType_steps`).  A model that was built goes
with the tables it left (`Schema.BuiltFrom`), and each named type in it is kept there or is the
payload of a rule (`Schema.BuiltFrom.knows_or_payload`).

§1 custom types · §2 rules · §3 the model · §4 named types of the model · §5 a plan.
-/

namespace TrackingPlan

open BuildState

variable {doc : Document} {busy : List String} {custom : String → Build PropertyType}
  {σ σ' : BuildState} {t : PropertyType}

namespace Build

/-! ## §1 Custom types -/

/-- A custom type uses each property once; one without a schema uses none. -/
theorem nodup_keys_of_customType {name : String} {declared : Document.CustomType}
    (hdeclared : doc.customTypes.get? name = some declared) (hdoc : doc.WellFormed) :
    ((declared.schema.getD .empty).properties.map Prod.fst).Nodup := by
  cases hschema : declared.schema with
  | none => exact List.nodup_nil
  | some schema => exact hdoc.typeKeys _ (Entries.mem_of_get? hdeclared) schema hschema

theorem customShape_eq_ok (hcustom : CustomSteps doc busy custom) (hσ : σ.Sound doc)
    {name : String} {declared : Document.CustomType}
    (hdeclared : doc.customTypes.get? name = some declared)
    (h : (customShape doc custom name declared).run σ = .ok (t, σ')) :
    σ.Step doc busy σ' ∧ σ'.Made doc (.customType name) t := by
  unfold customShape at h
  obtain ⟨listed, _, hlift, h⟩ := state_bind_eq_ok.mp h
  obtain ⟨henum, rfl⟩ := state_lift_eq_ok.mp hlift
  cases listed with
  | some values =>
    obtain ⟨-, hcanonical⟩ := enumValues_eq_some henum
    obtain ⟨e, _, hlift, h⟩ := state_bind_eq_ok.mp h
    obtain ⟨he, rfl⟩ := state_lift_eq_ok.mp hlift
    obtain ⟨rfl, rfl⟩ := state_pure_eq_ok.mp h
    exact ⟨.refl busy hσ,
      made_enumeration he fun hdoc =>
        hcanonical (hdoc.typeValues _ (Entries.mem_of_get? hdeclared))⟩
  | none =>
    dsimp only at h
    split at h
    · cases h
    · split at h
      · have hkeys := nodup_keys_of_customType hdeclared
        have hname : TypeOrigin.customType ≠ .property := nofun
        obtain ⟨hstep, hmade, -⟩ := objectShape_eq_ok hcustom hσ hname hkeys h
        exact ⟨hstep, hmade⟩
      · split at h
        · obtain ⟨rfl, rfl⟩ := state_pure_eq_ok.mp h
          exact ⟨.refl busy hσ, made_aliasOf _ _ (known_array (known_untyped .any))⟩
        · obtain ⟨item, _, hitem, h⟩ := state_bind_eq_ok.mp h
          obtain ⟨rfl, rfl⟩ := state_pure_eq_ok.mp h
          obtain ⟨hstep, hknown, -⟩ := typeRef_eq_ok hcustom hσ hitem
          exact ⟨hstep, made_aliasOf _ _ (known_array hknown)⟩
      · obtain ⟨target, _, htarget, h⟩ := state_bind_eq_ok.mp h
        obtain ⟨rfl, rfl⟩ := state_pure_eq_ok.mp h
        obtain ⟨hstep, hknown, -⟩ := typeRef_eq_ok hcustom hσ htarget
        exact ⟨hstep, made_aliasOf _ _ hknown⟩

/-- With none left to build, only what is kept is found. -/
theorem customType_zero_eq_ok {busy : List String} {c : String}
    (h : (customType doc 0 busy c).run σ = .ok (t, σ')) :
    σ' = σ ∧ σ.customTypes.get? c = some t := by
  unfold customType at h
  obtain ⟨_, _, hget, h⟩ := state_bind_eq_ok.mp h
  obtain ⟨rfl, rfl⟩ := state_get_eq_ok.mp hget
  split at h
  · rename_i u hu
    obtain ⟨rfl, rfl⟩ := state_pure_eq_ok.mp h
    exact ⟨rfl, hu⟩
  · split at h <;> cases h

/-- **A custom type was kept, or it is built now**, with itself among those in progress. -/
theorem customType_succ_run {left : Nat} {busy : List String} {c : String}
    (h : (customType doc (left + 1) busy c).run σ = .ok (t, σ')) :
    σ' = σ ∧ σ.customTypes.get? c = some t ∨
      ∃ declared σ₁, σ.customTypes.get? c = none ∧ doc.customTypes.get? c = some declared ∧
        c ∉ busy ∧ (customShape doc (customType doc left (c :: busy)) c declared).run σ =
          .ok (t, σ₁) ∧ σ' = { σ₁ with customTypes := σ₁.customTypes.insert c t } := by
  unfold customType at h
  obtain ⟨_, _, hget, h⟩ := state_bind_eq_ok.mp h
  obtain ⟨rfl, rfl⟩ := state_get_eq_ok.mp hget
  split at h
  · rename_i u hu
    obtain ⟨rfl, rfl⟩ := state_pure_eq_ok.mp h
    exact .inl ⟨rfl, hu⟩
  · rename_i hnew
    split at h
    · cases h
    · rename_i declared hdeclared
      dsimp only at h
      split at h
      · cases h
      · rename_i hidle
        obtain ⟨u, σ₁, hshape, h⟩ := state_bind_eq_ok.mp h
        obtain ⟨_, _, hinsert, h⟩ := state_bind_eq_ok.mp h
        obtain rfl := state_modify_eq_ok.mp hinsert
        obtain ⟨rfl, rfl⟩ := state_pure_eq_ok.mp h
        have hnotbusy : c ∉ busy := fun hmem => hidle (List.contains_iff_mem.mpr hmem)
        exact .inr ⟨declared, σ₁, hnew, hdeclared, hnotbusy, hshape, rfl⟩

/-- A custom type that is built now is made under its name. -/
theorem customType_succ_eq_ok {left : Nat} {busy : List String} {c : String}
    (hcustom : CustomSteps doc (c :: busy) (customType doc left (c :: busy))) (hσ : σ.Sound doc)
    (h : (customType doc (left + 1) busy c).run σ = .ok (t, σ')) :
    σ' = σ ∧ σ.customTypes.get? c = some t ∨
      ∃ σ₁, c ∉ busy ∧ σ.Step doc (c :: busy) σ₁ ∧ σ.customTypes.get? c = none ∧
        σ₁.Made doc (.customType c) t ∧
        σ' = { σ₁ with customTypes := σ₁.customTypes.insert c t } := by
  rcases customType_succ_run h with ⟨rfl, hkept⟩ |
    ⟨declared, σ₁, hnew, hdeclared, hidle, hshape, rfl⟩
  · exact .inl ⟨rfl, hkept⟩
  · obtain ⟨hstep, hmade⟩ := customShape_eq_ok hcustom hσ hdeclared hshape
    exact .inr ⟨σ₁, hidle, hstep, hnew, hmade, rfl⟩

/-- A property is entered after the custom types that it refers to. -/
theorem property_not_entered (hσ : σ.Sound doc) {p c : String} {q : Document.Property}
    (hq : doc.properties.get? p = some q) (href : q.RefersTo c)
    (hc : σ.customTypes.get? c = none) : σ.properties.get? p = none := by
  by_contra hentered
  obtain ⟨u, hu⟩ := Option.ne_none_iff_exists'.mp hentered
  obtain ⟨q', hq', -, hrefs⟩ := hσ.declared p u hu
  obtain rfl := Option.some.inj (hq.symm.trans hq')
  exact hrefs c href hc

/-- **Building a custom type enters it**, however many more can be built. -/
theorem customType_steps (doc : Document) (left : Nat) :
    ∀ busy, CustomSteps doc busy (customType doc left busy) := by
  induction left with
  | zero =>
    intro busy
    refine ⟨fun hσ h => ?_, fun _ h _ _ _ _ hp => ?_⟩
    · obtain ⟨rfl, ht⟩ := customType_zero_eq_ok h
      exact ⟨.refl busy hσ, ht⟩
    · obtain ⟨rfl, -⟩ := customType_zero_eq_ok h
      exact hp
  | succ left ih =>
    intro busy
    -- While `c` is being built it is in progress, so no step before the last can enter it.
    refine ⟨fun {c σ σ' t} hσ h => ?_, fun {c σ σ' t} hσ h p q hq href hp => ?_⟩
    · rcases customType_succ_eq_ok (ih _) hσ h with ⟨rfl, ht⟩ | ⟨σ₁, hidle, hstep, hnew, hmade, rfl⟩
      · exact ⟨.refl busy hσ, ht⟩
      · have hstill := hstep.busy _ List.mem_cons_self hnew
        have hbuilt := hstep.of_subset (List.subset_cons_self c busy)
        exact ⟨hbuilt.trans (step_insert_customType hstep.sound hstill hidle hmade),
          Entries.get?_insert_self _ _ _⟩
    · rcases customType_succ_eq_ok (ih _) hσ h with ⟨rfl, -⟩ | ⟨σ₁, -, hstep, hnew, -, rfl⟩
      · exact hp
      · have hstill := hstep.busy _ List.mem_cons_self hnew
        exact property_not_entered hstep.sound hq href hstill

end Build

/-! ## §2 Rules -/

namespace Document.Rule

/-- The name of the payload's type, as the rule's own. -/
def payloadTypeName (r : Document.Rule) : String :=
  TrackingPlan.Rule.payloadTypeName
    ⟨⟨r.event.kind, r.event.name, r.event.description⟩, r.part, .empty⟩

/-- **Whether the payload has a type**: the rule uses properties or has variants. -/
def HasType (r : Document.Rule) : Prop :=
  ¬(r.variants = [] ∧ r.schema.properties = [])

end Document.Rule

namespace BuildState

/-- **What the payload of a rule becomes.** -/
structure PayloadOf (doc : Document) (σ : BuildState) (r : Document.Rule) (t : PropertyType) :
    Prop where
  made : σ.Made doc (.event r.payloadTypeName) t
  isObject : t.isObject = true
  object : σ.ObjectOf doc (.event r.payloadTypeName) r.event.description r.schema.properties
    r.variants t

/-- **What a rule becomes.** -/
structure RuleOf (doc : Document) (σ : BuildState) (r : Document.Rule) (r' : Rule) : Prop where
  event : r'.event = ⟨r.event.kind, r.event.name, r.event.description⟩
  part : r'.part = r.part
  typed : r.HasType → ∃ t, r'.payload = .typed t ∧ σ.PayloadOf doc r t
  untyped : ¬r.HasType → r'.payload.type? = none

theorem RuleOf.mono (h : σ.Grows σ') {r : Document.Rule} {r' : Rule} (hr : σ.RuleOf doc r r') :
    σ'.RuleOf doc r r' := by
  refine ⟨hr.event, hr.part, fun htype => ?_, hr.untyped⟩
  obtain ⟨t, ht, hpayload⟩ := hr.typed htype
  exact ⟨t, ht, hpayload.made.mono h, hpayload.isObject, hpayload.object.mono h⟩

end BuildState

namespace Build

theorem declaredType_steps (doc : Document) : CustomSteps doc [] (declaredType doc) :=
  customType_steps doc doc.customTypes.length []

theorem rule_eq_ok (hσ : σ.Sound doc) {r : Document.Rule} (hmem : r ∈ doc.rules) {r' : Rule}
    (h : (rule doc r).run σ = .ok (r', σ')) : σ.Step doc [] σ' ∧ σ'.RuleOf doc r r' := by
  unfold rule at h
  dsimp only at h
  split at h
  · rename_i hempty
    obtain ⟨rfl, rfl⟩ := state_pure_eq_ok.mp h
    rw [Bool.and_eq_true, List.isEmpty_iff, List.isEmpty_iff] at hempty
    refine ⟨.refl [] hσ, rfl, rfl, fun htype => absurd hempty htype, fun _ => ?_⟩
    cases r.schema.additionalProperties <;> rfl
  · rename_i hempty
    obtain ⟨t, σ₁, ht, h⟩ := state_bind_eq_ok.mp h
    obtain ⟨rfl, rfl⟩ := state_pure_eq_ok.mp h
    rw [Bool.and_eq_true, List.isEmpty_iff, List.isEmpty_iff] at hempty
    have hname : TypeOrigin.event ≠ .property := nofun
    obtain ⟨hstep, hmade, hobject, hof⟩ := objectShape_eq_ok (declaredType_steps doc) hσ hname
      (fun hdoc => hdoc.ruleKeys r hmem) ht
    exact ⟨hstep, rfl, rfl, fun _ => ⟨t, rfl, hmade, hobject, hof⟩, fun hnot => absurd hempty hnot⟩

/-! ## §3 The model -/

/-- Types built in order, each of which is entered somewhere. -/
theorem named_eq_ok {build : String → Build PropertyType}
    {P : BuildState → String → PropertyType → Prop}
    (hbuild : ∀ {name : String} {σ σ' : BuildState} {t : PropertyType}, σ.Sound doc →
      (build name).run σ = .ok (t, σ') → σ.Step doc [] σ' ∧ P σ' name t)
    (hmono : ∀ {name : String} {σ σ' : BuildState} {t : PropertyType}, σ.Grows σ' → P σ name t →
      P σ' name t) {names : List String} :
    ∀ {σ σ' : BuildState} {entries : Entries PropertyType}, σ.Sound doc →
      (named build names).run σ = .ok (entries, σ') →
      σ.Step doc [] σ' ∧ entries.keys = names ∧ ∀ e ∈ entries, P σ' e.1 e.2 := by
  induction names with
  | nil =>
    intro σ σ' entries hσ h
    obtain ⟨rfl, rfl⟩ := state_pure_eq_ok.mp h
    exact ⟨.refl [] hσ, rfl, fun _ he => absurd he List.not_mem_nil⟩
  | cons name rest ih =>
    intro σ σ' entries hσ h
    rw [named] at h
    obtain ⟨t, σ₁, ht, h⟩ := state_bind_eq_ok.mp h
    obtain ⟨others, σ₂, hothers, h⟩ := state_bind_eq_ok.mp h
    obtain ⟨rfl, rfl⟩ := state_pure_eq_ok.mp h
    obtain ⟨hstep, hfirst⟩ := hbuild hσ ht
    obtain ⟨hstep', rfl, hrest⟩ := ih hstep.sound hothers
    exact ⟨hstep.trans hstep', rfl,
      List.forall_mem_cons.mpr ⟨hmono hstep'.toGrows hfirst, hrest⟩⟩

theorem rules_eq_ok {rules : List Document.Rule} :
    ∀ {σ σ' : BuildState} {built : List Rule}, σ.Sound doc → (∀ r ∈ rules, r ∈ doc.rules) →
      (rules.mapM (rule doc)).run σ = .ok (built, σ') →
      σ.Step doc [] σ' ∧ List.Forall₂ (σ'.RuleOf doc) rules built := by
  induction rules with
  | nil =>
    intro σ σ' built hσ _ h
    obtain ⟨rfl, rfl⟩ := state_pure_eq_ok.mp h
    exact ⟨.refl [] hσ, .nil⟩
  | cons r rest ih =>
    intro σ σ' built hσ hmem h
    obtain ⟨hr, hrest⟩ := List.forall_mem_cons.mp hmem
    rw [List.mapM_cons] at h
    obtain ⟨r', σ₁, hfirst, h⟩ := state_bind_eq_ok.mp h
    obtain ⟨others, σ₂, hothers, h⟩ := state_bind_eq_ok.mp h
    obtain ⟨rfl, rfl⟩ := state_pure_eq_ok.mp h
    obtain ⟨hstep, hof⟩ := rule_eq_ok hσ hr hfirst
    obtain ⟨hstep', hothers⟩ := ih hstep.sound hrest hothers
    exact ⟨hstep.trans hstep', .cons (hof.mono hstep'.toGrows) hothers⟩

end Build

/-- **A model and the tables it was built with.** -/
structure Schema.BuiltFrom (s : Schema) (doc : Document) (σ : BuildState) : Prop where
  sound : σ.Sound doc
  customTypeNames : s.customTypes.keys = doc.customTypes.keys
  customTypes : ∀ e ∈ s.customTypes, σ.customTypes.get? e.1 = some e.2
  propertyNames : s.properties.keys = doc.properties.keys
  properties : ∀ e ∈ s.properties, σ.properties.get? e.1 = some e.2
  rules : List.Forall₂ (σ.RuleOf doc) doc.rules s.rules

theorem BuildState.sound_start (doc : Document) : BuildState.Sound doc {} :=
  ⟨nofun, nofun, nofun, nofun, nofun⟩

/-- The tables that a build leaves are sound, and the model goes with them. -/
theorem Build.schema_eq_ok {s : Schema} (h : (Build.schema doc).run {} = .ok (s, σ)) :
    s.BuiltFrom doc σ := by
  unfold Build.schema at h
  obtain ⟨customTypes, σ₁, hcustom, h⟩ := state_bind_eq_ok.mp h
  obtain ⟨properties, σ₂, hproperties, h⟩ := state_bind_eq_ok.mp h
  obtain ⟨rules, σ₃, hrules, h⟩ := state_bind_eq_ok.mp h
  obtain ⟨rfl, rfl⟩ := state_pure_eq_ok.mp h
  have hsteps := Build.declaredType_steps doc
  obtain ⟨hstep₁, hnames₁, hkept₁⟩ := Build.named_eq_ok
    (P := fun σ name t => σ.customTypes.get? name = some t) hsteps.step
    (fun hgrows ht => hgrows.customTypes _ _ ht) (sound_start doc) hcustom
  obtain ⟨hstep₂, hnames₂, hkept₂⟩ := Build.named_eq_ok
    (P := fun σ name t => σ.properties.get? name = some t)
    (fun hσ ht => Build.property_eq_ok hsteps hσ ht)
    (fun hgrows ht => hgrows.properties _ _ ht) hstep₁.sound hproperties
  obtain ⟨hstep₃, hof⟩ := Build.rules_eq_ok hstep₂.sound (fun _ hr => hr) hrules
  have hgrows := hstep₂.toGrows.trans hstep₃.toGrows
  exact ⟨hstep₃.sound, hnames₁, fun e he => hgrows.customTypes _ _ (hkept₁ e he), hnames₂,
    fun e he => hstep₃.properties _ _ (hkept₂ e he), hof⟩

theorem Schema.ofDocument_eq_ok_iff {s : Schema} : Schema.ofDocument doc = .ok s ↔
    ∃ σ, (Build.schema doc).run {} = .ok (s, σ) := by
  unfold Schema.ofDocument
  constructor
  · intro h
    obtain ⟨⟨built, σ⟩, hrun, h⟩ := except_bind_eq_ok.mp h
    obtain rfl := except_pure_eq_ok.mp h
    exact ⟨σ, hrun⟩
  · rintro ⟨σ, hrun⟩
    rw [hrun]
    rfl

/-- **Whatever is built is built from sound tables.** -/
theorem Schema.builtFrom_of_ofDocument {s : Schema} (h : Schema.ofDocument doc = .ok s) :
    ∃ σ, s.BuiltFrom doc σ := by
  obtain ⟨σ, hrun⟩ := Schema.ofDocument_eq_ok_iff.mp h
  exact ⟨σ, Build.schema_eq_ok hrun⟩

/-! ## §4 Named types of the model -/

namespace Schema.BuiltFrom

variable {s : Schema} {n : TypeName}

/-- The type of a payload is what its rule's payload became. -/
theorem payload (h : s.BuiltFrom doc σ) {r' : Rule} (hr' : r' ∈ s.rules)
    (ht : r'.payload.type? = some t) :
    ∃ r ∈ doc.rules, r.HasType ∧ σ.PayloadOf doc r t := by
  obtain ⟨r, hr, hof⟩ := exists_left_of_forall₂ h.rules hr'
  by_cases hhas : r.HasType
  · obtain ⟨u, hu, hpayload⟩ := hof.typed hhas
    rw [hu] at ht
    obtain rfl := Option.some.inj ht
    exact ⟨r, hr, hhas, hpayload⟩
  · cases (hof.untyped hhas).symm.trans ht

/-- Each payload that has a type is one of those that the model starts from. -/
theorem exists_payload (h : s.BuiltFrom doc σ) {r : Document.Rule} (hr : r ∈ doc.rules)
    (htype : r.HasType) : ∃ t ∈ s.roots, σ.PayloadOf doc r t := by
  obtain ⟨r', hr', hof⟩ := exists_right_of_forall₂ h.rules hr
  obtain ⟨t, ht, hpayload⟩ := hof.typed htype
  have hmem : t ∈ s.rules.filterMap (·.payload.type?) :=
    List.mem_filterMap.mpr ⟨r', hr', by rw [ht]; rfl⟩
  exact ⟨t, List.mem_append_right _ hmem, hpayload⟩

/-- **A named type of the model** is kept in the tables, or is the payload of a rule. -/
theorem knows_or_payload (h : s.BuiltFrom doc σ) (ht : s.Reaches t) (hn : t.name? = some n) :
    σ.Knows doc n t ∨ ∃ r ∈ doc.rules, r.HasType ∧ σ.PayloadOf doc r t := by
  obtain ⟨root, hroot, hreach⟩ := ht
  rcases List.mem_append.mp hroot with hdeclared | hpayload
  · have hknown : σ.Known doc root := by
      rcases List.mem_append.mp hdeclared with hcustom | hproperty
      · obtain ⟨e, he, rfl⟩ := List.mem_map.mp hcustom
        have hkept := h.customTypes e he
        exact (h.sound.customTypes _ _ hkept).known hkept
      · obtain ⟨e, he, rfl⟩ := List.mem_map.mp hproperty
        have hkept := h.properties e he
        exact (h.sound.properties _ _ hkept).known (.inl hkept)
    exact .inl (hknown t hreach n hn)
  · obtain ⟨r', hr', htype⟩ := List.mem_filterMap.mp hpayload
    obtain ⟨r, hr, hhas, hof⟩ := h.payload hr' htype
    rcases PropertyType.reaches_iff.mp hreach with rfl | ⟨u, hu, hut⟩
    · exact .inr ⟨r, hr, hhas, hof⟩
    · exact .inl (hof.made.parts u hu t hut n hn)

/-- **A named type that is kept was made under its name.** -/
theorem made_of_knows (h : s.BuiltFrom doc σ) (hk : σ.Knows doc n t) : σ.Made doc n t := by
  obtain ⟨origin, name⟩ := n
  cases origin with
  | customType => exact h.sound.customTypes name t hk
  | property =>
    rcases hk with hk | ⟨_, _, v, -, -, -, rfl, hv⟩
    · exact h.sound.properties name t hk
    · exact (h.sound.resolved_made hv).1
  | nested => exact h.sound.nested_made hk
  | event => exact hk.elim

end Schema.BuiltFrom

/-! ## §5 A plan -/

namespace Document

/-- An order with its total, the address it goes to, tags and a profile. -/
def orderPlaced : Document.Rule :=
  ⟨⟨.track, "Order Placed", none⟩, .properties,
    ⟨[("total", ⟨false, none⟩), ("address", ⟨true, none⟩), ("tags", ⟨false, none⟩),
      ("profile", ⟨false, some ⟨[("street", ⟨true, none⟩)], false⟩⟩)], false⟩, []⟩

/-- Customers, told apart by country. -/
def customer : Document.Rule :=
  ⟨⟨.identify, "", none⟩, .traits, ⟨[("country", ⟨true, none⟩)], false⟩,
    [⟨"discriminator", "country",
      [⟨"Germany", [.string "de"], none, ⟨[("street", ⟨true, none⟩)], false⟩⟩], none⟩]⟩

/-- A plan with all that a document can declare. -/
def shop : Document where
  name := "shop"
  metadata := .unknown
  customTypes := [("Address", {
    description := none, type := .object, itemType := none, config := none
    schema := some ⟨[("street", ⟨true, none⟩), ("country", ⟨false, none⟩)], false⟩
    variants := [] })]
  properties := [
    ("street", ⟨some "Street and number", [.string], [], none⟩),
    ("country", ⟨none, [.string], [], some ⟨some [.string "de", .string "fr"]⟩⟩),
    ("address", ⟨none, [.custom "Address"], [], none⟩),
    ("total", ⟨none, [.number, .string], [], none⟩),
    ("tags", ⟨none, [.array], [.string, .integer], none⟩),
    ("profile", ⟨none, [.object], [], none⟩)]
  rules := [orderPlaced, customer]

end Document

end TrackingPlan
