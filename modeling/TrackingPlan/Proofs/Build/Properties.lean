import TrackingPlan.Proofs.Build.State

/-!
# Building references and properties

A reference to a custom type builds that type first, so a property is entered after the custom type
it refers to.  It follows that a property is not entered by what it refers to: while a custom type
is being built it is not entered, so neither is any property that refers to it (`CustomSteps.free`).

§1 types without parts to look up · §2 variants · §3 references · §4 properties.
-/

namespace TrackingPlan

namespace BuildState

variable {doc : Document} {σ σ' : BuildState}

/-! ## §1 Types without parts to look up -/

theorem known_of_nameless {t : PropertyType} (h : ∀ u, t.Reaches u → u.name? = none) :
    σ.Known doc t := by
  intro u hu n hn
  rw [h u hu] at hn
  cases hn

theorem made_aliasOf (n : TypeName) (description : Option String) {target : PropertyType}
    (h : σ.Known doc target) : σ.Made doc n (Build.aliasOf n description target) := by
  refine ⟨rfl, fun u hu => ?_, fun _ => rfl⟩
  obtain rfl := List.mem_singleton.mp hu
  exact h

theorem made_record {n : TypeName} {description : Option String} {fields : List Field}
    {r : RecordType} (h : RecordType.ofFields n description fields = .ok r)
    (hfields : ∀ f ∈ fields, σ.Known doc f.type) :
    r = ⟨n, description, fields⟩ ∧ (fields.map Field.key).Nodup ∧ σ.Made doc n (.record r) := by
  unfold RecordType.ofFields at h
  obtain ⟨_, hunique, h⟩ := except_bind_eq_ok.mp h
  obtain rfl := except_pure_eq_ok.mp h
  have hkeys := ensureUniqueKeys_eq_ok_iff.mp hunique
  refine ⟨rfl, hkeys, rfl, fun u hu => ?_, fun _ => fieldFaults_eq_nil_iff.mpr hkeys⟩
  obtain ⟨f, hf, rfl⟩ := List.mem_map.mp hu
  exact hfields f hf

theorem made_enumeration {n : TypeName} {description : Option String} {values : List Literal}
    {e : EnumType} (h : EnumType.ofValues n description values = .ok e)
    (hvalues : doc.WellFormed → ∀ l ∈ values, l.Canonical) : σ.Made doc n (.enumeration e) := by
  refine ⟨congrArg some (EnumType.name_of_ofValues h), fun _ hu => absurd hu List.not_mem_nil,
    fun hdoc => ?_⟩
  exact EnumType.faults_eq_nil_iff.mpr (EnumType.wellFormed_of_ofValues (hvalues hdoc) h)

/-! ## §2 Variants -/

theorem Sound.resolved_made (hσ : σ.Sound doc) {n : TypeName} {v : VariantType}
    (h : σ.resolver.resolved.get? n.id = some v) :
    σ.Made doc n (.variant v) ∧ doc.Offers n v := by
  obtain ⟨m, hid, hmade, hoffers⟩ := hσ.resolved n.id v h
  obtain rfl := TypeName.id_injective hid
  exact ⟨hmade, hoffers⟩

theorem Sound.nested_made (hσ : σ.Sound doc) {n : TypeName} {t : PropertyType}
    (h : σ.nested.get? n.id = some t) : σ.Made doc n t := by
  obtain ⟨m, hid, hmade⟩ := hσ.nested n.id t h
  obtain rfl := TypeName.id_injective hid
  exact hmade

theorem made_primitive {node : PrimitiveNode} {v : VariantType} (h : node.resolve = .ok v) :
    σ.Made doc node.name (.variant v) := by
  have hv := PrimitiveNode.resolvesTo_of_resolve h
  refine ⟨?_, fun u hu => known_of_nameless fun w hw => hv.unnamed hu hw,
    fun _ => VariantType.faults_eq_nil_iff.mpr hv.wellFormed⟩
  rw [hv.eq]
  rfl

end BuildState

namespace Build

open BuildState

variable {doc : Document} {busy : List String} {custom : String → Build PropertyType}
  {σ σ' : BuildState} {t : PropertyType}

/-- **What resolving does**: it answers with a variant, and the resolver alone may change. -/
theorem resolve_run {node : AlternationNode} (h : (resolve node).run σ = .ok (t, σ')) :
    ∃ v resolver, t = .variant v ∧ σ.resolver.Resolves node v resolver ∧
      σ' = { σ with resolver := resolver } := by
  unfold resolve at h
  obtain ⟨_, _, hget, h⟩ := state_bind_eq_ok.mp h
  obtain ⟨rfl, rfl⟩ := state_get_eq_ok.mp hget
  obtain ⟨⟨v, resolver⟩, _, hlift, h⟩ := state_bind_eq_ok.mp h
  obtain ⟨hresolve, rfl⟩ := state_lift_eq_ok.mp hlift
  obtain ⟨_, _, hset, h⟩ := state_bind_eq_ok.mp h
  obtain rfl := state_set_eq_ok.mp hset
  obtain ⟨rfl, rfl⟩ := state_pure_eq_ok.mp h
  exact ⟨v, resolver, rfl, Resolver.resolve_eq_ok_iff.mp hresolve, rfl⟩

/-- **A resolved alternation is kept under its name**, if what it resolves to may stand there. -/
theorem resolve_eq_ok (busy : List String) (hσ : σ.Sound doc) {node : AlternationNode}
    (h : (resolve node).run σ = .ok (t, σ'))
    (hmade : ∀ v, node.resolve = .ok v →
      σ.Made doc node.name (.variant v) ∧ doc.Offers node.name v) :
    σ.Step doc busy σ' ∧ σ'.properties = σ.properties ∧
      ∃ v, t = .variant v ∧ σ'.resolver.resolved.get? node.name.id = some v := by
  obtain ⟨v, resolver, rfl, hresolves, rfl⟩ := resolve_run h
  cases hresolves with
  | remembered hv => exact ⟨step_hits hσ _, rfl, v, rfl, hv⟩
  | made hnew hv =>
    obtain ⟨hmade, hoffers⟩ := hmade v hv
    exact ⟨step_insert_resolved hσ _ hnew hmade hoffers, rfl, v, rfl,
      Entries.get?_insert_self _ _ _⟩

/-- The kinds that references were read as are those they name. -/
theorem refs_of_valueKinds {owner : String} {refs : List TypeRef} {kinds : List ValueKind}
    (h : refs.mapM (valueKind owner) = .ok kinds) : refs = kinds.map ValueKind.ref := by
  induction refs generalizing kinds with
  | nil =>
    obtain rfl := except_pure_eq_ok.mp h
    rfl
  | cons ref rest ih =>
    rw [List.mapM_cons] at h
    obtain ⟨kind, hkind, h⟩ := except_bind_eq_ok.mp h
    obtain ⟨others, hothers, h⟩ := except_bind_eq_ok.mp h
    obtain rfl := except_pure_eq_ok.mp h
    have href : ref = kind.ref := by
      cases ref <;> first | (obtain rfl := Except.ok.inj hkind; rfl) | cases hkind
    rw [List.map_cons, ← href, ← ih hothers]

/-- **Several kinds of bare values** alternate in order, or as they were listed before under the
name. -/
theorem kindAlternation_eq_ok (busy : List String) (hσ : σ.Sound doc) {owner : String}
    {name : TypeName} {description : Option String} {refs : List TypeRef}
    (hname : name.origin = .property) (hlists : doc.Lists name.name refs)
    (h : (kindAlternation owner name description refs).run σ = .ok (t, σ')) :
    σ.Step doc busy σ' ∧ σ'.properties = σ.properties ∧
      ∃ v, t = .variant v ∧ σ'.resolver.resolved.get? name.id = some v := by
  unfold kindAlternation at h
  obtain ⟨kinds, _, hkinds, h⟩ := state_bind_eq_ok.mp h
  obtain ⟨hread, rfl⟩ := state_lift_eq_ok.mp hkinds
  have hmade : ∀ v, PrimitiveNode.resolve ⟨name, description, kinds⟩ = .ok v →
      σ.Made doc name (.variant v) ∧ doc.Offers name v := by
    intro v hv
    obtain rfl := (PrimitiveNode.resolvesTo_of_resolve hv).eq
    have hrefs := refs_of_valueKinds hread
    exact ⟨made_primitive hv, fun _ => ⟨refs, hlists, rfl, rfl, kinds, hrefs, rfl⟩,
      fun hne => absurd hname hne⟩
  -- elaborated by itself: against the goal the name would be sought before the node is known
  exact (resolve_eq_ok busy hσ h hmade :)

/-! ## §3 References -/

/-- **What building a custom type does** while those of `busy` are being built: it is entered, and
no property is that refers to it. -/
structure CustomSteps (doc : Document) (busy : List String)
    (custom : String → Build PropertyType) : Prop where
  step : ∀ {c : String} {σ σ' : BuildState} {t : PropertyType}, σ.Sound doc →
    (custom c).run σ = .ok (t, σ') → σ.Step doc busy σ' ∧ σ'.customTypes.get? c = some t
  free : ∀ {c : String} {σ σ' : BuildState} {t : PropertyType}, σ.Sound doc →
    (custom c).run σ = .ok (t, σ') → ∀ {p : String} {q : Document.Property},
      doc.properties.get? p = some q → q.RefersTo c → σ.properties.get? p = none →
        σ'.properties.get? p = none

theorem typeRef_eq_ok (hcustom : CustomSteps doc busy custom) (hσ : σ.Sound doc) {owner : String}
    {ref : TypeRef} (h : (typeRef doc custom owner ref).run σ = .ok (t, σ')) :
    σ.Step doc busy σ' ∧ σ'.Known doc t ∧
      (∀ c, ref = .custom c → σ'.customTypes.get? c ≠ none) ∧
      ∀ {p : String} {q : Document.Property}, doc.properties.get? p = some q →
        (∀ c, ref = .custom c → q.RefersTo c) → σ.properties.get? p = none →
          σ'.properties.get? p = none := by
  cases ref with
  | custom c =>
    unfold typeRef at h
    dsimp only at h
    split at h
    · obtain ⟨hstep, ht⟩ := hcustom.step hσ h
      have hmade := hstep.sound.customTypes c t ht
      refine ⟨hstep, hmade.known ht, fun d hd => ?_,
        fun hp href => hcustom.free hσ h hp (href c rfl)⟩
      obtain rfl := TypeRef.custom.inj hd
      rw [ht]
      exact Option.some_ne_none t
    · cases h
  | array =>
    obtain ⟨rfl, rfl⟩ := state_pure_eq_ok.mp h
    exact ⟨.refl busy hσ, known_array (known_untyped .any), nofun, fun _ _ hp => hp⟩
  | string | integer | number | boolean =>
    obtain ⟨rfl, rfl⟩ := state_pure_eq_ok.mp h
    exact ⟨.refl busy hσ, known_scalar _, nofun, fun _ _ hp => hp⟩
  | object | null | any =>
    obtain ⟨rfl, rfl⟩ := state_pure_eq_ok.mp h
    exact ⟨.refl busy hσ, known_untyped _, nofun, fun _ _ hp => hp⟩

/-! ## §4 Properties -/

theorem enumValues_eq_none {owner : String} {config : Option Document.TypeConfig}
    (h : enumValues owner config = .ok none) : config.bind (·.values) = none := by
  unfold enumValues at h
  split at h
  · assumption
  · obtain ⟨_, -, h⟩ := except_bind_eq_ok.mp h
    cases h

theorem enumValues_eq_some {owner : String} {config : Option Document.TypeConfig}
    {literals : List Literal} (h : enumValues owner config = .ok (some literals)) :
    (config.bind (·.values)).isSome = true ∧
      (Document.TypeConfig.IsFinite config → ∀ l ∈ literals, l.Canonical) := by
  unfold enumValues at h
  split at h
  · cases h
  · rename_i values hvalues
    obtain ⟨ls, hls, h⟩ := except_bind_eq_ok.mp h
    obtain rfl := Option.some.inj (except_pure_eq_ok.mp h)
    refine ⟨by rw [hvalues]; rfl, fun hfinite l hl => ?_⟩
    obtain ⟨j, hj, hread⟩ := exists_mem_of_mapM_eq_ok hls l hl
    split at hread
    · rename_i m hm
      obtain rfl := Except.ok.inj hread
      exact Literal.canonical_of_ofJson? (hfinite values hvalues j hj) hm
    · cases hread

theorem two_le_length {α : Type} {xs : List α} (hnil : xs ≠ []) (hone : ∀ x, xs ≠ [x]) :
    2 ≤ xs.length := by
  cases xs with
  | nil => exact absurd rfl hnil
  | cons x rest =>
    cases rest with
    | nil => exact absurd rfl (hone x)
    | cons y rest => exact Nat.le_add_left 2 rest.length

/-- **The items of a list.** -/
theorem arrayItem_eq_ok (hcustom : CustomSteps doc busy custom) (hσ : σ.Sound doc) {name : String}
    {q : Document.Property} (hq : doc.properties.get? name = some q)
    (henum : q.isEnumeration = false) (hkinds : q.kinds = [.array])
    (h : (arrayItem doc custom name q.itemTypes).run σ = .ok (t, σ')) :
    σ.Step doc busy σ' ∧ σ'.Known doc t ∧
      (σ.properties.get? name = none → σ'.properties.get? name = none) ∧
      (∀ c, q.itemKinds = [.custom c] → σ'.customTypes.get? c ≠ none) ∧
      (q.ItemsAlternate → ∃ v, t = .variant v ∧ v.name = .property (itemName name)) := by
  unfold arrayItem at h
  split at h
  · -- items of any type
    rename_i hnone
    have hnone : q.itemKinds = [] := hnone
    obtain ⟨rfl, rfl⟩ := state_pure_eq_ok.mp h
    refine ⟨.refl busy hσ, known_untyped .any, id, fun c hc => ?_, fun halt => ?_⟩
    · cases hnone.symm.trans hc
    · have htwo := halt.2.2
      rw [hnone] at htwo
      cases htwo
  · -- items of one type
    rename_i ref hone
    have hone : q.itemKinds = [ref] := hone
    obtain ⟨hstep, hknown, hbuilt, hfree⟩ := typeRef_eq_ok hcustom hσ h
    refine ⟨hstep, hknown, hfree hq fun c hc => ?_, fun c hc => hbuilt c ?_, fun halt => ?_⟩
    · exact ⟨henum, .inr ⟨hkinds, hc ▸ hone⟩⟩
    · exact (List.cons.inj (hone.symm.trans hc)).1
    · have htwo := halt.2.2
      rw [hone, List.length_singleton] at htwo
      omega
  · -- items that alternate: the resolver keeps them, under a name of the property's origin
    rename_i many hnone hone
    have htwo : 2 ≤ q.itemKinds.length := two_le_length hnone hone
    have halt : q.ItemsAlternate := ⟨henum, hkinds, htwo⟩
    obtain ⟨hstep, hproperties, v, rfl, hv⟩ :=
      kindAlternation_eq_ok busy hσ rfl (.itemKinds hq halt) h
    change σ'.resolver.resolved.get? (TypeName.property (itemName name)).id = some v at hv
    obtain ⟨hmade, -⟩ := hstep.sound.resolved_made hv
    refine ⟨hstep, hmade.known (.inr ⟨name, q, v, hq, halt, rfl, rfl, hv⟩),
      fun hp => hproperties ▸ hp, fun c hc => absurd hc (hone _),
      fun _ => ⟨v, rfl, Option.some.inj hmade.name⟩⟩

theorem not_alternates_of_length_le {q : Document.Property} (h : q.kinds.length ≤ 1) :
    ¬q.Alternates :=
  fun halt => absurd (Nat.le_trans halt.2 h) (by decide)

/-- A property is built as such where neither it nor its items alternate. -/
theorem builtAs_plain {name : String} {q : Document.Property} (halt : ¬q.Alternates)
    (hitems : ¬q.ItemsAlternate) (ht : ∀ v, t ≠ .variant v) : σ.BuiltAs name q t :=
  ⟨fun h => absurd h halt, fun _ => ht, fun h => absurd h hitems⟩

/-- **The shape of a property** is made under its name, and building it does not enter it. -/
theorem propertyShape_eq_ok (hcustom : CustomSteps doc busy custom) (hσ : σ.Sound doc)
    {name : String} {q : Document.Property} (hq : doc.properties.get? name = some q)
    (h : (propertyShape doc custom name q).run σ = .ok (t, σ')) :
    σ.Step doc busy σ' ∧ σ'.Made doc (.property name) t ∧ σ'.BuiltAs name q t ∧
      (σ.properties.get? name = none → σ'.properties.get? name = none) ∧
      ∀ c, q.RefersTo c → σ'.customTypes.get? c ≠ none := by
  unfold propertyShape at h
  obtain ⟨listed, _, hlift, h⟩ := state_bind_eq_ok.mp h
  obtain ⟨henum, rfl⟩ := state_lift_eq_ok.mp hlift
  cases listed with
  | some values =>
    obtain ⟨hlisted, hcanonical⟩ := enumValues_eq_some henum
    obtain ⟨e, _, hlift, h⟩ := state_bind_eq_ok.mp h
    obtain ⟨he, rfl⟩ := state_lift_eq_ok.mp hlift
    obtain ⟨rfl, rfl⟩ := state_pure_eq_ok.mp h
    have hnot : q.isEnumeration ≠ false := by
      rw [Document.Property.isEnumeration, hlisted]
      decide
    have hfinite : doc.WellFormed → Document.TypeConfig.IsFinite q.config :=
      fun hdoc => hdoc.propertyValues _ (Entries.mem_of_get? hq)
    refine ⟨.refl busy hσ, made_enumeration he fun hdoc => hcanonical (hfinite hdoc),
      builtAs_plain (fun halt => hnot halt.1) (fun halt => hnot halt.1) fun _ => nofun, id, ?_⟩
    exact fun _ href => absurd href.1 hnot
  | none =>
    have hnot : q.isEnumeration = false := by
      rw [Document.Property.isEnumeration, enumValues_eq_none henum]
      rfl
    dsimp only at h
    split at h
    · -- no type that counts
      rename_i hkinds
      have hkinds : q.kinds = [] := hkinds
      obtain ⟨rfl, rfl⟩ := state_pure_eq_ok.mp h
      have halt : ¬q.Alternates := not_alternates_of_length_le (by simp [hkinds])
      have hitems : ¬q.ItemsAlternate := by
        intro hitems
        cases hkinds.symm.trans hitems.2.1
      refine ⟨.refl busy hσ, made_aliasOf _ _ (known_untyped .any),
        builtAs_plain halt hitems fun _ => nofun, id, fun c href => ?_⟩
      rcases href.2 with hc | ⟨hc, -⟩ <;> cases hkinds.symm.trans hc
    · -- a list: what its items refer to, the property refers to
      rename_i hkinds
      have hkinds : q.kinds = [.array] := hkinds
      obtain ⟨item, _, hitem, h⟩ := state_bind_eq_ok.mp h
      obtain ⟨rfl, rfl⟩ := state_pure_eq_ok.mp h
      obtain ⟨hstep, hknown, hfree, hbuilt, hvariant⟩ :=
        arrayItem_eq_ok hcustom hσ hq hnot hkinds hitem
      have halt : ¬q.Alternates := not_alternates_of_length_le (by simp [hkinds])
      refine ⟨hstep, made_aliasOf _ _ (known_array hknown),
        ⟨fun h => absurd h halt, fun _ _ => nofun, fun hitems => ?_⟩, hfree, fun c href => ?_⟩
      · obtain ⟨v, rfl, hv⟩ := hvariant hitems
        exact ⟨v, q.description, rfl, hv⟩
      · rcases href.2 with hc | ⟨-, hc⟩
        · cases hkinds.symm.trans hc
        · exact hbuilt c hc
    · -- one type, not a list
      rename_i ref hnotarray hkinds
      have hkinds : q.kinds = [ref] := hkinds
      obtain ⟨target, _, htarget, h⟩ := state_bind_eq_ok.mp h
      obtain ⟨rfl, rfl⟩ := state_pure_eq_ok.mp h
      obtain ⟨hstep, hknown, hbuilt, hfree⟩ := typeRef_eq_ok hcustom hσ htarget
      have halt : ¬q.Alternates := not_alternates_of_length_le (by simp [hkinds])
      have harray : q.kinds ≠ [.array] :=
        fun h => hnotarray (List.cons.inj (hkinds.symm.trans h)).1
      refine ⟨hstep, made_aliasOf _ _ hknown,
        builtAs_plain halt (fun hitems => harray hitems.2.1) fun _ => nofun,
        hfree hq fun c hc => ?_, fun c href => ?_⟩
      · exact ⟨hnot, .inl (hc ▸ hkinds)⟩
      · rcases href.2 with hc | ⟨hc, -⟩
        · exact hbuilt c (List.cons.inj (hkinds.symm.trans hc)).1
        · exact absurd hc harray
    · -- several types: the resolver keeps the variant under the property's own name
      rename_i many hnone hnotarray hnotone
      have halt : q.Alternates := ⟨hnot, two_le_length hnone hnotone⟩
      obtain ⟨hstep, hproperties, v, rfl, hv⟩ :=
        kindAlternation_eq_ok busy hσ rfl (.kinds hq halt) h
      refine ⟨hstep, (hstep.sound.resolved_made hv).1,
        ⟨fun _ => ⟨v, rfl, hv⟩, fun hno => absurd halt hno, fun halt => ?_⟩,
        fun hp => hproperties ▸ hp, fun c href => ?_⟩
      · exact absurd halt.2.1 hnotarray
      · rcases href.2 with hc | ⟨hc, -⟩
        · exact absurd hc (hnotone _)
        · exact absurd hc hnotarray

/-- **A property was kept, or it is built now** and entered. -/
theorem property_run {name : String} (h : (property doc custom name).run σ = .ok (t, σ')) :
    σ' = σ ∧ σ.properties.get? name = some t ∨
      ∃ q σ₁, σ.properties.get? name = none ∧ doc.properties.get? name = some q ∧
        (propertyShape doc custom name q).run σ = .ok (t, σ₁) ∧
        σ' = { σ₁ with properties := σ₁.properties.insert name t } := by
  unfold property at h
  obtain ⟨_, _, hget, h⟩ := state_bind_eq_ok.mp h
  obtain ⟨rfl, rfl⟩ := state_get_eq_ok.mp hget
  split at h
  · rename_i u hu
    obtain ⟨rfl, rfl⟩ := state_pure_eq_ok.mp h
    exact .inl ⟨rfl, hu⟩
  · rename_i hnew
    split at h
    · cases h
    · rename_i q hq
      obtain ⟨u, σ₁, hshape, h⟩ := state_bind_eq_ok.mp h
      obtain ⟨_, _, hinsert, h⟩ := state_bind_eq_ok.mp h
      obtain rfl := state_modify_eq_ok.mp hinsert
      obtain ⟨rfl, rfl⟩ := state_pure_eq_ok.mp h
      exact .inr ⟨q, σ₁, hnew, hq, hshape, rfl⟩

/-- **A property that is asked for is entered.** -/
theorem property_eq_ok (hcustom : CustomSteps doc busy custom) {name : String} (hσ : σ.Sound doc)
    (h : (property doc custom name).run σ = .ok (t, σ')) :
    σ.Step doc busy σ' ∧ σ'.properties.get? name = some t := by
  rcases property_run h with ⟨rfl, hkept⟩ | ⟨q, σ₁, hnew, hq, hshape, rfl⟩
  · exact ⟨.refl busy hσ, hkept⟩
  · obtain ⟨hstep, hmade, hbuilt, hfree, hrefs⟩ := propertyShape_eq_ok hcustom hσ hq hshape
    exact ⟨hstep.trans (step_insert_property hstep.sound (hfree hnew) hmade hq hbuilt hrefs),
      Entries.get?_insert_self _ _ _⟩

end Build

end TrackingPlan
