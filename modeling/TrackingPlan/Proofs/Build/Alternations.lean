import TrackingPlan.Proofs.Build.Identification

/-!
# When alternations keep the kinds that are listed for them

A property that lists several types becomes a variant of their kinds, and so do the items of a list.
The resolver keeps one variant under a name, and the items of a property `x` are named `x item`
without looking whether a property of that name alternates too.  Where both do, the one that is
built first is the variant of both; so all properties keep their own kinds exactly if the two list
the same (`Schema.keepsKinds_iff`).

§1 kinds of a variant · §2 what the resolver keeps · §3 kinds that are kept.
-/

namespace TrackingPlan

/-! ## §1 Kinds of a variant -/

theorem ValueKind.toCase_injective : Function.Injective ValueKind.toCase :=
  fun _ _ h => ValueKind.caseName_injective (congrArg VariantCase.name h)

/-- **A variant alternates between the kinds of one list only.** -/
theorem VariantType.AlternatesBetween.unique {v : VariantType} {refs refs' : List TypeRef}
    (h : v.AlternatesBetween refs) (h' : v.AlternatesBetween refs') : refs = refs' := by
  obtain ⟨kinds, rfl, hcases⟩ := h.cases
  obtain ⟨kinds', rfl, hcases'⟩ := h'.cases
  have hmap : kinds.map ValueKind.toCase = kinds'.map ValueKind.toCase :=
    hcases.symm.trans hcases'
  rw [List.map_injective_iff.mpr ValueKind.toCase_injective hmap]

/-- **No name is given to two lists of kinds**: a property named like alternating items alternates
between the same kinds, or not at all. -/
def Document.KindsApart (doc : Document) : Prop :=
  ∀ x ∈ doc.properties.keys, ∀ p ∈ doc.properties.get? x, p.ItemsAlternate →
    ∀ q ∈ doc.properties.get? (itemName x), q.Alternates → p.itemKinds = q.kinds

instance (doc : Document) : Decidable doc.KindsApart :=
  inferInstanceAs (Decidable (∀ x ∈ doc.properties.keys, ∀ p ∈ doc.properties.get? x,
    p.ItemsAlternate → ∀ q ∈ doc.properties.get? (itemName x), q.Alternates →
      p.itemKinds = q.kinds))

theorem itemName_injective {x y : String} (h : itemName x = itemName y) : x = y :=
  (String.append_left_inj " item").mp h

theorem Document.KindsApart.items_eq {doc : Document} (h : doc.KindsApart) {x : String}
    {p q : Document.Property} (hp : doc.properties.get? x = some p) (hitems : p.ItemsAlternate)
    (hq : doc.properties.get? (itemName x) = some q) (halt : q.Alternates) :
    p.itemKinds = q.kinds :=
  h x (Entries.get?_isSome_iff.mp (by rw [hp]; rfl)) p hp hitems q hq halt

/-- Then a name lists its kinds in one way. -/
theorem Document.Lists.unique {doc : Document} (hkinds : doc.KindsApart) {name : String}
    {refs refs' : List TypeRef} (h : doc.Lists name refs) (h' : doc.Lists name refs') :
    refs = refs' := by
  generalize hname : name = name' at h'
  cases h with
  | kinds hq halt =>
    cases h' with
    | kinds hq' halt' =>
      subst hname
      rw [Option.some.inj (hq.symm.trans hq')]
    | itemKinds hp hitems =>
      subst hname
      exact (hkinds.items_eq hp hitems hq halt).symm
  | itemKinds hp hitems =>
    cases h' with
    | kinds hq halt =>
      subst hname
      exact hkinds.items_eq hp hitems hq halt
    | itemKinds hp' hitems' =>
      obtain rfl := itemName_injective hname
      rw [Option.some.inj (hp.symm.trans hp')]

namespace Schema

variable {s : Schema} {doc : Document} {σ : BuildState} {x : String} {p : Document.Property}
  {v : VariantType}

/-! ## §2 What the resolver keeps -/

namespace BuiltFrom

/-- **A property that alternates** is what the resolver keeps under its name. -/
theorem get?_alternation (h : s.BuiltFrom doc σ) (hp : doc.properties.get? x = some p)
    (halt : p.Alternates) : ∃ v, s.properties.get? x = some (.variant v) ∧
      σ.resolver.resolved.get? (TypeName.property x).id = some v := by
  obtain ⟨t, ht, -, hbuilt⟩ := h.get?_property hp
  obtain ⟨v, rfl, hv⟩ := hbuilt.alternates halt
  exact ⟨v, ht, hv⟩

/-- **Items that alternate** are what the resolver keeps under their name. -/
theorem get?_items (h : s.BuiltFrom doc σ) (hp : doc.properties.get? x = some p)
    (hitems : p.ItemsAlternate) : ∃ t v, s.properties.get? x = some t ∧
      t.resolved = .array (.variant v) ∧
      σ.resolver.resolved.get? (TypeName.property (itemName x)).id = some v := by
  obtain ⟨t, ht, hkept, hbuilt⟩ := h.get?_property hp
  obtain ⟨v, about, rfl, hname⟩ := hbuilt.items hitems
  have hknows : σ.Knows doc (.property (itemName x)) (.variant v) :=
    (h.sound.properties x _ hkept).parts (.array (.variant v)) List.mem_cons_self _
      (.of_mem_parts List.mem_cons_self) _ (congrArg some hname)
  refine ⟨_, v, ht, rfl, ?_⟩
  rcases hknows with hproperty | ⟨_, _, w, -, -, -, hsame, hw⟩
  · -- a property of that name is a variant only if it alternates, and then the resolver keeps it
    obtain ⟨q, -, hbuilt', -⟩ := h.sound.declared _ _ hproperty
    by_cases halt : q.Alternates
    · obtain ⟨w, hsame, hw⟩ := hbuilt'.alternates halt
      obtain rfl := PropertyType.variant.inj hsame
      exact hw
    · exact absurd rfl (hbuilt'.single halt v)
  · obtain rfl := PropertyType.variant.inj hsame
    exact hw

/-- **The resolver keeps kinds that are listed under the name.** -/
theorem exists_listed (h : s.BuiltFrom doc σ)
    (hv : σ.resolver.resolved.get? (TypeName.property x).id = some v) :
    ∃ refs, doc.Lists x refs ∧ v.AlternatesBetween refs :=
  (h.sound.resolved_made hv).2.listed rfl

end BuiltFrom

/-! ## §3 Kinds that are kept -/

/-- **Properties keep their kinds**: one that alternates is a variant of the kinds that it lists, in
order, and one whose items do is a list of such a variant of the items' kinds. -/
structure KeepsKinds (s : Schema) (doc : Document) : Prop where
  alternations : ∀ {name q}, doc.properties.get? name = some q → q.Alternates →
    ∃ v, s.properties.get? name = some (.variant v) ∧ v.AlternatesBetween q.kinds
  items : ∀ {name q}, doc.properties.get? name = some q → q.ItemsAlternate →
    ∃ t v, s.properties.get? name = some t ∧ t.resolved = .array (.variant v) ∧
      v.AlternatesBetween q.itemKinds

namespace BuiltFrom

theorem keepsKinds (h : s.BuiltFrom doc σ) (hkinds : doc.KindsApart) : s.KeepsKinds doc := by
  refine ⟨fun hq halt => ?_, fun hq hitems => ?_⟩
  · obtain ⟨v, hv, hresolved⟩ := h.get?_alternation hq halt
    obtain ⟨refs, hlists, hbetween⟩ := h.exists_listed hresolved
    exact ⟨v, hv, hlists.unique hkinds (.kinds hq halt) ▸ hbetween⟩
  · obtain ⟨t, v, ht, hv, hresolved⟩ := h.get?_items hq hitems
    obtain ⟨refs, hlists, hbetween⟩ := h.exists_listed hresolved
    exact ⟨t, v, ht, hv, hlists.unique hkinds (.itemKinds hq hitems) ▸ hbetween⟩

/-- Under one name the resolver keeps one variant, so the kinds of both are its kinds. -/
theorem kindsApart (h : s.BuiltFrom doc σ) (hkeeps : s.KeepsKinds doc) : doc.KindsApart := by
  intro x _ p hp hitems q hq halt
  obtain ⟨v, hv, hresolved⟩ := h.get?_alternation hq halt
  obtain ⟨v', hv', hbetween⟩ := hkeeps.alternations hq halt
  obtain ⟨t, w, ht, hw, hresolved'⟩ := h.get?_items hp hitems
  obtain ⟨t', w', ht', hw', hbetween'⟩ := hkeeps.items hp hitems
  obtain rfl := PropertyType.variant.inj (Option.some.inj (hv.symm.trans hv'))
  obtain rfl := Option.some.inj (ht.symm.trans ht')
  obtain rfl := PropertyType.variant.inj (PropertyType.array.inj (hw.symm.trans hw'))
  obtain rfl := Option.some.inj (hresolved.symm.trans hresolved')
  exact hbetween'.unique hbetween

end BuiltFrom

/-- **Properties keep their kinds exactly if no name is given to two lists of kinds.** -/
theorem keepsKinds_iff (h : ofDocument doc = .ok s) : s.KeepsKinds doc ↔ doc.KindsApart := by
  obtain ⟨σ, hbuilt⟩ := builtFrom_of_ofDocument h
  exact ⟨hbuilt.kindsApart, hbuilt.keepsKinds⟩

end Schema

/-- Tags that are texts or integers, and a property of these kinds that is named like a tag. -/
def Document.taggedKinds (kinds : List TypeRef) : Document where
  name := "tagged"
  metadata := .unknown
  customTypes := []
  properties := [("tags item", ⟨none, kinds, [], none⟩),
    ("tags", ⟨none, [.array], [.string, .integer], none⟩)]
  rules := []

theorem Schema.keepsKinds_tagged :
    ∃ s, ofDocument (Document.taggedKinds [.string, .integer]) = .ok s ∧
      s.KeepsKinds (Document.taggedKinds [.string, .integer]) := by
  have hbuilt : ∃ s, ofDocument (Document.taggedKinds [.string, .integer]) = .ok s := ⟨_, rfl⟩
  obtain ⟨s, hs⟩ := hbuilt
  exact ⟨s, hs, (keepsKinds_iff hs).mpr (by decide)⟩

/-- What the property becomes, and the tags with it, where it is a text or a truth value. -/
def VariantType.taggedKinds : VariantType :=
  ⟨.property "tags item", none, none,
    [ValueKind.toCase (.scalar .string), ValueKind.toCase (.scalar .boolean)], none⟩

/-- The integer among the kinds of the tags is lost to the truth value of the property. -/
theorem Schema.not_keepsKinds_tagged :
    ∃ s, ofDocument (Document.taggedKinds [.string, .boolean]) = .ok s ∧
      ¬s.KeepsKinds (Document.taggedKinds [.string, .boolean]) := by
  refine ⟨_, rfl, fun hkeeps => ?_⟩
  have htags : (Document.taggedKinds [.string, .boolean]).properties.get? "tags" =
      some ⟨none, [.array], [.string, .integer], none⟩ := rfl
  obtain ⟨t, v, ht, hv, hbetween⟩ := hkeeps.items htags (by decide)
  obtain rfl := Option.some.inj ht
  obtain rfl : VariantType.taggedKinds = v := PropertyType.variant.inj (PropertyType.array.inj hv)
  have hother : VariantType.taggedKinds.AlternatesBetween [.string, .boolean] :=
    ⟨rfl, rfl, [.scalar .string, .scalar .boolean], rfl, rfl⟩
  exact absurd (hbetween.unique hother) (by decide)

end TrackingPlan
