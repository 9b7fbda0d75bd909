import TrackingPlan.Schema.OfDocument
import TrackingPlan.Proofs.Alternation
import TrackingPlan.Proofs.Document.WellFormed
import TrackingPlan.Proofs.Schema.TypeName

/-!
# What building remembers

Every named type that stands in something built is kept in one of the tables of `BuildState`, and
which table follows from the origin of its name (`BuildState.Knows`).  A step of building only adds
to the tables and leaves the custom types alone that are being built (`BuildState.Step`).

The one origin with two tables is that of properties: the items of a property `x` that alternate are
named `x item` and kept by the resolver, where a property of that name has its own entry.  So a name
may be offered two lists of kinds (`Document.Lists`), and the resolver keeps one of them.

§1 declared properties · §2 the tables · §3 steps · §4 adding to the tables.
-/

namespace TrackingPlan

/-! ## §1 Declared properties -/

namespace Document.Property

/-- The types of a property that count; `null` only says that a value may be absent. -/
def kinds (q : Document.Property) : List TypeRef :=
  q.types.filter (· != .null)

/-- The types of its items that count. -/
def itemKinds (q : Document.Property) : List TypeRef :=
  q.itemTypes.filter (· != .null)

/-- Whether the property is an enumeration. -/
def isEnumeration (q : Document.Property) : Bool :=
  (q.config.bind (·.values)).isSome

/-- **Whether the property alternates** between several kinds of bare values. -/
def Alternates (q : Document.Property) : Prop :=
  q.isEnumeration = false ∧ 2 ≤ q.kinds.length

/-- **Whether its items alternate.** -/
def ItemsAlternate (q : Document.Property) : Prop :=
  q.isEnumeration = false ∧ q.kinds = [.array] ∧ 2 ≤ q.itemKinds.length

/-- The property is made of this custom type, or is a list of it. -/
def RefersTo (q : Document.Property) (c : String) : Prop :=
  q.isEnumeration = false ∧
    (q.kinds = [.custom c] ∨ q.kinds = [.array] ∧ q.itemKinds = [.custom c])

end Document.Property

/-- The name of the items of a property. -/
def itemName (name : String) : String :=
  name ++ " item"

/-- The reference that names the kind of bare values. -/
def ValueKind.ref : ValueKind → TypeRef
  | .scalar .boolean => .boolean
  | .scalar .integer => .integer
  | .scalar .number => .number
  | .scalar .string => .string
  | .object => .object
  | .array => .array

/-- **The kinds that a declaration lists under a name**: those of a property that alternates, or of
the items of another one. -/
inductive Document.Lists (doc : Document) : String → List TypeRef → Prop
  | kinds {name : String} {q : Document.Property} : doc.properties.get? name = some q →
      q.Alternates → Lists doc name q.kinds
  | itemKinds {name : String} {q : Document.Property} : doc.properties.get? name = some q →
      q.ItemsAlternate → Lists doc (itemName name) q.itemKinds

/-- **A variant of bare values** of the kinds that these references name, in order. -/
structure VariantType.AlternatesBetween (v : VariantType) (refs : List TypeRef) : Prop where
  discriminator : v.discriminator = none
  default : v.defaultCase = none
  cases : ∃ kinds : List ValueKind, refs = kinds.map ValueKind.ref ∧
    v.cases = kinds.map ValueKind.toCase

/-- **What a document offers under a name**: of a property, bare values of kinds that are listed
under the name, and else object shapes. -/
structure Document.Offers (doc : Document) (n : TypeName) (v : VariantType) : Prop where
  listed : n.origin = .property → ∃ refs, doc.Lists n.name refs ∧ v.AlternatesBetween refs
  shaped : n.origin ≠ .property → v.discriminator ≠ none

/-! ## §2 The tables -/

namespace BuildState

variable {doc : Document} {σ σ' σ'' : BuildState} {busy : List String}

/-- **Where a named type is kept.**  The payload of a rule is kept nowhere: nothing refers to it. -/
def Knows (doc : Document) (σ : BuildState) (n : TypeName) (u : PropertyType) : Prop :=
  match n.origin with
  | .customType => σ.customTypes.get? n.name = some u
  | .property =>
    σ.properties.get? n.name = some u ∨
      ∃ x q v, doc.properties.get? x = some q ∧ q.ItemsAlternate ∧ n.name = itemName x ∧
        u = .variant v ∧ σ.resolver.resolved.get? n.id = some v
  | .nested => σ.nested.get? n.id = some u
  | .event => False

/-- Every named type within the type is kept. -/
def Known (doc : Document) (σ : BuildState) (t : PropertyType) : Prop :=
  ∀ u, t.Reaches u → ∀ n, u.name? = some n → σ.Knows doc n u

/-- **A type made under a name**: all within it is kept, and it has no fault. -/
structure Made (doc : Document) (σ : BuildState) (n : TypeName) (t : PropertyType) : Prop where
  name : t.name? = some n
  parts : ∀ u ∈ t.parts, σ.Known doc u
  faultless : doc.WellFormed → t.faults = []

/-- **What a property is built as**: the variant that the resolver keeps for it exactly if it
alternates, and a list of a variant if its items do. -/
structure BuiltAs (σ : BuildState) (name : String) (q : Document.Property) (t : PropertyType) :
    Prop where
  alternates : q.Alternates →
    ∃ v, t = .variant v ∧ σ.resolver.resolved.get? (TypeName.property name).id = some v
  single : ¬q.Alternates → ∀ v, t ≠ .variant v
  items : q.ItemsAlternate → ∃ v about,
    t = .aliasType ⟨.property name, about, .array (.variant v)⟩ ∧ v.name = .property (itemName name)

/-- **The tables are sound**: each entry is made under its name, a property after the custom type it
refers to, and the resolver keeps what the document offers under a name. -/
structure Sound (doc : Document) (σ : BuildState) : Prop where
  customTypes : ∀ name t, σ.customTypes.get? name = some t → σ.Made doc (.customType name) t
  properties : ∀ name t, σ.properties.get? name = some t → σ.Made doc (.property name) t
  declared : ∀ name t, σ.properties.get? name = some t → ∃ q, doc.properties.get? name = some q ∧
    σ.BuiltAs name q t ∧ ∀ c, q.RefersTo c → σ.customTypes.get? c ≠ none
  nested : ∀ id t, σ.nested.get? id = some t → ∃ n : TypeName, n.id = id ∧ σ.Made doc n t
  resolved : ∀ id v, σ.resolver.resolved.get? id = some v →
    ∃ n : TypeName, n.id = id ∧ σ.Made doc n (.variant v) ∧ doc.Offers n v

/-! ## §3 Steps -/

/-- **The tables only grow.** -/
structure Grows (σ σ' : BuildState) : Prop where
  customTypes : ∀ name t, σ.customTypes.get? name = some t → σ'.customTypes.get? name = some t
  properties : ∀ name t, σ.properties.get? name = some t → σ'.properties.get? name = some t
  nested : ∀ id t, σ.nested.get? id = some t → σ'.nested.get? id = some t
  resolved : ∀ id v, σ.resolver.resolved.get? id = some v → σ'.resolver.resolved.get? id = some v

theorem Grows.refl (σ : BuildState) : σ.Grows σ :=
  ⟨fun _ _ h => h, fun _ _ h => h, fun _ _ h => h, fun _ _ h => h⟩

theorem Grows.trans (h : σ.Grows σ') (h' : σ'.Grows σ'') : σ.Grows σ'' :=
  ⟨fun k t hk => h'.customTypes k t (h.customTypes k t hk),
    fun k t hk => h'.properties k t (h.properties k t hk),
    fun k t hk => h'.nested k t (h.nested k t hk),
    fun k t hk => h'.resolved k t (h.resolved k t hk)⟩

theorem Knows.mono (h : σ.Grows σ') {n : TypeName} {u : PropertyType} (hk : σ.Knows doc n u) :
    σ'.Knows doc n u := by
  unfold Knows at hk ⊢
  cases horigin : n.origin with
  | customType =>
    rw [horigin] at hk
    exact h.customTypes _ _ hk
  | property =>
    rw [horigin] at hk
    rcases hk with hk | ⟨x, q, v, hq, hitems, hname, hu, hv⟩
    · exact .inl (h.properties _ _ hk)
    · exact .inr ⟨x, q, v, hq, hitems, hname, hu, h.resolved _ _ hv⟩
  | nested =>
    rw [horigin] at hk
    exact h.nested _ _ hk
  | event =>
    rw [horigin] at hk
    exact hk

theorem Known.mono (h : σ.Grows σ') {t : PropertyType} (ht : σ.Known doc t) : σ'.Known doc t :=
  fun u hu n hn => (ht u hu n hn).mono h

theorem Made.mono (h : σ.Grows σ') {n : TypeName} {t : PropertyType} (ht : σ.Made doc n t) :
    σ'.Made doc n t :=
  ⟨ht.name, fun u hu => (ht.parts u hu).mono h, ht.faultless⟩

theorem BuiltAs.mono (h : σ.Grows σ') {name : String} {q : Document.Property} {t : PropertyType}
    (ht : σ.BuiltAs name q t) : σ'.BuiltAs name q t := by
  refine ⟨fun hq => ?_, ht.single, ht.items⟩
  obtain ⟨v, hv, hresolved⟩ := ht.alternates hq
  exact ⟨v, hv, h.resolved _ _ hresolved⟩

/-- A type that is kept, with all within it. -/
theorem Made.known {n : TypeName} {t : PropertyType} (ht : σ.Made doc n t)
    (hk : σ.Knows doc n t) : σ.Known doc t := by
  intro u hu m hm
  rcases PropertyType.reaches_iff.mp hu with rfl | ⟨w, hw, hreach⟩
  · obtain rfl : m = n := Option.some.inj (hm.symm.trans ht.name)
    exact hk
  · exact ht.parts w hw u hreach m hm

/-- A type without a name is kept if its parts are. -/
theorem known_of_unnamed {t : PropertyType} (hname : t.name? = none)
    (hparts : ∀ u ∈ t.parts, σ.Known doc u) : σ.Known doc t := by
  intro u hu m hm
  rcases PropertyType.reaches_iff.mp hu with rfl | ⟨w, hw, hreach⟩
  · cases hname.symm.trans hm
  · exact hparts w hw u hreach m hm

theorem known_scalar (kind : ScalarKind) : σ.Known doc (.scalar kind) :=
  known_of_unnamed rfl fun _ h => absurd h List.not_mem_nil

theorem known_untyped (kind : UntypedKind) : σ.Known doc (.untyped kind) :=
  known_of_unnamed rfl fun _ h => absurd h List.not_mem_nil

theorem known_array {item : PropertyType} (h : σ.Known doc item) : σ.Known doc (.array item) :=
  known_of_unnamed rfl fun u hu => by
    obtain rfl : u = item := List.mem_singleton.mp hu
    exact h

/-- **A step of building** from a state to a sound one: the tables grow, and no custom type that is
being built is entered. -/
structure Step (doc : Document) (busy : List String) (σ σ' : BuildState) : Prop extends
    Grows σ σ' where
  sound : σ'.Sound doc
  busy : ∀ c ∈ busy, σ.customTypes.get? c = none → σ'.customTypes.get? c = none

theorem Step.refl (busy : List String) (h : σ.Sound doc) : σ.Step doc busy σ :=
  ⟨.refl σ, h, fun _ _ hc => hc⟩

theorem Step.trans (h : σ.Step doc busy σ') (h' : σ'.Step doc busy σ'') :
    σ.Step doc busy σ'' :=
  ⟨h.toGrows.trans h'.toGrows, h'.sound, fun c hc hnone => h'.busy c hc (h.busy c hc hnone)⟩

/-- A step with more custom types being built. -/
theorem Step.of_subset {fewer : List String} (h : σ.Step doc busy σ') (hsub : fewer ⊆ busy) :
    σ.Step doc fewer σ' :=
  ⟨h.toGrows, h.sound, fun c hc => h.busy c (hsub hc)⟩

/-! ## §4 Adding to the tables -/

/-- The tables stay sound when they grow by sound entries. -/
theorem Sound.of_grows (hσ : σ.Sound doc) (h : σ.Grows σ')
    (hcustom : ∀ name t, σ'.customTypes.get? name = some t →
      σ.customTypes.get? name = some t ∨ σ.Made doc (.customType name) t)
    (hproperty : ∀ name t, σ'.properties.get? name = some t → σ.properties.get? name = some t ∨
      σ.Made doc (.property name) t ∧ ∃ q, doc.properties.get? name = some q ∧
        σ.BuiltAs name q t ∧ ∀ c, q.RefersTo c → σ.customTypes.get? c ≠ none)
    (hnested : ∀ id t, σ'.nested.get? id = some t → σ.nested.get? id = some t ∨
      ∃ n : TypeName, n.id = id ∧ σ.Made doc n t)
    (hresolved : ∀ id v, σ'.resolver.resolved.get? id = some v →
      σ.resolver.resolved.get? id = some v ∨
        ∃ n : TypeName, n.id = id ∧ σ.Made doc n (.variant v) ∧ doc.Offers n v) :
    σ'.Sound doc := by
  have hbuilt : ∀ c, σ.customTypes.get? c ≠ none → σ'.customTypes.get? c ≠ none := by
    intro c hc
    obtain ⟨t, ht⟩ := Option.ne_none_iff_exists'.mp hc
    rw [h.customTypes c t ht]
    exact Option.some_ne_none t
  have hdeclared : ∀ name t q, σ.BuiltAs name q t → (∀ c, q.RefersTo c →
      σ.customTypes.get? c ≠ none) →
      σ'.BuiltAs name q t ∧ ∀ c, q.RefersTo c → σ'.customTypes.get? c ≠ none :=
    fun name t q hq hc => ⟨hq.mono h, fun c href => hbuilt c (hc c href)⟩
  refine ⟨fun name t ht => ?_, fun name t ht => ?_, fun name t ht => ?_, fun id t ht => ?_,
    fun id v hv => ?_⟩
  · rcases hcustom name t ht with hold | hnew
    · exact (hσ.customTypes name t hold).mono h
    · exact hnew.mono h
  · rcases hproperty name t ht with hold | ⟨hnew, -⟩
    · exact (hσ.properties name t hold).mono h
    · exact hnew.mono h
  · rcases hproperty name t ht with hold | ⟨-, q, hq, hbuiltAs, hrefs⟩
    · obtain ⟨q, hq, hbuiltAs, hrefs⟩ := hσ.declared name t hold
      exact ⟨q, hq, hdeclared name t q hbuiltAs hrefs⟩
    · exact ⟨q, hq, hdeclared name t q hbuiltAs hrefs⟩
  · obtain ⟨n, hn, hmade⟩ := (hnested id t ht).elim (hσ.nested id t) fun hnew => hnew
    exact ⟨n, hn, hmade.mono h⟩
  · obtain ⟨n, hn, hmade, hoffers⟩ := (hresolved id v hv).elim (hσ.resolved id v) fun hnew => hnew
    exact ⟨n, hn, hmade.mono h, hoffers⟩

/-- A custom type is entered when it is built. -/
theorem step_insert_customType (hσ : σ.Sound doc) {c : String} {t : PropertyType}
    (hnew : σ.customTypes.get? c = none) (hc : c ∉ busy) (ht : σ.Made doc (.customType c) t) :
    σ.Step doc busy { σ with customTypes := σ.customTypes.insert c t } := by
  have hgrows : σ.Grows { σ with customTypes := σ.customTypes.insert c t } :=
    ⟨fun _ _ h => Entries.get?_insert_of_new hnew h, fun _ _ h => h, fun _ _ h => h,
      fun _ _ h => h⟩
  refine ⟨hgrows, hσ.of_grows hgrows (fun name u hu => ?_) (fun _ _ h => .inl h)
    (fun _ _ h => .inl h) (fun _ _ h => .inl h), fun b hb hnone => ?_⟩
  · rcases Entries.of_get?_insert hu with ⟨rfl, rfl⟩ | hold
    · exact .inr ht
    · exact .inl hold
  · have hne : c ≠ b := fun heq => hc (heq ▸ hb)
    exact (Entries.get?_insert_of_ne _ t hne).trans hnone

/-- A property is entered when it is built. -/
theorem step_insert_property (hσ : σ.Sound doc) {name : String} {t : PropertyType}
    (hnew : σ.properties.get? name = none) (ht : σ.Made doc (.property name) t)
    {q : Document.Property} (hq : doc.properties.get? name = some q) (hbuilt : σ.BuiltAs name q t)
    (hrefs : ∀ c, q.RefersTo c → σ.customTypes.get? c ≠ none) :
    σ.Step doc busy { σ with properties := σ.properties.insert name t } := by
  have hgrows : σ.Grows { σ with properties := σ.properties.insert name t } :=
    ⟨fun _ _ h => h, fun _ _ h => Entries.get?_insert_of_new hnew h, fun _ _ h => h,
      fun _ _ h => h⟩
  refine ⟨hgrows, hσ.of_grows hgrows (fun _ _ h => .inl h) (fun other u hu => ?_)
    (fun _ _ h => .inl h) (fun _ _ h => .inl h), fun b _ hnone => hnone⟩
  rcases Entries.of_get?_insert hu with ⟨rfl, rfl⟩ | hold
  · exact .inr ⟨ht, q, hq, hbuilt, hrefs⟩
  · exact .inl hold

/-- A nested object is entered under its id. -/
theorem step_insert_nested (hσ : σ.Sound doc) {n : TypeName} {t : PropertyType}
    (hnew : σ.nested.get? n.id = none) (ht : σ.Made doc n t) :
    σ.Step doc busy { σ with nested := σ.nested.insert n.id t } := by
  have hgrows : σ.Grows { σ with nested := σ.nested.insert n.id t } :=
    ⟨fun _ _ h => h, fun _ _ h => h, fun _ _ h => Entries.get?_insert_of_new hnew h,
      fun _ _ h => h⟩
  refine ⟨hgrows, hσ.of_grows hgrows (fun _ _ h => .inl h) (fun _ _ h => .inl h)
    (fun id u hu => ?_) (fun _ _ h => .inl h), fun b _ hnone => hnone⟩
  rcases Entries.of_get?_insert hu with ⟨rfl, rfl⟩ | hold
  · exact .inr ⟨n, rfl, ht⟩
  · exact .inl hold

/-- A variant is entered under its id. -/
theorem step_insert_resolved (hσ : σ.Sound doc) {n : TypeName} {v : VariantType} (hits : Nat)
    (hnew : σ.resolver.resolved.get? n.id = none) (ht : σ.Made doc n (.variant v))
    (hoffers : doc.Offers n v) :
    σ.Step doc busy { σ with resolver := ⟨σ.resolver.resolved.insert n.id v, hits⟩ } := by
  have hgrows : σ.Grows { σ with resolver := ⟨σ.resolver.resolved.insert n.id v, hits⟩ } :=
    ⟨fun _ _ h => h, fun _ _ h => h, fun _ _ h => h,
      fun _ _ h => Entries.get?_insert_of_new hnew h⟩
  refine ⟨hgrows, hσ.of_grows hgrows (fun _ _ h => .inl h) (fun _ _ h => .inl h)
    (fun _ _ h => .inl h) (fun id u hu => ?_), fun b _ hnone => hnone⟩
  rcases Entries.of_get?_insert hu with ⟨rfl, rfl⟩ | hold
  · exact .inr ⟨n, rfl, ht, hoffers⟩
  · exact .inl hold

/-- That memory answered once more changes no table. -/
theorem step_hits (hσ : σ.Sound doc) (hits : Nat) :
    σ.Step doc busy { σ with resolver := ⟨σ.resolver.resolved, hits⟩ } := by
  have hgrows : σ.Grows { σ with resolver := ⟨σ.resolver.resolved, hits⟩ } :=
    ⟨fun _ _ h => h, fun _ _ h => h, fun _ _ h => h, fun _ _ h => h⟩
  exact ⟨hgrows, hσ.of_grows hgrows (fun _ _ h => .inl h) (fun _ _ h => .inl h)
    (fun _ _ h => .inl h) (fun _ _ h => .inl h), fun b _ hnone => hnone⟩

end BuildState

end TrackingPlan
