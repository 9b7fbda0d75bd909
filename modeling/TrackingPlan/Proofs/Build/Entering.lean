import TrackingPlan.Proofs.Build.Order
import TrackingPlan.Proofs.Build.Properties
import Mathlib.Data.Finset.Card

/-!
# What each step of building enters

A property is entered with the custom types it leads to, an object with the properties that its
schemas mention, and a custom type with all that it points to (`Build.customType_enters`).  Those in
progress lead to the one that is built, so meeting one of them again closes a cycle; and each is
declared and begun once, so there are never more of them than are declared.

§1 references and properties · §2 objects · §3 custom types.
-/

namespace TrackingPlan.Build

open BuildState

variable {doc : Document} {α β : Type} {K K' : Set Entry} {Q : α → Prop} {R : β → Prop}

/-! ## §1 References and properties -/

variable {custom : String → Build PropertyType}

theorem run_get_bind (f : BuildState → Build α) (σ : BuildState) :
    (get >>= f).run σ = (f σ).run σ :=
  rfl

theorem isResolved_aliasOf (name : TypeName) (description : Option String)
    (target : PropertyType) : (aliasOf name description target).IsResolved :=
  nofun

/-- What lists values is an enumeration, and what does not goes on without any. -/
theorem Enters.enumerated {owner : String} {config : Option Document.TypeConfig}
    {f : Option (List Literal) → Build β}
    (hsome : ∀ values, (config.bind (·.values)).isSome = true → Enters doc K R (f (some values)))
    (hnone : (config.bind (·.values)).isSome = false → Enters doc K R (f none)) :
    Enters doc K R (liftM (enumValues owner config) >>= f) := by
  have hlisted : Enters doc ∅ (fun listed => enumValues owner config = .ok listed)
      (liftM (enumValues owner config) : Build _) := .lift (.enumValues owner config) fun _ h => h
  refine (hlisted.bind fun listed h => ?_).of_subset Set.subset_union_right
  cases listed with
  | some values => exact hsome values (enumValues_eq_some h).1
  | none =>
    refine hnone ?_
    rw [enumValues_eq_none h]
    rfl

theorem typeRef_enters {owner : String} {ref : TypeRef}
    (hcustom : ∀ c, ref = .custom c → EntersType doc custom c) :
    Enters doc {e | ∃ c, ref = .custom c ∧ e = .customType c} (fun _ => True)
      (typeRef doc custom owner ref) := by
  cases ref with
  | custom c =>
    show Enters _ _ _ (if doc.customTypes.has c then custom c else throw _)
    split
    · refine (hcustom c rfl).weaken ?_ fun _ _ => trivial
      rintro e ⟨d, hd, rfl⟩
      exact congrArg Entry.customType (TypeRef.custom.inj hd).symm
    · exact .fail nofun
  | _ =>
    refine (Enters.pure trivial).of_subset ?_
    rintro e ⟨d, hd, -⟩
    cases hd

/-- **What is resolved is remembered**, now or from before. -/
theorem resolve_enters (node : AlternationNode) :
    Enters doc ∅ PropertyType.IsResolved (resolve node) := by
  have hrun : ∀ σ : BuildState, (resolve node).run σ = (σ.resolver.resolve node).map
      fun found => (.variant found.1, { σ with resolver := found.2 }) := by
    intro σ
    unfold resolve
    rw [run_get_bind]
    cases σ.resolver.resolve node <;> rfl
  constructor
  · intro σ σ' t hσ h
    rw [hrun, except_map_eq_ok] at h
    obtain ⟨⟨v, resolver⟩, hresolve, h⟩ := h
    obtain ⟨rfl, rfl⟩ := Prod.mk.inj h
    obtain ⟨hv, hresolved⟩ := hσ.resolver hresolve
    refine ⟨{ hσ with resolved := hresolved }, ?_, fun w hw => PropertyType.variant.inj hw ▸ hv⟩
    exact fun e he => he.resolve_right (Set.notMem_empty e)
  · intro σ name _ h
    rw [hrun] at h
    cases hresolve : σ.resolver.resolve node with
    | ok found =>
      rw [hresolve] at h
      cases h
    | error e =>
      rw [hresolve] at h
      obtain rfl := Except.error.inj h
      exact absurd hresolve (NeverCyclic.resolver _ node name)

theorem kindAlternation_enters (owner : String) (name : TypeName) (description : Option String)
    (refs : List TypeRef) :
    Enters doc ∅ PropertyType.IsResolved (kindAlternation owner name description refs) :=
  ((Enters.check (.mapM (.valueKind owner) refs)).bind fun _ _ => resolve_enters _).of_subset
    (Set.empty_subset _)

theorem arrayItem_enters {name : String} {itemTypes : List TypeRef}
    (hcustom : ∀ c, itemTypes.filter (· != .null) = [.custom c] → EntersType doc custom c) :
    Enters doc {e | ∃ c, itemTypes.filter (· != .null) = [.custom c] ∧ e = .customType c}
      (fun _ => True) (arrayItem doc custom name itemTypes) := by
  unfold arrayItem
  split
  · rename_i hnone
    refine (Enters.pure trivial).of_subset ?_
    rintro e ⟨c, hc, -⟩
    cases hnone.symm.trans hc
  · rename_i ref hone
    refine (typeRef_enters fun c hc => hcustom c (hc ▸ hone)).of_subset ?_
    rintro e ⟨c, hc, rfl⟩
    exact ⟨c, (List.cons.inj (hone.symm.trans hc)).1, rfl⟩
  · rename_i hmany
    refine (kindAlternation_enters _ _ _ _).weaken ?_ fun _ _ => trivial
    rintro e ⟨c, hc, -⟩
    exact absurd hc (hmany _)

/-- **A property enters the custom types it is made of.** -/
theorem propertyShape_enters (name : String) {q : Document.Property}
    (hcustom : ∀ c, q.RefersTo c → EntersType doc custom c) :
    Enters doc {e | ∃ c, q.RefersTo c ∧ e = .customType c} PropertyType.IsResolved
      (propertyShape doc custom name q) := by
  unfold propertyShape
  refine .enumerated (fun values henum => ?_) fun hnot => ?_
  · refine ((Enters.check (.ofValues _ _ _)).map_pure fun _ _ => nofun).of_subset ?_
    rintro e ⟨c, href, -⟩
    cases henum.symm.trans href.1
  · dsimp only
    split
    · rename_i hkinds
      refine (Enters.pure (isResolved_aliasOf _ _ _)).of_subset ?_
      rintro e ⟨c, ⟨-, hc | ⟨hc, -⟩⟩, -⟩ <;> cases hkinds.symm.trans hc
    · rename_i hkinds
      refine ((arrayItem_enters fun c hc => hcustom c ⟨hnot, .inr ⟨hkinds, hc⟩⟩).map_pure
        fun _ _ => isResolved_aliasOf _ _ _).of_subset ?_
      rintro e ⟨c, ⟨-, hc | ⟨-, hc⟩⟩, rfl⟩
      · cases hkinds.symm.trans hc
      · exact ⟨c, hc, rfl⟩
    · rename_i ref hnotarray hkinds
      refine ((typeRef_enters fun c hc => hcustom c ⟨hnot, .inl (hc ▸ hkinds)⟩).map_pure
        fun _ _ => isResolved_aliasOf _ _ _).of_subset ?_
      rintro e ⟨c, ⟨-, hc | ⟨hc, -⟩⟩, rfl⟩
      · exact ⟨c, (List.cons.inj (hkinds.symm.trans hc)).1, rfl⟩
      · exact absurd (List.cons.inj (hkinds.symm.trans hc)).1 hnotarray
    · rename_i hnotarray hnotone
      refine (kindAlternation_enters _ _ _ _).of_subset ?_
      rintro e ⟨c, ⟨-, hc | ⟨hc, -⟩⟩, -⟩
      · exact absurd hc (hnotone _)
      · exact absurd hc hnotarray

/-- **A property is entered with what it leads to.** -/
theorem property_enters {key : String}
    (hcustom : ∀ c, doc.LeadsTo key c → EntersType doc custom c) :
    Enters doc {.property key} PropertyType.IsResolved (property doc custom key) := by
  refine .of_run fun σ hσ => ?_
  unfold property
  rw [run_get_bind]
  cases hkept : σ.properties.get? key with
  | some t =>
    refine .inl ⟨t, rfl, ?_, hσ.properties hkept⟩
    rintro e rfl
    exact ⟨t, hkept⟩
  | none =>
    cases hq : doc.properties.get? key with
    | none => exact .inr ⟨_, rfl, .fail nofun⟩
    | some q =>
      have hshape := propertyShape_enters key fun c hc => hcustom c ⟨q, hq, hc⟩
      refine .inr ⟨_, rfl, hshape.insert fun hσ' ht hhas => ⟨hσ'.insert_property ht ?_,
        fun e he => has_insert_property_iff.mpr he⟩⟩
      rintro c ⟨q', hq', href⟩
      obtain rfl := Option.some.inj (hq.symm.trans hq')
      exact hhas _ ⟨c, href, rfl⟩

/-! ## §2 Objects -/

/-- The entries of the properties with these names. -/
def keyed (P : String → Prop) : Set Entry :=
  {e | ∃ key, P key ∧ e = .property key}

theorem keyed_subset {P : String → Prop} (h : ∀ key, P key → .property key ∈ K) : keyed P ⊆ K := by
  rintro e ⟨key, hkey, rfl⟩
  exact h key hkey

/-- Building enters each custom type that one of the properties leads to. -/
abbrev EntersLed (doc : Document) (custom : String → Build PropertyType) (P : String → Prop) :
    Prop :=
  ∀ key c, P key → doc.LeadsTo key c → EntersType doc custom c

theorem nestedShape_enters {name : TypeName} {shape : PropertyType} (h : shape.IsResolved) :
    Enters doc ∅ PropertyType.IsResolved (nestedShape name shape) := by
  refine .of_run fun σ hσ => ?_
  unfold nestedShape
  rw [run_get_bind]
  cases hkept : σ.nested.get? name.id with
  | some existing =>
    dsimp only
    split
    · exact .inr ⟨_, rfl, .pure (hσ.nested hkept)⟩
    · exact .inr ⟨_, rfl, .fail nofun⟩
  | none =>
    refine .inr ⟨pure shape >>= fun t => do
        modify fun s => { s with nested := s.nested.insert name.id t }
        return t, rfl, (Enters.pure h).insert fun hσ' ht _ => ?_⟩
    refine ⟨{ hσ' with nested := fun hu => ?_ }, fun e he => he.resolve_right (Set.notMem_empty e)⟩
    rcases Entries.of_get?_insert hu with ⟨-, rfl⟩ | hold
    · exact ht
    · exact hσ'.nested hold

mutual
/-- **An object without variants enters the properties that its schema mentions.** -/
theorem plainObject_enters : ∀ (schema : Document.ObjectSchema) (name : TypeName)
    (description : Option String), EntersLed doc custom (schema.Mentions ·) →
    Enters doc (keyed (schema.Mentions ·)) PropertyType.IsResolved
      (plainObject doc custom schema name description)
  | ⟨[], additional⟩, name, description, _ => by
    rw [plainObject]
    refine (Enters.pure (isResolved_aliasOf _ _ _)).of_subset (keyed_subset fun key h => ?_)
    obtain ⟨use, huse, -⟩ := Document.ObjectSchema.mentions_iff.mp h
    cases huse
  | ⟨use :: rest, additional⟩, name, description, hcustom => by
    rw [plainObject]
    have hfields := objectFields_enters (use :: rest) name
      fun key c hkey => hcustom key c (Document.ObjectSchema.mentions_iff.mpr hkey)
    refine (hfields.bind fun fields _ => (Enters.check (.ofFields _ _ _)).map_pure
      fun _ _ => nofun).of_subset (keyed_subset fun key h => ?_)
    exact .inl ⟨key, Document.ObjectSchema.mentions_iff.mp h, rfl⟩
termination_by structural schema => schema

/-- **Fields enter the properties that their uses mention.** -/
theorem objectFields_enters : ∀ (uses : List (String × Document.PropertyUse)) (owner : TypeName),
    EntersLed doc custom (fun key => ∃ use ∈ uses, Document.UseMentions key use) →
    Enters doc (keyed fun key => ∃ use ∈ uses, Document.UseMentions key use) (fun _ => True)
      (objectFields doc custom uses owner)
  | [], owner, _ => by
    refine (Enters.pure trivial).of_subset (keyed_subset ?_)
    rintro key ⟨use, huse, -⟩
    cases huse
  | (name, ⟨required, schema⟩) :: rest, owner, hcustom => by
    rw [objectFields]
    split
    · exact .fail nofun
    · have hown : ∀ c, doc.LeadsTo name c → EntersType doc custom c :=
        fun c => hcustom name c ⟨_, List.mem_cons_self, .inl rfl⟩
      have hnested := fun description declared =>
        nestedObject_enters schema owner name description declared
          fun key c hkey => hcustom key c ⟨_, List.mem_cons_self, .inr hkey⟩
      have hrest := objectFields_enters rest owner
        fun key c ⟨use, huse, h⟩ => hcustom key c ⟨use, List.mem_cons_of_mem _ huse, h⟩
      refine ((property_enters hown).bind fun _ _ => (hnested _ _).bind fun _ _ =>
        hrest.map_pure fun _ _ => trivial).of_subset (keyed_subset ?_)
      rintro key ⟨use, huse, h⟩
      rcases List.mem_cons.mp huse with rfl | hmem
      · rcases h with rfl | hinner
        · exact .inl rfl
        · exact .inr (.inl ⟨key, hinner, rfl⟩)
      · exact .inr (.inr ⟨key, ⟨use, hmem, h⟩, rfl⟩)
termination_by structural uses => uses

/-- **A nested object enters the properties that its schema mentions.** -/
theorem nestedObject_enters : ∀ (schema : Option Document.ObjectSchema) (owner : TypeName)
    (key : String) (description : Option String) (declared : PropertyType),
    EntersLed doc custom (fun k => ∃ inner, schema = some inner ∧ inner.Mentions k) →
    Enters doc (keyed fun k => ∃ inner, schema = some inner ∧ inner.Mentions k) (fun _ => True)
      (nestedObject doc custom schema owner key description declared)
  | none, owner, key, description, declared, _ => by
    refine (Enters.pure trivial).of_subset (keyed_subset ?_)
    rintro k ⟨inner, hinner, -⟩
    cases hinner
  | some schema, owner, key, description, declared, hcustom => by
    rw [nestedObject]
    have hshape := plainObject_enters schema (.nested owner key) description
      fun k c hk => hcustom k c ⟨schema, rfl, hk⟩
    refine (hshape.bind fun shape h => (nestedShape_enters h).map_pure
      fun _ _ => trivial).of_subset (keyed_subset ?_)
    rintro k ⟨inner, hinner, h⟩
    obtain rfl := Option.some.inj hinner
    exact .inl ⟨k, h, rfl⟩
termination_by structural schema => schema
end

theorem taggedShapes_enters (name : TypeName) (cases : List Document.Case)
    (hcustom : EntersLed doc custom fun key => ∃ c ∈ cases, c.schema.Mentions key) :
    Enters doc (keyed fun key => ∃ c ∈ cases, c.schema.Mentions key) (fun _ => True)
      (taggedShapes doc custom name cases) := by
  induction cases with
  | nil =>
    refine (Enters.pure trivial).of_subset (keyed_subset ?_)
    rintro key ⟨c, hc, -⟩
    cases hc
  | cons c rest ih =>
    have hown := fun owner => objectFields_enters c.schema.properties owner fun key d hkey =>
      hcustom key d ⟨c, List.mem_cons_self, Document.ObjectSchema.mentions_iff.mpr hkey⟩
    have hrest := ih fun key d ⟨c', hc', h⟩ => hcustom key d ⟨c', List.mem_cons_of_mem c hc', h⟩
    rw [taggedShapes]
    refine ((Enters.check (.caseTags name c)).bind fun _ _ => (hown _).bind fun _ _ =>
      hrest.map_pure fun _ _ => trivial).of_subset (keyed_subset ?_)
    rintro key ⟨c', hc', h⟩
    rcases List.mem_cons.mp hc' with rfl | hmem
    · exact .inr (.inl ⟨key, Document.ObjectSchema.mentions_iff.mp h, rfl⟩)
    · exact .inr (.inr ⟨key, ⟨c', hmem, h⟩, rfl⟩)

theorem variantObject_enters (name : TypeName) (description : Option String)
    (schema : Document.ObjectSchema) (block : Document.Variant)
    (hcustom : EntersLed doc custom fun key => ∃ s ∈ schema :: block.schemas, s.Mentions key) :
    Enters doc (keyed fun key => ∃ s ∈ schema :: block.schemas, s.Mentions key)
      PropertyType.IsResolved (variantObject doc custom name description schema block) := by
  have hfields : ∀ s ∈ schema :: block.schemas, ∀ owner, Enters doc (keyed (s.Mentions ·))
      (fun _ => True) (objectFields doc custom s.properties owner) := by
    intro s hs owner
    refine (objectFields_enters s.properties owner fun key c hkey => hcustom key c
      ⟨s, hs, Document.ObjectSchema.mentions_iff.mpr hkey⟩).of_subset (keyed_subset ?_)
    exact fun key h => ⟨key, Document.ObjectSchema.mentions_iff.mp h, rfl⟩
  have hcases := taggedShapes_enters name block.cases fun key d ⟨c, hc, h⟩ =>
    hcustom key d ⟨c.schema, List.mem_cons_of_mem _ (List.mem_append_left _
      (List.mem_map_of_mem hc)), h⟩
  unfold variantObject
  dsimp only
  split
  · exact .fail nofun
  · refine ((hfields schema List.mem_cons_self _).bind fun base _ => hcases.bind fun shapes _ =>
      (?_ : Enters doc (keyed fun key => ∃ s ∈ block.defaultSchema.toList, s.Mentions key)
        PropertyType.IsResolved _)).of_subset (keyed_subset ?_)
    · split
      · rename_i hnone
        refine (resolve_enters _).of_subset (keyed_subset ?_)
        rintro key ⟨s, hs, -⟩
        rw [hnone] at hs
        cases hs
      · rename_i s hsome
        have hmem : s ∈ block.defaultSchema.toList := Option.mem_toList.mpr hsome
        refine ((hfields s (List.mem_cons_of_mem _ (List.mem_append_right _ hmem)) _).bind
          fun _ _ => resolve_enters _).of_subset (keyed_subset ?_)
        rintro key ⟨s', hs', h⟩
        rw [hsome] at hs'
        obtain rfl := List.mem_singleton.mp hs'
        exact .inl ⟨key, h, rfl⟩
    · rintro key ⟨s, hs, h⟩
      rcases List.mem_cons.mp hs with rfl | hs
      · exact .inl ⟨key, h, rfl⟩
      · rcases List.mem_append.mp hs with hs | hs
        · obtain ⟨c, hc, rfl⟩ := List.mem_map.mp hs
          exact .inr (.inl ⟨key, ⟨c, hc, h⟩, rfl⟩)
        · exact .inr (.inr ⟨key, ⟨s, hs, h⟩, rfl⟩)

/-- **An object enters the properties that its schemas mention.** -/
theorem objectShape_enters (name : TypeName) (description : Option String)
    (schema : Document.ObjectSchema) (blocks : List Document.Variant)
    (hcustom : EntersLed doc custom fun key =>
      ∃ s ∈ schema :: blocks.flatMap Document.Variant.schemas, s.Mentions key) :
    Enters doc
      (keyed fun key => ∃ s ∈ schema :: blocks.flatMap Document.Variant.schemas, s.Mentions key)
      PropertyType.IsResolved (objectShape doc custom name description schema blocks) := by
  unfold objectShape
  split
  · refine (plainObject_enters schema name description fun key c h => hcustom key c
      ⟨schema, List.mem_cons_self, h⟩).of_subset (keyed_subset ?_)
    rintro key ⟨s, hs, h⟩
    obtain rfl := List.mem_singleton.mp hs
    exact ⟨key, h, rfl⟩
  · rename_i block
    rw [List.flatMap_singleton] at hcustom ⊢
    exact variantObject_enters name description schema block hcustom
  · exact .fail nofun

/-! ## §3 Custom types -/

/-- The schemas of a custom type, with one that mentions nothing where it has none of its own. -/
theorem exists_schemas_mentions_iff {t : Document.CustomType} {key : String} :
    (∃ s ∈ t.schema.getD .empty :: t.variants.flatMap Document.Variant.schemas, s.Mentions key) ↔
      ∃ s ∈ t.schemas, s.Mentions key := by
  have hempty : ¬Document.ObjectSchema.empty.Mentions key := by
    intro h
    obtain ⟨use, huse, -⟩ := Document.ObjectSchema.mentions_iff.mp h
    cases huse
  unfold Document.CustomType.schemas
  cases t.schema with
  | none => simp [hempty]
  | some schema => simp

/-- **A custom type is built after all that it points to.** -/
theorem customShape_enters {c : String} {t : Document.CustomType}
    (ht : doc.customTypes.get? c = some t)
    (hcustom : ∀ d, doc.PointsTo c d → EntersType doc custom d) :
    Enters doc {e | ∃ d, doc.PointsTo c d ∧ e = .customType d} PropertyType.IsResolved
      (customShape doc custom c t) := by
  have hpoints : ∀ d, doc.PointsTo c d → t.isEnumeration = false ∧ t.RefersTo doc d := by
    rintro d ⟨t', ht', h⟩
    obtain rfl := Option.some.inj (ht.symm.trans ht')
    exact h
  unfold customShape
  refine .enumerated (fun values henum => ?_) fun henum => ?_
  · refine ((Enters.check (.ofValues _ _ _)).map_pure fun _ _ => nofun).of_subset ?_
    rintro e ⟨d, hd, -⟩
    cases henum.symm.trans (hpoints d hd).1
  · dsimp only
    split
    · exact .fail nofun
    · split
      · -- an object: what its schemas mention leads to what it points to
        rename_i hobject
        refine Enters.led (objectShape_enters _ _ _ _ fun key d hkey hlead => ?_) ?_
        · obtain ⟨s, hs, h⟩ := exists_schemas_mentions_iff.mp hkey
          exact hcustom d ⟨t, ht, henum, .property hobject hs h hlead⟩
        · rintro e ⟨d, hd, rfl⟩
          cases (hpoints d hd).2 with
          | name h => cases hobject.symm.trans h
          | items h => cases hobject.symm.trans h
          | property _ hs h hlead =>
            exact ⟨_, d, ⟨_, exists_schemas_mentions_iff.mpr ⟨_, hs, h⟩, rfl⟩, hlead, rfl⟩
      · rename_i harray
        split
        · rename_i hnone
          refine (Enters.pure (isResolved_aliasOf _ _ _)).of_subset ?_
          rintro e ⟨d, hd, -⟩
          cases (hpoints d hd).2 with
          | name h => cases harray.symm.trans h
          | items _ h => cases hnone.symm.trans h
          | property h => cases harray.symm.trans h
        · rename_i ref hitem
          refine ((typeRef_enters fun d hd => hcustom d ⟨t, ht, henum, .items harray
            (hd ▸ hitem)⟩).map_pure fun _ _ => isResolved_aliasOf _ _ _).of_subset ?_
          rintro e ⟨d, hd, rfl⟩
          cases (hpoints d hd).2 with
          | name h => cases harray.symm.trans h
          | items _ h => exact ⟨d, Option.some.inj (hitem.symm.trans h), rfl⟩
          | property h => cases harray.symm.trans h
      · rename_i hnotobject hnotarray
        refine ((typeRef_enters fun d hd => hcustom d ⟨t, ht, henum, .name hd⟩).map_pure
          fun _ _ => isResolved_aliasOf _ _ _).of_subset ?_
        rintro e ⟨d, hd, rfl⟩
        cases (hpoints d hd).2 with
        | name h => exact ⟨d, h, rfl⟩
        | items h => exact absurd h hnotarray
        | property h => exact absurd h hnotobject

/-- **One call of the recursion over custom types**, with the calls it makes given by `next`. -/
def customCall (doc : Document) (next : List String → String → Build PropertyType)
    (inProgress : List String) (name : String) : Build PropertyType := do
  match (← get).customTypes.get? name with
  | some t => return t
  | none =>
    match doc.customTypes.get? name with
    | none => throw (.unknownType name (TypeRef.custom name).text)
    | some declared =>
      if inProgress.contains name then
        throw (.cyclicType name)
      let t ← customShape doc (next (name :: inProgress)) name declared
      modify fun s => { s with customTypes := s.customTypes.insert name t }
      return t

theorem customType_succ (doc : Document) (left : Nat) :
    customType doc (left + 1) = customCall doc (customType doc left) :=
  rfl

theorem customCall_enters {next : List String → String → Build PropertyType}
    {inProgress : List String} {c : String} (hbusy : c ∈ inProgress → doc.Circular)
    (hnext : c ∉ inProgress → ∀ d, doc.PointsTo c d → EntersType doc (next (c :: inProgress)) d) :
    EntersType doc (customCall doc next inProgress) c := by
  refine .of_run fun σ hσ => ?_
  unfold customCall
  rw [run_get_bind]
  cases hkept : σ.customTypes.get? c with
  | some t =>
    refine .inl ⟨t, rfl, ?_, hσ.customTypes hkept⟩
    rintro e rfl
    exact ⟨t, hkept⟩
  | none =>
    cases ht : doc.customTypes.get? c with
    | none => exact .inr ⟨_, rfl, .fail nofun⟩
    | some t =>
      dsimp only
      split
      · rename_i hmem
        exact .inr ⟨_, rfl, .fail fun _ _ => hbusy (List.contains_iff_mem.mp hmem)⟩
      · rename_i hidle
        have hshape := customShape_enters ht
          (hnext fun hmem => hidle (List.contains_iff_mem.mpr hmem))
        exact .inr ⟨_, rfl, hshape.insert fun hσ' hu hhas => ⟨hσ'.insert_customType hu
          fun d hd => hhas _ ⟨d, hd, rfl⟩, fun e he => has_insert_customType_iff.mpr he⟩⟩

/-- How many custom types can still be begun. -/
def remaining (doc : Document) (inProgress : List String) : Nat :=
  (doc.customTypes.keys.toFinset \ inProgress.toFinset).card

theorem remaining_le (doc : Document) (inProgress : List String) :
    remaining doc inProgress ≤ doc.customTypes.length := by
  calc remaining doc inProgress
      ≤ doc.customTypes.keys.toFinset.card := Finset.card_le_card Finset.sdiff_subset
    _ ≤ doc.customTypes.keys.length := doc.customTypes.keys.toFinset_card_le
    _ = doc.customTypes.length := List.length_map _

/-- Beginning a declared one leaves fewer. -/
theorem remaining_cons_lt {inProgress : List String} {c : String}
    (hc : c ∈ doc.customTypes.keys) (hidle : c ∉ inProgress) :
    remaining doc (c :: inProgress) < remaining doc inProgress := by
  have hmem : ∀ (busy : List String) d, d ∈ doc.customTypes.keys.toFinset \ busy.toFinset ↔
      d ∈ doc.customTypes.keys ∧ d ∉ busy := by
    intro busy d
    rw [Finset.mem_sdiff, List.mem_toFinset, List.mem_toFinset]
  refine Finset.card_lt_card ((Finset.ssubset_iff_of_subset fun d hd => ?_).mpr ⟨c, ?_, ?_⟩)
  · obtain ⟨hd, hother⟩ := (hmem _ d).mp hd
    exact (hmem _ d).mpr ⟨hd, fun h => hother (List.mem_cons_of_mem c h)⟩
  · exact (hmem _ c).mpr ⟨hc, hidle⟩
  · exact fun h => ((hmem _ c).mp h).2 List.mem_cons_self

/-- With none remaining, a declared one is in progress. -/
theorem mem_of_remaining_eq_zero {inProgress : List String} (h : remaining doc inProgress = 0)
    {c : String} (hc : c ∈ doc.customTypes.keys) : c ∈ inProgress := by
  by_contra hidle
  have hlt := remaining_cons_lt hc hidle
  omega

/-- Where all that is declared is in progress, a call makes no other. -/
theorem customType_zero (next : List String → String → Build PropertyType)
    {inProgress : List String} (h : remaining doc inProgress = 0) (c : String) :
    customType doc 0 inProgress c = customCall doc next inProgress c := by
  unfold customType customCall
  refine bind_congr fun σ => ?_
  cases σ.customTypes.get? c with
  | some t => rfl
  | none =>
    dsimp only
    rw [Entries.has_eq_isSome]
    cases ht : doc.customTypes.get? c with
    | none => rfl
    | some t =>
      have hdeclared : c ∈ doc.customTypes.keys := Entries.get?_isSome_iff.mp (by rw [ht]; rfl)
      have hbusy := List.contains_iff_mem.mpr (mem_of_remaining_eq_zero h hdeclared)
      show (throw (.cyclicType c) : Build PropertyType) = if inProgress.contains c then _ else _
      rw [if_pos hbusy]
      rfl

/-- **Building a custom type enters it**, and reports a cycle only if there is one: those in
progress lead to it, so meeting one of them again closes a cycle. -/
theorem customType_enters (left : Nat) : ∀ (inProgress : List String) (c : String),
    remaining doc inProgress ≤ left →
    (∀ a ∈ inProgress, Relation.TransGen doc.PointsTo a c) →
    EntersType doc (customType doc left inProgress) c := by
  induction left with
  | zero =>
    intro inProgress c hleft hpath
    -- none can be begun: what is declared is in progress, and what is not points nowhere
    have hnone := Nat.le_zero.mp hleft
    show Enters doc _ _ (customType doc 0 inProgress c)
    rw [customType_zero (customType doc 0) hnone c]
    refine customCall_enters (fun hmem => ⟨c, hpath c hmem⟩) fun hidle d hd => ?_
    exact absurd (mem_of_remaining_eq_zero hnone hd.mem_keys) hidle
  | succ left ih =>
    intro inProgress c hleft hpath
    rw [customType_succ]
    refine customCall_enters (fun hmem => ⟨c, hpath c hmem⟩) fun hidle d hd => ?_
    have hfewer := remaining_cons_lt hd.mem_keys hidle
    refine ih (c :: inProgress) d (by omega) fun a ha => ?_
    rcases List.mem_cons.mp ha with rfl | hmem
    · exact .single hd
    · exact (hpath a hmem).tail hd

theorem declaredType_enters (doc : Document) (c : String) :
    EntersType doc (declaredType doc) c :=
  customType_enters _ [] c (remaining_le doc []) fun _ h => absurd h List.not_mem_nil

end TrackingPlan.Build
