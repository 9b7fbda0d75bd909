import TrackingPlan.Proofs.Build.Model
import TrackingPlan.Proofs.Document.References

/-!
# References that are read are declared

A reference that building reads is looked up, and one that names nothing ends the build.  What was
built before is not built again, so the tables take part: they hold a declaration only after its
references were looked up (`BuildState.Checked`).  A step keeps this and, if it gives a result,
tells what it looked up on the way (`Build.Checks`).  So a document that can be built refers to
nothing that is missing, unless where building passes over it.

§1 steps · §2 references and properties · §3 objects · §4 custom types and rules · §5 the model.
-/

namespace TrackingPlan

namespace Document

/-- All of these references are declared. -/
abbrev Declared (doc : Document) (refs : List Reference) : Prop :=
  ∀ r ∈ refs, r.IsDeclared doc

theorem declared_nil {doc : Document} : doc.Declared [] :=
  fun _ h => absurd h List.not_mem_nil

theorem declared_append {doc : Document} {refs more : List Reference} (h : doc.Declared refs)
    (hmore : doc.Declared more) : doc.Declared (refs ++ more) :=
  fun r hr => (List.mem_append.mp hr).elim (h r) (hmore r)

/-- What is read of the custom type of this name was looked up. -/
def TypeRead (doc : Document) (name : String) : Prop :=
  ∀ t, doc.customTypes.get? name = some t → doc.Declared t.read

/-- What is read of the property of this key was looked up. -/
def PropertyRead (doc : Document) (key : String) : Prop :=
  ∀ q, doc.properties.get? key = some q → doc.Declared q.read

end Document

/-- **The tables hold a declaration only after its references were looked up.** -/
structure BuildState.Checked (doc : Document) (σ : BuildState) : Prop where
  customTypes : ∀ {name : String} {t : PropertyType}, σ.customTypes.get? name = some t →
    doc.TypeRead name
  properties : ∀ {key : String} {t : PropertyType}, σ.properties.get? key = some t →
    doc.PropertyRead key

namespace Build

open BuildState Document

variable {doc : Document} {α β : Type} {Q : α → Prop} {R : β → Prop}

/-! ## §1 Steps -/

/-- **What a step tells if it gives a result**: the tables are checked again, and the result is as
`Q` says. -/
def Checks (doc : Document) (Q : α → Prop) (m : Build α) : Prop :=
  ∀ σ σ' a, σ.Checked doc → m.run σ = .ok (a, σ') → σ'.Checked doc ∧ Q a

namespace Checks

variable {m : Build α}

theorem pure {a : α} (h : Q a) : Checks doc Q (pure a : Build α) := by
  intro σ σ' b hσ hrun
  obtain ⟨rfl, rfl⟩ := state_pure_eq_ok.mp hrun
  exact ⟨hσ, h⟩

theorem fail {e : SchemaError} : Checks doc Q (throw e : Build α) :=
  fun _ _ _ _ hrun => (nomatch hrun)

theorem lift {x : Except SchemaError α} (h : ∀ a, x = .ok a → Q a) :
    Checks doc Q (liftM x : Build α) := by
  intro σ σ' a hσ hrun
  obtain ⟨ha, rfl⟩ := state_lift_eq_ok.mp hrun
  exact ⟨hσ, h a ha⟩

/-- **One step after another**: the second knows what the first told. -/
theorem bind {f : α → Build β} (h : Checks doc Q m) (hf : ∀ a, Q a → Checks doc R (f a)) :
    Checks doc R (m >>= f) := by
  intro σ σ' b hσ hrun
  obtain ⟨a, σ₁, hfirst, hrest⟩ := state_bind_eq_ok.mp hrun
  obtain ⟨hσ₁, ha⟩ := h _ _ _ hσ hfirst
  exact hf a ha _ _ _ hσ₁ hrest

/-- A step that only makes something of what the one before gave. -/
theorem map_pure {g : α → β} (h : Checks doc Q m) (hg : ∀ a, Q a → R (g a)) :
    Checks doc R (m >>= fun a => Pure.pure (g a)) :=
  h.bind fun a ha => .pure (hg a ha)

/-- What is told implies less. -/
theorem weaken {Q' : α → Prop} (h : Checks doc Q m) (hQ : ∀ a, Q a → Q' a) : Checks doc Q' m := by
  intro σ σ' a hσ hrun
  obtain ⟨hσ', ha⟩ := h σ σ' a hσ hrun
  exact ⟨hσ', hQ a ha⟩

/-- A step that reads the tables first. -/
theorem get {f : BuildState → Build β} (h : ∀ σ, σ.Checked doc → Checks doc R (f σ)) :
    Checks doc R (MonadState.get >>= f) :=
  fun σ _ _ hσ hrun => h σ hσ _ _ _ hσ hrun

/-- A step that changes the tables and keeps them checked. -/
theorem modify {put : BuildState → BuildState} (h : ∀ σ, σ.Checked doc → (put σ).Checked doc) :
    Checks doc (fun _ => True) (modify put : Build PUnit) := by
  intro σ σ' _ hσ hrun
  obtain rfl := state_modify_eq_ok.mp hrun
  exact ⟨h σ hσ, trivial⟩

/-- What lists values is an enumeration, and what does not goes on without any. -/
theorem enumerated {owner : String} {config : Option TypeConfig}
    {f : Option (List Literal) → Build β}
    (hsome : ∀ values, (config.bind (·.values)).isSome = true → Checks doc R (f (some values)))
    (hnone : (config.bind (·.values)).isSome = false → Checks doc R (f none)) :
    Checks doc R (liftM (enumValues owner config) >>= f) := by
  refine (Checks.lift (Q := fun listed => enumValues owner config = .ok listed) fun _ h => h).bind
    fun listed h => ?_
  cases listed with
  | some values => exact hsome values (enumValues_eq_some h).1
  | none =>
    refine hnone ?_
    rw [enumValues_eq_none h]
    rfl

end Checks

/-! ## §2 References and properties -/

variable {custom : String → Build PropertyType}

/-- Building a custom type keeps the tables checked and looks up what that type refers to. -/
abbrev ChecksTypes (doc : Document) (custom : String → Build PropertyType) : Prop :=
  ∀ name, Checks doc (fun _ => doc.TypeRead name) (custom name)

/-- **A reference to a type is looked up.** -/
theorem typeRef_checks (hcustom : ChecksTypes doc custom) (owner : String) (ref : TypeRef) :
    Checks doc (fun _ => doc.Declared (typeReferences [ref])) (typeRef doc custom owner ref) := by
  cases ref with
  | custom name =>
    show Checks doc _ (if doc.customTypes.has name then custom name else throw _)
    split
    · rename_i hhas
      intro σ σ' t hσ hrun
      refine ⟨(hcustom name _ _ _ hσ hrun).1, fun r hr => ?_⟩
      obtain rfl := List.mem_singleton.mp hr
      exact Entries.has_eq_true_iff.mp hhas
    · exact .fail
  | _ => exact .pure declared_nil

/-- A custom type is no kind of bare values. -/
theorem valueKind_ne_ok {owner name : String} {kind : ValueKind} :
    valueKind owner (.custom name) ≠ .ok kind :=
  nofun

theorem resolve_checks (node : AlternationNode) : Checks doc (fun _ => True) (resolve node) := by
  unfold resolve
  refine .get fun σ hσ => (Checks.lift (Q := fun _ => True) fun _ _ => trivial).bind fun _ _ => ?_
  intro σ₁ σ' t _ hrun
  obtain ⟨_, _, hset, hrun⟩ := state_bind_eq_ok.mp hrun
  obtain rfl := state_set_eq_ok.mp hset
  obtain ⟨-, rfl⟩ := state_pure_eq_ok.mp hrun
  exact ⟨⟨hσ.customTypes, hσ.properties⟩, trivial⟩

/-- **What alternates refers to no custom type**, for each of its kinds is one of bare values. -/
theorem kindAlternation_checks (owner : String) (name : TypeName) (description : Option String)
    (refs : List TypeRef) :
    Checks doc (fun _ => doc.Declared (typeReferences refs))
      (kindAlternation owner name description refs) := by
  unfold kindAlternation
  have hkinds : Checks doc (fun _ => doc.Declared (typeReferences refs))
      (liftM (refs.mapM (valueKind owner)) : Build _) := by
    refine .lift fun kinds hkinds r hr => ?_
    obtain ⟨c, hc, rfl⟩ := mem_typeReferences.mp hr
    obtain ⟨kind, hkind⟩ := exists_of_mapM_eq_ok hkinds hc
    exact absurd hkind valueKind_ne_ok
  intro σ σ' t hσ hrun
  obtain ⟨_, σ₁, hlift, hrun⟩ := state_bind_eq_ok.mp hrun
  obtain ⟨hσ₁, hdeclared⟩ := hkinds _ _ _ hσ hlift
  exact ⟨(resolve_checks _ _ _ _ hσ₁ hrun).1, hdeclared⟩

theorem arrayItem_checks (hcustom : ChecksTypes doc custom) (name : String)
    (itemTypes : List TypeRef) :
    Checks doc (fun _ => doc.Declared (typeReferences itemTypes))
      (arrayItem doc custom name itemTypes) := by
  unfold arrayItem
  rw [← typeReferences_filter itemTypes]
  split
  · rename_i hnone
    rw [hnone]
    exact .pure declared_nil
  · rename_i ref hone
    rw [hone]
    exact typeRef_checks hcustom name ref
  · exact kindAlternation_checks _ _ _ _

/-- **A property is built after what is read of it was looked up.** -/
theorem propertyShape_checks (hcustom : ChecksTypes doc custom) (key : String)
    (q : Document.Property) :
    Checks doc (fun _ => doc.Declared q.read) (propertyShape doc custom key q) := by
  unfold propertyShape
  refine .enumerated (fun values henum => ?_) fun hnot => ?_
  · -- of an enumeration nothing is read
    have hread : q.read = [] := if_pos henum
    rw [hread]
    exact (Checks.lift fun _ _ => trivial).map_pure fun _ (_ : True) => declared_nil
  · have hread : q.read = typeReferences q.kinds ++
        if q.kinds = [.array] then typeReferences q.itemTypes else [] :=
      if_neg (by rw [Document.Property.isEnumeration, hnot]; exact Bool.false_ne_true)
    dsimp only
    split
    · rename_i hkinds
      have hkinds : q.kinds = [] := hkinds
      rw [hread, hkinds]
      exact .pure declared_nil
    · rename_i hkinds
      have hkinds : q.kinds = [.array] := hkinds
      rw [hread, hkinds, if_pos rfl]
      exact (arrayItem_checks hcustom key q.itemTypes).map_pure fun _ hitems => hitems
    · rename_i ref hnotarray hkinds
      have hkinds : q.kinds = [ref] := hkinds
      rw [hread, hkinds, if_neg fun h => hnotarray (List.cons.inj h).1, List.append_nil]
      exact (typeRef_checks hcustom key ref).map_pure fun _ href => href
    · rename_i hnotarray _
      have hnotarray : q.kinds ≠ [.array] := hnotarray
      rw [hread, if_neg hnotarray, List.append_nil]
      exact kindAlternation_checks _ _ _ _

/-- **A property that is asked for is entered**, now or before. -/
theorem property_checks (hcustom : ChecksTypes doc custom) (key : String) :
    Checks doc (fun _ => doc.PropertyRead key) (property doc custom key) := by
  unfold property
  refine .get fun σ hσ => ?_
  cases hkept : σ.properties.get? key with
  | some t => exact .pure (hσ.properties hkept)
  | none =>
    cases hq : doc.properties.get? key with
    | none => exact .fail
    | some q =>
      refine (propertyShape_checks hcustom key q).bind fun t hlooked => ?_
      have hread : doc.PropertyRead key := by
        intro q' hq'
        obtain rfl := Option.some.inj (hq.symm.trans hq')
        exact hlooked
      -- the property is entered only here, after its references were looked up
      refine Checks.bind (Checks.modify fun σ₁ hσ₁ => ?_) fun _ _ => .pure hread
      refine ⟨hσ₁.customTypes, fun hu => ?_⟩
      rcases Entries.of_get?_insert hu with ⟨rfl, -⟩ | hold
      · exact hread
      · exact hσ₁.properties hold

/-! ## §3 Objects -/

theorem nestedShape_checks (name : TypeName) (shape : PropertyType) :
    Checks doc (fun _ => True) (nestedShape name shape) := by
  unfold nestedShape
  refine .get fun σ hσ => ?_
  cases σ.nested.get? name.id with
  | none =>
    intro σ₁ σ' t _ hrun
    obtain ⟨_, _, hset, hrun⟩ := state_bind_eq_ok.mp hrun
    obtain rfl := state_set_eq_ok.mp hset
    obtain ⟨-, rfl⟩ := state_pure_eq_ok.mp hrun
    exact ⟨⟨hσ.customTypes, hσ.properties⟩, trivial⟩
  | some existing =>
    dsimp only
    split
    · exact .pure trivial
    · exact .fail

mutual
/-- **All properties that a schema uses are looked up**, at any depth. -/
theorem plainObject_checks (hcustom : ChecksTypes doc custom) :
    ∀ (schema : ObjectSchema) (name : TypeName) (description : Option String),
      Checks doc (fun _ => doc.Declared schema.references)
        (plainObject doc custom schema name description)
  | ⟨[], additional⟩, name, description => .pure declared_nil
  | ⟨use :: rest, additional⟩, name, description => by
    rw [plainObject]
    refine (objectFields_checks hcustom (use :: rest) name).bind fun fields hdeclared => ?_
    exact (Checks.lift fun _ _ => trivial).map_pure fun _ (_ : True) => hdeclared
termination_by structural schema => schema

theorem objectFields_checks (hcustom : ChecksTypes doc custom) :
    ∀ (uses : List (String × PropertyUse)) (owner : TypeName),
      Checks doc (fun _ => doc.Declared (useReferences uses)) (objectFields doc custom uses owner)
  | [], owner => .pure declared_nil
  | (key, ⟨required, schema⟩) :: rest, owner => by
    rw [objectFields]
    cases hq : doc.properties.get? key with
    | none => exact .fail
    | some q =>
      have hkey : (Reference.property key).IsDeclared doc :=
        Entries.get?_isSome_iff.mp (by rw [hq]; rfl)
      refine (property_checks hcustom key).bind fun declared _ => ?_
      refine (nestedObject_checks hcustom schema owner key q.description declared).bind
        fun type hnested => ?_
      refine (objectFields_checks hcustom rest owner).map_pure fun fields hrest => ?_
      rw [useReferences]
      exact List.forall_mem_cons.mpr ⟨hkey, declared_append hnested hrest⟩
termination_by structural uses => uses

theorem nestedObject_checks (hcustom : ChecksTypes doc custom) :
    ∀ (schema : Option ObjectSchema) (owner : TypeName) (key : String)
      (description : Option String) (declared : PropertyType),
      Checks doc (fun _ => doc.Declared (nestedReferences schema))
        (nestedObject doc custom schema owner key description declared)
  | none, owner, key, description, declared => .pure declared_nil
  | some schema, owner, key, description, declared => by
    rw [nestedObject, nestedReferences]
    refine (plainObject_checks hcustom schema _ description).bind fun shape hdeclared => ?_
    exact (nestedShape_checks _ shape).map_pure fun _ _ => hdeclared
termination_by structural schema => schema
end

/-- The fields of a schema, however the objects nested there are named. -/
theorem schemaFields_checks (hcustom : ChecksTypes doc custom) (schema : ObjectSchema)
    (owner : TypeName) :
    Checks doc (fun _ => doc.Declared schema.references)
      (objectFields doc custom schema.properties owner) := by
  rw [ObjectSchema.references_eq]
  exact objectFields_checks hcustom schema.properties owner

theorem taggedShapes_checks (hcustom : ChecksTypes doc custom) (name : TypeName)
    (cases : List Document.Case) :
    Checks doc (fun _ => doc.Declared (schemaReferences (cases.map (·.schema))))
      (taggedShapes doc custom name cases) := by
  induction cases with
  | nil => exact .pure declared_nil
  | cons c rest ih =>
    rw [taggedShapes]
    refine (Checks.lift fun _ _ => trivial).bind fun tags (_ : True) => ?_
    refine (schemaFields_checks hcustom c.schema _).bind fun fields hown => ?_
    exact ih.map_pure fun shapes hrest => declared_append hown hrest

/-- **A variant block is followed in its base, its cases and its default.** -/
theorem variantObject_checks (hcustom : ChecksTypes doc custom) (name : TypeName)
    (description : Option String) (schema : ObjectSchema) (block : Document.Variant) :
    Checks doc (fun _ => doc.Declared (schemaReferences (schema :: block.schemas)))
      (variantObject doc custom name description schema block) := by
  have hall : doc.Declared schema.references →
      doc.Declared (schemaReferences (block.cases.map (·.schema))) →
      doc.Declared (schemaReferences block.defaultSchema.toList) →
      doc.Declared (schemaReferences (schema :: block.schemas)) := by
    intro hbase hcases hdefault
    simp only [schemaReferences, Variant.schemas, List.flatMap_cons, List.flatMap_append]
    exact declared_append hbase (declared_append hcases hdefault)
  unfold variantObject
  dsimp only
  split
  · exact .fail
  · refine (schemaFields_checks hcustom schema name).bind fun base hbase => ?_
    refine (taggedShapes_checks hcustom name block.cases).bind fun shapes hcases => ?_
    have hresolve : ∀ node, doc.Declared (schemaReferences block.defaultSchema.toList) →
        Checks doc (fun _ => doc.Declared (schemaReferences (schema :: block.schemas)))
          (resolve node) :=
      fun node hdefault => (resolve_checks node).weaken fun _ _ => hall hbase hcases hdefault
    cases hdefault : block.defaultSchema with
    | none =>
      refine hresolve _ ?_
      rw [hdefault]
      exact declared_nil
    | some schema =>
      refine (schemaFields_checks hcustom schema _).bind fun fields hfields => hresolve _ ?_
      rw [hdefault]
      exact declared_append hfields declared_nil

/-- **An object is built after all that its schemas use was looked up.** -/
theorem objectShape_checks (hcustom : ChecksTypes doc custom) (name : TypeName)
    (description : Option String) (schema : ObjectSchema) (blocks : List Document.Variant) :
    Checks doc
      (fun _ => doc.Declared (schemaReferences (schema :: blocks.flatMap Variant.schemas)))
      (objectShape doc custom name description schema blocks) := by
  unfold objectShape
  split
  · refine (plainObject_checks hcustom schema name description).weaken fun _ hdeclared => ?_
    exact declared_append hdeclared declared_nil
  · rename_i block
    rw [List.flatMap_singleton]
    exact variantObject_checks hcustom name description schema block
  · exact .fail

/-! ## §4 Custom types and rules -/

/-- The schemas of a custom type, with one that uses nothing where it has none of its own. -/
theorem schemaReferences_getD (t : Document.CustomType) :
    schemaReferences (t.schema.getD .empty :: t.variants.flatMap Variant.schemas) =
      schemaReferences t.schemas := by
  unfold Document.CustomType.schemas schemaReferences
  cases t.schema with
  | none => rfl
  | some schema => rfl

/-- **A custom type is built after what is read of it was looked up.** -/
theorem customShape_checks (hcustom : ChecksTypes doc custom) (name : String)
    (t : Document.CustomType) :
    Checks doc (fun _ => doc.Declared t.read) (customShape doc custom name t) := by
  unfold customShape
  refine .enumerated (fun values henum => ?_) fun hnot => ?_
  · have hread : t.read = [] := if_pos henum
    rw [hread]
    exact (Checks.lift fun _ _ => trivial).map_pure fun _ (_ : True) => declared_nil
  · have hread : t.read = typeReferences [t.type] ++
        ((if t.type = .array then typeReferences t.itemType.toList else []) ++
          if t.type = .object then schemaReferences t.schemas else []) :=
      if_neg (by rw [Document.CustomType.isEnumeration, hnot]; exact Bool.false_ne_true)
    dsimp only
    split
    · exact .fail
    · -- what is read besides the type itself depends on what the type is
      split
      · rename_i hobject
        have hnotarray : t.type ≠ .array := by rw [hobject]; exact nofun
        rw [hread, if_neg hnotarray, if_pos hobject, hobject, ← schemaReferences_getD]
        exact objectShape_checks hcustom _ _ _ _
      · rename_i harray
        have hnotobject : t.type ≠ .object := by rw [harray]; exact nofun
        rw [hread, if_pos harray, if_neg hnotobject, List.append_nil, harray]
        split
        · rename_i hitem
          rw [hitem]
          exact .pure declared_nil
        · rename_i ref hitem
          rw [hitem]
          exact (typeRef_checks hcustom name ref).map_pure fun _ href => href
      · rename_i hnotobject hnotarray
        rw [hread, if_neg hnotarray, if_neg hnotobject, List.append_nil, List.append_nil]
        exact (typeRef_checks hcustom name t.type).map_pure fun _ href => href

/-- **A custom type that is asked for is entered**, now or before. -/
theorem customType_checks (doc : Document) (left : Nat) :
    ∀ inProgress, ChecksTypes doc (customType doc left inProgress) := by
  induction left with
  | zero =>
    intro inProgress name
    unfold customType
    refine .get fun σ hσ => ?_
    cases hkept : σ.customTypes.get? name with
    | some t => exact .pure (hσ.customTypes hkept)
    | none =>
      -- nothing is left to go down with, so a type that is not kept is refused
      dsimp only
      split
      · exact .fail
      · exact .fail
  | succ left ih =>
    intro inProgress name
    unfold customType
    refine .get fun σ hσ => ?_
    cases hkept : σ.customTypes.get? name with
    | some t => exact .pure (hσ.customTypes hkept)
    | none =>
      cases ht : doc.customTypes.get? name with
      | none => exact .fail
      | some t =>
        dsimp only
        split
        · exact .fail
        · refine (customShape_checks (ih _) name t).bind fun u hlooked => ?_
          have hread : doc.TypeRead name := by
            intro t' ht'
            obtain rfl := Option.some.inj (ht.symm.trans ht')
            exact hlooked
          -- as for a property: the type is entered after its references were looked up
          refine Checks.bind (Checks.modify fun σ₁ hσ₁ => ?_) fun _ _ => .pure hread
          refine ⟨fun hu => ?_, hσ₁.properties⟩
          rcases Entries.of_get?_insert hu with ⟨rfl, -⟩ | hold
          · exact hread
          · exact hσ₁.customTypes hold

theorem declaredType_checks (doc : Document) : ChecksTypes doc (declaredType doc) :=
  customType_checks doc doc.customTypes.length []

/-- **A rule is built after all that its schemas use was looked up.** -/
theorem rule_checks (r : Document.Rule) :
    Checks doc (fun _ => doc.Declared r.references) (rule doc r) := by
  unfold rule
  dsimp only
  split
  · -- without properties and variants there is nothing to look up
    rename_i hempty
    rw [Bool.and_eq_true, List.isEmpty_iff, List.isEmpty_iff] at hempty
    refine .pure fun ref href => ?_
    rw [Document.Rule.references, hempty.1, List.flatMap_nil, schemaReferences,
      List.flatMap_singleton, ObjectSchema.references_eq, hempty.2] at href
    exact absurd href List.not_mem_nil
  · exact (objectShape_checks (declaredType_checks doc) _ _ _ _).map_pure fun _ h => h

/-! ## §5 The model -/

/-- What the step for each name tells is told of all names. -/
theorem named_checks {build : String → Build PropertyType} {P : String → Prop}
    (hbuild : ∀ name, Checks doc (fun _ => P name) (build name)) (names : List String) :
    Checks doc (fun _ => ∀ name ∈ names, P name) (named build names) := by
  induction names with
  | nil => exact .pure fun name hname => absurd hname List.not_mem_nil
  | cons name rest ih =>
    rw [named]
    refine (hbuild name).bind fun t hfirst => ih.map_pure fun _ hrest => ?_
    exact List.forall_mem_cons.mpr ⟨hfirst, hrest⟩

theorem rules_checks (rules : List Document.Rule) :
    Checks doc (fun _ => ∀ r ∈ rules, doc.Declared r.references) (rules.mapM (rule doc)) := by
  induction rules with
  | nil => exact .pure fun r hr => absurd hr List.not_mem_nil
  | cons r rest ih =>
    rw [List.mapM_cons]
    refine (rule_checks r).bind fun built hfirst => ih.map_pure fun _ hrest => ?_
    exact List.forall_mem_cons.mpr ⟨hfirst, hrest⟩

/-- **Building the model looks up all that it reads.** -/
theorem schema_checks (doc : Document) :
    Checks doc (fun _ => ∀ r, doc.Reads r → r.IsDeclared doc) (schema doc) := by
  refine (named_checks (declaredType_checks doc) doc.customTypes.keys).bind fun _ htypes => ?_
  refine (named_checks (property_checks (declaredType_checks doc)) doc.properties.keys).bind
    fun _ hproperties => ?_
  refine (rules_checks doc.rules).map_pure fun _ hrules r hr => ?_
  cases hr with
  | customType ht hr =>
    exact htypes _ (Entries.get?_isSome_iff.mp (by rw [ht]; rfl)) _ ht r hr
  | property hq hr =>
    exact hproperties _ (Entries.get?_isSome_iff.mp (by rw [hq]; rfl)) _ hq r hr
  | rule hmem hr => exact hrules _ hmem r hr

end Build

theorem BuildState.checked_start (doc : Document) : BuildState.Checked doc {} :=
  ⟨nofun, nofun⟩

open Document

/-- A level whose values are listed, so that its type is passed over. -/
def Document.levels (customTypes : Entries Document.CustomType) : Document where
  name := "levels"
  metadata := .unknown
  customTypes := customTypes
  properties :=
    [("level", ⟨none, [.custom "Level"], [], some ⟨some [.string "low", .string "high"]⟩⟩)]
  rules := [⟨⟨.track, "Level Reached", none⟩, .properties, ⟨[("level", ⟨true, none⟩)], false⟩, []⟩]

/-- Levels are text. -/
def Document.levelType : Document.CustomType where
  description := none
  type := .string
  itemType := none
  config := none
  schema := none
  variants := []

namespace Schema

/-- **What is built refers to what is declared, unless where building passes over it**: each
reference that is read names something that is declared, and all references do if those do that are
passed over. -/
theorem references_declared {doc : Document} {s : Schema} (h : ofDocument doc = .ok s) :
    (∀ r, doc.Reads r → r.IsDeclared doc) ∧
      ((∀ r, doc.Refers r → r.IsDeclared doc) ↔ ∀ r, doc.PassesOver r → r.IsDeclared doc) := by
  obtain ⟨σ, hrun⟩ := ofDocument_eq_ok_iff.mp h
  obtain ⟨-, hread⟩ := Build.schema_checks doc _ _ _ (BuildState.checked_start doc) hrun
  refine ⟨hread, fun hall r hr => hall r (refers_iff.mpr (.inr hr)), fun hover r hr => ?_⟩
  rcases refers_iff.mp hr with hr | hr
  · exact hread r hr
  · exact hover r hr

theorem references_declared_levels :
    (ofDocument (levels [("Level", levelType)])).isOk = true ∧
      ∀ r, (levels [("Level", levelType)]).Refers r →
        r.IsDeclared (levels [("Level", levelType)]) := by
  refine ⟨by decide +kernel, (references_declared rfl).2.mpr fun r hr => ?_⟩
  cases hr with
  | customType ht hr =>
    obtain ⟨-, rfl⟩ := Prod.mk.inj (List.mem_singleton.mp (Entries.mem_of_get? ht))
    exact absurd hr List.not_mem_nil
  | property hq hr =>
    obtain ⟨-, rfl⟩ := Prod.mk.inj (List.mem_singleton.mp (Entries.mem_of_get? hq))
    obtain rfl := List.mem_singleton.mp hr
    decide

/-- **A custom type that is not declared can be referred to**: the property lists its values, and
its type is passed over. -/
theorem levels_refer_to_nothing :
    (ofDocument (levels [])).isOk = true ∧ (levels []).Refers (.customType "Level") ∧
      ¬(Reference.customType "Level").IsDeclared (levels []) := by
  have hlevel : (levels []).properties.get? "level" = some _ := rfl
  exact ⟨by decide +kernel, .property hlevel (by decide), by decide⟩

end Schema

end TrackingPlan
