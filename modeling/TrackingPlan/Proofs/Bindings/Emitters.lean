import TrackingPlan.Proofs.Bindings.Settled
import TrackingPlan.Proofs.Schema.TypeName

/-!
# What every emitter asks for

An emitter over a list runs its step for each element, so it settles because the step does, and
against settled names its result is made element by element.  Everything later modules know of the
emitters is said here: that each settles, and what each is when it is settled.

§1 lists, one by one · §2 every emitter settles · §3 members and declarations · §4 the code that
writes values · §5 the wrapper, and the items of types · §6 a run.
-/

namespace TrackingPlan.Bindings.Emit

open Naming (Registry)

variable {R : Registry}

/-! ## §1 Lists, one by one -/

/-- The declaration of one case of an enumeration. -/
def enumCaseDecl (c : EnumCase) : Emit EnumCaseDecl := do
  let name ← caseIdentifier c.name
  return ⟨" Wire value " ++ ticked c.value.text ++ ".", name⟩

/-- The statement that writes one field, with the identifier that it reads. -/
def fieldInsert (owner : String) (f : FieldLayout) : Emit (Identifier × Insert) := do
  let name ← fieldIdentifier owner f.key
  return (name, .field f.key name f.required)

/-- The declaration of a case, once it has its name. -/
def caseBody (v : VariantType) (c : VariantCase) (name : Identifier) : Emit CaseDecl :=
  match c.tag with
  | .kind _ =>
    match c.fields with
    | [wrapped] => do return .wrapped (caseDocs c) name (← typeExpr wrapped.type)
    | _ => reject (.invalidVariant v.name.name (.wrapsNotOne c.name))
  | _ =>
    match v.discriminator with
    | none => reject (.invalidVariant v.name.name (.noDiscriminator c.name))
    | some d => do
      let fields ← fieldDecls (caseOwner v.name c.name) c.fields
      if c.isDefault then
        let last ← discriminatorDecl (caseOwner v.name c.name) d
        return .fields (caseDocs c) name (fields ++ [last])
      else
        return .fields (caseDocs c) name fields

theorem caseDecl_eq (v : VariantType) (c : VariantCase) :
    caseDecl v c = caseIdentifier c.name >>= caseBody v c :=
  rfl

theorem fieldDecls_eq (owner : String) (fields : List Field) :
    fieldDecls owner fields = fields.mapM (fieldDecl owner) := by
  induction fields with
  | nil => rfl
  | cons f rest ih =>
    rw [List.mapM_cons, ← ih]
    rfl

theorem caseDecls_eq (v : VariantType) (cases : List VariantCase) :
    caseDecls v cases = cases.mapM (caseDecl v) := by
  induction cases with
  | nil => rfl
  | cons c rest ih =>
    rw [List.mapM_cons, ← ih]
    rfl

theorem enumCaseDecls_eq (cases : List EnumCase) :
    enumCaseDecls cases = cases.mapM enumCaseDecl := by
  induction cases with
  | nil => rfl
  | cons c rest ih =>
    rw [List.mapM_cons, ← ih]
    simp [enumCaseDecls, enumCaseDecl]

theorem fieldInserts_eq (owner : String) (fields : List FieldLayout) :
    fieldInserts owner fields = fields.mapM (fieldInsert owner) := by
  induction fields with
  | nil => rfl
  | cons f rest ih =>
    rw [List.mapM_cons, ← ih]
    simp [fieldInserts, fieldInsert]

theorem caseIdentifiers_eq (names : List String) :
    caseIdentifiers names = names.mapM caseIdentifier := by
  induction names with
  | nil => rfl
  | cons name rest ih =>
    rw [List.mapM_cons, ← ih]
    rfl

/-- **The methods are those of the rules whose part their call has**, and the other rules are
counted. -/
theorem methods_eq (rules : List Rule) :
    methods rules = (fun ms => (ms, (rules.filter (!·.isValid)).length)) <$>
      (rules.filter Rule.isValid).mapM method := by
  induction rules with
  | nil => rfl
  | cons r rest ih =>
    rw [methods, ih]
    cases hr : r.isValid with
    | true => simp [hr]
    | false => simp [hr]

/-- The items of some types joined, in order. -/
def joined (groups : List TypeItems) : TypeItems :=
  groups.foldr .append .none

theorem joined_items (groups : List TypeItems) :
    (joined groups).items = (groups.map TypeItems.items).flatten := by
  induction groups with
  | nil => rfl
  | cons group rest ih =>
    rw [List.map_cons, List.flatten_cons, ← ih]
    rfl

theorem allTypeItems_eq (layouts : Layouts) (types : List PropertyType) :
    allTypeItems layouts types = joined <$> types.mapM (typeItems layouts) := by
  induction types with
  | nil => rfl
  | cons t rest ih =>
    rw [List.mapM_cons, allTypeItems, ih]
    simp [joined]

/-! ## §2 Every emitter settles -/

namespace Settles

@[simp]
theorem fieldDecl (owner : String) (f : Field) : (fieldDecl owner f).Settles := by
  simp [Emit.fieldDecl]

@[simp]
theorem fieldDecls (owner : String) (fields : List Field) : (fieldDecls owner fields).Settles := by
  rw [fieldDecls_eq]
  exact .mapM (Settles.fieldDecl owner) fields

@[simp]
theorem discriminatorDecl (owner : String) (d : Discriminator) :
    (discriminatorDecl owner d).Settles := by
  simp [Emit.discriminatorDecl]

@[simp]
theorem caseBody (v : VariantType) (c : VariantCase) (name : Identifier) :
    (caseBody v c name).Settles := by
  unfold Emit.caseBody
  split
  · split <;> simp
  · split
    · simp
    · refine .bind (.fieldDecls _ _) fun fields => ?_
      split <;> simp

@[simp]
theorem caseDecl (v : VariantType) (c : VariantCase) : (caseDecl v c).Settles := by
  rw [caseDecl_eq]
  exact .bind (.caseIdentifier c.name) (Settles.caseBody v c)

@[simp]
theorem caseDecls (v : VariantType) (cases : List VariantCase) : (caseDecls v cases).Settles := by
  rw [caseDecls_eq]
  exact .mapM (Settles.caseDecl v) cases

@[simp]
theorem enumCaseDecl (c : EnumCase) : (enumCaseDecl c).Settles := by
  simp [Emit.enumCaseDecl]

@[simp]
theorem enumCaseDecls (cases : List EnumCase) : (enumCaseDecls cases).Settles := by
  rw [enumCaseDecls_eq]
  exact .mapM Settles.enumCaseDecl cases

theorem declare? {t : PropertyType} {x : Emit Declaration} (h : declare? t = some x) :
    x.Settles := by
  cases t with
  | scalar kind => cases h
  | array item => cases h
  | untyped kind => cases h
  | aliasType a =>
    obtain rfl := Option.some.inj h
    simp [declareAlias]
  | record r =>
    obtain rfl := Option.some.inj h
    simp [declareRecord]
  | enumeration e =>
    obtain rfl := Option.some.inj h
    simp [declareEnum]
  | variant v =>
    obtain rfl := Option.some.inj h
    simp [declareVariant]

@[simp]
theorem fieldInsert (owner : String) (f : FieldLayout) : (fieldInsert owner f).Settles := by
  simp [Emit.fieldInsert]

@[simp]
theorem fieldInserts (owner : String) (fields : List FieldLayout) :
    (fieldInserts owner fields).Settles := by
  rw [fieldInserts_eq]
  exact .mapM (Settles.fieldInsert owner) fields

@[simp]
theorem objectArm (variant : TypeName) (case : String) (fields : List FieldLayout) (key : String)
    (slot : DiscriminatorSlot) : (objectArm variant case fields key slot).Settles := by
  refine .bind (.caseIdentifier case) fun name => .bind (.fieldInserts _ fields) fun own => ?_
  cases slot <;> simp

@[simp]
theorem objectArms (variant : TypeName) (cases : List CaseLayout) :
    (objectArms variant cases).Settles := by
  induction cases with
  | nil => exact .pure []
  | cons c rest ih => cases c <;> simp [Emit.objectArms, ih]

@[simp]
theorem caseIdentifiers (names : List String) : (caseIdentifiers names).Settles := by
  rw [caseIdentifiers_eq]
  exact .mapM Settles.caseIdentifier names

@[simp]
theorem encodeImpl (layout : TypeLayout) : (encodeImpl layout).Settles := by
  cases layout with
  | record r => simp [Emit.encodeImpl]
  | enumeration name cases => simp [Emit.encodeImpl]
  | variant v =>
    refine .bind (.typeIdentifier _) fun name => ?_
    split <;> simp

@[simp]
theorem typeItems (layouts : Layouts) (t : PropertyType) : (typeItems layouts t).Settles := by
  unfold Emit.typeItems
  split
  · rename_i declare name hdeclare hname
    refine .bind (.declare? hdeclare) fun d => ?_
    split <;> simp
  · exact .pure _

@[simp]
theorem allTypeItems (layouts : Layouts) (types : List PropertyType) :
    (allTypeItems layouts types).Settles := by
  rw [allTypeItems_eq]
  exact .map (.mapM (Settles.typeItems layouts) types) joined

@[simp]
theorem reserveBuiltins (names : List String) : (reserveBuiltins names).Settles := by
  induction names with
  | nil => exact .pure ()
  | cons name rest ih => exact .bind (.methodIdentifier _ _) fun _ => ih

@[simp]
theorem argument (payload : Payload) : (argument payload).Settles := by
  cases payload <;> simp [Emit.argument]

@[simp]
theorem method (r : Rule) : (method r).Settles := by
  simp [Emit.method]

@[simp]
theorem methods (rules : List Rule) : (methods rules).Settles := by
  rw [methods_eq]
  exact .map (.mapM Settles.method _) _

@[simp]
theorem wrapper (s : Schema) (client : Identifier) (platform generatorVersion : String)
    (metadata : PlanMetadata) :
    (wrapper s client platform generatorVersion metadata).Settles := by
  simp [Emit.wrapper]

end Settles

/-! ## §3 Members and declarations -/

/-- The identifier of a member is what was registered for its id. -/
theorem settled_memberIdentifier_iff {scope id plan : String} {i : Identifier} :
    (register id scope (Naming.memberName plan) >>= fun assigned =>
      identifier (Identifier.ofMember? assigned) assigned).Settled R i ↔
      (id ≠ "" ∧ scope ≠ "" ∧ Naming.memberName plan ≠ "") ∧
        ∃ text, R.get? id scope = some text ∧ Identifier.ofMember? text = some i := by
  rw [settled_bind_iff (.register id scope _) (fun assigned => .identifier _ assigned)]
  simp only [settled_register_iff, settled_identifier_iff, and_assoc, exists_and_left]

/-- **The identifier of a field** is what was registered for its key, under its owner. -/
theorem settled_fieldIdentifier_iff {owner key : String} {i : Identifier} :
    (fieldIdentifier owner key).Settled R i ↔ (key ≠ "" ∧ Naming.memberName key ≠ "") ∧
      ∃ text, R.get? key (fieldScope owner) = some text ∧ Identifier.ofMember? text = some i := by
  have hscope : fieldScope owner ≠ "" := by simp [fieldScope]
  rw [fieldIdentifier, settled_memberIdentifier_iff]
  simp only [hscope, ne_eq, not_false_eq_true, true_and]

/-- **The identifier of a method** is what was registered for its id. -/
theorem settled_methodIdentifier_iff {id name : String} {i : Identifier} :
    (methodIdentifier id name).Settled R i ↔ (id ≠ "" ∧ Naming.memberName name ≠ "") ∧
      ∃ text, R.get? id methodScope = some text ∧ Identifier.ofMember? text = some i := by
  have hscope : methodScope ≠ "" := by decide
  rw [methodIdentifier, settled_memberIdentifier_iff]
  simp only [hscope, ne_eq, not_false_eq_true, true_and]

theorem settled_fieldDecl_iff {owner : String} {f : Field} {d : FieldDecl} :
    (fieldDecl owner f).Settled R d ↔ ∃ name, (fieldIdentifier owner f.key).Settled R name ∧
      ∃ type, (typeExpr f.type).Settled R type ∧
        ⟨docLines f.description, name, type, f.required⟩ = d := by
  simp [fieldDecl]

theorem settled_fieldDecls_iff {owner : String} {fields : List Field} {ds : List FieldDecl} :
    (fieldDecls owner fields).Settled R ds ↔
      List.Forall₂ (fun f d => (fieldDecl owner f).Settled R d) fields ds := by
  rw [fieldDecls_eq, settled_mapM_iff (Settles.fieldDecl owner)]

theorem settled_discriminatorDecl_iff {owner : String} {disc : Discriminator} {d : FieldDecl} :
    (discriminatorDecl owner disc).Settled R d ↔
      ∃ name, (fieldIdentifier owner disc.key).Settled R name ∧
        ∃ type, (typeExpr disc.type).Settled R type ∧
          ⟨docLines disc.description, name, type, true⟩ = d := by
  simp [discriminatorDecl]

/-- **The declaration of a case**, by how the case fits its variant. -/
inductive CaseSettled (R : Registry) (v : VariantType) (c : VariantCase) (name : Identifier) :
    CaseDecl → Prop
  | wrapped {k : ValueKind} {f : Field} {type : TypeExpr} : c.tag = .kind k → c.fields = [f] →
      (typeExpr f.type).Settled R type → CaseSettled R v c name (.wrapped (caseDocs c) name type)
  | tagged {disc : Discriminator} {fields : List FieldDecl} : (∀ k, c.tag ≠ .kind k) →
      v.discriminator = some disc → c.isDefault = false →
      (fieldDecls (caseOwner v.name c.name) c.fields).Settled R fields →
      CaseSettled R v c name (.fields (caseDocs c) name fields)
  | default {disc : Discriminator} {fields : List FieldDecl} {last : FieldDecl} :
      c.tag = .fallback → v.discriminator = some disc →
      (fieldDecls (caseOwner v.name c.name) c.fields).Settled R fields →
      (discriminatorDecl (caseOwner v.name c.name) disc).Settled R last →
      CaseSettled R v c name (.fields (caseDocs c) name (fields ++ [last]))

theorem caseSettled_of_settled {v : VariantType} {c : VariantCase} {d : CaseDecl}
    (h : (caseDecl v c).Settled R d) :
    ∃ name, Identifier.ofText? c.name = some name ∧ CaseSettled R v c name d := by
  rw [caseDecl_eq, settled_bind_iff (.caseIdentifier c.name) (Settles.caseBody v c)] at h
  obtain ⟨name, hname, h⟩ := h
  have hname : Identifier.ofText? c.name = some name := settled_identifier_iff.mp hname
  unfold caseBody at h
  split at h
  · rename_i k htag
    split at h
    · rename_i f hf
      obtain ⟨type, htype, rfl⟩ := by simpa using h
      exact ⟨name, hname, .wrapped htag hf htype⟩
    · exact absurd h not_settled_reject
  · rename_i htag
    split at h
    · exact absurd h not_settled_reject
    · rename_i disc hdisc
      cases hdefault : c.isDefault with
      | true =>
        have hfallback : c.tag = .fallback := by simpa [VariantCase.isDefault] using hdefault
        obtain ⟨fields, hfields, last, hlast, rfl⟩ := by simpa [hdefault] using h
        exact ⟨name, hname, .default hfallback hdisc hfields hlast⟩
      | false =>
        obtain ⟨fields, hfields, rfl⟩ := by simpa [hdefault] using h
        exact ⟨name, hname, .tagged htag hdisc hdefault hfields⟩

theorem settled_caseDecls_iff {v : VariantType} {cases : List VariantCase} {ds : List CaseDecl} :
    (caseDecls v cases).Settled R ds ↔
      List.Forall₂ (fun c d => (caseDecl v c).Settled R d) cases ds := by
  rw [caseDecls_eq, settled_mapM_iff (Settles.caseDecl v)]

theorem settled_enumCaseDecls_iff {cases : List EnumCase} {ds : List EnumCaseDecl} :
    (enumCaseDecls cases).Settled R ds ↔ List.Forall₂ (fun c d =>
      ∃ name, Identifier.ofText? c.name = some name ∧
        ⟨" Wire value " ++ ticked c.value.text ++ ".", name⟩ = d) cases ds := by
  rw [enumCaseDecls_eq, settled_mapM_iff Settles.enumCaseDecl]
  simp [enumCaseDecl, caseIdentifier]

/-- **The declaration of a type**, by the kind of type that it is. -/
inductive DeclarationSettled (R : Registry) : PropertyType → Declaration → Prop
  | typeAlias {a : AliasType} {name : Identifier} {target : TypeExpr} :
      (typeIdentifier a.name).Settled R name → (typeExpr a.target).Settled R target →
      DeclarationSettled R (.aliasType a) (.typeAlias (docLines a.description) name target)
  | record {r : RecordType} {name : Identifier} {fields : List FieldDecl} :
      (typeIdentifier r.name).Settled R name → (fieldDecls r.name.id r.fields).Settled R fields →
      DeclarationSettled R (.record r) (.record (docLines r.description) name fields)
  | enumeration {e : EnumType} {name : Identifier} {cases : List EnumCaseDecl} :
      (typeIdentifier e.name).Settled R name → (enumCaseDecls e.cases).Settled R cases →
      DeclarationSettled R (.enumeration e) (.enumeration (docLines e.description) name cases)
  | variant {v : VariantType} {name : Identifier} {cases : List CaseDecl} :
      (typeIdentifier v.name).Settled R name → (caseDecls v v.allCases).Settled R cases →
      DeclarationSettled R (.variant v) (.variant (docLines v.description) name cases)

theorem declarationSettled_of_settled {t : PropertyType} {x : Emit Declaration} {d : Declaration}
    (hx : declare? t = some x) (h : x.Settled R d) : DeclarationSettled R t d := by
  cases t with
  | scalar kind => cases hx
  | array item => cases hx
  | untyped kind => cases hx
  | aliasType a =>
    obtain rfl := Option.some.inj hx
    obtain ⟨name, hname, target, htarget, rfl⟩ := by simpa [declareAlias] using h
    exact .typeAlias hname htarget
  | record r =>
    obtain rfl := Option.some.inj hx
    obtain ⟨name, hname, fields, hfields, rfl⟩ := by simpa [declareRecord] using h
    exact .record hname hfields
  | enumeration e =>
    obtain rfl := Option.some.inj hx
    obtain ⟨name, hname, cases, hcases, rfl⟩ := by simpa [declareEnum] using h
    exact .enumeration hname hcases
  | variant v =>
    obtain rfl := Option.some.inj hx
    obtain ⟨name, hname, cases, hcases, rfl⟩ := by simpa [declareVariant] using h
    exact .variant hname hcases

/-! ## §4 The code that writes values -/

theorem settled_fieldInserts_iff {owner : String} {fields : List FieldLayout}
    {own : List (Identifier × Insert)} :
    (fieldInserts owner fields).Settled R own ↔ List.Forall₂ (fun f p =>
      ∃ name, (fieldIdentifier owner f.key).Settled R name ∧
        (name, .field f.key name f.required) = p) fields own := by
  rw [fieldInserts_eq, settled_mapM_iff (Settles.fieldInsert owner)]
  simp [fieldInsert]

theorem settled_caseIdentifiers_iff {names : List String} {found : List Identifier} :
    (caseIdentifiers names).Settled R found ↔
      List.Forall₂ (fun name i => Identifier.ofText? name = some i) names found := by
  rw [caseIdentifiers_eq, settled_mapM_iff Settles.caseIdentifier]
  simp [caseIdentifier]

/-- **The code of a case that is written as an object**, by where its discriminator comes from. -/
inductive ArmSettled (R : Registry) (variant : TypeName) : CaseLayout → ObjectArm → Prop
  | fixed {case key : String} {fields : List FieldLayout} {tag : Literal} {name : Identifier}
      {own : List (Identifier × Insert)} : Identifier.ofText? case = some name →
      (fieldInserts (caseOwner variant case) fields).Settled R own →
      ArmSettled R variant (.object case fields key (.fixed tag))
        ⟨name, own.map (·.1), own.map (·.2) ++ [.fixed key tag]⟩
  | supplied {case key : String} {fields : List FieldLayout} {value : ValueLayout}
      {name last : Identifier} {own : List (Identifier × Insert)} :
      Identifier.ofText? case = some name →
      (fieldInserts (caseOwner variant case) fields).Settled R own →
      (fieldIdentifier (caseOwner variant case) key).Settled R last →
      ArmSettled R variant (.object case fields key (.supplied value))
        ⟨name, own.map (·.1) ++ [last], own.map (·.2) ++ [.supplied key last]⟩

theorem armSettled_of_settled {variant : TypeName} {case key : String} {fields : List FieldLayout}
    {slot : DiscriminatorSlot} {arm : ObjectArm}
    (h : (objectArm variant case fields key slot).Settled R arm) :
    ArmSettled R variant (.object case fields key slot) arm := by
  cases slot with
  | fixed tag =>
    obtain ⟨name, hname, own, hown, rfl⟩ := by simpa [objectArm] using h
    exact .fixed (settled_identifier_iff.mp hname) hown
  | supplied value =>
    rw [objectArm, settled_bind_iff (.caseIdentifier case)
      (fun name => .bind (.fieldInserts _ fields) fun own => by simp)] at h
    obtain ⟨name, hname, h⟩ := h
    obtain ⟨own, hown, last, hlast, rfl⟩ := by simpa using h
    exact .supplied (settled_identifier_iff.mp hname) hown hlast

theorem settled_objectArms_cons_iff {variant : TypeName} {case key : String}
    {fields : List FieldLayout} {slot : DiscriminatorSlot} {rest : List CaseLayout}
    {arms : List ObjectArm} :
    (objectArms variant (.object case fields key slot :: rest)).Settled R arms ↔
      ∃ arm, (objectArm variant case fields key slot).Settled R arm ∧
        ∃ others, (objectArms variant rest).Settled R others ∧ arm :: others = arms := by
  simp [objectArms]

/-- **The code that writes values of a type**, by its layout. -/
inductive ImplSettled (R : Registry) : TypeLayout → EncodeImpl → Prop
  | record {r : RecordLayout} {name : Identifier} {own : List (Identifier × Insert)} :
      (typeIdentifier r.name).Settled R name → (fieldInserts r.name.id r.fields).Settled R own →
      ImplSettled R (.record r) (.record name (own.map (·.2)))
  | enumeration {type : TypeName} {cases : List EnumCase} {name : Identifier}
      {arms : List Identifier} : (typeIdentifier type).Settled R name →
      (caseIdentifiers (cases.map (·.name))).Settled R arms →
      ImplSettled R (.enumeration type cases) (.enumeration name (arms.zip (cases.map (·.value))))
  | bare {v : VariantLayout} {name : Identifier} {arms : List Identifier} :
      v.variant.isPrimitive = true → (typeIdentifier v.variant.name).Settled R name →
      (caseIdentifiers (v.cases.map CaseLayout.name)).Settled R arms →
      ImplSettled R (.variant v) (.bare name arms)
  | object {v : VariantLayout} {name : Identifier} {arms : List ObjectArm} :
      v.variant.isPrimitive = false → (typeIdentifier v.variant.name).Settled R name →
      (objectArms v.variant.name v.cases).Settled R arms →
      ImplSettled R (.variant v) (.object name arms)

theorem implSettled_of_settled {layout : TypeLayout} {i : EncodeImpl}
    (h : (encodeImpl layout).Settled R i) : ImplSettled R layout i := by
  cases layout with
  | record r =>
    obtain ⟨name, hname, own, hown, rfl⟩ := by simpa [encodeImpl] using h
    exact .record hname hown
  | enumeration type cases =>
    obtain ⟨name, hname, arms, harms, rfl⟩ := by simpa [encodeImpl] using h
    exact .enumeration hname harms
  | variant v =>
    unfold encodeImpl at h
    cases hprimitive : v.variant.isPrimitive with
    | true =>
      obtain ⟨name, hname, arms, harms, rfl⟩ := by simpa [hprimitive] using h
      exact .bare hprimitive hname harms
    | false =>
      obtain ⟨name, hname, arms, harms, rfl⟩ := by simpa [hprimitive] using h
      exact .object hprimitive hname harms

/-! ## §5 The wrapper, and the items of types -/

theorem settled_method_iff {r : Rule} {m : Method} :
    (method r).Settled R m ↔ ∃ name, (methodIdentifier (methodId r) (methodName r)).Settled R name ∧
      ∃ arg, (argument r.payload).Settled R arg ∧
        ⟨docLines r.event.description, name, r.event.kind, r.event.name, r.part, arg⟩ = m := by
  simp [method]

theorem settled_methods_iff {rules : List Rule} {ms : List Method} {skipped : Nat} :
    (methods rules).Settled R (ms, skipped) ↔
      List.Forall₂ (fun r m => (method r).Settled R m) (rules.filter Rule.isValid) ms ∧
        (rules.filter (!·.isValid)).length = skipped := by
  rw [methods_eq, settled_map_iff (.mapM Settles.method _)]
  simp only [settled_mapM_iff Settles.method, Prod.mk.injEq, and_comm,
    ↓existsAndEq, true_and]

/-- **The wrapper of a model** has a method for each rule whose part its call has, in order, and
counts the other rules. -/
structure WrapperSettled (R : Registry) (s : Schema) (w : Wrapper) : Prop where
  methods : List.Forall₂ (fun r m => (method r).Settled R m) (s.rules.filter Rule.isValid) w.methods
  skipped : w.skipped = (s.rules.filter (!·.isValid)).length

theorem wrapperSettled_of_settled {s : Schema} {client : Identifier}
    {platform generatorVersion : String} {metadata : PlanMetadata} {w : Wrapper}
    (h : (wrapper s client platform generatorVersion metadata).Settled R w) :
    w.name = client ∧ WrapperSettled R s w := by
  rw [wrapper, settled_bind_iff (.reserveBuiltins _) (fun _ => by simp)] at h
  obtain ⟨-, -, h⟩ := h
  rw [settled_bind_iff (.methods _) (fun _ => .pure _)] at h
  obtain ⟨⟨ms, skipped⟩, hmethods, h⟩ := h
  obtain rfl := settled_pure_iff.mp h
  obtain ⟨hmethods, hskipped⟩ := settled_methods_iff.mp hmethods
  exact ⟨rfl, hmethods, hskipped.symm⟩

/-- **The items of a type**: its declaration, and the code of its layout if it has one; each is
counted. -/
inductive ItemsSettled (R : Registry) (layouts : Layouts) (t : PropertyType) : TypeItems → Prop
  | unnamed : t.name? = none → ItemsSettled R layouts t .none
  | declared {name : TypeName} {d : Declaration} : t.name? = some name →
      layouts.find? name = none → DeclarationSettled R t d →
      ItemsSettled R layouts t ⟨[.declaration d], 1, 0⟩
  | encoded {name : TypeName} {layout : TypeLayout} {d : Declaration} {i : EncodeImpl} :
      t.name? = some name → layouts.find? name = some layout → DeclarationSettled R t d →
      ImplSettled R layout i → ItemsSettled R layouts t ⟨[.declaration d, .encodeImpl i], 1, 1⟩

theorem declare?_isSome (t : PropertyType) : (declare? t).isSome = t.name?.isSome := by
  cases t <;> rfl

theorem itemsSettled_of_settled {layouts : Layouts} {t : PropertyType} {group : TypeItems}
    (h : (typeItems layouts t).Settled R group) : ItemsSettled R layouts t group := by
  unfold typeItems at h
  split at h
  · rename_i declare name hdeclare hname
    rw [settled_bind_iff (.declare? hdeclare) (fun d => by split <;> simp)] at h
    obtain ⟨d, hd, h⟩ := h
    have hd := declarationSettled_of_settled hdeclare hd
    split at h
    · rename_i layout hlayout
      obtain ⟨i, hi, rfl⟩ := by simpa using h
      exact .encoded hname hlayout hd (implSettled_of_settled hi)
    · rename_i hlayout
      obtain rfl := settled_pure_iff.mp h
      exact .declared hname hlayout hd
  · rename_i hnone
    obtain rfl := settled_pure_iff.mp h
    refine .unnamed ?_
    have hsome := declare?_isSome t
    cases hname : t.name? with
    | none => rfl
    | some name =>
      rw [hname] at hsome
      obtain ⟨declare, hdeclare⟩ := Option.isSome_iff_exists.mp hsome
      exact absurd hname (hnone declare name hdeclare)

theorem exists_groups_of_settled {layouts : Layouts} {types : List PropertyType}
    {declared : TypeItems} (h : (allTypeItems layouts types).Settled R declared) :
    ∃ groups, List.Forall₂ (ItemsSettled R layouts) types groups ∧ joined groups = declared := by
  rw [allTypeItems_eq, settled_map_iff (.mapM (Settles.typeItems layouts) types)] at h
  obtain ⟨groups, hgroups, hjoined⟩ := h
  rw [settled_mapM_iff (Settles.typeItems layouts)] at hgroups
  exact ⟨groups, hgroups.imp fun _ _ h => itemsSettled_of_settled h, hjoined⟩

/-! ## §6 A run -/

/-- The id under which the name of the client is claimed. -/
def clientId : String :=
  "builtin:client"

/-- The id of the client is that of no type. -/
theorem id_ne_clientId (name : TypeName) : name.id ≠ clientId := by
  intro h
  have hlist : name.origin.key.toList ++ ':' :: name.name.toList =
      "builtin".toList ++ ':' :: "client".toList := by
    simpa [TypeName.id, clientId, String.toList_append] using congrArg String.toList h
  obtain ⟨hkey, -⟩ := append_colon_inj name.origin.colon_not_mem_key (by decide) hlist
  revert hkey
  cases name.origin <;> decide

/-- **What a run emits**, against the names `R` that it ends with: the items of the listed types one
after the other, and the wrapper. -/
structure RunSettled (o : Options) (s : Schema) (R : Registry) (e : Emitted) : Prop where
  sound : R.Sound
  client : o.client = .ok e.wrapper.name
  reserved : R.get? clientId typeScope = some e.wrapper.name.text
  parts : ∃ layouts groups, Layouts.ofSchema s = .ok layouts ∧
    List.Forall₂ (ItemsSettled R layouts) s.namedTypes groups ∧
    e = .ofParts e.runtime (joined groups) e.wrapper
  wrapper : WrapperSettled R s e.wrapper

/-- **The items of a run**, type by type, against the layouts of the model. -/
theorem RunSettled.exists_groups {o : Options} {s : Schema} {e : Emitted} (h : RunSettled o s R e)
    {layouts : Layouts} (hlayouts : Layouts.ofSchema s = .ok layouts) :
    ∃ groups, (groups.map TypeItems.items).flatten = e.typeItems ∧
      List.Forall₂ (fun t group => t ∈ s.namedTypes ∧ ItemsSettled R layouts t group)
        s.namedTypes groups := by
  obtain ⟨layouts', groups, hlayouts', hgroups, hparts⟩ := h.parts
  obtain rfl := Except.ok.inj (hlayouts'.symm.trans hlayouts)
  have hlisted := (List.forall₂_and_left _ _).mpr ⟨fun t (ht : t ∈ s.namedTypes) => ht, hgroups⟩
  refine ⟨groups, ?_, hlisted⟩
  rw [← joined_items]
  exact (congrArg Emitted.typeItems hparts).symm

theorem start_eq_ok_iff {α : Type} {x : Emit α} {a : α} :
    start x = .ok a ↔ ∃ R, x.Gives {} a R := by
  show (x.outcome {}).1 = .ok a ↔ ∃ R, x.outcome {} = (.ok a, R)
  cases h : x.outcome {} with
  | mk o R => simp

theorem start_eq_error_iff {α : Type} {x : Emit α} {e : EmitError} :
    start x = .error e ↔ x.Fails {} e :=
  Iff.rfl

/-- What a run does once its options are accepted. -/
def acceptedRun (runtime : RuntimePath) (client : Identifier) (o : Options) (s : Schema) :
    Emit Emitted := do
  let _ ← reserveType clientId client.text
  let layouts ← accept (Layouts.ofSchema s)
  let declared ← allTypeItems layouts s.namedTypes
  let wrapper ← wrapper s client o.platform o.generatorVersion (o.metadataFor s)
  return .ofParts runtime declared wrapper

theorem emit_eq_acceptedRun {o : Options} {runtime : RuntimePath} {client : Identifier}
    (hruntime : o.runtime = .ok runtime) (hclient : o.client = .ok client) (s : Schema) :
    emit o s = start (acceptedRun runtime client o s) := by
  unfold emit
  rw [hruntime, hclient]
  rfl

/-- The first name that is claimed is free. -/
theorem reserveType_first {id name : String} {i : Identifier} {R : Registry}
    (h : (reserveType id name).Gives {} i R) : R.get? id typeScope = some name ∧ R.Sound := by
  have hsound := (Settles.reserveType id name).sound h .start
  obtain ⟨assigned, r, hregister, hidentifier⟩ := gives_bind_iff.mp h
  obtain ⟨-, rfl⟩ := gives_identifier_iff.mp hidentifier
  obtain ⟨-, hregistered⟩ := Registry.register_eq_ok_iff.mp (gives_register_iff.mp hregister)
  refine ⟨?_, hsound⟩
  rw [hregistered.get?_eq_some]
  cases hregistered with
  | found hget => cases hget
  | added _ => rfl

/-- **A run that gives something** settles all that it emits. -/
theorem runSettled_of_gives {o : Options} {s : Schema} {runtime : RuntimePath} {client : Identifier}
    {e : Emitted} {R : Registry} (hclient : o.client = .ok client)
    (h : (acceptedRun runtime client o s).Gives {} e R) : RunSettled o s R e := by
  obtain ⟨reserved, r₁, hreserved, h⟩ := gives_bind_iff.mp h
  obtain ⟨layouts, r, hlayouts, h⟩ := gives_bind_iff.mp h
  obtain ⟨htables, rfl⟩ := gives_accept_iff.mp hlayouts
  obtain ⟨items, r₂, hitems, h⟩ := gives_bind_iff.mp h
  obtain ⟨w, r₃, hw, h⟩ := gives_bind_iff.mp h
  obtain ⟨rfl, rfl⟩ := gives_pure_iff.mp h
  obtain ⟨hfirst, hsound⟩ := reserveType_first hreserved
  have hitems' := Settles.allTypeItems layouts s.namedTypes
  have hw' := Settles.wrapper s client o.platform o.generatorVersion (o.metadataFor s)
  have hgrows := (hitems'.grows hitems).trans (hw'.grows hw)
  obtain ⟨rfl, hwrapper⟩ := wrapperSettled_of_settled (hw'.settled hw (.refl _))
  obtain ⟨groups, hgroups, rfl⟩ := exists_groups_of_settled (hitems'.settled hitems (hw'.grows hw))
  exact {
    sound := hw'.sound hw (hitems'.sound hitems hsound)
    client := hclient
    reserved := hgrows.get?_eq_some hfirst
    parts := ⟨layouts, groups, htables, hgroups, rfl⟩
    wrapper := hwrapper }

/-- A run that is given accepts its options first. -/
theorem exists_acceptedRun_of_emit {o : Options} {s : Schema} {e : Emitted} (h : emit o s = .ok e) :
    ∃ runtime client R, o.client = .ok client ∧
      (acceptedRun runtime client o s).Gives {} e R := by
  obtain ⟨R, h⟩ := start_eq_ok_iff.mp h
  obtain ⟨runtime, r, hruntime, h⟩ := gives_bind_iff.mp h
  obtain ⟨-, rfl⟩ := gives_accept_iff.mp hruntime
  obtain ⟨client, r, hclient, h⟩ := gives_bind_iff.mp h
  obtain ⟨haccepted, rfl⟩ := gives_accept_iff.mp hclient
  exact ⟨runtime, client, R, haccepted, h⟩

theorem runSettled_of_emit {o : Options} {s : Schema} {e : Emitted} (h : emit o s = .ok e) :
    ∃ R, RunSettled o s R e := by
  obtain ⟨runtime, client, R, hclient, h⟩ := exists_acceptedRun_of_emit h
  exact ⟨R, runSettled_of_gives hclient h⟩

end TrackingPlan.Bindings.Emit
