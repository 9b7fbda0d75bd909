import TrackingPlan.Proofs.Bindings.Spelling
import TrackingPlan.Proofs.Layout.OfSchema

/-!
# Declarations, the code that writes them, and layouts agree

The declaration of a type is made from the model and the code that writes its values from the
layouts, one after the other, and each asks for the identifiers of the fields by itself.  Both are
read here against one settled registry, in which the same key of the same owner is one identifier.
So the code reads the fields that are declared, in order, and writes the keys of the layout
(`Agree`), whatever was registered before, between or after.  All this is said of the tokens that
are emitted: of what they declare and of what they write (`CodeAgrees`).

§1 what agreement is · §2 fields · §3 cases · §4 types · §5 runs.
-/

namespace TrackingPlan.Bindings

open Emit
open Naming (Registry)
open PropertyType (typeLayout?)

/-! ## §1 What agreement is -/

/-- **The statements write the declared fields**, one for each in order: each reads the field that is
declared, as optional exactly when it is declared so, and writes the key of the layout. -/
inductive WritesFields : List FieldLayout → List FieldDecl → List Insert → Prop
  | nil : WritesFields [] [] []
  | cons {l : FieldLayout} {f : FieldDecl} {layouts : List FieldLayout} {declared : List FieldDecl}
      {inserts : List Insert} : WritesFields layouts declared inserts →
      WritesFields (l :: layouts) (f :: declared) (.field l.key f.name f.required :: inserts)

/-- **The code of a case agrees with its declaration and its layout.**  It binds the declared
fields, writes the keys of the layout, and the key of the discriminator last: its value is the tag,
or for a default case the last of the declared fields. -/
inductive ArmAgrees : CaseLayout → CaseDecl → ObjectArm → Prop
  | fixed {case key : String} {fields : List FieldLayout} {tag : Literal} {docs : List String}
      {name : Identifier} {declared : List FieldDecl} {inserts : List Insert} :
      Identifier.ofText? case = some name → WritesFields fields declared inserts →
      ArmAgrees (.object case fields key (.fixed tag)) (.fields docs name declared)
        ⟨name, declared.map FieldDecl.name, inserts ++ [.fixed key tag]⟩
  | supplied {case key : String} {fields : List FieldLayout} {value : ValueLayout}
      {docs : List String} {name : Identifier} {declared : List FieldDecl} {last : FieldDecl}
      {inserts : List Insert} :
      Identifier.ofText? case = some name → WritesFields fields declared inserts →
      last.required = true →
      ArmAgrees (.object case fields key (.supplied value)) (.fields docs name (declared ++ [last]))
        ⟨name, declared.map FieldDecl.name ++ [last.name], inserts ++ [.supplied key last.name]⟩

/-- The code of all cases agrees, case by case in declaration order. -/
inductive ArmsAgree : List CaseLayout → List CaseDecl → List ObjectArm → Prop
  | nil : ArmsAgree [] [] []
  | cons {l : CaseLayout} {c : CaseDecl} {arm : ObjectArm} {ls : List CaseLayout}
      {cs : List CaseDecl} {arms : List ObjectArm} : ArmAgrees l c arm → ArmsAgree ls cs arms →
      ArmsAgree (l :: ls) (c :: cs) (arm :: arms)

/-- The case wraps a value. -/
def CaseDecl.IsWrapped : CaseDecl → Prop
  | .wrapped _ _ _ => True
  | .fields _ _ _ => False

/-- **The code that writes values of a type agrees with its declaration and its layout.** -/
inductive Agree : TypeLayout → Declaration → EncodeImpl → Prop
  | record {r : RecordLayout} {docs : List String} {name : Identifier} {fields : List FieldDecl}
      {inserts : List Insert} : WritesFields r.fields fields inserts →
      Agree (.record r) (.record docs name fields) (.record name inserts)
  | enumeration {type : TypeName} {cases : List EnumCase} {docs : List String} {name : Identifier}
      {declared : List EnumCaseDecl} {arms : List (Identifier × Literal)} :
      arms.map (·.1) = declared.map EnumCaseDecl.name → arms.map (·.2) = cases.map EnumCase.value →
      Agree (.enumeration type cases) (.enumeration docs name declared) (.enumeration name arms)
  | bare {v : VariantLayout} {docs : List String} {name : Identifier} {declared : List CaseDecl} :
      (∀ c ∈ declared, c.IsWrapped) →
      List.Forall₂ (fun l c => Identifier.ofText? l.name = some c.name) v.cases declared →
      Agree (.variant v) (.variant docs name declared) (.bare name (declared.map CaseDecl.name))
  | object {v : VariantLayout} {docs : List String} {name : Identifier} {declared : List CaseDecl}
      {arms : List ObjectArm} : ArmsAgree v.cases declared arms →
      Agree (.variant v) (.variant docs name declared) (.object name arms)

/-- **The emitted code of a type agrees**: the declaration alone for an alias, which has no layout;
or the tokens of a declaration and the tokens of code that agrees with it and with the layout. -/
inductive CodeAgrees (layouts : Layouts) (rt : RuntimePath) (t : PropertyType) :
    List (List Token) → Prop
  | typeAlias {a : AliasType} {docs : List String} {name : Identifier} {target : TypeExpr}
      {declared : List Token} : t = .aliasType a →
      (Declaration.typeAlias docs name target).Spelled rt declared →
      CodeAgrees layouts rt t [declared]
  | encoded {name : TypeName} {layout : TypeLayout} {d : Declaration} {i : EncodeImpl}
      {declared written : List Token} : t.name? = some name → layouts.find? name = some layout →
      d.Spelled rt declared → i.Spelled rt written → Agree layout d i →
      CodeAgrees layouts rt t [declared, written]

variable {R : Registry}

/-! ## §2 Fields -/

/-- **Fields are read as they are declared**: one key of one owner is one identifier. -/
theorem writesFields_of_settled {owner : String} {fields : List Field} {declared : List FieldDecl}
    {own : List (Identifier × Insert)} (hdeclared : (fieldDecls owner fields).Settled R declared)
    (hown : (fieldInserts owner (fields.map Field.layout)).Settled R own) :
    own.map (·.1) = declared.map FieldDecl.name ∧
      WritesFields (fields.map Field.layout) declared (own.map (·.2)) := by
  rw [settled_fieldDecls_iff] at hdeclared
  rw [settled_fieldInserts_iff] at hown
  induction fields generalizing declared own with
  | nil =>
    cases hdeclared
    cases hown
    exact ⟨rfl, .nil⟩
  | cons f rest ih =>
    obtain ⟨d, ds, hd, hds, rfl⟩ := List.forall₂_cons_left_iff.mp hdeclared
    obtain ⟨p, ps, hp, hps, rfl⟩ := List.forall₂_cons_left_iff.mp hown
    obtain ⟨hnames, hwrites⟩ := ih hds hps
    obtain ⟨name, hname, type, -, rfl⟩ := settled_fieldDecl_iff.mp hd
    obtain ⟨name', hname', rfl⟩ := hp
    -- both asked for the key under the same owner, and `R` has one answer
    obtain rfl : name' = name := hname'.unique hname
    exact ⟨by rw [List.map_cons, List.map_cons, hnames], .cons hwrites⟩

/-! ## §3 Cases -/

/-- What the layout of a case says of the case. -/
theorem caseLayout_of_discriminator {v : VariantType} {c : VariantCase} {l : CaseLayout}
    {d : Discriminator} (hd : v.discriminator = some d) (h : v.caseLayout c = .ok l) :
    ∃ slot, l = .object c.name (c.fields.map Field.layout) d.key slot ∧
      ((∃ tag, c.tag = .literal tag ∧ slot = .fixed tag) ∨
        c.tag = .fallback ∧ slot = .supplied d.type.layout) := by
  unfold VariantType.caseLayout at h
  rw [hd] at h
  cases htag : c.tag with
  | literal tag =>
    simp only [htag] at h
    exact ⟨_, (Except.ok.inj h).symm, .inl ⟨tag, rfl, rfl⟩⟩
  | kind k =>
    simp only [htag] at h
    cases h
  | fallback =>
    simp only [htag] at h
    exact ⟨_, (Except.ok.inj h).symm, .inr ⟨rfl, rfl⟩⟩

/-- Without a discriminator every case that has a layout is one for bare values. -/
theorem tag_of_caseLayout_bare {v : VariantType} {c : VariantCase} {l : CaseLayout}
    (hnone : v.discriminator = none) (h : v.caseLayout c = .ok l) : ∃ k, c.tag = .kind k := by
  unfold VariantType.caseLayout at h
  rw [hnone] at h
  cases htag : c.tag with
  | kind k => exact ⟨k, rfl⟩
  | literal tag =>
    simp only [htag] at h
    cases h
  | fallback =>
    simp only [htag] at h
    cases h

/-- **The code of a case agrees with its declaration.** -/
theorem armAgrees_of_settled {v : VariantType} {c : VariantCase} {disc : Discriminator}
    {l : CaseLayout} {d : CaseDecl} {arm : ObjectArm} (hdisc : v.discriminator = some disc)
    (hlayout : v.caseLayout c = .ok l) (hd : (caseDecl v c).Settled R d)
    (harm : ArmSettled R v.name l arm) : ArmAgrees l d arm := by
  obtain ⟨name, hname, hcase⟩ := caseSettled_of_settled hd
  obtain ⟨slot, rfl, hslot⟩ := caseLayout_of_discriminator hdisc hlayout
  rcases hslot with ⟨tag, htag, rfl⟩ | ⟨htag, rfl⟩
  · cases harm with
    | fixed hname' hown =>
      obtain rfl := Option.some.inj (hname'.symm.trans hname)
      -- the layout and the declaration look at the same tag, so they took the same way
      cases hcase with
      | wrapped hkind _ _ => cases htag.symm.trans hkind
      | default hfallback _ _ _ => cases htag.symm.trans hfallback
      | tagged _ _ _ hfields =>
        obtain ⟨hbindings, hwrites⟩ := writesFields_of_settled hfields hown
        rw [hbindings]
        exact .fixed hname hwrites
  · cases harm with
    | supplied hname' hown hlast' =>
      obtain rfl := Option.some.inj (hname'.symm.trans hname)
      cases hcase with
      | wrapped hkind _ _ => cases htag.symm.trans hkind
      | tagged _ _ hdefault _ => simp [VariantCase.isDefault, htag] at hdefault
      | default _ hdisc' hfields hlast =>
        obtain rfl := Option.some.inj (hdisc.symm.trans hdisc')
        obtain ⟨lastName, hlastName, type, -, rfl⟩ := settled_discriminatorDecl_iff.mp hlast
        obtain rfl := hlast'.unique hlastName
        obtain ⟨hbindings, hwrites⟩ := writesFields_of_settled hfields hown
        rw [hbindings]
        exact .supplied hname hwrites rfl

/-- The code of cases that are all written as objects. -/
theorem armsAgree_of_settled {v : VariantType} {cases : List VariantCase} {disc : Discriminator}
    {layouts : List CaseLayout} {declared : List CaseDecl} {arms : List ObjectArm}
    (hdisc : v.discriminator = some disc)
    (hlayouts : List.Forall₂ (fun c l => v.caseLayout c = .ok l) cases layouts)
    (hdeclared : List.Forall₂ (fun c d => (caseDecl v c).Settled R d) cases declared)
    (harms : (objectArms v.name layouts).Settled R arms) : ArmsAgree layouts declared arms := by
  induction hlayouts generalizing declared arms with
  | nil =>
    cases hdeclared
    obtain rfl := settled_pure_iff.mp harms
    exact .nil
  | @cons c l rest ls hl _ ih =>
    obtain ⟨d, ds, hd, hds, rfl⟩ := List.forall₂_cons_left_iff.mp hdeclared
    obtain ⟨slot, rfl, -⟩ := caseLayout_of_discriminator hdisc hl
    obtain ⟨arm, harm, others, hothers, rfl⟩ := settled_objectArms_cons_iff.mp harms
    exact .cons (armAgrees_of_settled hdisc hl hd (armSettled_of_settled harm)) (ih hds hothers)

/-- The cases of a variant without a discriminator, and the identifiers of its code. -/
theorem wrapped_of_settled {v : VariantType} {cases : List VariantCase}
    {layouts : List CaseLayout} {declared : List CaseDecl} {arms : List Identifier}
    (hdisc : v.discriminator = none)
    (hlayouts : List.Forall₂ (fun c l => v.caseLayout c = .ok l) cases layouts)
    (hdeclared : List.Forall₂ (fun c d => (caseDecl v c).Settled R d) cases declared)
    (harms : List.Forall₂ (fun name i => Identifier.ofText? name = some i)
      (layouts.map CaseLayout.name) arms) :
    (∀ c ∈ declared, c.IsWrapped) ∧ arms = declared.map CaseDecl.name ∧
      List.Forall₂ (fun l c => Identifier.ofText? l.name = some c.name) layouts declared := by
  induction hlayouts generalizing declared arms with
  | nil =>
    cases hdeclared
    cases harms
    exact ⟨fun _ h => absurd h List.not_mem_nil, rfl, .nil⟩
  | @cons c l rest ls hl _ ih =>
    obtain ⟨d, ds, hd, hds, rfl⟩ := List.forall₂_cons_left_iff.mp hdeclared
    obtain ⟨i, is, hi, his, rfl⟩ := List.forall₂_cons_left_iff.mp harms
    obtain ⟨hwrapped, rfl, hnames⟩ := ih hds his
    obtain ⟨k, hk⟩ := tag_of_caseLayout_bare hdisc hl
    obtain ⟨name, hname, hcase⟩ := caseSettled_of_settled hd
    rw [VariantType.caseLayout_name hl] at hi
    obtain rfl := Option.some.inj (hi.symm.trans hname)
    cases hcase with
    | tagged hkind _ _ _ => exact absurd hk (hkind k)
    | default hfallback _ _ _ => cases hk.symm.trans hfallback
    | wrapped _ _ _ =>
      refine ⟨List.forall_mem_cons.mpr ⟨trivial, hwrapped⟩, rfl, .cons ?_ hnames⟩
      rw [VariantType.caseLayout_name hl]
      exact hname

/-! ## §4 Types -/

/-- The code of an enumeration has the declared cases, in order. -/
theorem enumNames_of_settled {cases : List EnumCase} {declared : List EnumCaseDecl}
    {arms : List Identifier} (hdeclared : (enumCaseDecls cases).Settled R declared)
    (harms : (caseIdentifiers (cases.map (·.name))).Settled R arms) :
    arms = declared.map EnumCaseDecl.name ∧ arms.length = cases.length := by
  rw [settled_enumCaseDecls_iff] at hdeclared
  rw [settled_caseIdentifiers_iff] at harms
  induction cases generalizing declared arms with
  | nil =>
    cases hdeclared
    cases harms
    exact ⟨rfl, rfl⟩
  | cons c rest ih =>
    obtain ⟨d, ds, ⟨name, hname, rfl⟩, hds, rfl⟩ := List.forall₂_cons_left_iff.mp hdeclared
    obtain ⟨i, is, hi, his, rfl⟩ := List.forall₂_cons_left_iff.mp harms
    obtain rfl := Option.some.inj (hi.symm.trans hname)
    obtain ⟨rfl, hlength⟩ := ih hds his
    exact ⟨rfl, congrArg (· + 1) hlength⟩

/-- **Against settled names, declaration, code and layout agree.** -/
theorem agree_of_settled {t : PropertyType} {layout : TypeLayout} {d : Declaration} {i : EncodeImpl}
    (hlayout : typeLayout? t = some layout) (hd : DeclarationSettled R t d)
    (hi : ImplSettled R layout i) : Agree layout d i := by
  cases hd with
  | typeAlias _ _ => cases hlayout
  | record hname hfields =>
    obtain rfl := Option.some.inj hlayout
    cases hi with
    | record hname' hown =>
      obtain rfl := hname'.unique hname
      exact .record (writesFields_of_settled hfields hown).2
  | enumeration hname hcases =>
    obtain rfl := Option.some.inj hlayout
    cases hi with
    | @enumeration _ cases _ arms hname' harms =>
      obtain rfl := hname'.unique hname
      obtain ⟨harms, hlength⟩ := enumNames_of_settled hcases harms
      -- there are as many identifiers as values, so zipping loses neither
      refine .enumeration ?_ ?_
      · rw [List.map_fst_zip, harms]
        simp only [List.length_map, hlength, Nat.le_refl]
      · rw [List.map_snd_zip]
        simp only [List.length_map, hlength, Nat.le_refl]
  | @variant v name declared hname hdeclared =>
    obtain ⟨cases, hcases, rfl⟩ := Option.map_eq_some_iff.mp hlayout
    have hcases := mapM_eq_ok_iff.mp (except_toOption_eq_some.mp hcases)
    have hdeclared := settled_caseDecls_iff.mp hdeclared
    cases hi with
    | bare hprimitive hname' harms =>
      obtain rfl := hname'.unique hname
      have hdisc : v.discriminator = none := by simpa [VariantType.isPrimitive] using hprimitive
      obtain ⟨hwrapped, rfl, hnames⟩ :=
        wrapped_of_settled hdisc hcases hdeclared (settled_caseIdentifiers_iff.mp harms)
      exact .bare hwrapped hnames
    | object hprimitive hname' harms =>
      obtain rfl := hname'.unique hname
      obtain ⟨disc, hdisc⟩ : ∃ disc, v.discriminator = some disc := by
        simpa [VariantType.isPrimitive, Option.isNone_eq_false_iff, Option.isSome_iff_exists]
          using hprimitive
      exact .object (armsAgree_of_settled hdisc hcases hdeclared harms)

/-! ## §5 Runs -/

/-- A listed type is found with its own layout, if it has one. -/
theorem find?_of_mem_namedTypes {s : Schema} {layouts : Layouts}
    (hlayouts : Layouts.ofSchema s = .ok layouts) {t : PropertyType} (ht : t ∈ s.namedTypes)
    {name : TypeName} (hname : t.name? = some name) : layouts.find? name = typeLayout? t := by
  obtain rfl := Layouts.eq_of_ofSchema hlayouts
  exact Schema.get?_entries_eq ht (by rw [PropertyType.id?, hname, Option.map_some])

/-- **Only an alias has no layout.** -/
theorem typeLayout?_eq_none {s : Schema} {layouts : Layouts}
    (hlayouts : Layouts.ofSchema s = .ok layouts) {t : PropertyType} (ht : t ∈ s.namedTypes)
    {name : TypeName} (hname : t.name? = some name) (hnone : typeLayout? t = none) :
    ∃ a, t = .aliasType a := by
  cases t with
  | aliasType a => exact ⟨a, rfl⟩
  | variant v =>
    obtain ⟨cases, hcases⟩ := Layouts.exists_caseLayouts_of_ofSchema hlayouts ht
    simp [typeLayout?, hcases, Except.toOption] at hnone
  | record r => cases hnone
  | enumeration e => cases hnone
  | scalar kind => cases hname
  | array item => cases hname
  | untyped kind => cases hname

theorem name?_ne_none {s : Schema} {t : PropertyType} (ht : t ∈ s.namedTypes) :
    t.name? ≠ none := by
  obtain ⟨ids, -, hids⟩ := s.namedTypes_ids
  intro hnone
  have hid : t.id? ∈ ids.map some := hids ▸ List.mem_map.mpr ⟨t, ht, rfl⟩
  rw [PropertyType.id?, hnone] at hid
  simp at hid

/-- The code of a listed type agrees, once its items are settled. -/
theorem codeAgrees_of_settled {s : Schema} {layouts : Layouts}
    (hlayouts : Layouts.ofSchema s = .ok layouts) {t : PropertyType} (ht : t ∈ s.namedTypes)
    {group : TypeItems} (h : ItemsSettled R layouts t group) (rt : RuntimePath) :
    CodeAgrees layouts rt t (group.items.map (·.tokens rt)) := by
  cases h with
  | unnamed hnone => exact absurd hnone (name?_ne_none ht)
  | @declared name d hname hnone hd =>
    rw [find?_of_mem_namedTypes hlayouts ht hname] at hnone
    obtain ⟨a, rfl⟩ := typeLayout?_eq_none hlayouts ht hname hnone
    cases hd with
    | typeAlias _ _ => exact .typeAlias rfl (Declaration.spelled_tokens _ rt)
  | encoded hname hlayout hd hi =>
    refine .encoded hname hlayout (Declaration.spelled_tokens _ rt) (EncodeImpl.spelled_tokens _ rt)
      (agree_of_settled ?_ hd hi)
    rw [← find?_of_mem_namedTypes hlayouts ht hname]
    exact hlayout

/-- **Declaration, code and layout of every named type agree.**  For a model that is accepted,
whatever names stand in the registries from which a declaration and the code for it are emitted, if
both are found again in one later registry: their tokens spell a declaration and code that agree
with each other and with the layout.  And so in every run over the model, where each named type in
turn has the tokens of its declaration and, unless it is an alias, the tokens of the code for it. -/
theorem emitted_code_agrees {s : Schema} (hvalid : s.validate = .ok s) :
    ∃ layouts, Layouts.ofSchema s = .ok layouts ∧
      (∀ t ∈ s.namedTypes, ∀ name layout declare, t.name? = some name →
        layouts.find? name = some layout → declare? t = some declare →
        ∀ (r r' q q' R : Registry) (d : Declaration) (i : EncodeImpl), declare.Gives r d r' →
          (encodeImpl layout).Gives q i q' → r'.Grows R → q'.Grows R →
          Agree layout d i ∧ ∀ rt, d.Spelled rt (d.tokens rt) ∧ i.Spelled rt (i.tokens rt)) ∧
      ∀ o e, emit o s = .ok e → ∃ groups : List (List Item), groups.flatten = e.typeItems ∧
        List.Forall₂ (fun t items =>
          CodeAgrees layouts e.runtime t (items.map (·.tokens e.runtime))) s.namedTypes groups := by
  obtain ⟨hfaults, -⟩ := Schema.validate_eq_ok_iff.mp hvalid
  have hlayouts := Layouts.ofSchema_eq fun t ht => Schema.faults_of_mem_namedTypes hfaults ht
  refine ⟨s.layouts, hlayouts, ?_, ?_⟩
  · intro t ht name layout declare hname hlayout hdeclare r r' q q' R d i hd hi hr hq
    have hdeclared := (Settles.declare? hdeclare).settled hd hr
    have hencoded := (Settles.encodeImpl layout).settled hi hq
    rw [find?_of_mem_namedTypes hlayouts ht hname] at hlayout
    refine ⟨?_, fun rt => ⟨d.spelled_tokens rt, i.spelled_tokens rt⟩⟩
    exact agree_of_settled hlayout (declarationSettled_of_settled hdeclare hdeclared)
      (implSettled_of_settled hencoded)
  · intro o e he
    obtain ⟨R, hrun⟩ := runSettled_of_emit he
    obtain ⟨groups, hflatten, hgroups⟩ := hrun.exists_groups hlayouts
    refine ⟨groups.map TypeItems.items, hflatten, ?_⟩
    rw [List.forall₂_map_right_iff]
    exact hgroups.imp fun t group h => codeAgrees_of_settled hlayouts h.1 h.2 e.runtime

/-- A contact is a person, or of a kind that the caller names. -/
def signUpContact : VariantType where
  name := .customType "contact"
  description := none
  discriminator := some ⟨"kind", .scalar .string, none⟩
  cases := [⟨"CasePerson", .literal (.string "person"), none,
    [⟨"userId", .scalar .integer, true, none⟩, ⟨"user-id", .scalar .string, false, none⟩]⟩]
  defaultCase := some ⟨"Default", .fallback, none, [⟨"label", .scalar .string, false, none⟩]⟩

/-- The payload of a sign-up. -/
def signUpRecord : PropertyType :=
  .record ⟨.event "Track Sign up properties", none,
    [⟨"contact", .variant signUpContact, true, none⟩, ⟨"via", .scalar .string, false, none⟩]⟩

/-- A plan with optional fields, a default case, and keys that ask for one identifier. -/
def signUps : Schema where
  name := "Accounts"
  metadata := .unknown
  customTypes := [("contact", .variant signUpContact)]
  properties := []
  rules := [⟨⟨.track, "Sign up", none⟩, .properties, .typed signUpRecord⟩]

/-- A run over sign-ups gives the code of two types, and it agrees. -/
theorem emitted_code_agrees_signUps : ∃ e layouts groups, emit {} signUps = .ok e ∧
    Layouts.ofSchema signUps = .ok layouts ∧ groups.flatten = e.typeItems ∧
    List.Forall₂ (fun t items =>
        CodeAgrees layouts e.runtime t (items.map (·.tokens e.runtime)))
      [.variant signUpContact, signUpRecord] groups := by
  obtain ⟨layouts, hlayouts, -, hruns⟩ := emitted_code_agrees (s := signUps)
    (Schema.validate_eq_ok_iff.mpr ⟨rfl, rfl⟩)
  obtain ⟨e, he⟩ : ∃ e, emit {} signUps = .ok e := exists_emit_default (by decide +kernel)
  obtain ⟨groups, hflatten, hagree⟩ := hruns {} e he
  exact ⟨e, layouts, groups, he, hlayouts, hflatten, hagree⟩

end TrackingPlan.Bindings
