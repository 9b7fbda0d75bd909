import TrackingPlan.Proofs.Bindings.Closure
import TrackingPlan.Proofs.Bindings.Identifiers

/-!
# When a plan generates

Whatever is registered before, a name given out is what was asked for under its id, with a number at
most (`AsWanted`): so whether a step gets an identifier is known from the names of the plan alone,
and neither the order of the steps nor the collisions between names matter.  Fields and methods
always get one, if they have a key; a type or a case gets one exactly if its own text is an
identifier.  A plan that is accepted generates exactly if all its names do
(`generate_iff_nameable`), and a numeral that no identifier may hold is enough to stop it
(`generate_squares`).

§1 names as they were wanted · §2 steps that ask for names · §3 a run · §4 what a run got ·
§5 models and plans.
-/

namespace TrackingPlan

namespace Bindings.Emit

open Naming (Registry Extends memberName)

variable {α β : Type} {S : EmitError → Prop} {r r' R : Registry}
  {scope id name base assigned : String}

/-! ## §1 Names as they were wanted -/

/-- **What an id may want** as its name in a scope: the client its own, a type the text made of its
name, and in any other scope a member name. -/
inductive Wanted : String → String → String → Prop
  | client : Wanted typeScope clientId Options.defaultClient.text
  | type (name : TypeName) : Wanted typeScope name.id (typeText name)
  | member {scope id : String} (plan : String) : scope ≠ typeScope →
      Wanted scope id (memberName plan)

theorem Wanted.of_client (h : Wanted typeScope clientId base) :
    base = Options.defaultClient.text := by
  -- the scope and the id tell which of the three it is
  generalize hscope : typeScope = scope, hid : clientId = id at h
  cases h with
  | client => rfl
  | type name => exact absurd hid.symm (id_ne_clientId name)
  | member plan hother => exact absurd hscope.symm hother

theorem Wanted.of_type {name : TypeName} (h : Wanted typeScope name.id base) :
    base = typeText name := by
  generalize hscope : typeScope = scope, hid : name.id = id at h
  cases h with
  | client => exact absurd hid (id_ne_clientId name)
  | type other => rw [TypeName.id_injective hid]
  | member plan hother => exact absurd hscope.symm hother

theorem Wanted.of_member (h : Wanted scope id base) (hscope : scope ≠ typeScope) :
    ∃ plan, base = memberName plan := by
  cases h with
  | client => exact absurd rfl hscope
  | type name => exact absurd rfl hscope
  | member plan _ => exact ⟨plan, rfl⟩

/-- **Every name in the registry is as it was wanted**, with a number at most. -/
structure AsWanted (r : Registry) : Prop where
  onCollision : r.onCollision = Naming.appendNumber
  wanted : ∀ e ∈ r.registrations, ∃ base, Wanted e.scope e.id base ∧ Extends base e.name

theorem AsWanted.start : AsWanted {} :=
  ⟨rfl, fun _ he => absurd he List.not_mem_nil⟩

theorem AsWanted.get? (hr : AsWanted r) (h : r.get? id scope = some assigned) :
    ∃ base, Wanted scope id base ∧ Extends base assigned :=
  hr.wanted _ (Registry.mem_of_get? h)

theorem AsWanted.register (hr : AsWanted r) (hwanted : Wanted scope id name)
    (h : r.Registered id scope name assigned r') : AsWanted r' := by
  cases h with
  | found _ => exact hr
  | added _ =>
    refine ⟨hr.onCollision, fun e he => ?_⟩
    rcases List.mem_append.mp he with he | he
    · exact hr.wanted e he
    · obtain rfl := List.mem_singleton.mp he
      exact ⟨name, hwanted, Registry.extends_choose hr.onCollision scope name⟩

/-! ## §2 Steps that ask for names -/

/-- **A registration, and what goes on from it** knowing that the name was wanted.  It may fail over
an empty text only. -/
theorem register_bind_within {f : String → Emit β} (hwanted : Wanted scope id name)
    (hne : (id ≠ "" ∧ scope ≠ "" ∧ name ≠ "") ∨ ∀ e : EmitError, e.IsNaming → S e)
    (hf : ∀ base assigned, Wanted scope id base → Extends base assigned →
      Within AsWanted S (f assigned)) :
    Within AsWanted S (register id scope name >>= f) := by
  intro r hr
  -- the id may have got its name earlier and asked for another text then, so `base` need not be
  -- `name`; that it was wanted is all that is left of it
  have hgiven : ∀ {assigned r'}, (register id scope name).Gives r assigned r' →
      AsWanted r' ∧ Within AsWanted S (f assigned) := by
    intro assigned r' h
    obtain ⟨-, hregistered⟩ := Registry.register_eq_ok_iff.mp (gives_register_iff.mp h)
    have hr' := hr.register hwanted hregistered
    obtain ⟨base, hbase, hextends⟩ := hr'.get? hregistered.get?_eq_some
    exact ⟨hr', hf base assigned hbase hextends⟩
  constructor
  · intro e he
    rcases fails_bind_iff.mp he with he | ⟨assigned, r', hgives, he⟩
    · obtain ⟨fault, hfault, rfl⟩ := fails_register_iff.mp he
      rcases hne with hne | hS
      · obtain ⟨result, hok⟩ := r.exists_register_eq_ok hne
        rw [hok] at hfault
        cases hfault
      · exact hS _ trivial
    · obtain ⟨hr', hwithin⟩ := hgiven hgives
      exact (hwithin r' hr').1 e he
  · intro b r'' h
    obtain ⟨assigned, r', hgives, h⟩ := gives_bind_iff.mp h
    obtain ⟨hr', hwithin⟩ := hgiven hgives
    exact (hwithin r' hr').2 b r'' h

/-- **A member gets an identifier** if it has an id. -/
theorem memberIdentifier_within (hscope : scope ≠ "" ∧ scope ≠ typeScope) (plan : String)
    (hid : id ≠ "" ∨ ∀ e : EmitError, e.IsNaming → S e) :
    Within AsWanted S (register id scope (memberName plan) >>= fun assigned =>
      identifier (Identifier.ofMember? assigned) assigned) := by
  have hmember : memberName plan ≠ "" := (Naming.memberName_spelled plan).ne_empty
  refine register_bind_within (.member plan hscope.2)
    (hid.imp_left fun h => ⟨h, hscope.1, hmember⟩) fun base assigned hbase hextends => ?_
  obtain ⟨plan', hplan⟩ := hbase.of_member hscope.2
  refine .identifier fun hnone => ?_
  obtain ⟨i, hfound, -⟩ := Identifier.ofMember?_extends (hplan ▸ hextends)
  rw [hnone] at hfound
  cases hfound

/-- The text of a type holds no mark of a raw identifier. -/
theorem mark_not_mem_typeText (name : TypeName) : '#' ∉ (typeText name).toList :=
  Naming.mark_not_mem_typeName (mark_not_mem_label name.origin) name.name

/-- **A type gets an identifier** if its text is one. -/
theorem typeIdentifier_within (name : TypeName)
    (h : IsIdentifier (typeText name) ∨ ∀ e : EmitError, e.IsNaming → S e) :
    Within AsWanted S (typeIdentifier name) := by
  rw [typeIdentifier_eq]
  split
  · -- an empty text is refused before it is registered, and is no identifier either
    rename_i hempty
    rcases h with h | hS
    · rw [String.isEmpty_iff.mp hempty] at h
      exact absurd h (by decide)
    · exact .reject (hS _ trivial)
  · rename_i hempty
    have hne : typeText name ≠ "" := fun heq => hempty (String.isEmpty_iff.mpr heq)
    have hid : name.id ≠ "" := by simp [TypeName.id]
    refine register_bind_within (.type name) (.inl ⟨hid, by decide, hne⟩)
      fun base assigned hbase hextends => ?_
    rw [hbase.of_type] at hextends
    refine .identifier fun hnone => ?_
    rcases h with h | hS
    · have hassigned := (isIdentifier_extends hextends hne (mark_not_mem_typeText name)).mpr h
      exact absurd hnone hassigned.ne_none
    · exact hS _ trivial

section Asked

variable {types : TypeName → Prop} {cases keys : String → Prop}

/-- **The steps that ask for names** fail over them at most, and not at all if types and cases have
texts that are identifiers and keys are not empty. -/
theorem leaves_asWanted
    (h : ((∀ name, types name → IsIdentifier (typeText name)) ∧ (∀ c, cases c → IsIdentifier c) ∧
      ∀ k, keys k → k ≠ "") ∨ ∀ e : EmitError, e.IsNaming → S e) :
    Leaves AsWanted S types cases keys where
  type name hname := typeIdentifier_within name (h.imp_left fun h => h.1 name hname)
  case name hname := by
    refine .identifier fun hnone => ?_
    rcases h with h | hS
    · exact absurd hnone (h.2.1 name hname).ne_none
    · exact hS _ trivial
  field owner key hkey := by
    have hscope : fieldScope owner ≠ "" ∧ fieldScope owner ≠ typeScope := by
      constructor <;> intro heq <;>
        simpa [fieldScope, typeScope, String.toList_append] using congrArg String.toList heq
    exact memberIdentifier_within hscope key (h.imp_left fun h => h.2.2 key hkey)

/-! ## §3 A run -/

/-- **A method gets an identifier**, whatever the event is called. -/
theorem methodLeaves_asWanted : MethodLeaves AsWanted S where
  builtin name := memberIdentifier_within ⟨by decide, by decide⟩ name (.inl (by simp))
  rule rule := memberIdentifier_within ⟨by decide, by decide⟩ (methodName rule)
    (.inl (by simp [methodId]))

/-- **A run over a model without faults** asks for the names of the listed types, and does nothing
else that may fail. -/
theorem acceptedRun_within (leaves : Leaves AsWanted S types cases keys) {s : Schema}
    (hfaults : ∀ t ∈ s.namedTypes, t.faults = [])
    (h : ∀ t ∈ s.namedTypes, Asks types cases keys t) (runtime : RuntimePath) (o : Options) :
    Within AsWanted S (acceptedRun runtime Options.defaultClient o s) := by
  refine run_within leaves methodLeaves_asWanted hfaults h ?_ runtime o
  refine register_bind_within .client (.inl ⟨by decide, by decide, by decide⟩)
    fun base assigned hbase hextends => ?_
  obtain rfl := hbase.of_client
  refine .identifier fun hnone => ?_
  have hassigned := (isIdentifier_extends hextends (by decide) (by decide)).mpr (by decide)
  exact absurd hnone hassigned.ne_none

end Asked

/-! ## §4 What a run got -/

/-- **All names that the type asks for can be had**: its text and those of the types it is written
with are identifiers, so are the names of its cases, and no key is empty. -/
def Nameable (t : PropertyType) : Prop :=
  Asks (fun name => IsIdentifier (typeText name)) IsIdentifier (· ≠ "") t

section Settled

variable (hR : AsWanted R)

include hR

theorem isIdentifier_of_settled {name : TypeName} {i : Identifier}
    (h : (typeIdentifier name).Settled R i) : IsIdentifier (typeText name) := by
  obtain ⟨hne, text, hget, hi⟩ := settled_typeIdentifier_iff.mp h
  obtain ⟨base, hbase, hextends⟩ := hR.get? hget
  rw [hbase.of_type] at hextends
  exact (isIdentifier_extends hextends hne (mark_not_mem_typeText name)).mp
    (isIdentifier_of_some hi)

theorem isIdentifier_of_mention {t : PropertyType} {x : TypeExpr} (h : (typeExpr t).Settled R x)
    {name : TypeName} (hname : name ∈ t.mentions) : IsIdentifier (typeText name) := by
  obtain ⟨i, -, hi⟩ := exists_right_of_forall₂ (settled_mentions h) hname
  exact isIdentifier_of_settled hR hi

theorem asksField_of_settled {owner : String} {fields : List Field} {declared : List FieldDecl}
    (h : (fieldDecls owner fields).Settled R declared) {f : Field} (hf : f ∈ fields) :
    AsksField (fun name => IsIdentifier (typeText name)) (· ≠ "") f.key f.type := by
  obtain ⟨d, -, hd⟩ := exists_right_of_forall₂ (settled_fieldDecls_iff.mp h) hf
  obtain ⟨name, hname, type, htype, -⟩ := settled_fieldDecl_iff.mp hd
  exact ⟨(settled_fieldIdentifier_iff.mp hname).1.1, fun _ => isIdentifier_of_mention hR htype⟩

theorem asksCase_of_settled {v : VariantType} {c : VariantCase} (hfits : v.Fits c) {d : CaseDecl}
    (h : (caseDecl v c).Settled R d) :
    AsksCase (fun name => IsIdentifier (typeText name)) IsIdentifier (· ≠ "") v c := by
  obtain ⟨name, hname, hcase⟩ := caseSettled_of_settled h
  have hname := isIdentifier_of_some hname
  cases hcase with
  | @wrapped k f type htag hf htype =>
    refine ⟨hname, fun g hg => ?_, fun hsome => ?_, fun hfallback => ?_⟩
    · rw [hf] at hg
      obtain rfl := List.mem_singleton.mp hg
      exact fun _ => isIdentifier_of_mention hR htype
    · -- a case that wraps a value has no discriminator beside it
      cases hfits.fitting with
      | literal _ _ _ hliteral _ => exact CaseTag.noConfusion (htag.symm.trans hliteral)
      | fallback _ _ hfallback _ => exact CaseTag.noConfusion (htag.symm.trans hfallback)
      | bare _ _ hnone _ _ _ =>
        rw [hnone] at hsome
        cases hsome
    · exact CaseTag.noConfusion (htag.symm.trans hfallback)
  | tagged _ _ hdefault hfields =>
    refine ⟨hname, fun f hf => (asksField_of_settled hR hfields hf).mentions,
      fun _ f hf => (asksField_of_settled hR hfields hf).key, fun hfallback => ?_⟩
    rw [VariantCase.isDefault, hfallback] at hdefault
    cases hdefault
  | @default disc fields last _ hdisc hfields hlast =>
    refine ⟨hname, fun f hf => (asksField_of_settled hR hfields hf).mentions,
      fun _ f hf => (asksField_of_settled hR hfields hf).key, fun _ d hd => ?_⟩
    obtain rfl := Option.some.inj (hdisc.symm.trans hd)
    obtain ⟨name, hname, type, htype, -⟩ := settled_discriminatorDecl_iff.mp hlast
    exact ⟨(settled_fieldIdentifier_iff.mp hname).1.1, fun _ => isIdentifier_of_mention hR htype⟩

/-- **A type that was declared could be named.** -/
theorem nameable_of_settled {t : PropertyType} (hfaults : t.faults = []) {d : Declaration}
    (h : DeclarationSettled R t d) : Nameable t := by
  cases h with
  | typeAlias hname htarget =>
    exact ⟨isIdentifier_of_settled hR hname, fun _ => isIdentifier_of_mention hR htarget⟩
  | record hname hfields =>
    exact ⟨isIdentifier_of_settled hR hname, fun _ => asksField_of_settled hR hfields⟩
  | enumeration hname hcases =>
    refine ⟨isIdentifier_of_settled hR hname, fun c hc => ?_⟩
    obtain ⟨d, -, i, hi, -⟩ := exists_right_of_forall₂ (settled_enumCaseDecls_iff.mp hcases) hc
    exact isIdentifier_of_some hi
  | variant hname hcases =>
    refine ⟨isIdentifier_of_settled hR hname, fun c hc => ?_⟩
    obtain ⟨d, -, hd⟩ := exists_right_of_forall₂ (settled_caseDecls_iff.mp hcases) hc
    exact asksCase_of_settled hR ((VariantType.faults_eq_nil_iff.mp hfaults).fits c hc) hd

end Settled

end Bindings.Emit

/-! ## §5 Models and plans -/

open Bindings Bindings.Emit

/-- Writing what a run emits cannot fail. -/
theorem Bindings.exists_generate_iff {o : Options} {s : Schema} :
    (∃ out, generate o s = .ok out) ↔ ∃ emitted, emit o s = .ok emitted := by
  unfold generate
  cases emit o s with
  | ok emitted => exact iff_of_true ⟨_, rfl⟩ ⟨emitted, rfl⟩
  | error e => exact iff_of_false (fun ⟨_, h⟩ => by cases h) (fun ⟨_, h⟩ => by cases h)

theorem Bindings.generate_eq_error_iff {o : Options} {s : Schema} {e : EmitError} :
    generate o s = .error e ↔ emit o s = .error e := by
  unfold generate
  cases emit o s with
  | ok emitted => exact iff_of_false (fun h => by cases h) (fun h => by cases h)
  | error fault =>
    exact ⟨fun h => congrArg Except.error (Except.error.inj h),
      fun h => congrArg Except.error (Except.error.inj h)⟩

section Models

variable {s : Schema} (hfaults : ∀ t ∈ s.namedTypes, t.faults = [])

include hfaults

/-- A run with the default options fails over a name if at all. -/
theorem Bindings.emit_default_naming {e : EmitError} (h : emit {} s = .error e) : e.IsNaming := by
  rw [emit_default, start_eq_error_iff] at h
  exact (acceptedRun_within (leaves_asWanted (.inr fun _ => id)) hfaults
    (fun t _ => asks_anything t) _ _ _ .start).1 e h

/-- **A run with the default options gives something** exactly if all names can be had. -/
theorem Bindings.emit_default_iff :
    (∃ e, emit {} s = .ok e) ↔ ∀ t ∈ s.namedTypes, Nameable t := by
  rw [emit_default]
  constructor
  · rintro ⟨e, h⟩ t ht
    obtain ⟨R, hgives⟩ := start_eq_ok_iff.mp h
    -- that names are as they were wanted holds of every run, so nothing is asked of the plan here
    have hR : AsWanted R := (acceptedRun_within (S := fun _ => True)
      (leaves_asWanted (.inr fun _ _ => trivial)) hfaults (fun t _ => asks_anything t) _ _ _
      .start).2 e R hgives
    obtain ⟨hdeclared, -⟩ := declarations_of_run (runSettled_of_gives Options.client_default hgives)
    obtain ⟨d, -, hd⟩ := exists_right_of_forall₂ hdeclared ht
    exact nameable_of_settled hR (hfaults t ht) hd
  · intro hnames
    cases h : start (acceptedRun Options.defaultRuntime Options.defaultClient {} s) with
    | ok e => exact ⟨e, rfl⟩
    | error e =>
      -- with these names no step has a way to fail
      have hleaves : Leaves AsWanted (fun _ => False) (fun name => IsIdentifier (typeText name))
          IsIdentifier (· ≠ "") :=
        leaves_asWanted (.inl ⟨fun _ => id, fun _ => id, fun _ => id⟩)
      exact ((acceptedRun_within hleaves hfaults hnames _ _ _ .start).1 e
        (start_eq_error_iff.mp h)).elim

end Models

/-- **A plan that is accepted generates exactly if all its names can be had**, whatever the names
are, how they collide and in which order they are met; and it fails over a name if at all.  Events
may be called anything, and so may fields that have a key. -/
theorem Document.generate_iff_nameable {doc : Document} {s : Schema} (h : doc.toSchema = .ok s) :
    ((∃ out, generate {} s = .ok out) ↔ ∀ t ∈ s.namedTypes, Nameable t) ∧
      ∀ e, generate {} s = .error e → e.IsNaming := by
  obtain ⟨s₀, -, hvalid⟩ := except_bind_eq_ok.mp h
  obtain ⟨hnone, rfl⟩ := Schema.validate_eq_ok_iff.mp hvalid
  have hfaults : ∀ t ∈ s.namedTypes, t.faults = [] := fun t ht =>
    Schema.faults_of_mem_namedTypes hnone ht
  refine ⟨?_, fun e he => emit_default_naming hfaults (generate_eq_error_iff.mp he)⟩
  rw [exists_generate_iff, emit_default_iff hfaults]

/-- A plan with one property, a number. -/
def Document.measured (property : String) : Document where
  name := "areas"
  metadata := .unknown
  customTypes := []
  properties := [(property, ⟨none, [.number], [], none⟩)]
  rules := []

/-- Its model. -/
def Document.measuredModel (property : String) : Schema :=
  ⟨"areas", .unknown, [],
    [(property, .aliasType ⟨.property property, none, .scalar .number⟩)], []⟩

theorem Document.generate_area :
    (measured "area m2").toSchema = .ok (measuredModel "area m2") ∧
      ∃ out, generate {} (measuredModel "area m2") = .ok out := by
  have haccepted : (measured "area m2").toSchema = .ok (measuredModel "area m2") := rfl
  refine ⟨haccepted, (generate_iff_nameable haccepted).1.mpr fun t ht => ?_⟩
  obtain rfl := List.mem_singleton.mp ht
  exact ⟨by decide, fun _ hname => absurd hname List.not_mem_nil⟩

/-- The numeral is kept as part of a word, and no identifier may hold it. -/
theorem Document.generate_squares :
    (measured "area m²").toSchema = .ok (measuredModel "area m²") ∧
      generate {} (measuredModel "area m²") = .error (.notIdentifier "PropertyAreaM²") := by
  refine ⟨rfl, ?_⟩
  rw [generate, emit_default]
  rfl

end TrackingPlan
