import TrackingPlan.Proofs.Bindings.Closure
import TrackingPlan.Proofs.Bindings.Identifiers

/-!
# Whatever is emitted is named by identifiers

A run fails on the first name that is no identifier.  So the items of a run that does not fail are
spelled out with identifiers only, whatever the names of the plan are (`areIdentifiers_of_emit`).

§1 names that are settled · §2 declarations · §3 the code that writes values · §4 a run.
-/

namespace TrackingPlan.Bindings

/-- All identifiers of a list are written as identifiers. -/
def AreIdentifiers (is : List Identifier) : Prop :=
  ∀ i ∈ is, IsIdentifier i.text

@[simp]
theorem areIdentifiers_nil : AreIdentifiers [] :=
  fun _ h => absurd h List.not_mem_nil

@[simp]
theorem areIdentifiers_cons {i : Identifier} {is : List Identifier} :
    AreIdentifiers (i :: is) ↔ IsIdentifier i.text ∧ AreIdentifiers is :=
  List.forall_mem_cons

@[simp]
theorem areIdentifiers_append {is js : List Identifier} :
    AreIdentifiers (is ++ js) ↔ AreIdentifiers is ∧ AreIdentifiers js :=
  List.forall_mem_append

@[simp]
theorem areIdentifiers_flatMap {α : Type} {f : α → List Identifier} {xs : List α} :
    AreIdentifiers (xs.flatMap f) ↔ ∀ x ∈ xs, AreIdentifiers (f x) :=
  List.forall_mem_flatMap

@[simp]
theorem areIdentifiers_map {α : Type} {f : α → Identifier} {xs : List α} :
    AreIdentifiers (xs.map f) ↔ ∀ x ∈ xs, IsIdentifier (f x).text :=
  List.forall_mem_map

namespace Emit

open Naming (Registry)

variable {R : Registry}

/-! ## §1 Names that are settled -/

theorem isIdentifier_ofText? {text : String} {i : Identifier}
    (h : Identifier.ofText? text = some i) : IsIdentifier i.text := by
  rw [Identifier.text_of_ofText? h]
  exact isIdentifier_of_some h

/-- The identifier of a member is written as one, also if it is raw. -/
theorem isIdentifier_ofMember? {name : String} {i : Identifier}
    (h : Identifier.ofMember? name = some i) : IsIdentifier i.text := by
  unfold Identifier.ofMember? at h
  split at h
  · have hraw : i = ⟨name, true⟩ := by
      unfold Identifier.raw? at h
      split at h
      · exact (Option.some.inj h).symm
      · cases h
    -- the mark of a raw identifier leads back to the name
    have hread : Identifier.ofText? i.text = Identifier.raw? name := by
      rw [hraw, Identifier.ofText?]
      simp [Identifier.text, Identifier.rawMark]
    exact isIdentifier_of_some (hread.trans h)
  · exact isIdentifier_ofText? h

theorem isIdentifier_type {name : TypeName} {i : Identifier}
    (h : (typeIdentifier name).Settled R i) : IsIdentifier i.text := by
  obtain ⟨-, text, -, htext⟩ := settled_typeIdentifier_iff.mp h
  exact isIdentifier_ofText? htext

theorem isIdentifier_field {owner key : String} {i : Identifier}
    (h : (fieldIdentifier owner key).Settled R i) : IsIdentifier i.text := by
  obtain ⟨-, text, -, htext⟩ := settled_fieldIdentifier_iff.mp h
  exact isIdentifier_ofMember? htext

theorem isIdentifier_method {id name : String} {i : Identifier}
    (h : (methodIdentifier id name).Settled R i) : IsIdentifier i.text := by
  obtain ⟨-, text, -, htext⟩ := settled_methodIdentifier_iff.mp h
  exact isIdentifier_ofMember? htext

theorem areIdentifiers_typeExpr {t : PropertyType} {x : TypeExpr}
    (h : (typeExpr t).Settled R x) : AreIdentifiers x.names := by
  intro i hi
  obtain ⟨name, -, hname⟩ := exists_mention_of_settled h hi
  exact isIdentifier_type hname

/-! ## §2 Declarations -/

theorem areIdentifiers_fieldDecls {owner : String} {fields : List Field} {ds : List FieldDecl}
    (h : (fieldDecls owner fields).Settled R ds) :
    AreIdentifiers (ds.flatMap FieldDecl.identifiers) := by
  refine areIdentifiers_flatMap.mpr fun d hd => ?_
  obtain ⟨f, -, hf⟩ := exists_left_of_forall₂ (settled_fieldDecls_iff.mp h) hd
  obtain ⟨name, hname, type, htype, rfl⟩ := settled_fieldDecl_iff.mp hf
  exact areIdentifiers_cons.mpr ⟨isIdentifier_field hname, areIdentifiers_typeExpr htype⟩

theorem areIdentifiers_caseDecl {v : VariantType} {c : VariantCase} {d : CaseDecl}
    (h : (caseDecl v c).Settled R d) : AreIdentifiers d.identifiers := by
  obtain ⟨name, hname, hcase⟩ := caseSettled_of_settled h
  have hname := isIdentifier_ofText? hname
  cases hcase with
  | wrapped _ _ htype =>
    exact areIdentifiers_cons.mpr ⟨hname, areIdentifiers_typeExpr htype⟩
  | tagged _ _ _ hfields =>
    exact areIdentifiers_cons.mpr ⟨hname, areIdentifiers_fieldDecls hfields⟩
  | default _ _ hfields hlast =>
    obtain ⟨last, hkey, type, htype, rfl⟩ := settled_discriminatorDecl_iff.mp hlast
    refine areIdentifiers_cons.mpr ⟨hname, ?_⟩
    rw [List.flatMap_append, areIdentifiers_append]
    refine ⟨areIdentifiers_fieldDecls hfields, ?_⟩
    simp [FieldDecl.identifiers, isIdentifier_field hkey, areIdentifiers_typeExpr htype]

theorem areIdentifiers_declaration {t : PropertyType} {d : Declaration}
    (h : DeclarationSettled R t d) : AreIdentifiers d.identifiers := by
  cases h with
  | typeAlias hname htarget =>
    exact areIdentifiers_cons.mpr ⟨isIdentifier_type hname, areIdentifiers_typeExpr htarget⟩
  | record hname hfields =>
    exact areIdentifiers_cons.mpr ⟨isIdentifier_type hname, areIdentifiers_fieldDecls hfields⟩
  | enumeration hname hcases =>
    refine areIdentifiers_cons.mpr ⟨isIdentifier_type hname, areIdentifiers_map.mpr fun d hd => ?_⟩
    obtain ⟨c, -, case, hcase, rfl⟩ :=
      exists_left_of_forall₂ (settled_enumCaseDecls_iff.mp hcases) hd
    exact isIdentifier_ofText? hcase
  | variant hname hcases =>
    refine areIdentifiers_cons.mpr
      ⟨isIdentifier_type hname, areIdentifiers_flatMap.mpr fun d hd => ?_⟩
    obtain ⟨c, -, hc⟩ := exists_left_of_forall₂ (settled_caseDecls_iff.mp hcases) hd
    exact areIdentifiers_caseDecl hc

/-! ## §3 The code that writes values -/

/-- The fields that are written, and the statements that write them. -/
theorem areIdentifiers_inserts {owner : String} {fields : List FieldLayout}
    {own : List (Identifier × Insert)} (h : (fieldInserts owner fields).Settled R own) :
    AreIdentifiers (own.map (·.1)) ∧
      AreIdentifiers ((own.map (·.2)).flatMap Insert.identifiers) := by
  have hown : ∀ p ∈ own, IsIdentifier p.1.text ∧ p.2.identifiers = [p.1] := by
    intro p hp
    obtain ⟨f, -, name, hname, rfl⟩ := exists_left_of_forall₂ (settled_fieldInserts_iff.mp h) hp
    exact ⟨isIdentifier_field hname, rfl⟩
  constructor
  · exact areIdentifiers_map.mpr fun p hp => (hown p hp).1
  · refine areIdentifiers_flatMap.mpr fun insert hinsert => ?_
    obtain ⟨p, hp, rfl⟩ := List.mem_map.mp hinsert
    rw [(hown p hp).2]
    exact areIdentifiers_cons.mpr ⟨(hown p hp).1, areIdentifiers_nil⟩

theorem areIdentifiers_arm {variant : TypeName} {l : CaseLayout} {arm : ObjectArm}
    (h : ArmSettled R variant l arm) : AreIdentifiers arm.identifiers := by
  cases h with
  | fixed hname hown =>
    obtain ⟨hbindings, hinserts⟩ := areIdentifiers_inserts hown
    refine areIdentifiers_cons.mpr ⟨isIdentifier_ofText? hname, areIdentifiers_append.mpr ?_⟩
    rw [List.flatMap_append, areIdentifiers_append]
    exact ⟨hbindings, hinserts, areIdentifiers_nil⟩
  | supplied hname hown hlast =>
    obtain ⟨hbindings, hinserts⟩ := areIdentifiers_inserts hown
    have hkey : AreIdentifiers [_] :=
      areIdentifiers_cons.mpr ⟨isIdentifier_field hlast, areIdentifiers_nil⟩
    refine areIdentifiers_cons.mpr ⟨isIdentifier_ofText? hname, areIdentifiers_append.mpr ?_⟩
    rw [List.flatMap_append, areIdentifiers_append, areIdentifiers_append]
    exact ⟨⟨hbindings, hkey⟩, hinserts, hkey⟩

/-- Every arm is that of a case: cases that are written bare have none. -/
theorem areIdentifiers_objectArms {variant : TypeName} {layouts : List CaseLayout} :
    ∀ {arms : List ObjectArm}, (objectArms variant layouts).Settled R arms →
      ∀ arm ∈ arms, AreIdentifiers arm.identifiers := by
  induction layouts with
  | nil =>
    intro arms h
    obtain rfl := settled_pure_iff.mp h
    exact fun _ harm => absurd harm List.not_mem_nil
  | cons l rest ih =>
    intro arms h
    cases l with
    | bare name kind value => exact ih h
    | object case fields key slot =>
      obtain ⟨arm, harm, others, hothers, rfl⟩ := settled_objectArms_cons_iff.mp h
      exact List.forall_mem_cons.mpr ⟨areIdentifiers_arm (armSettled_of_settled harm), ih hothers⟩

theorem areIdentifiers_caseIdentifiers {names : List String} {found : List Identifier}
    (h : (caseIdentifiers names).Settled R found) : AreIdentifiers found := by
  intro i hi
  obtain ⟨name, -, hname⟩ := exists_left_of_forall₂ (settled_caseIdentifiers_iff.mp h) hi
  exact isIdentifier_ofText? hname

theorem areIdentifiers_encodeImpl {layout : TypeLayout} {i : EncodeImpl}
    (h : ImplSettled R layout i) : AreIdentifiers i.identifiers := by
  cases h with
  | record hname hown =>
    exact areIdentifiers_cons.mpr ⟨isIdentifier_type hname, (areIdentifiers_inserts hown).2⟩
  | enumeration hname harms =>
    refine areIdentifiers_cons.mpr ⟨isIdentifier_type hname, areIdentifiers_map.mpr ?_⟩
    intro arm harm
    exact areIdentifiers_caseIdentifiers harms _ (List.of_mem_zip harm).1
  | bare _ hname harms =>
    exact areIdentifiers_cons.mpr ⟨isIdentifier_type hname, areIdentifiers_caseIdentifiers harms⟩
  | object _ hname harms =>
    exact areIdentifiers_cons.mpr
      ⟨isIdentifier_type hname, areIdentifiers_flatMap.mpr (areIdentifiers_objectArms harms)⟩

/-! ## §4 A run -/

theorem areIdentifiers_method {r : Rule} {m : Method} (h : (method r).Settled R m) :
    AreIdentifiers (m.name :: m.uses) := by
  obtain ⟨name, hname, arg, harg, rfl⟩ := settled_method_iff.mp h
  refine areIdentifiers_cons.mpr ⟨isIdentifier_method hname, ?_⟩
  cases hpayload : r.payload with
  | empty =>
    rw [hpayload] at harg
    obtain rfl := settled_pure_iff.mp harg
    exact areIdentifiers_nil
  | untyped =>
    rw [hpayload] at harg
    obtain rfl := settled_pure_iff.mp harg
    exact areIdentifiers_nil
  | typed t =>
    rw [hpayload, argument, settled_bind_iff (.typeExpr t) (fun _ => .pure _)] at harg
    obtain ⟨x, hx, harg⟩ := harg
    obtain rfl := settled_pure_iff.mp harg
    exact areIdentifiers_typeExpr hx

theorem areIdentifiers_typeItems {layouts : Layouts} {t : PropertyType} {group : TypeItems}
    (h : ItemsSettled R layouts t group) : ∀ i ∈ group.items, AreIdentifiers i.identifiers := by
  cases h with
  | unnamed _ => exact fun _ hi => absurd hi List.not_mem_nil
  | declared _ _ hd =>
    exact List.forall_mem_singleton.mpr (areIdentifiers_declaration hd)
  | encoded _ _ hd hi =>
    exact List.forall_mem_cons.mpr ⟨areIdentifiers_declaration hd,
      List.forall_mem_singleton.mpr (areIdentifiers_encodeImpl hi)⟩

/-- The first name that is claimed is given out as it is, and it is an identifier. -/
theorem isIdentifier_first {id name : String} {i : Identifier} {r : Registry}
    (h : (reserveType id name).Gives {} i r) : IsIdentifier name := by
  obtain ⟨hfirst, -⟩ := reserveType_first h
  obtain ⟨assigned, r', hregister, hidentifier⟩ := gives_bind_iff.mp h
  obtain ⟨htext, rfl⟩ := gives_identifier_iff.mp hidentifier
  obtain ⟨-, hregistered⟩ := Registry.register_eq_ok_iff.mp (gives_register_iff.mp hregister)
  -- what was given out is both the name and what was read as an identifier
  obtain rfl : name = assigned :=
    Option.some.inj (hfirst.symm.trans hregistered.get?_eq_some)
  exact isIdentifier_of_some htext

theorem isIdentifier_client {o : Options} {s : Schema} {e : Emitted} (h : emit o s = .ok e) :
    IsIdentifier e.wrapper.name.text := by
  obtain ⟨R, hrun⟩ := runSettled_of_emit h
  obtain ⟨R', h⟩ := start_eq_ok_iff.mp h
  obtain ⟨runtime, r, hruntime, h⟩ := gives_bind_iff.mp h
  obtain ⟨-, rfl⟩ := gives_accept_iff.mp hruntime
  obtain ⟨client, r, hclient, h⟩ := gives_bind_iff.mp h
  obtain ⟨haccepted, rfl⟩ := gives_accept_iff.mp hclient
  obtain ⟨_, _, hreserved, -⟩ := gives_bind_iff.mp h
  obtain rfl := Except.ok.inj (hrun.client.symm.trans haccepted)
  exact isIdentifier_first hreserved

/-- **Every identifier that an emitted item is spelled out with is one.** -/
theorem areIdentifiers_of_emit {o : Options} {s : Schema} {e : Emitted} (h : emit o s = .ok e) :
    ∀ i ∈ e.items, AreIdentifiers i.identifiers := by
  obtain ⟨R, hrun⟩ := runSettled_of_emit h
  obtain ⟨layouts, -, hlayouts, -⟩ := hrun.parts
  obtain ⟨groups, hflatten, hgroups⟩ := hrun.exists_groups hlayouts
  intro i hi
  rcases List.mem_append.mp hi with htype | hwrapper
  · rw [← hflatten] at htype
    obtain ⟨items, hitems, hi⟩ := List.mem_flatten.mp htype
    obtain ⟨group, hgroup, rfl⟩ := List.mem_map.mp hitems
    obtain ⟨t, -, -, hsettled⟩ := exists_left_of_forall₂ hgroups hgroup
    exact areIdentifiers_typeItems hsettled i hi
  · obtain rfl := List.mem_singleton.mp hwrapper
    refine areIdentifiers_cons.mpr
      ⟨isIdentifier_client h, areIdentifiers_flatMap.mpr fun m hm => ?_⟩
    obtain ⟨r, -, hr⟩ := exists_left_of_forall₂ hrun.wrapper.methods hm
    exact areIdentifiers_method hr

end Emit

end TrackingPlan.Bindings
