import TrackingPlan.Proofs.Bindings.Emitters
import TrackingPlan.Proofs.Layout.OfSchema
import TrackingPlan.Proofs.Schema.Mentions

/-!
# How emitting can fail

Emitting fails where it asks for a name: a type, a case, a field or a method.  What these steps do
is taken as given here (`Leaves`, `MethodLeaves`), and carried through all the emitters: on names
with which they fail only in some ways and keep an invariant, so does every emitter
(`allTypeItems_within`), and so does a whole run (`run_within`).  The only other failures are of
cases that do not fit their variant, and a type without faults has none.

§1 failing within bounds · §2 what is asked for · §3 declarations · §4 the code that writes values ·
§5 the items of types · §6 the wrapper and a run.
-/

namespace TrackingPlan

namespace Bindings.Emit

open Naming (Registry)
open PropertyType (typeLayout?)

variable {α β : Type} {I : Registry → Prop} {S : EmitError → Prop} {x : Emit α} {f : α → Emit β}

/-! ## §1 Failing within bounds -/

/-- **From names with `I` the step fails only in the ways `S`**, and keeps `I` if it does not. -/
def Within (I : Registry → Prop) (S : EmitError → Prop) (x : Emit α) : Prop :=
  ∀ r, I r → (∀ e, x.Fails r e → S e) ∧ ∀ a r', x.Gives r a r' → I r'

namespace Within

theorem pure (a : α) : Within I S (pure a : Emit α) := by
  intro r hr
  refine ⟨fun e h => (fails_pure_iff.mp h).elim, fun b r' h => ?_⟩
  obtain ⟨-, rfl⟩ := gives_pure_iff.mp h
  exact hr

theorem reject {error : SchemaError} (h : S (.rejected error)) :
    Within I S (reject error : Emit α) := by
  intro r _
  refine ⟨fun e he => ?_, fun a r' ha => (gives_reject_iff.mp ha).elim⟩
  obtain rfl := fails_reject_iff.mp he
  exact h

theorem bind (hx : Within I S x) (hf : ∀ a, Within I S (f a)) : Within I S (x >>= f) := by
  intro r hr
  obtain ⟨hfails, hgives⟩ := hx r hr
  constructor
  · intro e h
    rcases fails_bind_iff.mp h with h | ⟨a, r', ha, h⟩
    · exact hfails e h
    · exact (hf a r' (hgives a r' ha)).1 e h
  · intro b r'' h
    obtain ⟨a, r', ha, h⟩ := gives_bind_iff.mp h
    exact (hf a r' (hgives a r' ha)).2 b r'' h

theorem map (hx : Within I S x) (g : α → β) : Within I S (g <$> x) := by
  rw [map_eq_pure_bind]
  exact hx.bind fun a => .pure (g a)

theorem mapM {step : α → Emit β} {xs : List α} (h : ∀ a ∈ xs, Within I S (step a)) :
    Within I S (xs.mapM step) := by
  induction xs with
  | nil => exact .pure []
  | cons a rest ih =>
    rw [List.mapM_cons]
    refine (h a List.mem_cons_self).bind fun b => ?_
    exact (ih fun c hc => h c (List.mem_cons_of_mem a hc)).bind fun bs => .pure (b :: bs)

theorem identifier {found : Option Identifier} {name : String}
    (h : found = none → S (.notIdentifier name)) : Within I S (identifier found name) := by
  cases found with
  | some i => exact .pure i
  | none =>
    intro r _
    refine ⟨fun e he => ?_, fun i r' hi => ?_⟩
    · obtain ⟨-, rfl⟩ := fails_identifier_iff.mp he
      exact h rfl
    · obtain ⟨hnone, -⟩ := gives_identifier_iff.mp hi
      cases hnone

end Within

/-! ## §2 What is asked for -/

/-- **The steps that ask for names** fail within bounds on these types, cases and keys. -/
structure Leaves (I : Registry → Prop) (S : EmitError → Prop) (types : TypeName → Prop)
    (cases keys : String → Prop) : Prop where
  type : ∀ name, types name → Within I S (typeIdentifier name)
  case : ∀ name, cases name → Within I S (caseIdentifier name)
  field : ∀ owner key, keys key → Within I S (fieldIdentifier owner key)

/-- **The steps that ask for methods** fail within bounds: those of the wrapper itself, and those of
rules. -/
structure MethodLeaves (I : Registry → Prop) (S : EmitError → Prop) : Prop where
  builtin : ∀ name, Within I S (methodIdentifier ("builtin:" ++ name) name)
  rule : ∀ rule, Within I S (methodIdentifier (methodId rule) (methodName rule))

theorem MethodLeaves.reserveBuiltins (methodLeaves : MethodLeaves I S) (names : List String) :
    Within I S (reserveBuiltins names) := by
  induction names with
  | nil => exact .pure ()
  | cons name rest ih => exact (methodLeaves.builtin name).bind fun _ => ih

/-- The field asks for a key, and for the types that it is written with. -/
structure AsksField (types : TypeName → Prop) (keys : String → Prop) (key : String)
    (type : PropertyType) : Prop where
  key : keys key
  mentions : ∀ name ∈ type.mentions, types name

/-- **What a case asks for**: its name; and the type that it wraps, or its fields and, if it is the
default case, the discriminator. -/
structure AsksCase (types : TypeName → Prop) (cases keys : String → Prop) (v : VariantType)
    (c : VariantCase) : Prop where
  name : cases c.name
  mentions : ∀ f ∈ c.fields, ∀ name ∈ f.type.mentions, types name
  fields : v.discriminator.isSome = true → ∀ f ∈ c.fields, keys f.key
  discriminator : c.tag = .fallback → ∀ d, v.discriminator = some d →
    AsksField types keys d.key d.type

/-- **What the declaration of a type asks for**, and so does the code for it. -/
def Asks (types : TypeName → Prop) (cases keys : String → Prop) : PropertyType → Prop
  | .aliasType a => types a.name ∧ ∀ name ∈ a.target.mentions, types name
  | .record r => types r.name ∧ ∀ f ∈ r.fields, AsksField types keys f.key f.type
  | .enumeration e => types e.name ∧ ∀ c ∈ e.cases, cases c.name
  | .variant v => types v.name ∧ ∀ c ∈ v.allCases, AsksCase types cases keys v c
  | .scalar _ | .array _ | .untyped _ => True

/-- A named type asks for its name. -/
theorem Asks.of_name {types : TypeName → Prop} {cases keys : String → Prop} {t : PropertyType}
    {name : TypeName} (h : Asks types cases keys t) (hname : t.name? = some name) : types name := by
  cases t with
  | scalar kind => cases hname
  | array item => cases hname
  | untyped kind => cases hname
  | _ =>
    obtain rfl := Option.some.inj hname
    exact h.1

section Emitters

variable {types : TypeName → Prop} {cases keys : String → Prop}
variable (leaves : Leaves I S types cases keys)

include leaves

/-! ## §3 Declarations -/

theorem typeExpr_within {t : PropertyType} (h : ∀ name ∈ t.mentions, types name) :
    Within I S (typeExpr t) := by
  induction t using PropertyType.parts_induction with
  | step t ih =>
    cases t with
    | scalar kind => exact .pure _
    | untyped kind => exact .pure _
    | array item => exact (ih item (List.mem_singleton.mpr rfl) h).bind fun _ => .pure _
    | enumeration e => exact (leaves.type _ (h _ List.mem_cons_self)).bind fun _ => .pure _
    | record r => exact (leaves.type _ (h _ List.mem_cons_self)).bind fun _ => .pure _
    | variant v => exact (leaves.type _ (h _ List.mem_cons_self)).bind fun _ => .pure _
    | aliasType a => exact (leaves.type _ (h _ List.mem_cons_self)).bind fun _ => .pure _

theorem fieldDecls_within {owner : String} {fields : List Field}
    (h : ∀ f ∈ fields, AsksField types keys f.key f.type) :
    Within I S (fieldDecls owner fields) := by
  rw [fieldDecls_eq]
  refine .mapM fun f hf => (leaves.field owner f.key (h f hf).key).bind fun name => ?_
  exact (typeExpr_within leaves (h f hf).mentions).bind fun type => .pure _

theorem discriminatorDecl_within {owner : String} {d : Discriminator}
    (h : AsksField types keys d.key d.type) : Within I S (discriminatorDecl owner d) :=
  (leaves.field owner d.key h.key).bind fun _ =>
    (typeExpr_within leaves h.mentions).bind fun _ => .pure _

/-- **The declaration of a case that fits its variant** asks for names and does nothing else that
may fail. -/
theorem caseDecl_within {v : VariantType} {c : VariantCase} (hfits : v.Fits c)
    (h : AsksCase types cases keys v c) : Within I S (caseDecl v c) := by
  rw [caseDecl_eq]
  refine (leaves.case c.name h.name).bind fun name => ?_
  have hfields : v.discriminator.isSome = true →
      ∀ f ∈ c.fields, AsksField types keys f.key f.type :=
    fun hsome f hf => ⟨h.fields hsome f hf, h.mentions f hf⟩
  unfold caseBody
  cases hfits.fitting with
  | literal d l hdisc htag _ =>
    simp only [htag, hdisc]
    refine (fieldDecls_within leaves (hfields (by simp [hdisc]))).bind fun fields => ?_
    have hdefault : c.isDefault = false := by simp [VariantCase.isDefault, htag]
    rw [hdefault]
    exact .pure _
  | fallback d hdisc htag _ =>
    simp only [htag, hdisc]
    refine (fieldDecls_within leaves (hfields (by simp [hdisc]))).bind fun fields => ?_
    have hdefault : c.isDefault = true := by simp [VariantCase.isDefault, htag]
    rw [hdefault]
    exact (discriminatorDecl_within leaves (h.discriminator htag d hdisc)).bind fun _ => .pure _
  | bare k f hdisc htag hf _ =>
    simp only [htag, hf]
    have hmem : f ∈ c.fields := by simp [hf]
    exact (typeExpr_within leaves (h.mentions f hmem)).bind fun _ => .pure _

theorem declareVariant_within {v : VariantType} (hfits : ∀ c ∈ v.allCases, v.Fits c)
    (h : Asks types cases keys (.variant v)) : Within I S (declareVariant v) := by
  obtain ⟨hname, hcases⟩ := h
  refine (leaves.type v.name hname).bind fun name => ?_
  refine Within.bind ?_ fun _ => .pure _
  rw [caseDecls_eq]
  exact .mapM fun c hc => caseDecl_within leaves (hfits c hc) (hcases c hc)

/-- **The declaration of a type without faults.** -/
theorem declare?_within {t : PropertyType} (hfaults : t.faults = [])
    (h : Asks types cases keys t) {declare : Emit Declaration}
    (hdeclare : declare? t = some declare) :
    Within I S declare := by
  cases t with
  | scalar kind => cases hdeclare
  | array item => cases hdeclare
  | untyped kind => cases hdeclare
  | aliasType a =>
    obtain rfl := Option.some.inj hdeclare
    exact (leaves.type a.name h.1).bind fun _ => (typeExpr_within leaves h.2).bind fun _ => .pure _
  | record r =>
    obtain rfl := Option.some.inj hdeclare
    exact (leaves.type r.name h.1).bind fun _ =>
      (fieldDecls_within leaves h.2).bind fun _ => .pure _
  | enumeration e =>
    obtain rfl := Option.some.inj hdeclare
    refine (leaves.type e.name h.1).bind fun _ => Within.bind ?_ fun _ => .pure _
    rw [enumCaseDecls_eq]
    exact .mapM fun c hc => (leaves.case c.name (h.2 c hc)).bind fun _ => .pure _
  | variant v =>
    obtain rfl := Option.some.inj hdeclare
    exact declareVariant_within leaves (VariantType.faults_eq_nil_iff.mp hfaults).fits h

/-! ## §4 The code that writes values -/

theorem fieldInserts_within {owner : String} {fields : List Field}
    (h : ∀ f ∈ fields, keys f.key) :
    Within I S (fieldInserts owner (fields.map Field.layout)) := by
  rw [fieldInserts_eq]
  refine .mapM fun l hl => ?_
  obtain ⟨f, hf, rfl⟩ := List.mem_map.mp hl
  exact (leaves.field owner f.key (h f hf)).bind fun _ => .pure _

theorem caseIdentifiers_within {names : List String} (h : ∀ name ∈ names, cases name) :
    Within I S (caseIdentifiers names) := by
  rw [caseIdentifiers_eq]
  exact .mapM fun name hname => leaves.case name (h name hname)

theorem objectArms_within {v : VariantType} {cs : List VariantCase} {layouts : List CaseLayout}
    (hfits : ∀ c ∈ cs, v.Fits c) (h : ∀ c ∈ cs, AsksCase types cases keys v c)
    (hlayouts : List.Forall₂ (fun c l => v.caseLayout c = .ok l) cs layouts) :
    Within I S (objectArms v.name layouts) := by
  induction hlayouts with
  | nil => exact .pure []
  | @cons c l rest ls hl _ ih =>
    have ih := ih (fun c hc => hfits c (List.mem_cons_of_mem _ hc))
      fun c hc => h c (List.mem_cons_of_mem _ hc)
    have hasks := h c List.mem_cons_self
    cases (hfits c List.mem_cons_self).fitting with
    | literal d tag hdisc _ hlayout =>
      obtain rfl := Except.ok.inj (hl.symm.trans hlayout)
      have hfields : Within I S (fieldInserts (caseOwner v.name c.name)
          (c.fields.map Field.layout)) :=
        fieldInserts_within leaves (hasks.fields (by simp [hdisc]))
      refine Within.bind ?_ fun _ => ih.bind fun _ => .pure _
      exact (leaves.case c.name hasks.name).bind fun _ => hfields.bind fun _ => .pure _
    | fallback d hdisc htag hlayout =>
      obtain rfl := Except.ok.inj (hl.symm.trans hlayout)
      have hfields : Within I S (fieldInserts (caseOwner v.name c.name)
          (c.fields.map Field.layout)) :=
        fieldInserts_within leaves (hasks.fields (by simp [hdisc]))
      have hlast :=
        leaves.field (caseOwner v.name c.name) d.key (hasks.discriminator htag d hdisc).key
      refine Within.bind ?_ fun _ => ih.bind fun _ => .pure _
      exact (leaves.case c.name hasks.name).bind fun _ => hfields.bind fun _ =>
        hlast.bind fun _ => .pure _
    | bare k f _ _ _ hlayout =>
      -- a case for bare values has no arm here, so it asks for nothing
      obtain rfl := Except.ok.inj (hl.symm.trans hlayout)
      exact ih

/-- **The code for a type without faults.** -/
theorem encodeImpl_within {t : PropertyType} (hfaults : t.faults = [])
    (h : Asks types cases keys t) {layout : TypeLayout} (hlayout : typeLayout? t = some layout) :
    Within I S (encodeImpl layout) := by
  cases t with
  | scalar kind => cases hlayout
  | array item => cases hlayout
  | untyped kind => cases hlayout
  | aliasType a => cases hlayout
  | record r =>
    obtain rfl := Option.some.inj hlayout
    exact (leaves.type r.name h.1).bind fun _ =>
      (fieldInserts_within leaves fun f hf => (h.2 f hf).key).bind fun _ => .pure _
  | enumeration e =>
    obtain rfl := Option.some.inj hlayout
    refine (leaves.type e.name h.1).bind fun _ => Within.bind ?_ fun _ => .pure _
    refine caseIdentifiers_within leaves fun name hname => ?_
    obtain ⟨c, hc, rfl⟩ := List.mem_map.mp hname
    exact h.2 c hc
  | variant v =>
    obtain ⟨layouts, hlayouts, rfl⟩ := Option.map_eq_some_iff.mp hlayout
    have hlayouts := mapM_eq_ok_iff.mp (except_toOption_eq_some.mp hlayouts)
    refine (leaves.type v.name h.1).bind fun _ => ?_
    split
    · refine Within.bind ?_ fun _ => .pure _
      refine caseIdentifiers_within leaves fun name hname => ?_
      obtain ⟨l, hl, rfl⟩ := List.mem_map.mp hname
      obtain ⟨c, hc, hlayout⟩ := exists_left_of_forall₂ hlayouts hl
      rw [VariantType.caseLayout_name hlayout]
      exact (h.2 c hc).name
    · refine Within.bind ?_ fun _ => .pure _
      exact objectArms_within leaves (VariantType.faults_eq_nil_iff.mp hfaults).fits h.2 hlayouts

/-! ## §5 The items of types -/

/-- **The items of the named types of a model without faults.** -/
theorem allTypeItems_within {s : Schema} (hfaults : ∀ t ∈ s.namedTypes, t.faults = [])
    (h : ∀ t ∈ s.namedTypes, Asks types cases keys t) :
    Within I S (allTypeItems s.layouts s.namedTypes) := by
  have hlayouts := Layouts.ofSchema_eq hfaults
  rw [allTypeItems_eq]
  refine .map (.mapM fun t ht => ?_) joined
  unfold typeItems
  split
  · rename_i declare name hdeclare hname
    refine (declare?_within leaves (hfaults t ht) (h t ht) hdeclare).bind fun d => ?_
    split
    · rename_i layout hlayout
      have hfind : s.layouts.find? name = typeLayout? t :=
        Schema.get?_entries_eq ht (by rw [PropertyType.id?, hname, Option.map_some])
      refine Within.bind ?_ fun _ => .pure _
      exact encodeImpl_within leaves (hfaults t ht) (h t ht) (hfind.symm.trans hlayout)
    · exact .pure _
  · exact .pure _

/-! ## §6 The wrapper and a run -/

variable (methodLeaves : MethodLeaves I S)

include methodLeaves

theorem method_within {rule : Rule}
    (h : ∀ t, rule.payload = .typed t → ∀ name ∈ t.mentions, types name) :
    Within I S (method rule) := by
  refine (methodLeaves.rule rule).bind fun name => Within.bind ?_ fun _ => .pure _
  cases hpayload : rule.payload with
  | empty => exact .pure _
  | untyped => exact .pure _
  | typed t => exact (typeExpr_within leaves (h t hpayload)).bind fun _ => .pure _

theorem wrapper_within {s : Schema} (h : ∀ t ∈ s.roots, ∀ name ∈ t.mentions, types name)
    (client : Identifier) (platform generatorVersion : String) (metadata : PlanMetadata) :
    Within I S (wrapper s client platform generatorVersion metadata) := by
  refine (methodLeaves.reserveBuiltins _).bind fun _ => Within.bind ?_ fun _ => .pure _
  rw [methods_eq]
  refine .map (.mapM fun rule hrule => method_within leaves methodLeaves fun t ht => ?_) _
  exact h t (Schema.mem_roots_of_payload (List.mem_filter.mp hrule).1 ht)

/-- **A run over a model without faults** asks for the name of the client and for the names of the
listed types, and does nothing else that may fail. -/
theorem run_within {s : Schema} (hfaults : ∀ t ∈ s.namedTypes, t.faults = [])
    (h : ∀ t ∈ s.namedTypes, Asks types cases keys t) {client : Identifier}
    (hclient : Within I S (reserveType clientId client.text)) (runtime : RuntimePath)
    (o : Options) : Within I S (acceptedRun runtime client o s) := by
  -- a payload mentions listed types only, and each of these asks for its own name
  have hroots : ∀ t ∈ s.roots, ∀ name ∈ t.mentions, types name := by
    intro t ht name hname
    obtain ⟨named, hnamed, hname⟩ := s.exists_named_of_root ht hname
    exact (h named hnamed).of_name hname
  refine hclient.bind fun _ => ?_
  rw [Layouts.ofSchema_eq hfaults]
  show Within I S (pure s.layouts >>= fun layouts => _)
  rw [pure_bind]
  refine (allTypeItems_within leaves hfaults h).bind fun _ => ?_
  exact (wrapper_within leaves methodLeaves hroots _ _ _ _).bind fun _ => .pure _

end Emitters

end Bindings.Emit

end TrackingPlan
