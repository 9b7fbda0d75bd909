import TrackingPlan.Proofs.Bindings.Closure
import TrackingPlan.Proofs.Bindings.FixedValues

/-!
# Types that are written as objects

Three parts say which types are written as objects: the model itself (`PropertyType.isObject`), the
layouts, by what they write, and the emitted code, by the trait that it implements.  They agree: a
type that the model calls an object writes nothing but objects, and emitted code can take any value
of it for an object.  Payloads have such types in a model that is accepted, so each method of the
wrapper can pass what it is given (`object_types_agree`).

§1 what objects write · §2 emitted types that are objects · §3 payloads · §4 runs
-/

namespace TrackingPlan

/-! ## §1 What objects write -/

/-- The JSON value is an object. -/
def Json.IsObject (json : Json) : Prop :=
  ∃ entries, json = .object entries

namespace VariantWriter

variable {w : VariantWriter}

theorem writeObjectCase_isObject {c : CaseWriter} {key : String} {values : Entries TypedValue}
    {tag : Except EncodeError Json} {json : Json}
    (h : w.writeObjectCase c key values tag = .ok json) : json.IsObject := by
  unfold writeObjectCase at h
  obtain ⟨object, -, h⟩ := except_bind_eq_ok.mp h
  obtain ⟨last, -, h⟩ := except_bind_eq_ok.mp h
  exact ⟨_, (Except.ok.inj h).symm⟩

theorem writeNamed_isObject {d : String × Writer} (hd : w.discriminator = some d) {name : String}
    {values : Entries TypedValue} {json : Json} (h : w.writeNamed name values = .ok json) :
    json.IsObject := by
  unfold writeNamed at h
  rw [hd] at h
  split at h
  · cases h
  · split at h
    · exact writeObjectCase_isObject h
    · exact writeObjectCase_isObject h
    · rename_i hnone _
      cases hnone
    · cases h

theorem writeTagged_isObject {tag : Literal} {values : Entries TypedValue} {json : Json}
    (h : w.writeTagged tag values = .ok json) : json.IsObject := by
  unfold writeTagged at h
  split at h
  · cases h
  · split at h
    · cases h
    · split at h
      · cases h
      · split at h
        · exact writeObjectCase_isObject h
        · exact writeObjectCase_isObject h

/-- Where there is a discriminator, no case wraps a bare value. -/
theorem writeBare_ne_ok {d : String × Writer} (hd : w.discriminator = some d) (value : TypedValue)
    (json : Json) : w.writeBare value ≠ .ok json := by
  intro h
  unfold writeBare at h
  rw [hd] at h
  split at h
  · cases h
  · split at h
    · rename_i hnone _
      cases hnone
    · cases h

/-- **A variant with a discriminator writes objects**, however the value selects its case. -/
theorem write_isObject {d : String × Writer} (hd : w.discriminator = some d) {value : TypedValue}
    {json : Json} (h : w.write value = .ok json) : json.IsObject := by
  cases hbare : value.isBare with
  | true =>
    rw [write_of_bare w hbare] at h
    exact absurd h (writeBare_ne_ok hd value json)
  | false =>
    cases value with
    | case name values => exact writeNamed_isObject hd h
    | tagged tag values => exact writeTagged_isObject h
    | _ => cases hbare

end VariantWriter

namespace PropertyType

theorem isObject_aliasType (a : AliasType) : (aliasType a).isObject = a.target.isObject := by
  obtain ⟨name, description, target⟩ := a
  rfl

/-- **A type that is an object writes nothing else.** -/
theorem write_isObject {t : PropertyType} (ht : t.isObject = true) {value : TypedValue}
    {json : Json} (h : t.write value = .ok json) : json.IsObject := by
  induction t using PropertyType.parts_induction with
  | step t ih =>
    cases t with
    | aliasType a =>
      rw [isObject_aliasType] at ht
      rw [write_aliasType] at h
      exact ih a.target (List.mem_singleton.mpr rfl) ht h
    | untyped kind =>
      cases kind with
      | any => cases ht
      | object =>
        cases value with
        | untyped data =>
          cases data with
          | object entries => exact ⟨entries, (Except.ok.inj h).symm⟩
          | _ => cases h
        | _ => cases h
    | record r =>
      rw [write_record] at h
      cases value with
      | record values =>
        obtain ⟨object, -, h⟩ := except_bind_eq_ok.mp h
        exact ⟨object, (Except.ok.inj h).symm⟩
      | _ => cases h
    | variant v =>
      rw [write_variant] at h
      have hsome : v.writer.discriminator.isSome = true := by
        have hdiscriminator : v.discriminator.isSome = true := by
          simpa [isObject, resolved, VariantType.isPrimitive] using ht
        simpa [VariantType.writer] using hdiscriminator
      obtain ⟨d, hd⟩ := Option.isSome_iff_exists.mp hsome
      exact VariantWriter.write_isObject hd h
    | scalar kind => cases ht
    | enumeration e => cases ht
    | array item => cases ht

end PropertyType

namespace Schema

/-- A payload with a type is an object in a model without faults. -/
theorem payload_isObject {s : Schema} (hfaults : s.faults = []) {r : Rule} (hr : r ∈ s.rules)
    {t : PropertyType} (ht : r.payload = .typed t) : t.isObject = true := by
  obtain ⟨hrules, -⟩ := List.append_eq_nil_iff.mp hfaults
  obtain ⟨-, hrules⟩ := List.append_eq_nil_iff.mp hrules
  have hr := List.flatMap_eq_nil_iff.mp hrules r hr
  unfold Rule.faults at hr
  obtain ⟨-, hpayload⟩ := List.append_eq_nil_iff.mp hr
  simp only [ht] at hpayload
  by_contra hnot
  rw [if_neg hnot] at hpayload
  cases hpayload

end Schema

namespace Bindings

open Emit
open Naming (Registry)
open PropertyType (typeLayout?)

/-! ## §2 Emitted types that are objects -/

/-- **Emitted code takes values of the type for objects**: the library does so for untyped objects,
the code for a type does if it begins with the implementation of the trait, and an alias stands for
its target. -/
inductive Emitted.TakesForObject (e : Emitted) : TypeExpr → Prop
  | untyped : e.TakesForObject (.untyped .object)
  | encoded {i : EncodeImpl} {body more : List Token} : i ∈ e.encodeImpls →
      i.tokens e.runtime = implementation e.runtime "EncodeObject" i.name "encode_object"
        "JsonObject" body ++ more →
      e.TakesForObject (.named i.name)
  | typeAlias {docs : List String} {name : Identifier} {target : TypeExpr} :
      .typeAlias docs name target ∈ e.declarations → e.TakesForObject target →
      e.TakesForObject (.named name)

variable {o : Options} {s : Schema} {R : Registry} {e : Emitted} {t : PropertyType}

theorem Emitted.mem_encodeImpls {i : EncodeImpl} (h : .encodeImpl i ∈ e.typeItems) :
    i ∈ e.encodeImpls :=
  List.mem_filterMap.mpr ⟨_, h, rfl⟩

/-- Each named type has its items among those of a run. -/
theorem exists_items_of_run (h : RunSettled o s R e) {layouts : Layouts}
    (hlayouts : Layouts.ofSchema s = .ok layouts) (ht : t ∈ s.namedTypes) :
    ∃ group, ItemsSettled R layouts t group ∧ ∀ item ∈ group.items, item ∈ e.typeItems := by
  obtain ⟨groups, hflatten, hgroups⟩ := h.exists_groups hlayouts
  obtain ⟨group, hmem, -, hsettled⟩ := exists_right_of_forall₂ hgroups ht
  exact ⟨group, hsettled, fun item hitem =>
    hflatten ▸ List.mem_flatten.mpr ⟨group.items, List.mem_map.mpr ⟨group, hmem, rfl⟩, hitem⟩⟩

/-- A named type is emitted as its identifier. -/
theorem settled_typeExpr_named {name : TypeName} (hname : t.name? = some name) {i : Identifier}
    (hi : (typeIdentifier name).Settled R i) : (typeExpr t).Settled R (.named i) := by
  cases t with
  | scalar kind => cases hname
  | array item => cases hname
  | untyped kind => cases hname
  | _ =>
    obtain rfl := Option.some.inj hname
    rw [typeExpr, settled_bind_iff (.typeIdentifier _) (fun _ => .pure _)]
    exact ⟨i, hi, settled_pure_iff.mpr rfl⟩

/-- **A type that is an object is emitted as one**: what it is emitted as is taken for an object. -/
theorem exists_takesForObject (h : RunSettled o s R e) (hfaults : s.faults = [])
    (hids : s.IdsIdentify) (ht : s.Reaches t) (hobject : t.isObject = true) :
    ∃ x, (typeExpr t).Settled R x ∧ e.TakesForObject x := by
  have hlayouts : Layouts.ofSchema s = .ok s.layouts :=
    Layouts.ofSchema_eq fun u hu => Schema.faults_of_mem_namedTypes hfaults hu
  induction t using PropertyType.parts_induction with
  | step t ih =>
    cases t with
    | scalar kind => cases hobject
    | enumeration en => cases hobject
    | array item => cases hobject
    | untyped kind =>
      cases kind with
      | any => cases hobject
      | object => exact ⟨_, settled_pure_iff.mpr rfl, .untyped⟩
    | aliasType a =>
      have hmem := Schema.mem_namedTypes_of_reaches hids ht (i := a.name.id) rfl
      obtain ⟨d, hd, hsettled⟩ := exists_right_of_forall₂ (declarations_of_run h).1 hmem
      cases hsettled with
      | typeAlias hname htarget =>
        have ha : a.target ∈ (PropertyType.aliasType a).parts := List.mem_singleton.mpr rfl
        rw [PropertyType.isObject_aliasType] at hobject
        obtain ⟨x, hx, htakes⟩ := ih a.target ha (ht.trans (.of_mem_parts ha)) hobject
        -- what the target is emitted as is settled, so the alias was declared with it
        obtain rfl := hx.unique htarget
        exact ⟨_, settled_typeExpr_named rfl hname, .typeAlias hd htakes⟩
    | record r =>
      have hmem := Schema.mem_namedTypes_of_reaches hids ht (i := r.name.id) rfl
      obtain ⟨items, hitems, hall⟩ := exists_items_of_run h hlayouts hmem
      obtain ⟨i, hi, hsettled⟩ := exists_impl_of_settled hlayouts hmem rfl hitems
      cases hsettled with
      | record hname _ =>
        exact ⟨_, settled_typeExpr_named rfl hname,
          .encoded (e.mem_encodeImpls (hall _ hi)) (objectTokens_eq _ _)⟩
    | variant v =>
      have hmem := Schema.mem_namedTypes_of_reaches hids ht (i := v.name.id) rfl
      obtain ⟨items, hitems, hall⟩ := exists_items_of_run h hlayouts hmem
      obtain ⟨cases, hcases⟩ := Layouts.exists_caseLayouts_of_ofSchema hlayouts hmem
      have hlayout : typeLayout? (.variant v) = some (.variant ⟨v, cases⟩) := by
        rw [typeLayout?, hcases]
        rfl
      obtain ⟨i, hi, hsettled⟩ := exists_impl_of_settled hlayouts hmem hlayout hitems
      cases hsettled with
      | bare hprimitive _ _ =>
        -- such a variant has no discriminator, and the model calls none of them an object
        simp [PropertyType.isObject, PropertyType.resolved, hprimitive] at hobject
      | object _ hname _ =>
        exact ⟨_, settled_typeExpr_named rfl hname,
          .encoded (e.mem_encodeImpls (hall _ hi)) (objectTokens_eq _ _)⟩

/-! ## §3 Payloads -/

/-- The call that gives the payload of a method as an object. -/
def objectCall (rt : RuntimePath) (part : CallPart) : List Token :=
  inLibrary rt ["EncodeObject", "encode_object"] ++ [.group .round [.word part.argumentName]]

/-- **The method passes its payload as an object**, of the type that the payload of its rule is
emitted as: its tokens take a reference to a value of the type, and call the trait that the type
implements with it. -/
structure Method.PassesObject (m : Method) (e : Emitted) (x : TypeExpr) : Prop where
  argument : m.argument = .typed x
  takes : e.TakesForObject x
  call : payloadTokens? e.runtime m.part m.argument = some (objectCall e.runtime m.part)
  spelled : m.Spelled e.runtime (m.tokens e.runtime)
  parameter : ∃ type, x.Spelled e.runtime type ∧
    StandIn ([.word m.part.argumentName, .mark ":", .mark "&"] ++ type) (m.tokens e.runtime)
  passed : StandIn (objectCall e.runtime m.part) (m.tokens e.runtime)

variable {rt : RuntimePath} {ts : List Token}

/-- A method with a typed argument takes a reference to a value of the type. -/
theorem Method.Spelled.parameter {m : Method} (h : m.Spelled rt ts) {x : TypeExpr}
    (hx : m.argument = .typed x) : ∃ type, x.Spelled rt type ∧
      StandIn ([.word m.part.argumentName, .mark ":", .mark "&"] ++ type) ts := by
  cases h with
  | mk _ hparameter _ _ =>
    rw [hx] at hparameter
    cases hparameter with
    | @typed _ type htype =>
      refine ⟨type, htype, StandIn.prepend ?_ _⟩
      exact .within [.word "pub", .word "fn", .ident m.name] _ ((StandIn.self _).prepend _)

/-- **A method with a typed argument calls the trait with it**: for the payload, or for context
traits. -/
theorem Method.Spelled.passed {m : Method} (h : m.Spelled rt ts) {x : TypeExpr}
    (hx : m.argument = .typed x) : StandIn (objectCall rt m.part) ts := by
  have hobject : m.argument.object rt m.part = objectCall rt m.part := by
    rw [hx]
    rfl
  cases h with
  | @mk _ leading parameter target payload options _ _ _ hpasses =>
    refine StandIn.prepend (.within [.word "pub", .word "fn", .ident m.name, _] [] ?_) _
    cases hpasses with
    | contextTraits _ _ =>
      rw [hobject]
      refine StandIn.append (.prepend (.prepend ?_ _) _) _
      exact .within [.mark ".", .word "with_context_traits"] [] (.self _)
    | payload _ =>
      rw [hobject]
      refine StandIn.prepend ?_ _
      exact .within [.mark ";", .word "self", .mark ".", .word "client", .mark ".",
        .word m.call.text] [.mark ";"] (((StandIn.self _).prepend _).append _)

theorem passesObject_of_settled (h : RunSettled o s R e) (hfaults : s.faults = [])
    (hids : s.IdsIdentify) {r : Rule} (hr : r ∈ s.rules) {m : Method}
    (hm : (method r).Settled R m) (ht : r.payload = .typed t) :
    ∃ x, (typeExpr t).Settled R x ∧ m.PassesObject e x := by
  have hreach := Schema.reaches_of_mem_roots (Schema.mem_roots_of_payload hr ht)
  obtain ⟨x, hx, htakes⟩ := exists_takesForObject h hfaults hids hreach
    (Schema.payload_isObject hfaults hr ht)
  have hspelled := m.spelled_tokens e.runtime
  obtain ⟨name, -, argument, hargument, rfl⟩ := settled_method_iff.mp hm
  rw [ht, Emit.argument, settled_bind_iff (.typeExpr t) (fun _ => .pure _)] at hargument
  obtain ⟨y, hy, hargument⟩ := hargument
  obtain rfl := settled_pure_iff.mp hargument
  obtain rfl := hx.unique hy
  have hcall := (payloadTokens?_eq e.runtime r.part (.typed x)).trans (if_neg (by simp))
  exact ⟨_, hx, rfl, htakes, hcall, hspelled, hspelled.parameter rfl, hspelled.passed rfl⟩

/-! ## §4 Runs -/

/-- **Model, layouts and emitted code agree on what is an object.**  In a model that is accepted and
whose ids identify its types, whatever a type that is an object writes through the layouts is one,
under its name too if it has any.  In every run over the model such a type is emitted as a type that
emitted code takes for an object, and the method of a rule with a typed payload passes it as one. -/
theorem object_types_agree (hvalid : s.validate = .ok s) (hids : s.IdsIdentify) :
    ∃ ls, Layouts.ofSchema s = .ok ls ∧
      (∀ t, s.Reaches t → t.isObject = true → ∀ value json,
        (ls.encoding value t.layout = .ok json → json.IsObject) ∧
          ∀ name, t.name? = some name → ls.encode name value = .ok json → json.IsObject) ∧
      ∀ o e, emit o s = .ok e → ∃ R, RunSettled o s R e ∧
        (∀ t, s.Reaches t → t.isObject = true →
          ∃ x, (typeExpr t).Settled R x ∧ e.TakesForObject x) ∧
        List.Forall₂ (fun r m => ∀ t, r.payload = .typed t →
            ∃ x, (typeExpr t).Settled R x ∧ Method.PassesObject m e x)
          (s.rules.filter Rule.isValid) e.wrapper.methods := by
  obtain ⟨hfaults, -⟩ := Schema.validate_eq_ok_iff.mp hvalid
  refine ⟨s.layouts, Layouts.ofSchema_eq fun t ht => Schema.faults_of_mem_namedTypes hfaults ht,
    fun t ht hobject value json => ?_, fun o e he => ?_⟩
  · have hwrites := (Schema.layouts_hold_of_reaches hfaults hids ht).writes value
    have hobjects : s.layouts.encoding value t.layout = .ok json → json.IsObject := fun h =>
      PropertyType.write_isObject hobject (hwrites.symm.trans h)
    refine ⟨hobjects, fun name hname h => hobjects ?_⟩
    have hi : t.id? = some name.id := by rw [PropertyType.id?, hname, Option.map_some]
    have hmem := Schema.mem_namedTypes_of_reaches hids ht hi
    rwa [Layouts.encode, Schema.layoutOf_layouts hmem hname] at h
  · obtain ⟨R, hrun⟩ := runSettled_of_emit he
    refine ⟨R, hrun, fun t ht hobject => exists_takesForObject hrun hfaults hids ht hobject, ?_⟩
    have hmethods := (List.forall₂_and_left _ _).mpr
      ⟨fun r hr => (List.mem_filter.mp hr).1, hrun.wrapper.methods⟩
    exact hmethods.imp fun r m h t ht => passesObject_of_settled hrun hfaults hids h.1 h.2 ht

/-- Data of any shape, under a name of its own. -/
def extras : PropertyType :=
  .aliasType ⟨.property "extras", none, .untyped .object⟩

/-- A plan with an alias and a variant for payloads. -/
def extraSignUps : Schema where
  name := "Accounts"
  metadata := .unknown
  customTypes := [("contact", .variant signUpContact)]
  properties := [("extras", extras)]
  rules := [⟨⟨.identify, "", none⟩, .traits, .typed extras⟩,
    ⟨⟨.track, "Sign up", none⟩, .properties, .typed (.variant signUpContact)⟩]

theorem extraSignUps_idsIdentify : extraSignUps.IdsIdentify := by
  refine .of_types [.variant signUpContact, extras, .untyped .object, .scalar .integer,
    .scalar .string] ?_ ?_ (by decide)
  · simp [Schema.roots, extraSignUps, Payload.type?]
  · simp [PropertyType.parts, extras, signUpContact, VariantType.allCases]

/-- The two methods of a run pass their payloads as objects. -/
theorem object_types_agree_extraSignUps : ∃ e m m' x x', emit {} extraSignUps = .ok e ∧
    e.wrapper.methods = [m, m'] ∧ Method.PassesObject m e x ∧ Method.PassesObject m' e x' := by
  obtain ⟨ls, -, -, hruns⟩ := object_types_agree (s := extraSignUps)
    (Schema.validate_eq_ok_iff.mpr ⟨rfl, rfl⟩) extraSignUps_idsIdentify
  obtain ⟨e, he⟩ : ∃ e, emit {} extraSignUps = .ok e := exists_emit_default (by decide +kernel)
  obtain ⟨R, -, -, hmethods⟩ := hruns {} e he
  obtain ⟨m, rest, hm, hrest, heq⟩ := List.forall₂_cons_left_iff.mp hmethods
  obtain ⟨m', rest', hm', hrest', rfl⟩ := List.forall₂_cons_left_iff.mp hrest
  obtain rfl := List.forall₂_nil_left_iff.mp hrest'
  obtain ⟨x, -, hx⟩ := hm extras rfl
  obtain ⟨x', -, hx'⟩ := hm' (.variant signUpContact) rfl
  exact ⟨e, m, m', x, x', he, heq, hx, hx'⟩

end Bindings

end TrackingPlan
