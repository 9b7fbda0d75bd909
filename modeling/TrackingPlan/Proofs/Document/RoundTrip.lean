import TrackingPlan.Document.Writer
import TrackingPlan.Proofs.Bindings.Calls
import TrackingPlan.Proofs.Document.ReadBack
import TrackingPlan.Proofs.Schema.Enumeration

/-!
# Plan documents round-trip

What is written of a document that was read reads as that document again.  A record is written with
all its fields, so it is read back if its fields are; what a field may hold beyond that comes from
how it was read: a map without repeated keys, and a reference with a name.

§1 single values · §2 object schemas · §3 declarations · §4 documents.
-/

namespace TrackingPlan

open Json (Source)

/-- **A reference is written as it was read.** -/
theorem TypeRef.text_of_ofText {s : String} {r : TypeRef} (h : TypeRef.ofText s = .ok r) :
    r.text = s := by
  unfold TypeRef.ofText at h
  split at h
  case h_9 =>
    split at h
    · rename_i name hname
      obtain rfl := Except.ok.inj h
      unfold TypeRef.customName? at hname
      dsimp only at hname
      split at hname
      · rename_i hmark
        split at hname
        · cases hname
        · obtain ⟨rest, hrest⟩ := List.isPrefixOf_iff_prefix.mp hmark
          obtain rfl := Option.some.inj hname
          apply String.toList_inj.mp
          rw [TypeRef.text, String.toList_append, String.toList_ofList, ← hrest,
            List.drop_left]
      · cases hname
    · cases h
  all_goals
    obtain rfl := Except.ok.inj h
    rfl

namespace Document

/-! ## §1 Single values -/

theorem roundTrips_typeRef : RoundTrips readTypeRef fun r => .string r.text := by
  intro depth s r hread room _
  unfold readTypeRef at hread
  split at hread
  · rename_i text
    have htext := TypeRef.text_of_ofText (except_toOption_eq_some.mp hread)
    show (TypeRef.ofText r.text).toOption = some r
    rw [htext]
    exact hread
  · cases hread

theorem readsBack_int64 (i : Int64) : ReadsBack readInt64 Json.ofInt64 i :=
  fun _ _ => Literal.toInt64?_toInt i

theorem readsBack_optionalText (s : Option String) : ReadsBack (readOption readText) textJson s :=
  readsBack_option rfl (fun _ => rfl) nofun fun x _ => readsBack_text x

theorem roundTrips_optionalTypeRef :
    RoundTrips (readOption readTypeRef) fun r => textJson (r.map TypeRef.text) :=
  roundTrips_typeRef.option rfl (fun _ => rfl) nofun

theorem roundTrips_jsonList : RoundTrips (readList readJson) Json.array := by
  have hwrite : Json.array = fun values => .array (values.map id) := by
    funext values
    rw [List.map_id]
  rw [hwrite]
  exact roundTrips_json.list

/-! ## §2 Object schemas -/

/-- What is written of the use of a property. -/
def PropertyUse.toJson (use : PropertyUse) : Json :=
  .object [("required", .bool use.required), ("schema", optionalSchemaJson use.schema)]

theorem usesJson_eq (uses : List (String × PropertyUse)) :
    usesJson uses = uses.map fun e => (e.1, e.2.toJson) := by
  induction uses with
  | nil => rfl
  | cons e rest ih =>
    obtain ⟨key, ⟨isRequired, schema⟩⟩ := e
    rw [usesJson, ih]
    rfl

theorem readUses_eq : readUses = readMap readUse := by
  funext depth s
  cases depth with
  | zero => rfl
  | succ depth => cases s <;> rfl

theorem ObjectSchema.toJson_ne_null (schema : ObjectSchema) : schema.toJson ≠ .null := by
  cases schema
  rw [ObjectSchema.toJson]
  exact nofun

/-- A nested schema is an optional field. -/
theorem readUse_succ (depth : Nat) (s : Source) :
    readUse (depth + 1) s = (do
      match ← slots ["required", "schema"] s with
      | [isRequired, schema] =>
        let schema ← optional readObjectSchema depth schema
        return ⟨← defaulted false readBool depth isRequired, schema⟩
      | _ => none) := by
  rw [readUse]
  refine bind_congr fun fields => ?_
  match fields with
  | [isRequired, none] => rfl
  | [isRequired, some s] => cases s <;> rfl
  | [] | [_] | _ :: _ :: _ :: _ => rfl

/-- The properties are a map that may be left out. -/
theorem readObjectSchema_succ (depth : Nat) (s : Source) :
    readObjectSchema (depth + 1) s = (do
      match ← slots ["properties", "additionalProperties"] s with
      | [properties, additional] =>
        let properties ← defaulted [] (readMap readUse) depth properties
        return ⟨properties, ← defaulted false readBool depth additional⟩
      | _ => none) := by
  rw [readObjectSchema, readUses_eq]
  refine bind_congr fun fields => ?_
  match fields with
  | [none, additional] | [some s, additional] => rfl
  | [] | [_] | _ :: _ :: _ :: _ => rfl

theorem readsBack_use {use : PropertyUse}
    (hschema : ReadsBack (readOption readObjectSchema) optionalSchemaJson use.schema) :
    ReadsBack readUse PropertyUse.toJson use := by
  obtain ⟨isRequired, schema⟩ := use
  intro room hroom
  obtain ⟨inner, rfl, hfields⟩ := room_of_object hroom
  simp only [List.forall_mem_cons] at hfields
  obtain ⟨-, hschemaRoom, -⟩ := hfields
  rw [readUse_succ, PropertyUse.toJson, slots_object (by simp [Entries.keys])]
  show (do
    let schema ← readOption readObjectSchema inner (optionalSchemaJson schema).toSource
    return (⟨isRequired, schema⟩ : PropertyUse)) = some ⟨isRequired, schema⟩
  rw [hschema inner hschemaRoom]
  rfl

theorem readsBack_objectSchema {schema : ObjectSchema}
    (huses : ReadsBack (readMap readUse)
      (fun uses => .object (uses.map fun e => (e.1, e.2.toJson))) schema.properties) :
    ReadsBack readObjectSchema ObjectSchema.toJson schema := by
  obtain ⟨properties, additional⟩ := schema
  intro room hroom
  rw [ObjectSchema.toJson, usesJson_eq] at hroom ⊢
  obtain ⟨inner, rfl, hfields⟩ := room_of_object hroom
  simp only [List.forall_mem_cons] at hfields
  obtain ⟨husesRoom, -⟩ := hfields
  rw [readObjectSchema_succ, slots_object (by simp [Entries.keys])]
  show (do
    let uses ← readMap readUse inner (Json.object (properties.map fun e => _)).toSource
    return (⟨uses, additional⟩ : ObjectSchema)) = some ⟨properties, additional⟩
  rw [huses inner husesRoom]
  rfl

theorem readsBack_empty : ReadsBack readObjectSchema ObjectSchema.toJson .empty :=
  readsBack_objectSchema (readsBack_map List.nodup_nil fun _ he => absurd he List.not_mem_nil)

/-- **Object schemas round-trip at every depth.** -/
theorem roundTrips_schemas (depth : Nat) :
    (∀ s use, readUse depth s = some use → ReadsBack readUse PropertyUse.toJson use) ∧
      ∀ s schema, readObjectSchema depth s = some schema →
        ReadsBack readObjectSchema ObjectSchema.toJson schema := by
  -- the two readers call each other further down, a schema's uses two levels below it
  induction depth using Nat.strong_induction_on with
  | h depth ih =>
    cases depth with
    | zero => exact ⟨nofun, nofun⟩
    | succ depth =>
      refine ⟨fun s use h => ?_, fun s schema h => ?_⟩
      · rw [readUse_succ] at h
        obtain ⟨fields, -, h⟩ := Option.bind_eq_some_iff.mp h
        split at h
        · obtain ⟨schema, hschema, h⟩ := Option.bind_eq_some_iff.mp h
          obtain ⟨_, -, h⟩ := Option.bind_eq_some_iff.mp h
          obtain rfl := Option.some.inj h
          refine readsBack_use (readsBack_option rfl (fun _ => rfl)
            ObjectSchema.toJson_ne_null fun x hx => ?_)
          obtain ⟨t, ht⟩ := exists_of_optional hschema x hx
          exact (ih depth (Nat.lt_succ_self depth)).2 t x ht
        · cases h
      · rw [readObjectSchema_succ] at h
        obtain ⟨fields, -, h⟩ := Option.bind_eq_some_iff.mp h
        split at h
        · obtain ⟨uses, huses, h⟩ := Option.bind_eq_some_iff.mp h
          obtain ⟨_, -, h⟩ := Option.bind_eq_some_iff.mp h
          obtain rfl := Option.some.inj h
          obtain ⟨hkeys, hvalues⟩ := exists_of_defaultedMap huses
          refine readsBack_objectSchema (readsBack_map hkeys fun e he => ?_)
          obtain ⟨d, hd, t, ht⟩ := hvalues e he
          exact (ih d (Nat.lt_succ_of_lt hd)).1 t e.2 ht
        · cases h

theorem roundTrips_objectSchema : RoundTrips readObjectSchema ObjectSchema.toJson :=
  fun depth => (roundTrips_schemas depth).2

/-! ## §3 Declarations -/

theorem roundTrips_optionalSchema :
    RoundTrips (readOption readObjectSchema) optionalSchemaJson :=
  roundTrips_objectSchema.option rfl (fun _ => rfl) ObjectSchema.toJson_ne_null

/-- Only the link is left out of what is written, and only where there is none. -/
theorem readsBack_metadata (m : PlanMetadata) : ReadsBack readMetadata PlanMetadata.toJson m := by
  obtain ⟨id, version, url⟩ := m
  intro room hroom
  obtain ⟨inner, rfl, -⟩ := room_of_object hroom
  have hversion := readsBack_int64 version inner (Nat.zero_le _)
  cases url with
  | none =>
    rw [readMetadata, PlanMetadata.toJson, slots_object (by simp [Entries.keys])]
    show (do
      let version ← readInt64 inner (Json.ofInt64 version).toSource
      return (⟨id, version, none⟩ : PlanMetadata)) = _
    rw [hversion]
    rfl
  | some url =>
    rw [readMetadata, PlanMetadata.toJson, slots_object (by simp [Entries.keys])]
    show (do
      let version ← readInt64 inner (Json.ofInt64 version).toSource
      return (⟨id, version, some url⟩ : PlanMetadata)) = _
    rw [hversion]
    rfl

/-- A constraint is written with its values, if it lists any. -/
theorem roundTrips_typeConfig : RoundTrips readTypeConfig TypeConfig.toJson := by
  intro depth s config h
  cases depth with
  | zero => cases h
  | succ depth =>
    obtain ⟨fields, -, h⟩ := Option.bind_eq_some_iff.mp h
    split at h
    · obtain ⟨values, hvalues, h⟩ := Option.bind_eq_some_iff.mp h
      obtain rfl := Option.some.inj h
      intro room hroom
      obtain ⟨inner, rfl, hfields⟩ := room_of_object hroom
      cases values with
      | none =>
        rw [readTypeConfig, TypeConfig.toJson, slots_object (by simp [Entries.keys])]
        rfl
      | some values =>
        obtain ⟨t, ht⟩ := exists_of_optional hvalues values rfl
        have hback := roundTrips_jsonList _ _ _ ht inner (hfields _ List.mem_cons_self)
        rw [readTypeConfig, TypeConfig.toJson, slots_object (by simp [Entries.keys])]
        show (do
          let values ← (readList readJson inner (Json.array values).toSource).map some
          return (⟨values⟩ : TypeConfig)) = _
        rw [hback]
        rfl
    · cases h

theorem roundTrips_optionalConfig : RoundTrips (readOption readTypeConfig) optionalConfigJson :=
  roundTrips_typeConfig.option rfl (fun _ => rfl) nofun

theorem roundTrips_case : RoundTrips readCase Case.toJson := by
  intro depth s c h
  cases depth with
  | zero => cases h
  | succ depth =>
    obtain ⟨fields, -, h⟩ := Option.bind_eq_some_iff.mp h
    split at h
    · obtain ⟨displayName, -, h⟩ := Option.bind_eq_some_iff.mp h
      obtain ⟨matchValues, hvalues, h⟩ := Option.bind_eq_some_iff.mp h
      obtain ⟨description, -, h⟩ := Option.bind_eq_some_iff.mp h
      obtain ⟨schema, hschema, h⟩ := Option.bind_eq_some_iff.mp h
      obtain rfl := Option.some.inj h
      have hvalues := roundTrips_jsonList.required hvalues
      have hschema := roundTrips_objectSchema.defaulted readsBack_empty hschema
      intro room hroom
      obtain ⟨inner, rfl, hfields⟩ := room_of_object hroom
      simp only [List.forall_mem_cons] at hfields
      obtain ⟨-, hvaluesRoom, hdescriptionRoom, hschemaRoom, -⟩ := hfields
      rw [readCase, Case.toJson, slots_object (by simp [Entries.keys])]
      show (do
        let matchValues ← readList readJson inner (Json.array matchValues).toSource
        let description ← readOption readText inner (textJson description).toSource
        let schema ← readObjectSchema inner schema.toJson.toSource
        return (⟨displayName, matchValues, description, schema⟩ : Case)) = _
      rw [hvalues inner hvaluesRoom, readsBack_optionalText _ inner hdescriptionRoom,
        hschema inner hschemaRoom]
      rfl
    · cases h

theorem roundTrips_variant : RoundTrips readVariant Variant.toJson := by
  intro depth s v h
  cases depth with
  | zero => cases h
  | succ depth =>
    obtain ⟨fields, -, h⟩ := Option.bind_eq_some_iff.mp h
    split at h
    · obtain ⟨kind, -, h⟩ := Option.bind_eq_some_iff.mp h
      obtain ⟨discriminator, -, h⟩ := Option.bind_eq_some_iff.mp h
      obtain ⟨cases, hcases, h⟩ := Option.bind_eq_some_iff.mp h
      obtain ⟨defaultSchema, hdefault, h⟩ := Option.bind_eq_some_iff.mp h
      obtain rfl := Option.some.inj h
      have hcases := roundTrips_case.list.defaulted readsBack_nil hcases
      have hdefault := roundTrips_optionalSchema.optional rfl hdefault
      intro room hroom
      obtain ⟨inner, rfl, hfields⟩ := room_of_object hroom
      simp only [List.forall_mem_cons] at hfields
      obtain ⟨-, -, hcasesRoom, hdefaultRoom, -⟩ := hfields
      rw [readVariant, Variant.toJson, slots_object (by simp [Entries.keys])]
      show (do
        let cases ← readList readCase inner (Json.array (cases.map Case.toJson)).toSource
        let defaultSchema ← readOption readObjectSchema inner
          (optionalSchemaJson defaultSchema).toSource
        return (⟨kind, discriminator, cases, defaultSchema⟩ : Variant)) = _
      rw [hcases inner hcasesRoom, hdefault inner hdefaultRoom]
      rfl
    · cases h

theorem roundTrips_customType : RoundTrips readCustomType CustomType.toJson := by
  intro depth s t h
  cases depth with
  | zero => cases h
  | succ depth =>
    obtain ⟨fields, -, h⟩ := Option.bind_eq_some_iff.mp h
    split at h
    · obtain ⟨description, -, h⟩ := Option.bind_eq_some_iff.mp h
      obtain ⟨type, htype, h⟩ := Option.bind_eq_some_iff.mp h
      obtain ⟨itemType, hitem, h⟩ := Option.bind_eq_some_iff.mp h
      obtain ⟨config, hconfig, h⟩ := Option.bind_eq_some_iff.mp h
      obtain ⟨schema, hschema, h⟩ := Option.bind_eq_some_iff.mp h
      obtain ⟨variants, hvariants, h⟩ := Option.bind_eq_some_iff.mp h
      obtain rfl := Option.some.inj h
      have htype := roundTrips_typeRef.required htype
      have hitem := roundTrips_optionalTypeRef.optional rfl hitem
      have hconfig := roundTrips_optionalConfig.optional rfl hconfig
      have hschema := roundTrips_optionalSchema.optional rfl hschema
      have hvariants := roundTrips_variant.list.defaulted readsBack_nil hvariants
      intro room hroom
      obtain ⟨inner, rfl, hfields⟩ := room_of_object hroom
      simp only [List.forall_mem_cons] at hfields
      obtain ⟨hdescriptionRoom, htypeRoom, hitemRoom, hconfigRoom, hschemaRoom, hvariantsRoom, -⟩ :=
        hfields
      rw [readCustomType, CustomType.toJson, slots_object (by simp [Entries.keys])]
      show (do
        let description ← readOption readText inner (textJson description).toSource
        let type ← readTypeRef inner (Json.string type.text).toSource
        let itemType ← readOption readTypeRef inner
          (textJson (itemType.map TypeRef.text)).toSource
        let config ← readOption readTypeConfig inner (optionalConfigJson config).toSource
        let schema ← readOption readObjectSchema inner (optionalSchemaJson schema).toSource
        let variants ← readList readVariant inner
          (Json.array (variants.map Variant.toJson)).toSource
        return (⟨description, type, itemType, config, schema, variants⟩ : CustomType)) = _
      rw [readsBack_optionalText _ inner hdescriptionRoom, htype inner htypeRoom,
        hitem inner hitemRoom, hconfig inner hconfigRoom, hschema inner hschemaRoom,
        hvariants inner hvariantsRoom]
      rfl
    · cases h

theorem roundTrips_property : RoundTrips readProperty Property.toJson := by
  intro depth s q h
  cases depth with
  | zero => cases h
  | succ depth =>
    obtain ⟨fields, -, h⟩ := Option.bind_eq_some_iff.mp h
    split at h
    · obtain ⟨description, -, h⟩ := Option.bind_eq_some_iff.mp h
      obtain ⟨types, htypes, h⟩ := Option.bind_eq_some_iff.mp h
      obtain ⟨itemTypes, hitems, h⟩ := Option.bind_eq_some_iff.mp h
      obtain ⟨config, hconfig, h⟩ := Option.bind_eq_some_iff.mp h
      obtain rfl := Option.some.inj h
      have htypes := roundTrips_typeRef.list.defaulted readsBack_nil htypes
      have hitems := roundTrips_typeRef.list.defaulted readsBack_nil hitems
      have hconfig := roundTrips_optionalConfig.optional rfl hconfig
      intro room hroom
      obtain ⟨inner, rfl, hfields⟩ := room_of_object hroom
      simp only [List.forall_mem_cons] at hfields
      obtain ⟨hdescriptionRoom, htypesRoom, hitemsRoom, hconfigRoom, -⟩ := hfields
      rw [readProperty, Property.toJson, slots_object (by simp [Entries.keys])]
      show (do
        let description ← readOption readText inner (textJson description).toSource
        let types ← readList readTypeRef inner (typeRefsJson types).toSource
        let itemTypes ← readList readTypeRef inner (typeRefsJson itemTypes).toSource
        let config ← readOption readTypeConfig inner (optionalConfigJson config).toSource
        return (⟨description, types, itemTypes, config⟩ : Property)) = _
      rw [readsBack_optionalText _ inner hdescriptionRoom, typeRefsJson, htypes inner htypesRoom,
        typeRefsJson, hitems inner hitemsRoom, hconfig inner hconfigRoom]
      rfl
    · cases h

theorem readsBack_event (e : Event) : ReadsBack readEvent Event.toJson e := by
  obtain ⟨kind, name, description⟩ := e
  intro room hroom
  obtain ⟨inner, rfl, hfields⟩ := room_of_object hroom
  simp only [List.forall_mem_cons] at hfields
  obtain ⟨-, -, hdescriptionRoom, -⟩ := hfields
  rw [readEvent, Event.toJson, slots_object (by simp [Entries.keys])]
  show (do
    let kind ← CallKind.ofText? kind.text
    let description ← readOption readText inner (textJson description).toSource
    return (⟨kind, name, description⟩ : Event)) = _
  rw [CallKind.ofText?_text, readsBack_optionalText _ inner hdescriptionRoom]
  rfl

theorem roundTrips_rule : RoundTrips readRule Rule.toJson := by
  intro depth s r h
  cases depth with
  | zero => cases h
  | succ depth =>
    obtain ⟨fields, -, h⟩ := Option.bind_eq_some_iff.mp h
    split at h
    · obtain ⟨event, -, h⟩ := Option.bind_eq_some_iff.mp h
      obtain ⟨part, -, h⟩ := Option.bind_eq_some_iff.mp h
      obtain ⟨schema, hschema, h⟩ := Option.bind_eq_some_iff.mp h
      obtain ⟨variants, hvariants, h⟩ := Option.bind_eq_some_iff.mp h
      obtain rfl := Option.some.inj h
      have hschema := roundTrips_objectSchema.defaulted readsBack_empty hschema
      have hvariants := roundTrips_variant.list.defaulted readsBack_nil hvariants
      intro room hroom
      obtain ⟨inner, rfl, hfields⟩ := room_of_object hroom
      simp only [List.forall_mem_cons] at hfields
      obtain ⟨heventRoom, -, hschemaRoom, hvariantsRoom, -⟩ := hfields
      rw [readRule, Rule.toJson, slots_object (by simp [Entries.keys])]
      show (do
        let event ← readEvent inner event.toJson.toSource
        let part ← CallPart.ofText? part.text
        let schema ← readObjectSchema inner schema.toJson.toSource
        let variants ← readList readVariant inner
          (Json.array (variants.map Variant.toJson)).toSource
        return (⟨event, part, schema, variants⟩ : Rule)) = _
      rw [readsBack_event event inner heventRoom, CallPart.ofText?_text, hschema inner hschemaRoom,
        hvariants inner hvariantsRoom]
      rfl
    · cases h

/-! ## §4 Documents -/

/-- **A document round-trips, however deep the tree it was read from may nest.** -/
theorem roundTrips_read : RoundTrips Document.read Document.toJson := by
  intro depth s doc h
  cases depth with
  | zero => cases h
  | succ depth =>
    obtain ⟨fields, -, h⟩ := Option.bind_eq_some_iff.mp h
    split at h
    · obtain ⟨name, -, h⟩ := Option.bind_eq_some_iff.mp h
      obtain ⟨metadata, -, h⟩ := Option.bind_eq_some_iff.mp h
      obtain ⟨customTypes, htypes, h⟩ := Option.bind_eq_some_iff.mp h
      obtain ⟨properties, hproperties, h⟩ := Option.bind_eq_some_iff.mp h
      obtain ⟨rules, hrules, h⟩ := Option.bind_eq_some_iff.mp h
      obtain rfl := Option.some.inj h
      have htypes := roundTrips_customType.map.defaulted readsBack_noEntries htypes
      have hproperties := roundTrips_property.map.defaulted readsBack_noEntries hproperties
      have hrules := roundTrips_rule.list.defaulted readsBack_nil hrules
      intro room hroom
      obtain ⟨inner, rfl, hfields⟩ := room_of_object hroom
      simp only [List.forall_mem_cons] at hfields
      obtain ⟨-, hmetadataRoom, htypesRoom, hpropertiesRoom, hrulesRoom, -⟩ := hfields
      rw [Document.read, Document.toJson, slots_object (by simp [Entries.keys])]
      show (do
        let metadata ← readMetadata inner metadata.toJson.toSource
        let customTypes ← readMap readCustomType inner
          (Json.object (customTypes.map fun e : String × CustomType => (e.1, e.2.toJson))).toSource
        let properties ← readMap readProperty inner
          (Json.object (properties.map fun e : String × Property => (e.1, e.2.toJson))).toSource
        let rules ← readList readRule inner (Json.array (rules.map Rule.toJson)).toSource
        return (⟨name, metadata, customTypes, properties, rules⟩ : Document)) = _
      rw [readsBack_metadata metadata inner hmetadataRoom, htypes inner htypesRoom,
        hproperties inner hpropertiesRoom, hrules inner hrulesRoom]
      rfl
    · cases h

/-- **Reads a JSON value as a document and writes it again.** -/
def rewritten? (j : Json) : Option Json :=
  (ofJson? j).map Document.toJson

theorem ofJson?_toJson {depth : Nat} {s : Source} {doc : Document}
    (h : Document.read depth s = some doc) : ofJson? doc.toJson = some doc :=
  roundTrips_read _ _ _ h _ (Nat.le_refl _)

/-- **Plan documents round-trip**: what is written of a document that has a text reads as that
document, with all its maps and lists in order, and what was rewritten once is not changed again. -/
theorem document_round_trips :
    (∀ text doc, ofText text = .ok doc → ofJson? doc.toJson = some doc) ∧
      ∀ j k, rewritten? j = some k → rewritten? k = some k := by
  constructor
  · intro text doc h
    unfold ofText at h
    split at h
    · rename_i document hread
      obtain rfl := Except.ok.inj h
      obtain ⟨s, -, hread⟩ := Option.bind_eq_some_iff.mp hread
      exact ofJson?_toJson hread
    · cases h
  · intro j k h
    obtain ⟨doc, hdoc, rfl⟩ := Option.map_eq_some_iff.mp h
    show (ofJson? doc.toJson).map Document.toJson = _
    rw [ofJson?_toJson hdoc]
    rfl

/-- A stock with its fields out of order, an unknown one, and defaults left out. -/
def stock : Json :=
  .object [
    ("properties", .object [
      ("size", .object [("type", .array [.string "#/customTypes/Size", .string "null"])])]),
    ("unit", .number (.integer 1)),
    ("customTypes", .object [("Size", .object [("type", .string "integer")])]),
    ("name", .string "stock")]

theorem document_round_trips_stock :
    (∃ doc, ofText stock.text = .ok doc ∧ ofJson? doc.toJson = some doc) ∧
      ∃ k, rewritten? stock = some k ∧ rewritten? k = some k := by
  have hread : (ofText stock.text).isOk = true := by decide +kernel
  have hwritten : (rewritten? stock).isSome = true := by decide +kernel
  constructor
  · cases hdoc : ofText stock.text with
    | ok doc => exact ⟨doc, rfl, document_round_trips.1 stock.text doc hdoc⟩
    | error e =>
      rw [hdoc] at hread
      cases hread
  · obtain ⟨k, hk⟩ := Option.isSome_iff_exists.mp hwritten
    exact ⟨k, hk, document_round_trips.2 stock k hk⟩

end Document

end TrackingPlan
