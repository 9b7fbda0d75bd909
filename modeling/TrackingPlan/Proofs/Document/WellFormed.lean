import TrackingPlan.Document.Reader
import TrackingPlan.Proofs.Entries
import TrackingPlan.Proofs.Json.Finite
import TrackingPlan.Proofs.Steps

/-!
# Documents that a map and a number can hold

A document as a value may repeat a key or hold a number that is not finite; one that is read never
does (`Document.wellFormed_of_ofText`).  A map settles repeated keys as it is read, and the text has
no other numbers.  The records are read field by field, so what a reader yields follows from what
the readers of its fields yield (`Document.Yields`).

§1 well-formed documents · §2 readers · §3 fields · §4 declarations · §5 documents.
-/

namespace TrackingPlan

open Json (Source)

/-! ## §1 Well-formed documents -/

/-- The values of a constraint are JSON. -/
def Document.TypeConfig.IsFinite (config : Option Document.TypeConfig) : Prop :=
  ∀ values, config.bind (·.values) = some values → ∀ v ∈ values, v.IsFinite

instance (config : Option Document.TypeConfig) : Decidable (Document.TypeConfig.IsFinite config) :=
  decidable_of_iff (∀ values ∈ config.bind (·.values), ∀ v ∈ values, v.IsFinite) Iff.rfl

/-- **A document whose maps hold each key once and whose numbers are JSON.** -/
structure Document.WellFormed (doc : Document) : Prop where
  typeValues : ∀ e ∈ doc.customTypes, TypeConfig.IsFinite e.2.config
  typeKeys : ∀ e ∈ doc.customTypes, ∀ schema ∈ e.2.schema,
    (schema.properties.map Prod.fst).Nodup
  propertyValues : ∀ e ∈ doc.properties, TypeConfig.IsFinite e.2.config
  ruleKeys : ∀ r ∈ doc.rules, (r.schema.properties.map Prod.fst).Nodup

instance (doc : Document) : Decidable doc.WellFormed :=
  decidable_of_iff ((∀ e ∈ doc.customTypes, Document.TypeConfig.IsFinite e.2.config) ∧
      (∀ e ∈ doc.customTypes, ∀ schema ∈ e.2.schema, (schema.properties.map Prod.fst).Nodup) ∧
      (∀ e ∈ doc.properties, Document.TypeConfig.IsFinite e.2.config) ∧
      ∀ r ∈ doc.rules, (r.schema.properties.map Prod.fst).Nodup)
    ⟨fun ⟨htypes, hkeys, hproperties, hrules⟩ => ⟨htypes, hkeys, hproperties, hrules⟩,
      fun h => ⟨h.typeValues, h.typeKeys, h.propertyValues, h.ruleKeys⟩⟩

namespace Document

variable {α : Type} {read : Reader α} {P : α → Prop}

/-! ## §2 Readers -/

/-- **What a reader makes of a tree with finite numbers.** -/
def Yields (read : Reader α) (P : α → Prop) : Prop :=
  ∀ {depth : Nat} {s : Source} {a : α}, s.IsFinite → read depth s = some a → P a

theorem yields_json : Yields readJson Json.IsFinite :=
  fun hs h => Json.Source.isFinite_of_value? hs h

theorem Yields.list (hread : Yields read P) : Yields (readList read) fun as => ∀ a ∈ as, P a := by
  intro depth s as hs h a ha
  unfold readList at h
  split at h
  · obtain ⟨item, hitem, hitem'⟩ := exists_mem_of_mapM_eq_some h a ha
    exact hread (Source.isFinite_array.mp hs item hitem) hitem'
  · cases h

theorem Yields.map (hread : Yields read P) :
    Yields (readMap read) fun entries => ∀ e ∈ entries, P e.2 := by
  intro depth s entries hs h e he
  unfold readMap at h
  split at h
  · obtain ⟨es, hes, h⟩ := Option.bind_eq_some_iff.mp h
    obtain rfl := Option.some.inj h
    have hmem := (Entries.ofList_spec es).2 e he
    obtain ⟨⟨key, value⟩, hwritten, hentry⟩ := exists_mem_of_mapM_eq_some hes e hmem
    obtain ⟨k, -, hentry⟩ := Option.bind_eq_some_iff.mp hentry
    obtain ⟨a, ha, hentry⟩ := Option.bind_eq_some_iff.mp hentry
    obtain rfl := Option.some.inj hentry
    exact hread (Source.isFinite_object.mp hs _ hwritten) ha
  · cases h

theorem Yields.option (hread : Yields read P) :
    Yields (readOption read) fun a => ∀ x ∈ a, P x := by
  intro depth s a hs h x hx
  unfold readOption at h
  split at h
  · obtain rfl := Option.some.inj h
    cases hx
  · obtain ⟨b, hb, rfl⟩ := Option.map_eq_some_iff.mp h
    obtain rfl := Option.some.inj hx
    exact hread hs hb

/-! ## §3 Fields -/

/-- What is written for a field has finite numbers. -/
def Slot.IsFinite (slot : Slot) : Prop :=
  ∀ s ∈ slot, s.IsFinite

theorem isFinite_slotAt {entries : List (String × Source)} {key : String} {slot : Slot}
    (hentries : ∀ e ∈ entries, e.2.IsFinite) (h : slotAt entries key = some slot) :
    slot.IsFinite := by
  intro s hs
  have hvalues : ∀ v ∈ valuesAt entries key, v.IsFinite := by
    intro v hv
    obtain ⟨e, he, rfl⟩ := List.mem_map.mp hv
    exact hentries e (List.mem_of_mem_filter he)
  unfold slotAt at h
  split at h
  · obtain rfl := Option.some.inj h
    cases hs
  · rename_i v hv
    obtain rfl := Option.some.inj h
    obtain rfl := Option.some.inj hs
    exact hvalues v (hv ▸ List.mem_singleton_self v)
  · cases h

/-- **The fields of a record hold what the record holds.** -/
theorem isFinite_slots {keys : List String} {s : Source} {fields : List Slot} (hs : s.IsFinite)
    (h : slots keys s = some fields) : ∀ slot ∈ fields, slot.IsFinite := by
  intro slot hslot
  unfold slots at h
  split at h
  · split at h
    · obtain rfl := Option.some.inj h
      rcases List.mem_append.mp hslot with hwritten | hmissing
      · obtain ⟨item, hitem, rfl⟩ := List.mem_map.mp hwritten
        intro s' hs'
        obtain rfl := Option.some.inj hs'
        exact Source.isFinite_array.mp hs item hitem
      · obtain rfl := List.eq_of_mem_replicate hmissing
        exact nofun
    · cases h
  · obtain ⟨entries, hentries, h⟩ := Option.bind_eq_some_iff.mp h
    obtain ⟨key, -, hkey⟩ := exists_mem_of_mapM_eq_some h slot hslot
    refine isFinite_slotAt (fun e he => ?_) hkey
    obtain ⟨⟨k, s'⟩, hwritten, hentry⟩ := exists_mem_of_mapM_eq_some hentries e he
    obtain ⟨k', -, hentry⟩ := Option.bind_eq_some_iff.mp hentry
    obtain rfl := Option.some.inj hentry
    exact Source.isFinite_object.mp hs _ hwritten
  · cases h

theorem Yields.defaulted (hread : Yields read P) {default : α} (hdefault : P default) {depth : Nat}
    {slot : Slot} {a : α} (hslot : slot.IsFinite)
    (h : defaulted default read depth slot = some a) : P a := by
  cases slot with
  | none =>
    obtain rfl := Option.some.inj h
    exact hdefault
  | some s => exact hread (hslot s rfl) h

theorem Yields.optional (hread : Yields read P) {depth : Nat} {slot : Slot} {a : Option α}
    (hslot : slot.IsFinite) (h : optional read depth slot = some a) : ∀ x ∈ a, P x :=
  Yields.defaulted (Yields.option hread) (fun _ hx => absurd hx (Option.not_mem_none _)) hslot h

/-! ## §4 Declarations -/

theorem nodup_keys_of_readUses {depth : Nat} {s : Source} {uses : List (String × PropertyUse)}
    (h : readUses depth s = some uses) : (uses.map Prod.fst).Nodup := by
  unfold readUses at h
  split at h
  · obtain ⟨es, -, h⟩ := Option.bind_eq_some_iff.mp h
    obtain rfl := Option.some.inj h
    exact (Entries.ofList_spec es).1
  · cases h

theorem yields_objectSchema :
    Yields readObjectSchema fun schema => (schema.properties.map Prod.fst).Nodup := by
  intro depth s schema _ h
  cases depth with
  | zero => cases h
  | succ depth =>
    rw [readObjectSchema] at h
    obtain ⟨fields, -, h⟩ := Option.bind_eq_some_iff.mp h
    split at h
    · dsimp only at h
      split at h
      · obtain ⟨uses, huses, h⟩ := Option.bind_eq_some_iff.mp h
        obtain rfl := Option.some.inj huses
        obtain ⟨_, -, h⟩ := Option.bind_eq_some_iff.mp h
        obtain rfl := Option.some.inj h
        exact List.nodup_nil
      · obtain ⟨uses, huses, h⟩ := Option.bind_eq_some_iff.mp h
        obtain ⟨_, -, h⟩ := Option.bind_eq_some_iff.mp h
        obtain rfl := Option.some.inj h
        exact nodup_keys_of_readUses huses
    · cases h

theorem yields_typeConfig :
    Yields readTypeConfig fun config => TypeConfig.IsFinite (some config) := by
  intro depth s config hs h
  cases depth with
  | zero => cases h
  | succ depth =>
    obtain ⟨fields, hfields, h⟩ := Option.bind_eq_some_iff.mp h
    have hslots := isFinite_slots hs hfields
    split at h
    · obtain ⟨values, hvalues, h⟩ := Option.bind_eq_some_iff.mp h
      obtain rfl := Option.some.inj h
      exact Yields.optional (Yields.list yields_json) (hslots _ List.mem_cons_self) hvalues
    · cases h

theorem TypeConfig.isFinite_of_optional {depth : Nat} {slot : Slot} {config : Option TypeConfig}
    (hslot : slot.IsFinite) (h : optional readTypeConfig depth slot = some config) :
    TypeConfig.IsFinite config := by
  have hsome := Yields.optional yields_typeConfig hslot h
  cases config with
  | none => exact fun _ hvalues => absurd hvalues nofun
  | some config => exact hsome config rfl

theorem yields_customType :
    Yields readCustomType fun t => TypeConfig.IsFinite t.config ∧
      ∀ schema ∈ t.schema, (schema.properties.map Prod.fst).Nodup := by
  intro depth s t hs h
  cases depth with
  | zero => cases h
  | succ depth =>
    obtain ⟨fields, hfields, h⟩ := Option.bind_eq_some_iff.mp h
    have hslots := isFinite_slots hs hfields
    split at h
    · obtain ⟨_, -, h⟩ := Option.bind_eq_some_iff.mp h
      obtain ⟨_, -, h⟩ := Option.bind_eq_some_iff.mp h
      obtain ⟨_, -, h⟩ := Option.bind_eq_some_iff.mp h
      obtain ⟨config, hconfig, h⟩ := Option.bind_eq_some_iff.mp h
      obtain ⟨schema, hschema, h⟩ := Option.bind_eq_some_iff.mp h
      obtain ⟨_, -, h⟩ := Option.bind_eq_some_iff.mp h
      obtain rfl := Option.some.inj h
      simp only [List.forall_mem_cons] at hslots
      obtain ⟨-, -, -, hconfigSlot, hschemaSlot, -⟩ := hslots
      exact ⟨TypeConfig.isFinite_of_optional hconfigSlot hconfig,
        Yields.optional yields_objectSchema hschemaSlot hschema⟩
    · cases h

theorem yields_property : Yields readProperty fun q => TypeConfig.IsFinite q.config := by
  intro depth s q hs h
  cases depth with
  | zero => cases h
  | succ depth =>
    obtain ⟨fields, hfields, h⟩ := Option.bind_eq_some_iff.mp h
    have hslots := isFinite_slots hs hfields
    split at h
    · obtain ⟨_, -, h⟩ := Option.bind_eq_some_iff.mp h
      obtain ⟨_, -, h⟩ := Option.bind_eq_some_iff.mp h
      obtain ⟨_, -, h⟩ := Option.bind_eq_some_iff.mp h
      obtain ⟨config, hconfig, h⟩ := Option.bind_eq_some_iff.mp h
      obtain rfl := Option.some.inj h
      simp only [List.forall_mem_cons] at hslots
      obtain ⟨-, -, -, hconfigSlot, -⟩ := hslots
      exact TypeConfig.isFinite_of_optional hconfigSlot hconfig
    · cases h

theorem yields_rule : Yields readRule fun r => (r.schema.properties.map Prod.fst).Nodup := by
  intro depth s r hs h
  cases depth with
  | zero => cases h
  | succ depth =>
    obtain ⟨fields, hfields, h⟩ := Option.bind_eq_some_iff.mp h
    have hslots := isFinite_slots hs hfields
    split at h
    · obtain ⟨_, -, h⟩ := Option.bind_eq_some_iff.mp h
      obtain ⟨_, -, h⟩ := Option.bind_eq_some_iff.mp h
      obtain ⟨schema, hschema, h⟩ := Option.bind_eq_some_iff.mp h
      obtain ⟨_, -, h⟩ := Option.bind_eq_some_iff.mp h
      obtain rfl := Option.some.inj h
      simp only [List.forall_mem_cons] at hslots
      obtain ⟨-, -, hschemaSlot, -⟩ := hslots
      have hempty : (ObjectSchema.empty.properties.map Prod.fst).Nodup := List.nodup_nil
      exact Yields.defaulted yields_objectSchema hempty hschemaSlot hschema
    · cases h

/-! ## §5 Documents -/

/-- **A document read from finite numbers is well-formed.** -/
theorem yields_wellFormed : Yields Document.read WellFormed := by
  intro depth s doc hs h
  cases depth with
  | zero => cases h
  | succ depth =>
    obtain ⟨fields, hfields, h⟩ := Option.bind_eq_some_iff.mp h
    have hslots := isFinite_slots hs hfields
    split at h
    · obtain ⟨_, -, h⟩ := Option.bind_eq_some_iff.mp h
      obtain ⟨_, -, h⟩ := Option.bind_eq_some_iff.mp h
      obtain ⟨types, htypes, h⟩ := Option.bind_eq_some_iff.mp h
      obtain ⟨properties, hproperties, h⟩ := Option.bind_eq_some_iff.mp h
      obtain ⟨rules, hrules, h⟩ := Option.bind_eq_some_iff.mp h
      obtain rfl := Option.some.inj h
      simp only [List.forall_mem_cons] at hslots
      obtain ⟨-, -, htypesSlot, hpropertiesSlot, hrulesSlot, -⟩ := hslots
      have htypesAll := Yields.defaulted (Yields.map yields_customType)
        (fun _ he => absurd he List.not_mem_nil) htypesSlot htypes
      have hpropertiesAll := Yields.defaulted (Yields.map yields_property)
        (fun _ he => absurd he List.not_mem_nil) hpropertiesSlot hproperties
      have hrulesAll := Yields.defaulted (Yields.list yields_rule)
        (fun _ he => absurd he List.not_mem_nil) hrulesSlot hrules
      exact ⟨fun e he => (htypesAll e he).1, fun e he => (htypesAll e he).2, hpropertiesAll,
        hrulesAll⟩
    · cases h

/-- **Every document with a text is well-formed.** -/
theorem wellFormed_of_ofText {text : String} {doc : Document} (h : ofText text = .ok doc) :
    doc.WellFormed := by
  unfold ofText at h
  split at h
  · rename_i document hread
    obtain rfl := Except.ok.inj h
    obtain ⟨s, hs, hread⟩ := Option.bind_eq_some_iff.mp hread
    exact yields_wellFormed (Source.isFinite_of_ofText? hs) hread
  · cases h

end Document

end TrackingPlan
