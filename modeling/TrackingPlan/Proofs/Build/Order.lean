import TrackingPlan.Proofs.Build.Failures
import TrackingPlan.Proofs.Build.State
import Mathlib.Data.Set.Insert
import Mathlib.Logic.Relation

/-!
# The order of building

A custom type points to those that are built on the way to it, directly or through the properties
that its schemas mention (`Document.PointsTo`).  Building enters a name in the tables only when all
that it points to stands there, so no custom type in the tables leads back to itself
(`BuildState.Orderly`).  What a step enters, and that it finds a cycle only where there is one, is
said by `Build.Enters`; its rules take a computation apart as it is written.

§1 what points to what · §2 orderly tables · §3 steps.
-/

namespace TrackingPlan

/-! ## §1 What points to what -/

namespace Document

/-- **The schema mentions the property**: it uses it, or a schema nested in it mentions it. -/
inductive ObjectSchema.Mentions (key : String) : ObjectSchema → Prop
  | own {s : ObjectSchema} {use : PropertyUse} : (key, use) ∈ s.properties → Mentions key s
  | nested {s inner : ObjectSchema} {use : String × PropertyUse} : use ∈ s.properties →
      use.2.schema = some inner → Mentions key inner → Mentions key s

/-- One use of a property mentions it, and what the schema nested there mentions. -/
def UseMentions (key : String) (use : String × PropertyUse) : Prop :=
  use.1 = key ∨ ∃ inner, use.2.schema = some inner ∧ inner.Mentions key

theorem ObjectSchema.mentions_iff {s : ObjectSchema} {key : String} :
    s.Mentions key ↔ ∃ use ∈ s.properties, UseMentions key use := by
  constructor
  · intro h
    cases h with
    | own hmem => exact ⟨_, hmem, .inl rfl⟩
    | nested hmem hinner h => exact ⟨_, hmem, .inr ⟨_, hinner, h⟩⟩
  · rintro ⟨⟨k, use⟩, hmem, rfl | ⟨inner, hinner, h⟩⟩
    · exact .own hmem
    · exact .nested hmem hinner h

/-- The schemas of a variant block. -/
def Variant.schemas (block : Variant) : List ObjectSchema :=
  block.cases.map (·.schema) ++ block.defaultSchema.toList

/-- The schemas of a custom type: its own, and those of its cases. -/
def CustomType.schemas (t : CustomType) : List ObjectSchema :=
  t.schema.toList ++ t.variants.flatMap Variant.schemas

/-- Whether the custom type is an enumeration. -/
def CustomType.isEnumeration (t : CustomType) : Bool :=
  (t.config.bind (·.values)).isSome

/-- The property of this name is made of the custom type, or is a list of it. -/
def LeadsTo (doc : Document) (key c : String) : Prop :=
  ∃ q, doc.properties.get? key = some q ∧ q.RefersTo c

/-- **A custom type of this form refers to the custom type**: by name, as its items, or by a
property that one of its schemas mentions. -/
inductive CustomType.RefersTo (doc : Document) (t : CustomType) (c : String) : Prop
  | name : t.type = .custom c → RefersTo doc t c
  | items : t.type = .array → t.itemType = some (.custom c) → RefersTo doc t c
  | property {s : ObjectSchema} {key : String} : t.type = .object → s ∈ t.schemas →
      s.Mentions key → doc.LeadsTo key c → RefersTo doc t c

/-- **One declared custom type points to another**; enumerations point nowhere. -/
def PointsTo (doc : Document) (c d : String) : Prop :=
  ∃ t, doc.customTypes.get? c = some t ∧ t.isEnumeration = false ∧ t.RefersTo doc d

/-- Only declared custom types point anywhere. -/
theorem PointsTo.mem_keys {doc : Document} {c d : String} (h : doc.PointsTo c d) :
    c ∈ doc.customTypes.keys := by
  obtain ⟨t, ht, -⟩ := h
  exact Entries.get?_isSome_iff.mp (by rw [ht]; rfl)

/-- **A custom type leads back to itself.** -/
def Circular (doc : Document) : Prop :=
  ∃ c, Relation.TransGen doc.PointsTo c c

/-- What only finitely many steps lead away from is on no cycle. -/
theorem not_cycle_of_acc {doc : Document} {c : String} (h : Acc (fun d c => doc.PointsTo c d) c) :
    ¬Relation.TransGen doc.PointsTo c c := by
  have hacc := h.transGen
  clear h
  induction hacc with
  | intro c _ ih =>
    intro hcycle
    exact ih c (Relation.transGen_swap.mpr hcycle) hcycle

end Document

/-- **A variant that an alternation resolves to.** -/
def VariantType.IsResolved (v : VariantType) : Prop :=
  ∃ node : AlternationNode, node.resolve = .ok v

/-- If the type is a variant, an alternation resolves to it. -/
def PropertyType.IsResolved (t : PropertyType) : Prop :=
  ∀ v, t = .variant v → v.IsResolved

/-! ## §2 Orderly tables -/

namespace BuildState

/-- What stands in the tables under its own name. -/
inductive Entry where
  | customType (name : String)
  | property (name : String)

/-- The tables have the entry. -/
def Has (σ : BuildState) : Entry → Prop
  | .customType name => ∃ t, σ.customTypes.get? name = some t
  | .property name => ∃ t, σ.properties.get? name = some t

/-- **Orderly tables**: a property stands there after the custom types it leads to, a custom type
only if none of those that can be reached from it lies on a cycle, and each variant is what an
alternation resolves to. -/
structure Orderly (doc : Document) (σ : BuildState) : Prop where
  led : ∀ {key c : String}, σ.Has (.property key) → doc.LeadsTo key c → σ.Has (.customType c)
  grounded : ∀ {c : String}, σ.Has (.customType c) → Acc (fun d c => doc.PointsTo c d) c
  customTypes : ∀ {name : String} {t : PropertyType}, σ.customTypes.get? name = some t →
    t.IsResolved
  properties : ∀ {name : String} {t : PropertyType}, σ.properties.get? name = some t →
    t.IsResolved
  nested : ∀ {id : String} {t : PropertyType}, σ.nested.get? id = some t → t.IsResolved
  resolved : ∀ {id : String} {v : VariantType}, σ.resolver.resolved.get? id = some v →
    v.IsResolved

variable {doc : Document} {σ : BuildState} {t : PropertyType}

theorem orderly_start (doc : Document) : Orderly doc {} :=
  ⟨fun ⟨_, h⟩ => (nomatch h), fun ⟨_, h⟩ => (nomatch h), nofun, nofun, nofun, nofun⟩

theorem exists_get?_insert_iff {α : Type} {entries : Entries α} {k key : String} {a : α} :
    (∃ u, (entries.insert k a).get? key = some u) ↔
      (∃ u, entries.get? key = some u) ∨ k = key := by
  rw [Entries.get?_insert]
  by_cases h : k = key
  · simp [h]
  · simp [h]

theorem has_insert_customType_iff {c : String} {e : Entry} :
    Has { σ with customTypes := σ.customTypes.insert c t } e ↔ σ.Has e ∨ e = .customType c := by
  cases e with
  | customType name =>
    show (∃ u, (σ.customTypes.insert c t).get? name = some u) ↔ _
    rw [exists_get?_insert_iff, Entry.customType.injEq]
    exact or_congr Iff.rfl eq_comm
  | property name => simp [Has]

theorem has_insert_property_iff {key : String} {e : Entry} :
    Has { σ with properties := σ.properties.insert key t } e ↔ σ.Has e ∨ e = .property key := by
  cases e with
  | customType name => simp [Has]
  | property name =>
    show (∃ u, (σ.properties.insert key t).get? name = some u) ↔ _
    rw [exists_get?_insert_iff, Entry.property.injEq]
    exact or_congr Iff.rfl eq_comm

/-- **A custom type is entered after all that it points to.** -/
theorem Orderly.insert_customType (hσ : σ.Orderly doc) {c : String} (ht : t.IsResolved)
    (hpoints : ∀ d, doc.PointsTo c d → σ.Has (.customType d)) :
    Orderly doc { σ with customTypes := σ.customTypes.insert c t } := by
  refine ⟨fun hkey hlead => ?_, fun {d} hd => ?_, fun hu => ?_, hσ.properties, hσ.nested,
    hσ.resolved⟩
  · rcases has_insert_customType_iff.mp hkey with hold | heq
    · exact has_insert_customType_iff.mpr (.inl (hσ.led hold hlead))
    · cases heq
  · rcases has_insert_customType_iff.mp hd with hold | heq
    · exact hσ.grounded hold
    · obtain rfl := Entry.customType.inj heq
      exact ⟨d, fun e he => hσ.grounded (hpoints e he)⟩
  · rcases Entries.of_get?_insert hu with ⟨-, rfl⟩ | hold
    · exact ht
    · exact hσ.customTypes hold

/-- **A property is entered after the custom types it leads to.** -/
theorem Orderly.insert_property (hσ : σ.Orderly doc) {key : String} (ht : t.IsResolved)
    (hleads : ∀ c, doc.LeadsTo key c → σ.Has (.customType c)) :
    Orderly doc { σ with properties := σ.properties.insert key t } := by
  refine ⟨fun {p c} hp hlead => ?_, fun hc => ?_, hσ.customTypes, fun hu => ?_, hσ.nested,
    hσ.resolved⟩
  · refine has_insert_property_iff.mpr (.inl ?_)
    rcases has_insert_property_iff.mp hp with hold | heq
    · exact hσ.led hold hlead
    · obtain rfl := Entry.property.inj heq
      exact hleads c hlead
  · exact hσ.grounded ((has_insert_property_iff.mp hc).resolve_right nofun)
  · rcases Entries.of_get?_insert hu with ⟨-, rfl⟩ | hold
    · exact ht
    · exact hσ.properties hold

/-- What the resolver gives is resolved, and so is all that it keeps. -/
theorem Orderly.resolver (hσ : σ.Orderly doc) {node : AlternationNode} {v : VariantType}
    {r : Resolver} (h : σ.resolver.resolve node = .ok (v, r)) :
    v.IsResolved ∧ ∀ {id : String} {w : VariantType}, r.resolved.get? id = some w →
      w.IsResolved := by
  cases Resolver.resolve_eq_ok_iff.mp h with
  | remembered hv => exact ⟨hσ.resolved hv, hσ.resolved⟩
  | made hnew hv =>
    refine ⟨⟨node, hv⟩, fun hkept => ?_⟩
    rcases Entries.of_get?_insert hkept with ⟨-, rfl⟩ | hold
    · exact ⟨node, hv⟩
    · exact hσ.resolved hold

end BuildState

/-! ## §3 Steps -/

namespace Build

open BuildState

variable {doc : Document} {α β : Type} {K K' : Set Entry} {Q : α → Prop} {R : β → Prop}

/-- **What a step does on orderly tables**: it reports a cycle only if there is one, and where it
gives a result the tables are orderly again, with all they had and with `K`, and the result is as
`Q` says. -/
structure Enters (doc : Document) (K : Set Entry) (Q : α → Prop) (m : Build α) : Prop where
  gives : ∀ {σ σ' : BuildState} {a : α}, σ.Orderly doc → m.run σ = .ok (a, σ') →
    σ'.Orderly doc ∧ (∀ e, σ.Has e ∨ e ∈ K → σ'.Has e) ∧ Q a
  fails : ∀ {σ : BuildState} {name : String}, σ.Orderly doc →
    m.run σ = .error (.cyclicType name) → doc.Circular

namespace Enters

variable {m : Build α}

theorem weaken (h : Enters doc K Q m) {Q' : α → Prop} (hK : K' ⊆ K) (hQ : ∀ a, Q a → Q' a) :
    Enters doc K' Q' m := by
  refine ⟨fun hσ hrun => ?_, h.fails⟩
  obtain ⟨hσ', hhas, ha⟩ := h.gives hσ hrun
  exact ⟨hσ', fun e he => hhas e (he.imp id fun hmem => hK hmem), hQ _ ha⟩

theorem of_subset (h : Enters doc K Q m) (hK : K' ⊆ K) : Enters doc K' Q m :=
  h.weaken hK fun _ ha => ha

/-- With the properties that are entered, so are the custom types they lead to. -/
theorem led (h : Enters doc K Q m)
    (hK : ∀ e ∈ K', ∃ key c, .property key ∈ K ∧ doc.LeadsTo key c ∧ e = .customType c) :
    Enters doc K' Q m := by
  refine ⟨fun hσ hrun => ?_, h.fails⟩
  obtain ⟨hσ', hhas, ha⟩ := h.gives hσ hrun
  refine ⟨hσ', fun e he => ?_, ha⟩
  rcases he with he | hmem
  · exact hhas e (.inl he)
  · obtain ⟨key, c, hkey, hlead, rfl⟩ := hK e hmem
    exact hσ'.led (hhas _ (.inr hkey)) hlead

theorem pure {a : α} (h : Q a) : Enters doc ∅ Q (pure a : Build α) := by
  refine ⟨fun hσ hrun => ?_, fun _ hrun => (nomatch hrun)⟩
  obtain ⟨rfl, rfl⟩ := state_pure_eq_ok.mp hrun
  exact ⟨hσ, fun e he => he.resolve_right (Set.notMem_empty e), h⟩

theorem fail {e : SchemaError} (h : ∀ name, e = .cyclicType name → doc.Circular) :
    Enters doc K Q (throw e : Build α) := by
  refine ⟨fun _ hrun => (nomatch hrun), fun {_ name} _ hrun => h name ?_⟩
  exact Except.error.inj hrun

theorem lift {x : Except SchemaError α} (hx : NeverCyclic x) (h : ∀ a, x = .ok a → Q a) :
    Enters doc ∅ Q (liftM x : Build α) := by
  refine ⟨fun hσ hrun => ?_, fun {_ name} _ hrun => absurd (state_lift_eq_error.mp hrun) (hx name)⟩
  obtain ⟨ha, rfl⟩ := state_lift_eq_ok.mp hrun
  exact ⟨hσ, fun e he => he.resolve_right (Set.notMem_empty e), h _ ha⟩

/-- A check is about values alone. -/
theorem check {x : Except SchemaError α} (hx : NeverCyclic x) :
    Enters doc ∅ (fun _ => True) (liftM x : Build α) :=
  .lift hx fun _ _ => trivial

/-- **One step after another** enters what both enter. -/
theorem bind {f : α → Build β} (h : Enters doc K Q m) (hf : ∀ a, Q a → Enters doc K' R (f a)) :
    Enters doc (K ∪ K') R (m >>= f) := by
  refine ⟨fun hσ hrun => ?_, fun {σ name} hσ hrun => ?_⟩
  · obtain ⟨a, σ₁, hfirst, hrest⟩ := state_bind_eq_ok.mp hrun
    obtain ⟨hσ₁, hhas₁, ha⟩ := h.gives hσ hfirst
    obtain ⟨hσ₂, hhas₂, hb⟩ := (hf a ha).gives hσ₁ hrest
    refine ⟨hσ₂, fun e he => hhas₂ e ?_, hb⟩
    rcases he with he | hmem | hmem
    · exact .inl (hhas₁ e (.inl he))
    · exact .inl (hhas₁ e (.inr hmem))
    · exact .inr hmem
  · rcases state_bind_eq_error.mp hrun with hfirst | ⟨a, σ₁, hfirst, hrest⟩
    · exact h.fails hσ hfirst
    · obtain ⟨hσ₁, -, ha⟩ := h.gives hσ hfirst
      exact (hf a ha).fails hσ₁ hrest

/-- **A step that looks at the tables first** has what it asks for, or goes on without it. -/
theorem of_run (h : ∀ σ, σ.Orderly doc →
    (∃ a, m.run σ = .ok (a, σ) ∧ (∀ e ∈ K, σ.Has e) ∧ Q a) ∨
      ∃ m', m.run σ = StateT.run m' σ ∧ Enters doc K Q m') : Enters doc K Q m := by
  refine ⟨fun {σ _ _} hσ hrun => ?_, fun {σ _} hσ hrun => ?_⟩
  · rcases h σ hσ with ⟨a, hkept, hhas, ha⟩ | ⟨m', heq, hm'⟩
    · obtain ⟨rfl, rfl⟩ := Prod.mk.inj (Except.ok.inj (hkept.symm.trans hrun))
      exact ⟨hσ, fun e he => he.elim id (hhas e), ha⟩
    · exact hm'.gives hσ (heq ▸ hrun)
  · rcases h σ hσ with ⟨a, hkept, -⟩ | ⟨m', heq, hm'⟩
    · cases hkept.symm.trans hrun
    · exact hm'.fails hσ (heq ▸ hrun)

/-- A step that only makes something of what the one before gave. -/
theorem map_pure {g : α → β} (h : Enters doc K Q m) (hg : ∀ a, Q a → R (g a)) :
    Enters doc K R (m >>= fun a => Pure.pure (g a)) :=
  (h.bind fun a ha => .pure (hg a ha)).of_subset (Set.union_empty K).ge

/-- **A step that makes a type is followed by entering it** in a table, for which all that the
step entered is there. -/
theorem insert {m : Build PropertyType} (h : Enters doc K PropertyType.IsResolved m)
    {put : PropertyType → BuildState → BuildState}
    (hput : ∀ {σ : BuildState} {t : PropertyType}, σ.Orderly doc → t.IsResolved →
      (∀ e ∈ K, σ.Has e) →
      (put t σ).Orderly doc ∧ ∀ e, σ.Has e ∨ e ∈ K' → (put t σ).Has e) :
    Enters doc K' PropertyType.IsResolved (m >>= fun t => do modify (put t); return t) := by
  refine ⟨fun {σ σ' t} hσ hrun => ?_, fun {σ name} hσ hrun => ?_⟩
  · obtain ⟨u, σ₁, hu, hrun⟩ := state_bind_eq_ok.mp hrun
    obtain ⟨_, _, hinsert, hrun⟩ := state_bind_eq_ok.mp hrun
    obtain rfl := state_modify_eq_ok.mp hinsert
    obtain ⟨rfl, rfl⟩ := state_pure_eq_ok.mp hrun
    obtain ⟨hσ₁, hhas, hresolved⟩ := h.gives hσ hu
    obtain ⟨hσ₂, hhas₂⟩ := hput hσ₁ hresolved fun e he => hhas e (.inr he)
    exact ⟨hσ₂, fun e he => hhas₂ e (he.imp (fun he => hhas e (.inl he)) id), hresolved⟩
  · rcases state_bind_eq_error.mp hrun with hfirst | ⟨_, _, -, hrun⟩
    · exact h.fails hσ hfirst
    · cases hrun

end Enters

/-- Building the custom type enters it. -/
abbrev EntersType (doc : Document) (custom : String → Build PropertyType) (c : String) : Prop :=
  Enters doc {.customType c} PropertyType.IsResolved (custom c)

end Build

end TrackingPlan
