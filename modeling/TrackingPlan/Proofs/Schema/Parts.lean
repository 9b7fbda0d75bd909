import TrackingPlan.Schema.Basic
import Mathlib.Data.List.Nodup

/-!
# What a type is made of

`PropertyType.parts` lists the types that stand directly in a type, in the order in which the walk
over named types visits them, and `PropertyType.Reaches` closes it under repetition.  Types are
finite trees, so a property of all types follows from its inheritance by a type from its parts
(`PropertyType.parts_induction`), and no type stands within itself.

The recursion of the model runs over fields, cases and discriminators apart; `walk_eq` says it once
in terms of parts, and nothing here looks at the recursion again.
-/

namespace TrackingPlan

namespace PropertyType

/-! ## §1 Parts -/

/-- **The types that stand directly in a type.** -/
def parts : PropertyType → List PropertyType
  | .scalar _ => []
  | .untyped _ => []
  | .enumeration _ => []
  | .array item => [item]
  | .aliasType a => [a.target]
  | .record r => r.fields.map Field.type
  | .variant v =>
    (v.discriminator.map Discriminator.type).toList ++
      v.allCases.flatMap fun c => c.fields.map Field.type

theorem type_mem_parts_of_case {v : VariantType} {c : VariantCase} {f : Field}
    (hc : c ∈ v.allCases) (hf : f ∈ c.fields) : f.type ∈ (variant v).parts :=
  List.mem_append_right _ (List.mem_flatMap.mpr ⟨c, hc, List.mem_map.mpr ⟨f, hf, rfl⟩⟩)

theorem type_mem_parts_of_discriminator {v : VariantType} {d : Discriminator}
    (hd : v.discriminator = some d) : d.type ∈ (variant v).parts :=
  List.mem_append_left _ (by simp [hd])

theorem sizeOf_type_lt_of_mem {f : Field} {fields : List Field} (h : f ∈ fields) :
    sizeOf f.type < sizeOf fields := by
  have hf : sizeOf f < sizeOf fields := List.sizeOf_lt_of_mem h
  have ht : sizeOf f.type < sizeOf f := by
    cases f
    simp only [Field.mk.sizeOf_spec]
    omega
  omega

theorem sizeOf_type_lt_of_mem_case {f : Field} {c : VariantCase} (h : f ∈ c.fields) :
    sizeOf f.type < sizeOf c := by
  have hf := sizeOf_type_lt_of_mem h
  cases c
  simp only [VariantCase.mk.sizeOf_spec] at *
  omega

theorem sizeOf_lt_of_mem_allCases {c : VariantCase} {v : VariantType} (h : c ∈ v.allCases) :
    sizeOf c < sizeOf v := by
  obtain ⟨name, description, discriminator, cases, defaultCase⟩ := v
  rcases List.mem_append.mp h with hc | hd
  · have := List.sizeOf_lt_of_mem hc
    simp only [VariantType.mk.sizeOf_spec] at *
    omega
  · have hd' : defaultCase = some c := by simpa using hd
    subst hd'
    simp only [VariantType.mk.sizeOf_spec, Option.some.sizeOf_spec]
    omega

/-- A part is smaller than the type it stands in. -/
theorem sizeOf_lt_of_mem_parts {t u : PropertyType} (h : u ∈ t.parts) : sizeOf u < sizeOf t := by
  cases t with
  | scalar kind => exact absurd h List.not_mem_nil
  | untyped kind => exact absurd h List.not_mem_nil
  | enumeration e => exact absurd h List.not_mem_nil
  | array item =>
    obtain rfl : u = item := by simpa [parts] using h
    simp only [PropertyType.array.sizeOf_spec]
    omega
  | aliasType a =>
    obtain rfl : u = a.target := by simpa [parts] using h
    cases a
    simp only [PropertyType.aliasType.sizeOf_spec, AliasType.mk.sizeOf_spec]
    omega
  | record r =>
    obtain ⟨f, hf, rfl⟩ := List.mem_map.mp h
    have := sizeOf_type_lt_of_mem hf
    cases r
    simp only [PropertyType.record.sizeOf_spec, RecordType.mk.sizeOf_spec] at *
    omega
  | variant v =>
    simp only [PropertyType.variant.sizeOf_spec]
    rcases List.mem_append.mp h with hdisc | hcase
    · obtain ⟨d, hd, rfl⟩ : ∃ d, v.discriminator = some d ∧ d.type = u := by simpa using hdisc
      obtain ⟨name, description, discriminator, cases, defaultCase⟩ := v
      obtain ⟨key, type, about⟩ := d
      obtain rfl : discriminator = some ⟨key, type, about⟩ := hd
      simp only [VariantType.mk.sizeOf_spec, Option.some.sizeOf_spec, Discriminator.mk.sizeOf_spec]
      omega
    · obtain ⟨c, hc, hfields⟩ := List.mem_flatMap.mp hcase
      obtain ⟨f, hf, rfl⟩ := List.mem_map.mp hfields
      have := sizeOf_type_lt_of_mem_case hf
      have := sizeOf_lt_of_mem_allCases hc
      omega

/-- **Induction over types by their parts.** -/
theorem parts_induction {P : PropertyType → Prop}
    (step : ∀ t : PropertyType, (∀ u ∈ t.parts, P u) → P t) (t : PropertyType) : P t :=
  step t fun u _ => parts_induction step u
termination_by sizeOf t
decreasing_by exact sizeOf_lt_of_mem_parts ‹_›

/-! ## §2 Types within types -/

/-- **`t.Reaches u`**: `u` is `t`, or stands somewhere within it. -/
inductive Reaches : PropertyType → PropertyType → Prop
  | refl (t : PropertyType) : Reaches t t
  | part {t u w : PropertyType} : u ∈ t.parts → Reaches u w → Reaches t w

theorem Reaches.of_mem_parts {t u : PropertyType} (h : u ∈ t.parts) : t.Reaches u :=
  .part h (.refl u)

theorem Reaches.trans {t u w : PropertyType} (htu : t.Reaches u) (huw : u.Reaches w) :
    t.Reaches w := by
  induction htu with
  | refl t => exact huw
  | part hmem _ ih => exact .part hmem (ih huw)

/-- What a type reaches is the type itself, or is reached from one of its parts. -/
theorem reaches_iff {t w : PropertyType} :
    t.Reaches w ↔ w = t ∨ ∃ u ∈ t.parts, u.Reaches w := by
  constructor
  · intro h
    cases h with
    | refl => exact .inl rfl
    | part hmem hreach => exact .inr ⟨_, hmem, hreach⟩
  · rintro (rfl | ⟨u, hmem, hreach⟩)
    · exact .refl w
    · exact .part hmem hreach

theorem Reaches.sizeOf_le {t u : PropertyType} (h : t.Reaches u) : sizeOf u ≤ sizeOf t := by
  induction h with
  | refl t => exact Nat.le_refl _
  | part hmem _ ih => exact Nat.le_trans ih (Nat.le_of_lt (sizeOf_lt_of_mem_parts hmem))

/-- **No type stands within itself.** -/
theorem not_reaches_of_mem_parts {t u : PropertyType} (h : u ∈ t.parts) : ¬ u.Reaches t := by
  intro hreach
  have hle := hreach.sizeOf_le
  have hlt := sizeOf_lt_of_mem_parts h
  omega

/-! ## §3 The walk, by parts -/

/-- The id of a named type. -/
def id? (t : PropertyType) : Option String :=
  t.name?.map TypeName.id

theorem id?_eq_some_iff {t : PropertyType} {i : String} :
    t.id? = some i ↔ ∃ n, t.name? = some n ∧ n.id = i :=
  Option.map_eq_some_iff

/-- Walks types one after the other. -/
def walkAll (types : List PropertyType) (w : NamedWalk) : NamedWalk :=
  types.foldl (fun w t => t.walk w) w

theorem walkAll_append (ts us : List PropertyType) (w : NamedWalk) :
    walkAll (ts ++ us) w = walkAll us (walkAll ts w) :=
  List.foldl_append

theorem walkFields_eq (fields : List Field) (w : NamedWalk) :
    walkFields fields w = walkAll (fields.map Field.type) w := by
  induction fields generalizing w with
  | nil => rfl
  | cons f rest ih =>
    obtain ⟨key, type, required, description⟩ := f
    exact ih (type.walk w)

theorem walkCases_eq (cases : List VariantCase) (w : NamedWalk) :
    walkCases cases w = walkAll (cases.flatMap fun c => c.fields.map Field.type) w := by
  induction cases generalizing w with
  | nil => rfl
  | cons c rest ih =>
    obtain ⟨name, tag, description, fields⟩ := c
    rw [walkCases, List.flatMap_cons, walkAll_append, walkFields_eq]
    exact ih _

theorem walkDiscriminator_eq (d : Option Discriminator) (w : NamedWalk) :
    walkDiscriminator d w = walkAll (d.map Discriminator.type).toList w := by
  rcases d with _ | ⟨key, type, description⟩ <;> rfl

theorem walkDefault_eq (c : Option VariantCase) (w : NamedWalk) :
    walkDefault c w = walkAll (c.toList.flatMap fun c => c.fields.map Field.type) w := by
  rcases c with _ | ⟨name, tag, description, fields⟩
  · rfl
  · simp only [walkDefault, walkFields_eq, Option.toList_some, List.flatMap_cons, List.flatMap_nil,
      List.append_nil]

/-- **The walk over a type**: a named type is met first, and left at once if its id was met before;
then its parts are walked. -/
theorem walk_eq (t : PropertyType) (w : NamedWalk) :
    t.walk w =
      match t.name? with
      | none => walkAll t.parts w
      | some name =>
        match w.enter? name t with
        | none => w
        | some w => walkAll t.parts w := by
  cases t with
  | scalar kind => rfl
  | untyped kind => rfl
  | enumeration e =>
    simp only [walk, name?]
    cases w.enter? e.name (.enumeration e) <;> rfl
  | array item => rfl
  | aliasType a =>
    obtain ⟨name, description, target⟩ := a
    simp only [walk, name?]
    cases w.enter? name (.aliasType ⟨name, description, target⟩) <;> rfl
  | record r =>
    obtain ⟨name, description, fields⟩ := r
    cases h : w.enter? name (.record ⟨name, description, fields⟩) <;>
      simp only [walk, name?, parts, walkFields_eq, h]
  | variant v =>
    obtain ⟨name, description, discriminator, cases, defaultCase⟩ := v
    cases h : w.enter? name (.variant ⟨name, description, discriminator, cases, defaultCase⟩) <;>
      simp only [walk, name?, parts, walkDefault_eq, walkCases_eq, walkDiscriminator_eq,
        VariantType.allCases, List.flatMap_append, walkAll_append, h]

end PropertyType

namespace Schema

/-- The walk starts from the payload of each rule. -/
theorem mem_roots_of_payload {s : Schema} {r : Rule} {t : PropertyType} (hr : r ∈ s.rules)
    (ht : r.payload = .typed t) : t ∈ s.roots := by
  refine List.mem_append_right _ (List.mem_filterMap.mpr ⟨r, hr, ?_⟩)
  rw [ht]
  rfl

/-- A type stands somewhere in the model: it is within a custom type, a property or a payload. -/
def Reaches (s : Schema) (t : PropertyType) : Prop :=
  ∃ root ∈ s.roots, root.Reaches t

theorem Reaches.trans {s : Schema} {t u : PropertyType} (hst : s.Reaches t) (htu : t.Reaches u) :
    s.Reaches u := by
  obtain ⟨root, hroot, hreach⟩ := hst
  exact ⟨root, hroot, PropertyType.Reaches.trans hreach htu⟩

/-- Types that hold the parts of each of them hold all that stands in the model, if they hold what
the model starts from. -/
theorem mem_of_reaches {s : Schema} {types : List PropertyType} (hroots : ∀ t ∈ s.roots, t ∈ types)
    (hparts : ∀ t ∈ types, ∀ u ∈ t.parts, u ∈ types) {t : PropertyType} (h : s.Reaches t) :
    t ∈ types := by
  obtain ⟨root, hroot, hreach⟩ := h
  have hmem := hroots root hroot
  clear hroot
  induction hreach with
  | refl => exact hmem
  | part hu _ ih => exact ih (hparts _ hmem _ hu)

end Schema

end TrackingPlan
