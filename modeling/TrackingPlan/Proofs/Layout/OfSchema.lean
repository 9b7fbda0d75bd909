import TrackingPlan.Layout.OfSchema
import TrackingPlan.Proofs.Entries
import TrackingPlan.Proofs.Schema.Faults
import TrackingPlan.Proofs.Schema.NamedTypes
import TrackingPlan.Proofs.Steps

/-!
# The layouts of a model without faults

No id is listed twice, so nothing is overwritten: the two tables are `Schema.layouts`, the named
types in order, each with its layout (`eq_of_ofSchema`).  A variant without faults has a layout for
every case (`exists_caseLayouts`), so no step of `Layouts.ofSchema` fails (`ofSchema_eq`).
-/

namespace TrackingPlan

theorem PropertyType.layout_aliasType (a : AliasType) :
    (aliasType a).layout = a.target.layout := by
  obtain ⟨name, description, target⟩ := a
  rfl

/-! ## §1 The cases of a variant -/

namespace VariantType

theorem caseLayout_name {v : VariantType} {c : VariantCase} {l : CaseLayout}
    (h : v.caseLayout c = .ok l) : l.name = c.name := by
  unfold caseLayout at h
  split at h
  · obtain rfl := Except.ok.inj h
    rfl
  · obtain rfl := Except.ok.inj h
    rfl
  · split at h
    · obtain rfl := Except.ok.inj h
      rfl
    · cases h
  · cases h

/-- **How a case fits its variant, and the layout that it has for it.** -/
inductive Fitting (v : VariantType) (c : VariantCase) : Prop where
  /-- With a discriminator, the tag is written for the case. -/
  | literal (d : Discriminator) (l : Literal) (discriminator : v.discriminator = some d)
    (tag : c.tag = .literal l) (layout : v.caseLayout c =
      .ok (.object c.name (c.fields.map Field.layout) d.key (.fixed l)))
  /-- With a discriminator, the caller gives its value. -/
  | fallback (d : Discriminator) (discriminator : v.discriminator = some d)
    (tag : c.tag = .fallback) (layout : v.caseLayout c =
      .ok (.object c.name (c.fields.map Field.layout) d.key (.supplied d.type.layout)))
  /-- Without one, the case wraps a value of its kind. -/
  | bare (k : ValueKind) (f : Field) (discriminator : v.discriminator = none)
    (tag : c.tag = .kind k) (field : c.fields = [f])
    (layout : v.caseLayout c = .ok (.bare c.name k f.type.layout))

theorem Fits.fitting {v : VariantType} {c : VariantCase} (h : v.Fits c) : v.Fitting c := by
  unfold Fits at h
  split at h
  · rename_i l d htag hdisc
    exact .literal d l hdisc htag (by simp only [caseLayout, htag, hdisc])
  · rename_i d htag hdisc
    exact .fallback d hdisc htag (by simp only [caseLayout, htag, hdisc])
  · rename_i k htag hdisc
    obtain ⟨f, hf⟩ := List.length_eq_one_iff.mp h
    exact .bare k f hdisc htag hf (by simp only [caseLayout, htag, hdisc, hf])
  · exact h.elim

/-- A case that fits its variant has a layout. -/
theorem exists_caseLayout {v : VariantType} {c : VariantCase} (h : v.Fits c) :
    ∃ l, v.caseLayout c = .ok l := by
  cases h.fitting with
  | literal d l _ _ hlayout => exact ⟨_, hlayout⟩
  | fallback d _ _ hlayout => exact ⟨_, hlayout⟩
  | bare k f _ _ _ hlayout => exact ⟨_, hlayout⟩

/-- The layouts of cases that all have one, and the first of a name among them. -/
theorem exists_caseLayouts {v : VariantType} {cases : List VariantCase}
    (h : ∀ c ∈ cases, ∃ l, v.caseLayout c = .ok l) :
    ∃ ls, cases.mapM v.caseLayout = .ok ls ∧ ∀ name, ls.find? (·.name == name) =
      (cases.find? (·.name == name)).bind fun c => (v.caseLayout c).toOption := by
  induction cases with
  | nil => exact ⟨[], rfl, fun name => rfl⟩
  | cons c rest ih =>
    obtain ⟨l, hl⟩ := h c List.mem_cons_self
    obtain ⟨ls, hls, hfind⟩ := ih fun d hd => h d (List.mem_cons_of_mem c hd)
    refine ⟨l :: ls, ?_, fun name => ?_⟩
    · rw [List.mapM_cons, hl, hls]
      rfl
    · have hname := caseLayout_name hl
      by_cases hc : c.name = name
      · simp [hname, hc, hl, Except.toOption]
      · simp [hname, hc, hfind]

end VariantType

/-! ## §2 The tables -/

namespace PropertyType

/-- The layout kept under the id of a record, an enumeration or a variant. -/
def typeLayout? : PropertyType → Option TypeLayout
  | .record r => some (.record ⟨r.name, r.fields.map Field.layout⟩)
  | .enumeration e => some (.enumeration e.name e.cases)
  | .variant v => (v.allCases.mapM v.caseLayout).toOption.map fun cases => .variant ⟨v, cases⟩
  | _ => none

/-- The layout that an alias stands for. -/
def aliasLayout? : PropertyType → Option ValueLayout
  | .aliasType a => some a.target.layout
  | _ => none

/-- The entry of a type in a table, if the table has one for it. -/
def keyed? {α : Type} (layout? : PropertyType → Option α) (t : PropertyType) :
    Option (String × α) :=
  t.id?.bind fun i => (layout? t).map fun l => (i, l)

theorem keyed?_eq_some_iff {α : Type} {layout? : PropertyType → Option α} {t : PropertyType}
    {i : String} {l : α} :
    t.keyed? layout? = some (i, l) ↔ t.id? = some i ∧ layout? t = some l := by
  unfold keyed?
  cases t.id? <;> cases layout? t <;> simp

theorem keys_entries_sublist {α : Type} (layout? : PropertyType → Option α)
    (types : List PropertyType) :
    (Entries.keys (types.filterMap (keyed? layout?))).Sublist (types.filterMap id?) := by
  induction types with
  | nil => exact .slnil
  | cons t rest ih =>
    cases hi : t.id? with
    | none =>
      have he : t.keyed? layout? = none := by simp [keyed?, hi]
      simpa only [List.filterMap_cons, he, hi] using ih
    | some i =>
      cases hl : layout? t with
      | none =>
        have he : t.keyed? layout? = none := by simp [keyed?, hl, hi]
        simpa only [List.filterMap_cons, he, hi] using ih.cons i
      | some l =>
        have he : t.keyed? layout? = some (i, l) := keyed?_eq_some_iff.mpr ⟨hi, hl⟩
        rw [List.filterMap_cons_some he, List.filterMap_cons_some hi]
        exact ih.cons_cons i

end PropertyType

open PropertyType (keyed? typeLayout? aliasLayout?)

/-- **The layouts of a model, by one pass over its named types.** -/
def Schema.layouts (s : Schema) : Layouts where
  types := s.namedTypes.filterMap (keyed? typeLayout?)
  aliases := s.namedTypes.filterMap (keyed? aliasLayout?)

/-- Adding a type without faults never fails. -/
theorem Layouts.exists_add {t : PropertyType} (hfaults : t.faults = []) (ls : Layouts) :
    ∃ ls', ls.add t = .ok ls' := by
  cases t with
  | variant v =>
    have hv : v.WellFormed := VariantType.faults_eq_nil_iff.mp hfaults
    obtain ⟨cases, hcases, -⟩ := VariantType.exists_caseLayouts
      fun c hc => VariantType.exists_caseLayout (hv.fits c hc)
    refine ⟨{ ls with types := ls.types.insert v.name.id (.variant ⟨v, cases⟩) }, ?_⟩
    simp only [add, hcases]
    rfl
  | _ => exact ⟨_, rfl⟩

/-- What adding a type whose id is new gives: its entries at the end of the tables. -/
theorem Layouts.add_eq_ok {t : PropertyType} {i : String} (hi : t.id? = some i) {ls ls' : Layouts}
    (htypes : i ∉ ls.types.keys) (haliases : i ∉ ls.aliases.keys) (h : ls.add t = .ok ls') :
    ls' = ⟨ls.types ++ (t.keyed? typeLayout?).toList,
      ls.aliases ++ (t.keyed? aliasLayout?).toList⟩ := by
  cases t with
  | scalar kind => cases hi
  | array item => cases hi
  | untyped kind => cases hi
  | record r =>
    obtain rfl := Option.some.inj hi
    obtain rfl := Except.ok.inj h
    simp [keyed?, typeLayout?, aliasLayout?, hi, Entries.insert_of_not_mem _ htypes]
  | enumeration e =>
    obtain rfl := Option.some.inj hi
    obtain rfl := Except.ok.inj h
    simp [keyed?, typeLayout?, aliasLayout?, hi, Entries.insert_of_not_mem _ htypes]
  | aliasType a =>
    obtain rfl := Option.some.inj hi
    obtain rfl := Except.ok.inj h
    simp [keyed?, typeLayout?, aliasLayout?, hi, Entries.insert_of_not_mem _ haliases]
  | variant v =>
    obtain rfl := Option.some.inj hi
    obtain ⟨cases, hcases, h⟩ := except_bind_eq_ok.mp h
    obtain rfl := except_pure_eq_ok.mp h
    rw [Entries.insert_of_not_mem _ htypes]
    simp [keyed?, typeLayout?, aliasLayout?, hi, hcases, Except.toOption]

theorem Layouts.exists_foldlM_add {types : List PropertyType}
    (hfaults : ∀ t ∈ types, t.faults = []) : ∀ ls : Layouts,
      ∃ ls', types.foldlM Layouts.add ls = .ok ls' := by
  induction types with
  | nil => exact fun ls => ⟨ls, rfl⟩
  | cons t rest ih =>
    intro ls
    obtain ⟨ls₁, hadd⟩ := exists_add (hfaults t List.mem_cons_self) ls
    obtain ⟨ls', hrest⟩ := ih (fun u hu => hfaults u (List.mem_cons_of_mem t hu)) ls₁
    exact ⟨ls', by rw [List.foldlM_cons, hadd]; exact hrest⟩

theorem Layouts.foldlM_add_eq_ok {types : List PropertyType} :
    ∀ {ids : List String} {ls ls' : Layouts}, ids.Nodup →
      types.map PropertyType.id? = ids.map some →
      (∀ i ∈ ids, i ∉ ls.types.keys ∧ i ∉ ls.aliases.keys) →
      types.foldlM Layouts.add ls = .ok ls' →
      ls' = ⟨ls.types ++ types.filterMap (keyed? typeLayout?),
        ls.aliases ++ types.filterMap (keyed? aliasLayout?)⟩ := by
  induction types with
  | nil =>
    intro ids ls ls' _ _ _ h
    obtain rfl := except_pure_eq_ok.mp h
    simp only [List.filterMap_nil, List.append_nil]
  | cons t rest ih =>
    intro ids ls ls' hids hmap hnew h
    obtain ⟨i, ids, rfl⟩ : ∃ i rest, ids = i :: rest := by
      cases ids with
      | nil => cases hmap
      | cons i rest => exact ⟨i, rest, rfl⟩
    obtain ⟨hi, hrest⟩ := List.cons.inj hmap
    obtain ⟨hfresh, hdistinct⟩ := List.nodup_cons.mp hids
    obtain ⟨htypes, haliases⟩ := hnew i List.mem_cons_self
    have hkeys : ∀ {α : Type} (layout? : PropertyType → Option α) (j : String), j ∈ ids →
        j ∉ Entries.keys (t.keyed? layout?).toList := by
      intro α layout? j hj hmem
      obtain ⟨⟨k, l⟩, hkl, rfl⟩ := List.mem_map.mp hmem
      obtain ⟨hk, -⟩ := PropertyType.keyed?_eq_some_iff.mp (Option.mem_toList.mp hkl)
      obtain rfl : k = i := Option.some.inj (hk.symm.trans hi)
      exact hfresh hj
    rw [List.foldlM_cons] at h
    obtain ⟨ls₁, hadd, h⟩ := except_bind_eq_ok.mp h
    obtain rfl := Layouts.add_eq_ok hi htypes haliases hadd
    refine (ih hdistinct hrest ?_ h).trans ?_
    · intro j hj
      obtain ⟨hj₁, hj₂⟩ := hnew j (List.mem_cons_of_mem i hj)
      simp only [Entries.keys_append, List.mem_append, not_or]
      exact ⟨⟨hj₁, hkeys typeLayout? j hj⟩, hj₂, hkeys aliasLayout? j hj⟩
    · simp only [List.append_assoc]
      congr 2 <;> cases h : t.keyed? _ <;> simp [h]

/-- **The layouts of a model, if it has any, are `Schema.layouts`.** -/
theorem Layouts.eq_of_ofSchema {s : Schema} {ls : Layouts} (h : Layouts.ofSchema s = .ok ls) :
    ls = s.layouts := by
  obtain ⟨ids, hids, hmap⟩ := s.namedTypes_ids
  exact Layouts.foldlM_add_eq_ok hids hmap (fun i _ => ⟨List.not_mem_nil, List.not_mem_nil⟩) h

/-- **A model whose named types have no fault has layouts**: `Schema.layouts`. -/
theorem Layouts.ofSchema_eq {s : Schema} (h : ∀ t ∈ s.namedTypes, t.faults = []) :
    Layouts.ofSchema s = .ok s.layouts := by
  obtain ⟨ls, hls⟩ := Layouts.exists_foldlM_add h {}
  rw [← Layouts.eq_of_ofSchema hls]
  exact hls

/-- **A model that has layouts has one for every case of every variant.** -/
theorem Layouts.exists_caseLayouts_of_ofSchema {s : Schema} {ls : Layouts}
    (h : Layouts.ofSchema s = .ok ls) {v : VariantType} (hv : .variant v ∈ s.namedTypes) :
    ∃ cases, v.allCases.mapM v.caseLayout = .ok cases := by
  have hadded : ∀ (types : List PropertyType) (ls ls' : Layouts),
      types.foldlM Layouts.add ls = .ok ls' → .variant v ∈ types →
      ∃ before after : Layouts, before.add (.variant v) = .ok after := by
    intro types
    induction types with
    | nil => exact fun _ _ _ hmem => absurd hmem List.not_mem_nil
    | cons t rest ih =>
      intro ls ls' h hmem
      rw [List.foldlM_cons] at h
      obtain ⟨ls₁, hadd, h⟩ := except_bind_eq_ok.mp h
      rcases List.mem_cons.mp hmem with rfl | hmem
      · exact ⟨ls, ls₁, hadd⟩
      · exact ih ls₁ ls' h hmem
  obtain ⟨before, after, hadd⟩ := hadded _ _ _ h hv
  obtain ⟨cases, hcases, -⟩ := except_bind_eq_ok.mp hadd
  exact ⟨cases, hcases⟩

/-! ## §3 Looking layouts up -/

namespace Schema

variable {s : Schema}

theorem filterMap_id_namedTypes_nodup (s : Schema) :
    (s.namedTypes.filterMap PropertyType.id?).Nodup := by
  obtain ⟨ids, hids, hmap⟩ := s.namedTypes_ids
  have h : s.namedTypes.filterMap PropertyType.id? =
      (s.namedTypes.map PropertyType.id?).filterMap id := by
    rw [List.filterMap_map]
    rfl
  have hsome : (ids.map some).filterMap id = ids := by simp
  rw [h, hmap, hsome]
  exact hids

/-- A type is found in a table under its id. -/
theorem get?_entries {α : Type} {layout? : PropertyType → Option α} {t : PropertyType}
    (ht : t ∈ s.namedTypes) {i : String} (hi : t.id? = some i) {l : α} (hl : layout? t = some l) :
    Entries.get? (s.namedTypes.filterMap (keyed? layout?)) i = some l := by
  refine Entries.get?_of_mem ?_ ?_
  · exact (filterMap_id_namedTypes_nodup s).sublist (PropertyType.keys_entries_sublist layout? _)
  · exact List.mem_filterMap.mpr ⟨t, ht, PropertyType.keyed?_eq_some_iff.mpr ⟨hi, hl⟩⟩

/-- Listed types with one id are one type. -/
theorem eq_of_mem_namedTypes {t u : PropertyType} (ht : t ∈ s.namedTypes) (hu : u ∈ s.namedTypes)
    {i : String} (hti : t.id? = some i) (hui : u.id? = some i) : t = u := by
  obtain ⟨ids, hids, hmap⟩ := s.namedTypes_ids
  have hnodup : (s.namedTypes.map PropertyType.id?).Nodup := by
    rw [hmap]
    exact hids.map fun _ _ => Option.some.inj
  exact List.inj_on_of_nodup_map hnodup ht hu (hti.trans hui.symm)

/-- What is found in a table belongs to the listed type with that id. -/
theorem get?_entries_eq {α : Type} {layout? : PropertyType → Option α} {t : PropertyType}
    (ht : t ∈ s.namedTypes) {i : String} (hi : t.id? = some i) :
    Entries.get? (s.namedTypes.filterMap (keyed? layout?)) i = layout? t := by
  cases hl : layout? t with
  | some l => exact get?_entries ht hi hl
  | none =>
    rw [Entries.get?_eq_none_iff]
    intro hmem
    obtain ⟨⟨k, l⟩, hkl, rfl⟩ := List.mem_map.mp hmem
    obtain ⟨u, hu, hul⟩ := List.mem_filterMap.mp hkl
    obtain ⟨hui, hl'⟩ := PropertyType.keyed?_eq_some_iff.mp hul
    obtain rfl := eq_of_mem_namedTypes ht hu hi hui
    simp [hl] at hl'

end Schema

end TrackingPlan
