import TrackingPlan.Proofs.Schema.Parts
import Mathlib.Data.List.Pairwise

/-!
# The walk over named types

`Schema.namedTypes` leaves out a type whose id was met before, with all that stands in it.  So it
lists types of the model only, and each id once, whatever the model is.  That nothing is lost needs
more: `Schema.IdsIdentify`, that two named types of the model with one id are one type.  Then what
is cut off was walked already, or is being walked; the second cannot be, because a type does not
stand within itself (`walk_covers`).
-/

namespace TrackingPlan

open PropertyType (walkAll)

/-- **Ids identify types**: named types of the model with the same id are equal. -/
def Schema.IdsIdentify (s : Schema) : Prop :=
  ∀ t u : PropertyType, s.Reaches t → s.Reaches u →
    ∀ i, t.id? = some i → u.id? = some i → t = u

/-- It is enough to look at types that hold all of the model. -/
theorem Schema.IdsIdentify.of_types {s : Schema} (types : List PropertyType)
    (hroots : ∀ t ∈ s.roots, t ∈ types) (hparts : ∀ t ∈ types, ∀ u ∈ t.parts, u ∈ types)
    (hids : (types.filterMap PropertyType.id?).Nodup) : s.IdsIdentify := by
  intro t u ht hu i hti hui
  by_contra hne
  have hsymm : Std.Symm fun t u : PropertyType =>
      ∀ i, t.id? = some i → ∀ j, u.id? = some j → i ≠ j :=
    ⟨fun t u h j hj i hi => (h i hi j hj).symm⟩
  have hdiffer := (List.pairwise_filterMap.mp hids).forall (mem_of_reaches hroots hparts ht)
    (mem_of_reaches hroots hparts hu) hne
  exact hdiffer i hti i hui rfl

/-! ## §1 What a step of the walk does -/

theorem NamedWalk.enter?_eq_some_iff {w w' : NamedWalk} {name : TypeName} {t : PropertyType} :
    w.enter? name t = some w' ↔
      name.id ∉ w.seen ∧ w' = ⟨name.id :: w.seen, t :: w.found⟩ := by
  unfold NamedWalk.enter?
  by_cases h : name.id ∈ w.seen
  · simp [h]
  · simp [h, eq_comm]

theorem NamedWalk.enter?_eq_none_iff {w : NamedWalk} {name : TypeName} {t : PropertyType} :
    w.enter? name t = none ↔ name.id ∈ w.seen := by
  unfold NamedWalk.enter?
  by_cases h : name.id ∈ w.seen <;> simp [h]

namespace PropertyType

theorem walk_of_unnamed {t : PropertyType} (hname : t.name? = none) (w : NamedWalk) :
    t.walk w = walkAll t.parts w := by
  rw [walk_eq, hname]

theorem walk_of_met {t : PropertyType} {name : TypeName} (hname : t.name? = some name)
    {w : NamedWalk} (hmet : name.id ∈ w.seen) : t.walk w = w := by
  rw [walk_eq, hname]
  simp only [NamedWalk.enter?_eq_none_iff.mpr hmet]

theorem walk_of_new {t : PropertyType} {name : TypeName} (hname : t.name? = some name)
    {w : NamedWalk} (hnew : name.id ∉ w.seen) :
    t.walk w = walkAll t.parts ⟨name.id :: w.seen, t :: w.found⟩ := by
  rw [walk_eq, hname]
  simp only [NamedWalk.enter?_eq_some_iff.mpr ⟨hnew, rfl⟩]

theorem walkAll_preserves {P : NamedWalk → Prop} {types : List PropertyType}
    (step : ∀ t ∈ types, ∀ w, P w → P (t.walk w)) {w : NamedWalk} (h : P w) :
    P (walkAll types w) := by
  induction types generalizing w with
  | nil => exact h
  | cons t rest ih =>
    refine ih (fun u hu => step u (List.mem_cons_of_mem t hu)) ?_
    exact step t List.mem_cons_self w h

/-- **What meeting a type preserves, the walk preserves.** -/
theorem walk_preserves {P : NamedWalk → Prop} (t : PropertyType)
    (enter : ∀ u name w, t.Reaches u → u.name? = some name → P w → name.id ∉ w.seen →
      P ⟨name.id :: w.seen, u :: w.found⟩) :
    ∀ w, P w → P (t.walk w) := by
  induction t using parts_induction with
  | step t ih =>
    have hparts : ∀ w, P w → P (walkAll t.parts w) := fun w hw =>
      walkAll_preserves (fun u hu => ih u hu fun x name w hreach =>
        enter x name w (.part hu hreach)) hw
    intro w hw
    cases hname : t.name? with
    | none =>
      rw [walk_of_unnamed hname]
      exact hparts w hw
    | some name =>
      by_cases hmet : name.id ∈ w.seen
      · rw [walk_of_met hname hmet]
        exact hw
      · rw [walk_of_new hname hmet]
        exact hparts _ (enter t name w (.refl t) hname hw hmet)

theorem walk_mono (t : PropertyType) (w : NamedWalk) :
    w.seen ⊆ (t.walk w).seen ∧ w.found ⊆ (t.walk w).found := by
  refine walk_preserves (P := fun w' => w.seen ⊆ w'.seen ∧ w.found ⊆ w'.found) t ?_ w ?_
  · rintro u name w₁ - - ⟨hseen, hfound⟩ -
    exact ⟨fun i hi => List.mem_cons_of_mem _ (hseen hi),
      fun x hx => List.mem_cons_of_mem _ (hfound hx)⟩
  · exact ⟨fun i hi => hi, fun x hx => hx⟩

theorem walkAll_mono (types : List PropertyType) (w : NamedWalk) :
    w.seen ⊆ (walkAll types w).seen ∧ w.found ⊆ (walkAll types w).found := by
  refine walkAll_preserves (P := fun w' => w.seen ⊆ w'.seen ∧ w.found ⊆ w'.found) ?_ ?_
  · rintro t - w₁ ⟨hseen, hfound⟩
    obtain ⟨hs, hf⟩ := t.walk_mono w₁
    exact ⟨fun i hi => hs (hseen hi), fun x hx => hf (hfound hx)⟩
  · exact ⟨fun i hi => hi, fun x hx => hx⟩

end PropertyType

/-! ## §2 What holds of the found types whatever the model -/

/-- **The state of a walk through a model**: the ids met are those of the types found, no id twice,
and the types found stand in the model. -/
structure NamedWalk.Of (s : Schema) (w : NamedWalk) : Prop where
  ids : w.found.map PropertyType.id? = w.seen.map some
  distinct : w.seen.Nodup
  reached : ∀ t ∈ w.found, s.Reaches t

namespace NamedWalk.Of

variable {s : Schema} {w : NamedWalk}

theorem start (s : Schema) : NamedWalk.Of s ⟨[], []⟩ :=
  ⟨rfl, List.nodup_nil, fun _ h => absurd h List.not_mem_nil⟩

theorem enter (h : w.Of s) {t : PropertyType} {name : TypeName} (ht : s.Reaches t)
    (hname : t.name? = some name) (hfresh : name.id ∉ w.seen) :
    NamedWalk.Of s ⟨name.id :: w.seen, t :: w.found⟩ := by
  refine ⟨?_, List.nodup_cons.mpr ⟨hfresh, h.distinct⟩, List.forall_mem_cons.mpr ⟨ht, h.reached⟩⟩
  simp only [List.map_cons, h.ids, PropertyType.id?, hname, Option.map_some]

theorem walk (h : w.Of s) {t : PropertyType} (ht : s.Reaches t) : (t.walk w).Of s :=
  PropertyType.walk_preserves t
    (fun _ _ _ hu hname hw hfresh => hw.enter (ht.trans hu) hname hfresh)
    w h

theorem walkAll (h : w.Of s) {types : List PropertyType} (ht : ∀ t ∈ types, s.Reaches t) :
    (walkAll types w).Of s :=
  PropertyType.walkAll_preserves (P := NamedWalk.Of s) (fun t hmem _ hw => hw.walk (ht t hmem)) h

theorem mem_seen_iff (h : w.Of s) {i : String} :
    i ∈ w.seen ↔ ∃ t ∈ w.found, t.id? = some i := by
  have hmem : some i ∈ w.seen.map some ↔ i ∈ w.seen := by simp
  rw [← hmem, ← h.ids, List.mem_map]

end NamedWalk.Of

namespace Schema

variable {s : Schema}

theorem reaches_of_mem_roots {t : PropertyType} (h : t ∈ s.roots) : s.Reaches t :=
  ⟨t, h, .refl t⟩

theorem namedTypes_eq (s : Schema) :
    s.namedTypes = (walkAll s.roots ⟨[], []⟩).found.reverse :=
  rfl

theorem walkOf_roots (s : Schema) : (walkAll s.roots ⟨[], []⟩).Of s :=
  (NamedWalk.Of.start s).walkAll fun _ h => reaches_of_mem_roots h

/-- **Named types stand in the model.** -/
theorem reaches_of_mem_namedTypes {t : PropertyType} (h : t ∈ s.namedTypes) : s.Reaches t :=
  (walkOf_roots s).reached t (List.mem_reverse.mp h)

/-- A type that the model starts from is listed, or another one under its id. -/
theorem exists_mem_namedTypes {t : PropertyType} (ht : t ∈ s.roots) {i : String}
    (hi : t.id? = some i) : ∃ u ∈ s.namedTypes, u.id? = some i := by
  obtain ⟨name, hname, rfl⟩ := PropertyType.id?_eq_some_iff.mp hi
  have hseen : name.id ∈ (walkAll s.roots ⟨[], []⟩).seen := by
    obtain ⟨before, after, hroots⟩ := List.append_of_mem ht
    rw [hroots, PropertyType.walkAll_append]
    refine (PropertyType.walkAll_mono after _).1 ?_
    generalize walkAll before ⟨[], []⟩ = w
    show name.id ∈ (t.walk w).seen
    by_cases hmet : name.id ∈ w.seen
    · rw [PropertyType.walk_of_met hname hmet]
      exact hmet
    · rw [PropertyType.walk_of_new hname hmet]
      exact (PropertyType.walkAll_mono _ _).1 List.mem_cons_self
  obtain ⟨u, hu, hui⟩ := (walkOf_roots s).mem_seen_iff.mp hseen
  exact ⟨u, List.mem_reverse.mpr hu, hui⟩

/-- **No id is listed twice**, and every type that is listed has one. -/
theorem namedTypes_ids (s : Schema) :
    ∃ ids : List String, ids.Nodup ∧ s.namedTypes.map PropertyType.id? = ids.map some := by
  refine ⟨(walkAll s.roots ⟨[], []⟩).seen.reverse, ?_, ?_⟩
  · exact List.nodup_reverse.mpr (walkOf_roots s).distinct
  · rw [namedTypes_eq, List.map_reverse, (walkOf_roots s).ids, List.map_reverse]

end Schema

/-! ## §3 Nothing is lost when ids identify types -/

/-- Every id within the type was met. -/
def NamedWalk.Covers (w : NamedWalk) (t : PropertyType) : Prop :=
  ∀ u, t.Reaches u → ∀ i, u.id? = some i → i ∈ w.seen

theorem NamedWalk.Covers.mono {w w' : NamedWalk} {t : PropertyType} (h : w.Covers t)
    (hsub : w.seen ⊆ w'.seen) : w'.Covers t :=
  fun u hu i hi => hsub (h u hu i hi)

namespace PropertyType

variable {s : Schema}

/-- Walking types that are smaller than every type under way covers them, and leaves under way
only what was so before. -/
theorem walkAll_covers {types : List PropertyType} (hreach : ∀ t ∈ types, s.Reaches t)
    (step : ∀ t ∈ types, ∀ w, w.Of s → (∀ u ∈ w.found, w.Covers u ∨ sizeOf t < sizeOf u) →
      (t.walk w).Covers t ∧ ∀ u ∈ (t.walk w).found, (t.walk w).Covers u ∨ u ∈ w.found) :
    ∀ w, w.Of s → (∀ u ∈ w.found, w.Covers u ∨ ∀ t ∈ types, sizeOf t < sizeOf u) →
      (∀ t ∈ types, (walkAll types w).Covers t) ∧
        ∀ u ∈ (walkAll types w).found, (walkAll types w).Covers u ∨ u ∈ w.found := by
  induction types with
  | nil => exact fun w _ _ => ⟨fun t ht => absurd ht List.not_mem_nil, fun u hu => .inr hu⟩
  | cons t rest ih =>
    intro w hw hbig
    obtain ⟨hcover, hnew⟩ := step t List.mem_cons_self w hw
      fun u hu => (hbig u hu).imp_right fun h => h t List.mem_cons_self
    have hmono := (t.walk_mono w).1
    obtain ⟨hrest, hfinal⟩ := ih (fun u hu => hreach u (List.mem_cons_of_mem t hu))
      (fun u hu => step u (List.mem_cons_of_mem t hu)) (t.walk w)
      (hw.walk (hreach t List.mem_cons_self)) (by
        intro u hu
        rcases hnew u hu with hc | hold
        · exact .inl hc
        · exact (hbig u hold).imp (fun h => h.mono hmono)
            fun h v hv => h v (List.mem_cons_of_mem t hv))
    refine ⟨?_, ?_⟩
    · intro u hu
      rcases List.mem_cons.mp hu with rfl | hu
      · exact hcover.mono (walkAll_mono rest _).1
      · exact hrest u hu
    · intro u hu
      rcases hfinal u hu with hc | hmid
      · exact .inl hc
      · exact (hnew u hmid).imp_left fun h => h.mono (walkAll_mono rest _).1

/-- **The walk over a type covers it**, if every type that was found and is not covered is larger,
as the types are that it is being walked for. -/
theorem walk_covers (hids : s.IdsIdentify) (t : PropertyType) :
    s.Reaches t → ∀ w, w.Of s → (∀ u ∈ w.found, w.Covers u ∨ sizeOf t < sizeOf u) →
      (t.walk w).Covers t ∧ ∀ u ∈ (t.walk w).found, (t.walk w).Covers u ∨ u ∈ w.found := by
  induction t using parts_induction with
  | step t ih =>
    intro ht
    have hreach : ∀ u ∈ t.parts, s.Reaches u := fun u hu => ht.trans (.of_mem_parts hu)
    have hparts := walkAll_covers hreach fun u hu => ih u hu (hreach u hu)
    intro w hw hbig
    cases hname : t.name? with
    | none =>
      rw [walk_of_unnamed hname]
      obtain ⟨hcover, hfound⟩ := hparts w hw fun u hu => (hbig u hu).imp_right
        fun h v hv => Nat.lt_trans (sizeOf_lt_of_mem_parts hv) h
      refine ⟨fun u hu i hi => ?_, hfound⟩
      rcases reaches_iff.mp hu with rfl | ⟨v, hv, hvu⟩
      · simp [id?, hname] at hi
      · exact hcover v hv u hvu i hi
    | some name =>
      have hid : t.id? = some name.id := by simp [id?, hname]
      by_cases hmet : name.id ∈ w.seen
      · -- The type found under this id is this very type, so it is not a larger one under way.
        rw [walk_of_met hname hmet]
        obtain ⟨u, hu, hui⟩ := hw.mem_seen_iff.mp hmet
        obtain rfl : u = t := hids u t (hw.reached u hu) ht name.id hui hid
        refine ⟨?_, fun x hx => .inr hx⟩
        exact (hbig u hu).resolve_right (Nat.lt_irrefl _)
      · rw [walk_of_new hname hmet]
        obtain ⟨hcover, hfound⟩ := hparts _ (hw.enter ht hname hmet) (by
          intro u hu
          rcases List.mem_cons.mp hu with rfl | hu
          · exact .inr fun v hv => sizeOf_lt_of_mem_parts hv
          · exact (hbig u hu).imp (fun h => h.mono (List.subset_cons_self _ _))
              fun h v hv => Nat.lt_trans (sizeOf_lt_of_mem_parts hv) h)
        have hself : (walkAll t.parts ⟨name.id :: w.seen, t :: w.found⟩).Covers t := by
          intro u hu i hi
          rcases reaches_iff.mp hu with rfl | ⟨v, hv, hvu⟩
          · obtain rfl : name.id = i := Option.some.inj (hid.symm.trans hi)
            exact (walkAll_mono _ _).1 List.mem_cons_self
          · exact hcover v hv u hvu i hi
        refine ⟨hself, fun u hu => ?_⟩
        rcases hfound u hu with hc | hold
        · exact .inl hc
        · rcases List.mem_cons.mp hold with rfl | hold
          · exact .inl hself
          · exact .inr hold

end PropertyType

namespace Schema

variable {s : Schema}

/-- **Every named type of the model is listed** if ids identify types. -/
theorem mem_namedTypes_of_reaches (hids : s.IdsIdentify) {t : PropertyType} (ht : s.Reaches t)
    {i : String} (hi : t.id? = some i) : t ∈ s.namedTypes := by
  have hroots : ∀ root ∈ s.roots, s.Reaches root := fun _ h => reaches_of_mem_roots h
  obtain ⟨hcover, -⟩ := PropertyType.walkAll_covers hroots
    (fun root hroot => PropertyType.walk_covers hids root (hroots root hroot)) ⟨[], []⟩
    (NamedWalk.Of.start s) fun u hu => absurd hu List.not_mem_nil
  obtain ⟨root, hroot, hreach⟩ := ht
  obtain ⟨u, hu, hui⟩ := (walkOf_roots s).mem_seen_iff.mp (hcover root hroot t hreach i hi)
  obtain rfl : u = t := hids u t ((walkOf_roots s).reached u hu) ⟨root, hroot, hreach⟩ i hui hi
  exact List.mem_reverse.mpr hu

end Schema

end TrackingPlan
