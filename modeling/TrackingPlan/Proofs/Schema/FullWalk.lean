import TrackingPlan.Proofs.Schema.NamedTypes

/-!
# The list of named types as a full walk without repetition

`Schema.namedTypes` leaves a type that was met before together with all that stands in it.  A full
walk leaves nothing: it lists a named type before what stands in it, part by part, and lists it
again wherever it stands again (`PropertyType.preorder`).  If ids identify types, the two agree once only
the first type of each id is kept of the full walk (`Schema.namedTypes_eq_eraseDupsBy`): where the
first walk turns back, the second meets ids that are known, all the way down.

§1 the full walk · §2 meeting types one by one · §3 turning back loses nothing · §4 models.
-/

namespace TrackingPlan

/-! ## §1 The full walk -/

namespace PropertyType

/-- The type itself, if it is named. -/
def named (t : PropertyType) : List PropertyType :=
  if t.name?.isSome then [t] else []

/-- **The named types on a full walk** over a type: itself, then those in each of its parts, in
order and however often they stand there. -/
def preorder (t : PropertyType) : List PropertyType :=
  t.named ++ t.parts.attach.flatMap fun part => part.1.preorder
termination_by sizeOf t
decreasing_by exact sizeOf_lt_of_mem_parts part.2

theorem preorder_eq (t : PropertyType) : t.preorder = t.named ++ t.parts.flatMap preorder := by
  rw [preorder, List.flatMap_subtype (g := preorder) fun _ _ => rfl, List.unattach_attach]

theorem preorder_of_named {t : PropertyType} {name : TypeName} (h : t.name? = some name) :
    t.preorder = t :: t.parts.flatMap preorder := by
  rw [preorder_eq, named, h]
  rfl

theorem preorder_of_unnamed {t : PropertyType} (h : t.name? = none) :
    t.preorder = t.parts.flatMap preorder := by
  rw [preorder_eq, named, h]
  rfl

theorem mem_named_iff {t u : PropertyType} : u ∈ t.named ↔ u = t ∧ u.name?.isSome := by
  unfold named
  split
  · rename_i hname
    rw [List.mem_singleton]
    exact ⟨fun h => ⟨h, h ▸ hname⟩, fun h => h.1⟩
  · rename_i hname
    refine iff_of_false List.not_mem_nil ?_
    rintro ⟨rfl, h⟩
    exact hname h

/-- **A full walk meets the named types within a type**, and no others. -/
theorem mem_preorder_iff {t u : PropertyType} :
    u ∈ t.preorder ↔ t.Reaches u ∧ u.name?.isSome := by
  induction t using parts_induction with
  | step t ih =>
    rw [preorder_eq, List.mem_append, mem_named_iff, List.mem_flatMap, reaches_iff, or_and_right]
    refine or_congr_right ⟨?_, ?_⟩
    · rintro ⟨part, hpart, hu⟩
      obtain ⟨hreach, hname⟩ := (ih part hpart).mp hu
      exact ⟨⟨part, hpart, hreach⟩, hname⟩
    · rintro ⟨⟨part, hpart, hreach⟩, hname⟩
      exact ⟨part, hpart, (ih part hpart).mpr ⟨hreach, hname⟩⟩

end PropertyType

/-! ## §2 Meeting types one by one -/

namespace NamedWalk

/-- **Meets a type and looks no further**: it is found if it is named and its id is new. -/
def meet (w : NamedWalk) (t : PropertyType) : NamedWalk :=
  match t.name? with
  | none => w
  | some name => (w.enter? name t).getD w

theorem meet_of_met {w : NamedWalk} {t : PropertyType} (h : ∀ i, t.id? = some i → i ∈ w.seen) :
    w.meet t = w := by
  unfold meet
  cases hname : t.name? with
  | none => rfl
  | some name =>
    have hmet : name.id ∈ w.seen := h name.id (by rw [PropertyType.id?, hname]; rfl)
    simp only [enter?_eq_none_iff.mpr hmet, Option.getD_none]

theorem meet_of_new {w : NamedWalk} {t : PropertyType} {name : TypeName}
    (hname : t.name? = some name) (hnew : name.id ∉ w.seen) :
    w.meet t = ⟨name.id :: w.seen, t :: w.found⟩ := by
  unfold meet
  simp only [hname, enter?_eq_some_iff.mpr ⟨hnew, rfl⟩, Option.getD_some]

/-- Meets types one after the other. -/
def meetAll (types : List PropertyType) (w : NamedWalk) : NamedWalk :=
  types.foldl meet w

theorem meetAll_append (ts us : List PropertyType) (w : NamedWalk) :
    meetAll (ts ++ us) w = meetAll us (meetAll ts w) :=
  List.foldl_append

theorem meetAll_of_met {types : List PropertyType} {w : NamedWalk}
    (h : ∀ t ∈ types, ∀ i, t.id? = some i → i ∈ w.seen) : meetAll types w = w := by
  induction types with
  | nil => rfl
  | cons t rest ih =>
    obtain ⟨ht, hrest⟩ := List.forall_mem_cons.mp h
    rw [meetAll, List.foldl_cons, meet_of_met ht]
    exact ih hrest

/-- A walk that covers a type learns nothing from a full walk over it. -/
theorem Covers.meetAll_preorder {w : NamedWalk} {t : PropertyType} (h : w.Covers t) :
    meetAll t.preorder w = w :=
  meetAll_of_met fun u hu => h u (PropertyType.mem_preorder_iff.mp hu).1

/-- **What is found by meeting types one by one** is the first of each id. -/
theorem found_meetAll {types : List PropertyType} (hnamed : ∀ t ∈ types, t.name?.isSome) :
    ∀ {w : NamedWalk}, w.found.map PropertyType.id? = w.seen.map some →
      (meetAll types w).found.reverse =
        List.eraseDupsBy.loop (fun t u => t.id? == u.id?) types w.found := by
  induction types with
  | nil => exact fun _ => rfl
  | cons t rest ih =>
    intro w hids
    obtain ⟨ht, hrest⟩ := List.forall_mem_cons.mp hnamed
    obtain ⟨name, hname⟩ := Option.isSome_iff_exists.mp ht
    have hid : t.id? = some name.id := by rw [PropertyType.id?, hname]; rfl
    have hmet : (w.found.any fun u => t.id? == u.id?) = true ↔ name.id ∈ w.seen := by
      have hmem : some name.id ∈ w.seen.map some ↔ name.id ∈ w.seen := by simp
      rw [← hmem, ← hids, List.any_eq_true, List.mem_map]
      simp only [hid, beq_iff_eq]
      exact exists_congr fun u => and_congr_right fun _ => eq_comm
    rw [meetAll, List.foldl_cons, List.eraseDupsBy.loop]
    by_cases hseen : name.id ∈ w.seen
    · have hknown : ∀ i, t.id? = some i → i ∈ w.seen := by
        intro i hi
        obtain rfl := Option.some.inj (hid.symm.trans hi)
        exact hseen
      rw [meet_of_met hknown, hmet.mpr hseen]
      exact ih hrest hids
    · rw [meet_of_new hname hseen, Bool.eq_false_iff.mpr (mt hmet.mp hseen)]
      exact ih hrest (by rw [List.map_cons, List.map_cons, hid, hids])

end NamedWalk

/-! ## §3 Turning back loses nothing -/

namespace PropertyType

open NamedWalk (meetAll meetAll_append)

variable {s : Schema}

/-- Types that are walked as by a full walk are so one after the other: what is found on the way is
covered, or was under way before. -/
theorem walkAll_eq_meetAll (hids : s.IdsIdentify) {types : List PropertyType}
    (hreach : ∀ t ∈ types, s.Reaches t)
    (step : ∀ t ∈ types, ∀ w, w.Of s → (∀ u ∈ w.found, w.Covers u ∨ sizeOf t < sizeOf u) →
      t.walk w = meetAll t.preorder w) :
    ∀ w, w.Of s → (∀ u ∈ w.found, w.Covers u ∨ ∀ t ∈ types, sizeOf t < sizeOf u) →
      walkAll types w = meetAll (types.flatMap preorder) w := by
  induction types with
  | nil => exact fun w _ _ => rfl
  | cons t rest ih =>
    intro w hw hbig
    obtain ⟨ht, hrest⟩ := List.forall_mem_cons.mp hreach
    have hfirst : ∀ u ∈ w.found, w.Covers u ∨ sizeOf t < sizeOf u :=
      fun u hu => (hbig u hu).imp_right fun h => h t List.mem_cons_self
    obtain ⟨-, hnew⟩ := walk_covers hids t ht w hw hfirst
    have hlater : ∀ u ∈ (t.walk w).found,
        (t.walk w).Covers u ∨ ∀ v ∈ rest, sizeOf v < sizeOf u := by
      intro u hu
      rcases hnew u hu with hcovered | hold
      · exact .inl hcovered
      · exact (hbig u hold).imp (fun h => h.mono (t.walk_mono w).1)
          fun h v hv => h v (List.mem_cons_of_mem t hv)
    have htail : walkAll rest (t.walk w) = meetAll (rest.flatMap preorder) (t.walk w) :=
      ih hrest (fun u hu => step u (List.mem_cons_of_mem t hu)) _ (hw.walk ht) hlater
    rw [List.flatMap_cons, meetAll_append, ← step t List.mem_cons_self w hw hfirst]
    exact htail

/-- **A walk finds what a full walk does**, if every type that was found and is not covered is
larger, as the types are that it is being walked for. -/
theorem walk_eq_meetAll (hids : s.IdsIdentify) (t : PropertyType) :
    s.Reaches t → ∀ w, w.Of s → (∀ u ∈ w.found, w.Covers u ∨ sizeOf t < sizeOf u) →
      t.walk w = meetAll t.preorder w := by
  induction t using parts_induction with
  | step t ih =>
    intro ht w hw hbig
    have hreach : ∀ u ∈ t.parts, s.Reaches u := fun u hu => ht.trans (.of_mem_parts hu)
    have hparts := walkAll_eq_meetAll hids hreach fun u hu => ih u hu (hreach u hu)
    cases hname : t.name? with
    | none =>
      rw [walk_of_unnamed hname, preorder_of_unnamed hname]
      exact hparts w hw fun u hu => (hbig u hu).imp_right
        fun h v hv => Nat.lt_trans (sizeOf_lt_of_mem_parts hv) h
    | some name =>
      by_cases hmet : name.id ∈ w.seen
      · -- the walk turns back: the type found under this id is this very type, and it is covered
        obtain ⟨u, hu, hui⟩ := hw.mem_seen_iff.mp hmet
        have hid : t.id? = some name.id := by rw [id?, hname]; rfl
        obtain rfl : u = t := hids u t (hw.reached u hu) ht name.id hui hid
        have hcovered : w.Covers u := (hbig u hu).resolve_right (Nat.lt_irrefl _)
        rw [walk_of_met hname hmet, hcovered.meetAll_preorder]
      · rw [walk_of_new hname hmet, preorder_of_named hname, meetAll, List.foldl_cons,
          NamedWalk.meet_of_new hname hmet]
        refine hparts _ (hw.enter ht hname hmet) fun u hu => ?_
        rcases List.mem_cons.mp hu with rfl | hu
        · exact .inr fun v hv => sizeOf_lt_of_mem_parts hv
        · exact (hbig u hu).imp (fun h => h.mono (List.subset_cons_self _ _))
            fun h v hv => Nat.lt_trans (sizeOf_lt_of_mem_parts hv) h

end PropertyType

/-! ## §4 Models -/

namespace Schema

variable {s : Schema}

/-- **The named types on a full walk** over a model: custom types, then properties, then
payloads. -/
def preorder (s : Schema) : List PropertyType :=
  s.roots.flatMap PropertyType.preorder

theorem mem_preorder_iff {t : PropertyType} : t ∈ s.preorder ↔ s.Reaches t ∧ t.name?.isSome := by
  rw [preorder, List.mem_flatMap]
  constructor
  · rintro ⟨root, hroot, ht⟩
    obtain ⟨hreach, hname⟩ := PropertyType.mem_preorder_iff.mp ht
    exact ⟨⟨root, hroot, hreach⟩, hname⟩
  · rintro ⟨⟨root, hroot, hreach⟩, hname⟩
    exact ⟨root, hroot, PropertyType.mem_preorder_iff.mpr ⟨hreach, hname⟩⟩

/-- **The named types of a model, if ids identify them, are the first of each id on a full walk.**
So each named type that stands somewhere in the model is listed, and no id is listed twice. -/
theorem namedTypes_eq_eraseDupsBy (hids : s.IdsIdentify) :
    s.namedTypes = s.preorder.eraseDupsBy (fun t u => t.id? == u.id?) ∧
      (∀ t, t ∈ s.namedTypes ↔ s.Reaches t ∧ t.name?.isSome) ∧
      (s.namedTypes.map PropertyType.id?).Nodup := by
  have hreach : ∀ root ∈ s.roots, s.Reaches root := fun _ h => reaches_of_mem_roots h
  have hwalk : PropertyType.walkAll s.roots ⟨[], []⟩ = NamedWalk.meetAll s.preorder ⟨[], []⟩ :=
    PropertyType.walkAll_eq_meetAll hids hreach
      (fun root hroot => PropertyType.walk_eq_meetAll hids root (hreach root hroot)) _
      (NamedWalk.Of.start s) fun u hu => absurd hu List.not_mem_nil
  obtain ⟨ids, hnodup, hlisted⟩ := s.namedTypes_ids
  refine ⟨?_, fun t => ⟨fun ht => ⟨reaches_of_mem_namedTypes ht, ?_⟩, fun ⟨ht, hname⟩ => ?_⟩, ?_⟩
  · rw [namedTypes_eq, hwalk]
    exact NamedWalk.found_meetAll (fun t ht => (mem_preorder_iff.mp ht).2) rfl
  · have hmem : t.id? ∈ ids.map some := hlisted ▸ List.mem_map_of_mem ht
    obtain ⟨i, -, hi⟩ := List.mem_map.mp hmem
    obtain ⟨name, hname, -⟩ := PropertyType.id?_eq_some_iff.mp hi.symm
    exact Option.isSome_of_eq_some hname
  · obtain ⟨name, hname⟩ := Option.isSome_iff_exists.mp hname
    exact mem_namedTypes_of_reaches hids ht (PropertyType.id?_eq_some_iff.mpr ⟨name, hname, rfl⟩)
  · rw [hlisted]
    exact hnodup.map fun _ _ => Option.some.inj

/-- An address, shared by all that holds one. -/
def address : PropertyType :=
  .record ⟨.customType "address", none, [⟨"city", .scalar .string, true, none⟩]⟩

/-- Where a parcel goes. -/
def destination : PropertyType :=
  .aliasType ⟨.property "to", none, address⟩

/-- Where a parcel comes by on the way. -/
def stops : PropertyType :=
  .aliasType ⟨.property "stops", none, .array address⟩

/-- What a call about a parcel carries. -/
def dispatch : PropertyType :=
  .record ⟨.event "Track Parcel Sent properties", none,
    [⟨"to", destination, true, none⟩, ⟨"stops", stops, false, none⟩]⟩

/-- The model of such calls. -/
def deliveries : Schema where
  name := "deliveries"
  metadata := .unknown
  customTypes := [("address", address)]
  properties := [("to", destination), ("stops", stops)]
  rules := [⟨⟨.track, "Parcel Sent", none⟩, .properties, .typed dispatch⟩]

/-- An address stands five times on the full walk, and is listed where it stands first. -/
theorem namedTypes_eq_deliveries : deliveries.IdsIdentify ∧
    deliveries.preorder = [address, destination, address, stops, address,
      dispatch, destination, address, stops, address] ∧
    deliveries.namedTypes = deliveries.preorder.eraseDupsBy (fun t u => t.id? == u.id?) ∧
    deliveries.namedTypes = [address, destination, stops, dispatch] := by
  have hids : deliveries.IdsIdentify := by
    refine .of_types [address, destination, stops, .array address, .scalar .string, dispatch]
      ?_ ?_ (by decide)
    · simp [roots, deliveries, Payload.type?]
    · simp [PropertyType.parts, address, destination, stops, dispatch]
  refine ⟨hids, ?_, (namedTypes_eq_eraseDupsBy hids).1, rfl⟩
  simp [preorder, roots, deliveries, Payload.type?, PropertyType.preorder_eq, PropertyType.named,
    PropertyType.name?, PropertyType.parts, address, destination, stops, dispatch]

end Schema

end TrackingPlan
