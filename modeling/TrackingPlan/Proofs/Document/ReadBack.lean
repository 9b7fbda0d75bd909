import TrackingPlan.Document.Reader
import TrackingPlan.Proofs.Entries
import TrackingPlan.Proofs.Steps

/-!
# Reading back what was written

A reader takes back what is written of a value if the tree of what is written reads as that value
again, given room for all that it nests (`ReadsBack`).  A reader round-trips if it takes back
whatever it makes of a tree (`RoundTrips`).  It may refuse other values: a map settles repeated
keys, so one that holds a key twice is never made and is not taken back either.

§1 how deep a tree nests · §2 readers that take back · §3 lists, maps and options · §4 JSON values ·
§5 records · §6 fields.
-/

namespace TrackingPlan.Document

open Json (Source)

/-! ## §1 How deep a tree nests -/

theorem itemSources_eq (items : List Json) : Json.itemSources items = items.map Json.toSource := by
  induction items with
  | nil => rfl
  | cons j rest ih => exact congrArg (j.toSource :: ·) ih

theorem entrySources_eq (entries : List (String × Json)) :
    Json.entrySources entries = entries.map fun e => (some e.1, e.2.toSource) := by
  induction entries with
  | nil => rfl
  | cons e rest ih => exact congrArg ((some e.1, e.2.toSource) :: ·) ih

theorem heightItems_le_iff {items : List Source} {room : Nat} :
    Source.heightItems items ≤ room ↔ ∀ s ∈ items, s.height ≤ room := by
  induction items with
  | nil => simp [Source.heightItems]
  | cons s rest ih => rw [Source.heightItems, Nat.max_le, ih, List.forall_mem_cons]

theorem heightEntries_le_iff {entries : List (Option String × Source)} {room : Nat} :
    Source.heightEntries entries ≤ room ↔ ∀ e ∈ entries, e.2.height ≤ room := by
  induction entries with
  | nil => simp [Source.heightEntries]
  | cons e rest ih => rw [Source.heightEntries, Nat.max_le, ih, List.forall_mem_cons]

/-- Room for a list is room for the list itself and for each of its items. -/
theorem room_of_array {items : List Json} {room : Nat}
    (h : (Json.array items).toSource.height ≤ room) :
    ∃ inner, room = inner + 1 ∧ ∀ j ∈ items, j.toSource.height ≤ inner := by
  rw [Json.toSource, Source.height, itemSources_eq] at h
  obtain ⟨inner, rfl⟩ := Nat.exists_eq_add_of_le' (Nat.le_of_add_left_le h)
  have hitems := heightItems_le_iff.mp (Nat.le_of_add_le_add_right h)
  exact ⟨inner, rfl, fun j hj => hitems _ (List.mem_map_of_mem hj)⟩

/-- Room for an object is room for the object itself and for each of its values. -/
theorem room_of_object {entries : List (String × Json)} {room : Nat}
    (h : (Json.object entries).toSource.height ≤ room) :
    ∃ inner, room = inner + 1 ∧ ∀ e ∈ entries, e.2.toSource.height ≤ inner := by
  rw [Json.toSource, Source.height, entrySources_eq] at h
  obtain ⟨inner, rfl⟩ := Nat.exists_eq_add_of_le' (Nat.le_of_add_left_le h)
  have hentries := heightEntries_le_iff.mp (Nat.le_of_add_le_add_right h)
  exact ⟨inner, rfl, fun e he => hentries (some e.1, e.2.toSource) (List.mem_map_of_mem he)⟩

/-! ## §2 Readers that take back -/

variable {α β : Type} {read : Reader α} {write : α → Json}

/-- **The reader takes back what is written of the value**, given room for what it nests. -/
def ReadsBack (read : Reader α) (write : α → Json) (a : α) : Prop :=
  ∀ room, (write a).toSource.height ≤ room → read room (write a).toSource = some a

/-- **Whatever the reader makes of a tree, it takes back.** -/
def RoundTrips (read : Reader α) (write : α → Json) : Prop :=
  ∀ depth s a, read depth s = some a → ReadsBack read write a

theorem readsBack_text (s : String) : ReadsBack readText Json.string s :=
  fun _ _ => rfl

/-! ## §3 Lists, maps and options -/

/-- Reading each element of what was written of a list. -/
theorem mapM_map_eq_some {as : List α} {f : β → Option α} {g : α → β}
    (h : ∀ a ∈ as, f (g a) = some a) : (as.map g).mapM f = some as := by
  induction as with
  | nil => rfl
  | cons a rest ih =>
    obtain ⟨hfirst, hrest⟩ := List.forall_mem_cons.mp h
    rw [List.map_cons, List.mapM_cons, hfirst, ih hrest]
    rfl

theorem readsBack_list {as : List α} (h : ∀ a ∈ as, ReadsBack read write a) :
    ReadsBack (readList read) (fun as => .array (as.map write)) as := by
  intro room hroom
  obtain ⟨inner, rfl, hitems⟩ := room_of_array hroom
  show (Json.itemSources (as.map write)).mapM (read inner) = some as
  rw [itemSources_eq, List.map_map]
  exact mapM_map_eq_some fun a ha => h a ha inner (hitems _ (List.mem_map_of_mem ha))

theorem readsBack_nil : ReadsBack (readList read) (fun as => .array (as.map write)) [] :=
  readsBack_list fun _ ha => absurd ha List.not_mem_nil

/-- The elements of a list were read one level further down. -/
theorem exists_of_readList {depth : Nat} {s : Source} {as : List α}
    (h : readList read depth s = some as) : ∀ a ∈ as, ∃ d < depth, ∃ t, read d t = some a := by
  intro a ha
  unfold readList at h
  split at h
  · obtain ⟨item, -, hitem⟩ := exists_mem_of_mapM_eq_some h a ha
    exact ⟨_, Nat.lt_succ_self _, item, hitem⟩
  · cases h

/-- **A list is taken back in order.** -/
theorem RoundTrips.list (h : RoundTrips read write) :
    RoundTrips (readList read) fun as => .array (as.map write) := by
  intro depth s as hread
  refine readsBack_list fun a ha => ?_
  obtain ⟨_, -, _, hread⟩ := exists_of_readList hread a ha
  exact h _ _ _ hread

/-- **A map that holds each key once is taken back in order.** -/
theorem readsBack_map {entries : Entries α} (hkeys : entries.keys.Nodup)
    (h : ∀ e ∈ entries, ReadsBack read write e.2) :
    ReadsBack (readMap read) (fun es => .object (es.map fun e => (e.1, write e.2))) entries := by
  intro room hroom
  obtain ⟨inner, rfl, hvalues⟩ := room_of_object hroom
  let readEntry : Option String × Source → Option (String × α) :=
    fun e => do return (← e.1, ← read inner e.2)
  have hread : (Json.entrySources (entries.map fun e => (e.1, write e.2))).mapM readEntry =
      some entries := by
    rw [entrySources_eq, List.map_map]
    refine mapM_map_eq_some fun e he => ?_
    show (read inner (write e.2).toSource >>= fun a => some (e.1, a)) = some e
    rw [h e he inner (hvalues _ (List.mem_map_of_mem he))]
    rfl
  show ((Json.entrySources _).mapM readEntry >>= fun es => some (Entries.ofList es)) = some entries
  rw [hread]
  exact congrArg some (Entries.ofList_eq_self hkeys)

theorem readsBack_noEntries :
    ReadsBack (readMap read) (fun es => .object (es.map fun e => (e.1, write e.2))) [] :=
  readsBack_map List.nodup_nil fun _ he => absurd he List.not_mem_nil

/-- The values of a map were read one level further down, and its keys are settled. -/
theorem exists_of_readMap {depth : Nat} {s : Source} {entries : Entries α}
    (h : readMap read depth s = some entries) :
    entries.keys.Nodup ∧ ∀ e ∈ entries, ∃ d < depth, ∃ t, read d t = some e.2 := by
  unfold readMap at h
  split at h
  · obtain ⟨es, hes, h⟩ := Option.bind_eq_some_iff.mp h
    obtain rfl := Option.some.inj h
    obtain ⟨hkeys, hmem⟩ := Entries.ofList_spec es
    refine ⟨hkeys, fun e he => ?_⟩
    obtain ⟨⟨key, t⟩, -, hentry⟩ := exists_mem_of_mapM_eq_some hes e (hmem e he)
    obtain ⟨k, -, hentry⟩ := Option.bind_eq_some_iff.mp hentry
    obtain ⟨a, ha, hentry⟩ := Option.bind_eq_some_iff.mp hentry
    obtain rfl := Option.some.inj hentry
    exact ⟨_, Nat.lt_succ_self _, t, ha⟩
  · cases h

/-- A map is made with each key once, so it is taken back. -/
theorem RoundTrips.map (h : RoundTrips read write) :
    RoundTrips (readMap read) fun es => .object (es.map fun e => (e.1, write e.2)) := by
  intro depth s entries hread
  obtain ⟨hkeys, hvalues⟩ := exists_of_readMap hread
  refine readsBack_map hkeys fun e he => ?_
  obtain ⟨_, -, _, hread⟩ := hvalues e he
  exact h _ _ _ hread

/-- What is written of a value or of its absence. -/
theorem readsBack_option {write' : Option α → Json} (hnone : write' none = .null)
    (hsome : ∀ a, write' (some a) = write a) (hvalue : ∀ a, write a ≠ .null) {a : Option α}
    (h : ∀ x ∈ a, ReadsBack read write x) : ReadsBack (readOption read) write' a := by
  intro room hroom
  cases a with
  | none =>
    rw [hnone]
    rfl
  | some x =>
    rw [hsome] at hroom ⊢
    have hback := h x rfl room hroom
    have hvalue := hvalue x
    -- only `null` is read as absence
    generalize write x = j at hback hvalue
    cases j with
    | null => exact absurd rfl hvalue
    | _ => exact congrArg (Option.map some) hback

/-- A value that is there was read. -/
theorem exists_of_readOption {depth : Nat} {s : Source} {a : Option α}
    (h : readOption read depth s = some a) : ∀ x ∈ a, ∃ t, read depth t = some x := by
  intro x hx
  unfold readOption at h
  split at h
  · obtain rfl := Option.some.inj h
    cases hx
  · obtain ⟨y, hy, rfl⟩ := Option.map_eq_some_iff.mp h
    obtain rfl := Option.some.inj hx
    exact ⟨s, hy⟩

theorem RoundTrips.option (h : RoundTrips read write) {write' : Option α → Json}
    (hnone : write' none = .null) (hsome : ∀ a, write' (some a) = write a)
    (hvalue : ∀ a, write a ≠ .null) : RoundTrips (readOption read) write' := by
  intro depth s a hread
  refine readsBack_option hnone hsome hvalue fun x hx => ?_
  obtain ⟨_, hread⟩ := exists_of_readOption hread x hx
  exact h _ _ _ hread

/-! ## §4 JSON values -/

/-- The items of a list have their values if each has. -/
theorem itemValues?_eq_some {js : List Json} {depth : Nat}
    (h : ∀ j ∈ js, j.toSource.value? depth = some j) :
    Source.itemValues? (Json.itemSources js) depth = some js := by
  induction js with
  | nil => rfl
  | cons j rest ih =>
    obtain ⟨hfirst, hrest⟩ := List.forall_mem_cons.mp h
    rw [Json.itemSources, Source.itemValues?, hfirst, ih hrest]
    rfl

theorem entryValues?_eq_some {es : List (String × Json)} {depth : Nat}
    (h : ∀ e ∈ es, e.2.toSource.value? depth = some e.2) :
    Source.entryValues? (Json.entrySources es) depth = some es := by
  induction es with
  | nil => rfl
  | cons e rest ih =>
    obtain ⟨hfirst, hrest⟩ := List.forall_mem_cons.mp h
    rw [Json.entrySources, Source.entryValues?, hfirst, ih hrest]
    rfl

mutual
/-- **A value that a tree has is the value of its own tree.** -/
theorem readsBack_value : ∀ (s : Source) {depth : Nat} {j : Json}, s.value? depth = some j →
    ReadsBack readJson id j
  | .null, _, _, h => by
    obtain rfl := Option.some.inj h
    exact fun _ _ => rfl
  | .bool b, _, _, h => by
    obtain rfl := Option.some.inj h
    exact fun _ _ => rfl
  | .number n, _, _, h => by
    obtain ⟨n, rfl, rfl⟩ := Option.map_eq_some_iff.mp h
    exact fun _ _ => rfl
  | .string s, _, _, h => by
    obtain ⟨s, rfl, rfl⟩ := Option.map_eq_some_iff.mp h
    exact fun _ _ => rfl
  | .array items, 0, _, h => by cases h
  | .object entries, 0, _, h => by cases h
  | .array items, depth + 1, _, h => by
    obtain ⟨js, hjs, rfl⟩ := Option.map_eq_some_iff.mp h
    have hitems := readsBack_itemValues items hjs
    intro room hroom
    obtain ⟨inner, rfl, hheight⟩ := room_of_array hroom
    show (Source.itemValues? (Json.itemSources js) inner).map Json.array = _
    rw [itemValues?_eq_some fun j hj => hitems j hj inner (hheight j hj)]
    rfl
  | .object entries, depth + 1, _, h => by
    obtain ⟨es, hes, rfl⟩ := Option.map_eq_some_iff.mp h
    obtain ⟨hkeys, hmem⟩ := Entries.ofList_spec es
    have hentries := readsBack_entryValues entries hes
    intro room hroom
    obtain ⟨inner, rfl, hheight⟩ := room_of_object hroom
    show (Source.entryValues? (Json.entrySources (Entries.ofList es)) inner).map _ = _
    rw [entryValues?_eq_some fun e he => hentries e (hmem e he) inner (hheight e he)]
    exact congrArg (some ∘ Json.object) (Entries.ofList_eq_self hkeys)
termination_by structural s => s

theorem readsBack_itemValues : ∀ (items : List Source) {depth : Nat} {js : List Json},
    Source.itemValues? items depth = some js → ∀ j ∈ js, ReadsBack readJson id j
  | [], _, _, h => by
    obtain rfl := Option.some.inj h
    exact fun j hj => absurd hj List.not_mem_nil
  | s :: rest, _, _, h => by
    obtain ⟨j, hj, h⟩ := Option.bind_eq_some_iff.mp h
    obtain ⟨js, hjs, h⟩ := Option.bind_eq_some_iff.mp h
    obtain rfl := Option.some.inj h
    exact List.forall_mem_cons.mpr ⟨readsBack_value s hj, readsBack_itemValues rest hjs⟩
termination_by structural items => items

theorem readsBack_entryValues : ∀ (entries : List (Option String × Source)) {depth : Nat}
    {es : List (String × Json)}, Source.entryValues? entries depth = some es →
    ∀ e ∈ es, ReadsBack readJson id e.2
  | [], _, _, h => by
    obtain rfl := Option.some.inj h
    exact fun e he => absurd he List.not_mem_nil
  | (key, s) :: rest, _, _, h => by
    obtain ⟨k, -, h⟩ := Option.bind_eq_some_iff.mp h
    obtain ⟨j, hj, h⟩ := Option.bind_eq_some_iff.mp h
    obtain ⟨es, hes, h⟩ := Option.bind_eq_some_iff.mp h
    obtain rfl := Option.some.inj h
    exact List.forall_mem_cons.mpr ⟨readsBack_value s hj, readsBack_entryValues rest hes⟩
termination_by structural entries => entries
end

/-- **JSON values round-trip.** -/
theorem roundTrips_json : RoundTrips readJson id :=
  fun _ s _ h => readsBack_value s h

/-! ## §5 Records -/

/-- What is written for a field, in the object that has each key once. -/
theorem slotAt_eq {entries : List (String × Json)} (hkeys : (Entries.keys entries).Nodup)
    (key : String) :
    slotAt (entries.map fun e => (e.1, e.2.toSource)) key =
      some ((Entries.get? entries key).map Json.toSource) := by
  have hvalues : valuesAt (entries.map fun e => (e.1, e.2.toSource)) key =
      ((Entries.get? entries key).map Json.toSource).toList := by
    induction entries with
    | nil => rfl
    | cons e rest ih =>
      obtain ⟨hnew, hrest⟩ := List.nodup_cons.mp hkeys
      have ih := ih hrest
      unfold valuesAt at ih ⊢
      rw [List.map_cons, Entries.get?_cons]
      by_cases hkey : e.1 = key
      · have hnone : Entries.get? rest key = none := Entries.get?_eq_none_iff.mpr (hkey ▸ hnew)
        rw [hnone] at ih
        simp [hkey, ih]
      · simp [hkey, ih]
  unfold slotAt
  rw [hvalues]
  cases Entries.get? entries key <;> rfl

/-- **The fields of a record are read where they were written.** -/
theorem slots_object {entries : List (String × Json)} (hkeys : (Entries.keys entries).Nodup)
    (keys : List String) :
    slots keys (Json.object entries).toSource =
      some (keys.map fun key => (Entries.get? entries key).map Json.toSource) := by
  let fields : List (String × Source) := entries.map fun e => (e.1, e.2.toSource)
  let readKey : Option String × Source → Option (String × Source) :=
    fun e => do return (← e.1, e.2)
  have hread : (Json.entrySources entries).mapM readKey = some fields := by
    have hwritten : Json.entrySources entries = fields.map fun e => (some e.1, e.2) := by
      rw [entrySources_eq, List.map_map]
      rfl
    rw [hwritten]
    exact mapM_map_eq_some fun _ _ => rfl
  have hslots : slotAt fields = fun key => some ((Entries.get? entries key).map Json.toSource) :=
    funext (slotAt_eq hkeys)
  show ((Json.entrySources entries).mapM readKey >>= fun es => keys.mapM (slotAt es)) = _
  rw [hread]
  show keys.mapM (slotAt fields) = _
  rw [hslots]
  exact List.mapM_pure

/-! ## §6 Fields -/

theorem RoundTrips.required (h : RoundTrips read write) {depth : Nat} {slot : Slot} {a : α}
    (hread : required read depth slot = some a) : ReadsBack read write a := by
  cases slot with
  | none => cases hread
  | some s => exact h _ _ _ hread

theorem RoundTrips.defaulted (h : RoundTrips read write) {default : α}
    (hdefault : ReadsBack read write default) {depth : Nat} {slot : Slot} {a : α}
    (hread : defaulted default read depth slot = some a) : ReadsBack read write a := by
  cases slot with
  | none =>
    obtain rfl := Option.some.inj hread
    exact hdefault
  | some s => exact h _ _ _ hread

theorem RoundTrips.optional {write' : Option α → Json} (h : RoundTrips (readOption read) write')
    (hnone : write' none = .null) {depth : Nat} {slot : Slot} {a : Option α}
    (hread : Document.optional read depth slot = some a) :
    ReadsBack (readOption read) write' a := by
  refine h.defaulted (fun room _ => ?_) hread
  rw [hnone]
  rfl

theorem exists_of_optional {depth : Nat} {slot : Slot} {a : Option α}
    (h : optional read depth slot = some a) : ∀ x ∈ a, ∃ t, read depth t = some x := by
  cases slot with
  | none =>
    obtain rfl := Option.some.inj h
    exact fun x hx => absurd hx (Option.not_mem_none x)
  | some s => exact exists_of_readOption h

theorem exists_of_defaultedMap {depth : Nat} {slot : Slot} {entries : Entries α}
    (h : Document.defaulted [] (readMap read) depth slot = some entries) :
    entries.keys.Nodup ∧ ∀ e ∈ entries, ∃ d < depth, ∃ t, read d t = some e.2 := by
  cases slot with
  | none =>
    obtain rfl := Option.some.inj h
    exact ⟨List.nodup_nil, fun _ he => absurd he List.not_mem_nil⟩
  | some s => exact exists_of_readMap h

end TrackingPlan.Document
