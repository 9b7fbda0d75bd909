import TrackingPlan.Proofs.Layout.FieldOrder
import TrackingPlan.Proofs.Layout.RoutedLiterals

/-!
# Objects, entry by entry

A record is written as what is supplied for its fields and as nothing else: the fields stand in
declaration order, each with what its own layout writes, and an optional field that is not supplied
leaves no trace.  A case of object shapes has its discriminator behind them.  The default case has
it supplied, as one more required field; a tagged case has its own tag there, whatever the value.

So three kinds of objects come down to one (`Layouts.WrittenExactly`): fields that the value fills,
and entries that do not depend on it.

§1 fields that are filled · §2 objects of fields · §3 object cases · §4 records and cases.
-/

namespace TrackingPlan

variable {ls : Layouts} {owner : String} {fields : List FieldLayout} {values : Entries TypedValue}

/-! ## §1 Fields that are filled -/

/-- **The fields that a value fills**, in declaration order, each with what is supplied for it. -/
def filledFields (fields : List FieldLayout) (values : Entries TypedValue) :
    List (FieldLayout × TypedValue) :=
  fields.filterMap fun f => (values.get? f.key).map fun x => (f, x)

/-- **What stands for the fields that a value fills**: one entry for each, in the same order, under
the key of the field and as the field's own layout writes it. -/
def Layouts.WritesFilled (ls : Layouts) (fields : List FieldLayout) (values : Entries TypedValue)
    (object : Json.Object) : Prop :=
  List.Forall₂ (fun filled entry =>
    entry.1 = filled.1.key ∧ ls.encoding filled.2 filled.1.value = .ok entry.2)
    (filledFields fields values) object

namespace Layouts

variable {f : FieldLayout} {rest : List FieldLayout} {object : Json.Object}

/-- What is supplied under another key fills no field. -/
theorem writesFilled_kept {key : String} (hkey : key ∉ fields.map FieldLayout.key) :
    ls.WritesFilled fields (values.filter (·.1 != key)) object ↔
      ls.WritesFilled fields values object := by
  have hfilled : filledFields fields (values.filter (·.1 != key)) = filledFields fields values := by
    refine List.filterMap_congr fun f hf => ?_
    have hne : (f.key != key) = true :=
      bne_iff_ne.mpr fun heq => hkey (heq ▸ List.mem_map_of_mem hf)
    rw [Entries.get?_filter values (· != key), if_pos hne]
  rw [WritesFilled, WritesFilled, hfilled]

theorem writesFilled_nil : ls.WritesFilled [] values object ↔ object = [] :=
  List.forall₂_nil_left_iff

/-- What is filled is written in one way. -/
theorem writesFilled_unique {object' : Json.Object} (h : ls.WritesFilled fields values object)
    (h' : ls.WritesFilled fields values object') : object = object' := by
  refine List.right_unique_forall₂' ?_ h h'
  rintro filled ⟨key, j⟩ ⟨key', j'⟩ ⟨rfl, hj⟩ ⟨rfl, hj'⟩
  exact congrArg _ (Except.ok.inj (hj.symm.trans hj'))

/-- A field that is not supplied has no entry. -/
theorem writesFilled_cons_of_none (hget : values.get? f.key = none) :
    ls.WritesFilled (f :: rest) values object ↔ ls.WritesFilled rest values object := by
  have hfilled : filledFields (f :: rest) values = filledFields rest values := by
    simp [filledFields, hget]
  rw [WritesFilled, WritesFilled, hfilled]

/-- A field that is supplied has its entry before those of the fields after it. -/
theorem writesFilled_cons_of_some {x : TypedValue} (hget : values.get? f.key = some x) :
    ls.WritesFilled (f :: rest) values object ↔
      ∃ j others, ls.encoding x f.value = .ok j ∧ ls.WritesFilled rest values others ∧
        object = (f.key, j) :: others := by
  have hfilled : filledFields (f :: rest) values = (f, x) :: filledFields rest values := by
    simp [filledFields, hget]
  rw [WritesFilled, hfilled, List.forall₂_cons_left_iff]
  constructor
  · rintro ⟨⟨key, j⟩, others, ⟨hkey, hj⟩, hothers, rfl⟩
    obtain rfl : key = f.key := hkey
    exact ⟨j, others, hj, hothers, rfl⟩
  · rintro ⟨j, others, hj, hothers, rfl⟩
    exact ⟨(f.key, j), others, ⟨rfl, hj⟩, hothers, rfl⟩

/-- Fields that come later have their entries later. -/
theorem writesFilled_append {more : List FieldLayout} :
    ls.WritesFilled (fields ++ more) values object ↔
      ∃ own others, ls.WritesFilled fields values own ∧ ls.WritesFilled more values others ∧
        object = own ++ others := by
  induction fields generalizing object with
  | nil => simp [writesFilled_nil]
  | cons f rest ih =>
    cases hget : values.get? f.key with
    | none => simp only [List.cons_append, writesFilled_cons_of_none hget, ih]
    | some x =>
      simp only [List.cons_append, writesFilled_cons_of_some hget, ih]
      constructor
      · rintro ⟨j, _, hj, ⟨own, others, hown, hothers, rfl⟩, rfl⟩
        exact ⟨(f.key, j) :: own, others, ⟨j, own, hj, hown, rfl⟩, hothers, rfl⟩
      · rintro ⟨_, others, ⟨j, own, hj, hown, rfl⟩, hothers, rfl⟩
        exact ⟨j, own ++ others, hj, ⟨own, others, hown, hothers, rfl⟩, rfl⟩

end Layouts

/-! ## §2 Objects of fields -/

/-- **The fields are written behind what is there**, where every key is new. -/
theorem writeFields_eq_ok_iff (hkeys : (fields.map FieldLayout.key).Nodup) :
    ∀ {object object' : Json.Object}, (∀ f ∈ fields, f.key ∉ object.keys) →
      (writeFields owner (ls.entryEncodings values) fields object = .ok object' ↔
        (∀ f ∈ fields, f.required = true → f.key ∈ values.keys) ∧
          ∃ added, ls.WritesFilled fields values added ∧ object' = object ++ added) := by
  induction fields with
  | nil =>
    intro object object' _
    constructor
    · intro h
      obtain rfl := Except.ok.inj h
      exact ⟨List.forall_mem_nil _, [], Layouts.writesFilled_nil.mpr rfl,
        (List.append_nil object).symm⟩
    · rintro ⟨-, added, hadded, rfl⟩
      obtain rfl := Layouts.writesFilled_nil.mp hadded
      rw [writeFields, List.append_nil]
  | cons f rest ih =>
    intro object object' hnew
    obtain ⟨hfresh, hrest⟩ := List.nodup_cons.mp hkeys
    obtain ⟨hf, hothers⟩ := List.forall_mem_cons.mp hnew
    rw [writeFields, Layouts.get?_entryEncodings, List.forall_mem_cons]
    cases hget : values.get? f.key with
    | none =>
      -- nothing is written for the field, so it must be an optional one
      have hlacks : f.key ∉ values.keys := Entries.get?_eq_none_iff.mp hget
      simp only [Option.map_none, Layouts.writesFilled_cons_of_none hget]
      by_cases hreq : f.required = true
      · rw [if_pos hreq]
        exact iff_of_false (fun h => by cases h) fun h => hlacks (h.1.1 hreq)
      · rw [if_neg hreq, and_iff_right fun h => absurd h hreq]
        exact ih hrest hothers
    | some x =>
      -- its entry comes next, and the keys after it are still new
      have hhas : f.key ∈ values.keys := Entries.get?_isSome_iff.mp (by rw [hget]; rfl)
      have hstep : ∀ j, ∀ g ∈ rest, g.key ∉ Entries.keys (object ++ [(f.key, j)]) := by
        intro j g hg hmem
        rw [Entries.keys_append] at hmem
        rcases List.mem_append.mp hmem with hold | hsame
        · exact hothers g hg hold
        · have hkey : g.key = f.key := List.mem_singleton.mp hsame
          exact hfresh (hkey ▸ List.mem_map_of_mem hg)
      rw [and_iff_right fun _ => hhas]
      simp only [Option.map_some, Layouts.writesFilled_cons_of_some hget]
      constructor
      · intro h
        obtain ⟨j, hj, h⟩ := except_bind_eq_ok.mp h
        rw [Entries.insert_of_not_mem j hf, ih hrest (hstep j)] at h
        obtain ⟨hrequired, others, hwritten, rfl⟩ := h
        refine ⟨hrequired, (f.key, j) :: others, ⟨j, others, hj, hwritten, rfl⟩, ?_⟩
        rw [List.append_assoc, List.singleton_append]
      · rintro ⟨hrequired, _, ⟨j, others, hj, hwritten, rfl⟩, rfl⟩
        refine except_bind_eq_ok.mpr ⟨j, hj, ?_⟩
        rw [Entries.insert_of_not_mem j hf, ih hrest (hstep j)]
        refine ⟨hrequired, others, hwritten, ?_⟩
        rw [List.append_assoc, List.singleton_append]

/-- What it takes for a value to fit fields, in terms of the value itself. -/
theorem Layouts.fits_iff : ls.Fits fields values ↔
    (∀ key ∈ values.keys, key ∈ fields.map FieldLayout.key) ∧
      (∀ f ∈ fields, f.required = true → f.key ∈ values.keys) ∧
        ∀ f ∈ fields, ∀ x, values.get? f.key = some x → ∃ j, ls.encoding x f.value = .ok j := by
  have hwritable : ∀ f : FieldLayout, f.Writable (ls.entryEncodings values) ↔
      (f.required = true → f.key ∈ values.keys) ∧
        ∀ x, values.get? f.key = some x → ∃ j, ls.encoding x f.value = .ok j := by
    intro f
    rw [← ls.keys_entryEncodings values]
    constructor
    · intro h
      refine ⟨h.present, fun x hx => h.encodable _ ?_⟩
      rw [ls.get?_entryEncodings, hx, Option.map_some]
    · rintro ⟨hpresent, hencodable⟩
      refine ⟨hpresent, fun encoding hget => ?_⟩
      rw [ls.get?_entryEncodings] at hget
      obtain ⟨x, hx, rfl⟩ := Option.map_eq_some_iff.mp hget
      exact hencodable x hx
  constructor
  · intro h
    exact ⟨h.declared, fun f hf => ((hwritable f).mp (h.writable f hf)).1,
      fun f hf => ((hwritable f).mp (h.writable f hf)).2⟩
  · rintro ⟨hdeclared, hpresent, hencodable⟩
    exact ⟨hdeclared, fun f hf => (hwritable f).mpr ⟨hpresent f hf, hencodable f hf⟩⟩

/-- **An object of fields is written** if the value fits them, and as what is supplied for them. -/
theorem encodeFields_eq_ok_iff_writesFilled (hkeys : (fields.map FieldLayout.key).Nodup)
    {object : Json.Object} :
    encodeFields owner fields (ls.entryEncodings values) = .ok object ↔
      ls.Fits fields values ∧ ls.WritesFilled fields values object := by
  have hwritten : writeFields owner (ls.entryEncodings values) fields [] = .ok object ↔
      (∀ f ∈ fields, f.required = true → f.key ∈ values.keys) ∧
        ∃ added, ls.WritesFilled fields values added ∧ object = [] ++ added :=
    writeFields_eq_ok_iff hkeys fun _ _ => List.not_mem_nil
  simp only [List.nil_append, exists_eq_right'] at hwritten
  constructor
  · intro h
    have hfits := (ls.exists_encodeFields_iff owner).mp ⟨object, h⟩
    exact ⟨hfits, (hwritten.mp (encodeFields_eq_ok_iff.mp h).2).2⟩
  · rintro ⟨hfits, hfilled⟩
    -- the value fits, so something is written, and it is what the entries say
    obtain ⟨object', h⟩ := (ls.exists_encodeFields_iff owner).mpr hfits
    have hrequired := (Layouts.fits_iff.mp hfits).2.1
    exact encodeFields_eq_ok_iff.mpr
      ⟨(encodeFields_eq_ok_iff.mp h).1, hwritten.mpr ⟨hrequired, hfilled⟩⟩

/-! ## §3 Object cases -/

section Cases

variable {name key : String} {tag : Literal} {layout : ValueLayout} {json : Json}

/-- A value that has nothing under the discriminator's key has nothing kept back. -/
theorem kept_eq_self (hkey : key ∉ values.keys) : values.filter (·.1 != key) = values :=
  List.filter_eq_self.mpr fun e he =>
    bne_iff_ne.mpr fun heq => hkey (List.mem_map.mpr ⟨e, he, heq⟩)

/-- What is left when the discriminator is kept back. -/
theorem mem_keys_kept {k : String} :
    k ∈ Entries.keys (values.filter (·.1 != key)) ↔ k ∈ values.keys ∧ k ≠ key := by
  rw [← Entries.get?_isSome_iff, ← Entries.get?_isSome_iff,
    Entries.get?_filter values (· != key)]
  by_cases hk : k = key
  · simp [hk]
  · simp [hk]

/-- **A value that holds its discriminator fits** if the others of its fields fit and the
discriminator can be written. -/
theorem Layouts.fits_append_discriminator (hkey : key ∉ fields.map FieldLayout.key) :
    ls.Fits (fields ++ [⟨key, true, layout⟩]) values ↔
      ls.Fits fields (values.filter (·.1 != key)) ∧
        ∃ x, values.get? key = some x ∧ ∃ j, ls.encoding x layout = .ok j := by
  have hne : ∀ f ∈ fields, f.key ≠ key := fun f hf heq => hkey (heq ▸ List.mem_map_of_mem hf)
  have hget : ∀ f ∈ fields,
      Entries.get? (values.filter (·.1 != key)) f.key = values.get? f.key := by
    intro f hf
    rw [Entries.get?_filter values (· != key), if_pos (bne_iff_ne.mpr (hne f hf))]
  rw [Layouts.fits_iff, Layouts.fits_iff]
  simp only [List.forall_mem_append, List.forall_mem_singleton]
  simp only [List.map_append, List.map_cons, List.map_nil, List.mem_append, List.mem_singleton,
    mem_keys_kept]
  constructor
  · rintro ⟨hdeclared, ⟨hrequired, hpresent⟩, hencodable, hwritten⟩
    obtain ⟨x, hx⟩ := Option.isSome_iff_exists.mp (Entries.get?_isSome_iff.mpr (hpresent trivial))
    refine ⟨⟨fun k hk => ?_, fun f hf hreq => ⟨hrequired f hf hreq, hne f hf⟩, fun f hf y hy => ?_⟩,
      x, hx, hwritten x hx⟩
    · exact (hdeclared k hk.1).resolve_right hk.2
    · exact hencodable f hf y ((hget f hf).symm.trans hy)
  · rintro ⟨⟨hdeclared, hrequired, hencodable⟩, x, hx, hwritten⟩
    have hhas : key ∈ values.keys := Entries.get?_isSome_iff.mp (by rw [hx]; rfl)
    refine ⟨fun k hk => ?_, ⟨fun f hf hreq => (hrequired f hf hreq).1, fun _ => hhas⟩,
      fun f hf y hy => hencodable f hf y ((hget f hf).trans hy), fun y hy => ?_⟩
    · by_cases heq : k = key
      · exact .inr heq
      · exact .inl (hdeclared k ⟨hk, heq⟩)
    · obtain rfl := Option.some.inj (hx.symm.trans hy)
      exact hwritten

/-- **A tagged case is written** as what is supplied for its fields, and its tag. -/
theorem encodeObjectCase_fixed (hkeys : (fields.map FieldLayout.key).Nodup)
    (hkey : key ∉ fields.map FieldLayout.key) :
    encodeObjectCase owner (.object name fields key (.fixed tag)) (ls.entryEncodings values) none =
        .ok json ↔
      ls.Fits fields values ∧ ∃ object, ls.WritesFilled fields values object ∧
        json = .object (object ++ [(key, tag.toJson)]) := by
  rw [encodeObjectCase_eq_ok_iff, ls.get?_entryEncodings,
    ls.filter_entryEncodings values (· != key)]
  -- the tag is the case's own, so nothing may be supplied for it
  have htag : ∀ written : Json,
      encodeDiscriminator (owner ++ "." ++ name) key none ((values.get? key).map ls.encoding)
          (.fixed tag) = .ok written ↔ key ∉ values.keys ∧ tag.toJson = written := by
    intro written
    rw [← Entries.get?_eq_none_iff]
    cases values.get? key <;> simp [encodeDiscriminator]
  simp only [htag]
  constructor
  · rintro ⟨-, object, _, hobject, ⟨hfree, rfl⟩, rfl⟩
    have hnew : key ∉ object.keys := fun hmem => hkey (mem_keys_of_encodeFields hobject hmem)
    rw [kept_eq_self hfree, encodeFields_eq_ok_iff_writesFilled hkeys] at hobject
    exact ⟨hobject.1, object, hobject.2, by rw [Entries.insert_of_not_mem _ hnew]⟩
  · rintro ⟨hfits, object, hobject, rfl⟩
    have hfree : key ∉ values.keys := fun hmem => hkey (hfits.declared key hmem)
    have hwritten : encodeFields (owner ++ "." ++ name) fields (ls.entryEncodings values) =
        .ok object := (encodeFields_eq_ok_iff_writesFilled hkeys).mpr ⟨hfits, hobject⟩
    have hnew : key ∉ object.keys := fun hmem => hkey (mem_keys_of_encodeFields hwritten hmem)
    refine ⟨fun h => absurd h Bool.false_ne_true, object, tag.toJson, ?_, ⟨hfree, rfl⟩, ?_⟩
    · rw [kept_eq_self hfree, hwritten]
    · rw [Entries.insert_of_not_mem _ hnew]

/-- **The default case is written** as what is supplied for its fields and for the discriminator,
its last one. -/
theorem encodeObjectCase_supplied (hkeys : (fields.map FieldLayout.key).Nodup)
    (hkey : key ∉ fields.map FieldLayout.key) :
    encodeObjectCase owner (.object name fields key (.supplied layout)) (ls.entryEncodings values)
        none = .ok json ↔
      ls.Fits (fields ++ [⟨key, true, layout⟩]) values ∧
        ∃ object, ls.WritesFilled (fields ++ [⟨key, true, layout⟩]) values object ∧
          json = .object object := by
  rw [encodeObjectCase_eq_ok_iff, ls.get?_entryEncodings,
    ls.filter_entryEncodings values (· != key), Layouts.fits_append_discriminator hkey]
  have htag : ∀ written : Json,
      encodeDiscriminator (owner ++ "." ++ name) key none ((values.get? key).map ls.encoding)
          (.supplied layout) = .ok written ↔
        ∃ x, values.get? key = some x ∧ ls.encoding x layout = .ok written := by
    intro written
    cases values.get? key <;> simp [encodeDiscriminator]
  -- the discriminator is the last field, and it is filled
  have hfilled : ∀ x, values.get? key = some x → ∀ object,
      ls.WritesFilled (fields ++ [⟨key, true, layout⟩]) values object ↔
        ∃ own written, ls.WritesFilled fields (values.filter (·.1 != key)) own ∧
          ls.encoding x layout = .ok written ∧ object = own ++ [(key, written)] := by
    intro x hx object
    have hlast : ∀ others, ls.WritesFilled [⟨key, true, layout⟩] values others ↔
        ∃ written, ls.encoding x layout = .ok written ∧ others = [(key, written)] := by
      intro others
      rw [Layouts.writesFilled_cons_of_some hx]
      simp [Layouts.writesFilled_nil]
    simp only [Layouts.writesFilled_append, Layouts.writesFilled_kept hkey, hlast]
    constructor
    · rintro ⟨own, _, hown, ⟨written, hwritten, rfl⟩, rfl⟩
      exact ⟨own, written, hown, hwritten, rfl⟩
    · rintro ⟨own, written, hown, hwritten, rfl⟩
      exact ⟨own, _, hown, ⟨written, hwritten, rfl⟩, rfl⟩
  simp only [htag]
  constructor
  · rintro ⟨-, own, written, hown, ⟨x, hx, hwritten⟩, rfl⟩
    have hnew : key ∉ own.keys := fun hmem => hkey (mem_keys_of_encodeFields hown hmem)
    rw [encodeFields_eq_ok_iff_writesFilled hkeys] at hown
    refine ⟨⟨hown.1, x, hx, written, hwritten⟩, own ++ [(key, written)], ?_, ?_⟩
    · exact (hfilled x hx _).mpr ⟨own, written, hown.2, hwritten, rfl⟩
    · rw [Entries.insert_of_not_mem _ hnew]
  · rintro ⟨⟨hfits, x, hx, -⟩, object, hobject, rfl⟩
    obtain ⟨own, written, hown, hwritten, rfl⟩ := (hfilled x hx object).mp hobject
    have hencode : encodeFields (owner ++ "." ++ name) fields
        (ls.entryEncodings (values.filter (·.1 != key))) = .ok own :=
      (encodeFields_eq_ok_iff_writesFilled hkeys).mpr ⟨hfits, hown⟩
    have hnew : key ∉ own.keys := fun hmem => hkey (mem_keys_of_encodeFields hencode hmem)
    refine ⟨fun h => absurd h Bool.false_ne_true, own, written, hencode,
      ⟨x, hx, hwritten⟩, ?_⟩
    rw [Entries.insert_of_not_mem _ hnew]

end Cases

/-! ## §4 Records and cases -/

/-- **An object is written exactly**: it is written if and only if every key of the value is that of
a field, every required field is supplied, and what is supplied for a field can be written by it;
and then as one entry for each field that the value fills, in their order, and `constants` after
them. -/
structure Layouts.WrittenExactly (ls : Layouts) (fields : List FieldLayout)
    (values : Entries TypedValue) (constants : Json.Object) (written : Except EncodeError Json) :
    Prop where
  succeeds : (∃ json, written = .ok json) ↔
    (∀ key ∈ values.keys, key ∈ fields.map FieldLayout.key) ∧
      (∀ f ∈ fields, f.required = true → f.key ∈ values.keys) ∧
        ∀ f ∈ fields, ∀ x, values.get? f.key = some x → ∃ j, ls.encoding x f.value = .ok j
  entries : ∀ json, written = .ok json → ∃ object, ls.WritesFilled fields values object ∧
    json = .object (object ++ constants)

theorem Layouts.WrittenExactly.of_iff (hkeys : (fields.map FieldLayout.key).Nodup)
    {constants : Json.Object} {written : Except EncodeError Json}
    (h : ∀ json, written = .ok json ↔ ls.Fits fields values ∧
      ∃ object, ls.WritesFilled fields values object ∧ json = .object (object ++ constants)) :
    ls.WrittenExactly fields values constants written := by
  refine ⟨?_, fun json hjson => ((h json).mp hjson).2⟩
  rw [← Layouts.fits_iff]
  constructor
  · rintro ⟨json, hjson⟩
    exact ((h json).mp hjson).1
  · intro hfits
    obtain ⟨object, hobject⟩ := (ls.exists_encodeFields_iff "").mpr hfits
    have hfilled := ((encodeFields_eq_ok_iff_writesFilled hkeys).mp hobject).2
    exact ⟨.object (object ++ constants), (h _).mpr ⟨hfits, object, hfilled, rfl⟩⟩

/-- What fits is written as the one object that its fields make. -/
theorem Layouts.WrittenExactly.eq_ok {constants : Json.Object} {written : Except EncodeError Json}
    (h : ls.WrittenExactly fields values constants written) (hfits : ls.Fits fields values)
    (object : Json.Object) (hobject : ls.WritesFilled fields values object) :
    written = .ok (.object (object ++ constants)) := by
  obtain ⟨json, hjson⟩ := h.succeeds.mpr (Layouts.fits_iff.mp hfits)
  obtain ⟨object', hobject', rfl⟩ := h.entries json hjson
  rw [hjson, Layouts.writesFilled_unique hobject' hobject]

/-- **Objects are written exactly, one level at a time.**  A record is written as its fields and no
more; a tagged case as its fields, and its tag after them; the default case as its fields, of which
the discriminator is one more that is required, and the last. -/
theorem Layouts.encoding_writtenExactly (ls : Layouts) (id : String) (values : Entries TypedValue) :
    (∀ r : RecordLayout, ls.types.get? id = some (.record r) →
      (r.fields.map FieldLayout.key).Nodup →
      ls.WrittenExactly r.fields values [] (ls.encoding (.record values) (.named id))) ∧
    ∀ (w : VariantLayout) (name case : String) (fields : List FieldLayout) (key : String)
        (slot : DiscriminatorSlot), ls.types.get? id = some (.variant w) →
      w.case? name = some (.object case fields key slot) →
      (fields.map FieldLayout.key).Nodup → key ∉ fields.map FieldLayout.key →
      match slot with
      | .fixed tag => ls.WrittenExactly fields values [(key, tag.toJson)]
          (ls.encoding (.case name values) (.named id))
      | .supplied layout => ls.WrittenExactly (fields ++ [⟨key, true, layout⟩]) values []
          (ls.encoding (.case name values) (.named id)) := by
  constructor
  · intro r hget hkeys
    have htarget : ls.target (.record values) (.named id) = .ok (.record r) := by
      rw [Layouts.target, Layouts.settle, hget]
    refine .of_iff hkeys fun json => ?_
    rw [Layouts.encoding_of_target htarget, Layouts.writeAs, except_bind_eq_ok]
    simp only [encodeFields_eq_ok_iff_writesFilled hkeys, except_pure_eq_ok, List.append_nil]
    constructor
    · rintro ⟨object, ⟨hfits, hobject⟩, rfl⟩
      exact ⟨hfits, object, hobject, rfl⟩
    · rintro ⟨hfits, object, hobject, rfl⟩
      exact ⟨object, ⟨hfits, hobject⟩, rfl⟩
  · intro w name case fields key slot hget hcase hkeys hkey
    have hencode : ls.encoding (.case name values) (.named id) =
        encodeObjectCase w.variant.name.name (.object case fields key slot)
          (ls.entryEncodings values) none := by
      rw [Layouts.encoding_of_target (settle_of_not_bare hget rfl ls.types.length)]
      exact encodeNamedCase_of_object hcase _
    cases slot with
    | fixed tag =>
      refine .of_iff hkeys fun json => ?_
      rw [hencode, encodeObjectCase_fixed hkeys hkey]
    | supplied layout =>
      -- the discriminator has a key of its own, so that the keys still differ
      have hall : ((fields ++ [FieldLayout.mk key true layout]).map FieldLayout.key).Nodup := by
        rw [List.map_append, List.map_singleton, ← List.concat_eq_append]
        exact hkeys.concat hkey
      refine .of_iff hall fun json => ?_
      rw [hencode, encodeObjectCase_supplied hkeys hkey]
      simp only [List.append_nil]

/-- Parcels and contacts are written in the order of their fields, whatever was supplied first.  A
parcel without an address is refused.  A contact that is verified brings no word of it along, as
that comes last by itself; one of the default case must. -/
theorem Layouts.encoding_writtenExactly_parcels :
    (Schema.parcels.layouts.encoding
        (.record [("weight", .integer 2), ("address", .record [("street", .string "rue")])])
        (.named (TypeName.customType "Parcel").id) =
      .ok (.object [("address", .object [("street", .string "rue")]),
        ("weight", Json.ofInt64 2)])) ∧
    (¬∃ json, Schema.parcels.layouts.encoding (.record [("weight", .integer 2)])
      (.named (TypeName.customType "Parcel").id) = .ok json) ∧
    (Schema.contacts.layouts.encoding
        (.case "Case_True" [("address", .string "rue"), ("channel", .string "mail")])
        (.named (TypeName.customType "contact").id) =
      .ok (.object [("channel", .string "mail"), ("address", .string "rue"),
        ("verified", .bool true)])) ∧
    (¬∃ json, Schema.contacts.layouts.encoding
      (.case "Case_True" [("address", .string "rue"), ("verified", .bool true)])
      (.named (TypeName.customType "contact").id) = .ok json) ∧
    Schema.contacts.layouts.encoding
        (.case "Default" [("verified", .string "pending"), ("channel", .string "mail")])
        (.named (TypeName.customType "contact").id) =
      .ok (.object [("channel", .string "mail"), ("verified", .string "pending")]) := by
  have hparcel := fun values => (encoding_writtenExactly Schema.parcels.layouts
    (TypeName.customType "Parcel").id values).1 _ rfl (by decide)
  have hverified := fun values => (encoding_writtenExactly Schema.contacts.layouts
    (TypeName.customType "contact").id values).2 _ "Case_True" _ _ _
      (.fixed (.bool true)) rfl rfl (by decide) (by decide)
  have hpending := fun values => (encoding_writtenExactly Schema.contacts.layouts
    (TypeName.customType "contact").id values).2 _ "Default" _
      [⟨"channel", false, .scalar .string⟩] _
      (.supplied (.named (TypeName.property "verified").id)) rfl rfl (by decide) (by decide)
  refine ⟨?_, fun h => ?_, ?_, fun h => ?_, ?_⟩
  · refine (hparcel _).eq_ok ?_ [("address", .object [("street", .string "rue")]),
      ("weight", Json.ofInt64 2)] ?_
    · exact (Layouts.exists_encodeFields_iff _ "").mp ⟨_, rfl⟩
    · exact .cons ⟨rfl, rfl⟩ (.cons ⟨rfl, rfl⟩ .nil)
  · exact absurd (((hparcel _).succeeds.mp h).2.1 _ List.mem_cons_self rfl) (by decide)
  · refine (hverified _).eq_ok ?_ [("channel", .string "mail"), ("address", .string "rue")] ?_
    · exact (Layouts.exists_encodeFields_iff _ "").mp ⟨_, rfl⟩
    · exact .cons ⟨rfl, rfl⟩ (.cons ⟨rfl, rfl⟩ .nil)
  · exact absurd (((hverified _).succeeds.mp h).1 "verified" (by decide)) (by decide)
  · refine (hpending _).eq_ok ?_ [("channel", .string "mail"), ("verified", .string "pending")] ?_
    · exact (Layouts.exists_encodeFields_iff _ "").mp ⟨_, rfl⟩
    · exact .cons ⟨rfl, rfl⟩ (.cons ⟨rfl, rfl⟩ .nil)

end TrackingPlan
