import TrackingPlan.Layout.Encode
import TrackingPlan.Proofs.Entries
import TrackingPlan.Proofs.Steps

/-!
# What was written

One statement for each function that writes an object: exactly when it succeeds, and what stands in
the object then.  The fields may repeat a key here; only what is found under a key needs the keys to
differ, since a later field would write over an earlier one.

§1 fields · §2 objects · §3 object cases · §4 cases that are found · §5 lists.
-/

namespace TrackingPlan

variable {owner : String} {supplied : Entries Encoding} {fields : List FieldLayout}
  {object : Json.Object}

/-! ## §1 Fields -/

/-- **The field can be written**: it is supplied if it is required, and what is supplied for it can
be written by its layout. -/
structure FieldLayout.Writable (f : FieldLayout) (supplied : Entries Encoding) : Prop where
  present : f.required = true → f.key ∈ supplied.keys
  encodable : ∀ encoding, supplied.get? f.key = some encoding → ∃ j, encoding f.value = .ok j

/-- **Writing succeeds exactly if every field can be written.** -/
theorem exists_writeFields_iff : ∀ {object : Json.Object},
    (∃ object', writeFields owner supplied fields object = .ok object') ↔
      ∀ f ∈ fields, f.Writable supplied := by
  induction fields with
  | nil => exact fun {object} => iff_of_true ⟨object, rfl⟩ fun _ hf => absurd hf List.not_mem_nil
  | cons f rest ih =>
    intro object
    rw [List.forall_mem_cons, writeFields]
    -- a field that is not supplied must be optional, any other must be encodable
    cases hget : supplied.get? f.key with
    | none =>
      have hlacks : f.key ∉ supplied.keys := Entries.get?_eq_none_iff.mp hget
      have hwritable : f.Writable supplied ↔ ¬f.required = true :=
        ⟨fun h hreq => hlacks (h.present hreq),
          fun h => ⟨fun hreq => absurd hreq h, fun _ hx => by rw [hget] at hx; cases hx⟩⟩
      rw [hwritable]
      by_cases hreq : f.required = true
      · simp [hreq]
      · simp only [hreq, Bool.false_eq_true, if_false, not_false_eq_true, true_and]
        exact ih
    | some encoding =>
      have hhas : f.key ∈ supplied.keys := Entries.get?_isSome_iff.mp (by rw [hget]; rfl)
      have hwritable : f.Writable supplied ↔ ∃ j, encoding f.value = .ok j := by
        refine ⟨fun h => h.encodable _ hget, fun h => ⟨fun _ => hhas, fun x hx => ?_⟩⟩
        obtain rfl := Option.some.inj (hget.symm.trans hx)
        exact h
      rw [hwritable]
      constructor
      · rintro ⟨object', h⟩
        obtain ⟨j, hj, h⟩ := except_bind_eq_ok.mp h
        exact ⟨⟨j, hj⟩, ih.mp ⟨object', h⟩⟩
      · rintro ⟨⟨j, hj⟩, hrest⟩
        obtain ⟨object', h⟩ := ih.mpr hrest
        exact ⟨object', except_bind_eq_ok.mpr ⟨j, hj, h⟩⟩

/-- What no field writes is left as it was. -/
theorem get?_writeFields_of_not_mem {key : String} (hkey : key ∉ fields.map FieldLayout.key) :
    ∀ {object object' : Json.Object}, writeFields owner supplied fields object = .ok object' →
      object'.get? key = object.get? key := by
  induction fields with
  | nil =>
    intro object object' h
    rw [Except.ok.inj h]
  | cons f rest ih =>
    intro object object' h
    rw [List.map_cons, List.mem_cons, not_or] at hkey
    rw [writeFields] at h
    split at h
    · obtain ⟨j, -, h⟩ := except_bind_eq_ok.mp h
      rw [ih hkey.2 h, Entries.get?_insert_of_ne object j (Ne.symm hkey.1)]
    · split at h
      · cases h
      · exact ih hkey.2 h

/-- What is not supplied is left as it was. -/
theorem get?_writeFields_of_not_supplied {key : String} (hkey : key ∉ supplied.keys) :
    ∀ {object object' : Json.Object}, writeFields owner supplied fields object = .ok object' →
      object'.get? key = object.get? key := by
  induction fields with
  | nil =>
    intro object object' h
    rw [Except.ok.inj h]
  | cons f rest ih =>
    intro object object' h
    rw [writeFields] at h
    split at h
    · rename_i encoding hget
      obtain ⟨j, -, h⟩ := except_bind_eq_ok.mp h
      have hhas : f.key ∈ supplied.keys := Entries.get?_isSome_iff.mp (by rw [hget]; rfl)
      have hne : f.key ≠ key := fun heq => hkey (heq ▸ hhas)
      rw [ih h, Entries.get?_insert_of_ne object j hne]
    · split at h
      · cases h
      · exact ih h

/-- **What is supplied for a field stands in the object under its key**, where keys differ. -/
theorem get?_writeFields_of_mem (hkeys : (fields.map FieldLayout.key).Nodup) {f : FieldLayout}
    (hf : f ∈ fields) {encoding : Encoding} (hget : supplied.get? f.key = some encoding) :
    ∀ {object object' : Json.Object}, writeFields owner supplied fields object = .ok object' →
      ∃ j, encoding f.value = .ok j ∧ object'.get? f.key = some j := by
  induction fields with
  | nil => exact absurd hf List.not_mem_nil
  | cons g rest ih =>
    intro object object' h
    obtain ⟨hfresh, hrest⟩ := List.nodup_cons.mp hkeys
    rw [writeFields] at h
    rcases List.mem_cons.mp hf with rfl | hmem
    · -- the fields after it have other keys and leave it there
      rw [hget] at h
      obtain ⟨j, hj, h⟩ := except_bind_eq_ok.mp h
      refine ⟨j, hj, ?_⟩
      rw [get?_writeFields_of_not_mem hfresh h, Entries.get?_insert_self]
    · split at h
      · obtain ⟨_, -, h⟩ := except_bind_eq_ok.mp h
        exact ih hrest hmem h
      · split at h
        · cases h
        · exact ih hrest hmem h

/-! ## §2 Objects -/

/-- **An object is written** if every key that is supplied is declared. -/
theorem encodeFields_eq_ok_iff : encodeFields owner fields supplied = .ok object ↔
    (∀ key ∈ supplied.keys, key ∈ fields.map FieldLayout.key) ∧
      writeFields owner supplied fields [] = .ok object := by
  have hdeclared : undeclaredKey? fields supplied = none ↔
      ∀ key ∈ supplied.keys, key ∈ fields.map FieldLayout.key := by
    simp [undeclaredKey?]
  unfold encodeFields
  rw [← hdeclared]
  cases undeclaredKey? fields supplied <;> simp

/-- What is found in the object was declared. -/
theorem mem_keys_of_encodeFields (h : encodeFields owner fields supplied = .ok object)
    {key : String} (hkey : key ∈ object.keys) : key ∈ fields.map FieldLayout.key := by
  by_contra hundeclared
  have hget := get?_writeFields_of_not_mem hundeclared (encodeFields_eq_ok_iff.mp h).2
  exact Entries.get?_eq_none_iff.mp hget hkey

/-- What is found in the object was supplied. -/
theorem mem_supplied_of_encodeFields (h : encodeFields owner fields supplied = .ok object)
    {key : String} (hkey : key ∈ object.keys) : key ∈ supplied.keys := by
  by_contra hmissing
  have hget := get?_writeFields_of_not_supplied hmissing (encodeFields_eq_ok_iff.mp h).2
  exact Entries.get?_eq_none_iff.mp hget hkey

/-! ## §3 Object cases -/

/-- **An object case is written** as its fields, and its discriminator over them.  A routed value
does not hold its discriminator again. -/
theorem encodeObjectCase_eq_ok_iff {name key : String} {slot : DiscriminatorSlot}
    {routed : Option Encoding} {json : Json} :
    encodeObjectCase owner (.object name fields key slot) supplied routed = .ok json ↔
      (routed.isSome = true → key ∉ supplied.keys) ∧
        ∃ object tag,
          encodeFields (owner ++ "." ++ name) fields (supplied.filter (·.1 != key)) = .ok object ∧
            encodeDiscriminator (owner ++ "." ++ name) key routed (supplied.get? key) slot =
              .ok tag ∧
            json = .object (object.insert key tag) := by
  have hclash : (routed.isSome && (supplied.get? key).isSome) = true ↔
      ¬(routed.isSome = true → key ∉ supplied.keys) := by
    rw [Bool.and_eq_true, Entries.get?_isSome_iff]
    tauto
  unfold encodeObjectCase
  dsimp only
  split
  · rename_i h
    exact ⟨nofun, fun hok => absurd hok.1 (hclash.mp h)⟩
  · rename_i h
    rw [and_iff_right (not_not.mp (mt hclash.mpr h))]
    constructor
    · intro hjson
      obtain ⟨object, hobject, hjson⟩ := except_bind_eq_ok.mp hjson
      obtain ⟨tag, htag, hjson⟩ := except_bind_eq_ok.mp hjson
      exact ⟨object, tag, hobject, htag, (except_pure_eq_ok.mp hjson).symm⟩
    · rintro ⟨object, tag, hobject, htag, rfl⟩
      exact except_bind_eq_ok.mpr ⟨object, hobject, except_bind_eq_ok.mpr ⟨tag, htag, rfl⟩⟩

/-! ## §4 Cases that are found -/

section Cases

variable {w : VariantLayout} {case name : String}

/-- A value that names an object case is written by it. -/
theorem encodeNamedCase_of_object {key : String} {slot : DiscriminatorSlot}
    (h : w.case? name = some (.object case fields key slot)) (supplied : Entries Encoding) :
    encodeNamedCase w name supplied =
      encodeObjectCase w.variant.name.name (.object case fields key slot) supplied none := by
  rw [encodeNamedCase, h]

/-- A value that names the case of a bare value is written as the value in it. -/
theorem encodeNamedCase_of_bare {kind : ValueKind} {wrapped : ValueLayout}
    (h : w.case? name = some (.bare case kind wrapped)) {encoding : Encoding}
    (hget : supplied.get? "value" = some encoding) :
    encodeNamedCase w name supplied = encoding wrapped := by
  unfold encodeNamedCase
  rw [h]
  dsimp only
  rw [hget]

/-- A value that is routed to a case is written by it. -/
theorem encodeTagged_of_route {tag : Literal} {c : VariantCase} {l : CaseLayout}
    (hroute : w.variant.route tag = .ok c) (h : w.case? c.name = some l)
    (supplied : Entries Encoding) (routed : Encoding) :
    encodeTagged w tag supplied routed =
      encodeObjectCase w.variant.name.name l supplied (some routed) := by
  unfold encodeTagged
  rw [hroute]
  dsimp only
  rw [h]

/-- A value that names a case was written by a case of this name. -/
theorem exists_case_of_encodeNamedCase {json : Json}
    (h : encodeNamedCase w name supplied = .ok json) : ∃ l, w.case? name = some l := by
  cases hcase : w.case? name with
  | some l => exact ⟨l, rfl⟩
  | none =>
    rw [encodeNamedCase, hcase] at h
    cases h

/-- A value that is selected by a literal was written by the object case that the literal is routed
to. -/
theorem exists_object_of_encodeTagged {tag : Literal} {routed : Encoding} {json : Json}
    (h : encodeTagged w tag supplied routed = .ok json) :
    ∃ c case fields key slot, w.variant.route tag = .ok c ∧
      w.case? c.name = some (.object case fields key slot) := by
  cases hroute : w.variant.route tag with
  | error e =>
    rw [encodeTagged, hroute] at h
    cases h
  | ok c =>
    cases hcase : w.case? c.name with
    | none =>
      unfold encodeTagged at h
      rw [hroute] at h
      dsimp only at h
      rw [hcase] at h
      cases h
    | some l =>
      rw [encodeTagged_of_route hroute hcase] at h
      cases l with
      | object case fields key slot => exact ⟨c, case, fields, key, slot, rfl, hcase⟩
      | bare case kind wrapped => cases h

end Cases

/-! ## §5 Lists -/

/-- Each item of a list stands in what was written for the list. -/
theorem exists_mem_of_encodeItems {item : ValueLayout} {encodings : List Encoding} :
    ∀ {js : List Json}, encodeItems item encodings = .ok js →
      ∀ encoding ∈ encodings, ∃ j ∈ js, encoding item = .ok j := by
  induction encodings with
  | nil => exact fun _ _ h => absurd h List.not_mem_nil
  | cons first rest ih =>
    intro js h encoding hmem
    obtain ⟨j, hj, h⟩ := except_bind_eq_ok.mp h
    obtain ⟨others, hothers, h⟩ := except_bind_eq_ok.mp h
    obtain rfl := except_pure_eq_ok.mp h
    rcases List.mem_cons.mp hmem with rfl | hrest
    · exact ⟨j, List.mem_cons_self, hj⟩
    · obtain ⟨j', hj', hencoding⟩ := ih hothers encoding hrest
      exact ⟨j', List.mem_cons_of_mem j hj', hencoding⟩

end TrackingPlan
