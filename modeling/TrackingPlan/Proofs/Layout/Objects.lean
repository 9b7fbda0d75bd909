import TrackingPlan.Proofs.Layout.ByType
import TrackingPlan.Proofs.Layout.OfSchema
import TrackingPlan.Proofs.Steps

/-!
# Objects written by layouts

If the layouts write the types of some fields as those types do (`Layouts.Writes`), they write a
record or an object case of these fields as the fields do (`encodeFields_eq`,
`encodeObjectCase_eq`).  The layouts insert key by key, where the fields are listed; no key is
inserted twice, so nothing moves.
-/

namespace TrackingPlan

/-! ## §1 What the values of keys write -/

namespace Layouts

variable (ls : Layouts) (values : Entries TypedValue)

theorem itemEncodings_eq (items : List TypedValue) :
    ls.itemEncodings items = items.map ls.encoding := by
  induction items with
  | nil => rfl
  | cons v rest ih => rw [itemEncodings, ih, List.map_cons]

theorem entryEncodings_eq :
    ls.entryEncodings values = values.map fun e => (e.1, ls.encoding e.2) := by
  induction values with
  | nil => rfl
  | cons e rest ih => rw [entryEncodings, ih, List.map_cons]

theorem keys_entryEncodings : (ls.entryEncodings values).keys = Entries.keys values := by
  rw [entryEncodings_eq, Entries.keys, List.map_map]
  rfl

theorem get?_entryEncodings (key : String) :
    (ls.entryEncodings values).get? key = (Entries.get? values key).map ls.encoding := by
  rw [entryEncodings_eq, Entries.get?, Entries.get?, List.find?_map, Option.map_map, Option.map_map]
  rfl

theorem filter_entryEncodings (p : String → Bool) :
    (ls.entryEncodings values).filter (fun e => p e.1) =
      ls.entryEncodings (values.filter fun e => p e.1) := by
  rw [entryEncodings_eq, entryEncodings_eq, List.filter_map]
  rfl

/-- What is kept back is not supplied. -/
theorem not_mem_keys_kept (key : String) :
    key ∉ (ls.entryEncodings (values.filter (·.1 != key))).keys := by
  rw [keys_entryEncodings]
  intro hmem
  obtain ⟨e, he, heq⟩ := List.mem_map.mp hmem
  exact absurd heq (by simpa using (List.mem_filter.mp he).2)

end Layouts

/-! ## §2 Fields -/

section Fields

variable {ls : Layouts} {owner : String} {values : Entries TypedValue}

/-- A field with what its layout writes. -/
def Layouts.fieldWriter (ls : Layouts) (f : FieldLayout) : FieldWriter :=
  ⟨f.key, f.required, fun v => ls.encoding v f.value⟩

@[simp] theorem Layouts.fieldWriter_key (f : FieldLayout) : (ls.fieldWriter f).key = f.key := rfl

@[simp] theorem Layouts.fieldWriter_write (f : FieldLayout) (v : TypedValue) :
    (ls.fieldWriter f).write v = ls.encoding v f.value := rfl

/-- Fields with new keys are written behind those already there. -/
theorem writeFields_eq {fields : List FieldLayout} (hkeys : (fields.map FieldLayout.key).Nodup) :
    ∀ object : Json.Object, (∀ f ∈ fields, f.key ∉ object.keys) →
      writeFields owner (ls.entryEncodings values) fields object =
        (writeEntries owner values (fields.map ls.fieldWriter)).map (object ++ ·) := by
  induction fields with
  | nil =>
    intro object _
    exact congrArg Except.ok (List.append_nil object).symm
  | cons f rest ih =>
    intro object hnew
    obtain ⟨hfresh, hrest⟩ := List.nodup_cons.mp hkeys
    rw [List.map_cons, writeFields, writeEntries, Layouts.get?_entryEncodings]
    cases hv : values.get? f.key with
    | none =>
      have hskip := ih hrest object fun g hg => hnew g (List.mem_cons_of_mem f hg)
      simp only [Layouts.fieldWriter_key, hv, Option.map_none]
      by_cases hreq : f.required = true
      · rw [if_pos hreq, if_pos (show (ls.fieldWriter f).required = true from hreq)]
        rfl
      · rw [if_neg hreq, if_neg (show ¬(ls.fieldWriter f).required = true from hreq)]
        exact hskip
    | some v =>
      simp only [Layouts.fieldWriter_key, Layouts.fieldWriter_write, hv, Option.map_some]
      cases ls.encoding v f.value with
      | error e => rfl
      | ok j =>
        refine (ih hrest (object.insert f.key j) ?_).trans ?_
        · intro g hg
          rw [Entries.insert_of_not_mem j (hnew f List.mem_cons_self), Entries.keys_append]
          refine fun hmem => (List.mem_append.mp hmem).elim
            (hnew g (List.mem_cons_of_mem f hg)) fun hlast => hfresh ?_
          exact List.mem_map.mpr ⟨g, hg, List.mem_singleton.mp hlast⟩
        · rw [Entries.insert_of_not_mem j (hnew f List.mem_cons_self)]
          show Except.map _ (writeEntries owner values (rest.map ls.fieldWriter)) =
            Except.map _ (do return (f.key, j) ::
              (← writeEntries owner values (rest.map ls.fieldWriter)))
          cases writeEntries owner values (rest.map ls.fieldWriter) with
          | error e => rfl
          | ok others => exact congrArg Except.ok (List.append_assoc object [(f.key, j)] others)

/-- **Writing fields key by key lists them in order.** -/
theorem encodeFields_eq_writeObject {fields : List FieldLayout}
    (hkeys : (fields.map FieldLayout.key).Nodup) :
    encodeFields owner fields (ls.entryEncodings values) =
      writeObject owner (fields.map ls.fieldWriter) values := by
  have hany : ∀ key, ((fields.map ls.fieldWriter).any fun f => f.key == key) =
      fields.any fun f => f.key == key := fun key => List.any_map
  unfold encodeFields undeclaredKey? writeObject
  simp only [Layouts.keys_entryEncodings, hany]
  cases values.keys.find? fun key => !fields.any fun f => f.key == key with
  | some key => rfl
  | none =>
    refine (writeFields_eq hkeys [] fun f _ => List.not_mem_nil).trans ?_
    cases writeEntries owner values (fields.map ls.fieldWriter) <;> rfl

/-- **The layouts write a type as the type does.** -/
def Layouts.Writes (ls : Layouts) (t : PropertyType) : Prop :=
  ∀ v, ls.encoding v t.layout = t.write v

/-- **The layouts of fields write the object that the fields write.** -/
theorem encodeFields_eq {fields : List Field} (owner : String) (values : Entries TypedValue)
    (hwrites : ∀ f ∈ fields, ls.Writes f.type) (hkeys : (fields.map Field.key).Nodup) :
    encodeFields owner (fields.map Field.layout) (ls.entryEncodings values) =
      writeObject owner (fields.map Field.writer) values := by
  have hlayouts : (fields.map Field.layout).map FieldLayout.key = fields.map Field.key :=
    List.map_map
  have hwriters : (fields.map Field.layout).map ls.fieldWriter = fields.map Field.writer := by
    rw [List.map_map]
    refine List.map_congr_left fun f hf => ?_
    exact congrArg (FieldWriter.mk f.key f.required) (funext (hwrites f hf))
  rw [encodeFields_eq_writeObject (hlayouts ▸ hkeys), hwriters]

end Fields

/-! ## §3 The keys of an object -/

section Keys

variable {owner : String} {values : Entries TypedValue} {writers : List FieldWriter}

/-- **The keys that come out** are the declared ones that the value has, in declaration order. -/
theorem keys_writeEntries :
    ∀ {object : Json.Object}, writeEntries owner values writers = .ok object →
      object.keys = (writers.map FieldWriter.key).filter values.has := by
  induction writers with
  | nil =>
    intro object h
    obtain rfl := Except.ok.inj h
    rfl
  | cons f rest ih =>
    intro object h
    rw [writeEntries] at h
    split at h
    · rename_i v hv
      obtain ⟨j, -, h⟩ := except_bind_eq_ok.mp h
      obtain ⟨others, hothers, h⟩ := except_bind_eq_ok.mp h
      obtain rfl := except_pure_eq_ok.mp h
      have hhas : values.has f.key = true := by
        rw [Entries.has_eq_isSome, hv]
        rfl
      rw [List.map_cons, List.filter_cons_of_pos hhas]
      exact congrArg (f.key :: ·) (ih hothers)
    · rename_i hv
      have hhas : ¬values.has f.key = true := by
        rw [Entries.has_eq_isSome, hv]
        exact Bool.false_ne_true
      split at h
      · cases h
      · rw [List.map_cons, List.filter_cons_of_neg hhas]
        exact ih h

/-- What was written lacks no required key. -/
theorem has_of_writeEntries :
    ∀ {object : Json.Object}, writeEntries owner values writers = .ok object →
      ∀ w ∈ writers, w.required = true → values.has w.key = true := by
  induction writers with
  | nil => exact fun _ w hw => absurd hw List.not_mem_nil
  | cons f rest ih =>
    intro object h
    rw [writeEntries] at h
    split at h
    · rename_i v hv
      obtain ⟨j, -, h⟩ := except_bind_eq_ok.mp h
      obtain ⟨others, hothers, -⟩ := except_bind_eq_ok.mp h
      refine List.forall_mem_cons.mpr ⟨fun _ => ?_, ih hothers⟩
      rw [Entries.has_eq_isSome, hv]
      rfl
    · split at h
      · cases h
      · rename_i hoptional
        exact List.forall_mem_cons.mpr ⟨fun hreq => absurd hreq hoptional, ih h⟩

/-- **What was written is all of the value.** -/
theorem keys_writeObject {object : Json.Object}
    (h : writeObject owner writers values = .ok object) :
    object.keys = (writers.map FieldWriter.key).filter values.has ∧
      (∀ w ∈ writers, w.required = true → values.has w.key = true) ∧
      ∀ key ∈ values.keys, key ∈ writers.map FieldWriter.key := by
  unfold writeObject at h
  split at h
  · cases h
  · rename_i hdeclared
    refine ⟨keys_writeEntries h, has_of_writeEntries h, fun key hkey => ?_⟩
    simpa using List.find?_eq_none.mp hdeclared key hkey

/-- The keys of an object are keys of the value it is written from. -/
theorem mem_keys_of_writeObject {object : Json.Object}
    (h : writeObject owner writers values = .ok object) {key : String} (hkey : key ∈ object.keys) :
    key ∈ values.keys := by
  rw [(keys_writeObject h).1] at hkey
  exact Entries.has_eq_true_iff.mp (List.mem_filter.mp hkey).2

end Keys

/-! ## §4 Object cases -/

section ObjectCase

variable {ls : Layouts} {w : VariantWriter} {c : VariantCase} {key : String}

/-- **The layout of an object case writes what the case writes**, unless a routed value holds its
discriminator again. -/
theorem encodeObjectCase_eq (values : Entries TypedValue) (routed : Option Encoding)
    (slot : DiscriminatorSlot) (hwrites : ∀ f ∈ c.fields, ls.Writes f.type)
    (hkeys : (c.fields.map Field.key).Nodup) (hfree : routed.isSome = true → key ∉ values.keys) :
    encodeObjectCase w.name (.object c.name (c.fields.map Field.layout) key slot)
        (ls.entryEncodings values) routed =
      w.writeObjectCase c.writer key values (encodeDiscriminator (w.name ++ "." ++ c.name) key
        routed ((values.get? key).map ls.encoding) slot) := by
  have hclash : (routed.isSome && ((values.get? key).map ls.encoding).isSome) = false := by
    rw [← Bool.not_eq_true, Bool.and_eq_true, Option.isSome_map, Entries.get?_isSome_iff]
    exact fun h => hfree h.1 h.2
  have hfields := encodeFields_eq (w.name ++ "." ++ c.name)
    (values.filter fun e => e.1 != key) hwrites hkeys
  rw [← Layouts.filter_entryEncodings ls values (· != key)] at hfields
  simp only [encodeObjectCase, VariantWriter.writeObjectCase, VariantCase.writer,
    Layouts.get?_entryEncodings, hclash, Bool.false_eq_true, if_false, hfields]
  cases hobject : writeObject (w.name ++ "." ++ c.name) (c.fields.map Field.writer)
    (values.filter fun e => e.1 != key) with
  | error e => rfl
  | ok object =>
    have hnew : key ∉ object.keys := fun hmem => by
      have hleft := mem_keys_of_writeObject hobject hmem
      obtain ⟨e, he, hekey⟩ := List.mem_map.mp hleft
      exact absurd hekey (by simpa using (List.mem_filter.mp he).2)
    cases encodeDiscriminator (w.name ++ "." ++ c.name) key routed
      ((values.get? key).map ls.encoding) slot with
    | error e => rfl
    | ok tag =>
      exact congrArg (fun o => Except.ok (Json.object o)) (Entries.insert_of_not_mem tag hnew)

/-- A routed value that holds its discriminator again is refused. -/
theorem encodeObjectCase_clash (values : Entries TypedValue) (routed : Encoding)
    (slot : DiscriminatorSlot) (fields : List FieldLayout) (h : key ∈ values.keys) :
    encodeObjectCase w.name (.object c.name fields key slot) (ls.entryEncodings values)
        (some routed) =
      .error (.unknownField (w.name ++ "." ++ c.name) key) := by
  have hclash : ((values.get? key).map ls.encoding).isSome = true := by
    rw [Option.isSome_map, Entries.get?_isSome_iff]
    exact h
  simp only [encodeObjectCase, Layouts.get?_entryEncodings, hclash, Option.isSome_some,
    Bool.and_self, if_true]
  rfl

end ObjectCase

end TrackingPlan
