import TrackingPlan.Proofs.Layout.Discriminators

/-!
# What becomes of the keys that a value supplies

A record or a value of a variant supplies fields under keys.  Once the value is written, each of its
keys is one that the selected layout declares, and what is written for the field stands in the
output, at any depth (`encode_supplied`).  One place does not look at its keys: the case of a bare
value takes the field that it wraps and passes over all others, which are lost.

§1 nodes and their layouts · §2 object cases · §3 layouts whose keys differ · §4 the keys of a
node · §5 parts of a value.
-/

namespace TrackingPlan

/-! ## §1 Nodes and their layouts -/

/-- Whether a value holds fields under keys. -/
def TypedValue.isNode : TypedValue → Bool
  | .record _ => true
  | .case _ _ => true
  | .tagged _ _ => true
  | _ => false

/-- **The fields that a node can hold**, and whether it is written as the one field that it wraps
and not as an object. -/
structure NodeLayout where
  fields : List FieldLayout
  wraps : Bool

/-- What is written for a field stands in the output of its node: under the field's key, or as all
of it. -/
def NodeLayout.Holds (n : NodeLayout) (json : Json) (key : String) (part : Json) : Prop :=
  if n.wraps then json = part else json.get? key = some part

/-- The discriminator as a field: the caller supplies it to the default case, unless a literal
routes the value there. -/
def DiscriminatorSlot.field? (key : String) (routed : Bool) : DiscriminatorSlot → Option FieldLayout
  | .fixed _ => none
  | .supplied layout => if routed then none else some ⟨key, true, layout⟩

/-- The fields that an object case can hold. -/
def objectFields (fields : List FieldLayout) (key : String) (slot : DiscriminatorSlot)
    (routed : Bool) : List FieldLayout :=
  fields.filter (·.key != key) ++ (slot.field? key routed).toList

/-- **The layout that is selected for a node**: that of its record, of the case that it names, or of
the case that it is routed to. -/
inductive Layouts.Selects (ls : Layouts) (layout : ValueLayout) : TypedValue → NodeLayout → Prop
  | record {fields : Entries TypedValue} {r : RecordLayout}
      (target : ls.target (.record fields) layout = .ok (.record r)) :
      ls.Selects layout (.record fields) ⟨r.fields, false⟩
  | object {name : String} {values : Entries TypedValue} {w : VariantLayout} {case : String}
      {fields : List FieldLayout} {key : String} {slot : DiscriminatorSlot}
      (target : ls.target (.case name values) layout = .ok (.variant w))
      (found : w.case? name = some (.object case fields key slot)) :
      ls.Selects layout (.case name values) ⟨objectFields fields key slot false, false⟩
  | wrapper {name : String} {values : Entries TypedValue} {w : VariantLayout} {case : String}
      {kind : ValueKind} {wrapped : ValueLayout}
      (target : ls.target (.case name values) layout = .ok (.variant w))
      (found : w.case? name = some (.bare case kind wrapped)) :
      ls.Selects layout (.case name values) ⟨[⟨"value", true, wrapped⟩], true⟩
  | routed {tag : Literal} {values : Entries TypedValue} {w : VariantLayout} {c : VariantCase}
      {case : String} {fields : List FieldLayout} {key : String} {slot : DiscriminatorSlot}
      (target : ls.target (.tagged tag values) layout = .ok (.variant w))
      (route : w.variant.route tag = .ok c)
      (found : w.case? c.name = some (.object case fields key slot)) :
      ls.Selects layout (.tagged tag values) ⟨objectFields fields key slot true, false⟩

/-- **A node that was written has a layout.** -/
theorem Layouts.exists_selects {ls : Layouts} {layout : ValueLayout} {value : TypedValue}
    {json : Json} (hnode : value.isNode = true) (h : ls.encoding value layout = .ok json) :
    ∃ n, ls.Selects layout value n := by
  -- a node that is not taken apart by its layout is refused
  have hparts : value.hasParts = true := by cases value <;> first | rfl | cases hnode
  have hrefused := encodeAtom_of_hasParts hparts
  rw [Layouts.encoding_eq] at h
  obtain ⟨target, htarget, h⟩ := except_bind_eq_ok.mp h
  cases value with
  | record fields =>
    cases target with
    | record r => exact ⟨_, .record htarget⟩
    | _ =>
      simp only [Layouts.writeAs, hrefused] at h
      cases h
  | case name values =>
    cases target with
    | variant w =>
      obtain ⟨l, hcase⟩ := exists_case_of_encodeNamedCase h
      cases l with
      | object case fields key slot => exact ⟨_, .object htarget hcase⟩
      | bare case kind wrapped => exact ⟨_, .wrapper htarget hcase⟩
    | _ =>
      simp only [Layouts.writeAs, hrefused] at h
      cases h
  | tagged tag values =>
    cases target with
    | variant w =>
      obtain ⟨c, case, fields, key, slot, hroute, hcase⟩ := exists_object_of_encodeTagged h
      exact ⟨_, .routed htarget hroute hcase⟩
    | _ =>
      simp only [Layouts.writeAs, hrefused] at h
      cases h
  | _ => cases hnode

/-! ## §2 Object cases -/

section ObjectCase

variable {owner case key : String} {fields : List FieldLayout} {slot : DiscriminatorSlot}
  {supplied : Entries Encoding} {routed : Option Encoding} {json : Json}

/-- **Every key of an object case that was written is declared.** -/
theorem declared_of_encodeObjectCase
    (h : encodeObjectCase owner (.object case fields key slot) supplied routed = .ok json)
    {k : String} (hk : k ∈ supplied.keys) :
    k ∈ (objectFields fields key slot routed.isSome).map FieldLayout.key := by
  obtain ⟨hfree, object, tag, hobject, htag, -⟩ := encodeObjectCase_eq_ok_iff.mp h
  rw [objectFields, List.map_append, List.mem_append]
  by_cases hkey : k = key
  · -- the caller supplies the discriminator, so nothing was routed and no tag is fixed
    subst hkey
    have hnamed : (supplied.get? k).isSome = true := Entries.get?_isSome_iff.mpr hk
    cases routed with
    | some encoding => exact absurd hk (hfree rfl)
    | none =>
      cases slot with
      | fixed own =>
        simp [encodeDiscriminator, hnamed] at htag
      | supplied layout => exact .inr (List.mem_singleton.mpr rfl)
  · left
    have hleft : k ∈ Entries.keys (supplied.filter (·.1 != key)) := by
      obtain ⟨e, he, rfl⟩ := List.mem_map.mp hk
      exact List.mem_map.mpr ⟨e, List.mem_filter.mpr ⟨he, bne_iff_ne.mpr hkey⟩, rfl⟩
    obtain ⟨f, hf, rfl⟩ := List.mem_map.mp ((encodeFields_eq_ok_iff.mp hobject).1 k hleft)
    exact List.mem_map.mpr ⟨f, List.mem_filter.mpr ⟨hf, bne_iff_ne.mpr hkey⟩, rfl⟩

/-- **What an object case was supplied with stands in its output.** -/
theorem written_of_encodeObjectCase (hkeys : (fields.map FieldLayout.key).Nodup)
    (h : encodeObjectCase owner (.object case fields key slot) supplied routed = .ok json)
    {f : FieldLayout} (hf : f ∈ objectFields fields key slot routed.isSome) {encoding : Encoding}
    (hget : supplied.get? f.key = some encoding) :
    ∃ j, encoding f.value = .ok j ∧ json.get? f.key = some j := by
  obtain ⟨hfree, object, tag, hobject, htag, rfl⟩ := encodeObjectCase_eq_ok_iff.mp h
  rcases List.mem_append.mp hf with hown | hslot
  · -- the discriminator goes over the fields under a key that none of these has
    obtain ⟨hmem, hne⟩ := List.mem_filter.mp hown
    have hleft : Entries.get? (supplied.filter (·.1 != key)) f.key = some encoding := by
      rw [Entries.get?_filter supplied (· != key), if_pos hne, hget]
    obtain ⟨j, hj, hwritten⟩ :=
      get?_writeFields_of_mem hkeys hmem hleft (encodeFields_eq_ok_iff.mp hobject).2
    refine ⟨j, hj, ?_⟩
    show (object.insert key tag).get? f.key = some j
    rw [Entries.get?_insert_of_ne object tag (bne_iff_ne.mp hne).symm, hwritten]
  · -- only a slot that nothing is routed to is a field
    cases slot with
    | fixed own => cases hslot
    | supplied layout =>
      cases routed with
      | some encoding => cases hslot
      | none =>
        obtain rfl := List.mem_singleton.mp hslot
        dsimp only at hget
        rw [hget] at htag
        exact ⟨tag, htag, Entries.get?_insert_self object key tag⟩

end ObjectCase

/-! ## §3 Layouts whose keys differ -/

/-- **Keys differ in each layout** of a record or of an object case. -/
structure Layouts.KeysDiffer (ls : Layouts) : Prop where
  record : ∀ id r, ls.types.get? id = some (.record r) → (r.fields.map FieldLayout.key).Nodup
  object : ∀ id w, ls.types.get? id = some (.variant w) → ∀ case fields key slot,
    .object case fields key slot ∈ w.cases → (fields.map FieldLayout.key).Nodup

/-- The layouts keep the record or the variant that a value is written by. -/
def Layouts.Keeps (ls : Layouts) : Target → Prop
  | .record r => ∃ id, ls.types.get? id = some (.record r)
  | .variant w => ∃ id, ls.types.get? id = some (.variant w)
  | _ => True

/-- **What a value is written by is kept.** -/
theorem Layouts.keeps_of_settle {ls : Layouts} {value : TypedValue} (left : Nat) :
    ∀ {layout : ValueLayout} {target : Target}, ls.settle value left layout = .ok target →
      ls.Keeps target := by
  induction left using Nat.strong_induction_on with
  | h left ih =>
    intro layout target h
    cases layout with
    | scalar kind =>
      rw [settle_scalar] at h
      obtain rfl := Except.ok.inj h
      trivial
    | array item =>
      rw [settle_array] at h
      obtain rfl := Except.ok.inj h
      trivial
    | untyped kind =>
      rw [settle_untyped] at h
      obtain rfl := Except.ok.inj h
      trivial
    | named id =>
      cases hget : ls.types.get? id with
      | none =>
        rw [Layouts.settle, hget] at h
        cases h
      | some t =>
        cases t with
        | record r =>
          rw [Layouts.settle, hget] at h
          obtain rfl := Except.ok.inj h
          exact ⟨id, hget⟩
        | enumeration name cases =>
          rw [Layouts.settle, hget] at h
          obtain rfl := Except.ok.inj h
          trivial
        | variant w =>
          cases hbare : value.isBare with
          | false =>
            rw [settle_of_not_bare hget hbare] at h
            obtain rfl := Except.ok.inj h
            exact ⟨id, hget⟩
          | true =>
            -- the value goes on to what the case wraps, with less left
            cases left with
            | zero =>
              rw [settle_zero_of_bare hget hbare] at h
              cases h
            | succ left =>
              rw [settle_of_bare hget hbare] at h
              obtain ⟨layout', -, h⟩ := except_bind_eq_ok.mp h
              exact ih left (Nat.lt_succ_self left) h

/-- **Keys differ in the layouts of a valid model.** -/
theorem Layouts.keysDiffer {s : Schema} {ls : Layouts} (hvalid : s.validate = .ok s)
    (hls : Layouts.ofSchema s = .ok ls) : ls.KeysDiffer := by
  obtain ⟨hfaults, -⟩ := Schema.validate_eq_ok_iff.mp hvalid
  -- what is kept under an id is the layout of a named type, which has no fault
  have htyped : ∀ {id : String} {l : TypeLayout}, ls.types.get? id = some l →
      ∃ t ∈ s.namedTypes, PropertyType.typeLayout? t = some l ∧ t.faults = [] := by
    intro id l hget
    rw [Layouts.eq_of_ofSchema hls] at hget
    obtain ⟨t, ht, hkeyed⟩ := List.mem_filterMap.mp (Entries.mem_of_get? hget)
    obtain ⟨-, hlayout⟩ := PropertyType.keyed?_eq_some_iff.mp hkeyed
    exact ⟨t, ht, hlayout, Schema.faults_of_mem_namedTypes hfaults ht⟩
  have hmap : ∀ fields : List Field,
      (fields.map Field.layout).map FieldLayout.key = fields.map Field.key := fun _ => List.map_map
  constructor
  · intro id r hget
    obtain ⟨t, -, hlayout, hfaultless⟩ := htyped hget
    cases t with
    | record record =>
      obtain rfl := TypeLayout.record.inj (Option.some.inj hlayout)
      rw [hmap]
      exact fieldFaults_eq_nil_iff.mp hfaultless
    | variant v =>
      obtain ⟨_, -, heq⟩ := Option.map_eq_some_iff.mp hlayout
      cases heq
    | _ => cases hlayout
  · intro id w hget case fields key slot hcase
    obtain ⟨t, -, hlayout, hfaultless⟩ := htyped hget
    cases t with
    | variant v =>
      obtain ⟨cases, hcases, heq⟩ := Option.map_eq_some_iff.mp hlayout
      obtain rfl := TypeLayout.variant.inj heq
      obtain ⟨c, hc, hobject⟩ :=
        exists_mem_of_mapM_eq_ok (except_toOption_eq_some.mp hcases) _ hcase
      have hwell : v.WellFormed := VariantType.faults_eq_nil_iff.mp hfaultless
      have hfields : fields = c.fields.map Field.layout := by
        cases (hwell.fits c hc).fitting with
        | literal d l _ _ hlayout =>
          exact (CaseLayout.object.inj (Except.ok.inj (hobject.symm.trans hlayout))).2.1
        | fallback d _ _ hlayout =>
          exact (CaseLayout.object.inj (Except.ok.inj (hobject.symm.trans hlayout))).2.1
        | bare k f _ _ _ hlayout => cases Except.ok.inj (hobject.symm.trans hlayout)
      rw [hfields, hmap]
      exact hwell.keys c hc
    | _ => cases hlayout

/-! ## §4 The keys of a node -/

namespace Layouts.Selects

variable {ls : Layouts} {layout : ValueLayout} {value : TypedValue} {n : NodeLayout} {json : Json}

/-- **Every key of a node that was written is declared**, but those beside a wrapped value. -/
theorem declared (h : ls.Selects layout value n) (hjson : ls.encoding value layout = .ok json)
    {key : String} (hkey : key ∈ value.fields.keys) :
    key ∈ n.fields.map FieldLayout.key ∨ n.wraps = true ∧ key ≠ "value" := by
  have hsupplied : key ∈ (ls.entryEncodings value.fields).keys := by
    rw [Layouts.keys_entryEncodings]
    exact hkey
  cases h with
  | record target =>
    rw [Layouts.encoding_of_target target] at hjson
    obtain ⟨object, hobject, -⟩ := except_bind_eq_ok.mp hjson
    exact .inl ((encodeFields_eq_ok_iff.mp hobject).1 key hsupplied)
  | object target found =>
    rw [Layouts.encoding_of_target target] at hjson
    have hcase := (encodeNamedCase_of_object found _).symm.trans hjson
    exact .inl (declared_of_encodeObjectCase hcase hsupplied)
  | wrapper target found =>
    by_cases hvalue : key = "value"
    · exact .inl (List.mem_singleton.mpr hvalue)
    · exact .inr ⟨rfl, hvalue⟩
  | routed target route found =>
    rw [Layouts.encoding_of_target target] at hjson
    have hcase := (encodeTagged_of_route route found _ _).symm.trans hjson
    exact .inl (declared_of_encodeObjectCase hcase hsupplied)

/-- **What a node was supplied with for a field stands in its output.** -/
theorem written (h : ls.Selects layout value n) (hkeys : ls.KeysDiffer)
    (hjson : ls.encoding value layout = .ok json) {f : FieldLayout} (hf : f ∈ n.fields)
    {x : TypedValue} (hget : value.fields.get? f.key = some x) :
    ∃ j, ls.encoding x f.value = .ok j ∧ n.Holds json f.key j := by
  have hsupplied : (ls.entryEncodings value.fields).get? f.key = some (ls.encoding x) := by
    rw [Layouts.get?_entryEncodings, hget]
    rfl
  cases h with
  | record target =>
    obtain ⟨id, hid⟩ := Layouts.keeps_of_settle _ target
    rw [Layouts.encoding_of_target target] at hjson
    obtain ⟨object, hobject, hjson⟩ := except_bind_eq_ok.mp hjson
    obtain rfl := except_pure_eq_ok.mp hjson
    exact get?_writeFields_of_mem (hkeys.record id _ hid) hf hsupplied
      (encodeFields_eq_ok_iff.mp hobject).2
  | object target found =>
    obtain ⟨id, hid⟩ := Layouts.keeps_of_settle _ target
    have hdiffer := hkeys.object id _ hid _ _ _ _ (List.mem_of_find?_eq_some found)
    rw [Layouts.encoding_of_target target] at hjson
    have hcase := (encodeNamedCase_of_object found _).symm.trans hjson
    exact written_of_encodeObjectCase hdiffer hcase hf hsupplied
  | wrapper target found =>
    obtain rfl := List.mem_singleton.mp hf
    rw [Layouts.encoding_of_target target] at hjson
    exact ⟨json, (encodeNamedCase_of_bare found hsupplied).symm.trans hjson, rfl⟩
  | routed target route found =>
    obtain ⟨id, hid⟩ := Layouts.keeps_of_settle _ target
    have hdiffer := hkeys.object id _ hid _ _ _ _ (List.mem_of_find?_eq_some found)
    rw [Layouts.encoding_of_target target] at hjson
    have hcase := (encodeTagged_of_route route found _ _).symm.trans hjson
    exact written_of_encodeObjectCase hdiffer hcase hf hsupplied

/-- **What stands beside a wrapped value is lost**: any more of it makes no difference. -/
theorem lost {name : String} {values : Entries TypedValue}
    (h : ls.Selects layout (.case name values) n) (hwraps : n.wraps = true)
    (hjson : ls.encoding (.case name values) layout = .ok json) (more : Entries TypedValue) :
    ls.encoding (.case name (values ++ more)) layout = .ok json := by
  cases h with
  | object target found => cases hwraps
  | @wrapper _ _ w case kind wrapped target found =>
    have hsame : ls.target (.case name (values ++ more)) layout =
        ls.target (.case name values) layout := by
      apply settle_eq_of_shape <;> rfl
    rw [Layouts.encoding_of_target target] at hjson
    change encodeNamedCase w name (ls.entryEncodings values) = .ok json at hjson
    rw [Layouts.encoding_of_target (hsame.trans target)]
    show encodeNamedCase w name (ls.entryEncodings (values ++ more)) = .ok json
    -- the wrapped value is found first, whatever comes after it
    cases hget : values.get? "value" with
    | none =>
      have hnone : (ls.entryEncodings values).get? "value" = none := by
        rw [Layouts.get?_entryEncodings, hget]
        rfl
      rw [encodeNamedCase, found] at hjson
      dsimp only at hjson
      rw [hnone] at hjson
      cases hjson
    | some x =>
      have hvalue : (ls.entryEncodings values).get? "value" = some (ls.encoding x) := by
        rw [Layouts.get?_entryEncodings, hget]
        rfl
      have hmore : (ls.entryEncodings (values ++ more)).get? "value" = some (ls.encoding x) := by
        rw [Layouts.get?_entryEncodings, Entries.get?_append_of_some hget]
        rfl
      rw [encodeNamedCase_of_bare found hmore, ← encodeNamedCase_of_bare found hvalue, hjson]

end Layouts.Selects

/-! ## §5 Parts of a value -/

/-- **The part of a JSON value**, at any depth. -/
inductive Json.Part (part : Json) : Json → Prop
  | refl : Json.Part part part
  | item {items : List Json} {x : Json} (mem : x ∈ items) (rest : Json.Part part x) :
      Json.Part part (.array items)
  | entry {json : Json} {key : String} {x : Json} (found : json.get? key = some x)
      (rest : Json.Part part x) : Json.Part part json

/-- **The parts of a value that are met while it is written**, each with the layout that it is
written by: items of lists, and fields that the layout of their node declares. -/
inductive Layouts.Meets (ls : Layouts) : ValueLayout → TypedValue → ValueLayout → TypedValue → Prop
  | refl (layout : ValueLayout) (value : TypedValue) : ls.Meets layout value layout value
  | item {layout item layout' : ValueLayout} {items : List TypedValue} {x part : TypedValue}
      (target : ls.target (.array items) layout = .ok (.array item)) (mem : x ∈ items)
      (rest : ls.Meets item x layout' part) : ls.Meets layout (.array items) layout' part
  | field {layout layout' : ValueLayout} {value x part : TypedValue} {n : NodeLayout}
      {f : FieldLayout} (selects : ls.Selects layout value n) (mem : f ∈ n.fields)
      (found : value.fields.get? f.key = some x) (rest : ls.Meets f.value x layout' part) :
      ls.Meets layout value layout' part

section Parts

variable {ls : Layouts} {layout layout' : ValueLayout} {value part : TypedValue} {json : Json}

/-- **What is met while a value is written, is written**, as a part of the output. -/
theorem Layouts.Meets.exists_part (h : ls.Meets layout value layout' part)
    (hkeys : ls.KeysDiffer) : ∀ {json : Json}, ls.encoding value layout = .ok json →
      ∃ j, Json.Part j json ∧ ls.encoding part layout' = .ok j := by
  -- by how the part is met: each step goes one level down, in the value and in the output
  induction h with
  | refl layout value => exact fun {json} hjson => ⟨json, .refl, hjson⟩
  | @item layout item _ items x _ target mem _ ih =>
    intro json hjson
    rw [Layouts.encoding_of_target target] at hjson
    obtain ⟨js, hjs, hjson⟩ := except_bind_eq_ok.mp hjson
    obtain rfl := except_pure_eq_ok.mp hjson
    have hitem : ls.encoding x ∈ ls.itemEncodings items := by
      rw [Layouts.itemEncodings_eq]
      exact List.mem_map.mpr ⟨x, mem, rfl⟩
    obtain ⟨j, hj, hx⟩ := exists_mem_of_encodeItems hjs _ hitem
    obtain ⟨i, hi, hpart⟩ := ih hx
    exact ⟨i, .item hj hi, hpart⟩
  | field selects mem found _ ih =>
    intro json hjson
    obtain ⟨j, hj, hholds⟩ := selects.written hkeys hjson mem found
    obtain ⟨i, hi, hpart⟩ := ih hj
    refine ⟨i, ?_, hpart⟩
    unfold NodeLayout.Holds at hholds
    split at hholds
    · exact hholds ▸ hi
    · exact .entry hholds hi

/-- **Once a value is written, so is each field of each node in it**: its key is declared by the
layout that is selected for the node, and what is written for it stands in the output.  Only a node
that names the case of a bare value may hold other fields beside the one that it wraps, and then any
of them are lost. -/
theorem Layouts.encode_supplied {s : Schema} (hvalid : s.validate = .ok s)
    (hls : Layouts.ofSchema s = .ok ls) {name : TypeName} (hjson : ls.encode name value = .ok json)
    (hmeets : ls.Meets (ls.layoutOf name) value layout part) (hnode : part.isNode = true) :
    ∃ n j, ls.Selects layout part n ∧ ls.encoding part layout = .ok j ∧ Json.Part j json ∧
      (∀ key x, part.fields.get? key = some x →
        (∃ f ∈ n.fields, f.key = key ∧
          ∃ i, ls.encoding x f.value = .ok i ∧ n.Holds j key i) ∨
        n.wraps = true ∧ key ≠ "value") ∧
      (n.wraps = true → ∀ (case : String) (values more : Entries TypedValue),
        part = .case case values → ls.encoding (.case case (values ++ more)) layout = .ok j) := by
  have hkeys := Layouts.keysDiffer hvalid hls
  obtain ⟨j, hpart, hj⟩ := hmeets.exists_part hkeys hjson
  obtain ⟨n, hselects⟩ := Layouts.exists_selects hnode hj
  refine ⟨n, j, hselects, hj, hpart, ?_, ?_⟩
  · intro key x hget
    have hkey : key ∈ part.fields.keys := Entries.get?_isSome_iff.mp (by rw [hget]; rfl)
    refine (hselects.declared hj hkey).imp_left fun hdeclared => ?_
    obtain ⟨f, hf, rfl⟩ := List.mem_map.mp hdeclared
    exact ⟨f, hf, rfl, hselects.written hkeys hj hf hget⟩
  · rintro hwraps case values more rfl
    exact hselects.lost hwraps hj more

/-- The size within the list within the order is written, as a part of the order. -/
theorem Layouts.encode_supplied_size : ∃ n j,
    Schema.sizedOrders.layouts.Selects (.named "customtype:Size")
        (.case "String" [("value", .string "wide")]) n ∧
      Json.Part j (.object [("sizes", .array [.string "wide"])]) ∧
      ∃ f ∈ n.fields, f.key = "value" ∧ ∃ i, n.Holds j "value" i := by
  have hvalid : Schema.sizedOrders.validate = .ok Schema.sizedOrders :=
    Schema.validate_eq_ok_iff.mpr ⟨rfl, rfl⟩
  have hjson : Schema.sizedOrders.layouts.encode (.event "Track Order properties")
      (.record [("sizes", .array [.case "String" [("value", .string "wide")]])]) =
        .ok (.object [("sizes", .array [.string "wide"])]) := rfl
  have hmeets : Schema.sizedOrders.layouts.Meets
      (Schema.sizedOrders.layouts.layoutOf (.event "Track Order properties"))
      (.record [("sizes", .array [.case "String" [("value", .string "wide")]])])
      (.named "customtype:Size") (.case "String" [("value", .string "wide")]) :=
    .field (.record rfl) List.mem_cons_self rfl (.item rfl List.mem_cons_self (.refl _ _))
  obtain ⟨n, j, hselects, -, hpart, hwritten, -⟩ := encode_supplied hvalid rfl hjson hmeets rfl
  rcases hwritten "value" _ rfl with ⟨f, hf, hkey, i, -, hholds⟩ | ⟨-, hne⟩
  · exact ⟨n, j, hselects, hpart, f, hf, hkey, i, hholds⟩
  · exact absurd rfl hne

/-- An amount is a number of units, or a text. -/
def Schema.amounts : Schema where
  name := "amounts"
  metadata := .unknown
  customTypes := []
  properties := [("amount", .variant ⟨.property "amount", none, none,
    [ValueKind.toCase (.scalar .integer), ValueKind.toCase (.scalar .string)], none⟩)]
  rules := []

/-- A key beside the text is declared by nothing and written nowhere, and still not refused. -/
theorem Layouts.encode_amount_loses : Schema.amounts.validate = .ok Schema.amounts ∧
    Layouts.ofSchema Schema.amounts = .ok Schema.amounts.layouts ∧
    Schema.amounts.layouts.Selects (Schema.amounts.layouts.layoutOf (.property "amount"))
      (.case "StringValue" [("value", .string "one"), ("extra", .integer 1)])
      ⟨[⟨"value", true, .scalar .string⟩], true⟩ ∧
    Schema.amounts.layouts.encode (.property "amount")
        (.case "StringValue" [("value", .string "one"), ("extra", .integer 1)]) =
      .ok (.string "one") :=
  ⟨Schema.validate_eq_ok_iff.mpr ⟨rfl, rfl⟩, rfl, .wrapper rfl rfl, rfl⟩

end Parts

end TrackingPlan
