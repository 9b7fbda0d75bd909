import TrackingPlan.Proofs.Layout.Variants

/-!
# Layouts write what types write

The layouts of a model reach a type through its id, and a bare value may pass through several
variants before it is written.  Both are harmless where ids identify types: what is kept under an id
is the layout of the type at hand (`Layouts.Hold`), and the variants that a bare value passes
through stand within each other, so their ids differ and the bound of `Layouts.settle` is never met
(`settle_eq_settle`).  Then every value is written as the type itself writes it (`Hold.writes`).
-/

namespace TrackingPlan

open PropertyType (typeLayout? aliasLayout?)

/-! ## §1 Writing by a target -/

/-- Whether a value goes through a variant to the type that one of its cases wraps. -/
def TypedValue.isBare : TypedValue → Bool
  | .case _ _ => false
  | .tagged _ _ => false
  | _ => true

/-- What a value writes once its layout is looked up. -/
def Layouts.writeAs (ls : Layouts) : TypedValue → Target → Except EncodeError Json
  | .array items, .array item => do return .array (← encodeItems item (ls.itemEncodings items))
  | .record fields, .record r => do
    return .object (← encodeFields r.name.name r.fields (ls.entryEncodings fields))
  | .case name fields, .variant v => encodeNamedCase v name (ls.entryEncodings fields)
  | .tagged tag fields, .variant v =>
    encodeTagged v tag (ls.entryEncodings fields) (ls.atomEncoding (TypedValue.ofLiteral tag))
  | value, target => encodeAtom target value

/-- **A value is written by its target alone.** -/
theorem Layouts.encoding_eq (ls : Layouts) (value : TypedValue) (layout : ValueLayout) :
    ls.encoding value layout = (ls.target value layout).bind (ls.writeAs value) := by
  cases value <;> simp only [Layouts.encoding, Layouts.atomEncoding] <;>
    cases ls.target _ layout with
    | error e => rfl
    | ok target => cases target <;> rfl

theorem Layouts.encoding_of_target {ls : Layouts} {value : TypedValue} {layout : ValueLayout}
    {target : Target} (h : ls.target value layout = .ok target) :
    ls.encoding value layout = ls.writeAs value target := by
  rw [Layouts.encoding_eq, h]
  rfl

/-- Whether a value is taken apart to be written. -/
def TypedValue.hasParts : TypedValue → Bool
  | .array _ => true
  | .record _ => true
  | .case _ _ => true
  | .tagged _ _ => true
  | _ => false

/-- A value with parts that is not taken apart is refused. -/
theorem encodeAtom_of_hasParts {v : TypedValue} (hparts : v.hasParts = true) (target : Target) :
    encodeAtom target v = mismatch target.describe v := by
  have hscalar : v.scalarJson? = none := by cases v <;> first | rfl | cases hparts
  unfold encodeAtom
  split
  all_goals first | rfl | cases hparts | rw [hscalar]

/-! ## §2 Layouts that hold for a type -/

/-- **The layouts hold for a type**: what is kept under the id of a type within it is the layout of
that type, and no type within it has a fault. -/
structure Layouts.Hold (ls : Layouts) (t : PropertyType) : Prop where
  kept : ∀ u, t.Reaches u → ∀ i l, u.id? = some i → typeLayout? u = some l →
    ls.types.get? i = some l
  faultless : ∀ u, t.Reaches u → u.faults = []

namespace Layouts.Hold

variable {ls : Layouts} {t : PropertyType}

theorem reached (h : ls.Hold t) {u : PropertyType} (hu : t.Reaches u) : ls.Hold u :=
  ⟨fun w hw => h.kept w (hu.trans hw), fun w hw => h.faultless w (hu.trans hw)⟩

theorem part (h : ls.Hold t) {u : PropertyType} (hu : u ∈ t.parts) : ls.Hold u :=
  h.reached (.of_mem_parts hu)

theorem wellFormed {v : VariantType} (h : ls.Hold (.variant v)) : v.WellFormed :=
  VariantType.faults_eq_nil_iff.mp (h.faultless _ (.refl _))

/-- A variant finds its own layout. -/
theorem exists_variantLayout {v : VariantType} (h : ls.Hold (.variant v)) :
    ∃ w : VariantLayout, w.Of v ∧ ls.types.get? v.name.id = some (.variant w) := by
  obtain ⟨cases, hcases, -⟩ := VariantType.exists_caseLayouts
    fun c hc => VariantType.exists_caseLayout (h.wellFormed.fits c hc)
  refine ⟨⟨v, cases⟩, ⟨rfl, hcases⟩, h.kept _ (.refl _) _ _ rfl ?_⟩
  simp only [typeLayout?, hcases, Except.toOption, Option.map_some]

end Layouts.Hold

/-! ## §3 The bound on bare values -/

section Settle

variable {ls : Layouts} {value : TypedValue} {w : VariantLayout} {id : String}

theorem settle_scalar (left : Nat) (kind : ScalarKind) :
    ls.settle value left (.scalar kind) = .ok (.scalar kind) := by
  cases left <;> rfl

theorem settle_untyped (left : Nat) (kind : UntypedKind) :
    ls.settle value left (.untyped kind) = .ok (.untyped kind) := by
  cases left <;> rfl

theorem settle_array (left : Nat) (item : ValueLayout) :
    ls.settle value left (.array item) = .ok (.array item) := by
  cases left <;> rfl

theorem settle_of_not_bare (hget : ls.types.get? id = some (.variant w))
    (hvalue : value.isBare = false) (left : Nat) :
    ls.settle value left (.named id) = .ok (.variant w) := by
  unfold Layouts.settle
  rw [hget]
  cases value <;> first | rfl | cases hvalue

theorem settle_zero_of_bare (hget : ls.types.get? id = some (.variant w))
    (hvalue : value.isBare = true) :
    ls.settle value 0 (.named id) = .error (.endlessType id) := by
  rw [Layouts.settle, hget]
  cases value <;> first | rfl | cases hvalue

theorem settle_of_bare (hget : ls.types.get? id = some (.variant w))
    (hvalue : value.isBare = true) (left : Nat) :
    ls.settle value (left + 1) (.named id) = (w.bareLayout value).bind (ls.settle value left) := by
  rw [Layouts.settle, hget]
  cases value <;> first | rfl | cases hvalue

/-- **The shape of a value** is all that looking its layout up depends on. -/
theorem settle_eq_of_shape {v w : TypedValue} (hbare : v.isBare = w.isBare)
    (hvalue : v.valueKind? = w.valueKind?) (hname : v.kindName = w.kindName) :
    ∀ (left : Nat) (layout : ValueLayout), ls.settle v left layout = ls.settle w left layout := by
  have hlayout : ∀ x : VariantLayout, x.bareLayout v = x.bareLayout w := by
    intro x
    unfold VariantLayout.bareLayout mismatch
    rw [hvalue, hname]
  intro left
  induction left with
  | zero =>
    intro layout
    cases layout with
    | named id =>
      unfold Layouts.settle
      cases ls.types.get? id with
      | none => rfl
      | some t =>
        cases t with
        | variant x => cases v <;> cases w <;> first | rfl | cases hbare
        | _ => rfl
    | _ => rfl
  | succ left ih =>
    intro layout
    cases layout with
    | named id =>
      cases hget : ls.types.get? id with
      | none =>
        unfold Layouts.settle
        rw [hget]
      | some t =>
        cases t with
        | variant x =>
          cases hv : v.isBare with
          | true =>
            rw [settle_of_bare hget hv, settle_of_bare hget (hbare ▸ hv), hlayout]
            exact congrArg _ (funext ih)
          | false => rw [settle_of_not_bare hget hv, settle_of_not_bare hget (hbare ▸ hv)]
        | _ =>
          unfold Layouts.settle
          rw [hget]
    | _ => rfl

theorem settle_record {r : RecordType} (hold : ls.Hold (.record r)) (left : Nat) :
    ls.settle value left (.named r.name.id) =
      .ok (.record ⟨r.name, r.fields.map Field.layout⟩) := by
  rw [Layouts.settle, hold.kept _ (.refl _) _ _ rfl rfl]

theorem settle_enumeration {e : EnumType} (hold : ls.Hold (.enumeration e)) (left : Nat) :
    ls.settle value left (.named e.name.id) = .ok (.enumeration e.name e.cases) := by
  rw [Layouts.settle, hold.kept _ (.refl _) _ _ rfl rfl]

/-- **Ids that a bare value has passed** on its way to a type: they are kept, and no variant within
the type has one of them. -/
structure Layouts.Passed (ls : Layouts) (t : PropertyType) (ids : List String) : Prop where
  distinct : ids.Nodup
  kept : ids ⊆ ls.types.keys
  left : ∀ v, t.Reaches (.variant v) → v.name.id ∉ ids

theorem Layouts.Passed.start (ls : Layouts) (t : PropertyType) : ls.Passed t [] :=
  ⟨List.nodup_nil, List.nil_subset _, fun _ _ => List.not_mem_nil⟩

theorem Layouts.Passed.part {t u : PropertyType} {ids : List String} (h : ls.Passed t ids)
    (hu : u ∈ t.parts) : ls.Passed u ids :=
  ⟨h.distinct, h.kept, fun v hv => h.left v (.part hu hv)⟩

/-- A variant that comes next has an id that is kept and not yet passed. -/
theorem Layouts.Passed.next {v : VariantType} {ids : List String} (hold : ls.Hold (.variant v))
    (h : ls.Passed (.variant v) ids) :
    (v.name.id :: ids).Nodup ∧ v.name.id :: ids ⊆ ls.types.keys := by
  obtain ⟨w, -, hget⟩ := hold.exists_variantLayout
  refine ⟨List.nodup_cons.mpr ⟨h.left v (.refl _), h.distinct⟩, List.cons_subset.mpr ⟨?_, h.kept⟩⟩
  rw [← Entries.get?_isSome_iff, hget]
  rfl

/-- So there is room for it among the ids that are kept. -/
theorem Layouts.Passed.room {v : VariantType} {ids : List String} (hold : ls.Hold (.variant v))
    (h : ls.Passed (.variant v) ids) : ids.length + 1 ≤ ls.types.length := by
  obtain ⟨hnodup, hkept⟩ := h.next hold
  have hle := hnodup.length_le_of_subset hkept
  rwa [Entries.keys, List.length_map, List.length_cons] at hle

/-- Passing through a variant uses its id up: within the variant no other has it, for the layout
kept under the id holds the variant. -/
theorem Layouts.Passed.enter {v : VariantType} {ids : List String} (hold : ls.Hold (.variant v))
    (h : ls.Passed (.variant v) ids) {u : PropertyType} (hu : u ∈ (PropertyType.variant v).parts) :
    ls.Passed u (v.name.id :: ids) := by
  obtain ⟨w, hw, hget⟩ := hold.exists_variantLayout
  obtain ⟨hnodup, hkept⟩ := h.next hold
  refine ⟨hnodup, hkept, fun v' hv' hmem => ?_⟩
  have hreach : (PropertyType.variant v).Reaches (.variant v') := .part hu hv'
  rcases List.mem_cons.mp hmem with hid | hids
  · obtain ⟨w', hw', hget'⟩ := (hold.reached hreach).exists_variantLayout
    have hwv : w' = w := by simpa [hid, hget] using hget'.symm
    obtain rfl : v' = v := by rw [← hw'.variant, hwv, hw.variant]
    exact PropertyType.not_reaches_of_mem_parts hu hv'
  · exact h.left v' hreach hids

/-- **Any two bounds that allow for the ids not yet passed settle on one target.** -/
theorem settle_eq_settle (value : TypedValue) (t : PropertyType) :
    ls.Hold t → ∀ ids, ls.Passed t ids → ∀ m n, ls.types.length ≤ m + ids.length →
      ls.types.length ≤ n + ids.length →
      ls.settle value m t.layout = ls.settle value n t.layout := by
  induction t using PropertyType.parts_induction with
  | step t ih =>
    intro hold ids hpassed m n hm hn
    cases t with
    | scalar kind => exact (settle_scalar m kind).trans (settle_scalar n kind).symm
    | untyped kind => exact (settle_untyped m kind).trans (settle_untyped n kind).symm
    | array item => exact (settle_array m item.layout).trans (settle_array n item.layout).symm
    | aliasType a =>
      have ha : a.target ∈ (PropertyType.aliasType a).parts := List.mem_singleton.mpr rfl
      rw [PropertyType.layout_aliasType]
      exact ih a.target ha (hold.part ha) ids (hpassed.part ha) m n hm hn
    | record r => exact (settle_record hold m).trans (settle_record hold n).symm
    | enumeration e => exact (settle_enumeration hold m).trans (settle_enumeration hold n).symm
    | variant v =>
      obtain ⟨w, hw, hget⟩ := hold.exists_variantLayout
      rw [PropertyType.layout]
      cases hvalue : value.isBare with
      | false => rw [settle_of_not_bare hget hvalue, settle_of_not_bare hget hvalue]
      | true =>
        -- the variant itself is kept and not yet passed, so neither bound is used up
        have hroom := hpassed.room hold
        obtain ⟨m, rfl⟩ : ∃ k, m = k + 1 := ⟨m - 1, by omega⟩
        obtain ⟨n, rfl⟩ : ∃ k, n = k + 1 := ⟨n - 1, by omega⟩
        rw [settle_of_bare hget hvalue, settle_of_bare hget hvalue]
        rcases bareLayout_eq hw hold.wellFormed value with ⟨u, hu, hlayout, -⟩ | ⟨hbad, -⟩
        · rw [hlayout]
          refine ih u hu (hold.part hu) (v.name.id :: ids) (hpassed.enter hold hu) m n ?_ ?_ <;>
            rw [List.length_cons] <;> omega
        · rw [hbad]
          rfl

end Settle

/-! ## §4 Types -/

theorem PropertyType.layout_eq_any_iff (t : PropertyType) :
    t.layout = .untyped .any ↔ t.isAny = true := by
  induction t using PropertyType.parts_induction with
  | step t ih =>
    cases t with
    | aliasType a =>
      have ha : a.target ∈ (aliasType a).parts := List.mem_singleton.mpr rfl
      rw [layout_aliasType, ih a.target ha]
      obtain ⟨name, description, target⟩ := a
      rfl
    | untyped kind => cases kind <;> simp [layout, isAny, resolved]
    | _ => simp [layout, isAny, resolved]

theorem encodeAtom_array_of_ne {item : ValueLayout} (h : item ≠ .untyped .any)
    (value : TypedValue) : encodeAtom (.array item) value = mismatch "array" value := by
  unfold encodeAtom
  split <;> first | rfl | simp_all

/-- Of values without parts only untyped data is a list, and only where its items may be
anything. -/
theorem encodeAtom_array (item : PropertyType) {value : TypedValue}
    (hvalue : ∀ items, value ≠ .array items) :
    encodeAtom (.array item.layout) value = writeArray item.isAny item.write value := by
  have hany := PropertyType.layout_eq_any_iff item
  by_cases hlayout : item.layout = .untyped .any
  · rw [hlayout, hany.mp hlayout]
    cases value with
    | array items => exact absurd rfl (hvalue items)
    | untyped json => cases json <;> rfl
    | _ => rfl
  · have hnot : item.isAny = false := by simpa using mt hany.mpr hlayout
    rw [encodeAtom_array_of_ne hlayout, hnot]
    cases value with
    | array items => exact absurd rfl (hvalue items)
    | untyped json => cases json <;> rfl
    | _ => rfl

theorem encodeItems_eq {ls : Layouts} {item : PropertyType} (h : ls.Writes item)
    (items : List TypedValue) :
    encodeItems item.layout (ls.itemEncodings items) = writeItems item.write items := by
  rw [Layouts.itemEncodings_eq]
  induction items with
  | nil => rfl
  | cons v rest ih => rw [List.map_cons, encodeItems, writeItems, h v, ih]

theorem VariantWriter.write_of_bare (w : VariantWriter) {value : TypedValue}
    (h : value.isBare = true) : w.write value = w.writeBare value := by
  cases value <;> first | rfl | cases h

namespace Layouts.Hold

variable {ls : Layouts}

/-- A bare value reaches the type that it is written by as if it had started there. -/
theorem encoding_bare {v : VariantType} (hold : ls.Hold (.variant v))
    (hparts : ∀ t ∈ (PropertyType.variant v).parts, ls.Writes t) {value : TypedValue}
    (hvalue : value.isBare = true) :
    ls.encoding value (.named v.name.id) = v.writer.writeBare value := by
  obtain ⟨w, hw, hget⟩ := hold.exists_variantLayout
  have hroom := (Layouts.Passed.start ls (.variant v)).room hold
  obtain ⟨left, hleft⟩ : ∃ k, ls.types.length = k + 1 :=
    ⟨ls.types.length - 1, by rw [List.length_nil] at hroom; omega⟩
  rw [Layouts.encoding_eq, Layouts.target, hleft, settle_of_bare hget hvalue]
  rcases bareLayout_eq hw hold.wellFormed value with ⟨u, hu, hlayout, hwrite⟩ | ⟨hbad, hwrite⟩
  · have hpassed := (Layouts.Passed.start ls (.variant v)).enter hold hu
    have hsettle : ls.settle value left u.layout = ls.target value u.layout := by
      refine settle_eq_settle value u (hold.part hu) _ hpassed left ls.types.length ?_ ?_ <;>
        rw [List.length_singleton] <;> omega
    rw [hwrite, ← hparts u hu value, hlayout, Layouts.encoding_eq, ← hsettle]
    rfl
  · rw [hbad, hwrite]
    rfl

/-- **Layouts that hold for a type write what the type writes.** -/
theorem writes {t : PropertyType} (hold : ls.Hold t) : ls.Writes t := by
  induction t using PropertyType.parts_induction with
  | step t ih =>
    have hparts : ∀ u ∈ t.parts, ls.Writes u := fun u hu => ih u hu (hold.part hu)
    intro value
    cases t with
    | scalar kind =>
      rw [PropertyType.layout, Layouts.encoding_eq, Layouts.target, settle_scalar]
      cases kind <;> cases value <;> rfl
    | untyped kind =>
      rw [PropertyType.layout, Layouts.encoding_eq, Layouts.target, settle_untyped]
      cases kind with
      | any => cases value <;> rfl
      | object =>
        cases value with
        | untyped json => cases json <;> rfl
        | _ => rfl
    | array item =>
      have hitem : ls.Writes item := hparts item (List.mem_singleton.mpr rfl)
      rw [PropertyType.layout, Layouts.encoding_eq, Layouts.target, settle_array,
        PropertyType.write_array]
      cases value with
      | array items =>
        show (do return Json.array (← encodeItems item.layout (ls.itemEncodings items))) = _
        rw [encodeItems_eq hitem]
        rfl
      | _ => exact encodeAtom_array item nofun
    | aliasType a =>
      -- an alias has its target's layout, so no table is asked for it
      rw [PropertyType.layout_aliasType, PropertyType.write_aliasType]
      exact hparts a.target (List.mem_singleton.mpr rfl) value
    | record r =>
      rw [PropertyType.layout, Layouts.encoding_eq, Layouts.target, settle_record hold,
        PropertyType.write_record]
      cases value with
      | record values =>
        have hkeys : (r.fields.map Field.key).Nodup :=
          fieldFaults_eq_nil_iff.mp (hold.faultless _ (.refl _))
        have hfields := encodeFields_eq r.name.name values
          (fun f hf => hparts f.type (List.mem_map.mpr ⟨f, hf, rfl⟩)) hkeys
        show (do return Json.object (← encodeFields r.name.name (r.fields.map Field.layout)
          (ls.entryEncodings values))) = _
        rw [hfields]
        rfl
      | _ => rfl
    | enumeration e =>
      rw [PropertyType.layout, Layouts.encoding_eq, Layouts.target, settle_enumeration hold]
      cases value <;> rfl
    | variant v =>
      rw [PropertyType.layout, PropertyType.write_variant]
      obtain ⟨w, hw, hget⟩ := hold.exists_variantLayout
      -- a bare value goes on to the type that its case wraps; any other ends at the variant
      cases hvalue : value.isBare with
      | true => rw [hold.encoding_bare hparts hvalue, VariantWriter.write_of_bare _ hvalue]
      | false =>
        rw [Layouts.encoding_eq, Layouts.target, settle_of_not_bare hget hvalue]
        cases value with
        | case name values => exact encodeNamedCase_eq hw hold.wellFormed hparts name values
        | tagged tag values => exact encodeTagged_eq hw hold.wellFormed hparts tag values
        | _ => cases hvalue

end Layouts.Hold

/-! ## §5 Models -/

namespace Schema

variable {s : Schema}

/-- Where ids identify types, the layouts of a model without faults hold for its types, named or
not. -/
theorem layouts_hold_of_reaches (hfaults : s.faults = []) (hids : s.IdsIdentify)
    {t : PropertyType} (ht : s.Reaches t) : s.layouts.Hold t := by
  refine ⟨fun u hu i l hi hl => ?_, fun u hu => ?_⟩
  · exact get?_entries (mem_namedTypes_of_reaches hids (ht.trans hu) hi) hi hl
  · cases hi : u.id? with
    | some i =>
      exact faults_of_mem_namedTypes hfaults (mem_namedTypes_of_reaches hids (ht.trans hu) hi)
    | none => cases u <;> first | rfl | cases hi

theorem layouts_hold (hfaults : s.faults = []) (hids : s.IdsIdentify) {t : PropertyType}
    (ht : t ∈ s.namedTypes) : s.layouts.Hold t :=
  layouts_hold_of_reaches hfaults hids (reaches_of_mem_namedTypes ht)

/-- An alias goes by the layout of its target, and every other named type by its own. -/
theorem layoutOf_layouts {t : PropertyType} (ht : t ∈ s.namedTypes) {name : TypeName}
    (hname : t.name? = some name) : s.layouts.layoutOf name = t.layout := by
  have hi : t.id? = some name.id := by rw [PropertyType.id?, hname, Option.map_some]
  rw [Layouts.layoutOf, layouts, get?_entries_eq ht hi]
  cases t with
  | aliasType a => exact (PropertyType.layout_aliasType a).symm
  | scalar kind => cases hname
  | array item => cases hname
  | untyped kind => cases hname
  | _ =>
    obtain rfl := Option.some.inj hname
    rfl

/-- **The layouts of a valid model write what its types write.**  Where the ids of its named types
identify them, the layouts exist, and under the name of a type every value is written, or refused,
as the type itself says; in particular no id is ever looked up in vain or without end. -/
theorem encode_eq_write (hvalid : s.validate = .ok s) (hids : s.IdsIdentify) :
    ∃ ls, Layouts.ofSchema s = .ok ls ∧
      ∀ t ∈ s.namedTypes, ∀ name, t.name? = some name → ∀ value,
        ls.encode name value = t.write value ∧
          ∀ id, ls.encode name value ≠ .error (.unknownType id) ∧
            ls.encode name value ≠ .error (.endlessType id) := by
  obtain ⟨hfaults, -⟩ := validate_eq_ok_iff.mp hvalid
  refine ⟨s.layouts, Layouts.ofSchema_eq fun t ht => faults_of_mem_namedTypes hfaults ht, ?_⟩
  intro t ht name hname value
  have hencode : s.layouts.encode name value = t.write value := by
    rw [Layouts.encode, layoutOf_layouts ht hname]
    exact (layouts_hold hfaults hids ht).writes value
  refine ⟨hencode, fun id => ?_⟩
  rw [hencode]
  constructor <;> intro h <;> cases t.write_noLookup value _ h

/-- A size is a whole number or a word. -/
def sizeVariant : VariantType where
  name := .customType "Size"
  description := none
  discriminator := none
  cases := [
    ⟨"Integer", .kind (.scalar .integer), none, [⟨"value", .scalar .integer, true, none⟩]⟩,
    ⟨"String", .kind (.scalar .string), none, [⟨"value", .scalar .string, true, none⟩]⟩]
  defaultCase := none

/-- Sizes in a list, under a name of their own. -/
def sizesAlias : PropertyType :=
  .aliasType ⟨.property "sizes", none, .array (.variant sizeVariant)⟩

/-- The payload of an order. -/
def orderRecord : PropertyType :=
  .record ⟨.event "Track Order properties", none, [⟨"sizes", sizesAlias, true, none⟩]⟩

/-- A plan in which sizes stand in the model three times. -/
def sizedOrders : Schema where
  name := "Shop"
  metadata := .unknown
  customTypes := [("Size", .variant sizeVariant)]
  properties := [("sizes", sizesAlias)]
  rules := [⟨⟨.track, "Order", none⟩, .properties, .typed orderRecord⟩]

theorem sizedOrders_idsIdentify : sizedOrders.IdsIdentify := by
  refine .of_types [.variant sizeVariant, sizesAlias, orderRecord, .array (.variant sizeVariant),
    .scalar .integer, .scalar .string] ?_ ?_ (by decide)
  · simp [roots, sizedOrders, Payload.type?]
  · simp [PropertyType.parts, sizesAlias, orderRecord, sizeVariant, VariantType.allCases]

/-- Through the alias and the variant, a list of bare values comes out item by item. -/
theorem encode_eq_write_sizedOrders : ∃ ls, Layouts.ofSchema sizedOrders = .ok ls ∧
    ls.encode (.event "Track Order properties")
        (.record [("sizes", .array [.integer 38, .string "wide"])]) =
      .ok (.object [("sizes", .array [Json.ofInt64 38, .string "wide"])]) := by
  obtain ⟨ls, hls, hwrite⟩ := encode_eq_write (s := sizedOrders)
    (validate_eq_ok_iff.mpr ⟨rfl, rfl⟩) sizedOrders_idsIdentify
  have hmem : orderRecord ∈ sizedOrders.namedTypes :=
    List.mem_of_getElem? (i := 2) rfl
  exact ⟨ls, hls, (hwrite orderRecord hmem _ rfl _).1⟩

end Schema

end TrackingPlan
