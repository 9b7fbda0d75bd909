import TrackingPlan.Proofs.Layout.RoutedLiterals

/-!
# Bare values and the cases that wrap them

A value of an alternation of kinds is handed over bare, or in the case for its kind.  Either way the
same is written: the value itself, with no object around it.  A bare value finds its case by its
kind (`ValueKind.servedBy?`): there is a case of that very kind, or the value is an integer and
there is a case for numbers.  A list may come item by item or as opaque data, and an object only as
opaque data; both have a kind like any scalar.

§1 the case of a kind · §2 the layouts of the cases · §3 what is written for a bare value ·
§4 bare and wrapped values.
-/

namespace TrackingPlan

/-! ## §1 The case of a kind -/

/-- **The kind of the case that a bare value falls to**: its own if there is such a case; and the
numbers take integers that have none. -/
def ValueKind.servedBy? (kinds : List ValueKind) (k : ValueKind) : Option ValueKind :=
  if k ∈ kinds then some k
  else if k = .scalar .integer ∧ .scalar .number ∈ kinds then some (.scalar .number)
  else none

namespace ValueKind

variable {kinds : List ValueKind} {k k' : ValueKind}

/-- The kind that serves is the kind itself, or that of numbers for an integer. -/
theorem servedBy?_eq_some_iff : servedBy? kinds k = some k' ↔
    k' ∈ kinds ∧ (k' = k ∨ k ∉ kinds ∧ k = .scalar .integer ∧ k' = .scalar .number) := by
  unfold servedBy?
  by_cases hmem : k ∈ kinds
  · rw [if_pos hmem, Option.some.injEq]
    constructor
    · rintro rfl
      exact ⟨hmem, .inl rfl⟩
    · rintro ⟨-, rfl | ⟨hnot, -⟩⟩
      · rfl
      · exact absurd hmem hnot
  · rw [if_neg hmem]
    by_cases hinteger : k = .scalar .integer ∧ .scalar .number ∈ kinds
    · rw [if_pos hinteger, Option.some.injEq]
      constructor
      · rintro rfl
        exact ⟨hinteger.2, .inr ⟨hmem, hinteger.1, rfl⟩⟩
      · rintro ⟨hk', rfl | ⟨-, -, rfl⟩⟩
        · exact absurd hk' hmem
        · rfl
    · rw [if_neg hinteger]
      refine iff_of_false nofun ?_
      rintro ⟨hk', rfl | ⟨-, rfl, rfl⟩⟩
      · exact hmem hk'
      · exact hinteger ⟨rfl, hk'⟩

/-- A test that one kind alone passes finds the case of that kind. -/
theorem find?_toCase {p : VariantCase → Bool} (hp : ∀ j ∈ kinds, p j.toCase = true ↔ j = k) :
    (kinds.map toCase).find? p = if k ∈ kinds then some k.toCase else none := by
  induction kinds with
  | nil => rfl
  | cons j rest ih =>
    obtain ⟨hj, hrest⟩ := List.forall_mem_cons.mp hp
    rw [List.map_cons, List.find?_cons]
    by_cases hjk : j = k
    · rw [hj.mpr hjk, if_pos (by rw [hjk]; exact List.mem_cons_self), hjk]
    · have hfalse : p j.toCase = false := by simpa using mt hj.mp hjk
      rw [hfalse, ih hrest]
      simp [Ne.symm hjk]

end ValueKind

/-- **A bare value is routed to the case of the kind that serves its own.** -/
theorem PrimitiveNode.ResolvesTo.routeKind?_eq {node : PrimitiveNode} {v : VariantType}
    (h : node.ResolvesTo v) (k : ValueKind) :
    v.routeKind? k = (k.servedBy? node.kinds).map ValueKind.toCase := by
  obtain ⟨rfl, -, -⟩ := h
  have hexact : ∀ {p : VariantCase → Bool}, (∀ j : ValueKind, p j.toCase = true ↔ j = k) →
      (node.kinds.map ValueKind.toCase).find? p =
        if k ∈ node.kinds then some k.toCase else none :=
    fun hp => ValueKind.find?_toCase fun j _ => hp j
  cases k with
  | object =>
    refine (hexact fun j => ?_).trans ?_
    · cases j <;> simp [ValueKind.toCase, VariantCase.valueKind?]
    · by_cases hmem : ValueKind.object ∈ node.kinds <;> simp [ValueKind.servedBy?, hmem]
  | array =>
    refine (hexact fun j => ?_).trans ?_
    · cases j <;> simp [ValueKind.toCase, VariantCase.valueKind?]
    · by_cases hmem : ValueKind.array ∈ node.kinds <;> simp [ValueKind.servedBy?, hmem]
  | scalar kind =>
    have hown : (node.kinds.map ValueKind.toCase).find? (fun c => c.scalarKind? == some kind) =
        if .scalar kind ∈ node.kinds then some (ValueKind.toCase (.scalar kind)) else none :=
      hexact fun j => by cases j <;> simp [ValueKind.toCase, VariantCase.scalarKind?]
    show ((node.kinds.map ValueKind.toCase).find? fun c => c.scalarKind? == some kind).or
      ((node.kinds.map ValueKind.toCase).find? fun c => c.scalarKind?.any (·.accepts kind)) = _
    rw [hown]
    by_cases hmem : ValueKind.scalar kind ∈ node.kinds
    · rw [if_pos hmem, Option.some_or, ValueKind.servedBy?, if_pos hmem, Option.map_some]
    · rw [if_neg hmem, Option.none_or, ValueKind.servedBy?, if_neg hmem]
      -- without a case of its own, only an integer is accepted, by the case for numbers
      by_cases hinteger : kind = .integer
      · obtain rfl := hinteger
        have haccepts : ∀ j ∈ node.kinds,
            j.toCase.scalarKind?.any (·.accepts .integer) = true ↔ j = .scalar .number := by
          intro j hj
          cases j with
          | scalar other =>
            cases other with
            | integer => exact absurd hj hmem
            | _ => simp [ValueKind.toCase, VariantCase.scalarKind?, ScalarKind.accepts]
          | _ => simp [ValueKind.toCase, VariantCase.scalarKind?]
        rw [ValueKind.find?_toCase haccepts]
        by_cases hnumber : ValueKind.scalar .number ∈ node.kinds <;> simp [hnumber]
      · rw [if_neg fun h => hinteger (ValueKind.scalar.inj h.1), Option.map_none]
        refine List.find?_eq_none.mpr fun c hc => ?_
        obtain ⟨j, hj, rfl⟩ := List.mem_map.mp hc
        cases j with
        | scalar other =>
          have hne : other ≠ kind := fun heq => hmem (heq ▸ hj)
          simp [ValueKind.toCase, VariantCase.scalarKind?, ScalarKind.accepts, hne, hinteger]
        | _ => simp [ValueKind.toCase, VariantCase.scalarKind?]

/-! ## §2 The layouts of the cases -/

/-- What the case of a kind is written by. -/
def ValueKind.target : ValueKind → Target
  | .scalar kind => .scalar kind
  | .object => .untyped .object
  | .array => .array (.untyped .any)

section Cases

variable {ls : Layouts} {x : TypedValue}

/-- The type that a case wraps is no named type, so that nothing is looked up for it. -/
theorem ValueKind.settle_wrappedType (k : ValueKind) (left : Nat) :
    ls.settle x left k.wrappedType.layout = .ok k.target := by
  cases k with
  | scalar kind => exact settle_scalar left kind
  | object => exact settle_untyped left .object
  | array => exact settle_array left (.untyped .any)

theorem ValueKind.encoding_wrappedType (k : ValueKind) :
    ls.encoding x k.wrappedType.layout = ls.writeAs x k.target :=
  Layouts.encoding_of_target (k.settle_wrappedType ls.types.length)

/-- A value that has a kind is bare. -/
theorem TypedValue.isBare_of_valueKind? {k : ValueKind} (hx : x.valueKind? = some k) :
    x.isBare = true := by
  cases x <;> first | rfl | cases hx

end Cases

/-- **The layouts of an alternation of kinds**: it is found under its id, and each kind has a case
that wraps one value. -/
structure PrimitiveNode.HeldBy (node : PrimitiveNode) (ls : Layouts) (v : VariantType)
    (w : VariantLayout) : Prop where
  variant : w.variant = v
  found : ls.types.get? v.name.id = some (.variant w)
  direct : ls.layoutOf v.name = .named v.name.id
  cases : ∀ k ∈ node.kinds, w.case? k.caseName = some (.bare k.caseName k k.wrappedType.layout)

section Alternations

variable {node : PrimitiveNode} {v : VariantType} {s : Schema} {ls : Layouts} {w : VariantLayout}
  {x : TypedValue} {k k' : ValueKind}

theorem PrimitiveNode.exists_heldBy (hnode : node.resolve = .ok v)
    (hls : Layouts.ofSchema s = .ok ls) (hv : .variant v ∈ s.namedTypes) :
    ∃ w, node.HeldBy ls v w := by
  have hres := PrimitiveNode.resolvesTo_of_resolve hnode
  have hwell := hres.wellFormed
  obtain ⟨w, hw, hget⟩ := Layouts.exists_variantLayout hls hv
    fun c hc => VariantType.exists_caseLayout (hwell.fits c hc)
  refine ⟨w, hw.variant, hget, ?_, fun k hk => ?_⟩
  · rw [Layouts.eq_of_ofSchema hls]
    exact Schema.layoutOf_layouts hv rfl
  · have hmem : k.toCase ∈ v.allCases := by
      rw [hres.eq]
      exact List.mem_append_left _ (List.mem_map_of_mem hk)
    have hlayout : v.caseLayout k.toCase = .ok (.bare k.caseName k k.wrappedType.layout) := by
      rw [hres.eq]
      rfl
    refine (hw.case?_of_mem hwell.names hmem).trans ?_
    rw [hlayout]
    rfl

/-! ## §3 What is written for a bare value -/

/-- Items are written one by one, in order. -/
theorem encodeItems_eq_ok_iff {item : ValueLayout} {items : List TypedValue} {js : List Json} :
    encodeItems item (ls.itemEncodings items) = .ok js ↔
      List.Forall₂ (fun y j => ls.encoding y item = .ok j) items js := by
  induction items generalizing js with
  | nil =>
    rw [List.forall₂_nil_left_iff]
    exact ⟨fun h => (Except.ok.inj h).symm, fun h => congrArg Except.ok h.symm⟩
  | cons y rest ih =>
    rw [List.forall₂_cons_left_iff]
    constructor
    · intro h
      obtain ⟨j, hj, h⟩ := except_bind_eq_ok.mp h
      obtain ⟨others, hothers, h⟩ := except_bind_eq_ok.mp h
      obtain rfl := except_pure_eq_ok.mp h
      exact ⟨j, others, hj, ih.mp hothers, rfl⟩
    · rintro ⟨j, others, hj, hothers, rfl⟩
      exact except_bind_eq_ok.mpr ⟨j, hj, except_bind_eq_ok.mpr ⟨others, ih.mpr hothers, rfl⟩⟩

/-- **What a bare value is in JSON**: a scalar is itself, opaque data stays as it is, and a list has
its items written one by one, each as what it may be anywhere. -/
def Layouts.OwnJson (ls : Layouts) : TypedValue → Json → Prop
  | .array items, json => ∃ js,
      List.Forall₂ (fun y j => ls.encoding y (.untyped .any) = .ok j) items js ∧ json = .array js
  | .untyped own, json => json = own
  | x, json => x.scalarJson? = some json

/-- **What a case wraps is written as the value itself.** -/
theorem ValueKind.writeAs_target (hx : x.valueKind? = some k)
    (hk : k' = k ∨ k = .scalar .integer ∧ k' = .scalar .number) {json : Json} :
    ls.writeAs x k'.target = .ok json ↔ ls.OwnJson x json := by
  have hscalar : ∀ own : Json, Except.ok own = (.ok json : Except EncodeError Json) ↔
      some own = some json := fun own => by rw [Except.ok.injEq, Option.some.injEq]
  cases x with
  | array items =>
    obtain rfl : k = .array := (Option.some.inj hx).symm
    obtain rfl : k' = .array := hk.resolve_right nofun
    constructor
    · intro h
      obtain ⟨js, hjs, h⟩ := except_bind_eq_ok.mp h
      exact ⟨js, encodeItems_eq_ok_iff.mp hjs, (except_pure_eq_ok.mp h).symm⟩
    · rintro ⟨js, hjs, rfl⟩
      exact except_bind_eq_ok.mpr ⟨js, encodeItems_eq_ok_iff.mpr hjs, rfl⟩
  | untyped own =>
    cases own with
    | array items =>
      obtain rfl : k = .array := (Option.some.inj hx).symm
      obtain rfl : k' = .array := hk.resolve_right nofun
      exact ⟨fun h => (Except.ok.inj h).symm, fun h => congrArg Except.ok h.symm⟩
    | object entries =>
      obtain rfl : k = .object := (Option.some.inj hx).symm
      obtain rfl : k' = .object := hk.resolve_right nofun
      exact ⟨fun h => (Except.ok.inj h).symm, fun h => congrArg Except.ok h.symm⟩
    | _ => cases hx
  | integer i =>
    -- an integer is written alike by its own case and by that of numbers
    obtain rfl : k = .scalar .integer := (Option.some.inj hx).symm
    rcases hk with rfl | ⟨-, rfl⟩
    · exact hscalar _
    · exact hscalar _
  | bool b =>
    obtain rfl : k = .scalar .boolean := (Option.some.inj hx).symm
    obtain rfl : k' = .scalar .boolean := hk.resolve_right nofun
    exact hscalar _
  | number n =>
    obtain rfl : k = .scalar .number := (Option.some.inj hx).symm
    obtain rfl : k' = .scalar .number := hk.resolve_right nofun
    exact hscalar _
  | string text =>
    obtain rfl : k = .scalar .string := (Option.some.inj hx).symm
    obtain rfl : k' = .scalar .string := hk.resolve_right nofun
    exact hscalar _
  | _ => cases hx

/-- Of bare values only an opaque object is written as an object, and as no other than itself. -/
theorem Layouts.OwnJson.eq_untyped {json : Json} (h : ls.OwnJson x json)
    {entries : Json.Object} (hobject : json = .object entries) : x = .untyped json := by
  subst hobject
  cases x with
  | untyped own => exact congrArg TypedValue.untyped (Eq.symm h)
  | array items =>
    obtain ⟨js, -, hjs⟩ := h
    cases hjs
  | number n =>
    have hjson : Json.ofBinary64 n = .object entries := Option.some.inj h
    unfold Json.ofBinary64 at hjson
    split at hjson <;> cases hjson
  | _ => cases h

/-- **A list of opaque items is written like the opaque list.** -/
theorem Layouts.encoding_array_untyped (ls : Layouts) (js : List Json) :
    ls.encoding (.array (js.map .untyped)) (.array (.untyped .any)) = .ok (.array js) := by
  have hitem : ∀ j : Json, ls.encoding (.untyped j) (.untyped .any) = .ok j := by
    intro j
    rw [encoding_of_target (settle_untyped ls.types.length .any)]
    rfl
  have hitems : encodeItems (.untyped .any) (ls.itemEncodings (js.map .untyped)) = .ok js := by
    rw [encodeItems_eq_ok_iff, List.forall₂_map_left_iff, List.forall₂_same]
    exact fun j _ => hitem j
  rw [encoding_of_target (settle_array ls.types.length (.untyped .any))]
  exact except_bind_eq_ok.mpr ⟨js, hitems, rfl⟩

/-! ## §4 Bare and wrapped values -/

namespace PrimitiveNode.HeldBy

/-- A bare value passes the alternation once; the alternation is held, so the bound allows it. -/
theorem target_eq (h : node.HeldBy ls v w) (hx : x.valueKind? = some k) :
    ∃ left, ls.target x (.named v.name.id) = (w.bareLayout x).bind (ls.settle x left) := by
  obtain ⟨left, hleft⟩ : ∃ left, ls.types.length = left + 1 :=
    Nat.exists_eq_add_one.mpr (List.length_pos_of_mem (Entries.mem_of_get? h.found))
  refine ⟨left, ?_⟩
  rw [Layouts.target, hleft]
  exact settle_of_bare h.found (TypedValue.isBare_of_valueKind? hx) left

/-- **A bare value is written as what its case wraps.** -/
theorem encode_bare (h : node.HeldBy ls v w) (hres : node.ResolvesTo v)
    (hx : x.valueKind? = some k) (hserved : k.servedBy? node.kinds = some k') :
    ls.encode v.name x = ls.writeAs x k'.target := by
  obtain ⟨hmem, -⟩ := ValueKind.servedBy?_eq_some_iff.mp hserved
  have hlayout : w.bareLayout x = .ok k'.wrappedType.layout := by
    have hcase : w.case? k'.toCase.name = some (.bare k'.caseName k' k'.wrappedType.layout) :=
      h.cases k' hmem
    unfold VariantLayout.bareLayout
    rw [hx, Option.bind_some, h.variant, hres.routeKind?_eq, hserved, Option.map_some]
    dsimp only
    rw [hcase]
  obtain ⟨left, htarget⟩ := h.target_eq hx
  rw [hlayout] at htarget
  rw [Layouts.encode, h.direct]
  exact Layouts.encoding_of_target (htarget.trans (k'.settle_wrappedType left))

/-- A wrapped value is written by its case. -/
theorem encode_wrapped (h : node.HeldBy ls v w) (hmem : k' ∈ node.kinds) (x : TypedValue) :
    ls.encode v.name (.case k'.caseName [("value", x)]) = ls.writeAs x k'.target := by
  have hget : (ls.entryEncodings [("value", x)]).get? "value" = some (ls.encoding x) := rfl
  rw [Layouts.encode, h.direct,
    Layouts.encoding_of_target (settle_of_not_bare h.found rfl ls.types.length),
    ← k'.encoding_wrappedType]
  exact encodeNamedCase_of_bare (h.cases k' hmem) hget

/-- A bare value of a kind that no case serves is refused. -/
theorem encode_unserved (h : node.HeldBy ls v w) (hres : node.ResolvesTo v)
    (hx : x.valueKind? = some k) (hserved : k.servedBy? node.kinds = none) :
    ls.encode v.name x = .error (.typeMismatch ("variant " ++ ticked v.name.name) x.kindName) := by
  have hlayout : w.bareLayout x = mismatch w.describe x := by
    unfold VariantLayout.bareLayout
    rw [hx, Option.bind_some, h.variant, hres.routeKind?_eq, hserved]
    rfl
  obtain ⟨left, htarget⟩ := h.target_eq hx
  rw [Layouts.encode, h.direct, Layouts.encoding_eq, htarget, hlayout, VariantLayout.describe,
    h.variant]
  rfl

end PrimitiveNode.HeldBy

/-- **A bare value and the value in its case are written alike.**  The case is that of the value's
own kind if the alternation has it, and else that of numbers for an integer; without one the value
is refused.  What is written is the value itself, and a list of opaque items is written like the
opaque list. -/
theorem Layouts.encode_bare_agrees (hnode : node.resolve = .ok v)
    (hls : Layouts.ofSchema s = .ok ls) (hv : .variant v ∈ s.namedTypes)
    (hx : x.valueKind? = some k) :
    v.routeKind? k = (k.servedBy? node.kinds).map ValueKind.toCase ∧
    (∀ c, v.routeKind? k = some c →
      ls.encode v.name x = ls.encode v.name (.case c.name [("value", x)]) ∧
      ∀ json, (ls.encode v.name x = .ok json ↔ ls.OwnJson x json) ∧
        ∀ entries, ls.encode v.name x = .ok json → json = .object entries → x = .untyped json) ∧
    (v.routeKind? k = none → ls.encode v.name x =
      .error (.typeMismatch ("variant " ++ ticked v.name.name) x.kindName)) ∧
    ∀ js, ls.encoding (.array (js.map .untyped)) (.array (.untyped .any)) =
      ls.encoding (.untyped (.array js)) (.array (.untyped .any)) := by
  have hres := PrimitiveNode.resolvesTo_of_resolve hnode
  obtain ⟨w, hheld⟩ := PrimitiveNode.exists_heldBy hnode hls hv
  have hroute := hres.routeKind?_eq k
  refine ⟨hroute, fun c hc => ?_, fun hnone => ?_, fun js => ?_⟩
  · rw [hroute] at hc
    obtain ⟨k', hserved, rfl⟩ := Option.map_eq_some_iff.mp hc
    obtain ⟨hmem, hkind⟩ := ValueKind.servedBy?_eq_some_iff.mp hserved
    have hbare := hheld.encode_bare hres hx hserved
    have hown : ∀ json, ls.encode v.name x = .ok json ↔ ls.OwnJson x json := by
      intro json
      rw [hbare]
      exact ValueKind.writeAs_target hx (hkind.imp_right And.right)
    refine ⟨hbare.trans (hheld.encode_wrapped hmem x).symm, fun json => ⟨hown json, ?_⟩⟩
    exact fun entries hjson hobject => ((hown json).mp hjson).eq_untyped hobject
  · rw [hroute, Option.map_eq_none_iff] at hnone
    exact hheld.encode_unserved hres hx hnone
  · rw [ls.encoding_array_untyped,
      Layouts.encoding_of_target (settle_array ls.types.length (.untyped .any))]
    rfl

/-- A measure is a number, or the list of its readings. -/
def measureNode : PrimitiveNode where
  name := .property "measure"
  description := none
  kinds := [.scalar .number, .array]

/-- The variant of measures. -/
def measureVariant : VariantType :=
  ⟨.property "measure", none, none,
    [ValueKind.toCase (.scalar .number), ValueKind.toCase .array], none⟩

/-- A plan of measures. -/
def Schema.measures : Schema where
  name := "measures"
  metadata := .unknown
  customTypes := []
  properties := [("measure", .variant measureVariant)]
  rules := []

/-- A whole number is a measure, written as itself, and a text is none. -/
theorem Layouts.encode_bare_agrees_measure :
    Schema.measures.layouts.encode (.property "measure") (.integer 2) =
      Schema.measures.layouts.encode (.property "measure")
        (.case "NumberValue" [("value", .integer 2)]) ∧
    Schema.measures.layouts.encode (.property "measure") (.integer 2) = .ok (Json.ofInt64 2) ∧
    Schema.measures.layouts.encode (.property "measure") (.string "two") =
      .error (.typeMismatch ("variant " ++ ticked "measure") "string") := by
  have hnode : measureNode.resolve = .ok measureVariant := rfl
  have hls : Layouts.ofSchema Schema.measures = .ok Schema.measures.layouts := rfl
  have hfirst : Schema.measures.namedTypes[0]? = some (.variant measureVariant) := rfl
  have hv := List.mem_of_getElem? hfirst
  have hinteger : (TypedValue.integer 2).valueKind? = some (.scalar .integer) := rfl
  have hstring : (TypedValue.string "two").valueKind? = some (.scalar .string) := rfl
  obtain ⟨-, hserved, -⟩ := encode_bare_agrees hnode hls hv hinteger
  obtain ⟨hwrapped, hown⟩ := hserved (ValueKind.toCase (.scalar .number)) rfl
  obtain ⟨-, -, hrefused, -⟩ := encode_bare_agrees hnode hls hv hstring
  exact ⟨hwrapped, (hown _).1.mpr rfl, hrefused rfl⟩

end Alternations

end TrackingPlan
