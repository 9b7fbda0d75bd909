import TrackingPlan.Proofs.Layout.Refinement

/-!
# The order of fields in a value does not matter

A value holds its fields in some order, and the layout of a record or a case asks for them in its
own.  Two values that differ in the order of fields only (`TypedValue.Reordered`) are written as one
JSON value, or are refused for one kind of reason (`Layouts.encode_reordered`).

What is compared is the outcome of writing: the JSON value with the order of its keys, or the kind
of the error (`outcome`).  The text of an error may differ, for it may name the first of several
keys that are not declared.  Outcomes go through sequencing (`outcome_bind`), so it is enough to
show at each place where fields are looked at that keys are looked up and not walked over; the one
walk, for a key that is not declared, only tells whether there is one.

§1 outcomes · §2 reordered values · §3 objects · §4 values.
-/

namespace TrackingPlan

/-! ## §1 Outcomes -/

/-- **The kinds of errors**: what went wrong, and not where. -/
inductive EncodeErrorKind where
  | typeMismatch
  | missingField
  | unknownField
  | unknownCase
  | unknownType
  | endlessType
  | routing
deriving DecidableEq

/-- The kind of an error. -/
def EncodeError.kind : EncodeError → EncodeErrorKind
  | .typeMismatch _ _ => .typeMismatch
  | .missingField _ _ => .missingField
  | .unknownField _ _ => .unknownField
  | .unknownCase _ _ => .unknownCase
  | .unknownType _ => .unknownType
  | .endlessType _ => .endlessType
  | .routing _ => .routing

section Outcome

variable {α β : Type}

/-- **What comes of writing**: the result, or the kind of the error. -/
def outcome (result : Except EncodeError α) : Except EncodeErrorKind α :=
  result.mapError EncodeError.kind

@[simp] theorem outcome_ok (a : α) : outcome (.ok a : Except EncodeError α) = .ok a := rfl

@[simp] theorem outcome_error (e : EncodeError) :
    outcome (.error e : Except EncodeError α) = .error e.kind := rfl

/-- **Steps with one outcome, followed by steps with one outcome, have one outcome.** -/
theorem outcome_bind {x y : Except EncodeError α} {f g : α → Except EncodeError β}
    (h : outcome x = outcome y) (hnext : ∀ a, outcome (f a) = outcome (g a)) :
    outcome (x >>= f) = outcome (y >>= g) := by
  cases x with
  | error e =>
    cases y with
    | error e' =>
      have hkind : e.kind = e'.kind := Except.error.inj h
      show Except.error e.kind = Except.error e'.kind
      rw [hkind]
    | ok b => cases h
  | ok a =>
    cases y with
    | error e' => cases h
    | ok b =>
      obtain rfl : a = b := Except.ok.inj h
      exact hnext a

/-- Results with one outcome are one result, or errors of one kind. -/
theorem outcome_eq_iff {x y : Except EncodeError α} :
    outcome x = outcome y ↔ (∃ a, x = .ok a ∧ y = .ok a) ∨
      ∃ e e', x = .error e ∧ y = .error e' ∧ e.kind = e'.kind := by
  cases x <;> cases y <;> simp [eq_comm]

end Outcome

/-- **Encodings with one outcome** under each layout. -/
def Encoding.Alike (a b : Encoding) : Prop :=
  ∀ layout, outcome (a layout) = outcome (b layout)

theorem Encoding.Alike.refl (a : Encoding) : a.Alike a := fun _ => rfl

/-! ## §2 Reordered values -/

mutual
/-- **Values that differ in the order of fields only**, at any depth.  The keys of one object
differ from each other, as those of a map do. -/
inductive TypedValue.Reordered : TypedValue → TypedValue → Prop
  | refl (v : TypedValue) : TypedValue.Reordered v v
  | array {vs ws : List TypedValue} (items : ReorderedItems vs ws) :
      TypedValue.Reordered (.array vs) (.array ws)
  | record {vs us ws : Entries TypedValue} (distinct : vs.keys.Nodup) (moved : vs.Perm us)
      (fields : ReorderedFields us ws) : TypedValue.Reordered (.record vs) (.record ws)
  | case (name : String) {vs us ws : Entries TypedValue} (distinct : vs.keys.Nodup)
      (moved : vs.Perm us) (fields : ReorderedFields us ws) :
      TypedValue.Reordered (.case name vs) (.case name ws)
  | tagged (tag : Literal) {vs us ws : Entries TypedValue} (distinct : vs.keys.Nodup)
      (moved : vs.Perm us) (fields : ReorderedFields us ws) :
      TypedValue.Reordered (.tagged tag vs) (.tagged tag ws)

/-- Lists whose items differ so, one by one. -/
inductive ReorderedItems : List TypedValue → List TypedValue → Prop
  | nil : ReorderedItems [] []
  | cons {v w : TypedValue} {vs ws : List TypedValue} (item : TypedValue.Reordered v w)
      (rest : ReorderedItems vs ws) : ReorderedItems (v :: vs) (w :: ws)

/-- Fields in one order whose values differ so. -/
inductive ReorderedFields : Entries TypedValue → Entries TypedValue → Prop
  | nil : ReorderedFields [] []
  | cons (key : String) {v w : TypedValue} {vs ws : Entries TypedValue}
      (field : TypedValue.Reordered v w) (rest : ReorderedFields vs ws) :
      ReorderedFields ((key, v) :: vs) ((key, w) :: ws)
end

/-- **Keyed encodings that are found alike**: under each key both have one, or neither has. -/
def FoundAlike (a b : Entries Encoding) : Prop :=
  ∀ key, Option.Rel Encoding.Alike (a.get? key) (b.get? key)

/-! ## §3 Objects -/

section Objects

variable {a b : Entries Encoding} {owner : String} {fields : List FieldLayout}

/-- A key is found on both sides, or on none. -/
theorem FoundAlike.found (h : FoundAlike a b) (key : String) :
    (a.get? key = none ∧ b.get? key = none) ∨
      ∃ x y, a.get? key = some x ∧ b.get? key = some y ∧ x.Alike y := by
  have hkey := h key
  generalize a.get? key = x, b.get? key = y at hkey ⊢
  cases hkey with
  | none => exact .inl ⟨rfl, rfl⟩
  | some halike => exact .inr ⟨_, _, rfl, rfl, halike⟩

theorem FoundAlike.isSome_eq (h : FoundAlike a b) (key : String) :
    (a.get? key).isSome = (b.get? key).isSome := by
  rcases h.found key with ⟨ha, hb⟩ | ⟨x, y, ha, hb, -⟩
  · rw [ha, hb]
  · rw [ha, hb]
    rfl

theorem FoundAlike.mem_keys_iff (h : FoundAlike a b) (key : String) :
    key ∈ a.keys ↔ key ∈ b.keys := by
  rw [← Entries.get?_isSome_iff, ← Entries.get?_isSome_iff, h.isSome_eq]

theorem FoundAlike.without (h : FoundAlike a b) (key : String) :
    FoundAlike (a.filter (·.1 != key)) (b.filter (·.1 != key)) := by
  intro k
  rw [Entries.get?_filter a (· != key), Entries.get?_filter b (· != key)]
  split
  · exact h k
  · exact .none

/-- Which key is found not to be declared depends on the order; whether there is one does not. -/
theorem undeclaredKey?_isSome (fields : List FieldLayout) (h : FoundAlike a b) :
    (undeclaredKey? fields a).isSome = (undeclaredKey? fields b).isSome := by
  rw [Bool.eq_iff_iff, undeclaredKey?, undeclaredKey?, List.find?_isSome, List.find?_isSome]
  simp only [h.mem_keys_iff]

theorem outcome_writeFields (h : FoundAlike a b) : ∀ object : Json.Object,
    outcome (writeFields owner a fields object) = outcome (writeFields owner b fields object) := by
  induction fields with
  | nil => exact fun object => rfl
  | cons f rest ih =>
    intro object
    rw [writeFields, writeFields]
    rcases h.found f.key with ⟨ha, hb⟩ | ⟨x, y, ha, hb, halike⟩
    · rw [ha, hb]
      show outcome (if f.required then _ else _) = outcome (if f.required then _ else _)
      split
      · rfl
      · exact ih object
    · rw [ha, hb]
      exact outcome_bind (halike f.value) fun j => ih (object.insert f.key j)

theorem outcome_encodeFields (h : FoundAlike a b) :
    outcome (encodeFields owner fields a) = outcome (encodeFields owner fields b) := by
  have hundeclared := undeclaredKey?_isSome fields h
  unfold encodeFields
  cases ha : undeclaredKey? fields a with
  | none =>
    cases hb : undeclaredKey? fields b with
    | none => exact outcome_writeFields h []
    | some key =>
      rw [ha, hb] at hundeclared
      cases hundeclared
  | some key =>
    cases hb : undeclaredKey? fields b with
    | none =>
      rw [ha, hb] at hundeclared
      cases hundeclared
    | some key' => rfl

theorem outcome_encodeDiscriminator {key : String} {routed x y : Option Encoding}
    (h : Option.Rel Encoding.Alike x y) (slot : DiscriminatorSlot) :
    outcome (encodeDiscriminator owner key routed x slot) =
      outcome (encodeDiscriminator owner key routed y slot) := by
  cases h with
  | none => rfl
  | some halike =>
    cases slot with
    | fixed tag => rfl
    | supplied layout =>
      cases routed with
      | some encoding => rfl
      | none => exact halike layout

theorem outcome_encodeObjectCase (h : FoundAlike a b) (case : CaseLayout)
    (routed : Option Encoding) :
    outcome (encodeObjectCase owner case a routed) =
      outcome (encodeObjectCase owner case b routed) := by
  cases case with
  | bare name kind value => rfl
  | object name fields key slot =>
    unfold encodeObjectCase
    dsimp only
    rw [h.isSome_eq key]
    split
    · rfl
    · refine outcome_bind (outcome_encodeFields (h.without key)) fun object => ?_
      exact outcome_bind (outcome_encodeDiscriminator (h key) slot) fun tag => rfl

theorem outcome_encodeNamedCase (h : FoundAlike a b) (v : VariantLayout) (name : String) :
    outcome (encodeNamedCase v name a) = outcome (encodeNamedCase v name b) := by
  unfold encodeNamedCase
  dsimp only
  cases v.case? name with
  | none => rfl
  | some case =>
    cases case with
    | object _ _ _ _ => exact outcome_encodeObjectCase h _ none
    | bare _ _ wrapped =>
      dsimp only
      rcases h.found "value" with ⟨ha, hb⟩ | ⟨x, y, ha, hb, halike⟩
      · rw [ha, hb]
      · rw [ha, hb]
        exact halike wrapped

theorem outcome_encodeTagged (h : FoundAlike a b) (v : VariantLayout) (tag : Literal)
    (routed : Encoding) :
    outcome (encodeTagged v tag a routed) = outcome (encodeTagged v tag b routed) := by
  unfold encodeTagged
  dsimp only
  cases v.variant.route tag with
  | error e => rfl
  | ok c =>
    dsimp only
    cases v.case? c.name with
    | none => rfl
    | some case => exact outcome_encodeObjectCase h case (some routed)

theorem outcome_encodeItems {item : ValueLayout} {as bs : List Encoding}
    (h : List.Forall₂ Encoding.Alike as bs) :
    outcome (encodeItems item as) = outcome (encodeItems item bs) := by
  induction h with
  | nil => rfl
  | cons halike _ ih => exact outcome_bind (halike item) fun j => outcome_bind ih fun js => rfl

end Objects

/-! ## §4 Values -/

section Values

variable {ls : Layouts}

/-- Two values with parts that are not taken apart are refused alike. -/
theorem outcome_encodeAtom {v w : TypedValue} (hv : v.hasParts = true) (hw : w.hasParts = true)
    (target : Target) : outcome (encodeAtom target v) = outcome (encodeAtom target w) := by
  rw [encodeAtom_of_hasParts hv, encodeAtom_of_hasParts hw]
  rfl

/-- **Values of one shape are alike if they are where they are taken apart.** -/
theorem alike_of_writeAs {v w : TypedValue} (hshape : ∀ left layout,
    ls.settle v left layout = ls.settle w left layout)
    (hwrite : ∀ target, outcome (ls.writeAs v target) = outcome (ls.writeAs w target)) :
    (ls.encoding v).Alike (ls.encoding w) := by
  intro layout
  rw [Layouts.encoding_eq, Layouts.encoding_eq, Layouts.target, Layouts.target, hshape]
  exact outcome_bind rfl hwrite

/-- Fields are found wherever they have been moved to. -/
theorem FoundAlike.of_perm {vs us : Entries TypedValue} {b : Entries Encoding}
    (distinct : vs.keys.Nodup) (moved : vs.Perm us) (h : FoundAlike (ls.entryEncodings us) b) :
    FoundAlike (ls.entryEncodings vs) b := by
  intro key
  rw [Layouts.get?_entryEncodings, Entries.get?_eq_of_perm moved distinct,
    ← Layouts.get?_entryEncodings]
  exact h key

mutual
/-- **Reordered values are alike**, by recursion on how they differ. -/
theorem alike_of_reordered {v w : TypedValue} (h : v.Reordered w) :
    (ls.encoding v).Alike (ls.encoding w) := by
  cases h with
  | refl => exact .refl _
  | @array vs ws items =>
    have hrefused := outcome_encodeAtom (v := .array vs) (w := .array ws) rfl rfl
    refine alike_of_writeAs (settle_eq_of_shape rfl rfl rfl) fun target => ?_
    cases target with
    | array item =>
      exact outcome_bind (outcome_encodeItems (forall₂_of_reordered items)) fun js => rfl
    | _ =>
      simp only [Layouts.writeAs]
      exact hrefused _
  | @record vs us ws distinct moved fields =>
    have hrefused := outcome_encodeAtom (v := .record vs) (w := .record ws) rfl rfl
    have hfields := (foundAlike_of_reordered fields).of_perm distinct moved
    refine alike_of_writeAs (settle_eq_of_shape rfl rfl rfl) fun target => ?_
    cases target with
    | record r => exact outcome_bind (outcome_encodeFields hfields) fun object => rfl
    | _ =>
      simp only [Layouts.writeAs]
      exact hrefused _
  | @case name vs us ws distinct moved fields =>
    have hrefused := outcome_encodeAtom (v := .case name vs) (w := .case name ws) rfl rfl
    have hfields := (foundAlike_of_reordered fields).of_perm distinct moved
    refine alike_of_writeAs (settle_eq_of_shape rfl rfl rfl) fun target => ?_
    cases target with
    | variant x => exact outcome_encodeNamedCase hfields x name
    | _ =>
      simp only [Layouts.writeAs]
      exact hrefused _
  | @tagged tag vs us ws distinct moved fields =>
    have hrefused := outcome_encodeAtom (v := .tagged tag vs) (w := .tagged tag ws) rfl rfl
    have hfields := (foundAlike_of_reordered fields).of_perm distinct moved
    refine alike_of_writeAs (settle_eq_of_shape rfl rfl rfl) fun target => ?_
    cases target with
    | variant x => exact outcome_encodeTagged hfields x tag _
    | _ =>
      simp only [Layouts.writeAs]
      exact hrefused _

theorem forall₂_of_reordered {vs ws : List TypedValue} (h : ReorderedItems vs ws) :
    List.Forall₂ Encoding.Alike (ls.itemEncodings vs) (ls.itemEncodings ws) := by
  cases h with
  | nil => exact .nil
  | cons item rest => exact .cons (alike_of_reordered item) (forall₂_of_reordered rest)

theorem foundAlike_of_reordered {us ws : Entries TypedValue} (h : ReorderedFields us ws) :
    FoundAlike (ls.entryEncodings us) (ls.entryEncodings ws) := by
  cases h with
  | nil => exact fun key => .none
  | cons key field rest =>
    intro k
    rw [Layouts.entryEncodings, Layouts.entryEncodings, Entries.get?_cons, Entries.get?_cons]
    split
    · exact .some (alike_of_reordered field)
    · exact foundAlike_of_reordered rest k
end

/-- **The order of fields does not matter.**  Under every name, two values that differ in the order
of fields only are written as one JSON value, keys in one order and so with one text, or both are
refused, with errors of one kind. -/
theorem Layouts.encode_reordered (ls : Layouts) (name : TypeName) {value value' : TypedValue}
    (h : value.Reordered value') :
    (∃ json, ls.encode name value = .ok json ∧ ls.encode name value' = .ok json) ∨
      ∃ e e', ls.encode name value = .error e ∧ ls.encode name value' = .error e' ∧
        e.kind = e'.kind :=
  outcome_eq_iff.mp (alike_of_reordered h (ls.layoutOf name))

/-- A plan of parcels, with the addresses they go to. -/
def Schema.parcels : Schema where
  name := "parcels"
  metadata := .unknown
  customTypes := [("Parcel", .record ⟨.customType "Parcel", none, [
    ⟨"address", .record ⟨.nested (.customType "Parcel") "address", none, [
      ⟨"street", .scalar .string, true, none⟩,
      ⟨"country", .scalar .string, false, none⟩]⟩, true, none⟩,
    ⟨"weight", .scalar .integer, false, none⟩]⟩)]
  properties := []
  rules := []

/-- Weight before address, and country before street: both come out as they are declared. -/
theorem Layouts.encode_reordered_parcel :
    ∃ ls, Layouts.ofSchema Schema.parcels = .ok ls ∧
      ls.encode (.customType "Parcel") (.record [("weight", .integer 2),
          ("address", .record [("country", .string "fr"), ("street", .string "rue")])]) =
        .ok (.object [("address", .object [("street", .string "rue"), ("country", .string "fr")]),
          ("weight", Json.ofInt64 2)]) := by
  refine ⟨Schema.parcels.layouts, rfl, ?_⟩
  have hdeclared : Schema.parcels.layouts.encode (.customType "Parcel") (.record [
      ("address", .record [("street", .string "rue"), ("country", .string "fr")]),
      ("weight", .integer 2)]) =
        .ok (.object [("address", .object [("street", .string "rue"), ("country", .string "fr")]),
          ("weight", Json.ofInt64 2)]) := rfl
  have hreordered : TypedValue.Reordered
      (.record [("address", .record [("street", .string "rue"), ("country", .string "fr")]),
        ("weight", .integer 2)])
      (.record [("weight", .integer 2),
        ("address", .record [("country", .string "fr"), ("street", .string "rue")])]) := by
    refine .record (by decide) (.swap _ _ []) (.cons _ (.refl _) (.cons _ ?_ .nil))
    exact .record (by decide) (.swap _ _ []) (.cons _ (.refl _) (.cons _ (.refl _) .nil))
  rcases encode_reordered Schema.parcels.layouts (.customType "Parcel") hreordered with
    ⟨json, hjson, hjson'⟩ | ⟨e, _, he, -⟩
  · rw [hjson', ← hjson, hdeclared]
  · rw [hdeclared] at he
    cases he

end Values

end TrackingPlan
