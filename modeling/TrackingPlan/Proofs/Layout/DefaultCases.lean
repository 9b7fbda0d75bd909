import TrackingPlan.Proofs.Build.Validity
import TrackingPlan.Proofs.Layout.RoutedLiterals
import Mathlib.Data.Fintype.EquivFin

/-!
# Default cases of accepted variants

Validation looks at a tagged case in full, and lets a default case pass by its tag alone.  So in a
model that is put together by hand the default case may have a field under the discriminator's key,
which no value can fill; and a case that is tagged as default may stand among the others, where
routing does not look for it.  All else is as it should be, and in a model that was built from a
document neither happens.

§1 the discriminator and the fields of cases · §2 finding the default case.
-/

namespace TrackingPlan

variable {s : Schema} {v : VariantType} {d : Discriminator} {c : VariantCase}

/-! ## §1 The discriminator and the fields of cases -/

/-- Only a default case may have a field under the discriminator's key. -/
theorem VariantType.WellFormed.tag_of_mem_keys (h : v.WellFormed) (hd : v.discriminator = some d)
    (hc : c ∈ v.allCases) (hkey : d.key ∈ c.fields.map Field.key) : c.tag = .fallback := by
  have hfits := h.fits c hc
  unfold VariantType.Fits at hfits
  rw [hd] at hfits
  cases htag : c.tag with
  | fallback => rfl
  | literal l =>
    rw [htag] at hfits
    exact absurd hkey hfits.2
  | kind k =>
    rw [htag] at hfits
    exact hfits.elim

/-- What an alternation resolves to has no field there at all. -/
theorem VariantType.IsResolved.absent (h : v.IsResolved) (hd : v.discriminator = some d)
    (hc : c ∈ v.allCases) : d.key ∉ c.fields.map Field.key := by
  obtain ⟨node, hnode⟩ := h
  cases node with
  | discriminated node =>
    have hres := DiscriminatedNode.resolvesTo_of_resolve hnode
    exact hres.discriminator_key hd ▸ hres.discriminator_not_mem hc
  | primitive node =>
    rw [(PrimitiveNode.resolvesTo_of_resolve hnode).eq] at hd
    cases hd

/-- **What has become of the fields of a case** once the value is written: the discriminator comes
after them all, a field under its own key is left out, and any other holds what was supplied. -/
structure Layouts.KeepsFields (ls : Layouts) (d : Discriminator) (c : VariantCase)
    (value : TypedValue) (object : Json.Object) : Prop where
  apart : d.key ∉ object.keys
  unfilled : ∀ f ∈ c.fields, f.key = d.key → f.required = false
  filled : ∀ f ∈ c.fields, f.key ≠ d.key → ∀ x, value.fields.get? f.key = some x →
    ∃ j, ls.encoding x f.type.layout = .ok j ∧ object.get? f.key = some j

theorem Layouts.HoldsCases.exists_object {ls : Layouts} (h : ls.HoldsCases v d)
    (hkeys : ∀ c ∈ v.allCases, (c.fields.map Field.key).Nodup) {value : TypedValue}
    (hvalue : value.isBare = false) {json : Json} (hjson : ls.encode v.name value = .ok json) :
    ∃ c object tag, v.chosenCase? value = some c ∧ json = .object (object ++ [(d.key, tag)]) ∧
      ls.KeepsFields d c value object := by
  obtain ⟨c, hc, -, object, tag, hobject, -, hnew, rfl⟩ := (h.encode_eq_ok_iff hvalue).mp hjson
  have hmem := VariantType.mem_allCases_of_chosenCase? hc
  obtain ⟨-, hwritten⟩ := encodeFields_eq_ok_iff.mp hobject
  refine ⟨c, object, tag, hc, rfl, hnew, fun f hf hkey => ?_, fun f hf hkey x hx => ?_⟩
  · -- a required field would have been missed, for nothing is supplied under this key
    by_contra hrequired
    have hwritable := exists_writeFields_iff.mp ⟨object, hwritten⟩ f.layout
      (List.mem_map_of_mem hf)
    have hsupplied := hwritable.present (Bool.not_eq_false _ ▸ hrequired)
    exact ls.not_mem_keys_kept value.fields d.key (hkey ▸ hsupplied)
  · have hget : (ls.entryEncodings (value.fields.filter (·.1 != d.key))).get? f.layout.key =
        some (ls.encoding x) := by
      have hkept := Entries.get?_filter value.fields (· != d.key) f.key
      rw [if_pos (bne_iff_ne.mpr hkey)] at hkept
      rw [Layouts.get?_entryEncodings]
      show (Entries.get? _ f.key).map _ = _
      rw [hkept, hx]
      rfl
    have hnodup : ((c.fields.map Field.layout).map FieldLayout.key).Nodup := by
      rw [List.map_map]
      exact hkeys c hmem
    exact get?_writeFields_of_mem hnodup (List.mem_map_of_mem hf) hget hwritten

/-- **In an accepted model only a default case can have a field under the discriminator's key**, and
none has in a model that was built from a document.  Whatever is written by a case, the
discriminator stands after its fields and writes over none of them; a field under its key is never
filled. -/
theorem Schema.discriminator_apart (hvalid : s.validate = .ok s) (hv : .variant v ∈ s.namedTypes)
    (hd : v.discriminator = some d) :
    (∀ c ∈ v.allCases, d.key ∈ c.fields.map Field.key → c.tag = .fallback) ∧
      ((∃ doc, Schema.ofDocument doc = .ok s) →
        ∀ c ∈ v.allCases, d.key ∉ c.fields.map Field.key) ∧
      ∃ ls, Layouts.ofSchema s = .ok ls ∧ ∀ value json, value.isBare = false →
        ls.encode v.name value = .ok json →
          ∃ c object tag, v.chosenCase? value = some c ∧
            json = .object (object ++ [(d.key, tag)]) ∧ ls.KeepsFields d c value object := by
  obtain ⟨hfaults, -⟩ := Schema.validate_eq_ok_iff.mp hvalid
  have hwell := VariantType.faults_eq_nil_iff.mp (Schema.faults_of_mem_namedTypes hfaults hv)
  have hls := Layouts.ofSchema_eq fun t ht => Schema.faults_of_mem_namedTypes hfaults ht
  refine ⟨fun c hc hkey => hwell.tag_of_mem_keys hd hc hkey, ?_, s.layouts, hls, ?_⟩
  · rintro ⟨doc, hdoc⟩ c hc
    exact (Schema.isResolved_of_mem hdoc hv).absent hd hc
  · intro value json hvalue hjson
    have hholds := Layouts.holdsCases hfaults hls hv hd
    exact hholds.exists_object hwell.keys hvalue hjson

/-- The pending contact is written with its state after the channel. -/
theorem Schema.discriminator_apart_contacts : Schema.contacts.validate = .ok Schema.contacts ∧
    ∃ ls, Layouts.ofSchema Schema.contacts = .ok ls ∧ ∃ c, ∃ object : Json.Object, ∃ tag,
      contactVariant.defaultCase = some c ∧
        ls.encode (.customType "contact")
            (.tagged (.string "pending") [("channel", .string "mail")]) =
          .ok (.object (object ++ [("verified", tag)])) ∧
        object.get? "channel" = some (.string "mail") := by
  have hvalid : Schema.contacts.validate = .ok Schema.contacts := rfl
  have hv : .variant contactVariant ∈ Schema.contacts.namedTypes :=
    List.mem_of_getElem? (i := 0) rfl
  obtain ⟨-, -, ls, hls, hwritten⟩ := Schema.discriminator_apart hvalid hv rfl
  obtain rfl := Layouts.eq_of_ofSchema hls
  have hjson : Schema.contacts.layouts.encode (.customType "contact")
      (.tagged (.string "pending") [("channel", .string "mail")]) =
        .ok (.object [("channel", .string "mail"), ("verified", .string "pending")]) := rfl
  obtain ⟨c, object, tag, hc, heq, hkept⟩ := hwritten _ _ rfl hjson
  obtain rfl := Option.some.inj hc
  obtain ⟨j, hj, hget⟩ := hkept.filled _ List.mem_cons_self (by decide) (.string "mail") rfl
  obtain rfl := Except.ok.inj hj
  exact ⟨hvalid, _, hls, _, object, tag, rfl, by rw [hjson, heq], hget⟩

/-- Contacts by channel, those by other channels with a field for it of their own. -/
def channelVariant : VariantType where
  name := .customType "contact"
  description := none
  discriminator := some ⟨"channel", .scalar .string, none⟩
  cases := [⟨"CaseMail", .literal (.string "mail"), none, []⟩]
  defaultCase := some ⟨"Default", .fallback, none, [⟨"channel", .scalar .string, true, none⟩]⟩

/-- A model of such contacts. -/
def Schema.channels : Schema where
  name := "contacts"
  metadata := .unknown
  customTypes := [("contact", .variant channelVariant)]
  properties := []
  rules := []

/-- The model is accepted, and no contact of the default case can be written. -/
theorem Schema.discriminator_redeclared : Schema.channels.validate = .ok Schema.channels ∧
    .variant channelVariant ∈ Schema.channels.namedTypes ∧
    channelVariant.discriminator = some ⟨"channel", .scalar .string, none⟩ ∧
    (∃ c ∈ channelVariant.allCases, "channel" ∈ c.fields.map Field.key) ∧
    Schema.channels.layouts.encode (.customType "contact")
        (.case "Default" [("channel", .string "post")]) =
      .error (.missingField "contact.Default" "channel") :=
  ⟨rfl, List.mem_of_getElem? (i := 0) rfl, rfl,
    ⟨_, List.mem_cons_of_mem _ List.mem_cons_self, List.mem_cons_self⟩, rfl⟩

/-! ## §2 Finding the default case -/

namespace VariantType

/-- **The default case is found**: there is at most one, and a literal selects the case that it
tags, or else the default case. -/
structure DefaultFound (v : VariantType) : Prop where
  single : (v.allCases.filter VariantCase.isDefault).length ≤ 1
  tagged : ∀ c ∈ v.allCases, ∀ l, c.tag = .literal l → v.route l = .ok c
  others : ∀ c ∈ v.allCases, c.isDefault = true → ∀ l,
    (∀ other ∈ v.allCases, other.tag ≠ .literal l) → v.route l = .ok c

theorem isDefault_iff : c.isDefault = true ↔ c.tag = .fallback :=
  beq_iff_eq

theorem literal?_eq_some_iff {l : Literal} : c.literal? = some l ↔ c.tag = .literal l := by
  unfold VariantCase.literal?
  cases c.tag <;> simp

/-- Only finitely many literals are tags. -/
theorem exists_untagged (cases : List VariantCase) :
    ∃ l, ∀ c ∈ cases, c.tag ≠ .literal l := by
  have : Infinite Literal := Infinite.of_injective Literal.string fun _ _ => Literal.string.inj
  obtain ⟨l, hl⟩ := Infinite.exists_notMem_finset (cases.filterMap VariantCase.literal?).toFinset
  refine ⟨l, fun c hc htag => hl ?_⟩
  rw [List.mem_toFinset, List.mem_filterMap]
  exact ⟨c, hc, literal?_eq_some_iff.mpr htag⟩

/-- **A tag is routed to its own case.** -/
theorem WellFormed.route_of_tag (h : v.WellFormed) (hc : c ∈ v.allCases) {l : Literal}
    (htag : c.tag = .literal l) : v.route l = .ok c := by
  have hmem : c ∈ v.cases := by
    rcases List.mem_append.mp hc with hmem | hdefault
    · exact hmem
    · cases htag.symm.trans (h.default c (Option.mem_toList.mp hdefault))
  have htagged := h.tagsApart.taggedCase?_eq_some_iff.mpr ⟨hmem, literal?_eq_some_iff.mpr htag⟩
  exact route_eq_ok_iff.mpr (by rw [htagged, Option.some_or])

/-- What is no tag is routed to the case in the default's place. -/
theorem WellFormed.route_untagged_iff (h : v.WellFormed) {l : Literal}
    (hl : ∀ c ∈ v.allCases, c.tag ≠ .literal l) : v.route l = .ok c ↔ v.defaultCase = some c := by
  have hnone : v.taggedCase? l = none := by
    refine h.tagsApart.taggedCase?_eq_none_iff.mpr fun other hother htag => ?_
    exact hl other (List.mem_append_left _ hother) (literal?_eq_some_iff.mp htag)
  rw [route_eq_ok_iff, hnone, Option.none_or]

/-- **The default case of a well-formed variant is found** exactly if none stands among the cases
with tags. -/
theorem WellFormed.finds_default_iff (h : v.WellFormed) :
    v.DefaultFound ↔ ∀ c ∈ v.cases, c.isDefault = false := by
  constructor
  · intro hfound c hc
    by_contra hdefault
    rw [Bool.not_eq_false] at hdefault
    obtain ⟨l, hl⟩ := exists_untagged v.allCases
    have hroute := hfound.others c (List.mem_append_left _ hc) hdefault l hl
    have hplace := (h.route_untagged_iff hl).mp hroute
    -- it would be found only if it stood in the default's place as well
    have htwice := hfound.single
    have hpos := List.length_pos_of_mem (List.mem_filter.mpr ⟨hc, hdefault⟩)
    have hagain : c ∈ v.defaultCase.toList := Option.mem_toList.mpr hplace
    have hpos' := List.length_pos_of_mem (List.mem_filter.mpr ⟨hagain, hdefault⟩)
    rw [allCases, List.filter_append, List.length_append] at htwice
    omega
  · intro hnone
    refine ⟨?_, fun c hc l htag => h.route_of_tag hc htag, fun c hc hdefault l hl => ?_⟩
    · have hempty : v.cases.filter VariantCase.isDefault = [] :=
        List.filter_eq_nil_iff.mpr fun c hc => by simp [hnone c hc]
      rw [allCases, List.filter_append, hempty, List.nil_append]
      exact (List.length_filter_le _ _).trans (by cases v.defaultCase <;> simp)
    · refine (h.route_untagged_iff hl).mpr ?_
      rcases List.mem_append.mp hc with hmem | hplace
      · cases hdefault.symm.trans (hnone c hmem)
      · exact Option.mem_toList.mp hplace

/-- What an alternation resolves to has no default case among those with tags. -/
theorem IsResolved.not_isDefault (h : v.IsResolved) (hc : c ∈ v.cases) : c.isDefault = false := by
  refine Bool.eq_false_iff.mpr fun hdefault => ?_
  have htag := isDefault_iff.mp hdefault
  obtain ⟨node, hnode⟩ := h
  cases node with
  | discriminated node =>
    have hres := DiscriminatedNode.resolvesTo_of_resolve hnode
    obtain ⟨l, hl, -⟩ := (hres.cases.tagged c hc).tag
    cases hl.symm.trans htag
  | primitive node =>
    rw [(PrimitiveNode.resolvesTo_of_resolve hnode).eq] at hc
    obtain ⟨k, -, rfl⟩ := List.mem_map.mp hc
    cases htag

end VariantType

/-- **In an accepted model a literal selects the case that it tags**, and the default case is found
exactly if it stands in its own place.  In a model that was built from a document it does. -/
theorem Schema.defaultFound_iff (hvalid : s.validate = .ok s) (hv : .variant v ∈ s.namedTypes) :
    (∀ c ∈ v.allCases, ∀ l, c.tag = .literal l → v.route l = .ok c) ∧
      (v.DefaultFound ↔ ∀ c ∈ v.cases, c.isDefault = false) ∧
      ((∃ doc, Schema.ofDocument doc = .ok s) → v.DefaultFound) := by
  obtain ⟨hfaults, -⟩ := Schema.validate_eq_ok_iff.mp hvalid
  have hwell := VariantType.faults_eq_nil_iff.mp (Schema.faults_of_mem_namedTypes hfaults hv)
  refine ⟨fun c hc l htag => hwell.route_of_tag hc htag, hwell.finds_default_iff, ?_⟩
  rintro ⟨doc, hdoc⟩
  have hresolved := Schema.isResolved_of_mem hdoc hv
  exact hwell.finds_default_iff.mpr fun c hc => hresolved.not_isDefault hc

theorem Schema.defaultFound_contacts : Schema.contacts.validate = .ok Schema.contacts ∧
    contactVariant.DefaultFound := by
  have hvalid : Schema.contacts.validate = .ok Schema.contacts := rfl
  have hv : .variant contactVariant ∈ Schema.contacts.namedTypes :=
    List.mem_of_getElem? (i := 0) rfl
  exact ⟨hvalid, (Schema.defaultFound_iff hvalid hv).2.1.mpr (by decide)⟩

/-- Contacts by channel, with the default case among those with tags. -/
def strayVariant : VariantType where
  name := .customType "contact"
  description := none
  discriminator := some ⟨"channel", .scalar .string, none⟩
  cases := [⟨"CaseMail", .literal (.string "mail"), none, []⟩, ⟨"Default", .fallback, none, []⟩]
  defaultCase := none

/-- A model of such contacts. -/
def Schema.strayDefault : Schema where
  name := "contacts"
  metadata := .unknown
  customTypes := [("contact", .variant strayVariant)]
  properties := []
  rules := []

/-- The model is accepted, and its default case is not found. -/
theorem Schema.not_defaultFound : Schema.strayDefault.validate = .ok Schema.strayDefault ∧
    .variant strayVariant ∈ Schema.strayDefault.namedTypes ∧
    (strayVariant.allCases.filter VariantCase.isDefault).map VariantCase.name = ["Default"] ∧
    strayVariant.route (.string "post") = .error (.noMatchingCase "contact" "\"post\"") ∧
    ¬strayVariant.DefaultFound := by
  refine ⟨rfl, List.mem_of_getElem? (i := 0) rfl, by decide, rfl, fun h => ?_⟩
  have hfound := h.others _ (List.mem_cons_of_mem _ List.mem_cons_self) rfl (.string "post")
    (by decide)
  cases hfound

end TrackingPlan
