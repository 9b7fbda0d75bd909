import TrackingPlan.Proofs.Layout.CaseReading

/-!
# Routed values and values that name their case

There are two ways to write a value of object shapes: by a literal that selects the case, or by the
name of the case.  They agree.  A tagged case writes its own tag and takes none from the caller, so
it makes no difference which way it was chosen.  The default case takes the discriminator from the
caller; a literal that falls to it stands for the value that a caller would supply under the
discriminator's key.  Without a default case such a literal is refused.

§1 one case, both ways · §2 values of a variant.
-/

namespace TrackingPlan

/-! ## §1 One case, both ways -/

section Cases

variable {owner name key : String} {fields : List FieldLayout} {supplied : Entries Encoding}
  {routed : Encoding}

/-- **A tagged case is written the same way, routed or named.**  Either way nothing may be supplied
for its tag; only the error differs that says so. -/
theorem encodeObjectCase_routed_iff_named {tag : Literal} {json : Json} :
    encodeObjectCase owner (.object name fields key (.fixed tag)) supplied (some routed) =
        .ok json ↔
      encodeObjectCase owner (.object name fields key (.fixed tag)) supplied none = .ok json := by
  have htag : ∀ written : Json,
      encodeDiscriminator (owner ++ "." ++ name) key none (supplied.get? key) (.fixed tag) =
          .ok written ↔
        key ∉ supplied.keys ∧ encodeDiscriminator (owner ++ "." ++ name) key (some routed)
          (supplied.get? key) (.fixed tag) = .ok written := by
    intro written
    rw [← Entries.get?_eq_none_iff]
    cases supplied.get? key with
    | none => simp [encodeDiscriminator]
    | some encoding => simp [encodeDiscriminator]
  rw [encodeObjectCase_eq_ok_iff, encodeObjectCase_eq_ok_iff]
  simp only [htag]
  constructor
  · rintro ⟨hfree, object, written, hobject, hwritten, rfl⟩
    exact ⟨fun h => absurd h Bool.false_ne_true, object, written, hobject, ⟨hfree rfl, hwritten⟩,
      rfl⟩
  · rintro ⟨-, object, written, hobject, ⟨hfree, hwritten⟩, rfl⟩
    exact ⟨fun _ => hfree, object, written, hobject, hwritten, rfl⟩

/-- **A literal that is routed to the default case** is written as if it had been supplied. -/
theorem encodeObjectCase_routed_eq_supplied {layout : ValueLayout} (hfree : key ∉ supplied.keys) :
    encodeObjectCase owner (.object name fields key (.supplied layout)) supplied (some routed) =
      encodeObjectCase owner (.object name fields key (.supplied layout))
        (supplied.insert key routed) none := by
  have hget : supplied.get? key = none := Entries.get?_eq_none_iff.mpr hfree
  -- the fields of the case are offered the same values: all but what stands under the key
  have hkept : (supplied.insert key routed).filter (·.1 != key) =
      supplied.filter (·.1 != key) := by
    rw [Entries.insert_of_not_mem routed hfree, List.filter_append]
    simp
  unfold encodeObjectCase
  dsimp only
  rw [hkept, Entries.get?_insert_self, hget]
  rfl

end Cases

/-! ## §2 Values of a variant -/

/-- One more field writes as one more entry. -/
theorem Layouts.entryEncodings_insert (ls : Layouts) {values : Entries TypedValue} {key : String}
    (hkey : key ∉ values.keys) (x : TypedValue) :
    ls.entryEncodings (values.insert key x) =
      (ls.entryEncodings values).insert key (ls.encoding x) := by
  have hnew : key ∉ (ls.entryEncodings values).keys := by
    rw [ls.keys_entryEncodings]
    exact hkey
  rw [Entries.insert_of_not_mem x hkey, Entries.insert_of_not_mem _ hnew, ls.entryEncodings_eq,
    ls.entryEncodings_eq, List.map_append]
  rfl

namespace Layouts.Discriminates

variable {ls : Layouts} {v : VariantType} {d : Discriminator} {c : VariantCase} {tag : Literal}
  {values : Entries TypedValue}

/-- A case is chosen by its name. -/
theorem chosenCase?_named (h : ls.Discriminates v d) (hc : c ∈ v.allCases) :
    v.chosenCase? (.case c.name values) = some c :=
  VariantType.caseNamed?_of_mem h.names hc

/-- A value that is routed by the tag of a case is written as one that names the case. -/
theorem encode_tagged_iff_named (h : ls.Discriminates v d) (hc : c ∈ v.cases)
    (htag : c.literal? = some tag) {json : Json} :
    ls.encode v.name (.tagged tag values) = .ok json ↔
      ls.encode v.name (.case c.name values) = .ok json := by
  have htagged := h.taggedCase?_of_literal? hc htag
  have hroute : v.route tag = .ok c := VariantType.route_eq_ok_iff.mpr (by rw [htagged]; rfl)
  have hchosen : v.chosenCase? (.tagged tag values) = some c :=
    except_toOption_eq_some.mpr hroute
  have hnamed : v.chosenCase? (.case c.name values) = some c :=
    h.chosenCase?_named (List.mem_append_left _ hc)
  rw [h.holdsCases.encode_eq rfl hchosen, h.holdsCases.encode_eq rfl hnamed,
    h.slot_of_taggedCase? htagged]
  exact encodeObjectCase_routed_iff_named

/-- A value that is routed to the default case is written as one that names it and supplies the
literal. -/
theorem encode_tagged_eq_default (h : ls.Discriminates v d) (hc : v.defaultCase = some c)
    (htag : v.taggedCase? tag = none) (hfree : d.key ∉ values.keys) :
    ls.encode v.name (.tagged tag values) =
      ls.encode v.name (.case c.name (values.insert d.key (TypedValue.ofLiteral tag))) := by
  have hroute : v.route tag = .ok c := (h.route_eq_default_iff hc).mpr htag
  have hchosen : v.chosenCase? (.tagged tag values) = some c :=
    except_toOption_eq_some.mpr hroute
  have hmem : c ∈ v.allCases := List.mem_append_right _ (Option.mem_toList.mpr hc)
  have hnamed : v.chosenCase? (.case c.name (values.insert d.key (TypedValue.ofLiteral tag))) =
      some c := h.chosenCase?_named hmem
  rw [h.holdsCases.encode_eq rfl hchosen, h.holdsCases.encode_eq rfl hnamed, h.slot_of_default hc]
  show encodeObjectCase _ _ (ls.entryEncodings values) (some _) =
    encodeObjectCase _ _ (ls.entryEncodings (values.insert d.key _)) none
  rw [ls.entryEncodings_insert hfree]
  refine encodeObjectCase_routed_eq_supplied ?_
  rw [ls.keys_entryEncodings]
  exact hfree

/-- A literal that selects no case is refused. -/
theorem encode_tagged_of_no_case (h : ls.Discriminates v d) (hc : v.defaultCase = none)
    (htag : v.taggedCase? tag = none) :
    ls.encode v.name (.tagged tag values) =
      .error (.routing (.noMatchingCase v.name.name tag.text)) := by
  obtain ⟨w, hw, hget⟩ := h.layout
  have hroute : v.route tag = .error (.noMatchingCase v.name.name tag.text) := by
    rw [VariantType.route, htag, hc]
    rfl
  rw [Layouts.encode, h.direct,
    Layouts.encoding_of_target (settle_of_not_bare hget rfl ls.types.length)]
  show encodeTagged w tag (ls.entryEncodings values) _ = _
  rw [encodeTagged, hw.variant, hroute]

end Layouts.Discriminates

section Routed

variable {node : DiscriminatedNode} {v : VariantType} {s : Schema} {ls : Layouts}

/-- **Values that are routed and values that name their case are written alike.**  A tag writes what
the name of its case does, or both are refused.  Any other literal writes what the default case does
when it is supplied as the discriminator; without a default case no case matches it. -/
theorem Layouts.encode_tagged_agrees (hnode : node.resolve = .ok v)
    (hls : Layouts.ofSchema s = .ok ls) (hv : .variant v ∈ s.namedTypes) (tag : Literal)
    (values : Entries TypedValue) :
    (∀ c ∈ v.cases, c.tag = .literal tag → ∀ json,
      ls.encode v.name (.tagged tag values) = .ok json ↔
        ls.encode v.name (.case c.name values) = .ok json) ∧
    ((∀ c ∈ v.cases, c.tag ≠ .literal tag) →
      (v.defaultCase.isSome = true → node.discriminator ∉ values.keys →
        ls.encode v.name (.tagged tag values) =
          ls.encode v.name (.case "Default"
            (values.insert node.discriminator (TypedValue.ofLiteral tag)))) ∧
      (v.defaultCase = none →
        ls.encode v.name (.tagged tag values) =
          .error (.routing (.noMatchingCase v.name.name tag.text)))) := by
  have hres := DiscriminatedNode.resolvesTo_of_resolve hnode
  obtain ⟨field, -, hkey, hd⟩ := hres.discriminator
  have hdisc := Layouts.discriminates hnode hls hv hd
  have hliteral : ∀ c : VariantCase, c.literal? = some tag ↔ c.tag = .literal tag := by
    intro c
    unfold VariantCase.literal?
    cases c.tag <;> simp
  refine ⟨fun c hc htag json => hdisc.encode_tagged_iff_named hc ((hliteral c).mpr htag),
    fun hother => ?_⟩
  have htag : v.taggedCase? tag = none :=
    hdisc.tagsApart.taggedCase?_eq_none_iff.mpr fun c hc heq => hother c hc ((hliteral c).mp heq)
  refine ⟨fun hdefault hfree => ?_, fun hnone => hdisc.encode_tagged_of_no_case hnone htag⟩
  obtain ⟨c, hc⟩ := Option.isSome_iff_exists.mp hdefault
  rw [← hkey] at hfree ⊢
  rw [hdisc.encode_tagged_eq_default hc htag hfree, (hres.tag_default hc).2]
  rfl

/-- A contact that is verified is written alike by its tag and by its case, and one that is pending
as one of the default case whose state is supplied. -/
theorem Layouts.encode_tagged_agrees_contact :
    (∀ json, Schema.contacts.layouts.encode (.customType "contact")
        (.tagged (.bool true) [("address", .string "rue")]) = .ok json ↔
      Schema.contacts.layouts.encode (.customType "contact")
        (.case "Case_True" [("address", .string "rue")]) = .ok json) ∧
    Schema.contacts.layouts.encode (.customType "contact")
        (.tagged (.string "pending") [("channel", .string "mail")]) =
      Schema.contacts.layouts.encode (.customType "contact")
        (.case "Default" [("channel", .string "mail"), ("verified", .string "pending")]) := by
  have hnode : contactNode.resolve = .ok contactVariant := rfl
  have hls : Layouts.ofSchema Schema.contacts = .ok Schema.contacts.layouts := rfl
  have hfirst : Schema.contacts.namedTypes[0]? = some (.variant contactVariant) := rfl
  have hv := List.mem_of_getElem? hfirst
  constructor
  · exact (encode_tagged_agrees hnode hls hv (.bool true) [("address", .string "rue")]).1 _
      List.mem_cons_self rfl
  · have hagrees := encode_tagged_agrees hnode hls hv (.string "pending")
      [("channel", .string "mail")]
    exact (hagrees.2 (by decide)).1 rfl (by decide)

end Routed

end TrackingPlan
