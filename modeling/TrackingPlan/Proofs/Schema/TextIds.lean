import TrackingPlan.Proofs.Alternation.ObjectShapes
import TrackingPlan.Proofs.Naming.Growth
import TrackingPlan.Proofs.Schema.EnumCases

/-!
# The text of a value is its id

Cases are named by a registry that knows the values by their JSON texts.  A text tells its value,
and in a sound registry a name tells its id, so values that differ never share the name of a case,
in an enumeration as among the tags of object shapes (`Literal.text_identifies`).  Only the two
values need to be as they are read; what else stands in the list does not matter.

§1 names given out under texts · §2 cases of an enumeration · §3 cases of tags · §4 ids.
-/

namespace TrackingPlan

/-! ## §1 Names given out under texts -/

namespace Naming.Registry

variable {r r' r'' : Registry} {scope name : String} {l m : Literal}
  {given given' : List (Literal × String)}

/-- **`r'` comes after `r` and knows the names given out** in a scope, each under the text of its
value. -/
structure Knows (r r' : Registry) (scope : String) (given : List (Literal × String)) : Prop where
  sound : r'.Sound
  grows : r.Grows r'
  found : ∀ g ∈ given, r'.get? g.1.text scope = some g.2

theorem Knows.start (hr : r.Sound) (scope : String) : r.Knows r scope [] :=
  ⟨hr, .refl r, fun _ h => absurd h List.not_mem_nil⟩

/-- One registration gives one name out. -/
theorem Registered.knows {assigned : String} (hr : r.Sound)
    (h : r.Registered l.text scope name assigned r') : r.Knows r' scope [(l, assigned)] :=
  ⟨hr.register h, h.grows, List.forall_mem_singleton.mpr h.get?_eq_some⟩

/-- Names given out one after another are all known. -/
theorem Knows.append (h : r.Knows r' scope given) (h' : r'.Knows r'' scope given') :
    r.Knows r'' scope (given ++ given') :=
  ⟨h'.sound, h.grows.trans h'.grows,
    List.forall_mem_append.mpr ⟨fun g hg => h'.grows.get?_eq_some (h.found g hg), h'.found⟩⟩

/-- **Under one name there is one value.** -/
theorem Knows.eq_of_name (h : r.Knows r' scope given) (hl : (l, name) ∈ given)
    (hm : (m, name) ∈ given) (hcl : l.Canonical) (hcm : m.Canonical) : l = m :=
  Literal.eq_of_text_eq hcl hcm (h.sound.id_unique (h.found _ hl) (h.found _ hm))

end Naming.Registry

open Naming (Registry)

/-! ## §2 Cases of an enumeration -/

namespace EnumType

/-- **The registry of a run knows the name of every case.** -/
theorem exists_knows_of_casesFrom {name : TypeName} {values : List Literal} :
    ∀ {seen : List Literal} {r : Registry} {cases : List EnumCase}, r.Sound →
      casesFrom name seen values r = .ok cases →
      ∃ r', r.Knows r' name.id (cases.map fun c => (c.value, c.name)) := by
  induction values with
  | nil =>
    intro seen r cases hr h
    obtain rfl := Except.ok.inj h
    exact ⟨r, .start hr name.id⟩
  | cons l rest ih =>
    intro seen r cases hr h
    obtain ⟨-, caseName, r₁, others, hregistered, hothers, rfl⟩ := casesFrom_cons_eq_ok_iff.mp h
    obtain ⟨r', hrest⟩ := ih (hr.register hregistered) hothers
    exact ⟨r', (hregistered.knows hr).append hrest⟩

end EnumType

/-! ## §3 Cases of tags -/

/-- The tag of a case with its name, if the tag is a literal. -/
def VariantCase.named? (c : VariantCase) : Option (Literal × String) :=
  c.literal?.map fun l => (l, c.name)

theorem VariantCase.named?_of_tag {c : VariantCase} {l : Literal} (h : c.tag = .literal l) :
    c.named? = some (l, c.name) := by
  rw [named?, literal?, h]
  rfl

namespace DiscriminatedNode

variable {node : DiscriminatedNode} {field : Field} {shape : TaggedShape} {fields base : List Field}

theorem knows_of_resolveTag {tag : Literal} {s s' : TagState} {c : VariantCase}
    (hs : s.names.Sound) (h : node.resolveTag field shape fields tag s = .ok (c, s')) :
    s.names.Knows s'.names node.name.id ([c].filterMap VariantCase.named?) := by
  obtain ⟨-, -, -, name, registry, hregister, rfl, rfl⟩ := resolveTag_eq_ok_iff.mp h
  exact (Registry.register_eq_ok_iff.mp hregister).2.knows hs

theorem knows_of_resolveTags {tags : List Literal} :
    ∀ {s s' : TagState} {cases : List VariantCase}, s.names.Sound →
      node.resolveTags field shape fields tags s = .ok (cases, s') →
      s.names.Knows s'.names node.name.id (cases.filterMap VariantCase.named?) := by
  induction tags with
  | nil =>
    intro s s' cases hs h
    obtain ⟨rfl, rfl⟩ := Prod.mk.inj (Except.ok.inj h)
    exact .start hs node.name.id
  | cons tag rest ih =>
    intro s s' cases hs h
    rw [resolveTags] at h
    obtain ⟨⟨c, s₁⟩, htag, h⟩ := except_bind_eq_ok.mp h
    obtain ⟨⟨others, s₂⟩, hothers, h⟩ := except_bind_eq_ok.mp h
    obtain ⟨rfl, rfl⟩ := Prod.mk.inj (except_pure_eq_ok.mp h)
    have hfirst := knows_of_resolveTag hs htag
    rw [← List.singleton_append, List.filterMap_append]
    exact hfirst.append (ih hfirst.sound hothers)

/-- **The registry of a run knows the name of every tag's case**, of whatever shape. -/
theorem exists_knows_of_resolveShapes {shapes : List TaggedShape} :
    ∀ {s : TagState} {cases : List VariantCase}, s.names.Sound →
      node.resolveShapes field base shapes s = .ok cases →
      ∃ r', s.names.Knows r' node.name.id (cases.filterMap VariantCase.named?) := by
  induction shapes with
  | nil =>
    intro s cases hs h
    obtain rfl := Except.ok.inj h
    exact ⟨s.names, .start hs node.name.id⟩
  | cons shape rest ih =>
    intro s cases hs h
    rw [resolveShapes] at h
    split at h
    · cases h
    · obtain ⟨⟨first, s₁⟩, hfirst, h⟩ := except_bind_eq_ok.mp h
      obtain ⟨others, hothers, h⟩ := except_bind_eq_ok.mp h
      obtain rfl := except_pure_eq_ok.mp h
      have hknows := knows_of_resolveTags hs hfirst
      obtain ⟨r', hrest⟩ := ih hknows.sound hothers
      rw [List.filterMap_append]
      exact ⟨r', hknows.append hrest⟩

/-- Each tag of each shape has its own case, in order. -/
theorem map_tag_of_resolve {v : VariantType} (h : node.resolve = .ok v) :
    v.cases.map VariantCase.tag = node.tags.map .literal := by
  obtain ⟨field, cases, -, -, hshapes, rfl⟩ := resolve_eq_ok_iff.mp h
  have hbodies := congrArg (List.map CaseBody.tag) (bodies_of_resolveShapes hshapes)
  rw [List.map_map, List.map_flatMap] at hbodies
  rw [tags, List.map_flatMap]
  simp only [List.map_map] at hbodies ⊢
  exact hbodies

end DiscriminatedNode

/-! ## §4 Ids -/

/-- **The text of a literal as it is read identifies it**, and the literal is read back from its
JSON value.  So where values are registered under their texts, each has a case, and different
values have cases of different names: the values of an enumeration, and the tags of object
shapes. -/
theorem Literal.text_identifies :
    (∀ l m : Literal, l.Canonical → m.Canonical → (l.text = m.text ↔ l = m)) ∧
    (∀ l : Literal, l.Canonical → ofJson? l.toJson = some l) ∧
    (∀ name description values e, EnumType.ofValues name description values = .ok e →
      e.cases.map EnumCase.value = values ∧
      ∀ c ∈ e.cases, ∀ d ∈ e.cases, c.value.Canonical → d.value.Canonical → c.value ≠ d.value →
        c.name ≠ d.name) ∧
    ∀ node v, DiscriminatedNode.resolve node = .ok v →
      v.cases.map VariantCase.tag = node.tags.map .literal ∧
      ∀ c ∈ v.cases, ∀ d ∈ v.cases, c.tag ≠ d.tag → c.name ≠ d.name := by
  refine ⟨fun l m hl hm => ⟨eq_of_text_eq hl hm, congrArg text⟩, fun l => ofJson?_toJson, ?_, ?_⟩
  · intro name description values e h
    obtain ⟨-, cases, hcases, rfl⟩ := EnumType.ofValues_eq_ok_iff.mp h
    obtain ⟨r', hknows⟩ := EnumType.exists_knows_of_casesFrom .start hcases
    have hgiven : ∀ c ∈ cases, (c.value, c.name) ∈ cases.map fun c => (c.value, c.name) :=
      fun c hc => List.mem_map_of_mem hc
    refine ⟨EnumType.map_value_of_casesFrom hcases, fun c hc d hd hcv hdv hne heq => ?_⟩
    exact hne (hknows.eq_of_name (heq ▸ hgiven c hc) (hgiven d hd) hcv hdv)
  · intro node v h
    have htagged := (DiscriminatedNode.resolvesTo_of_resolve h).cases.tagged
    have htags := DiscriminatedNode.map_tag_of_resolve h
    obtain ⟨field, cases, -, -, hshapes, rfl⟩ := DiscriminatedNode.resolve_eq_ok_iff.mp h
    obtain ⟨r', hknows⟩ := DiscriminatedNode.exists_knows_of_resolveShapes (s := {}) .start hshapes
    have hgiven : ∀ c ∈ cases, ∃ l : Literal, c.tag = .literal l ∧ l.Canonical ∧
        (l, c.name) ∈ cases.filterMap VariantCase.named? := by
      intro c hc
      obtain ⟨l, hl, hnumber⟩ := (htagged c hc).tag
      exact ⟨l, hl, DiscriminatedNode.canonical_of_not_number hnumber,
        List.mem_filterMap.mpr ⟨c, hc, VariantCase.named?_of_tag hl⟩⟩
    refine ⟨htags, fun c hc d hd hne heq => hne ?_⟩
    obtain ⟨l, hl, hlcanonical, hlgiven⟩ := hgiven c hc
    obtain ⟨m, hm, hmcanonical, hmgiven⟩ := hgiven d hd
    rw [hl, hm, hknows.eq_of_name (heq ▸ hlgiven) hmgiven hlcanonical hmcanonical]

/-- Values that look alike. -/
def lookalikes : List Literal :=
  [.bool true, .string "true", .integer 3, .string "3", .string "\"3\""]

/-- The enumeration of the lookalikes. -/
def lookalike : EnumType where
  name := .property "lookalike"
  description := none
  cases := [⟨"_True", .bool true⟩, ⟨"_True1", .string "true"⟩, ⟨"_3", .integer 3⟩,
    ⟨"_31", .string "3"⟩, ⟨"_32", .string "\"3\""⟩]

/-- Two object shapes, tagged with lookalikes. -/
def DiscriminatedNode.alike : DiscriminatedNode where
  name := .customType "Alike"
  description := none
  baseFields := [⟨"is", .enumeration lookalike, true, none⟩]
  discriminator := "is"
  shapes := [⟨"Truth", none, [.bool true, .string "3"], []⟩,
    ⟨"Text", none, [.string "true", .string "\"3\"", .integer 3], []⟩]
  defaultFields := none

/-- The number 3, the text `3` and the same text in quotes have three texts and three names. -/
theorem Literal.text_identifies_lookalikes :
    ((Literal.integer 3).Canonical ∧ (Literal.string "3").Canonical ∧
      (Literal.integer 3).text ≠ (Literal.string "3").text ∧
      ofJson? (Literal.string "\"3\"").toJson = some (.string "\"3\"")) ∧
    (EnumType.ofValues (.property "lookalike") none lookalikes = .ok lookalike ∧
      lookalike.cases.map EnumCase.value = lookalikes ∧ "_3" ≠ "_31") ∧
    ∃ v, DiscriminatedNode.alike.resolve = .ok v ∧ ∃ c ∈ v.cases, ∃ d ∈ v.cases,
      c.tag = .literal (.string "3") ∧ d.tag = .literal (.integer 3) ∧ c.name ≠ d.name := by
  obtain ⟨htext, hread, hvalues, htags⟩ := text_identifies
  have henumeration : EnumType.ofValues (.property "lookalike") none lookalikes = .ok lookalike :=
    except_toOption_eq_some.mp (by decide +kernel)
  have hresolves : DiscriminatedNode.alike.resolve.toOption.isSome = true := by decide +kernel
  obtain ⟨v, hsome⟩ := Option.isSome_iff_exists.mp hresolves
  have hv := except_toOption_eq_some.mp hsome
  obtain ⟨hcases, hapart⟩ := hvalues _ _ _ _ henumeration
  obtain ⟨hall, hnames⟩ := htags _ v hv
  have hcase : ∀ l ∈ DiscriminatedNode.alike.tags, ∃ c ∈ v.cases, c.tag = .literal l := fun l hl =>
    List.mem_map.mp (hall ▸ List.mem_map_of_mem hl)
  obtain ⟨c, hc, hctag⟩ := hcase (.string "3") (by decide)
  obtain ⟨d, hd, hdtag⟩ := hcase (.integer 3) (by decide)
  have hne : c.tag ≠ d.tag := by
    rw [hctag, hdtag]
    decide
  refine ⟨⟨trivial, trivial, fun h => ?_, hread _ trivial⟩, ⟨henumeration, hcases, ?_⟩,
    v, hv, c, hc, d, hd, hctag, hdtag, hnames c hc d hd hne⟩
  · exact absurd ((htext (.integer 3) (.string "3") trivial trivial).mp h) (by decide)
  · exact hapart ⟨"_3", .integer 3⟩ (by decide) ⟨"_31", .string "3"⟩ (by decide) trivial trivial
      (by decide)

end TrackingPlan
