import TrackingPlan.Proofs.Bindings.Agreement
import TrackingPlan.Proofs.Bindings.LiteralCode
import TrackingPlan.Proofs.Layout.Discriminators
import TrackingPlan.Proofs.Schema.EnumCases

/-!
# Fixed values in emitted code and by layouts

The values of an enumeration and the tags of cases are fixed: the model writes them through its
layouts, and emitted code builds them out of literals.  Both ways give one value, with one
exception.  An integer above the signed 64-bit ones is kept as it is by the layouts, and emitted in
double precision, so the code builds the nearest number and not the integer
(`fixed_values_agree`).

§1 expressions in emitted code · §2 what layouts write · §3 runs.
-/

namespace TrackingPlan

namespace Bindings

variable {rt : RuntimePath}

/-! ## §1 Expressions in emitted code -/

/-- **Tokens stand among others**, side by side, in a group or outside. -/
inductive StandIn (fragment : List Token) : List Token → Prop
  | here (before after : List Token) : StandIn fragment (before ++ fragment ++ after)
  | within {d : Delimiter} {body : List Token} (before after : List Token) :
      StandIn fragment body → StandIn fragment (before ++ .group d body :: after)

namespace StandIn

variable {fragment ts : List Token}

theorem prepend (h : StandIn fragment ts) (before : List Token) :
    StandIn fragment (before ++ ts) := by
  cases h with
  | here b a => simpa using here (before ++ b) a
  | within b a hbody => simpa using within (before ++ b) a hbody

theorem append (h : StandIn fragment ts) (after : List Token) : StandIn fragment (ts ++ after) := by
  cases h with
  | here b a => simpa using here b (a ++ after)
  | within b a hbody => simpa using within b (a ++ after) hbody

theorem self (fragment : List Token) : StandIn fragment fragment := by
  have h : StandIn fragment ([] ++ fragment ++ []) := here [] []
  simpa using h

theorem flatMap {α : Type} {f : α → List Token} {x : α} {xs : List α} (hx : x ∈ xs)
    (h : StandIn fragment (f x)) : StandIn fragment (xs.flatMap f) := by
  obtain ⟨before, after, rfl⟩ := List.append_of_mem hx
  rw [List.flatMap_append, List.flatMap_cons]
  exact (h.append _).prepend _

/-- What stands in a body stands in a group with this body. -/
theorem group {d : Delimiter} (h : StandIn fragment ts) : StandIn fragment [.group d ts] :=
  within [] [] h

end StandIn

/-- **The code writes a case as an expression.** -/
def WritesCase (ts : List Token) (case : String) (expression : List Token) : Prop :=
  ∃ name, Identifier.ofText? case = some name ∧ StandIn (valueArm name expression) ts

/-- **The code writes an expression under a key of a case**, as the last of its entries. -/
def WritesLast (ts : List Token) (case key : String) (expression : List Token) : Prop :=
  ∃ name bindings before, Identifier.ofText? case = some name ∧
    StandIn (blockArm name bindings (before ++ insertion key expression ++ [.word "__encoded"])) ts

theorem standIn_implTokens {fragment body : List Token} (h : StandIn fragment body)
    (traitName : String) (name : Identifier) (method result : String) :
    StandIn fragment (implTokens rt traitName name method result body) := by
  have hblock := (h.group (d := .brace)).prepend
    (code "fn" ++ code method ++ [round (code "& self")] ++ code "->" ++ inRuntime rt result)
  exact (hblock.group.prepend [.ident name]).prepend _

/-- **The code of an enumeration** has an arm for each of its cases. -/
theorem standIn_enumeration {name case : Identifier} {value : Literal}
    {arms : List (Identifier × Literal)} (h : (case, value) ∈ arms) :
    StandIn (valueArm case (literalTokens rt value))
      ((EncodeImpl.enumeration name arms).tokens rt) := by
  refine standIn_implTokens (StandIn.prepend ?_ (code "match * self")) "Encode" name "encode"
    "JsonValue"
  refine StandIn.group (.flatMap h ?_)
  simp only [code_statements, code_declarations, code_types]
  exact .self _

/-- **The code of a case that ends in a fixed value.** -/
theorem standIn_object {name : Identifier} {arm : ObjectArm} {arms : List ObjectArm}
    (h : arm ∈ arms) {own : List Insert} {key : String} {tag : Literal}
    (hinserts : arm.inserts = own ++ [.fixed key tag]) :
    ∃ bindings before,
      StandIn (blockArm arm.name bindings
        (before ++ insertion key (literalTokens rt tag) ++ [.word "__encoded"]))
        ((EncodeImpl.object name arms).tokens rt) := by
  obtain ⟨before, hbody⟩ : ∃ before, objectBody rt boundAccess arm.inserts =
      before ++ insertion key (literalTokens rt tag) ++ [.word "__encoded"] := by
    refine ⟨code "let mut __encoded =" ++ (inRuntime rt "JsonObject :: new" ++ [round []]) ++
      code ";" ++ own.flatMap (·.tokens rt boundAccess), ?_⟩
    rw [hinserts, objectBody]
    simp [Insert.tokens, insertStatement_eq, code_statements]
  refine ⟨arm.bindings.flatMap fun b => [.ident b] ++ code ",", before, ?_⟩
  rw [← hbody]
  refine (standIn_implTokens (StandIn.prepend ?_ (code "match self")) "EncodeObject" name
    "encode_object" "JsonObject").append _
  refine StandIn.group (.flatMap h ?_)
  rw [ObjectArm.tokens]
  simp only [code_statements, code_declarations]
  exact .self _

end Bindings

/-! ## §2 What layouts write -/

/-- **A case of an enumeration is written as its value.** -/
theorem Layouts.encode_enumCase {s : Schema} (hfaults : s.faults = []) {ls : Layouts}
    (hls : Layouts.ofSchema s = .ok ls) {e : EnumType} (he : .enumeration e ∈ s.namedTypes)
    {c : EnumCase} (hc : c ∈ e.cases) :
    ls.encode e.name (.enumCase c.name) = .ok c.value.toJson := by
  have hwell : e.WellFormed :=
    EnumType.faults_eq_nil_iff.mp (Schema.faults_of_mem_namedTypes hfaults he)
  rw [EnumType.encode_enumCase hls he, encodeEnumCase, EnumType.find?_name hwell hc]

/-- **A tagged case is written with its tag last**, whether a value names it or is routed to it. -/
theorem Layouts.HoldsCases.encode_tag {ls : Layouts} {v : VariantType} {d : Discriminator}
    (h : ls.HoldsCases v d) {c : VariantCase} {tag : Literal} (htag : c.literal? = some tag)
    {value : TypedValue} (hvalue : value.isBare = false) (hchosen : v.chosenCase? value = some c)
    {json : Json} (hjson : ls.encode v.name value = .ok json) :
    ∃ fields : Json.Object, d.key ∉ fields.keys ∧
      json = .object (fields ++ [(d.key, tag.toJson)]) := by
  obtain ⟨c', hc', -, fields, written, -, hwritten, hnew, rfl⟩ :=
    (h.encode_eq_ok_iff hvalue).mp hjson
  obtain rfl := Option.some.inj (hchosen.symm.trans hc')
  have hslot : d.slot c = .fixed tag := by rw [Discriminator.slot, htag]
  rw [hslot, encodeDiscriminator] at hwritten
  split at hwritten
  · cases hwritten
  · obtain rfl := Except.ok.inj hwritten
    exact ⟨fields, hnew, rfl⟩

/-! ## §3 Runs -/

namespace Bindings

open Emit
open Naming (Registry)
open PropertyType (typeLayout?)

variable {R : Registry} {ls : Layouts} {group : TypeItems}

/-- Among the items of a type with a layout is the code of this layout. -/
theorem exists_impl_of_settled {s : Schema} (hls : Layouts.ofSchema s = .ok ls) {t : PropertyType}
    (ht : t ∈ s.namedTypes) {layout : TypeLayout} (hlayout : typeLayout? t = some layout)
    (h : ItemsSettled R ls t group) :
    ∃ i, .encodeImpl i ∈ group.items ∧ ImplSettled R layout i := by
  cases h with
  | unnamed hnone => exact absurd hnone (name?_ne_none ht)
  | declared hname hnone _ =>
    rw [find?_of_mem_namedTypes hls ht hname, hlayout] at hnone
    cases hnone
  | encoded hname hfound _ hi =>
    rw [find?_of_mem_namedTypes hls ht hname, hlayout] at hfound
    obtain rfl := Option.some.inj hfound
    exact ⟨_, by simp, hi⟩

/-- **The code of an enumeration writes each case as the expression of its value.** -/
theorem writesCase_of_settled {type : TypeName} {cases : List EnumCase} {i : EncodeImpl}
    (h : ImplSettled R (.enumeration type cases) i) {c : EnumCase} (hc : c ∈ cases) :
    WritesCase (i.tokens rt) c.name (literalTokens rt c.value) := by
  cases h with
  | enumeration _ harms =>
    rw [settled_caseIdentifiers_iff, List.forall₂_map_left_iff] at harms
    -- the identifiers were zipped with the values, so a case meets its own value
    obtain ⟨name, hname, hmem⟩ := exists_zip_of_forall₂ EnumCase.value harms hc
    exact ⟨name, hname, standIn_enumeration hmem⟩

/-- Each case that is written as an object has its arm. -/
theorem exists_arm_of_settled {variant : TypeName} {case key : String} {fields : List FieldLayout}
    {slot : DiscriminatorSlot} {layouts : List CaseLayout}
    (hmem : .object case fields key slot ∈ layouts) :
    ∀ {arms : List ObjectArm}, (objectArms variant layouts).Settled R arms →
      ∃ arm ∈ arms, ArmSettled R variant (.object case fields key slot) arm := by
  induction layouts with
  | nil => exact absurd hmem List.not_mem_nil
  | cons l rest ih =>
    intro arms harms
    cases l with
    | bare name kind value =>
      obtain hrest : CaseLayout.object case fields key slot ∈ rest := by simpa using hmem
      exact ih hrest harms
    | object case' fields' key' slot' =>
      obtain ⟨arm, harm, others, hothers, rfl⟩ := settled_objectArms_cons_iff.mp harms
      rcases List.mem_cons.mp hmem with heq | hrest
      · rw [heq]
        exact ⟨arm, List.mem_cons_self, armSettled_of_settled harm⟩
      · obtain ⟨arm', hmem', harm'⟩ := ih hrest hothers
        exact ⟨arm', List.mem_cons_of_mem _ hmem', harm'⟩

/-- **The code of a variant writes the tag of a case last**, as the expression of the tag. -/
theorem writesLast_of_settled {v : VariantType} {d : Discriminator} (hcases : ls.HoldsCases v d)
    {layouts : List CaseLayout} (hlayouts : v.allCases.mapM v.caseLayout = .ok layouts)
    {i : EncodeImpl} (h : ImplSettled R (.variant ⟨v, layouts⟩) i) {c : VariantCase}
    (hc : c ∈ v.allCases) {tag : Literal} (htag : c.literal? = some tag) :
    WritesLast (i.tokens rt) c.name d.key (literalTokens rt tag) := by
  have hslot : d.slot c = .fixed tag := by rw [Discriminator.slot, htag]
  have hlayout := hcases.caseLayout_eq hc
  rw [hslot] at hlayout
  cases h with
  | bare hprimitive _ _ =>
    have hnone : v.discriminator = none := by simpa [VariantType.isPrimitive] using hprimitive
    cases hnone.symm.trans hcases.discriminator
  | object _ _ harms =>
    obtain ⟨l, hmem, hl⟩ := exists_right_of_forall₂ (mapM_eq_ok_iff.mp hlayouts) hc
    obtain rfl := Except.ok.inj (hlayout.symm.trans hl)
    obtain ⟨arm, harm, hsettled⟩ := exists_arm_of_settled hmem harms
    cases hsettled with
    | fixed hname _ =>
      obtain ⟨bindings, before, hstand⟩ := standIn_object harm rfl
      exact ⟨_, bindings, before, hname, hstand⟩

/-- **The value of a case, both ways.**  The layouts write the value, and the code writes the case
as an expression.  If the value was read from a document, the expression builds one value, and that
is the value itself unless it is a wide integer. -/
def CaseAgrees (ls : Layouts) (rt : RuntimePath) (e : EnumType) (c : EnumCase) (ts : List Token) :
    Prop :=
  ls.encode e.name (.enumCase c.name) = .ok c.value.toJson ∧
    ∃ expression, WritesCase ts c.name expression ∧
      ∀ j : Json, j.IsHeld → Literal.ofJson? j = some c.value →
        (∀ w, Builds rt expression w ↔ w = c.value.built) ∧
          (Builds rt expression c.value.toJson ↔ ¬c.value.IsWide)

/-- **The tag of a case, both ways.**  Values of the case are written with the tag last, and so does
the code, as an expression that builds the tag and nothing else. -/
def TagAgrees (ls : Layouts) (rt : RuntimePath) (v : VariantType) (d : Discriminator)
    (c : VariantCase) (tag : Literal) (ts : List Token) : Prop :=
  (∀ value json, value.isBare = false → v.chosenCase? value = some c →
      ls.encode v.name value = .ok json → ∃ fields : Json.Object, d.key ∉ fields.keys ∧
        json = .object (fields ++ [(d.key, tag.toJson)])) ∧
    ∃ expression, WritesLast ts c.name d.key expression ∧
      ∀ w, Builds rt expression w ↔ w = tag.toJson

theorem caseAgrees_of_settled {s : Schema} (hfaults : s.faults = [])
    (hls : Layouts.ofSchema s = .ok ls) {e : EnumType} (he : .enumeration e ∈ s.namedTypes)
    {i : EncodeImpl} (hi : ImplSettled R (.enumeration e.name e.cases) i) {c : EnumCase}
    (hc : c ∈ e.cases) : CaseAgrees ls rt e c (i.tokens rt) := by
  refine ⟨Layouts.encode_enumCase hfaults hls he hc, _, writesCase_of_settled hi hc, ?_⟩
  intro j hj hvalue
  have hfinite : ∀ n, c.value = .number n → n.toBinary64.isFinite = true := by
    intro n hn
    rw [hn] at hvalue
    exact (hj n (Literal.eq_number_of_ofJson? hvalue)).isFinite_toBinary64
  have hbuilt := builds_literalTokens rt hfinite
  exact ⟨fun w => ⟨fun hw => hw.unique hbuilt, fun hw => hw ▸ hbuilt⟩,
    builds_toJson_iff rt hfinite⟩

theorem tagAgrees_of_settled {v : VariantType} {d : Discriminator} (hcases : ls.HoldsCases v d)
    {layouts : List CaseLayout} (hlayouts : v.allCases.mapM v.caseLayout = .ok layouts)
    {i : EncodeImpl} (hi : ImplSettled R (.variant ⟨v, layouts⟩) i) {c : VariantCase}
    (hc : c ∈ v.allCases) {tag : Literal} (htag : c.literal? = some tag)
    (hnumber : tag.isNumber = false) : TagAgrees ls rt v d c tag (i.tokens rt) := by
  refine ⟨fun value json hvalue hchosen hjson =>
    hcases.encode_tag htag hvalue hchosen hjson, _,
    writesLast_of_settled hcases hlayouts hi hc htag, ?_⟩
  have hbuilds : Builds rt (literalTokens rt tag) tag.toJson := by
    refine (builds_toJson_iff rt ?_).mpr ?_
    · rintro n rfl
      cases hnumber
    · rintro ⟨i, rfl⟩
      cases hnumber
  exact fun w => ⟨fun hw => hw.unique hbuilds, fun hw => hw ▸ hbuilds⟩

/-- A tag that fits a variant is no fraction. -/
theorem isNumber_of_fits {v : VariantType} {d : Discriminator} {c : VariantCase} {tag : Literal}
    (h : v.Fits c) (hd : v.discriminator = some d) (htag : c.literal? = some tag) :
    tag.isNumber = false := by
  unfold VariantCase.literal? at htag
  unfold VariantType.Fits at h
  cases hc : c.tag with
  | literal l =>
    simp only [hc] at htag h
    simp only [hd] at h
    obtain rfl := Option.some.inj htag
    exact h.1
  | kind k =>
    simp only [hc] at htag
    cases htag
  | fallback =>
    simp only [hc] at htag
    cases htag

/-- **The fixed values of a type agree** with the code among its items: those of an enumeration case
by case, and those of a variant with a discriminator tag by tag. -/
def FixedValuesAgree (ls : Layouts) (rt : RuntimePath) (t : PropertyType) (items : List Item) :
    Prop :=
  (∀ type, t = .enumeration type → ∃ i, .encodeImpl i ∈ items ∧
    ∀ c ∈ type.cases, CaseAgrees ls rt type c (i.tokens rt)) ∧
  ∀ v d, t = .variant v → v.discriminator = some d → ∃ i, .encodeImpl i ∈ items ∧
    ∀ c ∈ v.allCases, ∀ tag, c.literal? = some tag → TagAgrees ls rt v d c tag (i.tokens rt)

/-- **Fixed values are one value in emitted code and by layouts, except for wide integers.**  In
every run over an accepted model, each case of each enumeration and each tag of each variant with a
discriminator is written by the layouts as its JSON value, and emitted as an expression that builds
exactly one value.  For a tag the two are the same; for the value of a case that was read from a
document they are, exactly if it is no integer above the signed 64-bit ones. -/
theorem fixed_values_agree {s : Schema} (hvalid : s.validate = .ok s) {o : Options} {e : Emitted}
    (he : emit o s = .ok e) :
    ∃ ls groups, Layouts.ofSchema s = .ok ls ∧ groups.flatten = e.typeItems ∧
      List.Forall₂ (FixedValuesAgree ls e.runtime) s.namedTypes groups := by
  obtain ⟨hfaults, -⟩ := Schema.validate_eq_ok_iff.mp hvalid
  have hls := Layouts.ofSchema_eq fun t ht => Schema.faults_of_mem_namedTypes hfaults ht
  obtain ⟨R, hrun⟩ := runSettled_of_emit he
  obtain ⟨groups, hflatten, hgroups⟩ := hrun.exists_groups hls
  refine ⟨s.layouts, groups.map TypeItems.items, hls, hflatten,
    List.forall₂_map_right_iff.mpr (hgroups.imp ?_)⟩
  rintro t group ⟨ht, hitems⟩
  constructor
  · rintro type rfl
    obtain ⟨i, hmem, hi⟩ := exists_impl_of_settled hls ht rfl hitems
    exact ⟨i, hmem, fun c hc => caseAgrees_of_settled hfaults hls ht hi hc⟩
  · rintro v d rfl hd
    obtain ⟨layouts, hlayouts⟩ := Layouts.exists_caseLayouts_of_ofSchema hls ht
    have hlayout : typeLayout? (.variant v) = some (.variant ⟨v, layouts⟩) := by
      rw [typeLayout?, hlayouts]
      rfl
    have hcases := Layouts.holdsCases hfaults hls ht hd
    have hwell := VariantType.faults_eq_nil_iff.mp (Schema.faults_of_mem_namedTypes hfaults ht)
    obtain ⟨i, hmem, hi⟩ := exists_impl_of_settled hls ht hlayout hitems
    refine ⟨i, hmem, fun c hc tag htag => ?_⟩
    exact tagAgrees_of_settled hcases hlayouts hi hc htag
      (isNumber_of_fits (hwell.fits c hc) hd htag)

/-- The levels of a reading: a word with a quote and a line end in it, a fraction, the least signed
integer, and a truth value. -/
def readingLevel : EnumType where
  name := .property "level"
  description := none
  cases := [⟨"Word", .string "so\n\"so\""⟩, ⟨"Fraction", .number (.float ⟨0xBFF8000000000000⟩)⟩,
    ⟨"Least", .integer Int64.minValue⟩, ⟨"Yes", .bool true⟩]

/-- A plan with fixed values of all kinds, as values of an enumeration and as a tag. -/
def readings : Schema where
  name := "Readings"
  metadata := .unknown
  customTypes := [("contact", .variant signUpContact)]
  properties := [("level", .enumeration readingLevel)]
  rules := []

/-- In a run over readings the values of the levels and the tag of a contact agree. -/
theorem fixed_values_agree_readings : ∃ e ls groups, emit {} readings = .ok e ∧
    Layouts.ofSchema readings = .ok ls ∧ groups.flatten = e.typeItems ∧
    List.Forall₂ (FixedValuesAgree ls e.runtime)
      [.variant signUpContact, .enumeration readingLevel] groups := by
  obtain ⟨e, he⟩ : ∃ e, emit {} readings = .ok e := exists_emit_default (by decide +kernel)
  obtain ⟨ls, groups, hls, hflatten, hagree⟩ := fixed_values_agree (s := readings)
    (Schema.validate_eq_ok_iff.mpr ⟨rfl, rfl⟩) he
  exact ⟨e, ls, groups, he, hls, hflatten, hagree⟩

/-- One value, just above the signed 64-bit integers. -/
def wideLevel : EnumType where
  name := .property "level"
  description := none
  cases := [⟨"Wide", .number (.integer 18446744073709551615)⟩]

/-- A plan with the value. -/
def wideReadings : Schema where
  name := "Readings"
  metadata := .unknown
  customTypes := []
  properties := [("level", .enumeration wideLevel)]
  rules := []

/-- **A wide integer is built as the nearest number**: the layouts write the integer of an accepted
model as a document holds it, and no code that is emitted for its case builds it. -/
theorem wide_value_differs :
    wideReadings.validate = .ok wideReadings ∧
      Json.IsHeld (.number (.integer 18446744073709551615)) ∧
      Literal.ofJson? (.number (.integer 18446744073709551615)) =
        some (.number (.integer 18446744073709551615)) ∧
      ∃ e ls i, emit {} wideReadings = .ok e ∧ Layouts.ofSchema wideReadings = .ok ls ∧
        ls.encode wideLevel.name (.enumCase "Wide") =
          .ok (.number (.integer 18446744073709551615)) ∧
        .encodeImpl i ∈ e.typeItems ∧
        ∃ expression, WritesCase (i.tokens e.runtime) "Wide" expression ∧
          Builds e.runtime expression (.number (.float ⟨0x43F0000000000000⟩)) ∧
          ¬Builds e.runtime expression (.number (.integer 18446744073709551615)) := by
  have hheld : Json.IsHeld (.number (.integer 18446744073709551615)) := by
    rintro n hn
    obtain rfl := Json.number.inj hn
    exact ⟨by decide, by decide⟩
  have hfaults : wideReadings.faults = [] := rfl
  have hls := Layouts.ofSchema_eq (s := wideReadings) fun t ht =>
    Schema.faults_of_mem_namedTypes hfaults ht
  have hmem : .enumeration wideLevel ∈ wideReadings.namedTypes := List.mem_singleton.mpr rfl
  obtain ⟨e, he⟩ : ∃ e, emit {} wideReadings = .ok e := exists_emit_default (by decide +kernel)
  obtain ⟨R, hrun⟩ := runSettled_of_emit he
  obtain ⟨groups, hflatten, hgroups⟩ := hrun.exists_groups hls
  obtain ⟨group, hgroup, ht, hsettled⟩ := exists_right_of_forall₂ hgroups hmem
  obtain ⟨i, hi, himpl⟩ := exists_impl_of_settled hls ht rfl hsettled
  have hfinite : ∀ n, Literal.number (.integer 18446744073709551615) = .number n →
      n.toBinary64.isFinite = true := by
    rintro n hn
    obtain rfl := Literal.number.inj hn
    exact (hheld _ rfl).isFinite_toBinary64
  have hnearest : Binary64.ofInt 18446744073709551615 = ⟨0x43F0000000000000⟩ := by
    decide +kernel
  have hbuilt := builds_literalTokens e.runtime hfinite
  rw [Literal.built, Json.Number.toBinary64, hnearest] at hbuilt
  refine ⟨Schema.validate_eq_ok_iff.mpr ⟨rfl, rfl⟩, hheld, by decide, e, _, i, he, hls,
    Layouts.encode_enumCase hfaults hls ht (List.mem_singleton.mpr rfl), ?_, _,
    writesCase_of_settled himpl (List.mem_singleton.mpr rfl), hbuilt, ?_⟩
  · rw [← hflatten]
    exact List.mem_flatten.mpr ⟨group.items, List.mem_map.mpr ⟨group, hgroup, rfl⟩, hi⟩
  · intro h
    cases Json.number.inj (h.unique hbuilt)

end Bindings

end TrackingPlan
