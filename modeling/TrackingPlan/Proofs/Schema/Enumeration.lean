import TrackingPlan.Schema.Enumeration
import TrackingPlan.Proofs.Json.ScalarText
import TrackingPlan.Proofs.Naming.Registry
import TrackingPlan.Proofs.Schema.Faults
import TrackingPlan.Proofs.Steps

/-!
# Names made for literals

The registry knows a literal by its JSON text.  Literals that are read from JSON and are not one
value have different texts (`Literal.equals_of_text_eq`), so each asks as a new id and gets a name
of its own (`Registry.Names.register`).  So the enumeration of some values has no fault.
-/

namespace TrackingPlan

open Naming (Registry appendNumber)

/-! ## §1 Literals by their texts -/

namespace Literal

/-- **A literal as it is read**: a number is kept as one only if it is no 64-bit integer, and is
finite. -/
def Canonical : Literal → Prop
  | .number n => n.toInt64? = none ∧ n.IsFinite
  | _ => True

theorem canonical_of_ofJson? {j : Json} {l : Literal} (hj : j.IsFinite) (h : ofJson? j = some l) :
    l.Canonical := by
  cases j with
  | number n =>
    rw [ofJson?] at h
    cases hn : n.toInt64? with
    | some i =>
      simp only [hn] at h
      obtain rfl := Option.some.inj h
      trivial
    | none =>
      simp only [hn] at h
      obtain rfl := Option.some.inj h
      exact ⟨hn, hj n rfl⟩
  | bool b =>
    obtain rfl := Option.some.inj h
    trivial
  | string s =>
    obtain rfl := Option.some.inj h
    trivial
  | _ => cases h

theorem lead_toJson_ne_none (l : Literal) : l.toJson.lead? ≠ none := by
  cases l <;> exact Option.some_ne_none _

/-- The JSON text of a literal shows in its first character what literal it is. -/
theorem text_ne_empty (l : Literal) : l.text ≠ "" := by
  obtain ⟨k, hk⟩ := Option.ne_none_iff_exists'.mp l.lead_toJson_ne_none
  have hhead := Json.ofChar_head hk
  intro hempty
  rw [show l.toJson.text = "" from hempty] at hhead
  cases hhead

theorem isFinite_toJson {l : Literal} (h : l.Canonical) : l.toJson.IsFinite := by
  intro n hn
  cases l with
  | bool b => cases hn
  | string s => cases hn
  | integer i =>
    obtain rfl := Json.number.inj hn
    exact nofun
  | number m =>
    obtain rfl := Json.number.inj hn
    exact h.2

theorem toInt64?_toInt (i : Int64) : (Json.Number.integer i.toInt).toInt64? = some i := by
  have hlow : Int64.minValue.toInt ≤ i.toInt := Int64.minValue_le_toInt i
  have hhigh : i.toInt ≤ Int64.maxValue.toInt := Int64.toInt_le i
  rw [Json.Number.toInt64?, if_pos ⟨hlow, hhigh⟩, Int64.ofInt_toInt]

/-- **A literal is read back from its JSON value.** -/
theorem ofJson?_toJson {l : Literal} (h : l.Canonical) : ofJson? l.toJson = some l := by
  cases l with
  | bool b => rfl
  | string s => rfl
  | integer i => rw [toJson, Json.ofInt64, ofJson?, toInt64?_toInt]
  | number n => rw [toJson, ofJson?, h.1]

theorem toJson_injective {l m : Literal} (hl : l.Canonical) (hm : m.Canonical)
    (h : l.toJson = m.toJson) : l = m := by
  have hread : ofJson? l.toJson = ofJson? m.toJson := congrArg ofJson? h
  rw [ofJson?_toJson hl, ofJson?_toJson hm] at hread
  exact Option.some.inj hread

theorem equals_self {l : Literal} (h : l.Canonical) : l.equals l = true := by
  cases l with
  | number n => exact Json.Number.equals_self h.2
  | _ => exact beq_self_eq_true _

/-- **The JSON text of a literal tells the literal.** -/
theorem eq_of_text_eq {l m : Literal} (hl : l.Canonical) (hm : m.Canonical)
    (h : l.text = m.text) : l = m := by
  have hjson := Json.eq_of_text_eq l.lead_toJson_ne_none m.lead_toJson_ne_none (isFinite_toJson hl)
    (isFinite_toJson hm) h
  exact toJson_injective hl hm hjson

/-- **Literals with one text are one value.** -/
theorem equals_of_text_eq {l m : Literal} (hl : l.Canonical) (hm : m.Canonical)
    (h : l.text = m.text) : l.equals m = true := by
  obtain rfl := eq_of_text_eq hl hm h
  exact equals_self hl

end Literal

/-! ## §2 Names registered under texts -/

namespace Naming.Registry

/-- **What a registry holds** while names are given out in one scope: ids are the texts of the
literals seen, and the names given out are taken. -/
structure Names (r : Registry) (scope : String) (seen : List Literal) (names : List String) :
    Prop where
  collision : r.onCollision = appendNumber
  canonical : ∀ l ∈ seen, l.Canonical
  ids : ∀ e ∈ r.registrations, ∃ l ∈ seen, e.id = l.text
  taken : ∀ n ∈ names, n ∈ r.taken scope

theorem Names.start (scope : String) : Names {} scope [] [] :=
  ⟨rfl, fun _ h => absurd h List.not_mem_nil, fun _ h => absurd h List.not_mem_nil,
    fun _ h => absurd h List.not_mem_nil⟩

/-- **A literal that is no value seen so far gets a name that was not given out.** -/
theorem Names.register {r r' : Registry} {scope name assigned : String} {seen : List Literal}
    {names : List String} {l : Literal} (hr : r.Names scope seen names) (hl : l.Canonical)
    (hnew : ∀ a ∈ seen, a.Differs l) (h : r.register l.text scope name = .ok (assigned, r')) :
    r'.Names scope (l :: seen) (assigned :: names) ∧ (∀ n ∈ names, n ≠ assigned) ∧
      name ≠ "" ∧ ∃ digits, assigned = name ++ digits := by
  have hids : ∀ e ∈ r.registrations, e.id ≠ l.text := by
    rintro e he hid
    obtain ⟨a, ha, htext⟩ := hr.ids e he
    have hequal := Literal.equals_of_text_eq (hr.canonical a ha) hl (htext.symm.trans hid)
    rw [hnew a ha] at hequal
    cases hequal
  obtain ⟨rfl, hfree, hname, hassigned⟩ := register_new hr.collision hids h
  have htaken : Registry.taken { r with registrations := r.registrations ++
      [⟨scope, l.text, assigned⟩] } scope = r.taken scope ++ [assigned] := by
    simp [Registry.taken]
  refine ⟨⟨hr.collision, List.forall_mem_cons.mpr ⟨hl, hr.canonical⟩, fun e he => ?_, ?_⟩,
    fun n hn heq => hfree (heq ▸ hr.taken n hn), hname, hassigned⟩
  · rcases List.mem_append.mp he with hold | hnew
    · obtain ⟨a, ha, htext⟩ := hr.ids e hold
      exact ⟨a, List.mem_cons_of_mem l ha, htext⟩
    · obtain rfl := List.mem_singleton.mp hnew
      exact ⟨l, List.mem_cons_self, rfl⟩
  · rw [htaken]
    refine List.forall_mem_cons.mpr ⟨by simp, fun n hn => ?_⟩
    exact List.mem_append_left _ (hr.taken n hn)

end Naming.Registry

/-! ## §3 Enumerations -/

namespace EnumType

theorem casesFrom_eq_ok {name : TypeName} {values : List Literal} :
    ∀ {seen : List Literal} {r : Registry} {names : List String} {cases : List EnumCase},
      r.Names name.id seen names → (∀ l ∈ values, l.Canonical) →
      casesFrom name seen values r = .ok cases →
      DistinctFrom Literal.Differs seen (cases.map EnumCase.value) ∧
        DistinctFrom (· ≠ ·) names (cases.map EnumCase.name) := by
  induction values with
  | nil =>
    intro seen r names cases _ _ h
    obtain rfl := Except.ok.inj h
    exact ⟨distinctFrom_nil, distinctFrom_nil⟩
  | cons l rest ih =>
    intro seen r names cases hr hcanonical h
    obtain ⟨hl, hrest⟩ := List.forall_mem_cons.mp hcanonical
    rw [casesFrom] at h
    cases hseen : seen.any (·.equals l) with
    | true =>
      rw [if_pos hseen] at h
      cases h
    | false =>
      simp only [hseen, Bool.false_eq_true, if_false] at h
      obtain ⟨⟨caseName, r'⟩, hregister, h⟩ := except_bind_eq_ok.mp h
      obtain ⟨others, hothers, h⟩ := except_bind_eq_ok.mp h
      obtain rfl := except_pure_eq_ok.mp h
      have hdiffers := not_any_equals_iff.mp hseen
      obtain ⟨hr', hfresh, -, -⟩ := hr.register hl hdiffers (except_mapError_eq_ok.mp hregister)
      obtain ⟨hvalues, hnames⟩ := ih hr' hrest hothers
      exact ⟨distinctFrom_cons.mpr ⟨hdiffers, hvalues⟩, distinctFrom_cons.mpr ⟨hfresh, hnames⟩⟩

/-- **The enumeration of some values has no fault.** -/
theorem wellFormed_of_ofValues {name : TypeName} {description : Option String}
    {values : List Literal} {e : EnumType} (hcanonical : ∀ l ∈ values, l.Canonical)
    (h : ofValues name description values = .ok e) : e.WellFormed := by
  unfold ofValues at h
  split at h
  · cases h
  · obtain ⟨cases, hcases, h⟩ := except_bind_eq_ok.mp h
    obtain rfl := except_pure_eq_ok.mp h
    obtain ⟨hvalues, hnames⟩ := casesFrom_eq_ok (.start name.id) hcanonical hcases
    exact ⟨distinctFrom_start.mp hvalues, distinctFrom_start.mp hnames⟩

theorem name_of_ofValues {name : TypeName} {description : Option String} {values : List Literal}
    {e : EnumType} (h : ofValues name description values = .ok e) : e.name = name := by
  unfold ofValues at h
  split at h
  · cases h
  · obtain ⟨cases, -, h⟩ := except_bind_eq_ok.mp h
    obtain rfl := except_pure_eq_ok.mp h
    rfl

end EnumType

end TrackingPlan
