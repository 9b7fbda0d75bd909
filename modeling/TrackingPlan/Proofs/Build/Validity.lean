import TrackingPlan.Proofs.Build.Cycles
import TrackingPlan.Proofs.Build.Model
import TrackingPlan.Proofs.Schema.NamedTypes

/-!
# What is built is valid

Whatever a document declares, building it either fails or gives a model in which no named type has a
fault and every payload with a type is an object.  So all that validation can find are faults of the
rules, and these can be read off the document.  The document is well-formed, as every one that is
read from a text (`Document.wellFormed_of_ofText`).
-/

namespace TrackingPlan

variable {doc : Document} {σ : BuildState} {s : Schema} {t : PropertyType}

/-- What identifies the call of a rule. -/
def Document.Rule.key (r : Document.Rule) : CallKind × String × CallPart :=
  (r.event.kind, r.event.name, r.part)

namespace Schema.BuiltFrom

/-- **No named type of the model has a fault.** -/
theorem faultless (h : s.BuiltFrom doc σ) (hdoc : doc.WellFormed) (ht : t ∈ s.namedTypes) :
    t.faults = [] := by
  have hreach := reaches_of_mem_namedTypes ht
  cases hn : t.name? with
  | none => cases t <;> first | rfl | cases hn
  | some n =>
    rcases h.knows_or_payload hreach hn with hk | ⟨r, -, -, hof⟩
    · exact (h.made_of_knows hk).faultless hdoc
    · exact hof.made.faultless hdoc

/-- **All faults of the model are faults of its rules.** -/
theorem faults_eq (h : s.BuiltFrom doc σ) (hdoc : doc.WellFormed) :
    s.faults = duplicateRuleFaults [] s.rules ++ s.rules.flatMap fun r =>
      if r.event.kind = .track ∧ Text.isBlankText r.event.name = true then
        [.invalidType r.payloadTypeName .unnamedTrack] else [] := by
  have hnamed : s.namedTypes.flatMap PropertyType.faults = [] :=
    List.flatMap_eq_nil_iff.mpr fun t ht => h.faultless hdoc ht
  have hrules : ∀ r ∈ s.rules, r.faults =
      if r.event.kind = .track ∧ Text.isBlankText r.event.name = true then
        [.invalidType r.payloadTypeName .unnamedTrack] else [] := by
    intro r hr
    refine Rule.faults_of_object fun t ht => ?_
    obtain ⟨_, -, -, hof⟩ := h.payload hr ht
    exact hof.isObject
  rw [Schema.faults, hnamed, List.append_nil, List.flatMap_congr hrules]

theorem ruleFault_of_mem (h : s.BuiltFrom doc σ) (hdoc : doc.WellFormed) {e : SchemaError}
    (he : e ∈ s.faults) : RuleFault s.rules e := by
  rw [h.faults_eq hdoc] at he
  rcases List.mem_append.mp he with hduplicate | hunnamed
  · obtain ⟨before, r, after, hrules, hkey, rfl⟩ := mem_duplicateRuleFaults hduplicate
    exact .duplicate hrules (hkey.resolve_left List.not_mem_nil)
  · obtain ⟨r, hr, he⟩ := List.mem_flatMap.mp hunnamed
    split at he
    · rename_i hblank
      obtain rfl := List.mem_singleton.mp he
      exact .unnamed hr hblank.1 hblank.2
    · exact absurd he List.not_mem_nil

theorem ruleKeys (h : s.BuiltFrom doc σ) :
    s.rules.map Rule.key = doc.rules.map Document.Rule.key := by
  have hkey : ∀ r r', σ.RuleOf doc r r' → r'.key = r.key := by
    intro r r' hr
    rw [Rule.key, hr.event, hr.part]
    rfl
  generalize doc.rules = rules, s.rules = built, h.rules = hrules
  induction hrules with
  | nil => rfl
  | cons hr _ ih => rw [List.map_cons, List.map_cons, hkey _ _ hr, ih]

/-- **The model has no fault** exactly when no two rules of the document describe one call and each
track call is named. -/
theorem faults_eq_nil_iff (h : s.BuiltFrom doc σ) (hdoc : doc.WellFormed) :
    s.faults = [] ↔ (doc.rules.map Document.Rule.key).Nodup ∧
      ∀ r ∈ doc.rules, r.event.kind = .track → Text.isBlankText r.event.name = false := by
  rw [h.faults_eq hdoc, List.append_eq_nil_iff, duplicateRuleFaults_eq_nil_iff, distinctFrom_start,
    h.ruleKeys, List.flatMap_eq_nil_iff]
  refine and_congr Iff.rfl ⟨fun hall r hr htrack => ?_, fun hall r' hr' => ?_⟩
  · obtain ⟨r', hr', hof⟩ := exists_right_of_forall₂ h.rules hr
    have hnone := hall r' hr'
    rw [hof.event] at hnone
    by_contra hblank
    rw [Bool.not_eq_false] at hblank
    rw [if_pos ⟨htrack, hblank⟩] at hnone
    cases hnone
  · obtain ⟨r, hr, hof⟩ := exists_left_of_forall₂ h.rules hr'
    rw [hof.event, if_neg]
    rintro ⟨htrack, hblank⟩
    rw [hall r hr htrack] at hblank
    cases hblank

end Schema.BuiltFrom

/-- **Each variant of a built model is what an alternation resolved to.** -/
theorem Schema.isResolved_of_mem (hs : Schema.ofDocument doc = .ok s) {v : VariantType}
    (hv : .variant v ∈ s.namedTypes) : v.IsResolved := by
  obtain ⟨σ, hrun⟩ := Schema.ofDocument_eq_ok_iff.mp hs
  have hbuilt := Build.schema_eq_ok hrun
  obtain ⟨hσ, -⟩ := (Build.schema_enters doc).gives (BuildState.orderly_start doc) hrun
  have hreach := reaches_of_mem_namedTypes hv
  rcases hbuilt.knows_or_payload hreach rfl with hk | ⟨r, hr, -, hof⟩
  · unfold BuildState.Knows at hk
    split at hk
    · exact hσ.customTypes hk v rfl
    · rcases hk with hk | ⟨_, _, w, -, -, -, hw, hkept⟩
      · exact hσ.properties hk v rfl
      · obtain rfl := PropertyType.variant.inj hw
        exact hσ.resolved hkept
    · exact hσ.nested hk v rfl
    · exact hk.elim
  · by_cases hblocks : r.variants = []
    · exact absurd rfl ((hof.object.plain_of_nil hblocks).ne_variant v)
    · obtain ⟨w, hw, hkept⟩ := hof.object.exists_variant hblocks
      obtain rfl := PropertyType.variant.inj hw
      exact hσ.resolved hkept

/-- **What is built is valid but for its rules.**  Validation gives a built model back, or nothing
but faults of its rules; so a document makes a valid model exactly when it makes a model, no two of
its rules describe one call, and each track call is named. -/
theorem Document.validate_of_ofDocument (hdoc : doc.WellFormed) :
    (∀ s, Schema.ofDocument doc = .ok s → s.validate = .ok s ∨
      ∃ faults, faults ≠ [] ∧ s.validate = .error (.validationFailed faults) ∧
        ∀ e ∈ faults, RuleFault s.rules e) ∧
    ((∃ s, doc.toSchema = .ok s) ↔ (∃ s, Schema.ofDocument doc = .ok s) ∧
      (doc.rules.map Document.Rule.key).Nodup ∧
      ∀ r ∈ doc.rules, r.event.kind = .track → Text.isBlankText r.event.name = false) := by
  refine ⟨fun s hs => ?_, ?_⟩
  · obtain ⟨σ, hbuilt⟩ := Schema.builtFrom_of_ofDocument hs
    by_cases hnone : s.faults = []
    · exact .inl (Schema.validate_eq_ok_iff.mpr ⟨hnone, rfl⟩)
    · refine .inr ⟨s.faults, hnone, ?_, fun e he => hbuilt.ruleFault_of_mem hdoc he⟩
      unfold Schema.validate
      simp only [List.isEmpty_iff, if_neg hnone]
  · constructor
    · rintro ⟨s, hs⟩
      obtain ⟨s₀, hs₀, hvalid⟩ := except_bind_eq_ok.mp hs
      obtain ⟨σ, hbuilt⟩ := Schema.builtFrom_of_ofDocument hs₀
      obtain ⟨hnone, -⟩ := Schema.validate_eq_ok_iff.mp hvalid
      exact ⟨⟨s₀, hs₀⟩, (hbuilt.faults_eq_nil_iff hdoc).mp hnone⟩
    · rintro ⟨⟨s, hs⟩, hrules⟩
      obtain ⟨σ, hbuilt⟩ := Schema.builtFrom_of_ofDocument hs
      have hnone := (hbuilt.faults_eq_nil_iff hdoc).mpr hrules
      exact ⟨s, except_bind_eq_ok.mpr ⟨s, hs, Schema.validate_eq_ok_iff.mpr ⟨hnone, rfl⟩⟩⟩

theorem Document.shop_valid : ∃ s, Document.shop.toSchema = .ok s :=
  (validate_of_ofDocument (by decide)).2.mpr ⟨⟨_, rfl⟩, by decide, by decide⟩

end TrackingPlan
