import TrackingPlan.Schema.Validation
import Mathlib.Data.List.Nodup
import Mathlib.Data.List.Pairwise

/-!
# When a type has no fault

Validation gathers faults in one pass, with what was met before in accumulators.  Here each pass is
read as a statement about the whole list: the keys of a record differ, the values and names of an
enumeration differ, and the cases of a variant differ and fit it (`VariantType.WellFormed`).
-/

namespace TrackingPlan

/-! ## §1 Lists without repetition, by one pass -/

/-- The elements stand in `R` to each other in order, and those of `seen` to all of them. -/
def DistinctFrom {α : Type} (R : α → α → Prop) (seen xs : List α) : Prop :=
  (∀ a ∈ seen, ∀ x ∈ xs, R a x) ∧ xs.Pairwise R

section DistinctFrom

variable {α : Type} {R : α → α → Prop} {seen xs : List α}

theorem distinctFrom_nil : DistinctFrom R seen [] :=
  ⟨fun _ _ _ h => absurd h List.not_mem_nil, .nil⟩

theorem distinctFrom_cons {x : α} :
    DistinctFrom R seen (x :: xs) ↔ (∀ a ∈ seen, R a x) ∧ DistinctFrom R (x :: seen) xs := by
  simp only [DistinctFrom, List.forall_mem_cons, List.pairwise_cons]
  constructor
  · rintro ⟨hseen, hx, hxs⟩
    exact ⟨fun a ha => (hseen a ha).1, ⟨hx, fun a ha => (hseen a ha).2⟩, hxs⟩
  · rintro ⟨hseen, ⟨hx, hrest⟩, hxs⟩
    exact ⟨fun a ha => ⟨hseen a ha, hrest a ha⟩, hx, hxs⟩

theorem distinctFrom_start : DistinctFrom R [] xs ↔ xs.Pairwise R := by
  simp [DistinctFrom]

/-- Two lists, the second after all of the first. -/
theorem DistinctFrom.append {seen' ys : List α} (hxs : DistinctFrom R seen xs)
    (hys : DistinctFrom R seen' ys) (hsub : ∀ a, a ∈ seen ∨ a ∈ xs → a ∈ seen') :
    DistinctFrom R seen (xs ++ ys) := by
  refine ⟨fun a ha x hx => ?_, List.pairwise_append.mpr ⟨hxs.2, hys.2, fun a ha y hy => ?_⟩⟩
  · rcases List.mem_append.mp hx with hleft | hright
    · exact hxs.1 a ha x hleft
    · exact hys.1 a (hsub a (.inl ha)) x hright
  · exact hys.1 a (hsub a (.inr ha)) y hy

/-- Two lists, the second seen from the end of the first. -/
theorem distinctFrom_append {ys : List α} :
    DistinctFrom R seen (xs ++ ys) ↔
      DistinctFrom R seen xs ∧ DistinctFrom R (xs.reverse ++ seen) ys := by
  induction xs generalizing seen with
  | nil => exact (and_iff_right distinctFrom_nil).symm
  | cons x rest ih =>
    rw [List.cons_append, distinctFrom_cons, distinctFrom_cons, ih, List.reverse_cons,
      List.append_assoc, List.singleton_append, and_assoc]

/-- One more element, if there is one. -/
theorem distinctFrom_toList_append {x : Option α} :
    DistinctFrom R seen (x.toList ++ xs) ↔
      (∀ y, x = some y → ∀ a ∈ seen, R a y) ∧ DistinctFrom R (x.toList ++ seen) xs := by
  cases x with
  | none => simp
  | some y => simp [distinctFrom_cons]

end DistinctFrom

/-- No element stands earlier exactly when the list repeats none. -/
theorem firstRepeated?_eq_none_iff {α : Type} [BEq α] [LawfulBEq α] {xs : List α} :
    firstRepeated? xs = none ↔ xs.Nodup := by
  have h : ∀ seen, firstRepeatedFrom seen xs = none ↔ DistinctFrom (· ≠ ·) seen xs := by
    induction xs with
    | nil => exact fun seen => iff_of_true rfl distinctFrom_nil
    | cons x rest ih =>
      intro seen
      rw [distinctFrom_cons, ← ih, firstRepeatedFrom]
      by_cases hx : x ∈ seen
      · simp only [List.contains_iff_mem.mpr hx, if_true, reduceCtorEq, false_iff, not_and]
        exact fun hne => absurd rfl (hne x hx)
      · have hne : ∀ a ∈ seen, a ≠ x := fun a ha heq => hx (heq ▸ ha)
        have hx' : seen.contains x = false := by simpa using hx
        simp only [hx', Bool.false_eq_true, if_false]
        exact (and_iff_right hne).symm
  exact (h []).trans distinctFrom_start

/-! ## §2 Records and enumerations -/

theorem ensureUniqueKeys_eq_ok_iff {owner : TypeName} {fields : List Field} :
    ensureUniqueKeys owner fields = .ok () ↔ (fields.map Field.key).Nodup := by
  rw [← firstRepeated?_eq_none_iff]
  unfold ensureUniqueKeys
  cases firstRepeated? (fields.map Field.key) <;> simp

theorem fieldFaults_eq_nil_iff {owner : TypeName} {fields : List Field} :
    fieldFaults owner fields = [] ↔ (fields.map Field.key).Nodup := by
  have hunique : ensureUniqueKeys owner fields = .ok () ↔ _ := ensureUniqueKeys_eq_ok_iff
  rw [← hunique, fieldFaults]
  cases ensureUniqueKeys owner fields <;> simp

/-- The two literals are not one value. -/
def Literal.Differs (l m : Literal) : Prop :=
  l.equals m = false

theorem not_any_equals_iff {seen : List Literal} {l : Literal} :
    (seen.any fun x => x.equals l) = false ↔ ∀ a ∈ seen, a.Differs l := by
  simp [Literal.Differs]

theorem EnumType.caseFaults_eq_nil_iff {e : EnumType} {cases : List EnumCase} :
    ∀ {values : List Literal} {names : List String}, e.caseFaults values names cases = [] ↔
      DistinctFrom Literal.Differs values (cases.map EnumCase.value) ∧
        DistinctFrom (· ≠ ·) names (cases.map EnumCase.name) := by
  induction cases with
  | nil => exact fun {_ _} => iff_of_true rfl ⟨distinctFrom_nil, distinctFrom_nil⟩
  | cons c rest ih =>
    intro values names
    have hname : (∀ a ∈ names, a ≠ c.name) ↔ c.name ∉ names :=
      ⟨fun h hmem => h _ hmem rfl, fun h a ha heq => h (heq ▸ ha)⟩
    simp only [EnumType.caseFaults, List.append_eq_nil_iff, ih, List.map_cons, distinctFrom_cons,
      hname, ← not_any_equals_iff]
    cases hv : values.any fun x => x.equals c.value <;> by_cases hn : c.name ∈ names <;>
      simp [hn]

/-- **The values of an enumeration differ, and so do the names of its cases.** -/
structure EnumType.WellFormed (e : EnumType) : Prop where
  values : (e.cases.map EnumCase.value).Pairwise Literal.Differs
  names : (e.cases.map EnumCase.name).Nodup

theorem EnumType.faults_eq_nil_iff {e : EnumType} :
    e.caseFaults [] [] e.cases = [] ↔ e.WellFormed := by
  rw [EnumType.caseFaults_eq_nil_iff, distinctFrom_start, distinctFrom_start]
  exact ⟨fun ⟨hv, hn⟩ => ⟨hv, hn⟩, fun ⟨hv, hn⟩ => ⟨hv, hn⟩⟩

/-! ## §3 Variants -/

namespace VariantType

/-- **The case fits the variant.**  With a discriminator a case is the default case, or has a tag
that is no fraction and leaves the discriminator's key alone; without one it wraps one value. -/
def Fits (v : VariantType) (c : VariantCase) : Prop :=
  match c.tag, v.discriminator with
  | .literal l, some d => l.isNumber = false ∧ d.key ∉ c.fields.map Field.key
  | .fallback, some _ => True
  | .kind _, none => c.fields.length = 1
  | _, _ => False

theorem tagFaults_eq_nil_iff {v : VariantType} {tags : List Literal} {c : VariantCase} :
    v.tagFaults tags c = [] ↔
      v.Fits c ∧ ∀ t, v.tagKey? c = some t → ∀ a ∈ tags, a.Differs t := by
  unfold tagFaults Fits tagKey?
  cases htag : c.tag with
  | literal l =>
    cases hdisc : v.discriminator with
    | none => simp
    | some d =>
      have hkey : (c.fields.any fun f => f.key == d.key) = true ↔
          d.key ∈ c.fields.map Field.key := by simp
      simp only [Option.some.injEq, forall_eq', ← not_any_equals_iff, ← hkey]
      cases l.isNumber <;> cases tags.any fun x => x.equals l <;>
        cases c.fields.any fun f => f.key == d.key <;> simp
  | kind k =>
    cases hdisc : v.discriminator with
    | none =>
      simp only [Option.some.injEq, forall_eq', ← not_any_equals_iff]
      by_cases hlen : c.fields.length = 1 <;>
        cases tags.any fun x => x.equals (.string k.text) <;> simp [hlen]
    | some d => simp
  | fallback => cases hdisc : v.discriminator <;> simp

theorem caseFaults_eq_nil_iff {v : VariantType} {cases : List VariantCase} :
    ∀ {names : List String} {tags : List Literal}, v.caseFaults names tags cases = [] ↔
      DistinctFrom (· ≠ ·) names (cases.map VariantCase.name) ∧
        (∀ c ∈ cases, (c.fields.map Field.key).Nodup ∧ v.Fits c) ∧
        DistinctFrom Literal.Differs tags (cases.filterMap v.tagKey?) := by
  induction cases with
  | nil =>
    exact fun {_ _} => iff_of_true rfl
      ⟨distinctFrom_nil, fun _ h => absurd h List.not_mem_nil, distinctFrom_nil⟩
  | cons c rest ih =>
    intro names tags
    have hname : (∀ a ∈ names, a ≠ c.name) ↔ c.name ∉ names :=
      ⟨fun h hmem => h _ hmem rfl, fun h a ha heq => h (heq ▸ ha)⟩
    have htags : (c :: rest).filterMap v.tagKey? =
        (v.tagKey? c).toList ++ rest.filterMap v.tagKey? := by
      cases h : v.tagKey? c <;> simp [h]
    have hfirst : (if names.contains c.name then
        [SchemaError.duplicate .variantCase (v.name.name ++ "." ++ c.name)] else []) = [] ↔
        c.name ∉ names := by
      by_cases h : c.name ∈ names <;> simp [h]
    simp only [caseFaults, List.append_eq_nil_iff, hfirst, fieldFaults_eq_nil_iff,
      tagFaults_eq_nil_iff, ih, List.map_cons, distinctFrom_cons, hname, List.forall_mem_cons,
      htags, distinctFrom_toList_append]
    tauto

/-- **A variant as it should be**: its cases have different names, each has different keys and fits
the variant, no two tags are one value, there is a case, and the default case is tagged as such. -/
structure WellFormed (v : VariantType) : Prop where
  names : (v.allCases.map VariantCase.name).Nodup
  keys : ∀ c ∈ v.allCases, (c.fields.map Field.key).Nodup
  fits : ∀ c ∈ v.allCases, v.Fits c
  tags : (v.allCases.filterMap v.tagKey?).Pairwise Literal.Differs
  nonempty : v.allCases ≠ []
  default : ∀ c, v.defaultCase = some c → c.tag = .fallback

/-- **A variant has no fault exactly when it is well formed.** -/
theorem faults_eq_nil_iff {v : VariantType} : v.faults = [] ↔ v.WellFormed := by
  have hempty : (if v.allCases.isEmpty then
      [SchemaError.invalidVariant v.name.name .noCases] else []) = [] ↔ v.allCases ≠ [] := by
    cases v.allCases <;> simp
  have hdefault : (if v.defaultCase.any (!·.isDefault) then
      [SchemaError.invalidVariant v.name.name .defaultNotTagged] else []) = [] ↔
      ∀ c, v.defaultCase = some c → c.tag = .fallback := by
    cases v.defaultCase <;> simp [VariantCase.isDefault]
  rw [faults, List.append_eq_nil_iff, List.append_eq_nil_iff, hempty, hdefault,
    caseFaults_eq_nil_iff, distinctFrom_start, distinctFrom_start]
  constructor
  · rintro ⟨⟨⟨hnames, hcases, htags⟩, hne⟩, hdflt⟩
    exact ⟨hnames, fun c hc => (hcases c hc).1, fun c hc => (hcases c hc).2, htags, hne, hdflt⟩
  · rintro ⟨hnames, hkeys, hfits, htags, hne, hdflt⟩
    exact ⟨⟨⟨hnames, fun c hc => ⟨hkeys c hc, hfits c hc⟩, htags⟩, hne⟩, hdflt⟩

end VariantType

/-! ## §4 Rules -/

/-- **A fault of the rules**: one describes a call that an earlier one describes, or is for a track
call without a name. -/
inductive RuleFault (rules : List Rule) : SchemaError → Prop
  | duplicate {before after : List Rule} {r : Rule} : rules = before ++ r :: after →
      r.key ∈ before.map Rule.key → RuleFault rules (.duplicate .eventRule r.callText)
  | unnamed {r : Rule} : r ∈ rules → r.event.kind = .track → Text.isBlankText r.event.name = true →
      RuleFault rules (.invalidType r.payloadTypeName .unnamedTrack)

theorem duplicateRuleFaults_eq_nil_iff {rules : List Rule} :
    ∀ {seen : List (CallKind × String × CallPart)}, duplicateRuleFaults seen rules = [] ↔
      DistinctFrom (· ≠ ·) seen (rules.map Rule.key) := by
  induction rules with
  | nil => exact fun {_} => iff_of_true rfl distinctFrom_nil
  | cons r rest ih =>
    intro seen
    have hkey : (∀ a ∈ seen, a ≠ r.key) ↔ r.key ∉ seen :=
      ⟨fun h hmem => h _ hmem rfl, fun h a ha heq => h (heq ▸ ha)⟩
    simp only [duplicateRuleFaults, List.append_eq_nil_iff, ih, List.map_cons, distinctFrom_cons,
      hkey]
    by_cases hseen : r.key ∈ seen <;> simp [hseen]

theorem mem_duplicateRuleFaults {rules : List Rule} {e : SchemaError} :
    ∀ {seen : List (CallKind × String × CallPart)}, e ∈ duplicateRuleFaults seen rules →
      ∃ before r after, rules = before ++ r :: after ∧
        (r.key ∈ seen ∨ r.key ∈ before.map Rule.key) ∧ e = .duplicate .eventRule r.callText := by
  induction rules with
  | nil => exact fun h => absurd h List.not_mem_nil
  | cons first rest ih =>
    intro seen h
    rcases List.mem_append.mp h with hfirst | hrest
    · split at hfirst
      · rename_i hseen
        exact ⟨[], first, rest, rfl, .inl (List.contains_iff_mem.mp hseen),
          List.mem_singleton.mp hfirst⟩
      · exact absurd hfirst List.not_mem_nil
    · obtain ⟨before, r, after, rfl, hkey, he⟩ := ih hrest
      refine ⟨first :: before, r, after, rfl, ?_, he⟩
      rw [List.mem_cons] at hkey
      rw [List.map_cons, List.mem_cons]
      tauto

/-- A rule whose payload is an object can only lack the name of its call. -/
theorem Rule.faults_of_object {r : Rule}
    (h : ∀ t, r.payload.type? = some t → t.isObject = true) :
    r.faults = if r.event.kind = .track ∧ Text.isBlankText r.event.name = true then
      [.invalidType r.payloadTypeName .unnamedTrack] else [] := by
  unfold Rule.faults
  cases hpayload : r.payload with
  | typed t =>
    have ht := h t (by rw [hpayload]; rfl)
    simp only [ht, if_true, List.append_nil, Bool.and_eq_true, beq_iff_eq]
  | empty => simp only [List.append_nil, Bool.and_eq_true, beq_iff_eq]
  | untyped => simp only [List.append_nil, Bool.and_eq_true, beq_iff_eq]

/-! ## §5 Models -/

/-- **A model that is accepted has no fault**, and is given back as it is. -/
theorem Schema.validate_eq_ok_iff {s s' : Schema} :
    s.validate = .ok s' ↔ s.faults = [] ∧ s' = s := by
  unfold Schema.validate
  cases h : s.faults <;> simp [eq_comm]

theorem Schema.faults_of_mem_namedTypes {s : Schema} (h : s.faults = []) {t : PropertyType}
    (ht : t ∈ s.namedTypes) : t.faults = [] := by
  obtain ⟨-, hnamed⟩ := List.append_eq_nil_iff.mp h
  exact List.flatMap_eq_nil_iff.mp hnamed t ht

end TrackingPlan
