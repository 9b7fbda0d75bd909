import TrackingPlan.Proofs.Build.Entering
import TrackingPlan.Proofs.Build.Model

/-!
# Cycles are found, and building ends

The recursion over custom types is bounded in `Build.customType` by how many there are.  Without the
bound it is the recursion of `Build.customCall`, and the bound is never met: unfolded often enough,
whatever stands for the calls below, the whole build is the same (`Schema.unfolded_eq`).
Building reports a cycle only where a custom type leads back to itself, and where one does, nothing
is built.

§1 how deep the recursion goes · §2 the model · §3 cycles.
-/

namespace TrackingPlan

namespace Build

open BuildState

variable {doc : Document}

/-! ## §1 How deep the recursion goes -/

/-- A call depends on what the calls it makes do. -/
theorem customCall_congr {next next' : List String → String → Build PropertyType}
    {inProgress : List String} {c : String} (h : c ∈ doc.customTypes.keys → c ∉ inProgress →
      next (c :: inProgress) = next' (c :: inProgress)) :
    customCall doc next inProgress c = customCall doc next' inProgress c := by
  unfold customCall
  refine bind_congr fun σ => ?_
  cases σ.customTypes.get? c with
  | some t => rfl
  | none =>
    cases ht : doc.customTypes.get? c with
    | none => rfl
    | some t =>
      dsimp only
      split
      · rfl
      · rename_i hidle
        have hdeclared : c ∈ doc.customTypes.keys := Entries.get?_isSome_iff.mp (by rw [ht]; rfl)
        rw [h hdeclared fun hmem => hidle (List.contains_iff_mem.mpr hmem)]

/-- **The bound is as good as none**: unfolding the recursion often enough gives the same, whatever
stands for the calls below. -/
theorem customType_eq_iterate (deeper : List String → String → Build PropertyType) (left : Nat) :
    ∀ (n : Nat) (inProgress : List String) (c : String), remaining doc inProgress ≤ left →
      remaining doc inProgress < n →
      customType doc left inProgress c = (customCall doc)^[n] deeper inProgress c := by
  induction left with
  | zero =>
    intro n inProgress c hleft hn
    obtain ⟨m, rfl⟩ := Nat.exists_eq_succ_of_ne_zero (Nat.ne_zero_of_lt hn)
    rw [Function.iterate_succ_apply']
    exact customType_zero _ (Nat.le_zero.mp hleft) c
  | succ left ih =>
    intro n inProgress c hleft hn
    obtain ⟨m, rfl⟩ := Nat.exists_eq_succ_of_ne_zero (Nat.ne_zero_of_lt hn)
    rw [Function.iterate_succ_apply', customType_succ]
    refine customCall_congr fun hdeclared hidle => funext fun d => ?_
    have hfewer := remaining_cons_lt hdeclared hidle
    exact ih m (c :: inProgress) d (by omega) (by omega)

/-- `Build.rule` with the custom types built by `custom`. -/
def ruleBy (doc : Document) (custom : String → Build PropertyType) (r : Document.Rule) :
    Build Rule := do
  let event : Event := ⟨r.event.kind, r.event.name, r.event.description⟩
  let name := TypeName.event (Rule.payloadTypeName ⟨event, r.part, .empty⟩)
  if r.variants.isEmpty && r.schema.properties.isEmpty then
    return ⟨event, r.part, if r.schema.additionalProperties then .untyped else .empty⟩
  else
    let type ← objectShape doc custom name r.event.description r.schema r.variants
    return ⟨event, r.part, .typed type⟩

/-- `Build.schema` with the custom types built by `custom`. -/
def schemaBy (doc : Document) (custom : String → Build PropertyType) : Build Schema := do
  let customTypes ← named custom doc.customTypes.keys
  let properties ← named (property doc custom) doc.properties.keys
  let rules ← doc.rules.mapM (ruleBy doc custom)
  return ⟨doc.name, doc.metadata, customTypes, properties, rules⟩

theorem schemaBy_declaredType (doc : Document) : schemaBy doc (declaredType doc) = schema doc :=
  rfl

/-! ## §2 The model -/

theorem named_enters {build : String → Build PropertyType} {entry : String → Entry}
    (hbuild : ∀ name, Enters doc {entry name} PropertyType.IsResolved (build name))
    (names : List String) :
    Enters doc {e | ∃ name ∈ names, e = entry name} (fun _ => True) (named build names) := by
  induction names with
  | nil =>
    refine (Enters.pure trivial).of_subset ?_
    rintro e ⟨name, hname, -⟩
    cases hname
  | cons name rest ih =>
    rw [named]
    refine ((hbuild name).bind fun t _ => ih.map_pure fun _ _ => trivial).of_subset ?_
    rintro e ⟨other, hother, rfl⟩
    rcases List.mem_cons.mp hother with rfl | hmem
    · exact .inl rfl
    · exact .inr ⟨other, hmem, rfl⟩

theorem rule_enters (doc : Document) (r : Document.Rule) :
    Enters doc ∅ (fun _ => True) (rule doc r) := by
  unfold rule
  dsimp only
  split
  · exact .pure trivial
  · exact ((objectShape_enters _ _ r.schema r.variants fun _ c _ _ =>
      declaredType_enters doc c).map_pure fun _ _ => trivial).of_subset (Set.empty_subset _)

theorem rules_enters (doc : Document) (rules : List Document.Rule) :
    Enters doc ∅ (fun _ => True) (rules.mapM (rule doc)) := by
  induction rules with
  | nil => exact .pure trivial
  | cons r rest ih =>
    rw [List.mapM_cons]
    exact ((rule_enters doc r).bind fun _ _ => ih.map_pure fun _ _ => trivial).of_subset
      (Set.empty_subset _)

/-- **Building a model enters all declared custom types.** -/
theorem schema_enters (doc : Document) :
    Enters doc {e | ∃ c ∈ doc.customTypes.keys, e = .customType c} (fun _ => True)
      (schema doc) := by
  refine ((named_enters (declaredType_enters doc) doc.customTypes.keys).bind fun _ _ =>
    (named_enters (fun key => property_enters fun c _ => declaredType_enters doc c)
      doc.properties.keys).bind fun _ _ =>
      (rules_enters doc doc.rules).map_pure fun _ _ => trivial).of_subset ?_
  exact fun e he => .inl he

end Build

namespace Schema

variable {doc : Document} {s : Schema}

theorem run_of_ofDocument_eq_error {e : SchemaError} (h : ofDocument doc = .error e) :
    (Build.schema doc).run {} = .error e := by
  unfold ofDocument at h
  rcases except_bind_eq_error.mp h with h | ⟨_, _, h⟩
  · exact h
  · cases h

/-- **The model of a document by the recursion without a bound**, unfolded `n` times; `deeper`
stands for the calls below. -/
def unfolded (doc : Document) (n : Nat)
    (deeper : List String → String → Build PropertyType) : Except SchemaError Schema := do
  let (schema, _) ← (Build.schemaBy doc ((Build.customCall doc)^[n] deeper [])).run {}
  return schema

/-- **Building ends**: the recursion goes no deeper than there are custom types. -/
theorem unfolded_eq {n : Nat} (h : doc.customTypes.length < n)
    (deeper : List String → String → Build PropertyType) :
    unfolded doc n deeper = ofDocument doc := by
  have hremaining := Build.remaining_le doc []
  have hcustom : (Build.customCall doc)^[n] deeper [] = Build.declaredType doc := by
    funext c
    exact (Build.customType_eq_iterate deeper _ n [] c hremaining (by omega)).symm
  unfold unfolded ofDocument
  rw [hcustom, Build.schemaBy_declaredType]

/-! ## §3 Cycles -/

/-- **A cycle is reported only if there is one.** -/
theorem circular_of_ofDocument {name : String} (h : ofDocument doc = .error (.cyclicType name)) :
    doc.Circular :=
  (Build.schema_enters doc).fails (BuildState.orderly_start doc) (run_of_ofDocument_eq_error h)

/-- **What can be built has no cycle**: on one, each custom type would be entered after itself. -/
theorem not_circular_of_ofDocument (h : ofDocument doc = .ok s) : ¬doc.Circular := by
  rintro ⟨c, hcycle⟩
  obtain ⟨σ, hrun⟩ := ofDocument_eq_ok_iff.mp h
  obtain ⟨hσ, hhas, -⟩ := (Build.schema_enters doc).gives (BuildState.orderly_start doc) hrun
  obtain ⟨d, hd, -⟩ := Relation.TransGen.head'_iff.mp hcycle
  have hentered := hhas (.customType c) (.inr ⟨c, hd.mem_keys, rfl⟩)
  exact Document.not_cycle_of_acc (hσ.grounded hentered) hcycle

/-- **Cycles are found exactly, and building always ends.**  The recursion over custom types goes no
deeper than there are custom types; if one leads back to itself, no model is built; and if none
does, none is reported to. -/
theorem ofDocument_finds_cycles (doc : Document) :
    (∀ n, doc.customTypes.length < n → ∀ deeper, unfolded doc n deeper = ofDocument doc) ∧
      (doc.Circular → ∃ e, ofDocument doc = .error e) ∧
      (¬doc.Circular → ∀ name, ofDocument doc ≠ .error (.cyclicType name)) := by
  refine ⟨fun n h deeper => unfolded_eq h deeper, fun hcircular => ?_, fun hnot name h => ?_⟩
  · exact exists_error_of_not_ok fun s h => not_circular_of_ofDocument h hcircular
  · exact hnot (circular_of_ofDocument h)

end Schema

/-- Nodes with a list of nodes below each. -/
def Document.tree : Document where
  name := "tree"
  metadata := .unknown
  customTypes := [("node", {
    description := none, type := .object, itemType := none, config := none
    schema := some ⟨[("below", ⟨false, none⟩)], false⟩
    variants := [] })]
  properties := [("below", ⟨none, [.array, .null], [.custom "node"], none⟩)]
  rules := []

example : Schema.ofDocument Document.tree = .error (.cyclicType "node") :=
  rfl

end TrackingPlan
