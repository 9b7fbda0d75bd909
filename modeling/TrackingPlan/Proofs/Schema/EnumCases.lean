import TrackingPlan.Proofs.Layout.Refinement
import TrackingPlan.Proofs.Naming.Growth
import TrackingPlan.Proofs.Schema.Enumeration

/-!
# Cases and values of an enumeration tell each other

The cases of an enumeration are made one by one, and one step does three things: it refuses a value
that was there before, it registers a name for any other, and it puts both in a case
(`casesFrom_cons_eq_ok_iff`).  Registering cannot fail, so values can be enumerated exactly if there
is one and no two are one value.  Then each case is found by its value and by its name, and writing
a case writes the value (`EnumType.ofValues_exact`).

§1 one step · §2 what a run gives · §3 finding cases · §4 writing cases · §5 enumerations.
-/

namespace TrackingPlan

open Naming (Registry)

namespace EnumType

/-! ## §1 One step -/

/-- What is no number with a point asks for the words of its text, if there are any. -/
theorem caseBaseName_of_not_number {l : Literal} (h : l.isNumber = false) :
    caseBaseName l =
      if (Naming.typeName "" l.rawText).isEmpty then "Empty" else Naming.typeName "" l.rawText := by
  cases l with
  | number n => cases h
  | bool b => simp only [caseBaseName]
  | integer i => simp only [caseBaseName]
  | string s => simp only [caseBaseName]

/-- A value always asks for a name. -/
theorem caseBaseName_ne_empty (l : Literal) : caseBaseName l ≠ "" := by
  cases hnumber : l.isNumber with
  | true =>
    cases l with
    | number n => exact fun h => by simpa [caseBaseName] using congrArg String.toList h
    | _ => cases hnumber
  | false =>
    rw [caseBaseName_of_not_number hnumber]
    split
    · decide
    · rename_i hne
      exact fun heq => hne (String.isEmpty_iff.mpr heq)

/-- **One step**: the value is none of those before it, and a name is registered for its text. -/
theorem casesFrom_cons_eq_ok_iff {name : TypeName} {seen rest : List Literal} {l : Literal}
    {r : Registry} {cases : List EnumCase} :
    casesFrom name seen (l :: rest) r = .ok cases ↔ (∀ a ∈ seen, a.Differs l) ∧
      ∃ caseName r' others, r.Registered l.text name.id (caseBaseName l) caseName r' ∧
        casesFrom name (l :: seen) rest r' = .ok others ∧ ⟨caseName, l⟩ :: others = cases := by
  have hcomplete : l.text ≠ "" ∧ name.id ≠ "" ∧ caseBaseName l ≠ "" :=
    ⟨l.text_ne_empty, by simp [TypeName.id], caseBaseName_ne_empty l⟩
  rw [casesFrom, ← not_any_equals_iff]
  cases hseen : seen.any (·.equals l) with
  | true =>
    rw [if_pos rfl]
    refine iff_of_false (fun h => ?_) fun h => Bool.noConfusion h.1
    cases h
  | false =>
    rw [if_neg Bool.false_ne_true]
    constructor
    · intro h
      obtain ⟨⟨caseName, r'⟩, hregister, h⟩ := except_bind_eq_ok.mp h
      obtain ⟨others, hothers, h⟩ := except_bind_eq_ok.mp h
      have hregistered := Registry.register_eq_ok_iff.mp (except_mapError_eq_ok.mp hregister)
      exact ⟨rfl, caseName, r', others, hregistered.2, hothers, except_pure_eq_ok.mp h⟩
    · rintro ⟨-, caseName, r', others, hregistered, hothers, rfl⟩
      have hregister : r.register l.text name.id (caseBaseName l) = .ok (caseName, r') :=
        Registry.register_eq_ok_iff.mpr ⟨hcomplete, hregistered⟩
      refine except_bind_eq_ok.mpr ⟨_, except_mapError_eq_ok.mpr hregister, ?_⟩
      exact except_bind_eq_ok.mpr ⟨others, hothers, rfl⟩

/-! ## §2 What a run gives -/

/-- **A run gives cases exactly if the values differ** from each other and from those before. -/
theorem exists_casesFrom_iff {name : TypeName} {values : List Literal} :
    ∀ {seen : List Literal} {r : Registry}, (∃ cases, casesFrom name seen values r = .ok cases) ↔
      DistinctFrom Literal.Differs seen values := by
  induction values with
  | nil => exact fun {_ _} => iff_of_true ⟨[], rfl⟩ distinctFrom_nil
  | cons l rest ih =>
    intro seen r
    rw [distinctFrom_cons]
    constructor
    · rintro ⟨cases, h⟩
      obtain ⟨hdiffers, _, _, others, -, hothers, -⟩ := casesFrom_cons_eq_ok_iff.mp h
      exact ⟨hdiffers, ih.mp ⟨others, hothers⟩⟩
    · rintro ⟨hdiffers, hrest⟩
      obtain ⟨caseName, r', hregistered⟩ : ∃ caseName r',
          r.Registered l.text name.id (caseBaseName l) caseName r' := by
        cases hget : r.get? l.text name.id with
        | some found => exact ⟨found, r, .found hget⟩
        | none => exact ⟨_, _, .added hget⟩
      obtain ⟨others, hothers⟩ := ih.mpr hrest
      exact ⟨_, casesFrom_cons_eq_ok_iff.mpr
        ⟨hdiffers, caseName, r', others, hregistered, hothers, rfl⟩⟩

/-- **The cases hold the values as they are**, in order. -/
theorem map_value_of_casesFrom {name : TypeName} {values : List Literal} :
    ∀ {seen : List Literal} {r : Registry} {cases : List EnumCase},
      casesFrom name seen values r = .ok cases → cases.map EnumCase.value = values := by
  induction values with
  | nil =>
    intro seen r cases h
    obtain rfl := Except.ok.inj h
    rfl
  | cons l rest ih =>
    intro seen r cases h
    obtain ⟨-, caseName, r', others, -, hothers, rfl⟩ := casesFrom_cons_eq_ok_iff.mp h
    rw [List.map_cons, ih hothers]

/-- **A registry of cases**: a number makes taken names free, and each name given out is what a
value asked for under its text, with a number at most. -/
structure CaseRegistry (seen : List Literal) (r : Registry) : Prop where
  onCollision : r.onCollision = Naming.appendNumber
  asked : ∀ e ∈ r.registrations, ∃ l ∈ seen,
    e.id = l.text ∧ Naming.Extends (caseBaseName l) e.name

theorem CaseRegistry.start : CaseRegistry [] {} :=
  ⟨rfl, fun _ h => absurd h List.not_mem_nil⟩

variable {seen : List Literal} {r r' : Registry} {l : Literal} {scope caseName : String}

/-- A step keeps it, and the name it gives is what some value asked for. -/
theorem CaseRegistry.register (hr : CaseRegistry seen r)
    (h : r.Registered l.text scope (caseBaseName l) caseName r') :
    CaseRegistry (l :: seen) r' ∧ ∃ a ∈ l :: seen, Naming.Extends (caseBaseName a) caseName := by
  have hold : ∀ e ∈ r.registrations, ∃ a ∈ l :: seen,
      e.id = a.text ∧ Naming.Extends (caseBaseName a) e.name := by
    intro e he
    obtain ⟨a, ha, hasked⟩ := hr.asked e he
    exact ⟨a, List.mem_cons_of_mem l ha, hasked⟩
  cases h with
  | found hget =>
    obtain ⟨a, ha, -, hextends⟩ := hold _ (Registry.mem_of_get? hget)
    exact ⟨⟨hr.onCollision, hold⟩, a, ha, hextends⟩
  | added _ =>
    have hextends := Registry.extends_choose hr.onCollision scope (caseBaseName l)
    refine ⟨⟨hr.onCollision, fun e he => ?_⟩, l, List.mem_cons_self, hextends⟩
    rcases List.mem_append.mp he with he | he
    · exact hold e he
    · obtain rfl := List.mem_singleton.mp he
      exact ⟨l, List.mem_cons_self, rfl, hextends⟩

/-- **The name of each case is what one of the values asked for**, with a number at most. -/
theorem extends_of_casesFrom {name : TypeName} {values : List Literal} :
    ∀ {seen : List Literal} {r : Registry} {cases : List EnumCase}, CaseRegistry seen r →
      casesFrom name seen values r = .ok cases → ∀ c ∈ cases, ∃ l, (l ∈ seen ∨ l ∈ values) ∧
        Naming.Extends (caseBaseName l) c.name := by
  induction values with
  | nil =>
    intro seen r cases _ h c hc
    obtain rfl := Except.ok.inj h
    exact absurd hc List.not_mem_nil
  | cons l rest ih =>
    intro seen r cases hr h c hc
    obtain ⟨-, caseName, r', others, hregistered, hothers, rfl⟩ := casesFrom_cons_eq_ok_iff.mp h
    obtain ⟨hr', a, ha, hextends⟩ := hr.register hregistered
    rcases List.mem_cons.mp hc with rfl | hc
    · refine ⟨a, ?_, hextends⟩
      exact (List.mem_cons.mp ha).elim (fun h => .inr (h ▸ List.mem_cons_self)) .inl
    · obtain ⟨b, hb, hextends⟩ := ih hr' hothers c hc
      refine ⟨b, ?_, hextends⟩
      rw [List.mem_cons] at hb ⊢
      tauto

/-! ## §3 Finding cases -/

/-- What differs from all before it is the first that is found. -/
theorem find?_of_pairwise {α : Type} {p : α → α → Bool} {xs : List α}
    (hxs : xs.Pairwise fun a b => p a b = false) {x : α} (hx : x ∈ xs) (hself : p x x = true) :
    xs.find? (p · x) = some x := by
  obtain ⟨before, after, rfl⟩ := List.append_of_mem hx
  have hbefore : ∀ a ∈ before, p a x = false := fun a ha =>
    (List.pairwise_append.mp hxs).2.2 a ha x List.mem_cons_self
  have hnone : before.find? (p · x) = none :=
    List.find?_eq_none.mpr fun a ha => by simp [hbefore a ha]
  rw [List.find?_append, hnone, Option.none_or]
  exact List.find?_cons_of_pos hself

variable {e : EnumType} {c : EnumCase}

theorem caseFor?_value (he : e.WellFormed) (hc : c ∈ e.cases) (hcanonical : c.value.Canonical) :
    e.caseFor? c.value = some c := by
  have hvalues : e.cases.Pairwise fun a b => a.value.equals b.value = false :=
    List.pairwise_map.mp he.values
  exact find?_of_pairwise hvalues hc (Literal.equals_self hcanonical)

theorem find?_name (he : e.WellFormed) (hc : c ∈ e.cases) :
    e.cases.find? (·.name == c.name) = some c := by
  have hnames : e.cases.Pairwise fun a b => (a.name == b.name) = false :=
    (List.pairwise_map.mp he.names).imp fun hne => beq_false_of_ne hne
  exact find?_of_pairwise hnames hc (beq_self_eq_true _)

/-! ## §4 Writing cases -/

/-- **What a case of a listed enumeration writes** is looked up among its cases. -/
theorem encode_enumCase {s : Schema} {ls : Layouts} (hls : Layouts.ofSchema s = .ok ls)
    (he : .enumeration e ∈ s.namedTypes) (case : String) :
    ls.encode e.name (.enumCase case) = encodeEnumCase e.name e.cases case := by
  obtain rfl := Layouts.eq_of_ofSchema hls
  have hdirect : s.layouts.layoutOf e.name = .named e.name.id := Schema.layoutOf_layouts he rfl
  have hget : s.layouts.types.get? e.name.id = some (.enumeration e.name e.cases) :=
    Schema.get?_entries he rfl rfl
  have htarget : s.layouts.target (.enumCase case) (.named e.name.id) =
      .ok (.enumeration e.name e.cases) := by
    rw [Layouts.target, Layouts.settle, hget]
  rw [Layouts.encode, hdirect, Layouts.encoding, Layouts.atomEncoding, htarget]
  rfl

/-! ## §5 Enumerations -/

theorem ofValues_eq_ok_iff {name : TypeName} {description : Option String}
    {values : List Literal} {e : EnumType} :
    ofValues name description values = .ok e ↔ values ≠ [] ∧
      ∃ cases, casesFrom name [] values {} = .ok cases ∧ ⟨name, description, cases⟩ = e := by
  unfold ofValues
  cases values with
  | nil =>
    refine iff_of_false (fun h => ?_) fun h => h.1 rfl
    cases h
  | cons l rest =>
    constructor
    · intro h
      obtain ⟨cases, hcases, h⟩ := except_bind_eq_ok.mp h
      exact ⟨List.cons_ne_nil l rest, cases, hcases, except_pure_eq_ok.mp h⟩
    · rintro ⟨-, cases, hcases, rfl⟩
      exact except_bind_eq_ok.mpr ⟨cases, hcases, rfl⟩

/-- **An enumeration of values is exact**: it holds them as they are and in order, under names that
differ, and its cases are found and written by their names. -/
structure ExactFor (e : EnumType) (values : List Literal) : Prop where
  values : e.cases.map EnumCase.value = values
  names : (e.cases.map EnumCase.name).Nodup
  named : ∀ c ∈ e.cases, c.name ≠ ""
  byValue : ∀ c ∈ e.cases, e.caseFor? c.value = some c
  byName : ∀ c ∈ e.cases, e.caseNamed? c.name = some c
  /-- In a model that lists the enumeration a case writes its value, and no other name does. -/
  written : ∀ s ls, .enumeration e ∈ s.namedTypes → Layouts.ofSchema s = .ok ls →
    (∀ c ∈ e.cases, ls.encode e.name (.enumCase c.name) = .ok c.value.toJson) ∧
    ∀ other ∉ e.cases.map EnumCase.name,
      ls.encode e.name (.enumCase other) = .error (.unknownCase e.name.name other)

/-- **Values that are read from JSON can be enumerated exactly if there is one and no two are one
value**, and the enumeration of them is exact. -/
theorem ofValues_exact {name : TypeName} {description : Option String} {values : List Literal}
    (hread : ∀ l ∈ values, ∃ j : Json, j.IsFinite ∧ Literal.ofJson? j = some l) :
    ((∃ e, ofValues name description values = .ok e) ↔
      values ≠ [] ∧ values.Pairwise Literal.Differs) ∧
    ∀ e, ofValues name description values = .ok e →
      e.name = name ∧ e.description = description ∧ e.ExactFor values := by
  have hcanonical : ∀ l ∈ values, l.Canonical := by
    intro l hl
    obtain ⟨j, hfinite, hj⟩ := hread l hl
    exact Literal.canonical_of_ofJson? hfinite hj
  constructor
  · have hcases : (∃ cases, casesFrom name [] values {} = .ok cases) ↔
        DistinctFrom Literal.Differs [] values := exists_casesFrom_iff
    rw [← distinctFrom_start, ← hcases]
    constructor
    · rintro ⟨e, h⟩
      obtain ⟨hne, cases, hcases, -⟩ := ofValues_eq_ok_iff.mp h
      exact ⟨hne, cases, hcases⟩
    · rintro ⟨hne, cases, hcases⟩
      exact ⟨_, ofValues_eq_ok_iff.mpr ⟨hne, cases, hcases, rfl⟩⟩
  · intro e h
    have he : e.WellFormed := wellFormed_of_ofValues hcanonical h
    obtain ⟨-, cases, hcases, rfl⟩ := ofValues_eq_ok_iff.mp h
    have hvalues := map_value_of_casesFrom hcases
    refine ⟨rfl, rfl, hvalues, he.names, fun c hc hempty => ?_, fun c hc => ?_,
      fun c hc => find?_name he hc,
      fun s ls hlisted hls => ⟨fun c hc => ?_, fun other hother => ?_⟩⟩
    · obtain ⟨l, -, digits, hname, -⟩ := extends_of_casesFrom .start hcases c hc
      rw [hempty] at hname
      exact caseBaseName_ne_empty l (String.append_eq_empty_iff.mp hname.symm).1
    · exact caseFor?_value he hc (hcanonical _ (hvalues ▸ List.mem_map_of_mem hc))
    · rw [encode_enumCase hls hlisted, encodeEnumCase, find?_name he hc]
    · have hnone : cases.find? (·.name == other) = none := by
        refine List.find?_eq_none.mpr fun c hc hname => hother ?_
        exact List.mem_map.mpr ⟨c, hc, eq_of_beq hname⟩
      rw [encode_enumCase hls hlisted, encodeEnumCase, hnone]

/-- Marks of which some ask for one name, and some differ in their kind only. -/
def marks : List Literal :=
  [.string "in_progress", .string "in-progress", .integer 3, .string "3",
    .number (.float ⟨0x4008000000000000⟩)]

/-- The enumeration of the marks. -/
def mark : EnumType where
  name := .property "mark"
  description := none
  cases := [⟨"InProgress", .string "in_progress"⟩, ⟨"InProgress1", .string "in-progress"⟩,
    ⟨"_3", .integer 3⟩, ⟨"_31", .string "3"⟩, ⟨"_3_0", .number (.float ⟨0x4008000000000000⟩)⟩]

/-- A model with such a property. -/
def marked : Schema where
  name := "marks"
  metadata := .unknown
  customTypes := []
  properties := [("mark", .enumeration mark)]
  rules := []

/-- The number 3, the text `3` and the number 3.0 are three values, and are written as such. -/
theorem ofValues_exact_marks :
    (∀ l ∈ marks, ∃ j : Json, j.IsFinite ∧ Literal.ofJson? j = some l) ∧
    ofValues (.property "mark") none marks = .ok mark ∧ mark.ExactFor marks ∧
    ∃ ls, Layouts.ofSchema marked = .ok ls ∧
      ls.encode (.property "mark") (.enumCase "_31") = .ok (.string "3") ∧
      ls.encode (.property "mark") (.enumCase "_32") = .error (.unknownCase "mark" "_32") := by
  have hread : ∀ l ∈ marks, ∃ j : Json, j.IsFinite ∧ Literal.ofJson? j = some l := by
    intro l hl
    refine ⟨l.toJson, ?_, ?_⟩ <;> revert l <;> decide
  have hvalues : ofValues (.property "mark") none marks = .ok mark :=
    except_toOption_eq_some.mp (by decide +kernel)
  obtain ⟨-, -, hexact⟩ := (ofValues_exact hread).2 mark hvalues
  have hls : Layouts.ofSchema marked = .ok marked.layouts := Layouts.ofSchema_eq (by
    intro t ht
    obtain rfl := List.mem_singleton.mp ht
    rfl)
  obtain ⟨hwritten, hunknown⟩ := hexact.written marked _ List.mem_cons_self hls
  exact ⟨hread, hvalues, hexact, _, hls, hwritten ⟨"_31", .string "3"⟩ (by decide),
    hunknown "_32" (by decide)⟩

end EnumType

end TrackingPlan
