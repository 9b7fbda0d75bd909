import TrackingPlan.Proofs.Naming.AsciiNames
import TrackingPlan.Proofs.Schema.EnumCases

/-!
# Names of the cases of an enumeration

Of values whose texts are ASCII each asks for a name that can stand in the emitted code
(`EnumType.caseSpelled_caseBaseName`), and a number at its end leaves it so.  No keyword but `Self`
is spelled that way, and only a text that hides `self` asks for that one: it is then the name of a
case (`EnumType.caseNames_usable`).

§1 the names values ask for · §2 names that are given as asked for · §3 names of cases.
-/

namespace TrackingPlan

open Naming

/-! ## §1 The names values ask for -/

namespace Literal

theorem of_mem_rawText_integer (i : Int64) :
    ∀ c ∈ (integer i).rawText.toList, c = '-' ∨ c.isDigit = true := by
  intro c hc
  by_contra hother
  rw [not_or, Bool.not_eq_true] at hother
  exact Json.not_mem_toString_int hother.2 hother.1 i.toInt hc

theorem isAscii_rawText {l : Literal} (hnumber : l.isNumber = false)
    (hstring : ∀ s, l = .string s → IsAscii s) : IsAscii l.rawText := by
  cases l with
  | bool b => cases b <;> decide
  | integer i =>
    intro c hc
    rcases of_mem_rawText_integer i c hc with rfl | hdigit
    · decide
    · exact isAlphanum_ascii (IsHead.isAlphanum (.inr hdigit))
  | number n => cases hnumber
  | string s => exact hstring s rfl

/-- Only a string has the JSON text of a string. -/
theorem eq_of_text_eq_string {l : Literal} {s : String} (h : l.text = (string s).text) :
    l = string s := by
  obtain ⟨k, hk⟩ := Option.ne_none_iff_exists'.mp l.lead_toJson_ne_none
  have hstring : (string s).toJson.lead? = some .string := rfl
  have hhead : some k = some .string := by
    rw [← Json.ofChar_head hk, ← Json.ofChar_head hstring]
    exact congrArg (fun t : String => t.toList.head?.map Json.Lead.ofChar) h
  obtain rfl := Option.some.inj hhead
  cases l with
  | string t => rw [Json.quote_injective h]
  | bool b => cases hk
  | integer i => cases hk
  | number n => cases hk

end Literal

namespace EnumType

/-- **The name a value asks for can stand in the emitted code** if strings are ASCII. -/
theorem caseSpelled_caseBaseName {l : Literal} (hstring : ∀ s, l = .string s → IsAscii s) :
    CaseSpelled (caseBaseName l) := by
  cases hnumber : l.isNumber with
  | true =>
    cases l with
    | number n =>
      have hne : n.text.toList ≠ [] := fun h => by
        have hhead := n.ofChar_head
        rw [h] at hhead
        cases hhead
      refine ⟨'_', _, String.toList_ofList, .inr ⟨rfl, mt List.map_eq_nil_iff.mp hne⟩, ?_⟩
      intro d hd
      obtain ⟨c, -, rfl⟩ := List.mem_map.mp hd
      split
      · exact isCaseChar_of_isAlphanum ‹_›
      · rfl
    | _ => cases hnumber
  | false =>
    rw [caseBaseName_of_not_number hnumber]
    split
    · exact ⟨'E', ['m', 'p', 't', 'y'], rfl, .inl rfl, List.all_eq_true.mp rfl⟩
    · rename_i hne
      exact caseSpelled_typeName (Literal.isAscii_rawText hnumber hstring)
        (mt String.isEmpty_iff.mpr hne)

/-- **Only a text that hides `self` asks for `Self`.** -/
theorem caseBaseName_eq_self_iff {l : Literal} (hstring : ∀ s, l = .string s → IsAscii s) :
    caseBaseName l = "Self" ↔ ∃ s, l = .string s ∧ HidesSelf s := by
  have hwords : ∀ hnumber : l.isNumber = false, caseBaseName l = "Self" ↔ HidesSelf l.rawText := by
    intro hnumber
    rw [← typeName_eq_self_iff (Literal.isAscii_rawText hnumber hstring),
      caseBaseName_of_not_number hnumber]
    split
    · rename_i hempty
      rw [String.isEmpty_iff.mp hempty]
      exact iff_of_false (by decide) (by decide)
    · rfl
  have hother : (∀ s, l ≠ .string s) → caseBaseName l ≠ "Self" →
      (caseBaseName l = "Self" ↔ ∃ s, l = .string s ∧ HidesSelf s) := by
    refine fun hl hself => iff_of_false hself ?_
    rintro ⟨s, hs, -⟩
    exact hl s hs
  cases l with
  | string s =>
    rw [hwords rfl]
    refine ⟨fun h => ⟨s, rfl, h⟩, ?_⟩
    rintro ⟨t, ht, h⟩
    obtain rfl := Literal.string.inj ht
    exact h
  | number n =>
    refine hother (fun s => Literal.noConfusion) fun h => ?_
    simpa [caseBaseName] using congrArg String.toList h
  | bool b =>
    refine hother (fun s => Literal.noConfusion) ?_
    cases b <;> decide +kernel
  | integer i =>
    refine hother (fun s => Literal.noConfusion) fun h => ?_
    obtain ⟨c, hc, hs⟩ :=
      ((hwords rfl).mp h).exists_mem (Literal.isAscii_rawText rfl hstring)
    rcases Literal.of_mem_rawText_integer i c hc with rfl | hdigit
    · revert hs
      decide
    · exact forall_ascii (p := fun c => c.isDigit = true → ¬c.toLower = 's') (by decide)
        (isAlphanum_ascii (IsHead.isAlphanum (.inr hdigit))) hdigit hs

/-! ## §2 Names that are given as asked for -/

/-- **The name that a string asks for is given out**, to it or to a value before it. -/
theorem caseBaseName_mem_of_casesFrom {name : TypeName} {values : List Literal} {s : String} :
    ∀ {seen : List Literal} {r : Registry} {cases : List EnumCase}, CaseRegistry seen r →
      casesFrom name seen values r = .ok cases → .string s ∈ values →
      caseBaseName (.string s) ∈ r.taken name.id ++ cases.map EnumCase.name := by
  induction values with
  | nil => exact fun _ _ h => absurd h List.not_mem_nil
  | cons l rest ih =>
    intro seen r cases hr h hs
    obtain ⟨hdiffers, caseName, r', others, hregistered, hothers, rfl⟩ :=
      casesFrom_cons_eq_ok_iff.mp h
    rcases List.mem_cons.mp hs with rfl | hs
    · cases hregistered with
      | found hget =>
        -- what is found belongs to a value seen before, and none has this text
        obtain ⟨a, ha, hid, -⟩ := hr.asked _ (Registry.mem_of_get? hget)
        obtain rfl := Literal.eq_of_text_eq_string hid.symm
        have hself := hdiffers _ ha
        rw [Literal.Differs,
          Literal.equals_self (show (Literal.string s).Canonical from trivial)] at hself
        cases hself
      | added _ =>
        rw [List.map_cons, Registry.choose]
        dsimp only
        split
        · rename_i htaken
          exact List.mem_append_left _ (List.contains_iff_mem.mp htaken)
        · exact List.mem_append_right _ List.mem_cons_self
    · have hmem := ih (hr.register hregistered).1 hothers hs
      have htaken : ∀ n ∈ r'.taken name.id, n ∈ r.taken name.id ∨ n = caseName := by
        intro n hn
        cases hregistered with
        | found _ => exact .inl hn
        | added _ => simpa [Registry.taken, or_comm] using hn
      rw [List.map_cons, List.mem_append, List.mem_cons]
      rcases List.mem_append.mp hmem with hmem | hmem
      · exact (htaken _ hmem).imp_right .inl
      · exact .inr (.inr hmem)

/-! ## §3 Names of cases -/

/-- **Values whose strings are ASCII give cases whose names can stand in the emitted code**: a
capital or an underscore goes first, then letters, digits and underscores, and an underscore does
not stand alone.  No name is a keyword but `Self`, and a case has that name exactly if a string
hides it. -/
theorem caseNames_usable {name : TypeName} {description : Option String} {values : List Literal}
    {e : EnumType} (hascii : ∀ s, .string s ∈ values → IsAscii s)
    (h : ofValues name description values = .ok e) :
    (∀ c ∈ e.cases, CaseSpelled c.name ∧ (IsReserved c.name → c.name = "Self")) ∧
    ((∃ c ∈ e.cases, IsReserved c.name) ↔ ∃ s, .string s ∈ values ∧ HidesSelf s) := by
  obtain ⟨-, cases, hcases, rfl⟩ := ofValues_eq_ok_iff.mp h
  have hasked : ∀ c ∈ cases, ∃ l ∈ values, Extends (caseBaseName l) c.name := by
    intro c hc
    obtain ⟨l, hl, hextends⟩ := extends_of_casesFrom .start hcases c hc
    exact ⟨l, hl.resolve_left List.not_mem_nil, hextends⟩
  have hstring : ∀ l ∈ values, ∀ s, l = .string s → IsAscii s := fun l hl s heq =>
    hascii s (heq ▸ hl)
  have hspelled : ∀ c ∈ cases, CaseSpelled c.name := by
    intro c hc
    obtain ⟨l, hl, hextends⟩ := hasked c hc
    exact (caseSpelled_caseBaseName (hstring l hl)).extends hextends
  have hself : ∀ c ∈ cases, IsReserved c.name → c.name = "Self" := fun c hc hreserved =>
    hreserved.resolve_left (hspelled c hc).not_mem_keywords
  refine ⟨fun c hc => ⟨hspelled c hc, hself c hc⟩, ?_, ?_⟩
  · rintro ⟨c, hc, hreserved⟩
    obtain ⟨l, hl, hextends⟩ := hasked c hc
    rw [hself c hc hreserved] at hextends
    obtain ⟨s, rfl, hhides⟩ := (caseBaseName_eq_self_iff (hstring l hl)).mp hextends.eq_self
    exact ⟨s, hl, hhides⟩
  · rintro ⟨s, hs, hhides⟩
    have hmem := caseBaseName_mem_of_casesFrom .start hcases hs
    rw [(caseBaseName_eq_self_iff (hstring _ hs)).mpr ⟨s, rfl, hhides⟩] at hmem
    obtain ⟨c, hc, hname⟩ := List.mem_map.mp (show "Self" ∈ cases.map EnumCase.name from hmem)
    exact ⟨c, hc, .inr hname⟩

/-- Texts and values that are keywords, have a leading digit, have no words, or lose a sign. -/
def tokens : List Literal :=
  [.string "type", .string "Self", .string "3d", .string "!", .bool true, .integer (-7)]

/-- The enumeration of the tokens. -/
def token : EnumType where
  name := .property "token"
  description := none
  cases := [⟨"_Type", .string "type"⟩, ⟨"_Self", .string "Self"⟩, ⟨"_3d", .string "3d"⟩,
    ⟨"Empty", .string "!"⟩, ⟨"_True", .bool true⟩, ⟨"_7", .integer (-7)⟩]

/-- A keyword gets an underscore, and so does a leading digit. -/
theorem caseNames_usable_token : (∀ s, .string s ∈ tokens → IsAscii s) ∧
    ofValues (.property "token") none tokens = .ok token ∧
    ∀ c ∈ token.cases, CaseSpelled c.name ∧ ¬IsReserved c.name := by
  have hascii : ∀ s, .string s ∈ tokens → IsAscii s := by
    intro s hs
    have hs : s = "type" ∨ s = "Self" ∨ s = "3d" ∨ s = "!" := by simpa [tokens] using hs
    rcases hs with rfl | rfl | rfl | rfl <;> decide
  have hvalues : ofValues (.property "token") none tokens = .ok token :=
    except_toOption_eq_some.mp (by decide +kernel)
  obtain ⟨hnames, -⟩ := caseNames_usable hascii hvalues
  refine ⟨hascii, hvalues, fun c hc => ⟨(hnames c hc).1, fun hreserved => ?_⟩⟩
  have hother : ∀ c ∈ token.cases, c.name ≠ "Self" := by decide
  exact hother c hc ((hnames c hc).2 hreserved)

/-- The text `(self)` is no keyword as it is written, and the case of it is named `Self`. -/
theorem caseName_reserved : (∀ s, .string s ∈ [Literal.string "(self)"] → IsAscii s) ∧
    ∃ e, ofValues (.property "buyer") none [.string "(self)"] = .ok e ∧
      ∃ c ∈ e.cases, IsReserved c.name := by
  refine ⟨fun s hs => ?_, ⟨.property "buyer", none, [⟨"Self", .string "(self)"⟩]⟩,
    except_toOption_eq_some.mp (by decide +kernel), _, List.mem_singleton_self _, .inr rfl⟩
  obtain rfl : s = "(self)" := by simpa using hs
  decide

end EnumType

end TrackingPlan
