import TrackingPlan.Bindings.Identifier
import TrackingPlan.Proofs.Naming.AsciiNames
import TrackingPlan.Schema.TypeName

/-!
# Which names are identifiers

A registry gives out what was asked for, with a number at the end if that is taken.  Numbers do no
harm: the name given out is an identifier exactly if what was asked for is (`isIdentifier_extends`).
What a member asks for always is, whatever the plan name, and raw exactly if it is a keyword
(`Identifier.ofMember?_extends`); what a type asks for may not be, because words may hold numerals,
such as `²`, that identifiers may not.

§1 ASCII characters of identifiers · §2 texts that are identifiers · §3 keywords and member names ·
§4 identifiers of members · §5 names given out.
-/

namespace TrackingPlan.Bindings

open Naming (Extends MemberSpelled isMemberChar keywords plainKeywords isKeyword memberName)

/-! ## §1 ASCII characters of identifiers -/

theorem isMemberChar_of_isDigit {c : Char} (h : c.isDigit = true) : isMemberChar c = true := by
  simp [isMemberChar, h]

/-- An identifier may go on with what member names are made of. -/
theorem isIdentifierContinue_of_isMemberChar {c : Char} (h : isMemberChar c = true) :
    Text.isIdentifierContinue c = true :=
  Naming.forall_ascii (p := fun c => isMemberChar c = true → Text.isIdentifierContinue c = true)
    (by decide) (Naming.isMemberChar_ascii h) h

/-- An identifier may begin with what a member name begins with. -/
theorem isIdentifierStart_of_isMemberChar {c : Char} (h : isMemberChar c = true)
    (hdigit : c.isDigit = false) : Text.isIdentifierStart c = true :=
  Naming.forall_ascii
    (p := fun c => isMemberChar c = true → c.isDigit = false → Text.isIdentifierStart c = true)
    (by decide) (Naming.isMemberChar_ascii h) h hdigit

/-! ## §2 Texts that are identifiers -/

namespace Identifier

theorem isWellFormed_of_memberSpelled {name : String} (h : MemberSpelled name) :
    isWellFormed name.toList = true := by
  obtain ⟨c, rest, heq, hdigit, hall⟩ := h
  obtain ⟨hc, hrest⟩ := List.forall_mem_cons.mp hall
  rw [heq, isWellFormed, Bool.and_eq_true, List.all_eq_true]
  exact ⟨isIdentifierStart_of_isMemberChar hc hdigit,
    fun d hd => isIdentifierContinue_of_isMemberChar (hrest d hd)⟩

/-- Digits at the end of a text do not change whether it is well-formed. -/
theorem isWellFormed_append_digits {cs digits : List Char} (hne : cs ≠ [])
    (hdigits : ∀ c ∈ digits, c.isDigit = true) :
    isWellFormed (cs ++ digits) = isWellFormed cs := by
  obtain ⟨c, rest, rfl⟩ := List.exists_cons_of_ne_nil hne
  have hall : digits.all Text.isIdentifierContinue = true := List.all_eq_true.mpr fun d hd =>
    isIdentifierContinue_of_isMemberChar (isMemberChar_of_isDigit (hdigits d hd))
  rw [List.cons_append, isWellFormed, isWellFormed, List.all_append, hall, Bool.and_true]

/-- A text without the mark of a raw identifier is read as it stands. -/
theorem ofText?_of_unmarked {text : String} (h : '#' ∉ text.toList) :
    ofText? text = if isWellFormed text.toList then some ⟨text, false⟩ else none := by
  unfold ofText?
  split
  · -- a raw identifier begins with `r#`
    rename_i heq
    exact absurd (by simp [heq]) h
  · rfl

theorem ofText?_isSome {text : String} (h : '#' ∉ text.toList) :
    (ofText? text).isSome = isWellFormed text.toList := by
  rw [ofText?_of_unmarked h]
  cases isWellFormed text.toList <;> rfl

end Identifier

/-- **A text that is an identifier**, raw or not. -/
def IsIdentifier (text : String) : Prop :=
  (Identifier.ofText? text).isSome = true

instance (text : String) : Decidable (IsIdentifier text) :=
  inferInstanceAs (Decidable (_ = true))

theorem IsIdentifier.ne_none {text : String} (h : IsIdentifier text) :
    Identifier.ofText? text ≠ none :=
  Option.isSome_iff_ne_none.mp h

theorem isIdentifier_of_some {text : String} {i : Identifier}
    (h : Identifier.ofText? text = some i) : IsIdentifier text :=
  Option.isSome_of_eq_some h

/-! ## §3 Keywords and member names -/

/-- A keyword is found among the keywords as it is written: a member name has no capitals. -/
theorem isKeyword_iff {name : String} (h : MemberSpelled name) :
    isKeyword name = true ↔ name ∈ keywords := by
  obtain ⟨c, rest, heq, -, hall⟩ := h
  have hascii : Naming.IsAscii name := fun d hd => Naming.isMemberChar_ascii (hall d (heq ▸ hd))
  have hlower : ∀ d ∈ name.toList, d.toLower = d := fun d hd =>
    Naming.forall_ascii (p := fun d => isMemberChar d = true → d.toLower = d) (by decide)
      (hascii d hd) (hall d (heq ▸ hd))
  have hsame : Text.toLowerCase name = name := by
    rw [← String.toList_inj, Naming.toLowerCase_ascii hascii]
    exact (List.map_congr_left hlower).trans (List.map_id _)
  rw [isKeyword, hsame, List.contains_iff_mem]

/-- An underscore at its end makes a plain keyword a name. -/
theorem setOff_not_plain (word : String) :
    (if plainKeywords.contains word then word ++ "_" else word) ∉ plainKeywords := by
  have hsetOff : ∀ k ∈ plainKeywords, k ++ "_" ∉ plainKeywords := by decide
  split
  · rename_i hplain
    exact hsetOff word (List.contains_iff_mem.mp hplain)
  · rename_i hplain
    exact fun hmem => hplain (List.contains_iff_mem.mpr hmem)

theorem memberName_not_plain (plan : String) : memberName plan ∉ plainKeywords := by
  unfold memberName
  exact setOff_not_plain _

/-! ## §4 Identifiers of members -/

/-- **A legal identifier of a member**: small letters, digits and underscores with no digit first,
none of the keywords that stay keywords, raw exactly if it is one of the others, and read from its
text as the identifier that it is. -/
structure Identifier.IsMember (i : Identifier) : Prop where
  spelled : MemberSpelled i.name
  not_plain : i.name ∉ plainKeywords
  raw_iff : i.raw = true ↔ i.name ∈ keywords
  read : Identifier.ofText? i.text = some i

namespace Identifier

/-- A name has one legal identifier: whether it is raw is told by the name. -/
theorem IsMember.eq_of_name {i j : Identifier} (hi : i.IsMember) (hj : j.IsMember)
    (h : i.name = j.name) : i = j := by
  obtain ⟨name, raw⟩ := i
  obtain ⟨name', raw'⟩ := j
  obtain rfl : name = name' := h
  have hraw : raw = raw' := Bool.eq_iff_iff.mpr (hi.raw_iff.trans hj.raw_iff.symm)
  rw [hraw]

theorem ofText?_of_spelled {name : String} (h : MemberSpelled name) :
    ofText? name = some ⟨name, false⟩ := by
  rw [ofText?_of_unmarked h.mark_not_mem, if_pos (isWellFormed_of_memberSpelled h)]

theorem raw?_of_spelled {name : String} (h : MemberSpelled name) (hplain : name ∉ plainKeywords) :
    raw? name = some ⟨name, true⟩ := by
  have hcontains : plainKeywords.contains name = false := by simpa using hplain
  rw [raw?, isWellFormed_of_memberSpelled h, hcontains]
  rfl

/-- The mark of a raw identifier is taken off when it is read. -/
theorem ofText?_rawMark (name : String) : ofText? (rawMark ++ name) = raw? name := by
  have hlist : (rawMark ++ name).toList = 'r' :: '#' :: name.toList := by
    simp [rawMark, String.toList_append]
  unfold ofText?
  rw [hlist]
  exact congrArg raw? String.ofList_toList

/-- **A spelled name is an identifier as it is**, raw if it is a keyword. -/
theorem ofMember?_of_spelled {name : String} (h : MemberSpelled name)
    (hplain : name ∉ plainKeywords) :
    ofMember? name = some ⟨name, decide (name ∈ keywords)⟩ := by
  have hcontains : plainKeywords.contains name = false := by simpa using hplain
  unfold ofMember?
  rw [hcontains]
  by_cases hkeyword : name ∈ keywords
  · rw [(isKeyword_iff h).mpr hkeyword, decide_eq_true hkeyword]
    exact raw?_of_spelled h hplain
  · rw [Bool.eq_false_iff.mpr (mt (isKeyword_iff h).mp hkeyword), decide_eq_false hkeyword]
    exact ofText?_of_spelled h

theorem isMember_of_spelled {name : String} (h : MemberSpelled name)
    (hplain : name ∉ plainKeywords) : IsMember ⟨name, decide (name ∈ keywords)⟩ where
  spelled := h
  not_plain := hplain
  raw_iff := decide_eq_true_iff
  read := by
    by_cases hkeyword : name ∈ keywords
    · simp only [text, hkeyword, decide_true, if_true, ofText?_rawMark]
      exact raw?_of_spelled h hplain
    · simp only [text, hkeyword, decide_false, Bool.false_eq_true, if_false]
      exact ofText?_of_spelled h

end Identifier

/-! ## §5 Names given out -/

theorem mark_not_mem_extends {name assigned : String} (h : Extends name assigned)
    (hmark : '#' ∉ name.toList) : '#' ∉ assigned.toList := by
  obtain ⟨digits, rfl, hdigits⟩ := h
  rw [String.toList_append, List.mem_append, not_or]
  exact ⟨hmark, fun hmem => absurd (hdigits _ hmem) (by decide)⟩

/-- **A number at the end of a name does no harm and no good.** -/
theorem isIdentifier_extends {name assigned : String} (h : Extends name assigned) (hne : name ≠ "")
    (hmark : '#' ∉ name.toList) : IsIdentifier assigned ↔ IsIdentifier name := by
  have hassigned := mark_not_mem_extends h hmark
  obtain ⟨digits, rfl, hdigits⟩ := h
  have hne : name.toList ≠ [] := fun heq => hne (String.toList_eq_nil_iff.mp heq)
  rw [IsIdentifier, IsIdentifier, Identifier.ofText?_isSome hassigned,
    Identifier.ofText?_isSome hmark, String.toList_append,
    Identifier.isWellFormed_append_digits hne hdigits]

theorem plainKeywords_no_digit :
    ∀ k ∈ plainKeywords, k.toList.all (fun c => !c.isDigit) = true := by
  decide

/-- **No number makes a keyword of a name**: no keyword ends in a digit. -/
theorem extends_not_plain {name assigned : String} (h : Extends name assigned)
    (hname : name ∉ plainKeywords) : assigned ∉ plainKeywords := by
  obtain ⟨digits, rfl, hdigits⟩ := h
  intro hmem
  have hletters := List.all_eq_true.mp (plainKeywords_no_digit _ hmem)
  have hnone : digits.toList = [] := List.eq_nil_iff_forall_not_mem.mpr fun c hc => by
    have hno := hletters c (by rw [String.toList_append]; exact List.mem_append_right _ hc)
    rw [hdigits c hc] at hno
    cases hno
  rw [String.toList_eq_nil_iff.mp hnone, String.append_empty] at hmem
  exact hname hmem

theorem memberSpelled_extends {plan assigned : String} (h : Extends (memberName plan) assigned) :
    MemberSpelled assigned := by
  obtain ⟨digits, rfl, hdigits⟩ := h
  exact (Naming.memberName_spelled plan).append fun c hc => isMemberChar_of_isDigit (hdigits c hc)

/-- **What a registry gives out for a member is its identifier**, and a legal one. -/
theorem Identifier.ofMember?_extends {plan assigned : String}
    (h : Extends (memberName plan) assigned) :
    ∃ i, ofMember? assigned = some i ∧ i.name = assigned ∧ i.IsMember := by
  have hspelled := memberSpelled_extends h
  have hplain := extends_not_plain h (memberName_not_plain plan)
  exact ⟨_, ofMember?_of_spelled hspelled hplain, rfl, isMember_of_spelled hspelled hplain⟩

theorem mark_not_mem_label (origin : TypeOrigin) : '#' ∉ origin.label.toList := by
  cases origin <;> decide

end TrackingPlan.Bindings
