import TrackingPlan.Proofs.Naming.Registry
import TrackingPlan.Proofs.Naming.Words

/-!
# The names of ASCII texts

A name that holds ASCII characters only gets a type name of letters and digits, capitalised word by
word, with an underscore before a leading digit and before a keyword.  So it can stand in the
emitted code (`caseSpelled_typeName`), and no keyword in small letters is spelled like it
(`CaseSpelled.not_mem_keywords`).

One keyword is spelled with a capital: `Self`.  The keyword test looks at the plan name as it is
written, while the type name is made of its words, so a plan name such as `(self)` passes the test
and still becomes `Self` (`typeName_eq_self_iff`).

§1 ASCII texts · §2 words run together · §3 what names are spelled like · §4 keywords ·
§5 the name `Self`.
-/

namespace TrackingPlan.Naming

open TrackingPlan.Text

/-! ## §1 ASCII texts -/

/-- **A text of ASCII characters.** -/
def IsAscii (s : String) : Prop :=
  ∀ c ∈ s.toList, c.toNat < 128

instance (s : String) : Decidable (IsAscii s) :=
  decidable_of_iff ((s.toList.all fun c => c.toNat < 128) = true) (by simp [IsAscii])

theorem isAlphanumeric_ascii {c : Char} (h : c.toNat < 128) :
    isAlphanumeric c = c.isAlphanum :=
  forall_ascii (p := fun c => isAlphanumeric c = c.isAlphanum) (by decide) h

theorem isNumeric_ascii {c : Char} (h : c.toNat < 128) : isNumeric c = c.isDigit :=
  forall_ascii (p := fun c => isNumeric c = c.isDigit) (by decide) h

theorem mem_of_mem_trim {s : String} {c : Char} (h : c ∈ (trim s).toList) : c ∈ s.toList := by
  rw [trim, String.toList_ofList, trimChars, List.mem_reverse] at h
  have hleft := (List.dropWhile_sublist isBlank).subset h
  exact (List.dropWhile_sublist isBlank).subset (List.mem_reverse.mp hleft)

theorem IsAscii.trim {s : String} (h : IsAscii s) : IsAscii (trim s) :=
  fun c hc => h c (mem_of_mem_trim hc)

theorem flatMap_lowerCase_ascii {cs : List Char} (h : ∀ c ∈ cs, c.toNat < 128) :
    cs.flatMap lowerCase = cs.map Char.toLower := by
  induction cs with
  | nil => rfl
  | cons c rest ih =>
    obtain ⟨hc, hrest⟩ := List.forall_mem_cons.mp h
    rw [List.flatMap_cons, List.map_cons, ih hrest, lowerCase, if_pos hc]
    rfl

/-- An ASCII text is put in lower case character by character. -/
theorem toLowerCase_ascii {s : String} (h : IsAscii s) :
    (toLowerCase s).toList = s.toList.map Char.toLower := by
  rw [toLowerCase, String.toList_ofList, flatMap_lowerCase_ascii h]

/-! ## §2 Words run together -/

theorem capitalize_ascii {c : Char} {rest : List Char} (h : ∀ d ∈ c :: rest, d.toNat < 128) :
    capitalize (c :: rest) = c.toUpper :: rest.map Char.toLower := by
  obtain ⟨hc, hrest⟩ := List.forall_mem_cons.mp h
  rw [capitalize, upperCase, if_pos hc, flatMap_lowerCase_ascii hrest]
  rfl

/-- What capitalised words begin with. -/
def IsHead (c : Char) : Prop :=
  c.isUpper = true ∨ c.isDigit = true

theorem isHead_toUpper {c : Char} (h : c.isAlphanum = true) : IsHead c.toUpper :=
  forall_ascii (p := fun c => c.isAlphanum = true → IsHead c.toUpper)
    (by unfold IsHead; decide) (isAlphanum_ascii h) h

theorem isAlphanum_toLower {c : Char} (h : c.isAlphanum = true) : c.toLower.isAlphanum = true :=
  forall_ascii (p := fun c => c.isAlphanum = true → c.toLower.isAlphanum = true)
    (by decide) (isAlphanum_ascii h) h

theorem IsHead.isAlphanum {c : Char} (h : IsHead c) : c.isAlphanum = true := by
  rcases h with hupper | hdigit
  · exact Bool.or_eq_true_iff.mpr (.inl (Bool.or_eq_true_iff.mpr (.inl hupper)))
  · exact Bool.or_eq_true_iff.mpr (.inr hdigit)

/-- **A word of an ASCII name** is a head and letters and digits after it, once capitalised. -/
theorem capitalize_word {name : String} (hname : IsAscii name) {w : List Char}
    (hw : w ∈ typeWords.words name.toList) :
    ∃ c rest, w = c :: rest ∧ capitalize w = c.toUpper :: rest.map Char.toLower ∧
      IsHead c.toUpper ∧ ∀ d ∈ rest.map Char.toLower, d.isAlphanum = true := by
  obtain ⟨c, rest, rfl⟩ := List.exists_cons_of_ne_nil (WordRule.ne_nil_of_mem_words hw)
  have hascii : ∀ d ∈ c :: rest, d.toNat < 128 := fun d hd =>
    hname d (WordRule.mem_of_mem_words hw hd)
  have hparts : ∀ d ∈ c :: rest, d.isAlphanum = true := fun d hd => by
    rw [← isAlphanumeric_ascii (hascii d hd)]
    exact WordRule.parts_of_mem_words hw d hd
  obtain ⟨hc, hrest⟩ := List.forall_mem_cons.mp hparts
  refine ⟨c, rest, rfl, capitalize_ascii hascii, isHead_toUpper hc, fun d hd => ?_⟩
  obtain ⟨small, hsmall, rfl⟩ := List.mem_map.mp hd
  exact isAlphanum_toLower (hrest small hsmall)

/-- The words of an ASCII name run together are letters and digits. -/
theorem isAlphanum_of_mem_pascalCase {name : String} (hname : IsAscii name) {d : Char}
    (h : d ∈ (pascalCase name).toList) : d.isAlphanum = true := by
  rw [pascalCase, String.toList_ofList] at h
  obtain ⟨w, hw, hd⟩ := List.mem_flatMap.mp h
  obtain ⟨c, rest, -, hcapitalize, hhead, hrest⟩ := capitalize_word hname hw
  rw [hcapitalize] at hd
  exact (List.mem_cons.mp hd).elim (fun heq => heq ▸ hhead.isAlphanum) (hrest d)

/-- They begin with a capital or a digit. -/
theorem pascalCase_head {name : String} (hname : IsAscii name) {c : Char} {rest : List Char}
    (h : (pascalCase name).toList = c :: rest) : IsHead c := by
  rw [pascalCase, String.toList_ofList] at h
  cases hwords : typeWords.words name.toList with
  | nil => rw [hwords] at h; cases h
  | cons w others =>
    obtain ⟨d, tail, -, hcapitalize, hhead, -⟩ :=
      capitalize_word hname (w := w) (hwords ▸ List.mem_cons_self)
    rw [hwords, List.flatMap_cons, hcapitalize] at h
    obtain ⟨rfl, -⟩ := List.cons.inj h
    exact hhead

/-- A name with a letter or a digit has words to run together. -/
theorem pascalCase_ne_empty {name : String} (hname : IsAscii name) {c : Char}
    (hc : c ∈ name.toList) (hpart : c.isAlphanum = true) : pascalCase name ≠ "" := by
  intro hempty
  have hmem : c ∈ (typeWords.words name.toList).flatten := by
    rw [WordRule.flatten_words]
    exact List.mem_filter.mpr ⟨hc, (isAlphanumeric_ascii (hname c hc)).trans hpart⟩
  obtain ⟨w, hw, -⟩ := List.mem_flatten.mp hmem
  obtain ⟨d, rest, -, hcapitalize, -, -⟩ := capitalize_word hname hw
  have hlist := congrArg String.toList hempty
  rw [pascalCase, String.toList_ofList] at hlist
  have hnil := List.flatMap_eq_nil_iff.mp hlist w hw
  rw [hcapitalize] at hnil
  cases hnil

/-! ## §3 What names are spelled like -/

/-- What names of cases are made of. -/
def isCaseChar (c : Char) : Bool :=
  c.isAlphanum || c == '_'

/-- **A text spelled as the name of a case**: letters, digits and underscores after a capital or an
underscore, and an underscore does not stand alone. -/
def CaseSpelled (name : String) : Prop :=
  ∃ c rest, name.toList = c :: rest ∧ (c.isUpper = true ∨ c = '_' ∧ rest ≠ []) ∧
    ∀ d ∈ rest, isCaseChar d = true

theorem isCaseChar_of_isAlphanum {c : Char} (h : c.isAlphanum = true) : isCaseChar c = true :=
  Bool.or_eq_true_iff.mpr (.inl h)

/-- An underscore goes before anything but nothing. -/
theorem caseSpelled_underscored {s : String} (hne : s ≠ "")
    (hall : ∀ c ∈ s.toList, isCaseChar c = true) : CaseSpelled (underscored s) :=
  ⟨'_', s.toList, by simp [underscored],
    .inr ⟨rfl, fun h => hne (String.toList_eq_nil_iff.mp h)⟩, hall⟩

theorem CaseSpelled.isCaseChar {name : String} (h : CaseSpelled name) :
    ∀ c ∈ name.toList, isCaseChar c = true := by
  obtain ⟨c, rest, heq, hhead, hrest⟩ := h
  rw [heq]
  refine List.forall_mem_cons.mpr ⟨?_, hrest⟩
  rcases hhead with hupper | ⟨rfl, -⟩
  · exact isCaseChar_of_isAlphanum (IsHead.isAlphanum (.inl hupper))
  · decide

theorem CaseSpelled.ne_empty {name : String} (h : CaseSpelled name) : name ≠ "" := by
  rintro rfl
  obtain ⟨c, rest, heq, -⟩ := h
  cases heq

/-- Digits may be put at the end. -/
theorem CaseSpelled.extends {name assigned : String} (h : CaseSpelled name)
    (hextends : Extends name assigned) : CaseSpelled assigned := by
  obtain ⟨c, rest, heq, hhead, hrest⟩ := h
  obtain ⟨digits, rfl, hdigits⟩ := hextends
  refine ⟨c, rest ++ digits.toList, by rw [String.toList_append, heq]; rfl, ?_, fun d hd => ?_⟩
  · exact hhead.imp_right fun ⟨hc, hne⟩ => ⟨hc, fun h => hne (List.append_eq_nil_iff.mp h).1⟩
  · refine (List.mem_append.mp hd).elim (hrest d) fun hd => isCaseChar_of_isAlphanum ?_
    exact IsHead.isAlphanum (.inr (hdigits d hd))

/-! ## §4 Keywords -/

theorem keywords_lower : ∀ k ∈ keywords, k.toList ≠ [] ∧ k.toList.all Char.isLower = true := by
  decide

/-- **No keyword in small letters is spelled as the name of a case.** -/
theorem CaseSpelled.not_mem_keywords {name : String} (h : CaseSpelled name) :
    name ∉ keywords := by
  intro hmem
  obtain ⟨c, rest, heq, hhead, -⟩ := h
  have hlower : c.isLower = true :=
    List.all_eq_true.mp (keywords_lower name hmem).2 c (heq ▸ List.mem_cons_self)
  rcases hhead with hupper | ⟨rfl, -⟩
  · refine absurd hlower ?_
    exact forall_ascii (p := fun c => c.isUpper = true → ¬c.isLower = true) (by decide)
      (isAlphanum_ascii (IsHead.isAlphanum (.inl hupper))) hupper
  · cases hlower

/-- **A name that the emitted language keeps for itself**: of its keywords only `Self` is not in
small letters. -/
def IsReserved (name : String) : Prop :=
  name ∈ keywords ∨ name = "Self"

/-- A keyword, however it is written, has words. -/
theorem pascalCase_ne_empty_of_isKeyword {name : String} (hname : IsAscii name)
    (h : isKeyword name = true) : pascalCase name ≠ "" := by
  obtain ⟨hne, hlower⟩ := keywords_lower _ (List.contains_iff_mem.mp h)
  rw [toLowerCase_ascii hname] at hne hlower
  obtain ⟨c, rest, heq⟩ := List.exists_cons_of_ne_nil (mt List.map_eq_nil_iff.mpr hne)
  have hc : c ∈ name.toList := heq ▸ List.mem_cons_self
  have hpart : c.isAlphanum = true :=
    forall_ascii (p := fun c => c.toLower.isLower = true → c.isAlphanum = true)
      (by decide) (hname c hc) (List.all_eq_true.mp hlower _ (List.mem_map_of_mem hc))
  exact pascalCase_ne_empty hname hc hpart

/-- The words of an ASCII name run together, with an underscore before a digit. -/
theorem caseSpelled_words {words : String} (hne : words ≠ "")
    (hhead : ∀ c rest, words.toList = c :: rest → IsHead c)
    (hall : ∀ c ∈ words.toList, c.isAlphanum = true) :
    CaseSpelled (if words.toList.head?.any isNumeric then underscored words else words) := by
  obtain ⟨c, rest, heq⟩ :=
    List.exists_cons_of_ne_nil fun h => hne (String.toList_eq_nil_iff.mp h)
  have hc : c.isAlphanum = true := hall c (heq ▸ List.mem_cons_self)
  have hnumeric : words.toList.head?.any isNumeric = c.isDigit := by
    rw [heq]
    exact isNumeric_ascii (isAlphanum_ascii hc)
  rw [hnumeric]
  split
  · exact caseSpelled_underscored hne fun d hd => isCaseChar_of_isAlphanum (hall d hd)
  · rename_i hdigit
    refine ⟨c, rest, heq, .inl ((hhead c rest heq).resolve_right hdigit), fun d hd => ?_⟩
    exact isCaseChar_of_isAlphanum (hall d (heq ▸ List.mem_cons_of_mem c hd))

/-- **A type name of an ASCII name can stand in the emitted code**, if it has words. -/
theorem caseSpelled_typeName {name : String} (hname : IsAscii name) (hne : typeName "" name ≠ "") :
    CaseSpelled (typeName "" name) := by
  have hwords : pascalCase (trim name) ≠ "" →
      CaseSpelled (if (pascalCase (trim name)).toList.head?.any isNumeric then
        underscored (pascalCase (trim name)) else pascalCase (trim name)) := fun hne =>
    caseSpelled_words hne (fun _ _ => pascalCase_head hname.trim)
      fun _ => isAlphanum_of_mem_pascalCase hname.trim
  unfold typeName at hne ⊢
  dsimp only at hne ⊢
  split at hne
  · exact absurd rfl hne
  · rename_i hblank
    rw [if_neg hblank, String.empty_append]
    rw [String.empty_append] at hne
    cases hkeyword : isKeyword (trim name) with
    | true =>
      have hspelled := hwords (pascalCase_ne_empty_of_isKeyword hname.trim hkeyword)
      rw [if_pos rfl]
      exact caseSpelled_underscored hspelled.ne_empty hspelled.isCaseChar
    | false =>
      rw [hkeyword, if_neg Bool.false_ne_true] at hne
      rw [if_neg Bool.false_ne_true]
      refine hwords fun hempty => hne ?_
      rw [hempty]
      rfl

/-! ## §5 The name `Self` -/

/-- **A plan name that hides `self`**: it is no keyword as it is written, and its only word is
`self`, in small letters or capitals. -/
def HidesSelf (name : String) : Prop :=
  isKeyword (trim name) = false ∧ ∃ w, splitWords (trim name) = [w] ∧ toLowerCase w = "self"

theorem toUpper_eq_iff {c : Char} (h : c.toNat < 128) : c.toUpper = 'S' ↔ c.toLower = 's' :=
  forall_ascii (p := fun c => c.toUpper = 'S' ↔ c.toLower = 's') (by decide) h

theorem capitalize_eq_self_iff {w : List Char} (h : ∀ c ∈ w, c.toNat < 128) :
    capitalize w = "Self".toList ↔ toLowerCase (String.ofList w) = "self" := by
  have hlist : (String.ofList w).toList = w := String.toList_ofList
  rw [← String.toList_inj, toLowerCase_ascii (by rwa [IsAscii, hlist]), hlist]
  cases w with
  | nil => exact iff_of_false (List.cons_ne_nil _ _).symm (List.cons_ne_nil _ _).symm
  | cons c rest =>
    rw [capitalize_ascii h, List.map_cons]
    show _ = 'S' :: "elf".toList ↔ _ = 's' :: "elf".toList
    rw [List.cons.injEq, List.cons.injEq, toUpper_eq_iff (h c List.mem_cons_self)]

/-- The words of an ASCII name run together to `Self` exactly if there is one and it is that. -/
theorem pascalCase_eq_self_iff {name : String} (hname : IsAscii name) :
    pascalCase name = "Self" ↔ ∃ w, splitWords name = [w] ∧ toLowerCase w = "self" := by
  have hascii : ∀ w ∈ typeWords.words name.toList, ∀ c ∈ w, c.toNat < 128 :=
    fun w hw c hc => hname c (WordRule.mem_of_mem_words hw hc)
  rw [← String.toList_inj, pascalCase, String.toList_ofList, splitWords]
  constructor
  · intro h
    cases hwords : typeWords.words name.toList with
    | nil => rw [hwords] at h; cases h
    | cons w others =>
      obtain ⟨c, rest, hw, hcapitalize, -, -⟩ :=
        capitalize_word hname (w := w) (hwords ▸ List.mem_cons_self)
      cases others with
      | nil =>
        rw [hwords, List.flatMap_singleton] at h
        have hself := (capitalize_eq_self_iff (hascii w (hwords ▸ List.mem_cons_self))).mp h
        exact ⟨_, rfl, hself⟩
      | cons w' others =>
        -- a second word would put a capital or a digit among the letters `elf`
        exfalso
        obtain ⟨d, tail, -, hcapitalize', hhead, -⟩ := capitalize_word hname (w := w')
          (hwords ▸ List.mem_cons_of_mem w List.mem_cons_self)
        rw [hwords, List.flatMap_cons, List.flatMap_cons, hcapitalize, hcapitalize'] at h
        have hmem : d.toUpper ∈ ['e', 'l', 'f'] := by
          have htail : _ = ['e', 'l', 'f'] := (List.cons.inj h).2
          simp [← htail]
        have hapart : (['e', 'l', 'f'].all fun e => !(e.isUpper || e.isDigit)) = true := rfl
        have hnot := List.all_eq_true.mp hapart _ hmem
        rcases hhead with hupper | hdigit
        · simp [hupper] at hnot
        · simp [hdigit] at hnot
  · rintro ⟨w, hwords, hself⟩
    obtain ⟨letters, hletters, rfl⟩ := List.map_eq_singleton_iff.mp hwords
    rw [hletters, List.flatMap_singleton]
    exact (capitalize_eq_self_iff (hascii letters (hletters ▸ List.mem_cons_self))).mpr hself

/-- **A plan name becomes `Self` exactly if it hides it.** -/
theorem typeName_eq_self_iff {name : String} (hname : IsAscii name) :
    typeName "" name = "Self" ↔ HidesSelf name := by
  have hunderscored : ∀ s, underscored s ≠ "Self" := fun s h => by
    simpa [underscored] using congrArg String.toList h
  rw [HidesSelf, ← pascalCase_eq_self_iff hname.trim]
  unfold typeName
  dsimp only
  rw [String.empty_append]
  cases hkeyword : isKeyword (trim name) with
  | true =>
    rw [if_pos rfl]
    refine iff_of_false (fun h => ?_) fun h => Bool.noConfusion h.1
    split at h
    · exact absurd h (by decide)
    · exact hunderscored _ h
  | false =>
    rw [if_neg Bool.false_ne_true, and_iff_right rfl]
    constructor
    · intro h
      split at h
      · exact absurd h (by decide)
      · split at h
        · exact absurd h (hunderscored _)
        · exact h
    · intro h
      have hblank : ¬(trim name).isEmpty = true := fun hempty => by
        rw [String.isEmpty_iff.mp hempty] at h
        exact absurd h (by decide)
      have hdigit : ("Self".toList.head?.any isNumeric) = false := rfl
      rw [h, if_neg hblank, hdigit, if_neg Bool.false_ne_true]

/-- A plan name that hides `self` holds an `s`. -/
theorem HidesSelf.exists_mem {name : String} (h : HidesSelf name) (hname : IsAscii name) :
    ∃ c ∈ name.toList, c.toLower = 's' := by
  obtain ⟨-, w, hwords, hself⟩ := h
  obtain ⟨letters, hletters, rfl⟩ := List.map_eq_singleton_iff.mp hwords
  have hlist : (String.ofList letters).toList = letters := String.toList_ofList
  have hmem : ∀ c ∈ letters, c ∈ name.toList := fun c hc =>
    mem_of_mem_trim (WordRule.mem_of_mem_words (hletters ▸ List.mem_cons_self) hc)
  have hlower := congrArg String.toList hself
  rw [toLowerCase_ascii fun c hc => hname c (hmem c (hlist ▸ hc)), hlist] at hlower
  obtain ⟨c, hc, hs⟩ : ∃ c ∈ letters, c.toLower = 's' :=
    List.mem_map.mp (hlower ▸ List.mem_cons_self)
  exact ⟨c, hmem c hc, hs⟩

/-- Digits at the end do not make `Self`. -/
theorem Extends.eq_self {name : String} (h : Extends name "Self") : name = "Self" := by
  obtain ⟨digits, heq, hdigits⟩ := h
  have hlist : ['S', 'e', 'l', 'f'] = name.toList ++ digits.toList := by
    rw [← String.toList_append, ← heq]
    rfl
  rcases List.eq_nil_or_concat digits.toList with hnil | ⟨front, last, hlast⟩
  · rw [String.toList_eq_nil_iff.mp hnil, String.append_empty] at heq
    exact heq.symm
  · rw [hlast, List.concat_eq_append, ← List.append_assoc] at hlist
    have hf : last = 'f' := by simpa using (congrArg List.getLast? hlist).symm
    have hdigit := hdigits last (by simp [hlast])
    rw [hf] at hdigit
    cases hdigit

end TrackingPlan.Naming
