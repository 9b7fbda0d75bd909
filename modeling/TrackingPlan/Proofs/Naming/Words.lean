import TrackingPlan.Naming.Words
import Mathlib.Data.List.Basic
import Mathlib.Data.List.TakeWhile

/-!
# What names are made of

Words hold only characters that words are made of, whichever the rule (`parts_of_mem_words`).  So
whatever the plan name, a type name never holds the mark of a raw identifier, because neither do its
words nor the case maps make one (`mark_not_mem_typeName`); and a member name is made of small
letters, digits and underscores, with no digit first (`memberName_spelled`).

§1 words · §2 the case maps · §3 type names · §4 member names.
-/

namespace TrackingPlan.Naming

open TrackingPlan.Text

/-! ## §1 Words -/

namespace WordRule

variable {rule : WordRule}

theorem parts_of_mem_closeWord {current : List Char} (h : ∀ c ∈ current, rule.isPart c = true) :
    ∀ w ∈ closeWord current, ∀ c ∈ w, rule.isPart c = true := by
  intro w hw c hc
  unfold closeWord at hw
  split at hw
  · exact absurd hw List.not_mem_nil
  · obtain rfl := List.mem_singleton.mp hw
    exact h c (List.mem_reverse.mp hc)

theorem parts_of_mem_wordsFrom {current cs : List Char}
    (h : ∀ c ∈ current, rule.isPart c = true) :
    ∀ w ∈ rule.wordsFrom current cs, ∀ c ∈ w, rule.isPart c = true := by
  fun_induction rule.wordsFrom current cs with
  | case1 current => exact parts_of_mem_closeWord h
  | case2 c rest hpart ih => exact ih (by simpa using hpart)
  | case3 c rest hpart prev before _ ih =>
    -- the word under way ends here
    intro w hw
    rcases List.mem_cons.mp hw with rfl | hw
    · exact fun d hd => h d (List.mem_reverse.mp hd)
    · exact ih (by simpa using hpart) w hw
  | case4 c rest hpart prev before _ ih =>
    -- it goes on
    exact ih (List.forall_mem_cons.mpr ⟨hpart, h⟩)
  | case5 current c rest _ ih =>
    intro w hw
    rcases List.mem_append.mp hw with hw | hw
    · exact parts_of_mem_closeWord h w hw
    · exact ih (fun d hd => absurd hd List.not_mem_nil) w hw

/-- **A word is made of characters that words are made of.** -/
theorem parts_of_mem_words {cs w : List Char} (hw : w ∈ rule.words cs) :
    ∀ c ∈ w, rule.isPart c = true :=
  parts_of_mem_wordsFrom (fun _ hc => absurd hc List.not_mem_nil) w hw

theorem flatten_closeWord (current : List Char) :
    (closeWord current).flatten = current.reverse := by
  cases current <;> simp [closeWord]

theorem flatten_wordsFrom {current cs : List Char} :
    (rule.wordsFrom current cs).flatten = current.reverse ++ cs.filter rule.isPart := by
  fun_induction rule.wordsFrom current cs with
  | case1 current => rw [flatten_closeWord, List.filter_nil, List.append_nil]
  | case2 c rest hpart ih => rw [ih, List.filter_cons_of_pos hpart]; rfl
  | case3 c rest hpart prev before _ ih =>
    rw [List.flatten_cons, ih, List.filter_cons_of_pos hpart]
    rfl
  | case4 c rest hpart prev before _ ih =>
    rw [ih, List.filter_cons_of_pos hpart, List.reverse_cons, List.append_assoc]
    rfl
  | case5 current c rest hpart ih =>
    rw [List.flatten_append, flatten_closeWord, ih, List.filter_cons_of_neg hpart]
    rfl

/-- **No character that words are made of is lost**, and their order is kept. -/
theorem flatten_words (cs : List Char) : (rule.words cs).flatten = cs.filter rule.isPart :=
  flatten_wordsFrom

theorem ne_nil_of_mem_wordsFrom {current cs : List Char} :
    ∀ w ∈ rule.wordsFrom current cs, w ≠ [] := by
  have hclose : ∀ current : List Char, ∀ w ∈ closeWord current, w ≠ [] := by
    intro current w hw
    unfold closeWord at hw
    split at hw
    · exact absurd hw List.not_mem_nil
    · rename_i hcurrent
      obtain rfl := List.mem_singleton.mp hw
      simpa using hcurrent
  fun_induction rule.wordsFrom current cs with
  | case1 current => exact hclose current
  | case2 c rest _ ih => exact ih
  | case3 c rest _ prev before _ ih =>
    exact List.forall_mem_cons.mpr ⟨by simp, ih⟩
  | case4 c rest _ prev before _ ih => exact ih
  | case5 current c rest _ ih =>
    intro w hw
    exact (List.mem_append.mp hw).elim (hclose current w) (ih w)

/-- No word is empty. -/
theorem ne_nil_of_mem_words {cs w : List Char} (hw : w ∈ rule.words cs) : w ≠ [] :=
  ne_nil_of_mem_wordsFrom w hw

/-- The characters of a word stand in the text. -/
theorem mem_of_mem_words {cs w : List Char} (hw : w ∈ rule.words cs) {c : Char} (hc : c ∈ w) :
    c ∈ cs := by
  have hflat : c ∈ (rule.words cs).flatten := List.mem_flatten.mpr ⟨w, hw, hc⟩
  rw [flatten_words] at hflat
  exact (List.mem_filter.mp hflat).1

end WordRule

/-! ## §2 The case maps -/

/-- A predicate on ASCII characters is checked code point by code point. -/
theorem forall_ascii {p : Char → Prop} (h : ∀ n < 128, p (Char.ofNat n)) {c : Char}
    (hc : c.toNat < 128) : p c := by
  have hp := h c.toNat hc
  rwa [Char.ofNat_toNat] at hp

theorem ofNat_ne {n : Nat} {m : Char} (hpos : 0 < m.toNat) (h : m.toNat < n) :
    m ≠ Char.ofNat n := by
  rintro rfl
  unfold Char.ofNat at hpos h
  by_cases hvalid : n.isValidChar
  · rw [dif_pos hvalid] at h
    exact Nat.lt_irrefl _ h
  · rw [dif_neg hvalid] at hpos
    exact Nat.lt_irrefl _ hpos

/-- A table makes no character that comes before all that its runs map to, unless given it. -/
theorem not_mem_mapCase {runs : List CaseRun} {expansions : List (Nat × List Char)} {m c : Char}
    (hpos : 0 < m.toNat) (hruns : ∀ r ∈ runs, (m.toNat : Int) < r.first + r.shift)
    (hexpansions : ∀ e ∈ expansions, m ∉ e.2) (hc : m ≠ c) : m ∉ mapCase runs expansions c := by
  unfold mapCase
  split
  · rename_i cs hlookup
    obtain ⟨before, after, heq, -⟩ := List.lookup_eq_some_iff.mp hlookup
    exact hexpansions (c.toNat, cs) (by simp [heq])
  · rw [List.mem_singleton]
    cases hfind : runs.findSome? (·.map? c.toNat) with
    | none => exact hc
    | some d =>
      obtain ⟨r, hr, hmap⟩ := List.exists_of_findSome?_eq_some hfind
      unfold CaseRun.map? at hmap
      split at hmap
      · rename_i hrange
        obtain rfl := Option.some.inj hmap
        have hbelow := hruns r hr
        exact ofNat_ne hpos (by omega)
      · cases hmap

theorem upperRuns_above : ∀ r ∈ upperRuns, ('#'.toNat : Int) < r.first + r.shift := by
  decide +kernel

theorem lowerRuns_above : ∀ r ∈ lowerRuns, ('#'.toNat : Int) < r.first + r.shift := by
  decide +kernel

theorem mark_not_mem_upperCase {c : Char} (hc : '#' ≠ c) : '#' ∉ upperCase c := by
  unfold upperCase
  split
  · rename_i hascii
    rw [List.mem_singleton]
    exact forall_ascii (p := fun c => '#' ≠ c → '#' ≠ c.toUpper) (by decide) hascii hc
  · exact not_mem_mapCase (by decide) upperRuns_above (by decide) hc

theorem mark_not_mem_lowerCase {c : Char} (hc : '#' ≠ c) : '#' ∉ lowerCase c := by
  unfold lowerCase
  split
  · rename_i hascii
    rw [List.mem_singleton]
    exact forall_ascii (p := fun c => '#' ≠ c → '#' ≠ c.toLower) (by decide) hascii hc
  · exact not_mem_mapCase (by decide) lowerRuns_above (by decide) hc

/-! ## §3 Type names -/

theorem mark_not_mem_capitalize {w : List Char} (h : '#' ∉ w) : '#' ∉ capitalize w := by
  cases w with
  | nil => exact h
  | cons c rest =>
    rw [List.mem_cons, not_or] at h
    rw [capitalize, List.mem_append, not_or]
    refine ⟨mark_not_mem_upperCase h.1, fun hmem => ?_⟩
    obtain ⟨d, hd, hmark⟩ := List.mem_flatMap.mp hmem
    exact mark_not_mem_lowerCase (fun heq => h.2 (heq ▸ hd)) hmark

theorem mark_not_mem_pascalCase (name : String) : '#' ∉ (pascalCase name).toList := by
  rw [pascalCase, String.toList_ofList]
  intro hmem
  obtain ⟨w, hw, hmark⟩ := List.mem_flatMap.mp hmem
  refine mark_not_mem_capitalize (fun h => ?_) hmark
  exact absurd (WordRule.parts_of_mem_words hw _ h) (by decide)

theorem mark_not_mem_underscored {s : String} (h : '#' ∉ s.toList) :
    '#' ∉ (underscored s).toList := by
  simpa [underscored] using h

/-- **A type name holds no mark of a raw identifier** unless its label does. -/
theorem mark_not_mem_typeName {label : String} (hlabel : '#' ∉ label.toList) (name : String) :
    '#' ∉ (typeName label name).toList := by
  have hwords := mark_not_mem_pascalCase (trim name)
  unfold typeName
  dsimp only
  split
  · exact List.not_mem_nil
  · rw [String.toList_append, List.mem_append, not_or]
    refine ⟨hlabel, ?_⟩
    split <;> split <;> simp only [mark_not_mem_underscored, hwords, not_false_eq_true]

/-- Trimming leaves nothing exactly of what is blank throughout. -/
theorem trimChars_eq_nil_iff {cs : List Char} : trimChars cs = [] ↔ ∀ c ∈ cs, isBlank c = true := by
  rw [trimChars, List.reverse_eq_nil_iff, List.dropWhile_eq_nil_iff]
  constructor
  · intro h c hc
    rw [← List.takeWhile_append_dropWhile (p := isBlank) (l := cs)] at hc
    rcases List.mem_append.mp hc with hleft | hright
    · exact List.mem_takeWhile_imp hleft
    · exact h c (List.mem_reverse.mpr hright)
  · intro h c hc
    exact h c ((List.dropWhile_sublist isBlank).subset (List.mem_reverse.mp hc))

/-- **A name with a label is empty exactly if the plan name is blank.** -/
theorem typeName_eq_empty_iff {label : String} (hlabel : label ≠ "") (name : String) :
    typeName label name = "" ↔ isBlankText name = true := by
  have htrim : (trim name).isEmpty = true ↔ isBlankText name = true := by
    rw [String.isEmpty_iff, trim, isBlankText, List.all_eq_true, ← trimChars_eq_nil_iff,
      ← String.toList_inj, String.toList_ofList]
    rfl
  unfold typeName
  dsimp only
  split
  · rename_i hblank
    exact iff_of_true rfl (htrim.mp hblank)
  · rename_i hblank
    refine iff_of_false (fun h => hlabel ?_) (mt htrim.mpr hblank)
    exact (String.append_eq_empty_iff.mp h).1

/-! ## §4 Member names -/

/-- What member names are made of. -/
def isMemberChar (c : Char) : Bool :=
  c.isLower || c.isDigit || c == '_'

/-- **A text spelled as a member name**: small letters, digits and underscores, no digit first. -/
def MemberSpelled (name : String) : Prop :=
  ∃ c rest, name.toList = c :: rest ∧ c.isDigit = false ∧ ∀ d ∈ c :: rest, isMemberChar d = true

theorem isAlphanum_ascii {c : Char} (h : c.isAlphanum = true) : c.toNat < 128 := by
  have hbound : ∀ last : Char, c.val ≤ last.val → last.toNat < 128 → c.toNat < 128 :=
    fun last hle hlast => Nat.lt_of_le_of_lt (UInt32.le_iff_toNat_le.mp hle) hlast
  rcases Bool.or_eq_true_iff.mp h with h | h
  · rcases Bool.or_eq_true_iff.mp h with h | h
    · exact hbound 'Z' (of_decide_eq_true h).2 (by decide)
    · exact hbound 'z' (of_decide_eq_true (Bool.and_eq_true_iff.mp h).2) (by decide)
  · exact hbound '9' (of_decide_eq_true (Bool.and_eq_true_iff.mp h).2) (by decide)

theorem isMemberChar_ascii {c : Char} (h : isMemberChar c = true) : c.toNat < 128 := by
  rcases Bool.or_eq_true_iff.mp h with h | h
  · refine isAlphanum_ascii (Bool.or_eq_true_iff.mpr ?_)
    exact (Bool.or_eq_true_iff.mp h).imp_left fun hlower => Bool.or_eq_true_iff.mpr (.inr hlower)
  · rw [eq_of_beq h]
    decide

theorem isMemberChar_toLower {c : Char} (h : c.isAlphanum = true) :
    isMemberChar c.toLower = true :=
  forall_ascii (p := fun c => c.isAlphanum = true → isMemberChar c.toLower = true)
    (by decide) (isAlphanum_ascii h) h

/-- What is joined holds characters of the separator and of the pieces. -/
theorem mem_intercalate {α : Type} {sep : List α} {pieces : List (List α)} {a : α}
    (h : a ∈ sep.intercalate pieces) : a ∈ sep ∨ ∃ piece ∈ pieces, a ∈ piece := by
  induction pieces with
  | nil => exact absurd h List.not_mem_nil
  | cons piece rest ih =>
    cases rest with
    | nil => exact .inr ⟨piece, List.mem_cons_self, by simpa using h⟩
    | cons next others =>
      rw [List.intercalate_cons_cons, List.append_assoc] at h
      rcases List.mem_append.mp h with h | h
      · exact .inr ⟨piece, List.mem_cons_self, h⟩
      · rcases List.mem_append.mp h with h | h
        · exact .inl h
        · refine (ih h).imp_right ?_
          rintro ⟨piece', hmem, ha⟩
          exact ⟨piece', List.mem_cons_of_mem _ hmem, ha⟩

theorem isMemberChar_of_mem_snakeCase {name : String} {c : Char}
    (h : c ∈ (snakeCase name).toList) : isMemberChar c = true := by
  rw [snakeCase, String.toList_intercalate] at h
  rcases mem_intercalate h with h | ⟨piece, hpiece, hc⟩
  · obtain rfl : c = '_' := by simpa using h
    decide
  · simp only [List.map_map, List.mem_map] at hpiece
    obtain ⟨w, hw, rfl⟩ := hpiece
    obtain ⟨d, hd, rfl⟩ := List.mem_map.mp (by simpa using hc)
    exact isMemberChar_toLower (WordRule.parts_of_mem_words hw d hd)

/-- More small letters, digits and underscores may be put at the end. -/
theorem MemberSpelled.append {name more : String} (h : MemberSpelled name)
    (hmore : ∀ c ∈ more.toList, isMemberChar c = true) : MemberSpelled (name ++ more) := by
  obtain ⟨c, rest, heq, hdigit, hall⟩ := h
  refine ⟨c, rest ++ more.toList, by rw [String.toList_append, heq]; rfl, hdigit, ?_⟩
  intro d hd
  rw [← List.cons_append] at hd
  exact (List.mem_append.mp hd).elim (hall d) (hmore d)

theorem MemberSpelled.ne_empty {name : String} (h : MemberSpelled name) : name ≠ "" := by
  rintro rfl
  obtain ⟨c, rest, heq, -, -⟩ := h
  cases heq

theorem MemberSpelled.mark_not_mem {name : String} (h : MemberSpelled name) :
    '#' ∉ name.toList := by
  obtain ⟨c, rest, heq, -, hall⟩ := h
  rw [heq]
  exact fun hmem => absurd (hall _ hmem) (by decide)

/-- An underscore before a leading digit makes a member name of small letters and digits. -/
theorem memberSpelled_of_chars {s : String} (hne : s ≠ "")
    (hall : ∀ c ∈ s.toList, isMemberChar c = true) :
    MemberSpelled (if s.toList.head?.any Char.isDigit then underscored s else s) := by
  obtain ⟨c, rest, heq⟩ := List.exists_cons_of_ne_nil fun h => hne (String.toList_eq_nil_iff.mp h)
  have hhead : s.toList.head?.any Char.isDigit = c.isDigit := by rw [heq]; rfl
  rw [hhead]
  split
  · refine ⟨'_', s.toList, by simp [underscored], by decide, ?_⟩
    exact List.forall_mem_cons.mpr ⟨by decide, hall⟩
  · rename_i hdigit
    exact ⟨c, rest, heq, by simpa using hdigit, heq ▸ hall⟩

/-- **Every member name is spelled as one**, whatever the plan name. -/
theorem memberName_spelled (name : String) : MemberSpelled (memberName name) := by
  have hwords : ∀ c ∈ (if (snakeCase name).isEmpty then "field" else snakeCase name).toList,
      isMemberChar c = true := by
    split
    · exact List.all_eq_true.mp rfl
    · exact fun c => isMemberChar_of_mem_snakeCase
  have hne : (if (snakeCase name).isEmpty then "field" else snakeCase name) ≠ "" := by
    split
    · decide
    · rename_i hempty
      exact fun h => hempty (String.isEmpty_iff.mpr h)
  have hspelled := memberSpelled_of_chars hne hwords
  unfold memberName
  dsimp only
  -- only what was shown of the two texts matters for the last step
  generalize (if (snakeCase name).isEmpty then "field" else snakeCase name) = words at hspelled ⊢
  generalize (if words.toList.head?.any Char.isDigit then underscored words else words) = spelled
    at hspelled ⊢
  split
  · exact hspelled.append (List.all_eq_true.mp rfl)
  · exact hspelled

end TrackingPlan.Naming
