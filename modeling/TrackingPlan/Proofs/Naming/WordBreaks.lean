import TrackingPlan.Proofs.Naming.Words
import TrackingPlan.Proofs.Text.LetterCase

/-!
# Where words break

Whether a word ends before a character can hang on the character after it.  That does no harm in a
rule that looks within words: what follows can only make a word begin, and then stands in it
(`WordRule.LooksWithin`).  With such a rule a word by itself is one word
(`WordRule.words_of_mem_words`), and the two sides of a break are split each on its own
(`WordRule.words_append`).  The words of a type name are split by such a rule (`splitWords_stable`).

§1 what holds together · §2 the two sides of a break · §3 words of a type name.
-/

namespace TrackingPlan.Naming

open TrackingPlan.Text

namespace WordRule

variable {rule : WordRule} {current cs xs ys w : List Char} {prev c : Char} {next : Option Char}

/-! ## §1 What holds together -/

/-- **A rule that looks within words**: what follows a character can only make a word begin with
that character, and then it is the next one of the word. -/
structure LooksWithin (rule : WordRule) : Prop where
  more : ∀ {prev c : Char} (next : Option Char), rule.isBoundary prev c none = true →
    rule.isBoundary prev c next = true
  within : ∀ {prev c next : Char}, rule.isBoundary prev c (some next) = true →
    rule.isBoundary prev c none = true ∨
      rule.isPart next = true ∧ ∀ after, rule.isBoundary c next after = false

/-- **Characters that hold together**, in reverse: words are made of them, and none of them begins
another word.  The second argument is the character that follows. -/
def Joined (rule : WordRule) : List Char → Option Char → Prop
  | [], _ => True
  | [c], _ => rule.isPart c = true
  | c :: prev :: before, next =>
    rule.isPart c = true ∧ rule.isBoundary prev c next = false ∧
      rule.Joined (prev :: before) (some c)

theorem Joined.tail (h : rule.Joined (c :: current) next) : rule.Joined current (some c) := by
  cases current with
  | nil => trivial
  | cons prev before => exact h.2.2

/-- What was read first holds together before what was read later. -/
theorem Joined.of_append : ∀ {next}, rule.Joined (xs ++ ys) next →
    rule.Joined ys (xs.getLast?.or next) := by
  induction xs with
  | nil => exact fun h => h
  | cons c rest ih =>
    intro next h
    have hrest := ih (Joined.tail h)
    rwa [List.getLast?_cons, Option.some_or, ← Option.or_some]

/-- Without what follows, no less holds together. -/
theorem Joined.alone (hrule : rule.LooksWithin) (h : rule.Joined current next) :
    rule.Joined current none := by
  match current, h with
  | [], _ => trivial
  | [_], hpart => exact hpart
  | c :: prev :: before, ⟨hpart, hboundary, hbefore⟩ =>
    refine ⟨hpart, ?_, hbefore⟩
    by_contra hnone
    rw [hrule.more next (Bool.not_eq_false _ ▸ hnone)] at hboundary
    cases hboundary

/-- **Each word holds together**, if what is under way does. -/
theorem joined_of_mem_wordsFrom (h : rule.Joined current cs.head?) :
    ∀ w ∈ rule.wordsFrom current cs, ∃ next, rule.Joined w.reverse next := by
  have hclose : ∀ {current next}, rule.Joined current next →
      ∀ w ∈ closeWord current, ∃ next, rule.Joined w.reverse next := by
    intro current next h w hw
    unfold closeWord at hw
    split at hw
    · exact absurd hw List.not_mem_nil
    · obtain rfl := List.mem_singleton.mp hw
      exact ⟨next, by rwa [List.reverse_reverse]⟩
  fun_induction rule.wordsFrom current cs with
  | case1 current => exact hclose h
  | case2 c rest hpart ih => exact ih hpart
  | case3 c rest hpart prev before _ ih =>
    -- a word ends, and the character begins the next one
    refine List.forall_mem_cons.mpr ⟨⟨some c, ?_⟩, ih hpart⟩
    rwa [List.reverse_reverse]
  | case4 c rest hpart prev before hboundary ih =>
    -- the character is put to the word
    exact ih ⟨hpart, Bool.eq_false_iff.mpr hboundary, h⟩
  | case5 current c rest _ ih =>
    intro w hw
    rcases List.mem_append.mp hw with hw | hw
    · exact hclose h w hw
    · exact ih trivial w hw

/-- What holds together with the word under way ends that word. -/
theorem wordsFrom_of_joined : ∀ {current}, current ≠ [] →
    rule.Joined (cs.reverse ++ current) none →
    rule.wordsFrom current cs = [current.reverse ++ cs] := by
  induction cs with
  | nil =>
    intro current hne _
    rw [wordsFrom, closeWord, List.isEmpty_eq_false_iff.mpr hne, List.append_nil]
    rfl
  | cons c rest ih =>
    intro current hne h
    obtain ⟨prev, before, rfl⟩ := List.exists_cons_of_ne_nil hne
    rw [List.reverse_cons, List.append_assoc, List.singleton_append] at h
    have hhere := Joined.of_append h
    rw [List.getLast?_reverse, Option.or_none] at hhere
    obtain ⟨hpart, hboundary, -⟩ := hhere
    rw [wordsFrom, if_pos hpart, if_neg (Bool.eq_false_iff.mp hboundary),
      ih (List.cons_ne_nil c _) h, List.reverse_cons, List.append_assoc]
    rfl

/-- **A word by itself is one word.** -/
theorem words_of_mem_words (hrule : rule.LooksWithin) (hw : w ∈ rule.words cs) :
    rule.words w = [w] := by
  obtain ⟨next, hjoined⟩ := joined_of_mem_wordsFrom (show rule.Joined [] cs.head? from trivial) w hw
  obtain ⟨c, rest, rfl⟩ := List.exists_cons_of_ne_nil (ne_nil_of_mem_words hw)
  have hpart := parts_of_mem_words hw c List.mem_cons_self
  have halone := Joined.alone hrule hjoined
  rw [List.reverse_cons] at halone
  rw [words, wordsFrom, if_pos hpart]
  exact wordsFrom_of_joined (List.cons_ne_nil c []) halone

/-! ## §2 The two sides of a break -/

/-- **A break between two texts**: no word goes on from the one into the other. -/
def BreaksAt (rule : WordRule) (xs ys : List Char) : Prop :=
  ∀ prev ∈ xs.getLast?, ∀ c ∈ ys.head?, rule.isPart prev = true → rule.isPart c = true →
    rule.isBoundary prev c ys.tail.head? = true

/-- Before a break nothing beyond it makes a word begin. -/
theorem isBoundary_of_breaksAt (hrule : rule.LooksWithin) (h : rule.BreaksAt (c :: xs) ys)
    (hc : rule.isPart c = true) :
    rule.isBoundary prev c (xs ++ ys).head? = rule.isBoundary prev c xs.head? := by
  cases xs with
  | cons next rest => rfl
  | nil =>
    cases ys with
    | nil => rfl
    | cons y rest =>
      show rule.isBoundary prev c (some y) = rule.isBoundary prev c none
      cases hnone : rule.isBoundary prev c none with
      | true => exact hrule.more (some y) hnone
      | false =>
        by_contra hsome
        rcases hrule.within (Bool.not_eq_false _ ▸ hsome) with hbefore | ⟨hy, hjoins⟩
        · rw [hnone] at hbefore
          cases hbefore
        · -- then `y` would go on with the word of `c`
          have hbreak := h c rfl y rfl hc hy
          rw [hjoins] at hbreak
          cases hbreak

/-- Only the end of the first text matters. -/
theorem BreaksAt.of_append (h : rule.BreaksAt (current ++ xs) ys) : rule.BreaksAt xs ys := by
  intro prev hprev
  refine h prev ?_
  rw [Option.mem_def] at hprev ⊢
  rw [List.getLast?_append, hprev, Option.some_or]

theorem wordsFrom_append (hrule : rule.LooksWithin) : ∀ current : List Char,
    (∀ c ∈ current, rule.isPart c = true) → rule.BreaksAt (current.reverse ++ xs) ys →
    rule.wordsFrom current (xs ++ ys) = rule.wordsFrom current xs ++ rule.words ys := by
  induction xs with
  | nil =>
    -- the word under way ends here, with a boundary or without
    intro current hparts h
    rw [List.append_nil] at h
    cases ys with
    | nil => exact (List.append_nil _).symm
    | cons c rest =>
      cases hc : rule.isPart c with
      | false => simp only [List.nil_append, words, wordsFrom, hc]; rfl
      | true =>
        cases current with
        | nil => rfl
        | cons prev before =>
          have hlast : prev ∈ (prev :: before).reverse.getLast? := by simp
          have hboundary : rule.isBoundary prev c rest.head? = true :=
            h prev hlast c rfl (hparts prev List.mem_cons_self) hc
          simp only [List.nil_append, words, wordsFrom, hc, hboundary, if_true]
          rfl
  | cons c rest ih =>
    intro current hparts h
    have hhere : rule.BreaksAt (c :: rest) ys := h.of_append
    cases hc : rule.isPart c with
    | false =>
      have hrest := ih [] (fun _ hd => absurd hd List.not_mem_nil)
        (show rule.BreaksAt ([c] ++ rest) ys from hhere).of_append
      simp only [List.cons_append, wordsFrom, hc, hrest, Bool.false_eq_true, if_false,
        List.append_assoc]
    | true =>
      have hstart := ih [c] (List.forall_mem_singleton.mpr hc) hhere
      cases current with
      | nil => simp only [List.cons_append, wordsFrom, hc, hstart, if_true]
      | cons prev before =>
        -- the same boundary is found, whether the second text stands there or not
        have hboundary :
            rule.isBoundary prev c (rest ++ ys).head? = rule.isBoundary prev c rest.head? :=
          isBoundary_of_breaksAt hrule hhere hc
        have hon := ih (c :: prev :: before) (List.forall_mem_cons.mpr ⟨hc, hparts⟩)
          (by rwa [List.reverse_cons, List.append_assoc])
        simp only [List.cons_append, wordsFrom, hc, hboundary, hstart, hon, if_true]
        split <;> rfl

/-- **The two sides of a break are split each on its own.** -/
theorem words_append (hrule : rule.LooksWithin) (h : rule.BreaksAt xs ys) :
    rule.words (xs ++ ys) = rule.words xs ++ rule.words ys :=
  wordsFrom_append hrule [] (fun _ hc => absurd hc List.not_mem_nil) h

/-- The word under way goes first. -/
theorem exists_wordsFrom_eq_cons (rule : WordRule) (cs : List Char) : ∀ {current}, current ≠ [] →
    ∃ more others, rule.wordsFrom current cs = (current.reverse ++ more) :: others := by
  induction cs with
  | nil =>
    intro current hne
    refine ⟨[], [], ?_⟩
    rw [wordsFrom, closeWord, List.isEmpty_eq_false_iff.mpr hne, List.append_nil]
    rfl
  | cons c rest ih =>
    intro current hne
    obtain ⟨prev, before, rfl⟩ := List.exists_cons_of_ne_nil hne
    rw [wordsFrom]
    split
    · split
      · exact ⟨[], _, by rw [List.append_nil]⟩
      · obtain ⟨more, others, heq⟩ := ih (List.cons_ne_nil c (prev :: before))
        exact ⟨c :: more, others, by rw [heq, List.reverse_cons, List.append_assoc]; rfl⟩
    · exact ⟨[], _, by rw [closeWord, List.append_nil]; rfl⟩

/-- **What makes a word begin by following its first character stands in that word.** -/
theorem exists_words_eq_of_boundary (hrule : rule.LooksWithin) {next : Char}
    (before after : List Char) (hboundary : rule.isBoundary prev c (some next) = true)
    (hc : rule.isPart c = true) (hnext : rule.isPart next = true)
    (hjoins : ∀ after, rule.isBoundary c next after = false) :
    ∃ more others, rule.words (before ++ prev :: c :: next :: after) =
      rule.words (before ++ [prev]) ++ (c :: next :: more) :: others := by
  have hbreaks : rule.BreaksAt (before ++ [prev]) (c :: next :: after) := by
    intro last hlast first hfirst _ _
    rw [Option.mem_def, List.getLast?_concat] at hlast
    obtain rfl := Option.some.inj hlast
    obtain rfl := Option.some.inj hfirst
    exact hboundary
  have hstart : rule.words (c :: next :: after) = rule.wordsFrom [next, c] after := by
    rw [words, wordsFrom, if_pos hc, wordsFrom, if_pos hnext, if_neg (by rw [hjoins]; simp)]
  obtain ⟨more, others, hwords⟩ := exists_wordsFrom_eq_cons rule after (List.cons_ne_nil next [c])
  refine ⟨more, others, ?_⟩
  rw [List.append_cons, words_append hrule hbreaks, hstart, hwords]
  rfl

end WordRule

/-! ## §3 Words of a type name -/

/-- What is in lower case begins no word after another character of one. -/
theorem isBoundary_of_isLowercase {c next : Char} (h : isLowercase next = true)
    (after : Option Char) : typeWords.isBoundary c next after = false := by
  simp only [typeWords, isUppercase_of_isLowercase h, Bool.and_false, Bool.false_and, Bool.or_self]

theorem typeWords_looksWithin : typeWords.LooksWithin where
  more := by
    intro prev c next h
    simp only [typeWords, Option.any_none, Bool.and_false, Bool.or_false] at h
    simp only [typeWords, h, Bool.true_or]
  within := by
    intro prev c next h
    simp only [typeWords, Option.any_some, Option.any_none, Bool.and_false, Bool.or_false] at h ⊢
    rcases Bool.or_eq_true_iff.mp h with hbefore | hacronym
    · exact .inl hbefore
    · have hlower := (Bool.and_eq_true_iff.mp hacronym).2
      exact .inr ⟨isAlphanumeric_of_isLowercase hlower, isBoundary_of_isLowercase hlower⟩

/-- **Splitting a name loses nothing and is stable.**  The words run together are the alphanumeric
characters of the name; none is empty, and each by itself is one word.  A character in lower case
that ends a word by following two capitals stands in the next word, with the second of them, and
what comes before that word is split as if nothing followed. -/
theorem splitWords_stable (name : String) :
    String.join (splitWords name) = String.ofList (name.toList.filter isAlphanumeric) ∧
    (∀ w ∈ splitWords name, w ≠ "" ∧ splitWords w = [w]) ∧
    ∀ before prev c next after, name.toList = before ++ prev :: c :: next :: after →
      isUppercase prev = true → isUppercase c = true → isLowercase next = true →
      ∃ more others, splitWords name = splitWords (String.ofList (before ++ [prev])) ++
        String.ofList (c :: next :: more) :: others := by
  refine ⟨?_, ?_, ?_⟩
  · rw [← String.toList_inj, String.toList_join, String.toList_ofList, splitWords,
      List.flatMap_map]
    simp only [String.toList_ofList, List.flatMap_id']
    exact WordRule.flatten_words name.toList
  · intro w hw
    obtain ⟨cs, hcs, rfl⟩ := List.mem_map.mp hw
    refine ⟨fun hempty => WordRule.ne_nil_of_mem_words hcs ?_, ?_⟩
    · rw [← String.toList_ofList (l := cs), hempty]
      rfl
    · rw [splitWords, String.toList_ofList,
        WordRule.words_of_mem_words typeWords_looksWithin hcs]
      rfl
  · intro before prev c next after hname hprev hc hnext
    have hboundary : typeWords.isBoundary prev c (some next) = true := by
      simp only [typeWords, hprev, hc, Option.any_some, hnext, Bool.and_self, Bool.or_true]
    obtain ⟨more, others, hwords⟩ := WordRule.exists_words_eq_of_boundary typeWords_looksWithin
      before after hboundary (isAlphanumeric_of_isUppercase hc)
      (isAlphanumeric_of_isLowercase hnext) (isBoundary_of_isLowercase hnext)
    refine ⟨more, others.map String.ofList, ?_⟩
    rw [splitWords, hname, hwords, List.map_append, List.map_cons, splitWords,
      String.toList_ofList]

/-- In `XMLHttpRequest` the first `t` ends a word, and stands in the next one. -/
theorem splitWords_stable_request :
    ("Http" ∈ splitWords "XMLHttpRequest" ∧ splitWords "Http" = ["Http"]) ∧
    ∃ more others, splitWords "XMLHttpRequest" =
      splitWords "XML" ++ String.ofList ('H' :: 't' :: more) :: others := by
  obtain ⟨-, hwords, hbreaks⟩ := splitWords_stable "XMLHttpRequest"
  have hword : "Http" ∈ splitWords "XMLHttpRequest" := by decide +kernel
  exact ⟨⟨hword, (hwords "Http" hword).2⟩,
    hbreaks ['X', 'M'] 'L' 'H' 't' ['t', 'p', 'R', 'e', 'q', 'u', 'e', 's', 't'] (by decide +kernel)
      (by decide +kernel) (by decide +kernel) (by decide +kernel)⟩

end TrackingPlan.Naming
