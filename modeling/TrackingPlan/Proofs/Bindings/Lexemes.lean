import TrackingPlan.Bindings.Lexeme
import TrackingPlan.Proofs.Bindings.Closure
import TrackingPlan.Proofs.Bindings.QuotedText
import TrackingPlan.Proofs.Bindings.TokenText
import TrackingPlan.Proofs.Naming.Words
import TrackingPlan.Proofs.Text.Identifier

/-!
# An identifier is one lexeme, and so is a text in quotes

Where tokens are told apart, an identifier is read to its end and no further, as itself: no letter
that may begin a text in quotes gets in its way, and neither does the mark of a raw identifier
(`single?_identifier`).  A text in quotes is read to its closing quote, whatever it holds
(`single?_quote`).

§1 texts in quotes · §2 what is no name · §3 identifiers.
-/

namespace TrackingPlan.Bindings

open LiteralForm

/-! ## §1 Texts in quotes -/

/-- What is read as an escape is passed over, and no line ends in its backslash. -/
theorem afterEscape?_of_readEscape? {cs rest : List Char} {c : Char}
    (h : readEscape? cs = some (c, rest)) :
    afterEscape? .text cs = some rest ∧ cs.head? ≠ some '\n' ∧ cs.head? ≠ some '\r' := by
  unfold readEscape? at h
  split at h
  · rename_i high low rest'
    cases hhigh : hexValue? high with
    | none => simp [hhigh] at h
    | some m =>
      cases hlow : hexValue? low with
      | none => simp [hhigh, hlow] at h
      | some n =>
        simp only [hhigh, hlow] at h
        split at h
        · rename_i hm
          obtain ⟨-, rfl⟩ := Prod.mk.inj (Option.some.inj h)
          refine ⟨?_, by simp, by simp⟩
          rw [afterEscape?, hhigh, hlow]
          simp [Content.admitsPair, hm]
        · cases h
  · obtain ⟨point, hpoint, hrest⟩ := Option.map_eq_some_iff.mp h
    obtain ⟨-, rfl⟩ := Prod.mk.inj hrest
    refine ⟨?_, by simp, by simp⟩
    rw [afterEscape?, hpoint]
    · rfl
    · exact fun hbytes => by cases hbytes
    · exact fun _ hzero => by cases hzero
  all_goals first
    | cases h
      done
    | obtain ⟨-, rfl⟩ := Prod.mk.inj (Option.some.inj h)
      exact ⟨rfl, by simp, by simp⟩

theorem afterQuoted?_written {c : Char} {form : List Char} (h : Written c form) (fuel : Nat)
    (rest : List Char) :
    afterQuoted? .text (fuel + 1) (form ++ rest) = afterQuoted? .text fuel rest := by
  cases h with
  | plain hquote hslash hreturn =>
    rw [List.singleton_append, afterQuoted?]
    · rfl
    · exact hquote
    · exact fun _ hc _ => hreturn hc
    · exact hreturn
    · exact fun _ hc _ => hslash hc
    · exact fun _ hc _ => hslash hc
    · exact hslash
  | @escape esc hread =>
    obtain ⟨hafter, hfeed, hreturn⟩ := afterEscape?_of_readEscape? (hread rest)
    rw [List.cons_append, afterQuoted?, hafter]
    · rfl
    · exact fun after hesc => hfeed (by rw [hesc]; rfl)
    · exact fun after hesc => hreturn (by rw [hesc]; rfl)

theorem afterQuoted?_quotedChars {cs : List Char} {fuel : Nat} (h : cs.length < fuel)
    (rest : List Char) : afterQuoted? .text fuel (quotedChars cs ++ '"' :: rest) = some rest := by
  induction cs generalizing fuel with
  | nil =>
    obtain ⟨fuel, rfl⟩ := Nat.exists_eq_add_of_lt h
    rfl
  | cons c cs ih =>
    cases fuel with
    | zero => exact absurd h (Nat.not_lt_zero _)
    | succ fuel =>
      have hfuel : cs.length < fuel := Nat.lt_of_succ_lt_succ h
      rw [quotedChars, List.append_assoc, afterQuoted?_written (written_escapeQuoted c _)]
      exact ih hfuel

/-- No name goes on with what ends a token. -/
theorem isIdentifierContinue_of_mem_tokenEnds {c : Char} (h : c ∈ tokenEnds) :
    Text.isIdentifierContinue c = false := by
  have hnone : tokenEnds.any Text.isIdentifierContinue = false := by decide
  exact Bool.eq_false_iff.mpr (List.any_eq_false.mp hnone c h)

theorem isIdentifierStart_of_mem_tokenEnds {c : Char} (h : c ∈ tokenEnds) :
    Text.isIdentifierStart c = false := by
  by_contra hstart
  rw [Bool.not_eq_false] at hstart
  have hcontinue := Text.isIdentifierContinue_of_isIdentifierStart hstart
  rw [isIdentifierContinue_of_mem_tokenEnds h] at hcontinue
  cases hcontinue

theorem afterSuffix_of_endsToken {rest : List Char} (h : EndsToken rest) :
    afterSuffix rest = rest := by
  cases rest with
  | nil => rfl
  | cons c rest =>
    have hstart := isIdentifierStart_of_mem_tokenEnds (h c rfl)
    simp [afterSuffix, hstart]

/-- **A text in quotes is one lexeme**, whatever characters it holds. -/
theorem single?_quote (s : String) {rest : List Char} (h : EndsToken rest) :
    Lexeme.single? ((quote s).toList ++ rest) = some (.literal (quote s), rest) := by
  have hchars : (quote s).toList ++ rest = '"' :: (quotedChars s.toList ++ '"' :: rest) := by
    simp [quote]
  have hfuel : s.toList.length < (quotedChars s.toList ++ '"' :: rest).length := by
    have hle := length_le_quotedChars s.toList
    rw [List.length_append, List.length_cons]
    omega
  have hafter : after? ((quote s).toList ++ rest) = some rest := by
    rw [hchars, after?, afterText?]
    simp only [afterQuoted?_quotedChars hfuel, Option.map_some, afterSuffix_of_endsToken h,
      Option.some_or]
  -- the literal is what was read: the text up to what follows it
  have hlength : ((quote s).toList ++ rest).length - rest.length = (quote s).toList.length := by
    rw [List.length_append, Nat.add_sub_cancel]
  rw [Lexeme.single?, Lexeme.literal?, hafter, Option.map_some, hlength, List.take_left,
    String.ofList_toList]
  rfl

/-! ## §2 What is no name -/

/-- What goes on after the letters that may begin a text in quotes. -/
def quoteSigns : List Char :=
  ['"', '#', apostrophe]

/-- **The name at the head of a text begins no text in quotes**: no sign of one follows it. -/
def Unquoted (cs : List Char) : Prop :=
  ∀ d, (cs.dropWhile Text.isIdentifierContinue).head? = some d → d ∉ quoteSigns

theorem Unquoted.not_sign {d : Char} {cs : List Char} (h : Unquoted (d :: cs)) :
    d ∉ quoteSigns := by
  intro hd
  have hnone : quoteSigns.any Text.isIdentifierContinue = false := by decide
  have hstop := Bool.eq_false_iff.mpr (List.any_eq_false.mp hnone d hd)
  refine h d ?_ hd
  rw [List.dropWhile_cons, hstop]
  rfl

theorem Unquoted.tail {c : Char} {cs : List Char} (hc : Text.isIdentifierContinue c = true)
    (h : Unquoted (c :: cs)) : Unquoted cs := by
  rw [Unquoted, List.dropWhile_cons, hc] at h
  exact h

theorem afterSigns?_of_unquoted {cs : List Char} (content : Content) (h : Unquoted cs) :
    afterSigns? content cs = none := by
  cases cs with
  | nil => rfl
  | cons d cs =>
    have hd := h.not_sign
    have hsign : (d == '#') = false := by
      refine beq_false_of_ne ?_
      rintro rfl
      exact hd (by decide)
    have hquote : d ≠ '"' := by
      rintro rfl
      exact hd (by decide)
    simp [afterSigns?, hsign, hquote]

theorem afterApostrophe?_of_unquoted {cs : List Char} (h : Unquoted cs) :
    afterApostrophe? cs = none := by
  cases cs with
  | nil => rfl
  | cons d cs =>
    have hne : (d == apostrophe) = false := by
      refine beq_false_of_ne ?_
      rintro rfl
      exact h.not_sign (by decide)
    rw [afterApostrophe?, hne]
    rfl

theorem afterText?_of_unquoted {cs : List Char} (h : Unquoted cs) : afterText? cs = none := by
  unfold afterText?
  split
  · exact absurd (by decide) h.not_sign
  · exact absurd (by decide) (h.tail (by decide)).not_sign
  · exact absurd (by decide) (h.tail (by decide)).not_sign
  · rw [afterSigns?_of_unquoted .text (h.tail (by decide))]
    rfl
  · rw [afterSigns?_of_unquoted .bytes ((h.tail (by decide)).tail (by decide))]
    rfl
  · rw [afterSigns?_of_unquoted .zeroEnded ((h.tail (by decide)).tail (by decide))]
    rfl
  · rw [afterApostrophe?_of_unquoted (h.tail (by decide))]
    rfl
  · rw [afterApostrophe?_of_unquoted h]
    rfl

/-- A hexadecimal digit that is no decimal one is ten or more. -/
theorem ten_le_of_hexValue? {c : Char} {d : Nat} (hc : isDecimal c = false)
    (h : hexValue? c = some d) : 10 ≤ d := by
  unfold hexValue? at h
  unfold isDecimal at hc
  split at h
  · rename_i hdecimal
    rw [hdecimal] at hc
    cases hc
  · split at h
    · obtain rfl := Option.some.inj h
      omega
    · split at h
      · obtain rfl := Option.some.inj h
        omega
      · cases h

/-- A number begins with a decimal digit. -/
theorem afterNumber?_cons {c : Char} (hc : isDecimal c = false) (cs : List Char) :
    afterNumber? (c :: cs) = none := by
  have hfloat : afterFloat? (c :: cs) = none := by
    simp [afterFloat?, hc]
  have hdigits : afterDigits? 10 false (c :: cs) = none := by
    rw [afterDigits?]
    cases hvalue : hexValue? c with
    | none => simp
    | some d => simp [Nat.not_lt.mpr (ten_le_of_hexValue? hc hvalue)]
  have hinteger : afterInteger? (c :: cs) = none := by
    have hzero : c ≠ '0' := by
      rintro rfl
      cases hc
    rw [afterInteger?]
    · exact hdigits
    all_goals simp [hzero]
  rw [afterNumber?, hfloat, hinteger]
  rfl

/-! ## §3 Identifiers -/

/-- No identifier begins with a mark or a sign of a text in quotes. -/
theorem not_mem_of_start {c : Char} (hc : Text.isIdentifierStart c = true) :
    c ∉ Lexeme.marks ++ quoteSigns := by
  have hnone : (Lexeme.marks ++ quoteSigns).any Text.isIdentifierStart = false := by decide
  intro hmem
  exact List.any_eq_false.mp hnone c hmem hc

theorem isDecimal_of_start {c : Char} (hc : Text.isIdentifierStart c = true) :
    isDecimal c = false := by
  rw [← Bool.not_eq_true]
  intro hdigit
  have hascii : c.toNat < 128 := Naming.isAlphanum_ascii (Bool.or_eq_true_iff.mpr (.inr hdigit))
  have hstart : Text.isIdentifierStart c = false :=
    Naming.forall_ascii (p := fun c => isDecimal c = true → Text.isIdentifierStart c = false)
      (by decide) hascii hdigit
  rw [hstart] at hc
  cases hc

theorem beginsMark_of_start {c : Char} (hc : Text.isIdentifierStart c = true) (cs : List Char) :
    Lexeme.beginsMark (c :: cs) = false := by
  have hmark : c ∉ Lexeme.marks := fun hmem =>
    not_mem_of_start hc (List.mem_append_left _ hmem)
  unfold Lexeme.beginsMark
  split
  · rfl
  · rfl
  · simpa using hmark

/-- What is read of a name is the name. -/
theorem nameChars_append {name rest : List Char} (hname : name.all Text.isIdentifierContinue = true)
    (h : EndsToken rest) : Lexeme.nameChars (name ++ rest) = (name, rest) := by
  have hall := List.all_eq_true.mp hname
  have hstop : rest.takeWhile Text.isIdentifierContinue = [] ∧
      rest.dropWhile Text.isIdentifierContinue = rest := by
    cases rest with
    | nil => exact ⟨rfl, rfl⟩
    | cons c rest => simp [isIdentifierContinue_of_mem_tokenEnds (h c rfl)]
  rw [Lexeme.nameChars, List.takeWhile_append_of_pos hall, List.dropWhile_append_of_pos hall,
    hstop.1, hstop.2, List.append_nil]

theorem all_continue_of_wellFormed {name : List Char} (h : Identifier.isWellFormed name = true) :
    name.all Text.isIdentifierContinue = true := by
  cases name with
  | nil => rfl
  | cons c name =>
    obtain ⟨hc, hname⟩ := (Bool.and_eq_true _ _).mp h
    rw [List.all_cons, hname, Text.isIdentifierContinue_of_isIdentifierStart hc]
    rfl

theorem unquoted_append {name rest : List Char} (hname : name.all Text.isIdentifierContinue = true)
    (h : EndsToken rest) : Unquoted (name ++ rest) := by
  have hdrop : (name ++ rest).dropWhile Text.isIdentifierContinue = rest :=
    congrArg Prod.snd (nameChars_append hname h)
  intro d hd
  rw [hdrop] at hd
  have hnone : tokenEnds.any quoteSigns.contains = false := by decide
  exact fun hsign =>
    List.any_eq_false.mp hnone d (h d hd) (List.contains_iff_mem.mpr hsign)

/-- No beginning of a text in quotes stands at the head. -/
theorem quoteMarks_of_unquoted {cs : List Char} (h : Unquoted cs) :
    Lexeme.quoteMarks.any (·.isPrefixOf cs) = false := by
  have hmarks : Lexeme.quoteMarks.all (fun q =>
      (q.dropWhile Text.isIdentifierContinue).head?.any quoteSigns.contains) = true := by
    decide
  rw [List.any_eq_false]
  intro q hq hprefix
  obtain ⟨after, rfl⟩ := List.isPrefixOf_iff_prefix.mp hprefix
  obtain ⟨d, hhead, hd⟩ := (Option.any_eq_true _ _).mp (List.all_eq_true.mp hmarks q hq)
  refine h d ?_ (List.contains_iff_mem.mp hd)
  cases hdrop : q.dropWhile Text.isIdentifierContinue with
  | nil =>
    rw [hdrop] at hhead
    cases hhead
  | cons sign _ =>
    rw [hdrop] at hhead
    rw [List.dropWhile_append, hdrop]
    exact hhead

/-- A name without the mark of a raw identifier is one lexeme. -/
theorem single?_plain {name rest : List Char} (hformed : Identifier.isWellFormed name = true)
    (h : EndsToken rest) :
    Lexeme.single? (name ++ rest) = some (.ident ⟨String.ofList name, false⟩, rest) := by
  have hall := all_continue_of_wellFormed hformed
  have hunquoted := unquoted_append hall h
  cases name with
  | nil => cases hformed
  | cons c name =>
    obtain ⟨hc, -⟩ := (Bool.and_eq_true _ _).mp hformed
    -- literals and marks are tried first, and the name is neither
    have hliteral : Lexeme.literal? (c :: name ++ rest) = none := by
      rw [Lexeme.literal?, after?, afterText?_of_unquoted hunquoted, List.cons_append,
        afterNumber?_cons (isDecimal_of_start hc)]
      rfl
    have hmark : Lexeme.mark? (c :: name ++ rest) = none := by
      rw [List.cons_append, Lexeme.mark?, beginsMark_of_start hc]
      rfl
    have hidentifier : Lexeme.identifier? (c :: name ++ rest) =
        some (⟨String.ofList (c :: name), false⟩, rest) := by
      unfold Lexeme.identifier?
      split
      · rename_i heq
        rw [heq] at hunquoted
        exact absurd (by decide) (hunquoted.tail (by decide)).not_sign
      · rename_i heq
        obtain ⟨rfl, -⟩ := List.cons.inj heq
        rw [if_pos hc, nameChars_append hall h]
      · rename_i heq
        cases heq
    rw [Lexeme.single?, hliteral, hmark, Lexeme.word?, quoteMarks_of_unquoted hunquoted,
      hidentifier]
    rfl

/-- So is a name with the mark, if it may be raw. -/
theorem single?_raw {name rest : List Char} {i : Identifier}
    (hi : Identifier.raw? (String.ofList name) = some i) (h : EndsToken rest) :
    Lexeme.single? ('r' :: '#' :: name ++ rest) = some (.ident i, rest) := by
  have hformed : Identifier.isWellFormed name = true := by
    unfold Identifier.raw? at hi
    split at hi
    · rename_i hraw
      rw [String.toList_ofList] at hraw
      exact ((Bool.and_eq_true _ _).mp hraw).1
    · cases hi
  have hname := nameChars_append (all_continue_of_wellFormed hformed) h
  cases name with
  | nil => cases hformed
  | cons c name =>
    obtain ⟨hc, -⟩ := (Bool.and_eq_true _ _).mp hformed
    have hsign : c ∉ quoteSigns := fun hmem => not_mem_of_start hc (List.mem_append_right _ hmem)
    have hquote : c ≠ '"' := by
      rintro rfl
      exact hsign (by decide)
    have hmark : c ≠ '#' := by
      rintro rfl
      exact hsign (by decide)
    -- `r#` may begin a raw text, too, but then a quote or another sign follows it
    have hliteral : Lexeme.literal? ('r' :: '#' :: c :: name ++ rest) = none := by
      have htext : afterText? ('r' :: '#' :: c :: name ++ rest) = none := by
        simp [afterText?, afterSigns?, hquote, hmark]
      rw [Lexeme.literal?, after?, htext, List.cons_append, afterNumber?_cons rfl]
      rfl
    have hword :
        Lexeme.quoteMarks.any (·.isPrefixOf ('r' :: '#' :: c :: name ++ rest)) = false := by
      simp [Lexeme.quoteMarks, List.isPrefixOf, apostrophe, hquote.symm, hmark.symm]
    have hidentifier : Lexeme.identifier? ('r' :: '#' :: c :: name ++ rest) = some (i, rest) := by
      rw [List.cons_append, List.cons_append, Lexeme.identifier?, hname]
      dsimp only
      rw [hi]
      rfl
    rw [Lexeme.single?, hliteral, Lexeme.word?, hword, hidentifier]
    rfl

/-- **An identifier is one lexeme**: its own. -/
theorem single?_identifier {text : String} {i : Identifier} (hi : Identifier.ofText? text = some i)
    {rest : List Char} (h : EndsToken rest) :
    Lexeme.single? (text.toList ++ rest) = some (.ident i, rest) := by
  unfold Identifier.ofText? at hi
  split at hi
  · rename_i name htext
    rw [htext]
    exact single?_raw hi h
  · split at hi
    · rename_i hformed
      obtain rfl := Option.some.inj hi
      have hplain := single?_plain hformed h
      rwa [String.ofList_toList] at hplain
    · cases hi

end TrackingPlan.Bindings
