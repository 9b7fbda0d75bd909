import TrackingPlan.Bindings.LiteralForm
import TrackingPlan.Bindings.Token

/-!
# Quoted text is read back

A text in quotes is read by the rules of the emitted language: an escape stands for one character,
and any other character for itself, up to the first quote that no escape holds (`readQuoted?`).
What `quote` writes is read as the text that was quoted, whatever characters it holds and whatever
follows the closing quote (`readQuoted?_quotedChars`).

§1 code points · §2 reading · §3 what is written is read.
-/

namespace TrackingPlan.Bindings

open LiteralForm (hexValue? afterCodePoint?)

/-! ## §1 Code points -/

theorem hexValue?_digitChar : ∀ n < 16, hexValue? n.digitChar = some n := by
  decide

/-- The digits of a number are read as the number; at most six are read. -/
theorem afterCodePoint?_hexDigits (n : Nat) : ∀ rest, (hexDigits n).length ≤ 6 →
    afterCodePoint? 0 0 (hexDigits n ++ rest) = afterCodePoint? (hexDigits n).length n rest := by
  have hbase : 1 < 16 := by decide
  induction n using Nat.strongRecOn with
  | ind n ih =>
    intro rest hlength
    by_cases hn : n < 16
    · have hdigits : hexDigits n = [n.digitChar] := Nat.toDigits_of_lt_base hn
      rw [hdigits, List.singleton_append, afterCodePoint?, hexValue?_digitChar n hn]
      simp only [Nat.mul_zero, Nat.zero_add, List.length_singleton]
      rfl
    · -- the last digit is read after all others, so the rest of the induction is what it begins
      have hdigits : hexDigits n = hexDigits (n / 16) ++ [(n % 16).digitChar] :=
        Nat.toDigits_of_base_le hbase (Nat.le_of_not_lt hn)
      have hshorter : (hexDigits (n / 16)).length < 6 := by
        rw [hdigits, List.length_append, List.length_singleton] at hlength
        exact hlength
      have hvalue : 16 * (n / 16) + n % 16 = n := Nat.div_add_mod n 16
      rw [hdigits, List.append_assoc, List.singleton_append,
        ih (n / 16) (by omega) _ (Nat.le_of_lt hshorter), afterCodePoint?,
        hexValue?_digitChar _ (Nat.mod_lt n (by decide)), List.length_append,
        List.length_singleton]
      simp [Nat.ne_of_lt hshorter, hvalue]

/-- **A character is read back from its code point in braces.** -/
theorem afterCodePoint?_char (c : Char) (rest : List Char) :
    afterCodePoint? 0 0 (hexDigits c.toNat ++ '\x7d' :: rest) = some (c.toNat, rest) := by
  have hvalid : c.toNat.isValidChar := c.valid
  have hlength : (hexDigits c.toNat).length ≤ 6 := by
    refine (Nat.length_toDigits_le_iff (by decide) (by decide)).mpr ?_
    rcases hvalid with h | h <;> omega
  have hpos : (hexDigits c.toNat).length ≠ 0 := by
    simp [hexDigits]
  have hbrace : hexValue? '\x7d' = none := by decide
  rw [afterCodePoint?_hexDigits _ _ hlength, afterCodePoint?, hbrace]
  simp [hpos, hvalid]

/-! ## §2 Reading -/

/-- The character that an escape stands for, and what follows it, given what follows its
backslash. -/
def readEscape? : List Char → Option (Char × List Char)
  | 'x' :: high :: low :: rest =>
    match hexValue? high, hexValue? low with
    | some h, some l => if h < 8 then some (Char.ofNat (16 * h + l), rest) else none
    | _, _ => none
  | 'u' :: '\x7b' :: rest =>
    (afterCodePoint? 0 0 rest).map fun (n, rest) => (Char.ofNat n, rest)
  | '0' :: rest => some (Char.ofNat 0, rest)
  | 't' :: rest => some ('\t', rest)
  | 'r' :: rest => some ('\r', rest)
  | 'n' :: rest => some ('\n', rest)
  | '"' :: rest => some ('"', rest)
  | '\\' :: rest => some ('\\', rest)
  | _ => none

/-- **What the characters up to the closing quote stand for**, and what follows the quote.  A
carriage return stands nowhere without an escape.  Every step takes a character, so the length is
fuel enough. -/
def readQuoted? : Nat → List Char → Option (List Char × List Char)
  | 0, _ => none
  | _ + 1, [] => none
  | _ + 1, '"' :: rest => some ([], rest)
  | fuel + 1, '\\' :: rest =>
    (readEscape? rest).bind fun (c, rest) =>
      (readQuoted? fuel rest).map fun (said, rest) => (c :: said, rest)
  | _ + 1, '\r' :: _ => none
  | fuel + 1, c :: rest => (readQuoted? fuel rest).map fun (said, rest) => (c :: said, rest)

/-- The text that a whole text in quotes stands for. -/
def quotedValue? : List Char → Option String
  | '"' :: rest =>
    match readQuoted? rest.length rest with
    | some (said, []) => some (String.ofList said)
    | _ => none
  | _ => none

/-! ## §3 What is written is read -/

/-- **How a character may be written**: as it is, or as an escape that is read as it. -/
inductive Written (c : Char) : List Char → Prop
  | plain : c ≠ '"' → c ≠ '\\' → c ≠ '\r' → Written c [c]
  | escape {esc : List Char} : (∀ rest, readEscape? (esc ++ rest) = some (c, rest)) →
      Written c ('\\' :: esc)

theorem Written.length_pos {c : Char} {form : List Char} (h : Written c form) :
    0 < form.length := by
  cases h <;> exact Nat.succ_pos _

theorem written_escapeQuoted (c : Char) (next : Option Char) : Written c (escapeQuoted c next) := by
  by_cases hzero : c.toNat = 0
  · obtain rfl : c = Char.ofNat 0 := by rw [← hzero, Char.ofNat_toNat]
    have hescape : escapeQuoted (Char.ofNat 0) next =
        if next.any fun d => '0' ≤ d ∧ d ≤ '7' then ['\\', 'x', '0', '0'] else ['\\', '0'] := rfl
    rw [hescape]
    split <;> exact .escape fun _ => rfl
  by_cases htab : c = '\t'
  · subst htab
    exact .escape fun _ => rfl
  by_cases hreturn : c = '\r'
  · subst hreturn
    exact .escape fun _ => rfl
  by_cases hnewline : c = '\n'
  · subst hnewline
    exact .escape fun _ => rfl
  by_cases hquote : c = '"'
  · subst hquote
    exact .escape fun _ => rfl
  by_cases hslash : c = '\\'
  · subst hslash
    exact .escape fun _ => rfl
  cases hhidden : Text.isHidden c with
  | true =>
    have hescape : escapeQuoted c next =
        '\\' :: ('u' :: '\x7b' :: (hexDigits c.toNat ++ ['\x7d'])) := by
      simp [escapeQuoted, hzero, htab, hreturn, hnewline, hquote, hslash, hhidden]
    rw [hescape]
    refine .escape fun rest => ?_
    simp only [List.cons_append, List.append_assoc, List.nil_append]
    rw [readEscape?, afterCodePoint?_char, Option.map_some]
    dsimp only
    rw [Char.ofNat_toNat]
  | false =>
    have hescape : escapeQuoted c next = [c] := by
      simp [escapeQuoted, hzero, htab, hreturn, hnewline, hquote, hslash, hhidden]
    rw [hescape]
    exact .plain hquote hslash hreturn

/-- **A written character is read back**, whatever follows it. -/
theorem readQuoted?_written {c : Char} {form : List Char} (h : Written c form) (fuel : Nat)
    (rest : List Char) : readQuoted? (fuel + 1) (form ++ rest) =
      (readQuoted? fuel rest).map fun (said, rest) => (c :: said, rest) := by
  cases h with
  | plain hquote hslash hreturn =>
    rw [List.singleton_append, readQuoted?]
    · exact hquote
    · exact hslash
    · exact hreturn
  | escape hread =>
    rw [List.cons_append, readQuoted?, hread]
    rfl

/-- **What is written is read back**, up to the closing quote and no further. -/
theorem readQuoted?_quotedChars {cs : List Char} {fuel : Nat} (h : cs.length < fuel)
    (rest : List Char) :
    readQuoted? fuel (quotedChars cs ++ '"' :: rest) = some (cs, rest) := by
  induction cs generalizing fuel with
  | nil =>
    obtain ⟨fuel, rfl⟩ := Nat.exists_eq_add_of_lt h
    rfl
  | cons c cs ih =>
    cases fuel with
    | zero => exact absurd h (Nat.not_lt_zero _)
    | succ fuel =>
      have hfuel : cs.length < fuel := Nat.lt_of_succ_lt_succ h
      rw [quotedChars, List.append_assoc, readQuoted?_written (written_escapeQuoted c _),
        ih hfuel]
      rfl

theorem length_le_quotedChars (cs : List Char) : cs.length ≤ (quotedChars cs).length := by
  induction cs with
  | nil => exact Nat.le_refl _
  | cons c cs ih =>
    have hpos := (written_escapeQuoted c cs.head?).length_pos
    rw [quotedChars, List.length_append, List.length_cons]
    omega

/-- **A quoted text stands for the text that was quoted.** -/
theorem quotedValue?_quote (s : String) : quotedValue? (quote s).toList = some s := by
  have hfuel : s.toList.length < (quotedChars s.toList ++ ['"']).length := by
    have hle := length_le_quotedChars s.toList
    rw [List.length_append, List.length_singleton]
    omega
  rw [quote, String.toList_ofList, quotedValue?, readQuoted?_quotedChars hfuel []]
  exact congrArg some (String.ofList_toList)

end TrackingPlan.Bindings
