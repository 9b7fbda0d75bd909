import TrackingPlan.Proofs.Binary64.Text

/-!
# The JSON text of a scalar tells the scalar

Strings are read back escape by escape (`unescape_escape`).  Numbers show by a point or an exponent
whether they are integers.  A first character tells strings, numbers and truth values apart, so
scalars with one text are one value (`eq_of_text_eq`).
-/

namespace TrackingPlan.Json

/-! ## §1 Strings -/

/-- The value of a hexadecimal digit in lower case. -/
def hexValue (c : Char) : Nat :=
  if c.isDigit then c.toNat - 0x30 else c.toNat - 0x57

/-- The character of a short escape. -/
def shortEscape (c : Char) : Char :=
  if c == 'n' then '\n'
  else if c == 'r' then '\r'
  else if c == 't' then '\t'
  else if c == 'b' then Char.ofNat 0x08
  else if c == 'f' then Char.ofNat 0x0C
  else c

/-- Reads escaped characters back. -/
def unescape : List Char → List Char
  | '\\' :: 'u' :: _ :: _ :: high :: low :: rest =>
    Char.ofNat (16 * hexValue high + hexValue low) :: unescape rest
  | '\\' :: c :: rest => shortEscape c :: unescape rest
  | c :: rest => c :: unescape rest
  | [] => []

theorem hexValue_hexDigit : ∀ n < 16, hexValue (hexDigit n) = n := by
  decide

theorem eq_ofNat_of_toNat {c : Char} {n : Nat} (h : c.toNat = n) : c = Char.ofNat n := by
  rw [← h, Char.ofNat_toNat]

theorem unescape_escapeChar (c : Char) (rest : List Char) :
    unescape (escapeChar c ++ rest) = c :: unescape rest := by
  by_cases hquote : c = '"'
  · subst hquote
    rfl
  by_cases hslash : c = '\\'
  · subst hslash
    rfl
  by_cases hnewline : c = '\n'
  · subst hnewline
    rfl
  by_cases hreturn : c = '\r'
  · subst hreturn
    rfl
  by_cases htab : c = '\t'
  · subst htab
    rfl
  by_cases hback : c.toNat = 0x08
  · obtain rfl := eq_ofNat_of_toNat hback
    rfl
  by_cases hfeed : c.toNat = 0x0C
  · obtain rfl := eq_ofNat_of_toNat hfeed
    rfl
  by_cases hcontrol : c.toNat < 0x20
  · have hescape : escapeChar c =
        ['\\', 'u', '0', '0', hexDigit (c.toNat / 16), hexDigit (c.toNat % 16)] := by
      simp [escapeChar, hquote, hslash, hnewline, hreturn, htab, hback, hfeed, hcontrol]
    have hchar : 16 * (c.toNat / 16) + c.toNat % 16 = c.toNat := Nat.div_add_mod c.toNat 16
    rw [hescape]
    show Char.ofNat (16 * hexValue (hexDigit (c.toNat / 16)) +
      hexValue (hexDigit (c.toNat % 16))) :: unescape rest = c :: unescape rest
    rw [hexValue_hexDigit _ (by omega), hexValue_hexDigit _ (by omega), hchar, Char.ofNat_toNat]
  · have hescape : escapeChar c = [c] := by
      simp [escapeChar, hquote, hslash, hnewline, hreturn, htab, hback, hfeed, hcontrol]
    rw [hescape, List.singleton_append, unescape]
    · rintro _ _ _ _ _ heq -
      exact hslash heq
    · rintro _ _ heq -
      exact hslash heq

theorem unescape_escape (cs : List Char) : unescape (cs.flatMap escapeChar) = cs := by
  induction cs with
  | nil => rfl
  | cons c rest ih => rw [List.flatMap_cons, unescape_escapeChar, ih]

/-- **A quoted string tells the string.** -/
theorem quote_injective {s t : String} (h : quote s = quote t) : s = t := by
  have hlist := List.cons.inj (String.ofList_injective h)
  have hescaped := List.append_cancel_right hlist.2
  have hread := congrArg unescape hescaped
  rw [unescape_escape, unescape_escape] at hread
  exact String.toList_inj.mp hread

/-! ## §2 Numbers -/

/-- A number that JSON can hold is finite. -/
def Number.IsFinite (n : Number) : Prop :=
  ∀ x, n = .float x → x.isFinite = true

instance Number.decidableIsFinite : (n : Number) → Decidable n.IsFinite
  | .integer _ => .isTrue nofun
  | .float x => decidable_of_iff (x.isFinite = true)
      ⟨fun h _ hy => Number.float.inj hy ▸ h, fun h => h x rfl⟩

theorem not_mem_toString_int {c : Char} (hc : c.isDigit = false) (hsign : c ≠ '-') (i : Int) :
    c ∉ (toString i).toList := by
  rw [toList_toString_int, List.mem_append]
  rintro (hmem | hmem)
  · split at hmem
    · exact hsign (List.mem_singleton.mp hmem)
    · exact absurd hmem List.not_mem_nil
  · rw [isDigit_of_mem_toString hmem] at hc
    cases hc

/-- An integer has neither a point nor an exponent in its text. -/
theorem toString_int_ne_toText (i : Int) (x : Binary64) : toString i ≠ x.toText .json := by
  intro h
  have hpoint := not_mem_toString_int (c := '.') (by decide) (by decide) i
  have hmark := not_mem_toString_int (c := 'e') (by decide) (by decide) i
  rw [h, Binary64.toText_toList, List.mem_append, not_or] at hpoint hmark
  rcases DecimalStyle.mark_mem_format x.shortest with hmem | hmem
  · exact hpoint.2 hmem
  · exact hmark.2 hmem

/-- **The text of a number tells the number.** -/
theorem Number.text_injective {m n : Number} (hm : m.IsFinite) (hn : n.IsFinite)
    (h : m.text = n.text) : m = n := by
  cases m with
  | integer i =>
    cases n with
    | integer j => rw [toString_int_injective h]
    | float y => exact absurd h (toString_int_ne_toText i y)
  | float x =>
    cases n with
    | integer j => exact absurd h.symm (toString_int_ne_toText j x)
    | float y => rw [Binary64.toText_injective (hm x rfl) (hn y rfl) h]

theorem Number.equals_self {n : Number} (h : n.IsFinite) : n.equals n = true := by
  cases n with
  | integer i => exact beq_self_eq_true i
  | float x =>
    have hle : x.magnitude ≤ Binary64.infinityBits := (of_decide_eq_true (h x rfl)).le
    show x.equals x = true
    unfold Binary64.equals
    cases x.isZero with
    | true => rfl
    | false => simpa using hle

/-! ## §3 Scalars -/

/-- A number that JSON cannot hold is not the value. -/
def IsFinite (j : Json) : Prop :=
  ∀ n, j = .number n → n.IsFinite

instance decidableIsFinite : (j : Json) → Decidable j.IsFinite
  | .number n => decidable_of_iff n.IsFinite
      ⟨fun h _ hm => Json.number.inj hm ▸ h, fun h => h n rfl⟩
  | .null | .bool _ | .string _ | .array _ | .object _ => .isTrue nofun

/-- What the first character of a scalar's text shows. -/
inductive Lead where
  | bool
  | number
  | string
deriving DecidableEq

/-- Strings begin with a quote and numbers with a sign or a digit. -/
def Lead.ofChar (c : Char) : Lead :=
  if c = '"' then .string else if c = '-' ∨ c.isDigit = true then .number else .bool

/-- What a scalar shows; other values show nothing. -/
def lead? : Json → Option Lead
  | .bool _ => some .bool
  | .number _ => some .number
  | .string _ => some .string
  | _ => none

theorem Number.ofChar_head (n : Number) :
    n.text.toList.head?.map Lead.ofChar = some .number := by
  have hof : ∀ c : Char, c = '-' ∨ c.isDigit = true → Lead.ofChar c = .number := by
    intro c hc
    have hquote : c ≠ '"' := by
      rintro rfl
      revert hc
      decide
    rw [Lead.ofChar, if_neg hquote, if_pos hc]
  have hsigned : ∀ (negative : Prop) [Decidable negative] (digits : List Char),
      (∃ c rest, digits = c :: rest ∧ c.isDigit = true) →
      ((if negative then ['-'] else []) ++ digits).head?.map Lead.ofChar = some .number := by
    rintro negative _ _ ⟨c, rest, rfl, hc⟩
    split
    · exact congrArg some (hof '-' (.inl rfl))
    · exact congrArg some (hof c (.inr hc))
  cases n with
  | integer i =>
    rw [Number.text, toList_toString_int]
    refine hsigned _ _ ?_
    obtain ⟨c, rest, hdigits⟩ := List.exists_cons_of_ne_nil
      (Nat.toDigits_ne_nil (n := i.natAbs) (b := 10))
    rw [← toList_toString_nat] at hdigits
    exact ⟨c, rest, hdigits, isDigit_of_mem_toString (hdigits ▸ List.mem_cons_self)⟩
  | float x =>
    rw [Number.text, Binary64.toText_toList]
    exact hsigned _ _ (DecimalStyle.head_format x.shortest)

/-- The first character of a scalar's text shows what scalar it is. -/
theorem ofChar_head {j : Json} {k : Lead} (h : j.lead? = some k) :
    j.text.toList.head?.map Lead.ofChar = some k := by
  cases j with
  | bool b =>
    obtain rfl := Option.some.inj h
    cases b <;> decide
  | number n =>
    obtain rfl := Option.some.inj h
    exact n.ofChar_head
  | string s =>
    obtain rfl := Option.some.inj h
    rw [text, quote, String.toList_ofList]
    rfl
  | null => cases h
  | array items => cases h
  | object entries => cases h

/-- **Scalars with one text are one value.** -/
theorem eq_of_text_eq {i j : Json} (hi : i.lead? ≠ none) (hj : j.lead? ≠ none)
    (hifin : i.IsFinite) (hjfin : j.IsFinite) (h : i.text = j.text) : i = j := by
  obtain ⟨k, hk⟩ := Option.ne_none_iff_exists'.mp hi
  obtain ⟨l, hl⟩ := Option.ne_none_iff_exists'.mp hj
  have hkind : some k = some l := by rw [← ofChar_head hk, ← ofChar_head hl, h]
  obtain rfl := Option.some.inj hkind
  cases i with
  | bool a =>
    obtain rfl := Option.some.inj hk
    cases j with
    | bool b =>
      cases a <;> cases b <;> first | rfl | exact absurd h (by decide)
    | _ => cases hl
  | number m =>
    obtain rfl := Option.some.inj hk
    cases j with
    | number n => rw [Number.text_injective (hifin m rfl) (hjfin n rfl) h]
    | _ => cases hl
  | string s =>
    obtain rfl := Option.some.inj hk
    cases j with
    | string t => rw [quote_injective h]
    | _ => cases hl
  | null => cases hk
  | array items => cases hk
  | object entries => cases hk

end TrackingPlan.Json
