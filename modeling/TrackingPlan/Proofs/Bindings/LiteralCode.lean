import TrackingPlan.Bindings.Print
import TrackingPlan.Proofs.Bindings.Defaults
import TrackingPlan.Proofs.Bindings.Numerals
import TrackingPlan.Proofs.Bindings.QuotedText
import TrackingPlan.Proofs.Schema.Enumeration

/-!
# What the code for a literal builds

Emitted code builds a fixed JSON value by one call: a truth value or a text is wrapped, a number is
converted.  What such an expression builds is said by the texts of its tokens (`Builds`), apart from
how the expression is spelled out, and it is one value at most.

The code for a literal builds the literal's own value, with one exception: a number that is no
signed 64-bit integer is emitted in double precision, so of an integer above those the code builds
the nearest number (`builds_toJson_iff`).

§1 what an expression builds · §2 literals of a document · §3 the expression of a literal.
-/

namespace TrackingPlan

namespace Bindings

/-! ## §1 What an expression builds -/

/-- The functions of the library's JSON type that take a literal. -/
inductive JsonFunction where
  | wrapBool
  | convertNumber
  | wrapString

/-- The name of the function. -/
def JsonFunction.name : JsonFunction → String
  | wrapBool => "Bool"
  | convertNumber => "from"
  | wrapString => "String"

theorem JsonFunction.name_injective {f g : JsonFunction} (h : f.name = g.name) : f = g := by
  cases f <;> cases g <;> first | rfl | exact absurd h (by decide)

/-- A function of the JSON type, applied to what these tokens spell. -/
def jsonCall (rt : RuntimePath) (f : JsonFunction) (argument : List Token) : List Token :=
  rt ++ [.mark "::", .word "JsonValue", .mark "::", .word f.name, .group .round argument]

theorem jsonCall_inj {rt : RuntimePath} {f g : JsonFunction} {a b : List Token}
    (h : jsonCall rt f a = jsonCall rt g b) : f = g ∧ a = b := by
  have hcall := List.append_cancel_left h
  obtain ⟨hname, hargument⟩ : f.name = g.name ∧ a = b := by simpa using hcall
  exact ⟨JsonFunction.name_injective hname, hargument⟩

/-- The truth value that a word stands for. -/
def truthValue? (word : String) : Option Bool :=
  if word = "true" then some true else if word = "false" then some false else none

/-- **What a function of the JSON type gives.**  Truth values and texts are wrapped, a text once it
is an owned one, and a number is converted. -/
inductive JsonFunction.Gives : JsonFunction → List Token → Json → Prop
  | truth {word : String} {b : Bool} : truthValue? word = some b →
      Gives wrapBool [.word word] (.bool b)
  | number {t : Token} {j : Json} : NumeralValue t.text.toList j → Gives convertNumber [t] j
  | string {t : Token} {s : String} : quotedValue? t.text.toList = some s →
      Gives wrapString [t, .mark ".", .word "to_string", .group .round []] (.string s)

theorem JsonFunction.Gives.unique {f : JsonFunction} {argument : List Token} {j k : Json}
    (h : f.Gives argument j) (h' : f.Gives argument k) : j = k := by
  cases h with
  | truth hb =>
    cases h' with
    | truth hb' => rw [Option.some.inj (hb.symm.trans hb')]
  | number hj =>
    cases h' with
    | number hk => exact hj.unique hk
  | string hs =>
    cases h' with
    | string hs' => rw [Option.some.inj (hs.symm.trans hs')]

/-- **The JSON value that an expression builds.** -/
def Builds (rt : RuntimePath) (expression : List Token) (j : Json) : Prop :=
  ∃ (f : JsonFunction) (argument : List Token),
    expression = jsonCall rt f argument ∧ f.Gives argument j

/-- **An expression builds one value at most.** -/
theorem Builds.unique {rt : RuntimePath} {expression : List Token} {j k : Json}
    (h : Builds rt expression j) (h' : Builds rt expression k) : j = k := by
  obtain ⟨f, a, rfl, hj⟩ := h
  obtain ⟨g, b, hcall, hk⟩ := h'
  obtain ⟨rfl, rfl⟩ := jsonCall_inj hcall
  exact hj.unique hk

end Bindings

/-! ## §2 Literals of a document -/

/-- **A number that a JSON document holds**: an integer of 64 bits, with a sign or without, or a
finite number. -/
def Json.Number.IsHeld : Json.Number → Prop
  | .integer i => Int64.minValue.toInt ≤ i ∧ i < 2 ^ 64
  | .float x => x.isFinite = true

/-- A scalar that a JSON document holds. -/
def Json.IsHeld (j : Json) : Prop :=
  ∀ n, j = .number n → n.IsHeld

namespace Literal

/-- The literal is an integer that is kept as a number, for want of 64 bits with a sign. -/
def IsWide (l : Literal) : Prop :=
  ∃ i : Int, l = .number (.integer i)

/-- What the code for a literal builds: a number is taken in double precision. -/
def built : Literal → Json
  | .number n => .number (.float n.toBinary64)
  | l => l.toJson

/-- A literal that is a number was read from this number. -/
theorem eq_number_of_ofJson? {j : Json} {n : Json.Number} (h : ofJson? j = some (.number n)) :
    j = .number n := by
  cases j with
  | number m =>
    rw [ofJson?] at h
    split at h
    · cases h
    · cases h
      rfl
  | bool b => cases h
  | string s => cases h
  | _ => cases h

theorem built_eq_toJson_iff {l : Literal} : l.built = l.toJson ↔ ¬l.IsWide := by
  cases l with
  | number n =>
    cases n with
    | integer i =>
      refine iff_of_false (fun h => ?_) (not_not_intro ⟨i, rfl⟩)
      cases Json.number.inj h
    | float x =>
      refine iff_of_true rfl ?_
      rintro ⟨i, hi⟩
      cases Literal.number.inj hi
  | bool b => exact iff_of_true rfl fun ⟨i, hi⟩ => Literal.noConfusion hi
  | integer i => exact iff_of_true rfl fun ⟨i, hi⟩ => Literal.noConfusion hi
  | string s => exact iff_of_true rfl fun ⟨i, hi⟩ => Literal.noConfusion hi

end Literal

/-- **A number that a document holds is not too large for double precision.** -/
theorem Json.Number.IsHeld.isFinite_toBinary64 {n : Json.Number} (h : n.IsHeld) :
    n.toBinary64.isFinite = true := by
  cases n with
  | float x => exact h
  | integer i =>
    obtain ⟨hlow, hhigh⟩ := h
    have hmin : Int64.minValue.toInt = -9223372036854775808 := by decide
    have hsize : i.natAbs < 1 * Nat.pow 2 64 := by
      show i.natAbs < 18446744073709551616
      omega
    exact Binary64.isFinite_of_le (Binary64.magnitude_ofRatio_le _ hsize) (by decide)

/-! ## §3 The expression of a literal -/

namespace Bindings

/-- Fixed code is its words and marks. -/
theorem code_eq {text : String} (parts : List String) (steps : Nat)
    (h : splitSteps text " " steps 0 0 0 [] = some parts) :
    code text = parts.map fun t =>
      if t.toList.head?.any (fun c => c.isAlpha || c == '_') then .word t else .mark t := by
  rw [code, splitOn_of_steps steps h]

/-- The fixed code around a literal. -/
theorem code_literal :
    code "::" = [.mark "::"] ∧
    code "JsonValue :: Bool" = [.word "JsonValue", .mark "::", .word "Bool"] ∧
    code "JsonValue :: from" = [.word "JsonValue", .mark "::", .word "from"] ∧
    code "JsonValue :: String" = [.word "JsonValue", .mark "::", .word "String"] ∧
    code "true" = [.word "true"] ∧
    code "false" = [.word "false"] ∧
    code ". to_string" = [.mark ".", .word "to_string"] :=
  ⟨code_eq ["::"] 20 (by decide +kernel),
    code_eq ["JsonValue", "::", "Bool"] 20 (by decide +kernel),
    code_eq ["JsonValue", "::", "from"] 20 (by decide +kernel),
    code_eq ["JsonValue", "::", "String"] 20 (by decide +kernel),
    code_eq ["true"] 20 (by decide +kernel),
    code_eq ["false"] 20 (by decide +kernel),
    code_eq [".", "to_string"] 20 (by decide +kernel)⟩

/-- **The code for a literal builds its value**, a number in double precision. -/
theorem builds_literalTokens (rt : RuntimePath) {l : Literal}
    (hfinite : ∀ n, l = .number n → n.toBinary64.isFinite = true) :
    Builds rt (literalTokens rt l) l.built := by
  obtain ⟨hmark, hbool, hfrom, hstring, htrue, hfalse, htext⟩ := code_literal
  cases l with
  | bool b =>
    cases b with
    | true =>
      refine ⟨.wrapBool, [.word "true"], ?_, .truth rfl⟩
      simp [literalTokens, inRuntime, jsonCall, JsonFunction.name, round, hmark, hbool, htrue]
    | false =>
      refine ⟨.wrapBool, [.word "false"], ?_, .truth rfl⟩
      simp [literalTokens, inRuntime, jsonCall, JsonFunction.name, round, hmark, hbool, hfalse]
  | integer i =>
    refine ⟨.convertNumber, [.int64 i], ?_, .number (numeralValue_int64 i)⟩
    simp [literalTokens, inRuntime, jsonCall, JsonFunction.name, round, hmark, hfrom]
  | number n =>
    refine ⟨.convertNumber, [.float64 n.toBinary64], ?_,
      .number (numeralValue_float64 (hfinite n rfl))⟩
    simp [literalTokens, inRuntime, jsonCall, JsonFunction.name, round, hmark, hfrom]
  | string s =>
    refine ⟨.wrapString, _, ?_, .string (t := .quoted s) (quotedValue?_quote s)⟩
    simp [literalTokens, inRuntime, jsonCall, JsonFunction.name, round, hmark, hstring, htext]

/-- **The code for a literal builds the literal's own value** unless the literal is a wide
integer. -/
theorem builds_toJson_iff (rt : RuntimePath) {l : Literal}
    (hfinite : ∀ n, l = .number n → n.toBinary64.isFinite = true) :
    Builds rt (literalTokens rt l) l.toJson ↔ ¬l.IsWide := by
  have hbuilt := builds_literalTokens rt hfinite
  rw [← Literal.built_eq_toJson_iff]
  constructor
  · intro h
    exact hbuilt.unique h
  · intro h
    rwa [← h]

end Bindings

end TrackingPlan
