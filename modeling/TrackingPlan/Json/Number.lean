import TrackingPlan.Json.Basic

/-!
# Reading the number of a numeral

A whole number without fraction or exponent that fits 64 bits, signed or unsigned, is an integer;
`-0` is not, because its sign would be lost.  Any other numeral is a number in double precision:
its leading digits are gathered into a significand of 64 bits, digits that no longer fit only move
the point, and the significand is then multiplied or divided by a power of ten.  Both steps round,
so the result can lie next to the nearest number.  A numeral beyond the largest number is refused.
-/

namespace TrackingPlan.Json

/-- **A numeral**, by its parts: the sign, the digits before and after the point, and the exponent
with its sign.  `fraction` and `exponent` are `none` when the part is not written. -/
structure Numeral where
  negative : Bool
  whole : List Nat
  fraction : Option (List Nat)
  exponent : Option (Bool × List Nat)

namespace Numeral

/-- The largest significand. -/
def significandMax : Nat :=
  Nat.pow 2 64 - 1

/-- The largest exponent that is read; a longer one counts as infinite. -/
def exponentMax : Nat :=
  Nat.pow 2 31 - 1

/-- The largest power of ten that is a number. -/
def powerMax : Nat :=
  308

/-- Gathers the digits before the point: the significand, and how many digits no longer fit. -/
def gatherWhole : List Nat → Nat → Nat × Nat
  | [], sig => (sig, 0)
  | d :: rest, sig =>
    if sig * 10 + d ≤ significandMax then gatherWhole rest (sig * 10 + d)
    else (sig, rest.length + 1)

/-- Gathers digits after the point, as long as they fit: the significand, and how many were
taken. -/
def gatherFraction : List Nat → Nat → Nat × Nat
  | [], sig => (sig, 0)
  | d :: rest, sig =>
    if sig * 10 + d ≤ significandMax then
      let (sig', taken) := gatherFraction rest (sig * 10 + d)
      (sig', taken + 1)
    else
      (sig, 0)

/-- The power of ten, rounded to double precision. -/
def power (k : Nat) : Binary64 :=
  Binary64.ofNat (Nat.pow 10 k)

/-- Multiplies by a power of ten; a result that is no finite number is refused.  A power below
`10 ^ -308` is divided out in steps, and three of them bring any significand to zero. -/
def scaleBy : Nat → Binary64 → Int → Option Binary64
  | 0, x, _ => some x
  | steps + 1, x, e =>
    if e.natAbs ≤ powerMax then
      if 0 ≤ e then
        let y := x.mul (power e.natAbs)
        if y.isFinite then some y else none
      else
        some (x.div (power e.natAbs))
    else if x.isZero then
      some x
    else if 0 ≤ e then
      none
    else
      scaleBy steps (x.div (power powerMax)) (e + powerMax)

/-- The number of a significand and a power of ten, with the sign put on at the end. -/
def float? (negative : Bool) (sig : Nat) (e : Int) : Option Number := do
  let x ← scaleBy 4 (Binary64.ofNat sig) e
  return .float (if negative then x.neg else x)

/-- **The number of a numeral**, unless it is too large. -/
def number? (n : Numeral) : Option Number :=
  let (sig, dropped) := gatherWhole n.whole 0
  let (sig, shift) : Nat × Int :=
    match n.fraction with
    | none => (sig, dropped)
    | some ds =>
      let (sig, taken) := gatherFraction ds sig
      (sig, dropped - taken)
  match n.fraction, n.exponent with
  | none, none =>
    if 0 < dropped then float? n.negative sig shift
    else if !n.negative then some (.integer sig)
    else if sig = 0 ∨ Nat.pow 2 63 < sig then some (.float (Binary64.ofNat sig).neg)
    else some (.integer (-sig))
  | _, none => float? n.negative sig shift
  | _, some (below, ds) =>
    let e := ds.foldl (fun e d => e * 10 + d) 0
    if exponentMax < e then
      if sig = 0 ∨ below then float? n.negative 0 0 else none
    else
      float? n.negative sig (if below then shift - e else shift + e)

end Numeral

end TrackingPlan.Json
