import TrackingPlan.Binary64.Basic

/-!
# The decimal text of a number — fewest digits that read back

`Binary64.shortest` gives the decimal with the fewest digits among those that round to the number,
and of these the nearest one.  The decimals that round to it form an interval around it; grids of
powers of ten are tried from coarse to fine, and on each only the two points next to the number
can lie nearest, so the first grid with a point in the interval answers.

How the digits are laid out (where positional writing ends, whether a whole number keeps a point)
is a `DecimalStyle`: the two styles of this library are `DecimalStyle.json` and
`DecimalStyle.plain`.
-/

namespace TrackingPlan

/-- **A decimal**: `digits * 10 ^ exponent`. -/
structure Decimal where
  digits : Nat
  exponent : Int
deriving DecidableEq

namespace Binary64

/-- The ends of the interval of reals that round to a magnitude, and the magnitude between them, in
units of `2 ^ -1076`.  Below a power of two numbers lie twice as dense, so there the lower end is
nearer. -/
def roundingInterval (x : Binary64) : Nat × Nat × Nat :=
  let below := if x.significand = Nat.pow 2 52 ∧ 0 < x.scale then 1 else 2
  let unit := Nat.pow 2 x.scale
  ((4 * x.significand - below) * unit, 4 * x.units, (4 * x.significand + 2) * unit)

/-- The multiple of `10 ^ p` that stands for the magnitude on that grid: of the two next to it the
one within the rounding interval, and if both are the nearer one, from the middle the even one.
The ends of the interval belong to it when the significand is even. -/
def gridPoint? (x : Binary64) (p : Int) : Option Decimal :=
  let (low, mid, high) := x.roundingInterval
  let stretch := Nat.pow 10 (-p).toNat
  let unit := Nat.pow 2 1076 * Nat.pow 10 p.toNat
  let within (c : Nat) : Bool :=
    if x.significand % 2 = 0 then
      low * stretch ≤ c * unit ∧ c * unit ≤ high * stretch
    else
      low * stretch < c * unit ∧ c * unit < high * stretch
  let d := mid * stretch / unit
  if within d && within (d + 1) then
    some ⟨divNearestEven (mid * stretch) unit, p⟩
  else if within d then
    some ⟨d, p⟩
  else if within (d + 1) then
    some ⟨d + 1, p⟩
  else
    none

/-- An exponent whose power of ten is above the magnitude: `log10 2` is just below
`30103 / 100000`. -/
def decimalTop (x : Binary64) : Int :=
  ((Nat.log2 x.units : Int) - 1073) * 30103 / 100000 + 1

/-- **The shortest decimal** that rounds to the magnitude of a finite number.  Seventeen digits
always suffice, and the first grids may lie above the number. -/
def shortest (x : Binary64) : Decimal :=
  if x.isZero then
    ⟨0, 0⟩
  else
    ((List.range 21).findSome? fun (k : Nat) => x.gridPoint? (x.decimalTop - k)).getD ⟨0, 0⟩

end Binary64

/-- **How digits are laid out.**  The point stands `place` digits after the first one; within the
bounds it is written in place, outside them the number takes an exponent. -/
structure DecimalStyle where
  /-- The least place of the point for positional writing. -/
  leastPlace : Option Int
  /-- The greatest place of the point for positional writing. -/
  greatestPlace : Option Int
  /-- Whether a whole number in positional writing ends in `.0`. -/
  keepsPoint : Bool

namespace DecimalStyle

/-- JSON text: positional from `0.00001` to below `10 ^ 16`, and a whole number ends in `.0`. -/
def json : DecimalStyle :=
  ⟨some (-4), some 16, true⟩

/-- All digits in place and no point after a whole number. -/
def plain : DecimalStyle :=
  ⟨none, none, false⟩

/-- Whether the point may be written in place there. -/
def isPositional (style : DecimalStyle) (place : Int) : Bool :=
  style.leastPlace.all (· ≤ place) && style.greatestPlace.all (place ≤ ·)

/-- The text of a decimal. -/
def format (style : DecimalStyle) (d : Decimal) : String :=
  let digits := toString d.digits
  let place : Int := digits.length + d.exponent
  if style.isPositional place then
    if 0 ≤ d.exponent then
      digits ++ "".pushn '0' d.exponent.toNat ++ (if style.keepsPoint then ".0" else "")
    else if 0 < place then
      String.ofList (digits.toList.take place.toNat) ++ "." ++
        String.ofList (digits.toList.drop place.toNat)
    else
      "0." ++ "".pushn '0' (-place).toNat ++ digits
  else
    let mantissa :=
      if digits.length = 1 then digits
      else String.ofList (digits.toList.take 1) ++ "." ++ String.ofList (digits.toList.drop 1)
    let power := place - 1
    mantissa ++ "e" ++ (if power < 0 then "-" else "+") ++ toString power.natAbs

end DecimalStyle

/-- The text of a finite number in a style, with the sign of the zeros kept. -/
def Binary64.toText (style : DecimalStyle) (x : Binary64) : String :=
  (if x.isNegative then "-" else "") ++ style.format x.shortest

end TrackingPlan
