/-!
# Binary64 — double-precision numbers by their bits

A number is its 64 bits: a sign, eleven bits of exponent and 52 bits of fraction.  Arithmetic is
exact on natural numbers and rounds once at the end (`Binary64.ofRatio`): to the nearest number,
and of two equally near ones to the one with an even last bit.

Every finite magnitude is a whole multiple of `2 ^ -1074`, the least one above zero, so a magnitude
is written `significand * 2 ^ scale` in that unit.
-/

namespace TrackingPlan

/-- **A double-precision number**, by its bits. -/
structure Binary64 where
  bits : UInt64
deriving DecidableEq

namespace Binary64

/-- The bits without the sign. -/
def magnitude (x : Binary64) : Nat :=
  x.bits.toNat % Nat.pow 2 63

/-- Whether the sign bit is set; it is for `-0.0` too. -/
def isNegative (x : Binary64) : Bool :=
  Nat.pow 2 63 ≤ x.bits.toNat

/-- Whether the number is one of the two zeros. -/
def isZero (x : Binary64) : Bool :=
  x.magnitude == 0

/-- The magnitude bits of infinity; larger ones are no numbers. -/
def infinityBits : Nat :=
  2047 * Nat.pow 2 52

/-- Whether the number is neither infinite nor a non-number. -/
def isFinite (x : Binary64) : Bool :=
  x.magnitude < infinityBits

/-- The significand: the fraction, with its leading one when the exponent field is not zero. -/
def significand (x : Binary64) : Nat :=
  if x.magnitude / Nat.pow 2 52 = 0 then x.magnitude
  else Nat.pow 2 52 + x.magnitude % Nat.pow 2 52

/-- The power of two that the significand is multiplied by, in units of `2 ^ -1074`. -/
def scale (x : Binary64) : Nat :=
  x.magnitude / Nat.pow 2 52 - 1

/-- The magnitude of a finite number as a multiple of `2 ^ -1074`. -/
def units (x : Binary64) : Nat :=
  x.significand * Nat.pow 2 x.scale

/-- The number with the given sign and magnitude bits. -/
def ofMagnitude (negative : Bool) (magnitude : Nat) : Binary64 :=
  ⟨UInt64.ofNat (magnitude + if negative then Nat.pow 2 63 else 0)⟩

/-- The quotient of two natural numbers, rounded to the nearest one and from the middle to the even
one. -/
def divNearestEven (n d : Nat) : Nat :=
  let q := n / d
  let r := n % d
  if 2 * r < d then q else if d < 2 * r then q + 1 else if q % 2 = 0 then q else q + 1

/-- **The number nearest to a ratio.**  The significand keeps 53 bits of the quotient; adding it to
the scale, shifted past the fraction, gives the bits, a carry into the exponent included. -/
def ofRatio (negative : Bool) (num den : Nat) : Binary64 :=
  let scale := Nat.log2 (num * Nat.pow 2 1074 / den) - 52
  let bits := divNearestEven (num * Nat.pow 2 1074) (den * Nat.pow 2 scale) + scale * Nat.pow 2 52
  ofMagnitude negative (min bits infinityBits)

/-- The number nearest to a natural number. -/
def ofNat (n : Nat) : Binary64 :=
  ofRatio false n 1

/-- The number nearest to an integer. -/
def ofInt (i : Int) : Binary64 :=
  ofRatio (i < 0) i.natAbs 1

/-- The product of two finite numbers, rounded. -/
def mul (x y : Binary64) : Binary64 :=
  ofRatio (x.isNegative != y.isNegative) (x.units * y.units) (Nat.pow 2 1074 * Nat.pow 2 1074)

/-- The quotient of two finite numbers, rounded; the divisor is not zero. -/
def div (x y : Binary64) : Binary64 :=
  ofRatio (x.isNegative != y.isNegative) x.units y.units

/-- The number with the other sign. -/
def neg (x : Binary64) : Binary64 :=
  ofMagnitude (!x.isNegative) x.magnitude

/-- Whether two numbers are equal in value: the two zeros are, and a non-number equals nothing. -/
def equals (x y : Binary64) : Bool :=
  if x.isZero then y.isZero else x == y && x.magnitude ≤ infinityBits

/-- Infinity. -/
def infinity : Binary64 :=
  ofMagnitude false infinityBits

/-- Infinity below all numbers. -/
def negInfinity : Binary64 :=
  ofMagnitude true infinityBits

/-- A value that is no number. -/
def notANumber : Binary64 :=
  ofMagnitude false (infinityBits + Nat.pow 2 51)

end Binary64

end TrackingPlan
