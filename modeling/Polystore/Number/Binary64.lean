/-
**Double-precision numbers as bit patterns, with exact arithmetic on sign, exponent and mantissa.**

* `Binary64.order?` is the numeric order: none beside a not-a-number, and the two zeros are equal;
* `Binary64.ofInt` and `Binary64.ofScientific` round to the nearest number, ties to the even one;
* `Binary64.toNatClamped` cuts off the fraction and stops at a bound.
-/

namespace Polystore

/-- A double-precision number, given by its 64 bits. -/
structure Binary64 where
  bits : UInt64
  deriving DecidableEq, Repr, Inhabited

/-- The quotient of two numbers rounded to the nearest one, a half to the even neighbour. -/
def roundHalfEven (numerator denominator : Nat) : Nat :=
  let quotient := numerator / denominator
  let remainder := numerator % denominator
  if denominator < 2 * remainder ∨ (2 * remainder = denominator ∧ quotient % 2 = 1) then quotient + 1
  else quotient

namespace Binary64

/-- The weight of the exponent's lowest bit; the 52 bits below it are the fraction. -/
def exponentUnit : Nat := 0x10000000000000

/-- The weight of the sign bit. -/
def signUnit : Nat := 0x8000000000000000

/-- The pattern of infinity without its sign. -/
def infinityMagnitude : Nat := 0x7ff * exponentUnit

/-- The bits without the sign. -/
def magnitude (number : Binary64) : Nat := number.bits.toNat % signUnit

/-- Whether the sign bit is set. -/
def isNegative (number : Binary64) : Bool := signUnit ≤ number.bits.toNat

def isNaN (number : Binary64) : Bool := infinityMagnitude < number.magnitude

def isInfinite (number : Binary64) : Bool := number.magnitude == infinityMagnitude

def isZero (number : Binary64) : Bool := number.magnitude == 0

/-- The number with the given sign and magnitude bits. -/
def ofParts (negative : Bool) (magnitude : Nat) : Binary64 :=
  ⟨UInt64.ofNat (if negative then signUnit + magnitude else magnitude)⟩

/-- An integer that orders the patterns of numbers as the numbers themselves. -/
def key (number : Binary64) : Int :=
  if number.isNegative then -(number.magnitude : Int) else number.magnitude

/-- The numeric order of two numbers; a not-a-number stands in no order. -/
def order? (left right : Binary64) : Option Ordering :=
  if left.isNaN || right.isNaN then none else some (compare left.key right.key)

/-- Numeric equality. -/
def equals (left right : Binary64) : Bool := left.order? right == some .eq

/-- Mantissa and binary exponent of a finite number: its absolute value is `m * 2 ^ e`. -/
def mantissaExponent (number : Binary64) : Nat × Int :=
  let field : Nat := number.magnitude / exponentUnit
  let fraction : Nat := number.magnitude % exponentUnit
  if field = 0 then (fraction, -1074) else (exponentUnit + fraction, (field : Int) - 1075)

/-- The magnitude bits of a whole number, rounded to 53 binary digits. -/
def magnitudeOfNat (number : Nat) : Nat :=
  if number = 0 then 0
  else
    let exponent := number.log2
    if exponent ≤ 52 then (exponent + 1022) * exponentUnit + number * Nat.pow 2 (52 - exponent)
    else (exponent + 1022) * exponentUnit + roundHalfEven number (Nat.pow 2 (exponent - 52))

/-- The number nearest to an integer. -/
def ofInt (number : Int) : Binary64 := ofParts (number < 0) (magnitudeOfNat number.natAbs)

/-- The magnitude bits of a positive quotient. The binary exponent is the one that leaves 53 binary
digits before the point, or the least one there is. -/
def magnitudeOfQuotient (numerator denominator : Nat) : Nat :=
  let guess : Int := (numerator.log2 : Int) - denominator.log2 - 52
  let scaled (exponent : Int) : Nat × Nat :=
    (numerator * Nat.pow 2 (-exponent).toNat, denominator * Nat.pow 2 exponent.toNat)
  let exponent :=
    let (above, below) := scaled guess
    max (-1074) (if above / below < exponentUnit then guess - 1 else guess)
  let (above, below) := scaled exponent
  min infinityMagnitude ((exponent + 1074).toNat * exponentUnit + roundHalfEven above below)

/-- The number nearest to `digits * 10 ^ exponent`. -/
def ofScientific (negative : Bool) (digits : Nat) (exponent : Int) : Binary64 :=
  if digits = 0 ∨ (digits.log2 : Int) + 4 * exponent < -5000 then ofParts negative 0
  else if 400 < exponent then ofParts negative infinityMagnitude
  else
    ofParts negative
      (magnitudeOfQuotient (digits * Nat.pow 10 exponent.toNat) (Nat.pow 10 (-exponent).toNat))

/-- The number without its fraction, between zero and `limit`; not-a-number counts as zero. -/
def toNatClamped (number : Binary64) (limit : Nat) : Nat :=
  if number.isNaN || number.isNegative then 0
  else if number.isInfinite then limit
  else
    let (mantissa, exponent) := number.mantissaExponent
    min limit (mantissa * Nat.pow 2 exponent.toNat / Nat.pow 2 (-exponent).toNat)

example : ofInt 9007199254740993 = ⟨0x4340000000000000⟩ := by decide
example : ofScientific false 15 (-1) = ⟨0x3ff8000000000000⟩ := by decide

end Binary64

end Polystore
