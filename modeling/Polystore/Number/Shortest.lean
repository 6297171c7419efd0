/-
**The fewest decimal digits that read back to the same double.**

A finite number is the centre of an interval of reals that round to it. `Shortest.decimal` looks at
the grids of multiples of `10 ^ t`, the coarsest first: the first grid with a point in the interval
gives the digits, and of two such points the one nearer to the number.
-/

import Polystore.Number.Binary64

namespace Polystore.Shortest

/-- A decimal number `digits * 10 ^ exponent`. -/
structure Decimal where
  digits : Nat
  exponent : Int
  deriving DecidableEq, Repr

/-- Which neighbour is taken when both are equally near. -/
inductive Tie where
  | toEven
  | up
  deriving DecidableEq, Repr

/-- A positive number with its rounding interval, all in units of `2 ^ exponent`. The ends belong to
the interval when `closed`. -/
structure Interval where
  low : Nat
  centre : Nat
  high : Nat
  exponent : Int
  closed : Bool
  deriving Repr

/-- The reals that round to the absolute value of a finite number that is not zero. Below a power of
two the neighbours stand half as far away. -/
def Interval.of (number : Binary64) : Interval :=
  let (mantissa, exponent) := number.mantissaExponent
  let atPower :=
    number.magnitude % Binary64.exponentUnit == 0 && Binary64.exponentUnit < number.magnitude
  { low := if atPower then 4 * mantissa - 1 else 4 * mantissa - 2
    centre := 4 * mantissa
    high := 4 * mantissa + 2
    exponent := exponent - 2
    closed := mantissa % 2 == 0 }

/-- Numerator of a number of interval units measured in steps of `10 ^ place`. -/
def Interval.numerator (interval : Interval) (place : Int) (units : Nat) : Nat :=
  units * Nat.pow 2 interval.exponent.toNat * Nat.pow 10 (-place).toNat

/-- Denominator of a number of interval units measured in steps of `10 ^ place`. -/
def Interval.denominator (interval : Interval) (place : Int) : Nat :=
  Nat.pow 2 (-interval.exponent).toNat * Nat.pow 10 place.toNat

/-- Whether `steps * 10 ^ place` lies in the interval. -/
def Interval.holds (interval : Interval) (place : Int) (steps : Nat) : Bool :=
  let scaled := steps * interval.denominator place
  let low := interval.numerator place interval.low
  let high := interval.numerator place interval.high
  if interval.closed then low ≤ scaled && scaled ≤ high else low < scaled && scaled < high

/-- The point of the grid of `10 ^ place` that lies in the interval, the nearer one of two. -/
def Interval.onGrid? (interval : Interval) (tie : Tie) (place : Int) : Option Nat :=
  let numerator := interval.numerator place interval.centre
  let denominator := interval.denominator place
  let below := numerator / denominator
  let twiceRest := 2 * (numerator % denominator)
  let aboveIsNearer :=
    denominator < twiceRest
      || (twiceRest == denominator && (match tie with | .up => true | .toEven => below % 2 == 1))
  match interval.holds place below, interval.holds place (below + 1) with
  | true, true => some (if aboveIsNearer then below + 1 else below)
  | true, false => some below
  | false, true => some (below + 1)
  | false, false => none

/-- The first point met on ever finer grids, at most `fuel` of them. -/
def Interval.search (interval : Interval) (tie : Tie) : Nat → Int → Decimal
  | 0, place => ⟨interval.numerator place interval.centre / interval.denominator place, place⟩
  | fuel + 1, place =>
    match interval.onGrid? tie place with
    | some steps => ⟨steps, place⟩
    | none => interval.search tie fuel (place - 1)

/-- The place of a power of ten above the number, at most two places too high. -/
def Interval.topPlace (interval : Interval) : Int :=
  ((interval.high.log2 : Int) + interval.exponent + 1) * 30103 / 100000 + 1

/-- The fewest digits that read back to the absolute value of a finite number that is not zero. Twenty
grids are enough: seventeen digits always tell two doubles apart. -/
def decimal (tie : Tie) (number : Binary64) : Decimal :=
  let interval := Interval.of number
  interval.search tie 20 interval.topPlace

example : decimal .toEven ⟨0x3fb999999999999a⟩ = ⟨1, -1⟩ := by decide
example : decimal .toEven ⟨0x0000000000000001⟩ = ⟨5, -324⟩ := by decide +kernel
example : decimal .up ⟨0x4310000000000001⟩ = ⟨11258999068426243, -1⟩ := by decide

end Polystore.Shortest
