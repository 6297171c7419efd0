/-
**How the digits of a double are laid out as text.**

A `Layout` says which decimal exponents are written in positional form, whether a whole number keeps
a `.0`, and how the exponent and the values that are no numbers are written. `Layout.text` follows
it.
-/

import Polystore.Number.Shortest

namespace Polystore

/-- The choices of one printed form of doubles. -/
structure Layout where
  /-- The way to go when two shortest forms are equally near. -/
  tie : Shortest.Tie
  /-- Whether a number with the decimal point after this many digits is written positionally. -/
  positional : Int → Bool
  /-- Written after a whole number. -/
  wholeEnding : String
  /-- Written before an exponent that is not negative. -/
  exponentSign : String
  notANumber : String
  infinity : String

namespace Layout

/-- A run of zeros. -/
def zeros (count : Nat) : String := String.ofList (List.replicate count '0')

/-- Digits with the decimal point after the first `point` of them, filled up with zeros. -/
def placed (wholeEnding : String) (digits : List Char) (point : Int) : String :=
  if point ≤ 0 then "0." ++ zeros (-point).toNat ++ String.ofList digits
  else
    let whole := point.toNat
    if digits.length ≤ whole then String.ofList digits ++ zeros (whole - digits.length) ++ wholeEnding
    else String.ofList (digits.take whole) ++ "." ++ String.ofList (digits.drop whole)

/-- Digits with the point after the first one, and the exponent that puts it back. -/
def scientific (exponentSign : String) (digits : List Char) (point : Int) : String :=
  let fraction := if digits.length ≤ 1 then "" else "." ++ String.ofList (digits.drop 1)
  let exponent := point - 1
  let sign := if exponent < 0 then "-" else exponentSign
  String.ofList (digits.take 1) ++ fraction ++ "e" ++ sign ++ toString exponent.natAbs

/-- The text of a finite number that is not negative. -/
def absolute (layout : Layout) (number : Binary64) : String :=
  if number.isZero then "0" ++ layout.wholeEnding
  else
    let decimal := Shortest.decimal layout.tie number
    let digits := (toString decimal.digits).toList
    let point := digits.length + decimal.exponent
    if layout.positional point then placed layout.wholeEnding digits point
    else scientific layout.exponentSign digits point

/-- The text of any number. -/
def text (layout : Layout) (number : Binary64) : String :=
  if number.isNaN then layout.notANumber
  else
    let sign := if number.isNegative then "-" else ""
    sign ++ if number.isInfinite then layout.infinity else layout.absolute number

/-- Numbers for reading: the shortest digits, never an exponent. -/
def plain : Layout where
  tie := .up
  positional := fun _ => true
  wholeEnding := ""
  exponentSign := ""
  notANumber := "NaN"
  infinity := "inf"

/-- Numbers in JSON: positional from 0.00001 up to sixteen whole digits, and always with a point or an
exponent. -/
def json : Layout where
  tie := .toEven
  positional := fun point => -5 < point && point ≤ 16
  wholeEnding := ".0"
  exponentSign := "+"
  notANumber := "null"
  infinity := "null"

/-- Numbers in descriptions: positional from 0.0001 up to sixteen whole digits, and always with a point or
an exponent. -/
def debug : Layout where
  tie := .up
  positional := fun point => -4 < point && point ≤ 16
  wholeEnding := ".0"
  exponentSign := ""
  notANumber := "NaN"
  infinity := "inf"

end Layout

end Polystore
