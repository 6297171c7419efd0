/-
**Decimal numbers of up to 34 digits with an exponent.**

They are kept as they are stored: trailing zeros count, so `1.50` and `1.5` are two numbers.

* `Decimal128.ofText?` reads a number, keeping its digits and bringing the exponent into range;
* `Decimal128.text` writes it, positionally where no zeros have to be added on the right.
-/

namespace Polystore

/-- A stored decimal number. -/
inductive Decimal128 where
  | notANumber (signalling : Bool)
  | infinity (negative : Bool)
  | finite (negative : Bool) (coefficient : Nat) (exponent : Int)
  deriving DecidableEq, Repr

namespace Decimal128

/-- Digits a coefficient may have. -/
def maxDigits : Nat := 34

def minExponent : Int := -6176

def maxExponent : Int := 6111

/-- The number written by decimal digits, at least one of them. -/
def digits? (text : List Char) : Option Nat :=
  if text.isEmpty || !text.all Char.isDigit then none
  else some (text.foldl (fun read digit => 10 * read + (digit.toNat - 48)) 0)

/-- The integer written by decimal digits behind an optional sign. -/
def integer? : List Char → Option Int
  | '-' :: rest => (digits? rest).map fun number => -(number : Int)
  | '+' :: rest => (digits? rest).map fun number => (number : Int)
  | text => (digits? text).map fun number => (number : Int)

/-- Brings an exponent into range by moving zeros between exponent and coefficient. -/
def clamped? (negative : Bool) (coefficient : Nat) (exponent : Int) : Option Decimal128 :=
  if exponent < minExponent then
    let surplus := (minExponent - exponent).toNat
    if coefficient = 0 then some (.finite negative 0 minExponent)
    else if surplus ≤ maxDigits ∧ coefficient % Nat.pow 10 surplus = 0 then
      some (.finite negative (coefficient / Nat.pow 10 surplus) minExponent)
    else none
  else if maxExponent < exponent then
    let surplus := (exponent - maxExponent).toNat
    if coefficient = 0 then some (.finite negative 0 maxExponent)
    else if surplus ≤ maxDigits ∧ coefficient * Nat.pow 10 surplus < Nat.pow 10 maxDigits then
      some (.finite negative (coefficient * Nat.pow 10 surplus) maxExponent)
    else none
  else some (.finite negative coefficient exponent)

/-- Cuts a coefficient with too many digits, which must be zeros on the right. -/
def fitted? (negative : Bool) (coefficient : Nat) (exponent : Int) : Option Decimal128 :=
  let surplus := (toString coefficient).length - maxDigits
  if coefficient % Nat.pow 10 surplus = 0 then
    clamped? negative (coefficient / Nat.pow 10 surplus) (exponent + surplus)
  else none

/-- The number written by lower-case text without a sign. -/
def ofUnsigned? (negative : Bool) (text : List Char) : Option Decimal128 :=
  let named := String.ofList text
  if named = "nan" then some (.notANumber false)
  else if named = "snan" then some (.notANumber true)
  else if named = "infinity" || named = "inf" then some (.infinity negative)
  else
    let number := text.takeWhile (· != 'e')
    let whole := number.takeWhile (· != '.')
    let fraction := (number.dropWhile (· != '.')).drop 1
    do
      let exponent ←
        if number.length = text.length then some 0 else integer? (text.drop (number.length + 1))
      let coefficient ← digits? (whole ++ fraction)
      fitted? negative coefficient (exponent - fraction.length)

/-- The number written by a text, in either case, with an optional sign. -/
def ofText? (text : String) : Option Decimal128 :=
  match text.toList.map Char.toLower with
  | '-' :: rest => ofUnsigned? true rest
  | '+' :: rest => ofUnsigned? false rest
  | rest => ofUnsigned? false rest

/-- The text of a number that is not negative. -/
def unsignedText (coefficient : Nat) (exponent : Int) : String :=
  let digits := (toString coefficient).toList
  let adjusted := exponent + digits.length - 1
  if exponent ≤ 0 ∧ -6 ≤ adjusted then
    let places := (-exponent).toNat
    if places = 0 then String.ofList digits
    else if digits.length ≤ places then
      "0." ++ String.ofList (List.replicate (places - digits.length) '0' ++ digits)
    else
      String.ofList (digits.take (digits.length - places)) ++ "."
        ++ String.ofList (digits.drop (digits.length - places))
  else
    let fraction := if digits.length ≤ 1 then "" else "." ++ String.ofList (digits.drop 1)
    let sign := if 0 < adjusted then "+" else ""
    String.ofList (digits.take 1) ++ fraction ++ "E" ++ sign ++ toString adjusted

/-- The text of a number. -/
def text : Decimal128 → String
  | notANumber signalling => if signalling then "sNaN" else "NaN"
  | infinity negative => if negative then "-Infinity" else "Infinity"
  | finite negative coefficient exponent =>
    (if negative then "-" else "") ++ unsignedText coefficient exponent

end Decimal128

end Polystore
