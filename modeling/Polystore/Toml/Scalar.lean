/-
**Numbers, flags, dates and times of TOML documents.**

`Toml.scalar?` reads a word that is no string. Whole numbers may be written in base ten, sixteen, eight
and two; underscores may stand between digits.
-/

import Polystore.Toml.Basic
import Polystore.Text.Segments
import Polystore.Text.Hex

namespace Polystore.Toml

/-- The digits of a text that may have single underscores between them. -/
def digitsOf? (isDigit : Char → Bool) (text : List Char) : Option (List Char) :=
  let groups := Text.segments '_' text
  if groups.all fun group => !group.isEmpty && group.all isDigit then some groups.flatten else none

/-- Splits a sign off a text: whether it is a minus. -/
def signed : List Char → Bool × List Char
  | '-' :: rest => (true, rest)
  | '+' :: rest => (false, rest)
  | rest => (false, rest)

/-- The number written by digits of a base. -/
def numberOf (base : Nat) (digits : List Char) : Nat :=
  digits.foldl (fun number digit => base * number + (Hex.value? digit).getD 0) 0

/-- Decimal digits without a zero in front of others. -/
def decimalDigits? (text : List Char) : Option (List Char) :=
  (digitsOf? Char.isDigit text).filter fun digits => digits.length == 1 || digits.head? != some '0'

/-- Reads a whole number. -/
def integer? : List Char → Option Int
  | '0' :: 'x' :: rest =>
    (digitsOf? (fun digit => (Hex.value? digit).isSome) rest).map fun digits => numberOf 16 digits
  | '0' :: 'o' :: rest =>
    (digitsOf? (fun digit => '0' ≤ digit && digit ≤ '7') rest).map fun digits => numberOf 8 digits
  | '0' :: 'b' :: rest =>
    (digitsOf? (fun digit => digit == '0' || digit == '1') rest).map fun digits => numberOf 2 digits
  | text =>
    let (negative, digits) := signed text
    (decimalDigits? digits).map fun digits =>
      if negative then -(numberOf 10 digits : Int) else numberOf 10 digits

/-- Whether a text is an exponent behind its letter. -/
def isExponent (text : List Char) : Bool := (digitsOf? Char.isDigit (signed text).2).isSome

/-- Whether a text is a number with a fraction or an exponent, or infinite, or not a number. -/
def isFloat (text : List Char) : Bool :=
  let digits := (signed text).2
  if digits == ['i', 'n', 'f'] || digits == ['n', 'a', 'n'] then true
  else
    let mantissa := digits.takeWhile fun character => character != 'e' && character != 'E'
    let exponent := digits.dropWhile fun character => character != 'e' && character != 'E'
    let exponentIsRight := exponent.isEmpty || isExponent (exponent.drop 1)
    match Text.segments '.' mantissa with
    | [whole] => (decimalDigits? whole).isSome && !exponent.isEmpty && exponentIsRight
    | [whole, fraction] =>
      (decimalDigits? whole).isSome && (digitsOf? Char.isDigit fraction).isSome && exponentIsRight
    | _ => false

/-- The number written by exactly `count` digits. -/
def fixedNumber? (count : Nat) (text : List Char) : Option Nat :=
  if text.length == count && text.all Char.isDigit then some (numberOf 10 text) else none

/-- The last day of a month. -/
def lastDay (year month : Nat) : Nat :=
  if month = 2 then if year % 4 = 0 ∧ (year % 100 ≠ 0 ∨ year % 400 = 0) then 29 else 28
  else if month = 4 ∨ month = 6 ∨ month = 9 ∨ month = 11 then 30
  else 31

/-- Whether a text is a date. -/
def isDate (text : List Char) : Bool :=
  match Text.segments '-' text with
  | [year, month, day] =>
    match fixedNumber? 4 year, fixedNumber? 2 month, fixedNumber? 2 day with
    | some year, some month, some day =>
      1 ≤ month && month ≤ 12 && 1 ≤ day && day ≤ lastDay year month
    | _, _, _ => false
  | _ => false

/-- Whether a text is a number of exactly two digits up to a bound. -/
def isUpTo (bound : Nat) (text : List Char) : Bool := (fixedNumber? 2 text).any (· ≤ bound)

/-- Whether a text is a time of day. -/
def isTime (text : List Char) : Bool :=
  match Text.segments ':' text with
  | [hour, minute, second] =>
    let fractionIsRight :=
      match Text.segments '.' second with
      | [whole] => isUpTo 60 whole
      | [whole, fraction] => isUpTo 60 whole && !fraction.isEmpty && fraction.all Char.isDigit
      | _ => false
    isUpTo 23 hour && isUpTo 59 minute && fractionIsRight
  | _ => false

/-- Whether a text is the distance from universal time. -/
def isOffset : List Char → Bool
  | [] | ['Z'] | ['z'] => true
  | sign :: rest =>
    (sign == '+' || sign == '-')
      && match Text.segments ':' rest with
        | [hour, minute] => isUpTo 23 hour && isUpTo 59 minute
        | _ => false

/-- Whether a text is a time of day with or without an offset. -/
def isOffsetTime (text : List Char) : Bool :=
  let isTimePart (character : Char) : Bool := character.isDigit || character == ':' || character == '.'
  isTime (text.takeWhile isTimePart) && isOffset (text.dropWhile isTimePart)

/-- Whether a text is a date, a time or both. -/
def isDateTime (text : List Char) : Bool :=
  isDate text || isTime text
    || (isDate (text.take 10)
      && match text.drop 10 with
        | separator :: time =>
          (separator == 'T' || separator == 't' || separator == ' ') && isOffsetTime time
        | [] => false)

/-- Reads a word that is no string. -/
def scalar? (word : List Char) : Option Toml :=
  if word == ['t', 'r', 'u', 'e'] then some (boolean true)
  else if word == ['f', 'a', 'l', 's', 'e'] then some (boolean false)
  else
    match integer? word with
    | some number => some (integer number)
    | none =>
      if isFloat word then some (float (String.ofList word))
      else if isDateTime word then some (dateTime (String.ofList word))
      else none

end Polystore.Toml
