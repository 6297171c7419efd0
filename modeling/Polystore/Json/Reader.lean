/-
**Reading JSON texts.**

A number without fraction and exponent is a whole number if 64 bits can hold it; every other one is the
nearest double. `Json.ofText?` reads one value and gives none for a text that does not begin with one.
-/

import Polystore.Json

namespace Polystore.Json

def isBlank (character : Char) : Bool :=
  character == ' ' || character == '\t' || character == '\n' || character == '\r'

def skipBlanks (text : List Char) : List Char := text.dropWhile isBlank

/-- The code written by four digits. -/
def codeUnit? (text : List Char) : Option (Nat × List Char) :=
  if text.length < 4 then none
  else (Hex.number? (text.take 4)).map fun code => (code, text.drop 4)

/-- The character that a letter behind a backslash stands for. -/
def shortEscape : Char → Char
  | 'n' => '\n'
  | 't' => '\t'
  | 'r' => '\r'
  | 'b' => '\x08'
  | 'f' => '\x0c'
  | other => other

/-- Reads a character by its code; a code of the upper half of a pair needs the lower one behind it. -/
def codedCharacter? (text : List Char) : Option (Char × List Char) := do
  let (high, rest) ← codeUnit? text
  if 0xd800 ≤ high && high < 0xdc00 then
    match rest with
    | '\\' :: 'u' :: more =>
      let (low, more) ← codeUnit? more
      some (Char.ofNat (0x10000 + (high - 0xd800) * 0x400 + (low - 0xdc00)), more)
    | _ => none
  else some (Char.ofNat high, rest)

/-- Reads a string of at most `fuel` characters behind its opening quote. -/
def stringFrom? : Nat → List Char → Option (List Char × List Char)
  | 0, _ => none
  | _ + 1, [] => none
  | _ + 1, '"' :: rest => some ([], rest)
  | fuel + 1, '\\' :: 'u' :: rest => do
    let (character, rest) ← codedCharacter? rest
    let (others, rest) ← stringFrom? fuel rest
    some (character :: others, rest)
  | fuel + 1, '\\' :: letter :: rest => do
    let (others, rest) ← stringFrom? fuel rest
    some (shortEscape letter :: others, rest)
  | fuel + 1, head :: rest => do
    let (others, rest) ← stringFrom? fuel rest
    some (head :: others, rest)

/-- Reads a string behind its opening quote. -/
def string? (text : List Char) : Option (String × List Char) :=
  (stringFrom? (text.length + 1) text).map fun (content, rest) => (String.ofList content, rest)

/-- The number written by decimal digits. -/
def decimal (digits : List Char) : Nat :=
  digits.foldl (fun number digit => 10 * number + (digit.toNat - 48)) 0

/-- The number written by decimal digits behind a sign. -/
def signedDecimal : List Char → Int
  | '-' :: rest => -(decimal rest : Int)
  | '+' :: rest => decimal rest
  | rest => decimal rest

def isExponentMark (character : Char) : Bool := character == 'e' || character == 'E'

/-- The number that a word stands for. -/
def number (word : List Char) : Json :=
  let negative := word.head? == some '-'
  let digits := if negative then word.drop 1 else word
  let mantissa := digits.takeWhile (!isExponentMark ·)
  let exponent := signedDecimal ((digits.dropWhile (!isExponentMark ·)).drop 1)
  let whole := mantissa.takeWhile (· != '.')
  let fraction := (mantissa.dropWhile (· != '.')).drop 1
  let number : Int := if negative then -(decimal whole : Int) else decimal whole
  let isNegativeZero := negative && number == 0
  let fits := -0x8000000000000000 ≤ number && number < 0x10000000000000000
  if whole == digits && fits && !isNegativeZero then .integer number
  else .double (.ofScientific negative (decimal (whole ++ fraction)) (exponent - fraction.length))

def isNumberPart (character : Char) : Bool :=
  character.isDigit || character == '-' || character == '+' || character == '.'
    || isExponentMark character

/-- Reads a value that is no string, array or object. -/
def word? (text : List Char) : Option (Json × List Char) :=
  match text with
  | 'n' :: 'u' :: 'l' :: 'l' :: rest => some (.null, rest)
  | 't' :: 'r' :: 'u' :: 'e' :: rest => some (.boolean true, rest)
  | 'f' :: 'a' :: 'l' :: 's' :: 'e' :: rest => some (.boolean false, rest)
  | _ =>
    let word := text.takeWhile isNumberPart
    if word.isEmpty then none else some (number word, text.dropWhile isNumberPart)

mutual

/-- Reads a value. -/
def value? : Nat → List Char → Option (Json × List Char)
  | 0, _ => none
  | fuel + 1, text =>
    match skipBlanks text with
    | '"' :: rest => (string? rest).map fun (content, rest) => (.string content, rest)
    | '[' :: rest =>
      match skipBlanks rest with
      | ']' :: rest => some (.array [], rest)
      | rest => (items? fuel rest).map fun (items, rest) => (.array items, rest)
    | '\x7b' :: rest =>
      match skipBlanks rest with
      | '\x7d' :: rest => some (.object [], rest)
      | rest => (members? fuel rest).map fun (members, rest) => (.object members, rest)
    | rest => word? rest

/-- Reads the items of an array up to its closing bracket. -/
def items? : Nat → List Char → Option (List Json × List Char)
  | 0, _ => none
  | fuel + 1, text => do
    let (item, rest) ← value? fuel text
    match skipBlanks rest with
    | ']' :: rest => some ([item], rest)
    | ',' :: rest =>
      let (others, rest) ← items? fuel rest
      some (item :: others, rest)
    | _ => none

/-- Reads the members of an object up to its closing brace. -/
def members? : Nat → List Char → Option (List (String × Json) × List Char)
  | 0, _ => none
  | fuel + 1, text =>
    match skipBlanks text with
    | '"' :: rest => do
      let (key, rest) ← string? rest
      match skipBlanks rest with
      | ':' :: rest =>
        let (value, rest) ← value? fuel rest
        match skipBlanks rest with
        | '\x7d' :: rest => some ([(key, value)], rest)
        | ',' :: rest =>
          let (others, rest) ← members? fuel rest
          some ((key, value) :: others, rest)
        | _ => none
      | _ => none
    | _ => none

end

/-- The value at the beginning of a text. -/
def ofText? (text : String) : Option Json :=
  (value? (2 * text.length + 2) text.toList).map Prod.fst

end Polystore.Json
