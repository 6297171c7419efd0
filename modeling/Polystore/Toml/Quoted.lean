/-
**Strings of TOML documents.**

There are four forms: basic strings with escapes and literal ones without, each on one line or on many.
Readers take the text behind the opening quotes, and give what it stands for with the rest of the text.
-/

import Polystore.Text.Hex

namespace Polystore.Toml

/-- Control characters that may stand in no string: all but the tab. -/
def isControl (character : Char) : Bool :=
  character != '\t' && (character.toNat < 32 || character.toNat == 127)

/-- Puts a character before what was read. -/
def prepend (character : Char) (read : Option (List Char × List Char)) :
    Option (List Char × List Char) :=
  read.map fun (text, rest) => (character :: text, rest)

/-- The character that a letter behind a backslash stands for. -/
def shortEscape? : Char → Option Char
  | 'b' => some '\x08'
  | 't' => some '\t'
  | 'n' => some '\n'
  | 'f' => some '\x0c'
  | 'r' => some '\r'
  | '"' => some '"'
  | '\\' => some '\\'
  | _ => none

/-- The character whose code is written by digits. -/
def coded? (digits : List Char) : Option Char :=
  match Hex.number? digits with
  | some code => if code.isValidChar then some (Char.ofNat code) else none
  | none => none

/-- Reads a basic string on one line. -/
def basic? : List Char → Option (List Char × List Char)
  | [] => none
  | '"' :: rest => some ([], rest)
  | '\\' :: 'u' :: a :: b :: c :: d :: rest =>
    match coded? [a, b, c, d] with
    | some character => prepend character (basic? rest)
    | none => none
  | '\\' :: 'U' :: a :: b :: c :: d :: e :: f :: g :: h :: rest =>
    match coded? [a, b, c, d, e, f, g, h] with
    | some character => prepend character (basic? rest)
    | none => none
  | '\\' :: letter :: rest =>
    match shortEscape? letter with
    | some character => prepend character (basic? rest)
    | none => none
  | head :: rest => if isControl head || head == '\\' then none else prepend head (basic? rest)

/-- Reads a literal string on one line. -/
def literal? : List Char → Option (List Char × List Char)
  | [] => none
  | '\'' :: rest => some ([], rest)
  | head :: rest => if isControl head then none else prepend head (literal? rest)

/-- Whether nothing but blanks stands before the end of the line. -/
def endsLine (text : List Char) : Bool :=
  match text.dropWhile fun character => character == ' ' || character == '\t' with
  | '\n' :: _ | '\r' :: '\n' :: _ => true
  | _ => false

/-- Whether a character is a blank or ends a line. -/
def isGap (character : Char) : Bool :=
  character == ' ' || character == '\t' || character == '\n' || character == '\r'

/-- Reads a basic string on many lines. After a backslash at the end of a line the gap before the next
character is left out; this is the case while `inGap` holds. -/
def basicLines? (inGap : Bool) : List Char → Option (List Char × List Char)
  | [] => none
  | '"' :: '"' :: '"' :: '"' :: '"' :: rest => some (['"', '"'], rest)
  | '"' :: '"' :: '"' :: '"' :: rest => some (['"'], rest)
  | '"' :: '"' :: '"' :: rest => some ([], rest)
  | '\\' :: 'u' :: a :: b :: c :: d :: rest =>
    match coded? [a, b, c, d] with
    | some character => prepend character (basicLines? false rest)
    | none => none
  | '\\' :: 'U' :: a :: b :: c :: d :: e :: f :: g :: h :: rest =>
    match coded? [a, b, c, d, e, f, g, h] with
    | some character => prepend character (basicLines? false rest)
    | none => none
  | '\\' :: letter :: rest =>
    match shortEscape? letter with
    | some character => prepend character (basicLines? false rest)
    | none => if endsLine (letter :: rest) then basicLines? true rest else none
  | '\r' :: '\n' :: rest =>
    if inGap then basicLines? true rest else prepend '\n' (basicLines? false rest)
  | head :: rest =>
    if inGap && isGap head then basicLines? true rest
    else if head == '\n' then prepend head (basicLines? false rest)
    else if isControl head || head == '\\' then none
    else prepend head (basicLines? false rest)

/-- Reads a literal string on many lines. -/
def literalLines? : List Char → Option (List Char × List Char)
  | [] => none
  | '\'' :: '\'' :: '\'' :: '\'' :: '\'' :: rest => some (['\'', '\''], rest)
  | '\'' :: '\'' :: '\'' :: '\'' :: rest => some (['\''], rest)
  | '\'' :: '\'' :: '\'' :: rest => some ([], rest)
  | '\r' :: '\n' :: rest => prepend '\n' (literalLines? rest)
  | head :: rest =>
    if isControl head && head != '\n' then none else prepend head (literalLines? rest)

/-- The text without the line end that may follow the opening quotes of a string on many lines. -/
def dropFirstLineEnd : List Char → List Char
  | '\n' :: rest => rest
  | '\r' :: '\n' :: rest => rest
  | rest => rest

/-- Reads a string in any form. -/
def string? : List Char → Option (List Char × List Char)
  | '"' :: '"' :: '"' :: rest => basicLines? false (dropFirstLineEnd rest)
  | '\'' :: '\'' :: '\'' :: rest => literalLines? (dropFirstLineEnd rest)
  | '"' :: rest => basic? rest
  | '\'' :: rest => literal? rest
  | _ => none

/-- What decides about the form in which a string is written. -/
structure StringShape where
  /-- Whether there are control characters other than tabs and line feeds. -/
  hasControl : Bool
  hasBackslash : Bool
  hasLineFeed : Bool
  /-- The most double quotes in a row. -/
  doubleQuotes : Nat
  /-- The most single quotes in a row. -/
  singleQuotes : Nat

/-- The greatest number of neighbouring occurrences of a character, `run` of which stand before. -/
def longestRun (mark : Char) (run : Nat) : List Char → Nat
  | [] => run
  | head :: rest =>
    if head = mark then longestRun mark (run + 1) rest else max run (longestRun mark 0 rest)

def StringShape.of (text : List Char) : StringShape where
  hasControl := text.any fun character => isControl character && character != '\n'
  hasBackslash := text.contains '\\'
  hasLineFeed := text.contains '\n'
  doubleQuotes := longestRun '"' 0 text
  singleQuotes := longestRun '\'' 0 text

/-- A character in a basic string on one line or, where `lines` holds, on many. -/
def escaped (lines : Bool) (character : Char) : List Char :=
  match character with
  | '\x08' => ['\\', 'b']
  | '\t' => ['\\', 't']
  | '\n' => if lines then ['\n'] else ['\\', 'n']
  | '\x0c' => ['\\', 'f']
  | '\r' => ['\\', 'r']
  | '\\' => ['\\', '\\']
  | other =>
    if isControl other then
      '\\' :: 'u' :: (Hex.digits 4 other.toNat).map Char.toUpper
    else [other]

/-- The inside of a basic string. A double quote is escaped when more than `allowed` of them would
stand in a row; `run` of them stand before. -/
def escapedText (lines : Bool) (allowed run : Nat) : List Char → List Char
  | [] => []
  | head :: rest =>
    if head = '"' then
      if run < allowed then '"' :: escapedText lines allowed (run + 1) rest
      else '\\' :: '"' :: escapedText lines allowed 0 rest
    else escaped lines head ++ escapedText lines allowed 0 rest

/-- A basic string on one line. -/
def writtenBasic (text : List Char) : List Char := '"' :: escapedText false 0 0 text ++ ['"']

/-- A literal string on one line. -/
def writtenLiteral (text : List Char) : List Char := '\'' :: text ++ ['\'']

/-- A string on many lines between quotes; a line feed goes in front if there is one inside. -/
def writtenLines (quote : Char) (hasLineFeed : Bool) (inside : List Char) : List Char :=
  [quote, quote, quote] ++ (if hasLineFeed then ['\n'] else []) ++ inside ++ [quote, quote, quote]

/-- A string in the plainest form that can hold it: without escapes if possible, on one line if
possible. -/
def writtenString (text : List Char) : List Char :=
  let shape := StringShape.of text
  let clean := !shape.hasControl
  if clean && !shape.hasBackslash && shape.doubleQuotes == 0 && !shape.hasLineFeed then
    writtenBasic text
  else if clean && shape.singleQuotes == 0 && !shape.hasLineFeed then writtenLiteral text
  else if clean && !shape.hasBackslash && shape.doubleQuotes ≤ 2 then
    writtenLines '"' shape.hasLineFeed (escapedText true 2 0 text)
  else if clean && shape.singleQuotes ≤ 2 then writtenLines '\'' shape.hasLineFeed text
  else if shape.hasLineFeed then writtenLines '"' true (escapedText true 2 0 text)
  else writtenBasic text

/-- Whether a character may stand in a key without quotes. -/
def isBareKey (character : Char) : Bool :=
  character.isAlphanum || character == '_' || character == '-'

/-- A key, in quotes where it needs them. -/
def writtenKey (text : List Char) : List Char :=
  let shape := StringShape.of text
  if !text.isEmpty && text.all isBareKey then text
  else if shape.hasControl || shape.hasLineFeed then writtenBasic text
  else if !shape.hasBackslash && shape.doubleQuotes == 0 then writtenBasic text
  else if shape.singleQuotes == 0 then writtenLiteral text
  else writtenBasic text

end Polystore.Toml
