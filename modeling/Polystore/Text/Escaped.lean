/-
**Texts in quotes for descriptions.**

A quote and a backslash get a backslash, tab, line feed, carriage return and the null character their
short escapes, and characters that would not show by themselves their code point in braces.
-/

import Polystore.Text.Classes
import Polystore.Text.Hex
import Polystore.Text.Segments

namespace Polystore.Text

/-- A character by its code point. -/
def codeEscape (character : Char) : List Char :=
  '\\' :: 'u' :: '\x7b' :: Nat.toDigits 16 character.toNat ++ ['\x7d']

/-- A character as it stands inside a quoted text. -/
def escapedCharacter (character : Char) : List Char :=
  match character with
  | '\x00' => ['\\', '0']
  | '\t' => ['\\', 't']
  | '\n' => ['\\', 'n']
  | '\r' => ['\\', 'r']
  | '"' => ['\\', '"']
  | '\\' => ['\\', '\\']
  | other => if isPrintable other && !isExtender other then [other] else codeEscape other

/-- A text in quotes. -/
def quoted (text : String) : String :=
  "\"" ++ String.ofList (text.toList.flatMap escapedCharacter) ++ "\""

/-- A list of texts in quotes, in brackets. -/
def quotedList (texts : List String) : String := "[" ++ joined ", " (texts.map quoted) ++ "]"

end Polystore.Text
