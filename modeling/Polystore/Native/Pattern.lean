/-
**Patterns with `%` and `_` as regular expressions.**

`Native.likePattern` keeps every other character as a literal and ties the expression to both ends of
the text.
-/

namespace Polystore.Native

/-- The characters with a meaning of their own in regular expressions. -/
def metaCharacters : List Char :=
  ['\\', '.', '+', '*', '?', '(', ')', '|', '[', ']', '\x7b', '\x7d', '^', '$', '#', '&', '-', '~']

/-- A character as a literal of a regular expression. -/
def escapedCharacter (character : Char) : List Char :=
  if metaCharacters.contains character then ['\\', character] else [character]

/-- The regular expression of one character of a pattern. -/
def patternPiece (character : Char) : List Char :=
  if character = '%' then ['.', '*']
  else if character = '_' then ['.']
  else escapedCharacter character

/-- The regular expression of the texts that a pattern matches. -/
def likePattern (pattern : String) : String :=
  String.ofList ('^' :: pattern.toList.flatMap patternPiece ++ ['$'])

end Polystore.Native
