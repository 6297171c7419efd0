/-
**JSON values and their compact text.**

`Json.render` writes the members of an object in the order of their keys, strings with the short
escapes, and doubles by `Layout.json`.
-/

import Polystore.Number.Layout
import Polystore.Text.Hex
import Polystore.Text.Segments

namespace Polystore

/-- A JSON value; whole numbers and doubles are two kinds. -/
inductive Json where
  | null
  | boolean (flag : Bool)
  | integer (number : Int)
  | double (number : Binary64)
  | string (text : String)
  | array (items : List Json)
  | object (members : List (String × Json))
  deriving Repr, Inhabited

namespace Json

/-- A character as it stands inside a string. -/
def escaped (character : Char) : List Char :=
  match character with
  | '"' => ['\\', '"']
  | '\\' => ['\\', '\\']
  | '\x08' => ['\\', 'b']
  | '\x0c' => ['\\', 'f']
  | '\n' => ['\\', 'n']
  | '\r' => ['\\', 'r']
  | '\t' => ['\\', 't']
  | other => if other.toNat < 0x20 then '\\' :: 'u' :: Hex.digits 4 other.toNat else [other]

/-- The text of a string with its quotes. -/
def quoted (text : String) : String := "\"" ++ String.ofList (text.toList.flatMap escaped) ++ "\""

/-- Members in the order of their keys. -/
def sortedTexts (members : List (String × String)) : List String :=
  (members.mergeSort fun left right => !(right.1 < left.1)).map fun (key, text) =>
    quoted key ++ ":" ++ text

mutual

/-- The text of a value without blanks. -/
def render : Json → String
  | .null => "null"
  | .boolean flag => if flag then "true" else "false"
  | .integer number => toString number
  | .double number => Layout.json.text number
  | .string text => quoted text
  | .array items => "[" ++ Text.joined "," (renderItems items) ++ "]"
  | .object members => "\x7b" ++ Text.joined "," (sortedTexts (renderMembers members)) ++ "\x7d"

/-- The texts of items. -/
def renderItems : List Json → List String
  | [] => []
  | item :: rest => item.render :: renderItems rest

/-- The texts of members beside their keys. -/
def renderMembers : List (String × Json) → List (String × String)
  | [] => []
  | (key, value) :: rest => (key, value.render) :: renderMembers rest

end

end Json

end Polystore
