/-
**The text of a value in descriptions.**

It is the name of its kind, and its content in brackets or by fields. Texts are escaped in it, and
numbers have a point or an exponent only if they are doubles or decimal numbers.
-/

import Polystore.Text.Escaped
import Polystore.Value.Basic

namespace Polystore

/-- A text in brackets. -/
def Text.bracketed (text : String) : String := "(" ++ text ++ ")"

/-- The names of the subtypes of binary values that have one, the first one of them zero. -/
def Binary.subtypeNames : List String :=
  ["Generic", "Function", "BinaryOld", "UuidOld", "Uuid", "Md5", "Encrypted", "Column", "Sensitive", "Vector"]

/-- The word for a subtype without a name: those from 128 on are left to the user. -/
def Binary.numberedWord (subtype : UInt8) : String := if subtype < 128 then "Reserved" else "UserDefined"

/-- The text of a subtype. -/
def Binary.subtypeText (subtype : UInt8) : String :=
  match subtypeNames[subtype.toNat]? with
  | some name => name
  | none => numberedWord subtype ++ Text.bracketed (toString subtype.toNat)

/-- Texts between commas in brackets of some kind. -/
def Text.enclosed (opening closing : Char) (texts : List String) : String :=
  String.singleton opening ++ joined ", " texts ++ String.singleton closing

/-- The text of bytes, in decimal. -/
def Binary.bytesText (bytes : List UInt8) : String :=
  Text.enclosed '[' ']' (bytes.map fun byte => toString byte.toNat)

/-- Two texts as named fields in braces. -/
def Text.described (name text otherName other : String) : String :=
  " \x7b " ++ name ++ ": " ++ text ++ ", " ++ otherName ++ ": " ++ other ++ " \x7d"

/-- The name that the description of a value begins with. -/
def Value.debugName : Value → String
  | .regex _ _ => "Regex"
  | .document _ => "Document"
  | other => other.kindName

/-- The text of a document in descriptions, of the texts of its fields. -/
def Document.debugOf (fields : List String) : String :=
  "Document" ++ Text.bracketed (Text.enclosed '\x7b' '\x7d' fields)

/-- The text of an identifier in descriptions. -/
def ObjectId.debug (identifier : ObjectId) : String :=
  "ObjectId" ++ Text.bracketed (Text.quoted identifier.hex)

mutual

/-- What stands behind the name in the description of a value. -/
def Value.debugBody : Value → String
  | .null | .undefined | .minKey | .maxKey => ""
  | .boolean flag => Text.bracketed (toString flag)
  | .int32 number => Text.bracketed (toString number.toInt)
  | .int64 number => Text.bracketed (toString number.toInt)
  | .double number => Text.bracketed (Layout.debug.text number)
  | .string text | .symbol text | .javaScript text => Text.bracketed (Text.quoted text)
  | .objectId identifier => Text.bracketed (Text.quoted identifier.hex)
  | .dateTime millis => Text.bracketed (Calendar.display millis.toInt)
  | .binary subtype bytes =>
    Text.described "subtype" (Binary.subtypeText subtype) "bytes" (Binary.bytesText bytes)
  | .timestamp time increment =>
    Text.described "time" (toString time.toNat) "increment" (toString increment.toNat)
  | .regex pattern options =>
    Text.described "pattern" (Text.quoted pattern) "options" (Text.quoted options)
  | .javaScriptWithScope code scope =>
    Text.described "code" (Text.quoted code) "scope" (Document.debugOf (Value.debugFields scope))
  | .decimal number => Text.bracketed number.text
  | .dbPointer collection identifier =>
    Text.described "namespace" (Text.quoted collection) "id" identifier.debug
  | .array items => Text.bracketed (Text.enclosed '[' ']' (Value.debugItems items))
  | .document fields => Text.bracketed (Text.enclosed '\x7b' '\x7d' (Value.debugFields fields))

/-- The descriptions of the items of an array. -/
def Value.debugItems : List Value → List String
  | [] => []
  | item :: rest => (item.debugName ++ item.debugBody) :: Value.debugItems rest

/-- The descriptions of the fields of a document, each with its key. -/
def Value.debugFields : List (String × Value) → List String
  | [] => []
  | (key, value) :: rest =>
    (Text.quoted key ++ ": " ++ (value.debugName ++ value.debugBody)) :: Value.debugFields rest

end

/-- The text of a value in descriptions. -/
def Value.debug (value : Value) : String := value.debugName ++ value.debugBody

/-- The text of a list of values in descriptions. -/
def Value.debugList (values : List Value) : String := Text.enclosed '[' ']' (Value.debugItems values)

example : Value.debugList [.int32 5, .array [.string "a\"", .null]] =
    "[Int32(5), Array([String(\"a\\\"\"), Null])]" := by decide +kernel

end Polystore
