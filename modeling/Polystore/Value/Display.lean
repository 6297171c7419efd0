/-
**The text of a value in messages, in defaults of columns and in descriptions of bound values.**

Nothing in it is escaped.
-/

import Polystore.Text.Base64
import Polystore.Value.Basic

namespace Polystore

/-- A number in hexadecimal without leading zeros. -/
def Hex.short (number : Nat) : String := String.ofList (Nat.toDigits 16 number)

mutual

/-- The text of a value. -/
def Value.display : Value → String
  | .null => "null"
  | .undefined => "undefined"
  | .boolean flag => if flag then "true" else "false"
  | .int32 number => toString number.toInt
  | .int64 number => toString number.toInt
  | .double number => Layout.plain.text number
  | .string text => "\"" ++ text ++ "\""
  | .symbol text => "Symbol(\"" ++ text ++ "\")"
  | .objectId identifier => "ObjectId(\"" ++ identifier.hex ++ "\")"
  | .dateTime millis => "DateTime(\"" ++ Calendar.display millis.toInt ++ "\")"
  | .binary subtype bytes =>
    "Binary(0x" ++ Hex.short subtype.toNat ++ ", " ++ String.ofList (Base64.encode bytes) ++ ")"
  | .timestamp time increment =>
    "Timestamp(" ++ toString time.toNat ++ ", " ++ toString increment.toNat ++ ")"
  | .regex pattern options => "/" ++ pattern ++ "/" ++ options
  | .javaScript code | .javaScriptWithScope code _ => code
  | .decimal number => number.text
  | .dbPointer collection identifier => "DbPointer(" ++ collection ++ ", " ++ identifier.hex ++ ")"
  | .minKey => "MinKey"
  | .maxKey => "MaxKey"
  | .array items => "[" ++ Text.joined ", " (Value.displayItems items) ++ "]"
  | .document [] => "\x7b\x7d"
  | .document fields => "\x7b " ++ Text.joined ", " (Value.displayFields fields) ++ " \x7d"

/-- The texts of the items of an array. -/
def Value.displayItems : List Value → List String
  | [] => []
  | item :: rest => item.display :: Value.displayItems rest

/-- The texts of the fields of a document, each with its key. -/
def Value.displayFields : List (String × Value) → List String
  | [] => []
  | (key, value) :: rest => ("\"" ++ key ++ "\": " ++ value.display) :: Value.displayFields rest

end

end Polystore
