/-
**Values as JSON.**

* `Value.relaxed` is relaxed extended JSON: kinds that JSON lacks become objects with a `$` key;
* `Value.model` is the form in which a document is handed to a typed model;
* `Value.ofModel` reads a model back: whole numbers become 64-bit integers.
-/

import Polystore.Error
import Polystore.Json
import Polystore.Text.Base64
import Polystore.Value.Basic

namespace Polystore

/-- An object with one member. -/
def Json.single (key : String) (value : Json) : Json := .object [(key, value)]

/-- Options of a regular expression in the order of their letters. -/
def sortedOptions (options : String) : String :=
  String.ofList (options.toList.mergeSort fun left right => left.toNat ≤ right.toNat)

/-- An instant: a date text from 1970 on, the bare milliseconds before. -/
def relaxedDate (millis : Int) : Json :=
  .single "$date" <|
    if 0 ≤ millis then .string (Calendar.rfc3339 millis)
    else .single "$numberLong" (.string (toString millis))

/-- A double, by name where JSON has no number for it. -/
def relaxedDouble (number : Binary64) : Json :=
  let sign := if number.isNegative then "-" else ""
  if number.isNaN then .single "$numberDouble" (.string (sign ++ "NaN"))
  else if number.isInfinite then .single "$numberDouble" (.string (sign ++ "Infinity"))
  else .double number

/-- Bytes with their subtype. -/
def relaxedBinary (subtype : UInt8) (bytes : List UInt8) : Json :=
  .single "$binary" <| .object
    [("base64", .string (String.ofList (Base64.encode bytes))),
      ("subType", .string (String.ofList (Hex.digits 2 subtype.toNat)))]

/-- A code with the variables it is run among. -/
def codeWithScope (code : String) (scope : List (String × Json)) : Json :=
  .object [("$code", .string code), ("$scope", .object scope)]

mutual

/-- The relaxed extended JSON of a value. -/
def Value.relaxed : Value → Json
  | .null => .null
  | .undefined => .single "$undefined" (.boolean true)
  | .boolean flag => .boolean flag
  | .int32 number => .integer number.toInt
  | .int64 number => .integer number.toInt
  | .double number => relaxedDouble number
  | .string text => .string text
  | .symbol text => .single "$symbol" (.string text)
  | .objectId identifier => .single "$oid" (.string identifier.hex)
  | .dateTime millis => relaxedDate millis.toInt
  | .binary subtype bytes => relaxedBinary subtype bytes
  | .timestamp time increment =>
    .single "$timestamp" (.object [("t", .integer time.toNat), ("i", .integer increment.toNat)])
  | .regex pattern options =>
    .single "$regularExpression"
      (.object [("pattern", .string pattern), ("options", .string (sortedOptions options))])
  | .javaScript code => .single "$code" (.string code)
  | .javaScriptWithScope code scope => codeWithScope code (Value.relaxedFields scope)
  | .decimal number => .single "$numberDecimal" (.string number.text)
  | .dbPointer collection identifier =>
    .single "$dbPointer" <| .object
      [("$ref", .string collection), ("$id", .single "$oid" (.string identifier.hex))]
  | .minKey => .single "$minKey" (.integer 1)
  | .maxKey => .single "$maxKey" (.integer 1)
  | .array items => .array (Value.relaxedItems items)
  | .document fields => .object (Value.relaxedFields fields)

/-- `Value.relaxed` item by item. -/
def Value.relaxedItems : List Value → List Json
  | [] => []
  | item :: rest => item.relaxed :: Value.relaxedItems rest

/-- `Value.relaxed` field by field. -/
def Value.relaxedFields : List (String × Value) → List (String × Json)
  | [] => []
  | (key, value) :: rest => (key, value.relaxed) :: Value.relaxedFields rest

end

mutual

/-- The value as a model reads it: doubles that JSON cannot write are null, and plain bytes have no
form. -/
def Value.model : Value → Except DatabaseError Json
  | .double number => .ok (if number.isNaN || number.isInfinite then .null else .double number)
  | .binary subtype bytes =>
    if subtype = 0 then .error (.serialization "bytes in a model") else .ok (relaxedBinary subtype bytes)
  | .array items => (Value.modelItems items).map .array
  | .document fields => (Value.modelFields fields).map .object
  | .javaScriptWithScope code scope => (Value.modelFields scope).map (codeWithScope code)
  | other => .ok other.relaxed

/-- `Value.model` item by item. -/
def Value.modelItems : List Value → Except DatabaseError (List Json)
  | [] => .ok []
  | item :: rest => do
    let first ← item.model
    let others ← Value.modelItems rest
    return first :: others

/-- `Value.model` field by field. -/
def Value.modelFields : List (String × Value) → Except DatabaseError (List (String × Json))
  | [] => .ok []
  | (key, value) :: rest => do
    let first ← value.model
    let others ← Value.modelFields rest
    return (key, first) :: others

end

mutual

/-- The value of a model. Whole numbers have to fit 64 bits with a sign. -/
def Value.ofModel : Json → Except DatabaseError Value
  | .null => .ok .null
  | .boolean flag => .ok (.boolean flag)
  | .integer number =>
    if -0x8000000000000000 ≤ number ∧ number < 0x8000000000000000 then .ok (.int64 (Int64.ofInt number))
    else .error (.serialization ("integer " ++ toString number ++ " does not fit 64 bits"))
  | .double number => .ok (.double number)
  | .string text => .ok (.string text)
  | .array items => (Value.ofModelItems items).map .array
  | .object members => (Value.ofModelMembers members).map .document

/-- `Value.ofModel` item by item. -/
def Value.ofModelItems : List Json → Except DatabaseError (List Value)
  | [] => .ok []
  | item :: rest => do
    let first ← Value.ofModel item
    let others ← Value.ofModelItems rest
    return first :: others

/-- `Value.ofModel` member by member. -/
def Value.ofModelMembers : List (String × Json) → Except DatabaseError (List (String × Value))
  | [] => .ok []
  | (key, value) :: rest => do
    let first ← Value.ofModel value
    let others ← Value.ofModelMembers rest
    return (key, first) :: others

end

/-- The document of a model, which has to be an object. -/
def Document.ofModel (model : Json) : Except DatabaseError Document := do
  match ← Value.ofModel model with
  | .document fields => return fields
  | other => throw (.invalidDocument ("expected a map-like model, got " ++ other.kindName))

/-- The model of a document. -/
def Document.model (document : Document) : Except DatabaseError Json :=
  (Value.modelFields document).map .object

end Polystore
