/-
**Values as tagged JSON, which keeps their kinds.**

Null, flags, texts, arrays and whole numbers of 64 bits stand for themselves, every other kind is an
object with its tag. A document is the list of its fields as pairs; among values it has a tag too. A code with
its scope and a pointer have a form in answers only: no request holds them.
-/

import Polystore.Exchange.Basic
import Polystore.Value.Extended

namespace Polystore

/-- The digits of the bits of a double. -/
def Binary64.bitDigits (number : Binary64) : String :=
  String.ofList (Hex.digits 16 number.bits.toNat)

namespace Value

/-- A whole number of 64 bits: its digits, where not every reader of JSON could hold the number. -/
def taggedInteger (number : Int) : Json :=
  if number.natAbs < 0x20000000000000 then .integer number else .single "i64" (.string (toString number))

mutual

/-- The tagged form of a value. -/
def tagged : Value → Json
  | .null => .null
  | .undefined => .single "undef" (.boolean true)
  | .boolean flag => .boolean flag
  | .int32 number => .single "i32" (.integer number.toInt)
  | .int64 number => taggedInteger number.toInt
  | .double number => .single "f64" (.string number.bitDigits)
  | .string text => .string text
  | .symbol text => .single "sym" (.string text)
  | .objectId identifier => .single "oid" (.string identifier.hex)
  | .dateTime millis => .single "date" (.string (toString millis.toInt))
  | .binary subtype bytes =>
    .object [("bin", .string (String.ofList (Hex.ofBytes bytes))), ("sub", .integer subtype.toNat)]
  | .timestamp time increment =>
    .single "ts" (.array [.integer time.toNat, .integer increment.toNat])
  | .regex pattern options => .single "re" (.ofTexts [pattern, options])
  | .javaScript code => .single "js" (.string code)
  | .javaScriptWithScope code scope =>
    .object [("js", .string code), ("scope", .array (taggedFields scope))]
  | .decimal number => .single "dec" (.string number.text)
  | .dbPointer collection identifier => .single "ref" (.ofTexts [collection, identifier.hex])
  | .minKey => .single "min" (.boolean true)
  | .maxKey => .single "max" (.boolean true)
  | .array items => .array (taggedItems items)
  | .document fields => .single "doc" (.array (taggedFields fields))

/-- The tagged forms of items. -/
def taggedItems : List Value → List Json
  | [] => []
  | item :: rest => tagged item :: taggedItems rest

/-- The pairs of fields. -/
def taggedFields : List (String × Value) → List Json
  | [] => []
  | (key, value) :: rest => .array [.string key, tagged value] :: taggedFields rest

end

end Value

/-- A document as the list of its fields. -/
def Document.tagged (document : Document) : Json := .array (Value.taggedFields document)

/-- Documents as lists of their fields. -/
def Document.taggedAll (documents : List Document) : Json := .array (documents.map Document.tagged)

namespace Decoder

def bytes (json : Json) : Decoder (List UInt8) := do
  expect "bytes" (Hex.bytes? (← text json).toList)

def double (json : Json) : Decoder Binary64 := do
  let bits ← expect "the bits of a double" (Hex.number? (← text json).toList)
  return ⟨UInt64.ofNat bits⟩

/-- A value that holds no further values, by its tag. -/
def scalar (tag : String) (json : Json) : Decoder Value :=
  match tag with
  | "i64" => do return .int64 (Int64.ofInt (← integer json))
  | "i32" => do return .int32 (Int32.ofInt (← integer json))
  | "f64" => do return .double (← double json)
  | "oid" => do
    return .objectId (← expect "an object id" (ObjectId.ofHex? (← resolved (← text json))))
  | "date" => do return .dateTime (Int64.ofInt (← integer json))
  | "bin" => do return .binary 0 (← bytes json)
  | "undef" => pure .undefined
  | "sym" => do return .symbol (← text json)
  | "ts" => do
    let (time, increment) ← pair json
    return .timestamp (UInt32.ofNat (← natural time)) (UInt32.ofNat (← natural increment))
  | "re" => do
    let (pattern, options) ← pair json
    return .regex (← text pattern) (← text options)
  | "js" => do return .javaScript (← text json)
  | "dec" => do return .decimal (← expect "a decimal" (Decimal128.ofText? (← text json)))
  | "min" => pure .minKey
  | "max" => pure .maxKey
  | _ => malformed "a value"

mutual

/-- A value in its tagged form. -/
def value : Json → Decoder Value
  | .null => pure .null
  | .boolean flag => pure (.boolean flag)
  | .integer number => pure (.int64 (Int64.ofInt number))
  | .double number => pure (.double number)
  | .string text => do return .string (← resolved text)
  | .array items => do return .array (← values items)
  | .object members => tagged members

/-- The value of the members of an object. -/
def tagged : List (String × Json) → Decoder Value
  | [("doc", .array fields)] => do return .document (Document.ofFields (← pairs fields))
  | [("bin", content), ("sub", subtype)] => do
    return .binary (UInt8.ofNat (← natural subtype)) (← bytes content)
  | [("sub", subtype), ("bin", content)] => do
    return .binary (UInt8.ofNat (← natural subtype)) (← bytes content)
  | [(tag, content)] => scalar tag content
  | _ => malformed "a value"

/-- Values one by one. -/
def values : List Json → Decoder (List Value)
  | [] => pure []
  | item :: rest => do
    let first ← value item
    let others ← values rest
    return first :: others

/-- The fields of a list of pairs. -/
def pairs : List Json → Decoder (List (String × Value))
  | [] => pure []
  | .array [.string key, content] :: rest => do
    let first ← value content
    let others ← pairs rest
    return (key, first) :: others
  | _ => malformed "a field"

end

/-- A list of values. -/
def valueList (json : Json) : Decoder (List Value) := do values (← list json)

/-- A document as the list of its fields; a repeated key overwrites the first one. -/
def document (json : Json) : Decoder Document := do
  return Document.ofFields (← pairs (← list json))

def documents : Json → Decoder (List Document) := listOf document

end Decoder

end Polystore
