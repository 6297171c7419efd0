/-
**When two values are the same.**

* `Value.equals` is equality by kind and content: documents may list their fields in any order, and
  numbers of different kinds differ, as does a not-a-number from itself;
* `Value.identical` tells apart whatever prints differently: the order of fields and the sign of zero
  count, and all not-a-numbers are one.
-/

import Polystore.Value.Basic

namespace Polystore

mutual

/-- Equality by kind and content. -/
def Value.equals : Value → Value → Bool
  | .null, .null => true
  | .undefined, .undefined => true
  | .boolean left, .boolean right => left == right
  | .int32 left, .int32 right => left == right
  | .int64 left, .int64 right => left == right
  | .double left, .double right => left.equals right
  | .string left, .string right => left == right
  | .symbol left, .symbol right => left == right
  | .objectId left, .objectId right => left == right
  | .dateTime left, .dateTime right => left == right
  | .binary leftType left, .binary rightType right => leftType == rightType && left == right
  | .timestamp leftTime left, .timestamp rightTime right => leftTime == rightTime && left == right
  | .regex leftPattern left, .regex rightPattern right => leftPattern == rightPattern && left == right
  | .javaScript left, .javaScript right => left == right
  | .javaScriptWithScope leftCode left, .javaScriptWithScope rightCode right =>
    leftCode == rightCode && (left.length == right.length && Value.fieldsWithin left right)
  | .decimal left, .decimal right => left == right
  | .dbPointer leftCollection left, .dbPointer rightCollection right =>
    leftCollection == rightCollection && left == right
  | .minKey, .minKey => true
  | .maxKey, .maxKey => true
  | .array left, .array right => Value.equalItems left right
  | .document left, .document right =>
    left.length == right.length && Value.fieldsWithin left right
  | _, _ => false

/-- Equality item by item. -/
def Value.equalItems : List Value → List Value → Bool
  | [], [] => true
  | left :: lefts, right :: rights => left.equals right && Value.equalItems lefts rights
  | _, _ => false

/-- Whether every field stands in the other document with an equal value. -/
def Value.fieldsWithin : List (String × Value) → Document → Bool
  | [], _ => true
  | (key, value) :: rest, other =>
    (match Document.get? key other with
      | some found => value.equals found
      | none => false)
      && Value.fieldsWithin rest other

end

/-- Equality of documents: the same fields in any order. -/
def Document.equals (left right : Document) : Bool :=
  left.length == right.length && Value.fieldsWithin left right

/-- Whether two doubles print alike. -/
def Binary64.identical (left right : Binary64) : Bool :=
  left == right || (left.isNaN && right.isNaN)

mutual

/-- Whether two values have the same printed form with their kinds. -/
def Value.identical : Value → Value → Bool
  | .double left, .double right => left.identical right
  | .array left, .array right => Value.identicalItems left right
  | .document left, .document right => Value.identicalFields left right
  | .javaScriptWithScope leftCode left, .javaScriptWithScope rightCode right =>
    leftCode == rightCode && Value.identicalFields left right
  | left, right => left.equals right

/-- `Value.identical` item by item. -/
def Value.identicalItems : List Value → List Value → Bool
  | [], [] => true
  | left :: lefts, right :: rights => left.identical right && Value.identicalItems lefts rights
  | _, _ => false

/-- `Value.identical` field by field, in order. -/
def Value.identicalFields : List (String × Value) → List (String × Value) → Bool
  | [], [] => true
  | (leftKey, left) :: lefts, (rightKey, right) :: rights =>
    leftKey == rightKey && left.identical right && Value.identicalFields lefts rights
  | _, _ => false

end

example : Value.equals (.document [("a", .null), ("b", .minKey)])
    (.document [("b", .minKey), ("a", .null)]) = true := by decide

end Polystore
