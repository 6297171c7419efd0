/-
**How filters and sorts compare values.**

* `Value.alike` is equality in filters: numbers are compared as doubles, texts whether they are symbols
  or not, and null is the same as undefined;
* `Value.order?` orders flags, numbers, instants, object identifiers and texts, each among themselves;
* `sortOrder` is the order of sorts: absent values first, and values in no order count as equal.
-/

import Polystore.Native.Join

namespace Polystore

namespace Value

/-- The text of a string or a symbol. -/
def text? : Value → Option String
  | string text => some text
  | symbol text => some text
  | _ => none

/-- Whether two values that hold no further values are alike. -/
def alikeScalar (left right : Value) : Bool :=
  match left.text?, right.text? with
  | some left, some right => left == right
  | _, _ => (left.isNullish && right.isNullish) || Native.sameKey left right

mutual

/-- Equality in filters. -/
def alike : Value → Value → Bool
  | array left, array right => alikeItems left right
  | document left, document right => left.length == right.length && alikeFields left right
  | left, right => alikeScalar left right

/-- `Value.alike` item by item. -/
def alikeItems : List Value → List Value → Bool
  | [], [] => true
  | left :: lefts, right :: rights => left.alike right && alikeItems lefts rights
  | _, _ => false

/-- Whether every field stands in the other document with a value that is alike. -/
def alikeFields : List (String × Value) → Document → Bool
  | [], _ => true
  | (key, value) :: rest, other =>
    (match Document.get? key other with
      | some found => value.alike found
      | none => false)
      && alikeFields rest other

end

/-- The order of two values of one kind. -/
def order? : Value → Value → Option Ordering
  | boolean left, boolean right => some (compare left right)
  | dateTime left, dateTime right => some (compare left.toInt right.toInt)
  | objectId left, objectId right => some (left.order right)
  | left, right =>
    match left.text?, right.text? with
    | some left, some right => some (compare left right)
    | _, _ =>
      match Native.asNumber? left, Native.asNumber? right with
      | some left, some right => left.order? right
      | _, _ => none

end Value

namespace Memory

/-- The order of two fields in a sort. -/
def sortOrder (left right : Option Value) : Ordering :=
  match left.filter (!·.isNullish), right.filter (!·.isNullish) with
  | none, none => .eq
  | none, some _ => .lt
  | some _, none => .gt
  | some left, some right => (left.order? right).getD .eq

end Memory

end Polystore
