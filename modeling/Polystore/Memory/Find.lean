/-
**Reads of a collection: filter, sort, window, projection.**

A sort is stable: a document only moves before ones that it precedes. A projection that names a field
other than `_id` to be shown hides all other fields but `_id`; any other projection only hides the
fields that it says to.
-/

import Polystore.Memory.Matching
import Polystore.Memory.StableSort
import Polystore.Native.Read

namespace Polystore.Memory

/-- The documents that pass a filter, in order. -/
def matching (filter : Document) : List Document → Except DatabaseError (List Document)
  | [] => .ok []
  | document :: rest => do
    let accepted ← passes document filter
    let others ← matching filter rest
    return if accepted then document :: others else others

/-- Whether a value in a sort document asks for the descending order. -/
def isDescending : Value → Bool
  | .int32 direction => direction < 0
  | .int64 direction => direction < 0
  | .double direction => direction.order? (.ofInt 0) == some .lt
  | _ => false

/-- The order of two documents by the fields of a sort document, the first of them first. -/
def documentOrder : Document → Document → Document → Ordering
  | [], _, _ => .eq
  | (field, direction) :: rest, left, right =>
    let order := sortOrder (Document.atPath? field left) (Document.atPath? field right)
    (if isDescending direction then order.swap else order).then (documentOrder rest left right)

/-- The documents in the order of a sort document, unless the sort gives up. -/
def sorted? (sort : Option Document) (documents : List Document) : Option (List Document) :=
  match sort with
  | some sort => stableSort? (fun left right => documentOrder sort left right == .lt) documents
  | none => some documents

/-- The documents in the order of a sort document. They stay as they are where the sort gives up: such a
read has no answer, which `givesUp` tells. -/
def sorted (sort : Option Document) (documents : List Document) : List Document :=
  (sorted? sort documents).getD documents

/-- Whether a value in a projection asks for the field to be shown. -/
def isShown : Value → Bool
  | .boolean shown => shown
  | .int32 number => number != 0
  | .int64 number => number != 0
  | .double number => !number.isZero
  | _ => true

/-- Whether a projection shows a field when it shows the unnamed ones or not. -/
def shows (projection : Document) (unnamed : Bool) (field : String) : Bool :=
  match Document.get? field projection with
  | some flag => isShown flag
  | none => unnamed

/-- The fields of a document that a projection shows. -/
def projected (projection : Option Document) (document : Document) : Document :=
  match projection with
  | none => document
  | some projection =>
    let selective := projection.any fun (field, flag) =>
      field != ObjectIdentifier.nativeField && isShown flag
    document.filter fun (field, _) =>
      shows projection (!selective || field == ObjectIdentifier.nativeField) field

/-- The answer of a collection to a read. -/
def found (read : Native.Read) (documents : List Document) : Except DatabaseError (List Document) := do
  let accepted ← matching read.filter documents
  let remaining := (sorted read.sort accepted).drop (read.skip.getD 0)
  let window :=
    match read.limit with
    | some limit => remaining.take limit
    | none => remaining
  return window.map (projected read.projection)

/-- Whether a read gives up: the sort of the documents that pass its filter does. -/
def givesUp (read : Native.Read) (documents : List Document) : Bool :=
  match matching read.filter documents with
  | .ok accepted => (sorted? read.sort accepted).isNone
  | .error _ => false

end Polystore.Memory
