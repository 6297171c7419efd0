/-
**Joins of rows that were already fetched.**

`joinRows` extends every base row by each joined row with the same key, under the target of the join.
Base rows without a match stay with a null target in left and full joins. A `Merging` keeps for each
joined row whether it was used; those that were not follow at the end in right and full joins. A cross
join pairs every row with every other.

`firstPerKey` keeps the first row of each combination of columns, `selectColumns` reduces rows to
columns under their output names.
-/

import Polystore.Query.Basic

namespace Polystore.Native

/-- A number as a double. -/
def asNumber? : Value → Option Binary64
  | .int32 number => some (.ofInt number.toInt)
  | .int64 number => some (.ofInt number.toInt)
  | .double number => some number
  | _ => none

/-- Whether two keys are the same; numbers of different kinds are compared as doubles. -/
def sameKey (left right : Value) : Bool :=
  match asNumber? left, asNumber? right with
  | some left, some right => left.equals right
  | _, _ => left.equals right

/-- The key of a base row, unless it counts as absent. -/
def localKey? (join : Join) (row : Document) : Option Value :=
  (Document.lookup? join.localKey row).filter (!·.isNullish)

/-- Whether a joined row belongs to a base row. -/
def isMatch (join : Join) (row other : Document) : Bool :=
  match localKey? join row, Document.get? join.foreignKey other with
  | some left, some right => sameKey left right
  | _, _ => false

/-- The row with a joined row under the target. -/
def extended (join : Join) (row other : Document) : Document :=
  Document.insert join.target (.document other) row

/-- The places of the joined rows that belong to a base row. -/
def matchedPlaces (join : Join) (joined : List Document) (row : Document) : List Nat :=
  (joined.zipIdx.filter fun entry => isMatch join row entry.1).map Prod.snd

/-- The rows of a join that were made so far, and for each joined row whether it was used. -/
structure Merging where
  rows : List Document
  used : List Bool
  deriving Repr

namespace Merging

/-- Extends a base row by the joined row at a place, which is marked as used. -/
def use (join : Join) (joined : List Document) (row : Document) (merging : Merging) (place : Nat) :
    Merging :=
  { rows := merging.rows ++ joined[place]?.toList.map (extended join row)
    used := merging.used.set place true }

/-- Goes on with the next base row. -/
def visit (join : Join) (joined : List Document) (merging : Merging) (row : Document) : Merging :=
  let places := matchedPlaces join joined row
  if places.isEmpty then
    if join.kind.keepsUnmatchedBase then
      { merging with rows := merging.rows ++ [Document.insert join.target .null row] }
    else merging
  else places.foldl (use join joined row) merging

/-- All base rows, gone through one after the other. -/
def visitAll (join : Join) (rows joined : List Document) : Merging :=
  rows.foldl (visit join joined) ⟨[], List.replicate joined.length false⟩

end Merging

/-- The rows of a join. -/
def joinRows (join : Join) (rows joined : List Document) : List Document :=
  if join.kind = .cross then rows.flatMap fun row => joined.map (extended join row)
  else
    let merging := Merging.visitAll join rows joined
    merging.rows
      ++ if join.kind.keepsUnmatchedJoined then
          ((joined.zip merging.used).filter (!·.2)).map fun entry => extended join [] entry.1
        else []

/-- The values of columns in a row; a missing one is null. -/
def rowKey (columns : List String) (row : Document) : List Value :=
  columns.map fun column => (Document.lookup? column row).getD .null

/-- The rows whose key differs from the keys before, of which `seen` are known already. -/
def firstPerKeyFrom (columns : List String) (seen : List (List Value)) : List Document → List Document
  | [] => []
  | row :: rest =>
    let key := rowKey columns row
    if seen.any (Value.identicalItems key) then firstPerKeyFrom columns seen rest
    else row :: firstPerKeyFrom columns (key :: seen) rest

/-- The first row of each combination of columns. -/
def firstPerKey (columns : List String) (rows : List Document) : List Document :=
  firstPerKeyFrom columns [] rows

/-- A row reduced to columns under their output names, and to the targets of joins. -/
def selectedRow (columns : List Column) (targets : List String) (row : Document) : Document :=
  let selected := columns.filterMap fun column =>
    (Document.lookup? column.name row).map fun value => (column.outputName, value)
  let kept := targets.filterMap fun target =>
    (Document.get? target row).map fun value => (target, value)
  Document.ofFields (selected ++ kept)

/-- Rows reduced to columns and join targets. -/
def selectColumns (columns : List Column) (targets : List String) (rows : List Document) :
    List Document :=
  rows.map (selectedRow columns targets)

end Polystore.Native
