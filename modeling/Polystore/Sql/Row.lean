/-
**Result rows of joined selects.**

The columns `target.column` of a row are moved into a nested document under the target, which is null
where the join matched nothing. A row that only the joined side of an outer join produced shows no
identifier, and its empty base columns are left out.
-/

import Polystore.Identifier.Basic

namespace Polystore.Sql

/-- The columns of one join target, with the target taken off their names. -/
def joinedColumns (target : String) (row : Document) : Document :=
  Document.ofFields <| row.filterMap fun (key, value) =>
    (Text.dropLeading (target ++ ".").toList key.toList).map fun name => (String.ofList name, value)

/-- The row without the columns of a join target. -/
def withoutJoined (target : String) (row : Document) : Document :=
  row.filter fun field => !Text.startsWith (target ++ ".") field.1

/-- The columns of a join as one value, null if all of them are. -/
def foldedColumns (columns : Document) : Value :=
  if columns.all (·.2.isNull) then .null else .document columns

/-- Takes the columns of the joins out of a row and keeps what is to be shown under each target. -/
def takeJoined : List Join → Document → Document × Document
  | [], row => (row, [])
  | join :: rest, row =>
    let columns := joinedColumns join.target row
    let (remaining, nested) := takeJoined rest (withoutJoined join.target row)
    if columns.isEmpty then (remaining, nested)
    else (remaining, (join.target, foldedColumns columns) :: nested)

/-- The row with the columns of every join nested under its target. -/
def foldJoinedRow (joins : List Join) (row : Document) : Document :=
  if joins.isEmpty then row
  else
    let (remaining, nested) := takeJoined joins row
    let base :=
      match Document.get? idField remaining with
      | some .null => remaining.filter (!·.2.isNull)
      | _ => remaining
    Document.extend base nested

end Polystore.Sql
