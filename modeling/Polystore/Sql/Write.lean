/-
**Inserts, updates and deletes as SQL.**

Undefined values are never written, and an update never sets the identifier.
-/

import Polystore.Sql.Select

namespace Polystore.Sql

/-- Statements that change rows take no joins. -/
def rejectJoins (query : Query) (statement : String) : Except DatabaseError Unit :=
  if query.hasJoins then .error (.unsupported ("joins in a " ++ statement ++ " statement")) else .ok ()

/-- The statement that inserts one document. -/
def insertStatement (dialect : SqlDialect) (table : String) (document : Document) :
    Except DatabaseError Statement :=
  let fields := Document.withoutUndefined document
  if fields.isEmpty then .error (.invalidDocument "cannot insert an empty document")
  else
    .ok <| dialect.statement <|
      .text ("INSERT INTO " ++ dialect.quote table ++ " ("
          ++ Text.joined ", " (fields.map fun field => dialect.quote field.1) ++ ") VALUES (")
        :: Fragment.separated ", " (fields.map Prod.snd) ++ [.text ")"]

/-- The assignments of an update. -/
def assignments (dialect : SqlDialect) (isFirst : Bool) : Document → List Fragment
  | [] => []
  | (key, value) :: rest =>
    .text ((if isFirst then "" else ", ") ++ dialect.quote key ++ " = ") :: .value value
      :: assignments dialect false rest

/-- The statement that sets fields of the rows of a query. -/
def updateStatement (dialect : SqlDialect) (query : Query) (values : Document) :
    Except DatabaseError Statement := do
  let table ← query.requireTable
  rejectJoins query "update"
  let fields := Document.withoutUndefined (Document.withoutId values)
  if fields.isEmpty then throw (.invalidDocument "nothing to update")
  let scope ← columnScope dialect query
  let condition ← whereFragments scope query.clauses
  return dialect.statement <|
    .text ("UPDATE " ++ dialect.quote table ++ " SET ") :: assignments dialect true fields ++ condition

/-- The statement that deletes the rows of a query. -/
def deleteStatement (dialect : SqlDialect) (query : Query) : Except DatabaseError Statement := do
  let table ← query.requireTable
  rejectJoins query "delete"
  let scope ← columnScope dialect query
  let condition ← whereFragments scope query.clauses
  return dialect.statement (.text ("DELETE FROM " ++ dialect.quote table) :: condition)

/-- The statement that removes all rows of a table. -/
def truncateStatement (dialect : SqlDialect) (table : String) : Statement :=
  .plain (dialect.truncateWords ++ " " ++ dialect.quote table)

end Polystore.Sql
