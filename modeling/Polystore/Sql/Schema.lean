/-
**Tables of SQL databases.**

All changes of a table are written as statements before the first one is sent, so a change that the
dialect cannot express leaves the table as it was.
-/

import Polystore.Schema
import Polystore.Sql.Engine

namespace Polystore.Sql

/-- Runs statements one after the other, up to the first failure. -/
def executeAll : List Statement → Program interface Unit
  | [] => .done ()
  | statement :: rest => do
    let _ ← execute .connection statement
    executeAll rest

/-- The tables of a database of one dialect. -/
def schema (dialect : SqlDialect) : Schema interface where
  create blueprint := executeAll (createTableStatements dialect blueprint)
  drop name := executeAll [dropTableStatement dialect name]
  contains name := do
    return !(← query .connection (dialect.tableExists name)).isEmpty
  alter name alterations := do
    executeAll (← Program.ofExcept (alterAllStatements dialect name alterations))
  names := do
    return namesOf (← query .connection dialect.listTables)

end Polystore.Sql
