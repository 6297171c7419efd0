/-
**Tables as SQL: creating, changing and dropping them.**

A table that declares no key gets a text column `id` as its primary key. Changing a column in place
is refused by dialects that cannot do it.
-/

import Polystore.Error
import Polystore.Sql.Dialect

namespace Polystore.Sql

/-- The definition of a column. -/
def columnDefinition (dialect : SqlDialect) (column : ColumnBlueprint) : String :=
  let nullability :=
    if column.primary then " PRIMARY KEY" else if column.nullable then "" else " NOT NULL"
  let uniqueness := if column.unique && !column.primary then " UNIQUE" else ""
  let default :=
    match column.default with
    | some value => " DEFAULT " ++ dialect.literal value
    | none => ""
  dialect.quote column.name ++ " " ++ dialect.columnType column.type ++ nullability ++ uniqueness
    ++ default

/-- The statement that creates an index. -/
def createIndexStatement (dialect : SqlDialect) (table : String) (index : IndexBlueprint) : Statement :=
  .plain ("CREATE " ++ (if index.unique then "UNIQUE " else "") ++ "INDEX "
    ++ dialect.quote (index.nameOn table) ++ " ON " ++ dialect.quote table ++ " ("
    ++ Text.joined ", " (index.columns.map dialect.quote) ++ ")")

/-- The columns that a table is created with. -/
def createdColumns (blueprint : TableBlueprint) : List ColumnBlueprint :=
  if blueprint.declaresPrimaryKey then blueprint.columns
  else ColumnBlueprint.identifier :: blueprint.columns

/-- The statements that create a table and its indexes. -/
def createTableStatements (dialect : SqlDialect) (blueprint : TableBlueprint) : List Statement :=
  .plain ("CREATE TABLE " ++ dialect.quote blueprint.name ++ " ("
      ++ Text.joined ", " ((createdColumns blueprint).map (columnDefinition dialect)) ++ ")")
    :: blueprint.indexes.map (createIndexStatement dialect blueprint.name)

/-- The statement that drops a table if it exists. -/
def dropTableStatement (dialect : SqlDialect) (table : String) : Statement :=
  .plain ("DROP TABLE IF EXISTS " ++ dialect.quote table)

/-- The statements that change a column in place. -/
def changeColumnStatements (dialect : SqlDialect) (table : String) (column : ColumnBlueprint) :
    Except DatabaseError (List Statement) :=
  let alter := "ALTER TABLE " ++ dialect.quote table
  let name := dialect.quote column.name
  match dialect with
  | .sqlite =>
    .error (.unsupported ("changing column '" ++ column.name ++ "' is not supported by SQLite"))
  | .mySql => .ok [.plain (alter ++ " MODIFY COLUMN " ++ columnDefinition dialect column)]
  | .postgres =>
    .ok [.plain (alter ++ " ALTER COLUMN " ++ name ++ " TYPE " ++ dialect.columnType column.type),
      .plain (alter ++ " ALTER COLUMN " ++ name ++ (if column.nullable then " DROP" else " SET")
        ++ " NOT NULL")]

/-- The statements of one change of a table. -/
def alterStatements (dialect : SqlDialect) (table : String) :
    Alteration → Except DatabaseError (List Statement)
  | .addColumn column =>
    .ok [.plain ("ALTER TABLE " ++ dialect.quote table ++ " ADD COLUMN "
      ++ columnDefinition dialect column)]
  | .dropColumn name =>
    .ok [.plain ("ALTER TABLE " ++ dialect.quote table ++ " DROP COLUMN " ++ dialect.quote name)]
  | .renameColumn old new =>
    .ok [.plain ("ALTER TABLE " ++ dialect.quote table ++ " RENAME COLUMN " ++ dialect.quote old
      ++ " TO " ++ dialect.quote new)]
  | .changeColumn column => changeColumnStatements dialect table column
  | .addIndex index => .ok [createIndexStatement dialect table index]
  | .dropIndex name =>
    .ok [.plain (match dialect with
      | .mySql => "DROP INDEX " ++ dialect.quote name ++ " ON " ++ dialect.quote table
      | _ => "DROP INDEX IF EXISTS " ++ dialect.quote name)]

/-- The statements of a list of changes, or the error of the first one that has none. -/
def alterAllStatements (dialect : SqlDialect) (table : String) :
    List Alteration → Except DatabaseError (List Statement)
  | [] => .ok []
  | alteration :: rest => do
    let statements ← alterStatements dialect table alteration
    let others ← alterAllStatements dialect table rest
    return statements ++ others

end Polystore.Sql
