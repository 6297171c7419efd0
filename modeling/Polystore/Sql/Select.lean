/-
**Selects as SQL.**

The parts of a select always stand in the same order: columns, `FROM`, joins, `WHERE`, `GROUP BY`,
`ORDER BY`, `LIMIT` and `OFFSET`. Columns of a joined table are selected under the name
`target.column`, so that the rows can be folded; without known columns the table is selected whole.
-/

import Polystore.Sql.Condition

namespace Polystore.Sql

/-- The columns of joined tables, by join target. -/
abbrev TargetColumns := List (String × List String)

/-- The columns known for a join target. -/
def TargetColumns.of? (columns : TargetColumns) (target : String) : Option (List String) :=
  columns.lookup target

/-- The name that the base table is referred to by. -/
def baseName (query : Query) : Except DatabaseError String :=
  match query.table with
  | some table => .ok (table.shownAs.getD table.name)
  | none => .error .missingTable

/-- How the columns of a query are written. -/
def columnScope (dialect : SqlDialect) (query : Query) : Except DatabaseError ColumnScope :=
  (baseName query).map fun base => ⟨dialect, base, query.hasJoins⟩

/-- A selected column. -/
def selectedColumn (scope : ColumnScope) (column : Column) : String :=
  match column.shownAs with
  | some shown => scope.column column.name ++ " AS " ++ scope.dialect.quoteWhole shown
  | none => scope.column column.name

/-- What is selected of the base table. -/
def baseSelections (scope : ColumnScope) (query : Query) : List String :=
  if !query.distinct.isEmpty then query.distinct.map scope.column
  else if query.columns.isEmpty then
    [if query.hasJoins then scope.dialect.quote (scope.base ++ ".*") else "*"]
  else query.columns.map (selectedColumn scope)

/-- What is selected of a joined table. -/
def joinSelections (dialect : SqlDialect) (columns : TargetColumns) (join : Join) : List String :=
  match columns.of? join.target with
  | some names =>
    names.map fun name =>
      dialect.quote (join.target ++ "." ++ name) ++ " AS "
        ++ dialect.quoteWhole (join.target ++ "." ++ name)
  | none => [dialect.quote (join.target ++ ".*")]

/-- A join as SQL. -/
def joinText (scope : ColumnScope) (join : Join) : String :=
  let dialect := scope.dialect
  let shown := if join.target = join.table then "" else " AS " ++ dialect.quote join.target
  let condition :=
    if join.kind = .cross then ""
    else
      let localName :=
        if Text.hasChar '.' join.localKey then join.localKey else scope.base ++ "." ++ join.localKey
      " ON " ++ dialect.quote localName ++ " = "
        ++ dialect.quote (join.target ++ "." ++ join.foreignKey)
  " " ++ join.kind.sql ++ " " ++ dialect.quote join.table ++ shown ++ condition

/-- The `GROUP BY` part. -/
def groupText (scope : ColumnScope) (groups : List String) : String :=
  if groups.isEmpty then "" else " GROUP BY " ++ Text.joined ", " (groups.map scope.column)

/-- The `ORDER BY` part. -/
def orderText (scope : ColumnScope) (orders : List Order) : String :=
  if orders.isEmpty then ""
  else
    " ORDER BY " ++ Text.joined ", "
      (orders.map fun order => scope.column order.column ++ " " ++ order.direction.sql)

/-- The `LIMIT` and `OFFSET` parts. -/
def windowText (dialect : SqlDialect) (limit offset : Option Nat) : String :=
  match limit, offset with
  | some limit, some offset => " LIMIT " ++ toString limit ++ " OFFSET " ++ toString offset
  | some limit, none => " LIMIT " ++ toString limit
  | none, some offset =>
    match dialect.unboundedLimit with
    | some unbounded => " LIMIT " ++ unbounded ++ " OFFSET " ++ toString offset
    | none => " OFFSET " ++ toString offset
  | none, none => ""

/-- The pieces of a select. -/
def selectFragments (dialect : SqlDialect) (columns : TargetColumns) (query : Query) :
    Except DatabaseError (List Fragment) := do
  let table ← query.requireTable
  let scope ← columnScope dialect query
  let selections := baseSelections scope query ++ query.joins.flatMap (joinSelections dialect columns)
  let distinct := if query.distinct.isEmpty then "" else "DISTINCT "
  let shown := if scope.base = table then "" else " AS " ++ dialect.quote scope.base
  let joins := String.join (query.joins.map (joinText scope))
  let condition ← whereFragments scope query.clauses
  return .text ("SELECT " ++ distinct ++ Text.joined ", " selections ++ " FROM " ++ dialect.quote table
      ++ shown ++ joins) :: condition
    ++ [.text (groupText scope query.groups ++ orderText scope query.orders
      ++ windowText dialect query.limit query.offset)]

/-- The statement that selects the rows of a query. -/
def selectStatement (dialect : SqlDialect) (columns : TargetColumns) (query : Query) :
    Except DatabaseError Statement :=
  (selectFragments dialect columns query).map dialect.statement

/-- The statement that counts the rows of a query without its window. -/
def countStatement (dialect : SqlDialect) (columns : TargetColumns) (query : Query) :
    Except DatabaseError Statement := do
  let pieces ← selectFragments dialect columns query.forCount
  return dialect.statement <|
    .text ("SELECT COUNT(*) AS " ++ dialect.quote "aggregate" ++ " FROM (") :: pieces
      ++ [.text (") AS " ++ dialect.quote "count_source")]

end Polystore.Sql
