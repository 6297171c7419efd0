/-
**Queries on SQL databases.**

A query becomes a statement, and the rows of the driver become rows with a text identifier and with
joined columns nested. The columns of joined tables are asked of the catalogue before every select.
Identifiers in conditions are checked first, so that a blank one never reaches the driver.
-/

import Polystore.Engine
import Polystore.Page
import Polystore.Sql.Definition
import Polystore.Sql.Row
import Polystore.Sql.Write

namespace Polystore.Sql

/-- The calls of SQL drivers. -/
inductive Call where
  | query (statement : Statement)
  | execute (statement : Statement)
  | begin
  | commit
  | rollback
  deriving Repr

/-- SQL drivers: queries give rows keyed by column name, other statements the number of rows they
changed, and a new transaction its number. -/
def interface : Interface where
  Call := Call
  Reply
    | .query _ => List Document
    | .execute _ => Nat
    | .begin => Nat
    | .commit | .rollback => Unit

/-- Runs a statement that gives rows. -/
def query (scope : Scope) (statement : Statement) : Program interface (List Document) :=
  .ask interface scope (Call.query statement)

/-- Runs a statement that changes rows. -/
def execute (scope : Scope) (statement : Statement) : Program interface Nat :=
  .ask interface scope (Call.execute statement)

/-- The names that catalogue rows carry in their column `name`. -/
def namesOf (rows : List Document) : List String :=
  rows.filterMap fun row =>
    match Document.get? "name" row with
    | some (.string name) => some name
    | _ => none

/-- Asks for the columns of every joined table, once for each target. -/
def fetchTargetColumns (dialect : SqlDialect) (scope : Scope) (known : TargetColumns) :
    List Join → Program interface TargetColumns
  | [] => .done known
  | join :: rest =>
    if (known.of? join.target).isSome then fetchTargetColumns dialect scope known rest
    else do
      let rows ← query scope (dialect.tableColumns join.table)
      fetchTargetColumns dialect scope (known ++ [(join.target, namesOf rows)]) rest

/-- Whether a column holds identifiers: `id` itself, or `id` of a named table. -/
def isIdColumn (column : String) : Bool :=
  (Text.segmentsOf '.' column).getLast? == some idField

/-- Checks the texts among values as identifiers. -/
def checkTexts : List Value → Except DatabaseError Unit
  | [] => .ok ()
  | .string text :: rest => do
    let _ ← TextIdentifier.parse text
    checkTexts rest
  | _ :: rest => checkTexts rest

mutual

/-- Checks the identifiers in a condition. -/
def checkPredicate : Predicate → Except DatabaseError Unit
  | .compare column _ value => if isIdColumn column then checkTexts [value] else .ok ()
  | .oneOf column values _ => if isIdColumn column then checkTexts values else .ok ()
  | .group clauses => checkIdentifiers clauses
  | _ => .ok ()

/-- Checks the identifiers in clauses, in order. -/
def checkIdentifiers : List (Connective × Predicate) → Except DatabaseError Unit
  | [] => .ok ()
  | (_, condition) :: rest => do
    checkPredicate condition
    checkIdentifiers rest

end

/-- A row of the driver as it is shown. -/
def shownRow (joins : List Join) (row : Document) : Document :=
  TextIdentifier.canonicalDocument (foldJoinedRow joins row)

/-- The rows of a query. -/
def selectRows (dialect : SqlDialect) (scope : Scope) (expression : Query) :
    Program interface (List Document) := do
  Program.ofExcept (checkIdentifiers expression.clauses)
  let columns ← fetchTargetColumns dialect scope [] expression.joins
  let statement ← Program.ofExcept (selectStatement dialect columns expression)
  let rows ← query scope statement
  return rows.map (shownRow expression.joins)

/-- The count in the first row of the answer to a counting statement; zero if there is none. -/
def countOf (rows : List Document) : Nat :=
  match rows.head?.bind (Document.get? "aggregate") with
  | some (.int64 count) => count.toInt.toNat
  | some (.int32 count) => count.toInt.toNat
  | some (.double count) => count.toNatClamped maxCount
  | _ => 0

/-- How many rows a query has. -/
def countRows (dialect : SqlDialect) (scope : Scope) (expression : Query) :
    Program interface Nat := do
  Program.ofExcept (checkIdentifiers expression.clauses)
  let columns ← fetchTargetColumns dialect scope [] expression.joins
  let statement ← Program.ofExcept (countStatement dialect columns expression)
  let rows ← query scope statement
  return countOf rows

/-- Inserts documents one by one, giving an identifier to those without one. -/
def insertRows (dialect : SqlDialect) (scope : Scope) (table : String) (outcome : WriteOutcome) :
    List Document → Program interface WriteOutcome
  | [] => .done outcome
  | document :: rest => do
    let payload := Document.withoutUndefined document
    let identified ←
      if Document.hasId payload then pure payload
      else do
        let bits ← Program.fresh
        pure (TextIdentifier.identified (uuidOfDraw bits) payload)
    let native ← Program.ofExcept (TextIdentifier.nativeDocument identified)
    let statement ← Program.ofExcept (insertStatement dialect table native)
    let affected ← execute scope statement
    insertRows dialect scope table
      ⟨outcome.affected + affected, outcome.inserted ++ [TextIdentifier.canonicalDocument native]⟩ rest

/-- Sets fields of the rows of a query; without fields to set nothing is sent. -/
def updateRows (dialect : SqlDialect) (scope : Scope) (expression : Query) (values : Document) :
    Program interface WriteOutcome := do
  Program.ofExcept (checkIdentifiers expression.clauses)
  let fields := Document.withoutUndefined (Document.withoutId values)
  if fields.isEmpty then return .nothing
  let statement ← Program.ofExcept (updateStatement dialect expression fields)
  return .count (← execute scope statement)

/-- Deletes the rows of a query. -/
def deleteRows (dialect : SqlDialect) (scope : Scope) (expression : Query) :
    Program interface WriteOutcome := do
  Program.ofExcept (checkIdentifiers expression.clauses)
  let statement ← Program.ofExcept (deleteStatement dialect expression)
  return .count (← execute scope statement)

/-- Does what the query says is to be written. -/
def executeQuery (dialect : SqlDialect) (scope : Scope) (expression : Query) :
    Program interface WriteOutcome := do
  let table ← Program.ofExcept expression.requireTable
  match expression.mutation with
  | .insert documents => insertRows dialect scope table .nothing documents
  | .update values => updateRows dialect scope expression values
  | .delete => deleteRows dialect scope expression
  | .select => .fail .nothingToExecute

/-- The engine for SQL databases of one dialect. -/
def engine (dialect : SqlDialect) : Engine interface where
  kind := .relational
  select scope expression := (selectRows dialect scope expression).orIfInvalidIdentifier []
  count scope expression := (countRows dialect scope expression).orIfInvalidIdentifier 0
  execute := executeQuery dialect
  truncate scope table := do
    let _ ← execute scope (truncateStatement dialect table)
  begin scope := .ask interface scope Call.begin
  commit number := .ask interface (.transaction number) Call.commit
  rollback number := .ask interface (.transaction number) Call.rollback

end Polystore.Sql
