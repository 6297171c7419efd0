/-
**Conditions as SQL.**

`Condition.clauses` writes the condition of a list of clauses. Every value becomes a placeholder; a
comparison with null becomes `IS NULL` or `IS NOT NULL`, an empty list of values a condition that is
always false or always true, and an empty group one that is always true. With joins, a column without
a table of its own is qualified by the base table.
-/

import Polystore.Query.Basic
import Polystore.Sql.Dialect

namespace Polystore.Sql

/-- How columns are written: the dialect, and the base table where joins make bare names ambiguous. -/
structure ColumnScope where
  dialect : SqlDialect
  base : String
  qualified : Bool
  deriving Repr

/-- A column as SQL. -/
def ColumnScope.column (scope : ColumnScope) (name : String) : String :=
  if scope.qualified && !Text.hasChar '.' name then scope.dialect.quote (scope.base ++ "." ++ name)
  else scope.dialect.quote name

namespace Condition

/-- `NOT ` before a negated condition. -/
def negation (negated : Bool) : String := if negated then "NOT " else ""

/-- A comparison with a value. -/
def compare (column : String) (operator : Operator) (value : Value) : List Fragment :=
  match operator, value with
  | .equal, .null => [.text (column ++ " IS NULL")]
  | .notEqual, .null => [.text (column ++ " IS NOT NULL")]
  | operator, value => [.text (column ++ " " ++ operator.sql ++ " "), .value value]

/-- Membership in a list of values. -/
def oneOf (column : String) (values : List Value) (negated : Bool) : List Fragment :=
  if values.isEmpty then [.text (if negated then "1 = 1" else "1 = 0")]
  else
    .text (column ++ " " ++ negation negated ++ "IN (") :: Fragment.separated ", " values
      ++ [.text ")"]

/-- Pieces of text with a value behind each of the first ones. -/
def woven : List String → List Value → List Fragment
  | [], _ => []
  | piece :: rest, [] => .text piece :: woven rest []
  | piece :: rest, value :: values => .text piece :: .value value :: woven rest values

/-- A piece of SQL whose question marks are the places of the values. -/
def raw (sql : String) (values : List Value) : Except DatabaseError (List Fragment) :=
  let pieces := Text.segmentsOf '?' sql
  if pieces.length - 1 = values.length then .ok (.text "(" :: woven pieces values ++ [.text ")"])
  else
    .error (.invalidDocument ("raw fragment has " ++ toString (pieces.length - 1)
      ++ " placeholders but " ++ toString values.length ++ " bindings"))

mutual

/-- A condition as SQL. -/
def predicate (scope : ColumnScope) : Predicate → Except DatabaseError (List Fragment)
  | .compare column operator value => .ok (compare (scope.column column) operator value)
  | .oneOf column values negated => .ok (oneOf (scope.column column) values negated)
  | .between column low high negated =>
    .ok [.text (scope.column column ++ " " ++ negation negated ++ "BETWEEN "), .value low,
      .text " AND ", .value high]
  | .isNull column negated =>
    .ok [.text (scope.column column ++ " IS " ++ negation negated ++ "NULL")]
  | .like column pattern =>
    .ok [.text ("LOWER(" ++ scope.column column ++ ") LIKE LOWER("), .value (.string pattern),
      .text ")"]
  | .group [] => .ok [.text "1 = 1"]
  | .group (first :: rest) => do
    let inner ← clauses scope true (first :: rest)
    return .text "(" :: inner ++ [.text ")"]
  | .raw sql values => raw sql values

/-- Clauses as SQL; the connective of the first one is not written. -/
def clauses (scope : ColumnScope) (isFirst : Bool) :
    List (Connective × Predicate) → Except DatabaseError (List Fragment)
  | [] => .ok []
  | (connective, condition) :: rest => do
    let first ← predicate scope condition
    let others ← clauses scope false rest
    let joint := if isFirst then [] else [Fragment.text (" " ++ connective.sql ++ " ")]
    return joint ++ first ++ others

end

end Condition

/-- The `WHERE` part of a statement, nothing without clauses. -/
def whereFragments (scope : ColumnScope) (clauses : List Clause) :
    Except DatabaseError (List Fragment) :=
  if clauses.isEmpty then .ok []
  else (Condition.clauses scope true clauses).map (.text " WHERE " :: ·)

end Polystore.Sql
