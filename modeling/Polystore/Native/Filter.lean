/-
**Conditions as filter documents.**

`AND` binds tighter than `OR`: `runs` cuts a list of clauses before every `OR`, the conditions of a
run are joined by `$and` and the runs by `$or`. The connective of the first clause says nothing. The
column `id` means `_id`, and what it is compared with has to be an identifier.
-/

import Polystore.Identifier.Basic
import Polystore.Native.Pattern

namespace Polystore.Native

/-- The stored field of a column. -/
def field (column : String) : String :=
  if column = idField then ObjectIdentifier.nativeField else column

/-- A value as it is compared with a column. -/
def operand (column : String) (value : Value) : Except DatabaseError Value :=
  if column = idField && !value.isNull then ObjectIdentifier.nativeValue value else .ok value

/-- The values of a list as they are compared with a column. -/
def operands (column : String) : List Value → Except DatabaseError (List Value)
  | [] => .ok []
  | value :: rest => do
    let first ← operand column value
    let others ← operands column rest
    return first :: others

/-- The maximal lists of neighbours joined by `AND`. -/
def runs {α : Type} : List (Connective × α) → List (List α)
  | [] => []
  | (_, item) :: rest =>
    match rest, runs rest with
    | (.and, _) :: _, first :: others => (item :: first) :: others
    | _, others => [item] :: others

/-- The filter that a document has to pass all of. -/
def conjunction : List Document → Document
  | [only] => only
  | filters => [("$and", .array (filters.map .document))]

/-- The filter that a document has to pass one of; the empty one if there is none. -/
def disjunction : List Document → Document
  | [] => []
  | [only] => only
  | filters => [("$or", .array (filters.map .document))]

/-- The filter of conditions joined by connectives. -/
def combined (conditions : List (Connective × Document)) : Document :=
  disjunction ((runs conditions).map conjunction)

/-- A filter on one column. -/
def onColumn (column : String) (operators : Document) : Document :=
  [(field column, .document operators)]

/-- The filter of the values between two bounds, or outside of them. -/
def between (column : String) (low high : Value) (negated : Bool) : Document :=
  if negated then
    [("$or", .array
      [.document (onColumn column [("$lt", low)]), .document (onColumn column [("$gt", high)])])]
  else onColumn column [("$gte", low), ("$lte", high)]

mutual

/-- The filter of a condition. -/
def condition : Predicate → Except DatabaseError Document
  | .compare column operator value => do
    let value ← operand column value
    return onColumn column [(operator.native, value)]
  | .oneOf column values negated => do
    let values ← operands column values
    return onColumn column [(if negated then "$nin" else "$in", .array values)]
  | .between column low high negated => do
    let low ← operand column low
    let high ← operand column high
    return between column low high negated
  | .isNull column negated => .ok (onColumn column [(if negated then "$ne" else "$eq", .null)])
  | .like column pattern =>
    .ok (onColumn column [("$regex", .string (likePattern pattern)), ("$options", .string "i")])
  | .group clauses => (conditions clauses).map combined
  | .raw sql _ =>
    .error (.unsupported ("raw SQL fragment '" ++ sql ++ "' on a document connection"))

/-- The filters of clauses beside their connectives. -/
def conditions :
    List (Connective × Predicate) → Except DatabaseError (List (Connective × Document))
  | [] => .ok []
  | (connective, predicate) :: rest => do
    let first ← condition predicate
    let others ← conditions rest
    return (connective, first) :: others

end

/-- The filter of a list of clauses. -/
def filter (clauses : List Clause) : Except DatabaseError Document := (conditions clauses).map combined

end Polystore.Native
