/-
**Queries, described without regard to the store that will answer them.**

A `Query` names a table and lists columns, conditions, joins, groupings, orders, a window and what is
to be written. Conditions are clauses in call order; the connective of a clause joins it to the ones
before it. `Query.requireTable` is the one check that every operation begins with.
-/

import Polystore.Error
import Polystore.Text.Blank
import Polystore.Value.Equality

namespace Polystore

/-- A comparison of a column with a value. -/
inductive Operator where
  | equal
  | notEqual
  | greater
  | greaterOrEqual
  | less
  | lessOrEqual
  deriving DecidableEq, Repr

namespace Operator

/-- The operator in SQL. -/
def sql : Operator → String
  | equal => "="
  | notEqual => "<>"
  | greater => ">"
  | greaterOrEqual => ">="
  | less => "<"
  | lessOrEqual => "<="

/-- The operator in filter documents. -/
def native : Operator → String
  | equal => "$eq"
  | notEqual => "$ne"
  | greater => "$gt"
  | greaterOrEqual => "$gte"
  | less => "$lt"
  | lessOrEqual => "$lte"

/-- The operator that a text names, white space around it aside. -/
def ofText (text : String) : Except DatabaseError Operator :=
  match Text.trim text with
  | "=" | "==" => .ok equal
  | "!=" | "<>" => .ok notEqual
  | ">" => .ok greater
  | ">=" => .ok greaterOrEqual
  | "<" => .ok less
  | "<=" => .ok lessOrEqual
  | other => .error (.unsupported ("operator '" ++ other ++ "'"))

end Operator

/-- How a clause joins the clauses before it. -/
inductive Connective where
  | and
  | or
  deriving DecidableEq, Repr

/-- The connective in SQL. -/
def Connective.sql : Connective → String
  | and => "AND"
  | or => "OR"

/-- One condition. -/
inductive Predicate where
  | compare (column : String) (operator : Operator) (value : Value)
  | oneOf (column : String) (values : List Value) (negated : Bool)
  | between (column : String) (low high : Value) (negated : Bool)
  | isNull (column : String) (negated : Bool)
  /-- A pattern with `%` for any run of characters and `_` for any character, ignoring case. -/
  | like (column pattern : String)
  /-- A group of clauses in parentheses. -/
  | group (clauses : List (Connective × Predicate))
  /-- A piece of SQL with `?` for every bound value. -/
  | raw (sql : String) (values : List Value)
  deriving Repr, Inhabited

/-- A condition with the connective that joins it to the ones before it. -/
abbrev Clause := Connective × Predicate

namespace Predicate

def equal (column : String) (value : Value) : Predicate := compare column .equal value

/-- The pattern of the values that contain a text. -/
def containsPattern (needle : String) : String := "%" ++ needle ++ "%"

/-- The pattern of the values that contain the characters of a text in their order. -/
def subsequencePattern (needle : String) : String :=
  String.ofList ('%' :: needle.toList.flatMap fun character => [character, '%'])

mutual

/-- Equality of conditions, with `Value.equals` on values. -/
def equals : Predicate → Predicate → Bool
  | compare leftColumn leftOperator left, compare rightColumn rightOperator right =>
    leftColumn == rightColumn && leftOperator == rightOperator && left.equals right
  | oneOf leftColumn left leftNegated, oneOf rightColumn right rightNegated =>
    leftColumn == rightColumn && Value.equalItems left right && leftNegated == rightNegated
  | between leftColumn leftLow leftHigh leftNegated,
    between rightColumn rightLow rightHigh rightNegated =>
    leftColumn == rightColumn && leftLow.equals rightLow && leftHigh.equals rightHigh
      && leftNegated == rightNegated
  | isNull leftColumn leftNegated, isNull rightColumn rightNegated =>
    leftColumn == rightColumn && leftNegated == rightNegated
  | like leftColumn left, like rightColumn right => leftColumn == rightColumn && left == right
  | group left, group right => equalClauses left right
  | raw leftSql left, raw rightSql right => leftSql == rightSql && Value.equalItems left right
  | _, _ => false

/-- Equality of clauses one by one. -/
def equalClauses : List (Connective × Predicate) → List (Connective × Predicate) → Bool
  | [], [] => true
  | (leftConnective, left) :: lefts, (rightConnective, right) :: rights =>
    leftConnective == rightConnective && left.equals right && equalClauses lefts rights
  | _, _ => false

end

end Predicate

/-- The kinds of joins. -/
inductive JoinKind where
  | inner
  | left
  | right
  | full
  | cross
  deriving DecidableEq, Repr

namespace JoinKind

/-- The join in SQL. -/
def sql : JoinKind → String
  | inner => "INNER JOIN"
  | left => "LEFT JOIN"
  | right => "RIGHT JOIN"
  | full => "FULL OUTER JOIN"
  | cross => "CROSS JOIN"

/-- Whether rows of the base table stay without a match. -/
def keepsUnmatchedBase : JoinKind → Bool
  | left | full => true
  | _ => false

/-- Whether rows of the joined table stay without a match. -/
def keepsUnmatchedJoined : JoinKind → Bool
  | right | full => true
  | _ => false

end JoinKind

/-- A join with another table, whose rows are shown under `target`. -/
structure Join where
  kind : JoinKind
  table : String
  localKey : String
  foreignKey : String
  target : String
  deriving DecidableEq, Repr

namespace Join

/-- A join shown under the name of its table. -/
def keyed (kind : JoinKind) (table localKey foreignKey : String) : Join :=
  ⟨kind, table, localKey, foreignKey, table⟩

/-- Every pairing with the rows of a table. -/
def cross (table : String) : Join := keyed .cross table "" ""

end Join

inductive Direction where
  | ascending
  | descending
  deriving DecidableEq, Repr

namespace Direction

/-- The direction in SQL. -/
def sql : Direction → String
  | ascending => "ASC"
  | descending => "DESC"

/-- The direction in sort documents. -/
def native : Direction → Int32
  | ascending => 1
  | descending => -1

/-- The direction that a text names, whatever the case of its ASCII letters. -/
def ofText (text : String) : Except DatabaseError Direction :=
  match String.ofList (text.toList.map Char.toLower) with
  | "asc" | "ascending" => .ok ascending
  | "desc" | "descending" => .ok descending
  | other => .error (.unsupported ("sort direction '" ++ other ++ "'"))

end Direction

structure Order where
  column : String
  direction : Direction
  deriving DecidableEq, Repr

/-- A selected column and the name to show it under, if that is another one. -/
structure Column where
  name : String
  shownAs : Option String
  deriving DecidableEq, Repr

namespace Column

def named (name : String) : Column := ⟨name, none⟩

/-- The key of the column in the rows of the result. -/
def outputName (column : Column) : String := column.shownAs.getD column.name

end Column

/-- The table of a query and the name it is referred to by, if that is another one. -/
structure TableRef where
  name : String
  shownAs : Option String
  deriving DecidableEq, Repr

inductive RelationKind where
  | belongsTo
  | hasMany
  deriving DecidableEq, Repr

/-- How a row relates to the rows of another table. -/
structure Relationship where
  kind : RelationKind
  /-- The field of the row that holds the key. -/
  localKey : String
  /-- The field of the related rows that is compared with the key. -/
  foreignKey : String
  table : String
  /-- Further fields that the related rows have to equal. -/
  filter : Option Document
  deriving Repr

/-- A relationship shown in every row of a result. -/
structure Load where
  name : String
  relationship : Relationship
  deriving Repr

/-- What a query does with its table. -/
inductive Mutation where
  | select
  | insert (documents : List Document)
  | update (values : Document)
  | delete
  deriving Repr

/-- A query on one table. -/
structure Query where
  table : Option TableRef
  columns : List Column
  distinct : List String
  clauses : List Clause
  joins : List Join
  groups : List String
  orders : List Order
  offset : Option Nat
  limit : Option Nat
  loads : List Load
  mutation : Mutation
  deriving Repr

namespace Query

/-- The query that says nothing. -/
def unbound : Query :=
  { table := none, columns := [], distinct := [], clauses := [], joins := [], groups := []
    orders := [], offset := none, limit := none, loads := [], mutation := .select }

/-- All rows of a table. -/
def ofTable (name : String) : Query := { unbound with table := some ⟨name, none⟩ }

/-- The name of the bound table; an empty name is none. -/
def requireTable (query : Query) : Except DatabaseError String :=
  match query.table with
  | some table => if table.name = "" then .error .missingTable else .ok table.name
  | none => .error .missingTable

def hasJoins (query : Query) : Bool := !query.joins.isEmpty

/-- Whether rows are joined, grouped or freed of repetitions after they were found. -/
def isPostProcessed (query : Query) : Bool :=
  query.hasJoins || !query.groups.isEmpty || !query.distinct.isEmpty

/-- The query with one more clause. -/
def addClause (connective : Connective) (predicate : Predicate) (query : Query) : Query :=
  { query with clauses := query.clauses ++ [(connective, predicate)] }

/-- What remains of the query when only the number of its rows matters. -/
def forCount (query : Query) : Query :=
  { query with
    orders := [], offset := none, limit := none, loads := [], columns := [], mutation := .select }

/-- The query narrowed by one more condition. Its own clauses become a group, so that an `OR` among
them does not reach the condition. -/
def narrowed (predicate : Predicate) (query : Query) : Query :=
  let grouped :=
    if query.clauses.isEmpty then [] else [(Connective.and, Predicate.group query.clauses)]
  { query with clauses := grouped ++ [(.and, predicate)] }

end Query

/-- Equality of optional documents. -/
def Document.equalOptions : Option Document → Option Document → Bool
  | none, none => true
  | some left, some right => left.equals right
  | _, _ => false

/-- Equality of lists, item by item. -/
def equalLists {α : Type} (equals : α → α → Bool) : List α → List α → Bool
  | [], [] => true
  | left :: lefts, right :: rights => equals left right && equalLists equals lefts rights
  | _, _ => false

def Relationship.equals (left right : Relationship) : Bool :=
  left.kind == right.kind && left.localKey == right.localKey && left.foreignKey == right.foreignKey
    && left.table == right.table && Document.equalOptions left.filter right.filter

def Load.equals (left right : Load) : Bool :=
  left.name == right.name && left.relationship.equals right.relationship

def Mutation.equals : Mutation → Mutation → Bool
  | select, select => true
  | insert left, insert right => equalLists Document.equals left right
  | update left, update right => Document.equals left right
  | delete, delete => true
  | _, _ => false

/-- Equality of queries, with `Value.equals` on values. -/
def Query.equals (left right : Query) : Bool :=
  left.table == right.table && left.columns == right.columns && left.distinct == right.distinct
    && Predicate.equalClauses left.clauses right.clauses && left.joins == right.joins
    && left.groups == right.groups && left.orders == right.orders && left.offset == right.offset
    && left.limit == right.limit && equalLists Load.equals left.loads right.loads
    && left.mutation.equals right.mutation

end Polystore
