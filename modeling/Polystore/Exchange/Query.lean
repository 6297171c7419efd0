/-
**Queries as JSON.**

A query is read from an object with a member for each of its parts, or from a list of steps by which it
is put together. Written queries name operators and directions as SQL does.
-/

import Polystore.Connection
import Polystore.Exchange.Value
import Polystore.Native.Read
import Polystore.Query.Refinement
import Polystore.Sql.Statement

namespace Polystore

namespace Decoder

def connective (json : Json) : Decoder Connective := do
  match ← text json with
  | "and" => return .and
  | "or" => return .or
  | _ => malformed "a connective"

def operator (json : Json) : Decoder Operator := do checked (Operator.ofText (← text json))

def direction (json : Json) : Decoder Direction := do checked (Direction.ofText (← text json))

/-- A column, with the name to show it under or without. -/
def column : Json → Decoder Column
  | .string name => pure (.named name)
  | .array [.string name, .string shown] => pure ⟨name, some shown⟩
  | .array [.string name, .null] => pure (.named name)
  | _ => malformed "a column"

def joinKind (json : Json) : Decoder JoinKind := do
  match ← text json with
  | "inner" => return .inner
  | "left" => return .left
  | "right" => return .right
  | "full" => return .full
  | "cross" => return .cross
  | _ => malformed "a kind of join"

/-- A join; one of all rows with all rows needs no keys. -/
def join (json : Json) : Decoder Join := do
  let kind ← field joinKind "kind" json
  let table ← field text "table" json
  let localKey ← optional text "local" json
  let foreignKey ← optional text "foreign" json
  let target ← optional text "target" json
  let joined := Join.keyed kind table (localKey.getD "") (foreignKey.getD "")
  return { joined with target := target.getD table }

def relationKind (json : Json) : Decoder RelationKind := do
  match ← text json with
  | "belongs_to" => return .belongsTo
  | "has_many" => return .hasMany
  | _ => malformed "a kind of relationship"

def relationship (json : Json) : Decoder Relationship := do
  let kind ← field relationKind "kind" json
  let localKey ← field text "local" json
  let foreignKey ← field text "foreign" json
  let table ← field text "table" json
  let filter ← optional document "filter" json
  return { kind, localKey, foreignKey, table, filter }

/-- Whether a condition is negated, if that is said. -/
def negated : List Json → Decoder Bool
  | [] | .null :: _ => pure false
  | value :: _ => flag value

/-- The bound values of a raw condition, if there are any. -/
def bound : List Json → Decoder (List Value)
  | [] | .null :: _ => pure []
  | values :: _ => valueList values

mutual

def predicate : Json → Decoder Predicate
  | .array [.string "compare", name, comparison, operand] => do
    let name ← text name
    let comparison ← operator comparison
    return .compare name comparison (← value operand)
  | .array [.string "eq", name, operand] => do return .equal (← text name) (← value operand)
  | .array (.string "in" :: name :: operands :: rest) => do
    return .oneOf (← text name) (← valueList operands) (← negated rest)
  | .array (.string "between" :: name :: low :: high :: rest) => do
    return .between (← text name) (← value low) (← value high) (← negated rest)
  | .array (.string "null" :: name :: rest) => do return .isNull (← text name) (← negated rest)
  | .array [.string "like", name, pattern] => do return .like (← text name) (← text pattern)
  | .array [.string "group", .array inner] => do return .group (← clauses inner)
  | .array (.string "raw" :: sql :: rest) => do return .raw (← text sql) (← bound rest)
  | _ => malformed "a condition"

/-- Conditions with the connectives that join them. -/
def clauses : List Json → Decoder (List (Connective × Predicate))
  | [] => pure []
  | .array [joint, condition] :: rest => do
    let joint ← connective joint
    let first ← predicate condition
    let others ← clauses rest
    return (joint, first) :: others
  | _ => malformed "a clause"

end

def clauseList (json : Json) : Decoder (List Clause) := do clauses (← list json)

def order (json : Json) : Decoder Order := do
  let (name, wanted) ← pair json
  return ⟨← text name, ← direction wanted⟩

def load (json : Json) : Decoder Load := do
  let (name, related) ← pair json
  return ⟨← text name, ← relationship related⟩

def mutation (json : Json) : Decoder Mutation := do
  match json, json.field? "insert", json.field? "update" with
  | .string "delete", _, _ => return .delete
  | .string "select", _, _ => return .select
  | _, some rows, _ => return .insert (← documents rows)
  | _, none, some fields => return .update (← document fields)
  | _, none, none => malformed "what to write"

/-- The table of a query; a name to show it under binds the empty name if there is none. -/
def tableRef (json : Json) : Decoder (Option TableRef) := do
  match ← optional text "table" json, ← optional text "alias" json with
  | some name, shown => return some ⟨name, shown⟩
  | none, some shown => return some ⟨"", some shown⟩
  | none, none => return none

/-- A query given by its parts. -/
def wholeQuery (json : Json) : Decoder Query := do
  let table ← tableRef json
  let columns ← items column "columns" json
  let distinct ← items text "distinct" json
  let clauses := (← optional clauseList "wheres" json).getD []
  let joins ← items join "joins" json
  let groups ← items text "groups" json
  let orders ← items order "orders" json
  let offset ← optional natural "offset" json
  let limit ← optional natural "limit" json
  let loads ← items load "with" json
  let mutation := (← optional mutation "mutation" json).getD .select
  return { table, columns, distinct, clauses, joins, groups, orders, offset, limit, loads, mutation }

/-- The step of a comparison. -/
def comparison (joint : Connective) (name sign operand : Json) : Decoder Refinement := do
  let name ← text name
  let sign ← operator sign
  return .clause joint (.compare name sign (← value operand))

/-- The step of a join by keys. -/
def keyedJoin (kind : JoinKind) (table localKey foreignKey : Json) : Decoder Refinement := do
  return .join (.keyed kind (← text table) (← text localKey) (← text foreignKey))

/-- A step that adds a condition. -/
def conditionStep (step : String) (arguments : List Json) : Decoder Refinement :=
  match step, arguments with
  | "where", [name, sign, operand] => comparison .and name sign operand
  | "or_where", [name, sign, operand] => comparison .or name sign operand
  | "where_eq", [name, operand] => do
    return .clause .and (.equal (← text name) (← value operand))
  | "where_in", [name, operands] => do
    return .clause .and (.oneOf (← text name) (← valueList operands) false)
  | "where_not_in", [name, operands] => do
    return .clause .and (.oneOf (← text name) (← valueList operands) true)
  | "where_between", [name, low, high] => do
    return .clause .and (.between (← text name) (← value low) (← value high) false)
  | "where_null", [name] => do return .clause .and (.isNull (← text name) false)
  | "where_not_null", [name] => do return .clause .and (.isNull (← text name) true)
  | "where_like", [name, pattern] => do return .clause .and (.like (← text name) (← text pattern))
  | "where_raw", sql :: rest => do return .clause .and (.raw (← text sql) (← bound rest))
  | _, _ => malformed "a step of a query"

/-- A step that adds a join. -/
def joinStep (step : String) (arguments : List Json) : Decoder Refinement :=
  match step, arguments with
  | "join", [kind, table, localKey, foreignKey] => do
    keyedJoin (← joinKind kind) table localKey foreignKey
  | "inner_join", [table, localKey, foreignKey] => keyedJoin .inner table localKey foreignKey
  | "left_join", [table, localKey, foreignKey] => keyedJoin .left table localKey foreignKey
  | "right_join", [table, localKey, foreignKey] => keyedJoin .right table localKey foreignKey
  | "full_join", [table, localKey, foreignKey] => keyedJoin .full table localKey foreignKey
  | "cross_join", [table] => do return .join (.cross (← text table))
  | "join_clause", [clause] => do return .join (← join clause)
  | step, arguments => conditionStep step arguments

/-- A step without further steps inside. -/
def flatStep (step : String) (arguments : List Json) : Decoder Refinement :=
  match step, arguments with
  | "table", [name] => do return .table (← text name)
  | "alias", [name] => do return .shownAs (← text name)
  | "select", [columns] => do return .select (← listOf column columns)
  | "distinct", [names] => do return .distinct (← texts names)
  | "group_by", [names] => do return .groupBy (← texts names)
  | "order_by", [name, wanted] => do return .orderBy (← text name) (← direction wanted)
  | "limit", [count] => do return .limit (← natural count)
  | "offset", [count] => do return .offset (← natural count)
  | "with", [name, related] => do return .load (← text name) (← relationship related)
  | step, arguments => joinStep step arguments

/-- The steps by which a query is put together. -/
def refinements : List Json → Decoder (List Refinement)
  | [] => pure []
  | .array [.string "where_group", joint, .array inner] :: rest => do
    let joint ← connective joint
    let first := Refinement.clauseGroup joint (← refinements inner)
    let others ← refinements rest
    return first :: others
  | .array (.string step :: arguments) :: rest => do
    let first ← flatStep step arguments
    let others ← refinements rest
    return first :: others
  | _ => malformed "a step of a query"

def refinementList (json : Json) : Decoder (List Refinement) := do refinements (← list json)

/-- A query: given by its parts, or by a table and steps. -/
def query (json : Json) : Decoder Query := do
  match json.field? "expr" with
  | some whole => wholeQuery whole
  | none =>
    let base :=
      match ← optional text "table" json with
      | some name => Query.ofTable name
      | none => Query.unbound
    return base.refineAll ((← optional refinementList "build" json).getD [])

def search (json : Json) : Decoder Search := do
  let filter := (← optional document "filter" json).getD []
  let partly ← isOn "partial" json
  let fuzzy ← isOn "fuzzy" json
  let orders ← items order "order" json
  let limit ← optional natural "limit" json
  let skip ← optional natural "skip" json
  return { filter, partly, fuzzy, orders, limit, skip }

def pageRequest (json : Json) : Decoder PageRequest := do
  match ← optional natural "page" json with
  | some page =>
    return ⟨page, (← optional natural "per_page" json).getD PageRequest.standard.perPage⟩
  | none => return .standard

/-- A read of a document store, all parts of which may be missing. -/
def nativeRead (json : Json) : Decoder Native.Read := do
  let filter := (← optional document "filter" json).getD []
  let sort ← optional document "sort" json
  let projection ← optional document "projection" json
  let skip ← optional natural "skip" json
  let limit ← optional natural "limit" json
  return { filter, sort, projection, skip, limit }

end Decoder

/-- A bound value with its kind. -/
def BindingKind.tagged (value : Value) : Json := .array [.string (of value).name, value.tagged]

/-- Bound values with their kinds. -/
def BindingKind.taggedAll (values : List Value) : Json := .array (values.map tagged)

def Statement.toJson (statement : Statement) : Json :=
  .object [("sql", .string statement.sql), ("bindings", BindingKind.taggedAll statement.bindings)]

def Native.Read.toJson (read : Native.Read) : Json :=
  .object [("filter", read.filter.tagged), ("sort", .ofOption Document.tagged read.sort),
    ("projection", .ofOption Document.tagged read.projection), ("skip", .ofOption .ofCount read.skip),
    ("limit", .ofOption .ofCount read.limit)]

mutual

def Predicate.toJson : Predicate → Json
  | .compare column operator value =>
    .array [.string "compare", .string column, .string operator.sql, value.tagged]
  | .oneOf column values negated =>
    .array [.string "in", .string column, .array (values.map Value.tagged), .boolean negated]
  | .between column low high negated =>
    .array [.string "between", .string column, low.tagged, high.tagged, .boolean negated]
  | .isNull column negated => .array [.string "null", .string column, .boolean negated]
  | .like column pattern => .ofTexts ["like", column, pattern]
  | .group clauses => .array [.string "group", .array (Predicate.clausesToJson clauses)]
  | .raw sql values => .array [.string "raw", .string sql, BindingKind.taggedAll values]

/-- Clauses as pairs of a connective and a condition. -/
def Predicate.clausesToJson : List (Connective × Predicate) → List Json
  | [] => []
  | (connective, predicate) :: rest =>
    .array [.string connective.sql, predicate.toJson] :: Predicate.clausesToJson rest

end

def RelationKind.text : RelationKind → String
  | belongsTo => "belongs_to"
  | hasMany => "has_many"

def Load.toJson (load : Load) : Json :=
  let relationship := load.relationship
  .array [.string load.name, .string relationship.kind.text, .string relationship.localKey,
    .string relationship.foreignKey, .string relationship.table,
    .ofOption Document.tagged relationship.filter]

def Mutation.toJson : Mutation → Json
  | select => .string "select"
  | insert documents => .single "insert" (Document.taggedAll documents)
  | update values => .single "update" values.tagged
  | delete => .string "delete"

def Join.toJson (join : Join) : Json :=
  .array [.string join.kind.sql, .string join.table, .string join.localKey, .string join.foreignKey,
    .string join.target, .boolean join.kind.keepsUnmatchedBase, .boolean join.kind.keepsUnmatchedJoined]

def Order.toJson (order : Order) : Json :=
  .array [.string order.column, .string order.direction.sql,
    .integer order.direction.native.toInt]

def Query.toJson (query : Query) : Json :=
  let table (table : TableRef) : Json := .array [.string table.name, .ofOption .string table.shownAs]
  let column (column : Column) : Json :=
    .array [.string column.name, .ofOption .string column.shownAs, .string column.outputName]
  .object [("table", .ofOption table query.table), ("columns", .array (query.columns.map column)),
    ("distinct", .ofTexts query.distinct), ("wheres", .array (Predicate.clausesToJson query.clauses)),
    ("joins", .array (query.joins.map Join.toJson)), ("groups", .ofTexts query.groups),
    ("orders", .array (query.orders.map Order.toJson)), ("offset", .ofOption .ofCount query.offset),
    ("limit", .ofOption .ofCount query.limit), ("with", .array (query.loads.map Load.toJson)),
    ("mutation", query.mutation.toJson)]

/-- A page with its rows in a given form. -/
def Page.toJson {α : Type} (encode : List α → Json) (page : Page α) : Json :=
  .object [("items", encode page.items), ("count", .ofCount page.count),
    ("next", .ofOption .ofCount page.next), ("previous", .ofOption .ofCount page.previous)]

end Polystore
