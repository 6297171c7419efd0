/-
**What can be asked of a connection, and what it replies, as JSON.**

A `Request` is one operation with all that it needs; `Request.run` carries it out and gives a `Reply`.
-/

import Polystore.Exchange.Blueprint
import Polystore.Exchange.Error
import Polystore.Exchange.Query
import Polystore.Schema
import Polystore.Script

namespace Polystore

/-- An operation on a connection. -/
inductive Request where
  | get (query : Query)
  | first (query : Query)
  | count (query : Query)
  | hasRows (query : Query)
  | findById (query : Query) (identifier : String)
  | findOne (query : Query) (search : Search)
  | findMany (query : Query) (search : Search)
  | insertOne (query : Query) (document : Document)
  | insertMany (query : Query) (documents : List Document)
  | updateMany (query : Query) (documents : List Document)
  | deleteMany (query : Query) (documents : List Document)
  | update (query : Query) (values : Document)
  | delete (query : Query)
  | truncate (query : Query)
  | belongsTo (query : Query) (document : Document) (localKey foreignKey : String)
  | hasMany (query : Query) (document : Document) (localKey foreignKey : String)
  | paginate (query : Query) (request : PageRequest)
  /-- The rows of a query without its relationships. -/
  | select (query : Query)
  /-- The count of a query that may have no table. -/
  | countRows (query : Query)
  /-- What the query itself says is to be written. -/
  | execute (query : Query)
  | truncateTable (name : String)
  | storeKind
  | resolve (relationship : Relationship) (document : Document)
  | relatedRow (relationship : Relationship) (document : Document)
  | relatedRows (relationship : Relationship) (document : Document)

/-- An operation on the tables of a store. -/
inductive SchemaRequest where
  | create (blueprint : TableBlueprint)
  | drop (name : String)
  | contains (name : String)
  | alter (name : String) (alterations : List Alteration)
  | names
  | dropAll

/-- What an operation gives. -/
inductive Reply where
  | nothing
  | rows (rows : List Document)
  | row (row : Option Document)
  | number (count : Nat)
  | flag (holds : Bool)
  | names (names : List String)
  | value (value : Value)
  | page (page : Page Document)
  | outcome (outcome : WriteOutcome)
  | collections (collections : List (String × List Document))

namespace Request

variable {interface : Interface}

/-- Carries out an operation. -/
def run (connection : Connection interface) : Request → Program interface Reply
  | get query => do return .rows (← connection.get query)
  | first query => do return .row (← connection.first? query)
  | count query => do return .number (← connection.count query)
  | hasRows query => do return .flag (← connection.hasRows query)
  | findById query identifier => do return .row (← connection.findById query identifier)
  | findOne query options => do return .row (← connection.findOne query options)
  | findMany query options => do return .rows (← connection.findMany query options)
  | insertOne query document => do return .row (some (← connection.insertOne query document))
  | insertMany query documents => do return .rows (← connection.insertMany query documents)
  | updateMany query documents => do return .number (← connection.updateMany query documents)
  | deleteMany query documents => do return .number (← connection.deleteMany query documents)
  | update query values => do return .number (← connection.update query values)
  | delete query => do return .number (← connection.delete query)
  | truncate query => do
    connection.truncate query
    return .nothing
  | belongsTo query document localKey foreignKey => do
    return .row (← connection.belongsTo query document localKey foreignKey)
  | hasMany query document localKey foreignKey => do
    return .rows (← connection.hasMany query document localKey foreignKey)
  | paginate query request => do return .page (← connection.paginate query request)
  | select query => do return .rows (← connection.engine.select connection.scope query)
  | countRows query => do return .number (← connection.engine.count connection.scope query)
  | execute query => do return .outcome (← connection.engine.execute connection.scope query)
  | truncateTable name => do
    connection.engine.truncate connection.scope name
    return .nothing
  | storeKind => .done (.names [connection.engine.kind.name, connection.engine.kind.name])
  | resolve relationship document => do
    return .value (← relationship.resolve connection.engine connection.scope document)
  | relatedRow relationship document => do
    return .row (← relationship.first? connection.engine connection.scope document)
  | relatedRows relationship document => do
    return .rows (← relationship.rows connection.engine connection.scope document)

end Request

/-- Carries out an operation on tables. -/
def SchemaRequest.run {interface : Interface} (schema : Schema interface) :
    SchemaRequest → Program interface Reply
  | create blueprint => do
    schema.create blueprint
    return .nothing
  | drop name => do
    schema.drop name
    return .nothing
  | contains name => do return .flag (← schema.contains name)
  | alter name alterations => do
    schema.alter name alterations
    return .nothing
  | names => do return .names (← schema.names)
  | dropAll => do
    schema.dropAll
    return .nothing

namespace Decoder

/-- The document and the keys of a search for related rows. -/
def relatedBy (json : Json) : Decoder (Document × String × String) := do
  return (← field document "document" json, ← field text "local" json, ← field text "foreign" json)

/-- The options of a search. -/
def searchOptions (json : Json) : Decoder Search :=
  search ((json.field? "options").getD .null)

/-- An operation on the rows of a query, if the name is one of those. -/
def queryRequest (name : String) (json : Json) : Decoder (Option Request) := do
  match name with
  | "get" => return some (.get (← query json))
  | "first" => return some (.first (← query json))
  | "count" => return some (.count (← query json))
  | "exists" => return some (.hasRows (← query json))
  | "find_by_id" =>
    return some (.findById (← query json) (← resolved (← field text "id" json)))
  | "find_one" => return some (.findOne (← query json) (← searchOptions json))
  | "find_many" => return some (.findMany (← query json) (← searchOptions json))
  | "insert_one" => return some (.insertOne (← query json) (← field document "document" json))
  | "insert_many" => return some (.insertMany (← query json) (← field documents "documents" json))
  | "update_one" => return some (.updateMany (← query json) [← field document "document" json])
  | "update_many" => return some (.updateMany (← query json) (← field documents "documents" json))
  | "delete_one" => return some (.deleteMany (← query json) [← field document "document" json])
  | "delete_many" => return some (.deleteMany (← query json) (← field documents "documents" json))
  | "update" => return some (.update (← query json) (← field document "document" json))
  | "delete" => return some (.delete (← query json))
  | "truncate" => return some (.truncate (← query json))
  | "belongs_to" =>
    let wanted ← query json
    let (row, localKey, foreignKey) ← relatedBy json
    return some (.belongsTo wanted row localKey foreignKey)
  | "has_many" =>
    let wanted ← query json
    let (row, localKey, foreignKey) ← relatedBy json
    return some (.hasMany wanted row localKey foreignKey)
  | "paginate" => return some (.paginate (← query json) (← pageRequest json))
  | _ => return none

/-- An operation of the engine or on relationships, if the name is one of those. -/
def engineRequest (name : String) (json : Json) : Decoder (Option Request) := do
  match name with
  | "x_select" => return some (.select (← query json))
  | "x_count" => return some (.countRows (← query json))
  | "x_execute" => return some (.execute (← query json))
  | "x_truncate" => return some (.truncateTable (← field text "table" json))
  | "x_backend" => return some .storeKind
  | "r_resolve" =>
    return some (.resolve (← field relationship "rel" json) (← field document "document" json))
  | "r_belongs_to" =>
    return some (.relatedRow (← field relationship "rel" json) (← field document "document" json))
  | "r_has_many" =>
    return some (.relatedRows (← field relationship "rel" json) (← field document "document" json))
  | _ => return none

/-- An operation on tables, if the name is one of those. -/
def schemaRequest (name : String) (json : Json) : Decoder (Option SchemaRequest) := do
  match name with
  | "s_create_table" => return some (.create (← field tableBlueprint "blueprint" json))
  | "s_create_collection" => return some (.create (.bare (← field text "name" json)))
  | "s_drop_table" | "s_drop_collection" => return some (.drop (← field text "name" json))
  | "s_table_exists" | "s_collection_exists" => return some (.contains (← field text "name" json))
  | "s_alter_table" =>
    return some (.alter (← field text "name" json) (← items alteration "ops" json))
  | "s_list_tables" => return some .names
  | "s_drop_all_tables" | "s_drop_all_collections" => return some .dropAll
  | _ => return none

/-- A prepared reply of a scripted driver. -/
def scriptReply (json : Json) : Decoder ScriptReply := do
  let failure ← optional databaseError "error" json
  let rows := (← optional documents "rows" json).getD []
  let number ← optional natural "n" json
  let names ← items text "names" json
  return { failure, rows, number, names }

end Decoder

def WriteOutcome.toJson (outcome : WriteOutcome) : Json :=
  .object [("affected", .ofCount outcome.affected), ("inserted", Document.taggedAll outcome.inserted)]

def Reply.toJson : Reply → Json
  | nothing => .null
  | rows documents => Document.taggedAll documents
  | row document => .ofOption Document.tagged document
  | number count => .ofCount count
  | flag holds => .boolean holds
  | names texts => .ofTexts texts
  | value content => content.tagged
  | page content => content.toJson Document.taggedAll
  | outcome content => content.toJson
  | collections content =>
    .array (content.map fun (name, documents) => .array [.string name, Document.taggedAll documents])

/-- A call of a document driver with what it was given. -/
def Native.Call.toJson : Native.Call → Json
  | find collection read => .array [.string "find", .string collection, read.toJson]
  | count collection filter => .array [.string "count", .string collection, filter.tagged]
  | insert collection documents =>
    .array [.string "insert_many", .string collection, Document.taggedAll documents]
  | update collection filter set =>
    .array [.string "update_many", .string collection, filter.tagged, set.tagged]
  | delete collection filter => .array [.string "delete_many", .string collection, filter.tagged]
  | createCollection name => .ofTexts ["create_collection", name]
  | dropCollection name => .ofTexts ["drop_collection", name]
  | listCollections => .ofTexts ["list_collections"]
  | begin => .ofTexts ["begin"]
  | commit => .ofTexts ["commit"]
  | rollback => .ofTexts ["rollback"]

/-- A call of an SQL driver with what it was given. -/
def Sql.Call.toJson : Sql.Call → Json
  | query statement =>
    .array [.string "query", .string statement.sql, BindingKind.taggedAll statement.bindings]
  | execute statement =>
    .array [.string "execute", .string statement.sql, BindingKind.taggedAll statement.bindings]
  | begin => .ofTexts ["begin"]
  | commit => .ofTexts ["commit"]
  | rollback => .ofTexts ["rollback"]

end Polystore
