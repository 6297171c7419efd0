/-
**Queries on document stores.**

A query becomes a read of its collection. What the store cannot do is done afterwards: joins, one
lookup each, then grouping, selection of columns, and the window. Documents are written with their
identifier under `_id` and shown with it under `id`.
-/

import Polystore.Native.Join
import Polystore.Native.Read
import Polystore.Relationship

namespace Polystore.Native

/-- The calls of document drivers. -/
inductive Call where
  | find (collection : String) (read : Read)
  | count (collection : String) (filter : Document)
  | insert (collection : String) (documents : List Document)
  | update (collection : String) (filter set : Document)
  | delete (collection : String) (filter : Document)
  | createCollection (name : String)
  | dropCollection (name : String)
  | listCollections
  | begin
  | commit
  | rollback
  deriving Repr

/-- Document drivers: reads give stored documents, writes the number of documents they touched, and a
new transaction its number. -/
def interface : Interface where
  Call := Call
  Reply
    | .find _ _ => List Document
    | .count _ _ | .update _ _ _ | .delete _ _ => Nat
    | .insert _ _ | .createCollection _ | .dropCollection _ => Unit
    | .listCollections => List String
    | .begin => Nat
    | .commit | .rollback => Unit

/-- The documents that a read finds, as rows. -/
def findRows (scope : Scope) (collection : String) (read : Read) : Program interface (List Document) := do
  let documents : List Document ← .ask interface scope (Call.find collection read)
  return documents.map ObjectIdentifier.canonicalDocument

/-- The keys of base rows, each once. Keys that name no identifier match nothing where identifiers
are joined. -/
def lookupKeys (join : Join) (known : List Value) : List Document → List Value
  | [] => known
  | row :: rest =>
    match localKey? join row with
    | none => lookupKeys join known rest
    | some key =>
      let unreadable :=
        join.foreignKey == idField
          && (match ObjectIdentifier.nativeValue key with | .ok _ => false | .error _ => true)
      if unreadable || known.any (·.equals key) then lookupKeys join known rest
      else lookupKeys join (known ++ [key]) rest

/-- The query for the rows that can take part in a join, if any can. Inner and left joins only need
rows with the key of a base row. -/
def joinQuery? (join : Join) (rows : List Document) : Option Query :=
  match join.kind with
  | .inner | .left =>
    let keys := lookupKeys join [] rows
    if keys.isEmpty then none else some (keyLookup join.table join.foreignKey keys)
  | .right | .full | .cross => some (Query.ofTable join.table)

/-- Fetches the rows that can take part in a join. -/
def lookupJoined (scope : Scope) (join : Join) (rows : List Document) :
    Program interface (List Document) :=
  match joinQuery? join rows with
  | none => .done []
  | some query => do
    let read ← Program.ofExcept (read query)
    findRows scope join.table read

/-- Applies joins one after the other. -/
def applyJoins (scope : Scope) : List Join → List Document → Program interface (List Document)
  | [], rows => .done rows
  | join :: rest, rows => do
    let joined ← lookupJoined scope join rows
    applyJoins scope rest (joinRows join rows joined)

/-- Groups rows: the first row of each group stays. -/
def grouped (query : Query) (rows : List Document) : List Document :=
  if query.groups.isEmpty then rows else firstPerKey query.groups rows

/-- Reduces rows to what is selected, without repetitions where distinct columns are. -/
def selected (query : Query) (rows : List Document) : List Document :=
  if !query.distinct.isEmpty then
    firstPerKey query.distinct (selectColumns (query.distinct.map Column.named) [] rows)
  else if !query.columns.isEmpty then
    selectColumns query.columns (query.joins.map (·.target)) rows
  else rows

/-- Cuts the window out of rows that the store did not cut. -/
def windowed (query : Query) (rows : List Document) : List Document :=
  if query.isPostProcessed then
    let remaining := rows.drop (query.offset.getD 0)
    match query.limit with
    | some limit => remaining.take limit
    | none => remaining
  else rows

/-- The rows of a query. -/
def selectRows (scope : Scope) (query : Query) : Program interface (List Document) := do
  let table ← Program.ofExcept query.requireTable
  let read ← Program.ofExcept (read query)
  let found ← findRows scope table read
  let joined ← applyJoins scope query.joins found
  return windowed query (selected query (grouped query joined))

/-- How many rows a query has. -/
def countRows (scope : Scope) (query : Query) : Program interface Nat := do
  let table ← Program.ofExcept query.requireTable
  if query.isPostProcessed then
    return (← selectRows scope query.forCount).length
  else
    let filter ← Program.ofExcept (filter query.clauses)
    .ask interface scope (Call.count table filter)

/-- Documents as they are stored, with an identifier for those without one. -/
def nativeDocuments : List Document → Program interface (List Document)
  | [] => .done []
  | document :: rest => do
    let payload := Document.withoutUndefined document
    let native ←
      if Document.hasId payload then Program.ofExcept (ObjectIdentifier.nativeDocument payload)
      else do
        let bits ← Program.fresh
        pure (ObjectIdentifier.identified (ObjectId.ofDraw bits) payload)
    let others ← nativeDocuments rest
    return native :: others

/-- Inserts documents in one call. -/
def insertRows (scope : Scope) (table : String) (documents : List Document) :
    Program interface WriteOutcome := do
  let natives ← nativeDocuments documents
  let _ ← Program.ask interface scope (Call.insert table natives)
  return ⟨natives.length, natives.map ObjectIdentifier.canonicalDocument⟩

/-- Statements that change documents take no joins. -/
def rejectJoins (query : Query) (statement : String) : Except DatabaseError Unit :=
  if query.hasJoins then
    .error (.unsupported ("joins in a " ++ statement ++ " on a document connection"))
  else .ok ()

/-- Sets fields of the documents of a query; without fields to set nothing is sent. -/
def updateRows (scope : Scope) (table : String) (query : Query) (values : Document) :
    Program interface WriteOutcome := do
  Program.ofExcept (rejectJoins query "update")
  let filter ← Program.ofExcept (filter query.clauses)
  let set := Document.withoutUndefined (Document.withoutId values)
  if set.isEmpty then return .nothing
  let affected : Nat ← .ask interface scope (Call.update table filter set)
  return .count affected

/-- Deletes the documents of a query. -/
def deleteRows (scope : Scope) (table : String) (query : Query) : Program interface WriteOutcome := do
  Program.ofExcept (rejectJoins query "delete")
  let filter ← Program.ofExcept (filter query.clauses)
  let affected : Nat ← .ask interface scope (Call.delete table filter)
  return .count affected

/-- Does what the query says is to be written. -/
def executeQuery (scope : Scope) (query : Query) : Program interface WriteOutcome := do
  let table ← Program.ofExcept query.requireTable
  match query.mutation with
  | .insert documents => insertRows scope table documents
  | .update values => updateRows scope table query values
  | .delete => deleteRows scope table query
  | .select => .fail .nothingToExecute

/-- The engine for document stores. -/
def engine : Engine interface where
  kind := .document
  select scope query := (selectRows scope query).orIfInvalidIdentifier []
  count scope query := (countRows scope query).orIfInvalidIdentifier 0
  execute := executeQuery
  truncate scope table := do
    let _ ← Program.ask interface scope (Call.delete table [])
  begin scope := .ask interface scope Call.begin
  commit number := .ask interface (.transaction number) Call.commit
  rollback number := .ask interface (.transaction number) Call.rollback

end Polystore.Native
