/-
**Work on one connection.**

A `Connection` carries queries out: it checks documents before they are written, gives rows their
relationships, counts and pages. Every operation first asks for the table of its query.

`Connection.transaction` runs a program on a connection that is bound to a transaction. It keeps the
writes if the program succeeds; if it fails they are discarded and its failure is passed on, whatever
becomes of the rollback.
-/

import Polystore.Page
import Polystore.Query.Refinement
import Polystore.Relationship
import Polystore.Validation

namespace Polystore

/-- An engine with the scope of its calls and the checks made before writes. -/
structure Connection (interface : Interface) where
  engine : Engine interface
  scope : Scope
  validator : Validator

/-- Conditions, order and window of a search. -/
structure Search where
  /-- Fields and the values that they have to equal. -/
  filter : Document
  /-- Whether texts match every value that contains them. -/
  partly : Bool
  /-- Whether texts match every value that contains their characters in order. -/
  fuzzy : Bool
  orders : List Order
  limit : Option Nat
  skip : Option Nat
  deriving Repr

namespace Search

/-- The condition on one field of the filter. -/
def predicate (search : Search) (column : String) : Value → Predicate
  | .string text =>
    if search.fuzzy then .like column (Predicate.subsequencePattern text)
    else if search.partly then .like column (Predicate.containsPattern text)
    else .equal column (.string text)
  | value => .equal column value

/-- The steps that add the search to a query. -/
def refinements (search : Search) : List Refinement :=
  search.filter.map (fun (column, value) => .clause .and (search.predicate column value))
    ++ search.orders.map (fun order => .orderBy order.column order.direction)
    ++ search.limit.toList.map .limit ++ search.skip.toList.map .offset

end Search

/-- The cause of an insertion of one document that was left out. -/
def DatabaseError.notInserted : DatabaseError :=
  .invalidDocument "document failed validation and was not inserted"

namespace Connection

variable {interface : Interface} {α : Type}

/-- A row with the rows related to it, each load seeing what the ones before it added. -/
def loadInto (connection : Connection interface) : List Load → Document →
    Program interface Document
  | [], row => .done row
  | load :: rest, row => do
    let related ← load.relationship.resolve connection.engine connection.scope row
    connection.loadInto rest (Document.insert load.name related row)

/-- Rows with the rows related to each of them. -/
def loadAll (connection : Connection interface) (loads : List Load) :
    List Document → Program interface (List Document)
  | [] => .done []
  | row :: rest => do
    let first ← connection.loadInto loads row
    let others ← connection.loadAll loads rest
    return first :: others

/-- The rows of a query with their relationships. -/
def get (connection : Connection interface) (query : Query) : Program interface (List Document) := do
  let _ ← Program.ofExcept query.requireTable
  let rows ← connection.engine.select connection.scope query
  if query.loads.isEmpty then return rows else connection.loadAll query.loads rows

/-- The first row of a query. -/
def first? (connection : Connection interface) (query : Query) : Program interface (Option Document) := do
  return (← connection.get (query.withLimit 1)).head?

/-- How many rows a query has without its window. -/
def count (connection : Connection interface) (query : Query) : Program interface Nat := do
  let _ ← Program.ofExcept query.requireTable
  connection.engine.count connection.scope query

/-- Whether a query has rows. -/
def hasRows (connection : Connection interface) (query : Query) : Program interface Bool := do
  return 0 < (← connection.count query)

/-- The row of a query with the given identifier. -/
def findById (connection : Connection interface) (query : Query) (identifier : String) :
    Program interface (Option Document) :=
  connection.first? (query.addClause .and (.equal idField (.string identifier)))

/-- The first row that a search finds. -/
def findOne (connection : Connection interface) (query : Query) (search : Search) :
    Program interface (Option Document) :=
  connection.first? (query.refineAll search.refinements)

/-- The rows that a search finds. -/
def findMany (connection : Connection interface) (query : Query) (search : Search) :
    Program interface (List Document) :=
  connection.get (query.refineAll search.refinements)

/-- Does what a query says is to be written. -/
def execute (connection : Connection interface) (query : Query) (mutation : Mutation) :
    Program interface WriteOutcome :=
  connection.engine.execute connection.scope { query with mutation }

/-- Inserts documents, none of which may have an identifier, and gives them back with theirs. -/
def insertMany (connection : Connection interface) (query : Query) (documents : List Document) :
    Program interface (List Document) := do
  let _ ← Program.ofExcept query.requireTable
  let accepted ← Program.ofExcept (connection.validator.requireIdentifiers false documents)
  if !accepted || documents.isEmpty then return []
  return (← connection.execute query (.insert documents)).inserted

/-- Inserts a document and gives it back with its identifier. -/
def insertOne (connection : Connection interface) (query : Query) (document : Document) :
    Program interface Document := do
  match (← connection.insertMany query [document]).head? with
  | some inserted => return inserted
  | none => .fail .notInserted

/-- Updates the rows with the identifiers of documents by their other fields, one by one. -/
def updateEach (connection : Connection interface) (query : Query) :
    List Document → Program interface Nat
  | [] => .done 0
  | document :: rest => do
    let identifier := (Document.get? idField document).getD .null
    let outcome ← connection.execute (query.narrowed (.equal idField identifier))
      (.update (Document.withoutId document))
    let others ← connection.updateEach query rest
    return outcome.affected + others

/-- Updates rows by documents, all of which have to have an identifier. -/
def updateMany (connection : Connection interface) (query : Query) (documents : List Document) :
    Program interface Nat := do
  let _ ← Program.ofExcept query.requireTable
  let accepted ← Program.ofExcept (connection.validator.requireIdentifiers true documents)
  if accepted then connection.updateEach query documents else return 0

/-- Deletes the rows with the identifiers of documents, all of which have to have one. -/
def deleteMany (connection : Connection interface) (query : Query) (documents : List Document) :
    Program interface Nat := do
  let _ ← Program.ofExcept query.requireTable
  let accepted ← Program.ofExcept (connection.validator.requireIdentifiers true documents)
  if !accepted || documents.isEmpty then return 0
  let identifiers := documents.filterMap (Document.get? idField)
  return (← connection.execute (query.narrowed (.oneOf idField identifiers false)) .delete).affected

/-- Sets fields of all rows of a query. -/
def update (connection : Connection interface) (query : Query) (values : Document) :
    Program interface Nat := do
  let _ ← Program.ofExcept query.requireTable
  return (← connection.execute query (.update values)).affected

/-- Deletes all rows of a query. -/
def delete (connection : Connection interface) (query : Query) : Program interface Nat := do
  let _ ← Program.ofExcept query.requireTable
  return (← connection.execute query .delete).affected

/-- Removes all rows of the table of a query. -/
def truncate (connection : Connection interface) (query : Query) : Program interface Unit := do
  connection.engine.truncate connection.scope (← Program.ofExcept query.requireTable)

/-- The row of the table of a query whose key is the one that a document holds. -/
def belongsTo (connection : Connection interface) (query : Query) (document : Document)
    (localKey foreignKey : String) : Program interface (Option Document) := do
  let table ← Program.ofExcept query.requireTable
  (Relationship.belongsTo localKey foreignKey table).first? connection.engine connection.scope document

/-- The rows of the table of a query that hold the key of a document. -/
def hasMany (connection : Connection interface) (query : Query) (document : Document)
    (localKey foreignKey : String) : Program interface (List Document) := do
  let table ← Program.ofExcept query.requireTable
  (Relationship.hasMany localKey foreignKey table).rows connection.engine connection.scope document

/-- One page of the rows of a query, and how many there are in all. -/
def paginate (connection : Connection interface) (query : Query) (request : PageRequest) :
    Program interface (Page Document) := do
  let total ← connection.count query
  let items ← connection.get ((query.withOffset request.offset).withLimit request.perPage)
  Program.ofExcept (Page.ofTotal items total request)

/-- Opens a transaction and tells its number. -/
def begin (connection : Connection interface) : Program interface Nat :=
  connection.engine.begin connection.scope

/-- The connection bound to a transaction. -/
def within (connection : Connection interface) (number : Nat) : Connection interface :=
  { connection with scope := .transaction number }

/-- Ends a transaction as the work done in it ended. -/
def finish (connection : Connection interface) (number : Nat) :
    Except DatabaseError α → Program interface α
  | .ok value => do
    connection.engine.commit number
    return value
  | .error error => do
    let _ ← (connection.engine.rollback number).attempt
    .fail error

/-- Runs a program in a transaction. -/
def transaction (connection : Connection interface)
    (body : Connection interface → Program interface α) : Program interface α := do
  let number ← connection.begin
  let result ← (body (connection.within number)).attempt
  connection.finish number result

end Connection

end Polystore
