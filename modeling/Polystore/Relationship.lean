/-
**Related rows.**

A relationship is resolved by one query on the related table, through the engine of the query that
the row came from. Without a key there is nothing to ask for.
-/

import Polystore.Engine

namespace Polystore

namespace Relationship

/-- The row holds the key of the related one. -/
def belongsTo (localKey foreignKey table : String) : Relationship :=
  ⟨.belongsTo, localKey, foreignKey, table, none⟩

/-- The related rows hold the key of the row. -/
def hasMany (localKey foreignKey table : String) : Relationship :=
  ⟨.hasMany, localKey, foreignKey, table, none⟩

end Relationship

/-- The rows of a table whose key is one of `keys`: an equality for a single key. -/
def keyLookup (table foreignKey : String) (keys : List Value) : Query :=
  (Query.ofTable table).addClause .and <|
    match keys with
    | [key] => .equal foreignKey key
    | keys => .oneOf foreignKey keys false

namespace Relationship

/-- The equalities of a filter as further clauses. -/
def withFilter (filter : Document) (query : Query) : Query :=
  filter.foldl (fun query (field, value) => query.addClause .and (.equal field value)) query

/-- The query for the related rows, if the row has a key. -/
def query? (relationship : Relationship) (row : Document) : Option Query :=
  (Document.present? relationship.localKey row).map fun key =>
    let found :=
      withFilter (relationship.filter.getD []) (keyLookup relationship.table relationship.foreignKey [key])
    match relationship.kind with
    | .belongsTo => { found with limit := some 1 }
    | .hasMany => found

variable {interface : Interface}

/-- All related rows. -/
def rows (relationship : Relationship) (engine : Engine interface) (scope : Scope) (row : Document) :
    Program interface (List Document) :=
  match relationship.query? row with
  | some query => engine.select scope query
  | none => .done []

/-- The first related row. -/
def first? (relationship : Relationship) (engine : Engine interface) (scope : Scope) (row : Document) :
    Program interface (Option Document) := do
  return (← relationship.rows engine scope row).head?

/-- The related rows as a value: a row or null, or an array of rows. -/
def resolve (relationship : Relationship) (engine : Engine interface) (scope : Scope) (row : Document) :
    Program interface Value :=
  match relationship.kind with
  | .belongsTo => do
    match ← relationship.first? engine scope row with
    | some related => return .document related
    | none => return .null
  | .hasMany => do return .array ((← relationship.rows engine scope row).map .document)

end Relationship

end Polystore
