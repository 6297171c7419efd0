/-
**Reads of document stores: filter, sort, projection and window.**

Projection and window are left to the store only where the rows need no work afterwards.
-/

import Polystore.Native.Filter

namespace Polystore.Native

/-- A read of a collection. -/
structure Read where
  filter : Document
  sort : Option Document
  projection : Option Document
  skip : Option Nat
  limit : Option Nat
  deriving Repr

/-- The sort document of a list of orders. -/
def sort (orders : List Order) : Option Document :=
  if orders.isEmpty then none
  else
    some (Document.ofFields (orders.map fun order => (field order.column, .int32 order.direction.native)))

/-- The projection to selected columns, without the identifier unless it is one of them. -/
def projection (columns : List Column) : Option Document :=
  if columns.isEmpty then none
  else
    let included :=
      Document.ofFields (columns.map fun column => (field column.name, .int32 1))
    some <|
      if Document.contains ObjectIdentifier.nativeField included then included
      else Document.insert ObjectIdentifier.nativeField (.int32 0) included

/-- The read of a query. -/
def read (query : Query) : Except DatabaseError Read := do
  let _ ← query.requireTable
  let filter ← filter query.clauses
  let pushedDown := !query.isPostProcessed
  return {
    filter
    sort := sort query.orders
    projection := if pushedDown then projection query.columns else none
    skip := if pushedDown then query.offset else none
    limit := if pushedDown then query.limit else none }

end Polystore.Native
