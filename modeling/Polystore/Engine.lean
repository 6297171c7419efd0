/-
**What both kinds of stores offer to the layers above: an `Engine` runs queries as programs on its
driver.**

Reads treat an identifier that the store cannot read as one that names no row; writes fail on it.
-/

import Polystore.Program
import Polystore.Query.Basic

namespace Polystore

/-- The two kinds of stores. -/
inductive StoreKind where
  | relational
  | document
  deriving DecidableEq, Repr

namespace StoreKind

def name : StoreKind → String
  | relational => "relational"
  | document => "document"

end StoreKind

/-- What a write did. -/
structure WriteOutcome where
  /-- Rows inserted, updated or deleted. -/
  affected : Nat
  /-- The inserted rows, each with its identifier. -/
  inserted : List Document
  deriving Repr

namespace WriteOutcome

def nothing : WriteOutcome := ⟨0, []⟩

/-- A write that inserted no rows. -/
def count (affected : Nat) : WriteOutcome := ⟨affected, []⟩

end WriteOutcome

/-- Runs queries on the driver of one store, through a connection or one of its transactions. -/
structure Engine (interface : Interface) where
  kind : StoreKind
  /-- The rows of a query. -/
  select : Scope → Query → Program interface (List Document)
  /-- How many rows a query has without its window. -/
  count : Scope → Query → Program interface Nat
  /-- Does what the query says is to be written. -/
  execute : Scope → Query → Program interface WriteOutcome
  /-- Removes all rows of a table. -/
  truncate : Scope → String → Program interface Unit
  /-- Opens a transaction and tells its number. -/
  begin : Scope → Program interface Nat
  /-- Ends the transaction with the given number and keeps its writes. -/
  commit : Nat → Program interface Unit
  /-- Ends the transaction with the given number and discards its writes. -/
  rollback : Nat → Program interface Unit

/-- The cause of executing a query that writes nothing. -/
def DatabaseError.nothingToExecute : DatabaseError :=
  .unsupported "execute called without a write payload"

end Polystore
