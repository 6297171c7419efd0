/-
**The steps by which a query is put together.**

A `Refinement` is one step, `Query.refine` takes it. Steps append to the list they are about, or
overwrite the table, its shown name or the window, so steps of different kinds commute.
-/

import Polystore.Query.Basic

namespace Polystore

/-- One step of putting a query together. -/
inductive Refinement where
  | table (name : String)
  | shownAs (name : String)
  | select (columns : List Column)
  | distinct (columns : List String)
  | clause (connective : Connective) (predicate : Predicate)
  | join (join : Join)
  | groupBy (columns : List String)
  | orderBy (column : String) (direction : Direction)
  | limit (count : Nat)
  | offset (count : Nat)
  | load (name : String) (relationship : Relationship)
  deriving Repr

namespace Query

/-- Binds a table and keeps the name that it is shown as. -/
def bindTable (name : String) (query : Query) : Query :=
  { query with table := some ⟨name, query.table.bind (·.shownAs)⟩ }

/-- Names the table anew; without a table the empty name is bound. -/
def showAs (name : String) (query : Query) : Query :=
  match query.table with
  | some table => { query with table := some { table with shownAs := some name } }
  | none => { query with table := some ⟨"", some name⟩ }

def addOrder (column : String) (direction : Direction) (query : Query) : Query :=
  { query with orders := query.orders ++ [⟨column, direction⟩] }

def withLimit (count : Nat) (query : Query) : Query := { query with limit := some count }

def withOffset (count : Nat) (query : Query) : Query := { query with offset := some count }

/-- The query after one more step. -/
def refine (query : Query) : Refinement → Query
  | .table name => query.bindTable name
  | .shownAs name => query.showAs name
  | .select columns => { query with columns := query.columns ++ columns }
  | .distinct columns => { query with distinct := query.distinct ++ columns }
  | .clause connective predicate => query.addClause connective predicate
  | .join join => { query with joins := query.joins ++ [join] }
  | .groupBy columns => { query with groups := query.groups ++ columns }
  | .orderBy column direction => query.addOrder column direction
  | .limit count => query.withLimit count
  | .offset count => query.withOffset count
  | .load name relationship => { query with loads := query.loads ++ [⟨name, relationship⟩] }

/-- The query after a list of steps. -/
def refineAll (query : Query) (refinements : List Refinement) : Query := refinements.foldl refine query

end Query

/-- The step that adds the clauses of a list of steps as one group. -/
def Refinement.clauseGroup (connective : Connective) (refinements : List Refinement) : Refinement :=
  .clause connective (.group (Query.unbound.refineAll refinements).clauses)

end Polystore
