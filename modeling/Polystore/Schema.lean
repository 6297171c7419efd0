/-
**What both kinds of stores offer for their tables.**

A `Schema` creates, changes, lists and drops them as programs on its driver. A document store has
collections for tables.
-/

import Polystore.Blueprint
import Polystore.Program

namespace Polystore

/-- Operations on the tables of one store. -/
structure Schema (interface : Interface) where
  create : TableBlueprint → Program interface Unit
  /-- Drops a table if it exists. -/
  drop : String → Program interface Unit
  contains : String → Program interface Bool
  alter : String → List Alteration → Program interface Unit
  names : Program interface (List String)

namespace Schema

variable {interface : Interface}

/-- Drops tables one after the other. -/
def dropEach (schema : Schema interface) : List String → Program interface Unit
  | [] => .done ()
  | name :: rest => do
    schema.drop name
    schema.dropEach rest

/-- Drops every table. -/
def dropAll (schema : Schema interface) : Program interface Unit := do
  schema.dropEach (← schema.names)

end Schema

end Polystore
