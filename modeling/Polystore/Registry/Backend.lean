/-
**From settings to drivers.**

A `DriverTable` knows a factory for every driver name. A factory turns settings into a `Backend`, which
opens a `Client` each time it is asked to.
-/

import Polystore.Config.Basic
import Polystore.Memory.Server
import Polystore.Sql.Dialect
import Polystore.Text.Escaped

namespace Polystore

/-- A driver that was opened. A store in memory lives in its client; an SQL database lives elsewhere. -/
inductive NativeClient where
  | sql (dialect : SqlDialect)
  | document (server : Memory.Server)

/-- The kind of store that a client talks to. -/
def NativeClient.kind : NativeClient → StoreKind
  | sql _ => .relational
  | document _ => .document

/-- An opened driver and what closing it comes to. -/
structure Client where
  native : NativeClient
  closing : Except DatabaseError Unit

/-- How a connection is opened. -/
structure Backend where
  kind : StoreKind
  /-- The description of what opens the connection. -/
  builder : String
  opening : Except DatabaseError Client

namespace Backend

/-- The description of a backend. -/
def describe (backend : Backend) : String :=
  (match backend.kind with
    | .relational => "Relational"
    | .document => "Document")
    ++ "(" ++ backend.builder ++ ")"

/-- Where SQLite keeps a database that is not in a file. -/
def inMemoryPath : String := ":memory:"

/-- The beginning of the addresses of SQLite files. -/
def sqliteScheme : String := "sqlite://"

/-- The path of an address of an SQLite file. -/
def sqliteUrlPath? (url : String) : Option String :=
  (Text.dropLeading sqliteScheme.toList url.toList).map String.ofList

/-- The file of an SQLite connection: its path, else the one in its address, else its database. -/
def sqlitePath (config : ConnectionConfig) : String :=
  ((config.path.or (config.url.bind sqliteUrlPath?)).or config.database).getD inMemoryPath

/-- An SQLite database. -/
def sqlite (config : ConnectionConfig) : Backend where
  kind := .relational
  builder :=
    "SqliteDriverBuilder \x7b path: Some(" ++ Text.quoted (sqlitePath config) ++ ") \x7d"
  opening := .ok ⟨.sql .sqlite, .ok ()⟩

/-- A store in memory, empty each time it is opened. -/
def memory : Backend where
  kind := .document
  builder := "MemoryDriverBuilder"
  opening := .ok ⟨.document .empty, .ok ()⟩

end Backend

/-- Turns settings into a backend. -/
abbrev DriverFactory := ConnectionConfig → Except DatabaseError Backend

/-- The factories of drivers by name. -/
abbrev DriverTable := NameTable DriverFactory

namespace DriverTable

/-- The table that knows no driver. -/
def empty : DriverTable := []

/-- The table with a factory for one more driver, in the place of one of the same name. -/
def register (name : String) (factory : DriverFactory) (table : DriverTable) : DriverTable :=
  NameTable.put name factory table

/-- The drivers that are always there. -/
def standard : DriverTable :=
  (register "memory" fun _ => .ok Backend.memory) <|
    register "sqlite" (fun config => .ok (Backend.sqlite config)) empty

def knows (table : DriverTable) (name : String) : Bool := (NameTable.get? name table).isSome

/-- The backend of a connection. -/
def backend (table : DriverTable) (config : ConnectionConfig) : Except DatabaseError Backend :=
  match NameTable.get? config.driver table with
  | some factory => factory config
  | none => .error (.unknownDriver config.driver)

/-- The description of a table: the names of its drivers. -/
def describe (table : DriverTable) : String :=
  "DriverTable \x7b drivers: " ++ Text.quotedList (NameTable.names table) ++ " \x7d"

end DriverTable

end Polystore
