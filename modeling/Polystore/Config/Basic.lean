/-
**Configuration of connections.**

It holds the settings of each connection by its name, the connection that is used when none is named,
and the connections that are opened at the start.
-/

import Polystore.Error
import Polystore.NameTable

namespace Polystore

/-- The settings of one connection. Which of them matter depends on the driver. -/
structure ConnectionConfig where
  driver : String
  url : Option String
  database : Option String
  path : Option String
  /-- Settings that only the driver knows. -/
  options : NameTable String
  deriving DecidableEq, Repr

namespace ConnectionConfig

/-- Settings that name nothing but the driver. -/
def ofDriver (driver : String) : ConnectionConfig := ⟨driver, none, none, none, []⟩

/-- An SQLite database in a file. -/
def sqlite (path : String) : ConnectionConfig := { ofDriver "sqlite" with path := some path }

/-- A store in memory. -/
def memory : ConnectionConfig := ofDriver "memory"

/-- A MongoDB database. -/
def mongo (url database : String) : ConnectionConfig :=
  { ofDriver "mongodb" with url := some url, database := some database }

end ConnectionConfig

/-- The settings of all connections. -/
structure DatabaseConfig where
  /-- The connection used when none is named. -/
  default : String
  /-- Connections that are opened at the start, after the default one. -/
  keepAlive : List String
  connections : NameTable ConnectionConfig
  deriving DecidableEq, Repr

namespace DatabaseConfig

/-- The name of the default connection when the configuration gives none. -/
def standardName : String := "default"

/-- A configuration without connections. -/
def ofDefault (name : String) : DatabaseConfig := ⟨name, [], []⟩

/-- The configuration with one more connection, in the place of one of the same name. -/
def withConnection (name : String) (connection : ConnectionConfig) (config : DatabaseConfig) :
    DatabaseConfig :=
  { config with connections := NameTable.put name connection config.connections }

/-- The configuration with one more connection to open at the start. -/
def withKeepAlive (name : String) (config : DatabaseConfig) : DatabaseConfig :=
  { config with keepAlive := config.keepAlive ++ [name] }

/-- Checks that the connections to open are configured and that all drivers are known. -/
def validate (knows : String → Bool) (config : DatabaseConfig) : Except DatabaseError Unit :=
  match (config.default :: config.keepAlive).find? fun name =>
      (NameTable.get? name config.connections).isNone with
  | some name => .error (.unknownConnection name)
  | none =>
    match config.connections.find? fun entry => !knows entry.2.driver with
    | some entry => .error (.unknownDriver entry.2.driver)
    | none => .ok ()

/-- The cause of reading a file that does not exist. -/
def missingFile (path : String) : DatabaseError :=
  .configuration ("reading " ++ path ++ ": No such file or directory (os error 2)")

end DatabaseConfig

end Polystore
