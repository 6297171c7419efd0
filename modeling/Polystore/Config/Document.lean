/-
**Configuration as TOML documents.**

`DatabaseConfig.toText` writes a configuration, `DatabaseConfig.ofText` reads one. Entries that mean
nothing are passed over; the driver of a connection has to be there, and every setting has to be a
text. A connection may also be written as the list of its settings in order.
-/

import Polystore.Config.Basic
import Polystore.Toml.Reader
import Polystore.Toml.Writer

namespace Polystore

namespace Toml

/-- The text of a string. -/
def text? : Toml → Option String
  | string text => some text
  | _ => none

/-- The texts of an array of strings. -/
def texts? : Toml → Option (List String)
  | array items => items.mapM text?
  | _ => none

/-- The texts of a table of strings, by key. -/
def textTable? : Toml → Option (NameTable String)
  | table _ entries =>
    (entries.mapM fun (entry : String × Toml) =>
      (text? entry.2).map fun text => (entry.1, text)).map NameTable.ofList
  | _ => none

/-- Reads what may be missing: nothing if it is, and a fault if it has the wrong form. -/
def optional? {α : Type} (read : Toml → Option α) : Option Toml → Option (Option α)
  | none => some none
  | some value => (read value).map some

end Toml

namespace ConnectionConfig

/-- Settings read one by one. -/
def ofSettings? (driver url database path options : Option Toml) : Option ConnectionConfig := do
  let driver ← driver.bind Toml.text?
  let url ← Toml.optional? Toml.text? url
  let database ← Toml.optional? Toml.text? database
  let path ← Toml.optional? Toml.text? path
  let options ← Toml.optional? Toml.textTable? options
  return { driver, url, database, path, options := options.getD [] }

/-- The settings that a value holds. -/
def ofToml? : Toml → Option ConnectionConfig
  | .table _ entries =>
    let setting (name : String) : Option Toml := TomlTable.get? name entries
    ofSettings? (setting "driver") (setting "url") (setting "database") (setting "path")
      (setting "options")
  | .array items => ofSettings? items[0]? items[1]? items[2]? items[3]? items[4]?
  | _ => none

/-- The settings as a table; those that are not given are left out. -/
def toToml (config : ConnectionConfig) : Toml :=
  let setting (name : String) (value : Option String) : TomlTable :=
    value.toList.map fun text => (name, Toml.string text)
  let options :=
    if config.options.isEmpty then []
    else
      [("options",
        Toml.table .header (config.options.map fun (key, text) => (key, Toml.string text)))]
  .table .header
    (("driver", .string config.driver) :: setting "url" config.url ++ setting "database" config.database
      ++ setting "path" config.path ++ options)

end ConnectionConfig

namespace DatabaseConfig

/-- The connections that a value holds. -/
def connectionsOf? : Toml → Option (NameTable ConnectionConfig)
  | .table _ entries =>
    (entries.mapM fun (entry : String × Toml) =>
      (ConnectionConfig.ofToml? entry.2).map fun connection => (entry.1, connection)).map
        NameTable.ofList
  | _ => none

/-- The configuration that a document holds. -/
def ofToml? (entries : TomlTable) : Option DatabaseConfig := do
  let default ← Toml.optional? Toml.text? (TomlTable.get? "default" entries)
  let keepAlive ← Toml.optional? Toml.texts? (TomlTable.get? "keep_alive" entries)
  let connections ← Toml.optional? connectionsOf? (TomlTable.get? "connections" entries)
  return ⟨default.getD standardName, keepAlive.getD [], connections.getD []⟩

/-- The configuration as a document. -/
def toToml (config : DatabaseConfig) : TomlTable :=
  [("default", .string config.default), ("keep_alive", .array (config.keepAlive.map .string)),
    ("connections",
      .table .header (config.connections.map fun (name, connection) => (name, connection.toToml)))]

/-- Reads a configuration. -/
def ofText (text : String) : Except DatabaseError DatabaseConfig :=
  match (Toml.document? text).bind ofToml? with
  | some config => .ok config
  | none => .error (.configuration "malformed document")

/-- Writes a configuration. -/
def toText (config : DatabaseConfig) : String := Toml.writtenDocument config.toToml

/-- Whether the written configuration reads back to itself. -/
def roundTrips (config : DatabaseConfig) : Bool :=
  match ofText config.toText with
  | .ok read => read = config
  | .error _ => false

end DatabaseConfig

end Polystore
