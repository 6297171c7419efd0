/-
**Configuration as JSON.**
-/

import Polystore.Config.Document
import Polystore.Exchange.Basic

namespace Polystore

namespace Decoder

/-- A setting that only the driver knows. -/
def driverOption (json : Json) : Decoder (String × String) := do
  let (key, content) ← pair json
  return (← text key, ← text content)

def connectionConfig : Json → Decoder ConnectionConfig
  | .array [.string "sqlite", .string path] => pure (.sqlite path)
  | .array [.string "memory"] => pure .memory
  | .array [.string "mongodb", .string url, .string database] => pure (.mongo url database)
  | json => do
    let driver ← field text "driver" json
    let url ← optional text "url" json
    let database ← optional text "database" json
    let path ← optional text "path" json
    let options ← items driverOption "options" json
    return { driver, url, database, path, options := NameTable.ofList options }

def namedConnection (json : Json) : Decoder (String × ConnectionConfig) := do
  let (name, content) ← pair json
  return (← text name, ← connectionConfig content)

/-- A configuration: a TOML document, the path of a file that does not exist, or its parts. -/
def databaseConfig (json : Json) : Decoder DatabaseConfig := do
  match ← optional text "toml" json, ← optional text "path" json with
  | some content, _ => checked (DatabaseConfig.ofText content)
  | none, some path => checked (.error (DatabaseConfig.missingFile path))
  | none, none =>
    let base := DatabaseConfig.ofDefault ((← optional text "default" json).getD DatabaseConfig.standardName)
    let connected := (← items namedConnection "connections" json).foldl
      (fun config (name, connection) => config.withConnection name connection) base
    return (← items text "keep_alive" json).foldl (fun config name => config.withKeepAlive name) connected

end Decoder

def ConnectionConfig.toJson (config : ConnectionConfig) : Json :=
  .object [("driver", .string config.driver), ("url", .ofOption .string config.url),
    ("database", .ofOption .string config.database), ("path", .ofOption .string config.path),
    ("options", .array (config.options.map fun (key, content) => .ofTexts [key, content]))]

def DatabaseConfig.toJson (config : DatabaseConfig) : Json :=
  .object [("default", .string config.default), ("keep_alive", .ofTexts config.keepAlive),
    ("connections",
      .array (config.connections.map fun (name, content) => .array [.string name, content.toJson]))]

end Polystore
