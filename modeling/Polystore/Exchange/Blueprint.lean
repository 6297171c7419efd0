/-
**Descriptions of tables as JSON.**

A column is an object, or for the common types the pair of its type and its name.
-/

import Polystore.Blueprint
import Polystore.Exchange.Value

namespace Polystore.Decoder

/-- The column type of a name; a bounded text holds 255 characters unless a length is given. -/
def columnType (length : Option Nat) (json : Json) : Decoder ColumnType := do
  match ← text json with
  | "uuid" => return .uuid
  | "string" => return .string (length.getD 255)
  | "text" => return .text
  | "integer" => return .integer
  | "bigint" => return .bigInteger
  | "float" => return .float
  | "boolean" => return .boolean
  | "json" => return .json
  | "timestamp" => return .timestamp
  | "binary" => return .binary
  | _ => malformed "a column type"

/-- A mark of a column, where it is set. -/
def marked (key : String) (mark : ColumnBlueprint → ColumnBlueprint) (json : Json)
    (column : ColumnBlueprint) : Decoder ColumnBlueprint := do
  return if ← isOn key json then mark column else column

def columnBlueprint : Json → Decoder ColumnBlueprint
  | .array [type, .string name] => do return .plain name (← columnType none type)
  | json => do
    let length ← optional natural "len" json
    let type ← field (columnType length) "type" json
    let plain := ColumnBlueprint.plain (← field text "name" json) type
    let column ← marked "not_null" .required json plain
    let column ← marked "unique" .asUnique json column
    let column ← marked "primary" .asPrimary json column
    match json.member? "default" with
    | some content => return column.withDefault (← value content)
    | none => return column

def indexBlueprint (json : Json) : Decoder IndexBlueprint := do
  return ⟨← optional text "name" json, ← items text "columns" json, ← isOn "unique" json⟩

def tableBlueprint (json : Json) : Decoder TableBlueprint := do
  return ⟨← field text "name" json, ← items columnBlueprint "columns" json,
    ← items indexBlueprint "indexes" json⟩

def alteration : Json → Decoder Alteration
  | .array [.string "add_column", content] => do return .addColumn (← columnBlueprint content)
  | .array [.string "drop_column", name] => do return .dropColumn (← text name)
  | .array [.string "change_column", content] => do return .changeColumn (← columnBlueprint content)
  | .array [.string "rename_column", old, new] => do return .renameColumn (← text old) (← text new)
  | .array [.string "add_index", content] => do return .addIndex (← indexBlueprint content)
  | .array [.string "drop_index", name] => do return .dropIndex (← text name)
  | _ => malformed "a change of a table"

end Polystore.Decoder
