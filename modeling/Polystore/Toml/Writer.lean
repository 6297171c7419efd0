/-
**Writing TOML documents.**

The values of a table come first, then its tables, each under a header with its whole path and an empty
line before it. A table that has nothing but tables inside needs no header of its own. An array of
several items has a line for each.
-/

import Polystore.Toml.Basic
import Polystore.Toml.Quoted

namespace Polystore.Toml

/-- A key as it is written. -/
def keyText (key : String) : String := String.ofList (writtenKey key.toList)

/-- The items of an array between brackets: on one line, unless there are several. -/
def writtenArray (items : List String) : String :=
  match items with
  | [] => "[]"
  | [only] => "[" ++ only ++ "]"
  | items => "[\n" ++ String.join (items.map fun item => "    " ++ item ++ ",\n") ++ "]"

mutual

/-- A value on the right of an assignment. -/
def written : Toml → String
  | .string text => String.ofList (writtenString text.toList)
  | .integer number => toString number
  | .float text => text
  | .boolean flag => if flag then "true" else "false"
  | .dateTime text => text
  | .array items => writtenArray (writtenItems items)
  | .tables _ | .table _ _ => "\x7b\x7d"

/-- The items of an array. -/
def writtenItems : List Toml → List String
  | [] => []
  | item :: rest => written item :: writtenItems rest

end

/-- Whether a value stands under a header. -/
def isTable : Toml → Bool
  | .table _ _ => true
  | _ => false

/-- The assignments of a table. -/
def writtenAssignments : TomlTable → String
  | [] => ""
  | (key, value) :: rest =>
    (if isTable value then "" else keyText key ++ " = " ++ written value ++ "\n")
      ++ writtenAssignments rest

/-- The header of a table, if it needs one. -/
def writtenHeader (path : String) (entries : TomlTable) : String :=
  if !entries.isEmpty && entries.all (isTable ·.2) then "" else "\n[" ++ path ++ "]\n"

mutual

/-- A table under its path. -/
def writtenTable (path : String) : Toml → String
  | .table _ entries =>
    writtenHeader path entries ++ writtenAssignments entries ++ writtenTables (path ++ ".") entries
  | _ => ""

/-- The tables among the entries of a table whose path is `above`. -/
def writtenTables (above : String) : List (String × Toml) → String
  | [] => ""
  | (key, value) :: rest => writtenTable (above ++ keyText key) value ++ writtenTables above rest

end

/-- The text of a document. -/
def writtenDocument (entries : TomlTable) : String :=
  writtenAssignments entries ++ writtenTables "" entries

end Polystore.Toml
