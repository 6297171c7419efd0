/-
**Where dialects of SQL differ: quoting, placeholders, names of types, literals and the catalogue.**

A quoted name doubles the quote character inside, so reading it back gives the name; a dotted name is
quoted segment by segment, with a bare `*` left as it is.
-/

import Polystore.Blueprint
import Polystore.Sql.Statement

namespace Polystore

/-- The dialects of SQL. -/
inductive SqlDialect where
  | sqlite
  | postgres
  | mySql
  deriving DecidableEq, Repr

namespace SqlDialect

def name : SqlDialect → String
  | sqlite => "Sqlite"
  | postgres => "Postgres"
  | mySql => "MySql"

/-- The dialect used when none is named. -/
def standard : SqlDialect := sqlite

/-- The character around quoted names: a grave accent or a double quote. -/
def quoteMark : SqlDialect → Char
  | mySql => '\x60'
  | sqlite | postgres => '"'

/-- A name in quotes. -/
def quotedChars (mark : Char) (text : List Char) : List Char :=
  mark :: Text.doubled mark text ++ [mark]

/-- A name quoted as one segment, even if there are dots in it. -/
def quoteWhole (dialect : SqlDialect) (name : String) : String :=
  String.ofList (quotedChars dialect.quoteMark name.toList)

/-- One segment of a name: a star stays bare. -/
def quoteSegment (dialect : SqlDialect) (segment : String) : String :=
  if segment = "*" then "*" else dialect.quoteWhole segment

/-- A dotted name, quoted segment by segment. -/
def quote (dialect : SqlDialect) (name : String) : String :=
  Text.joined "." ((Text.segmentsOf '.' name).map dialect.quoteSegment)

/-- The place of the value with the given number, counted from one. -/
def placeholder : SqlDialect → Nat → String
  | postgres, number => "$" ++ toString number
  | sqlite, _ | mySql, _ => "?"

/-- The name of a column type. -/
def columnType : SqlDialect → ColumnType → String
  | _, .uuid => "VARCHAR(36)"
  | _, .string length => "VARCHAR(" ++ toString length ++ ")"
  | _, .text => "TEXT"
  | mySql, .integer => "INT"
  | _, .integer => "INTEGER"
  | _, .bigInteger => "BIGINT"
  | sqlite, .float => "REAL"
  | postgres, .float => "DOUBLE PRECISION"
  | mySql, .float => "DOUBLE"
  | mySql, .boolean => "TINYINT(1)"
  | _, .boolean => "BOOLEAN"
  | sqlite, .json => "TEXT"
  | postgres, .json => "JSONB"
  | mySql, .json => "JSON"
  | _, .timestamp => "TIMESTAMP"
  | postgres, .binary => "BYTEA"
  | _, .binary => "BLOB"

/-- Whether a column can be changed in place. -/
def supportsChangeColumn : SqlDialect → Bool
  | sqlite => false
  | postgres | mySql => true

/-- The limit that stands for none where an offset needs one. -/
def unboundedLimit : SqlDialect → Option String
  | sqlite => some "-1"
  | mySql => some "18446744073709551615"
  | postgres => none

/-- The words that empty a table. -/
def truncateWords : SqlDialect → String
  | sqlite => "DELETE FROM"
  | postgres | mySql => "TRUNCATE TABLE"

/-- A text in single quotes. -/
def quotedLiteral (text : String) : String :=
  String.ofList (quotedChars '\'' text.toList)

/-- A value written into the text of a statement, for defaults of columns. -/
def literal (dialect : SqlDialect) : Value → String
  | .null | .undefined => "NULL"
  | .boolean flag =>
    match dialect with
    | postgres => if flag then "TRUE" else "FALSE"
    | sqlite | mySql => if flag then "1" else "0"
  | .int32 number => toString number.toInt
  | .int64 number => toString number.toInt
  | .double number => Layout.plain.text number
  | .string text => quotedLiteral text
  | other => quotedLiteral other.display

/-- The statement made of pieces. -/
def statement (dialect : SqlDialect) (pieces : List Fragment) : Statement :=
  ⟨Fragment.render dialect.placeholder 0 pieces, Fragment.values pieces⟩

/-- The condition that keeps to the schema in use. -/
def schemaCondition : SqlDialect → String
  | mySql => "table_schema = DATABASE()"
  | sqlite | postgres => "table_schema = current_schema()"

/-- The names of the tables. -/
def listTables : SqlDialect → Statement
  | sqlite =>
    .plain "SELECT name FROM sqlite_master WHERE type = 'table' AND name NOT LIKE 'sqlite_%' ORDER BY name"
  | dialect =>
    .plain ("SELECT table_name AS name FROM information_schema.tables WHERE "
      ++ dialect.schemaCondition ++ " ORDER BY table_name")

/-- One row if the table exists. -/
def tableExists (dialect : SqlDialect) (table : String) : Statement :=
  dialect.statement <|
    match dialect with
    | sqlite =>
      [.text "SELECT name FROM sqlite_master WHERE type = 'table' AND name = ", .value (.string table)]
    | _ =>
      [.text ("SELECT table_name AS name FROM information_schema.tables WHERE "
        ++ dialect.schemaCondition ++ " AND table_name = "), .value (.string table)]

/-- The names of the columns of a table, in their order. -/
def tableColumns (dialect : SqlDialect) (table : String) : Statement :=
  dialect.statement <|
    match dialect with
    | sqlite =>
      [.text "SELECT name FROM pragma_table_info(", .value (.string table), .text ") ORDER BY cid"]
    | _ =>
      [.text ("SELECT column_name AS name FROM information_schema.columns WHERE "
        ++ dialect.schemaCondition ++ " AND table_name = "), .value (.string table),
        .text " ORDER BY ordinal_position"]

end SqlDialect

end Polystore
