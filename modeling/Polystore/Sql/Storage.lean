/-
**Values in the five storage classes of SQLite.**

Kinds that have no class of their own become text: instants in a form that sorts as they do, nested
values as JSON, and the rest as in messages. Reading maps a class to the closest kind and never tries
to find the kind that was written.

A result row comes in columns of the same classes. The text of a column comes as bytes, which need not
be UTF-8; everything else is read.
-/

import Polystore.Value.Display
import Polystore.Value.Extended

namespace Polystore

/-- The UTF-8 bytes of a text. -/
def Text.bytes (text : String) : List UInt8 := text.toUTF8.data.toList

namespace Sql

/-- A value in one of the storage classes. -/
inductive StoredValue where
  | null
  | integer (number : Int64)
  | real (number : Binary64)
  | text (text : String)
  | blob (bytes : List UInt8)
  deriving DecidableEq, Repr

namespace StoredValue

/-- The value as it is stored. -/
def ofValue : Value → StoredValue
  | .null | .undefined => null
  | .boolean flag => integer (if flag then 1 else 0)
  | .int32 number => integer number.toInt64
  | .int64 number => integer number
  | .double number => real number
  | .string content | .symbol content => text content
  | .objectId identifier => text identifier.hex
  | .dateTime millis => text (Calendar.stored millis.toInt)
  | .binary _ bytes => blob bytes
  | .array items => text (Value.array items).relaxed.render
  | .document fields => text (Value.document fields).relaxed.render
  | other => text other.display

/-- The value that a stored one is read as. -/
def value : StoredValue → Value
  | null => .null
  | integer number => .int64 number
  | real number => .double number
  | text content => .string content
  | blob bytes => .binary 0 bytes

/-- The text of a column, whose bytes have to be UTF-8. -/
def ofTextBytes (bytes : List UInt8) : Except DatabaseError StoredValue :=
  match String.fromUTF8? bytes.toByteArray with
  | some content => .ok (text content)
  | none => .error (.serialization "invalid utf-8 in a text column")

end StoredValue

/-- A column of a result row. -/
inductive StoredColumn where
  | null
  | integer (number : Int64)
  | real (number : Binary64)
  | text (bytes : List UInt8)
  | blob (bytes : List UInt8)
  deriving DecidableEq, Repr

/-- The column in which a stored value comes back. -/
def StoredValue.column : StoredValue → StoredColumn
  | null => .null
  | integer number => .integer number
  | real number => .real number
  | text content => .text (Text.bytes content)
  | blob bytes => .blob bytes

namespace StoredColumn

/-- The stored value of a column, whose text has to be UTF-8. -/
def stored : StoredColumn → Except DatabaseError StoredValue
  | null => .ok .null
  | integer number => .ok (.integer number)
  | real number => .ok (.real number)
  | text bytes => StoredValue.ofTextBytes bytes
  | blob bytes => .ok (.blob bytes)

/-- What a column is read as. -/
def read (column : StoredColumn) : Except DatabaseError Value := column.stored.map StoredValue.value

end StoredColumn

/-- The row behind what was read of it: its columns one after the other, each under its name. -/
def readRow (written : Document) : List (String × StoredColumn) → Except DatabaseError Document
  | [] => .ok written
  | (name, column) :: rest => do
    let value ← column.read
    readRow (Document.insert name value written) rest

/-- The columns that the defined fields of a document are saved in. -/
def savedRow (document : Document) : List (String × StoredColumn) :=
  (Document.withoutUndefined document).map fun field => (field.1, (StoredValue.ofValue field.2).column)

end Sql

end Polystore
