/-
**Descriptions of tables: columns, indexes and changes to them.**
-/

import Polystore.Value.Basic

namespace Polystore

/-- The type of a column. -/
inductive ColumnType where
  | uuid
  | string (length : Nat)
  | text
  | integer
  | bigInteger
  | float
  | boolean
  | json
  | timestamp
  | binary
  deriving DecidableEq, Repr

/-- A column of a table to be created. -/
structure ColumnBlueprint where
  name : String
  type : ColumnType
  nullable : Bool
  unique : Bool
  primary : Bool
  default : Option Value
  deriving Repr

namespace ColumnBlueprint

/-- A column that may be null and has no further marks. -/
def plain (name : String) (type : ColumnType) : ColumnBlueprint :=
  ⟨name, type, true, false, false, none⟩

def required (column : ColumnBlueprint) : ColumnBlueprint := { column with nullable := false }

def asUnique (column : ColumnBlueprint) : ColumnBlueprint := { column with unique := true }

/-- A primary key is never null. -/
def asPrimary (column : ColumnBlueprint) : ColumnBlueprint :=
  { column with primary := true, nullable := false }

def withDefault (value : Value) (column : ColumnBlueprint) : ColumnBlueprint :=
  { column with default := some value }

/-- The column put in front of tables that declare no key of their own. -/
def identifier : ColumnBlueprint := (plain idField .uuid).asPrimary

end ColumnBlueprint

/-- An index over columns of a table. -/
structure IndexBlueprint where
  name : Option String
  columns : List String
  unique : Bool
  deriving DecidableEq, Repr

/-- The given name of the index, or one made of the table and the columns. -/
def IndexBlueprint.nameOn (table : String) (index : IndexBlueprint) : String :=
  index.name.getD (table ++ "_" ++ Text.joined "_" index.columns ++ "_index")

/-- A table to be created. -/
structure TableBlueprint where
  name : String
  columns : List ColumnBlueprint
  indexes : List IndexBlueprint
  deriving Repr

namespace TableBlueprint

/-- A table without columns of its own. -/
def bare (name : String) : TableBlueprint := ⟨name, [], []⟩

/-- Whether a column is the primary key or bears the name of the identifier. -/
def declaresPrimaryKey (blueprint : TableBlueprint) : Bool :=
  blueprint.columns.any fun column => column.primary || column.name == idField

end TableBlueprint

/-- A change of a table. -/
inductive Alteration where
  | addColumn (column : ColumnBlueprint)
  | dropColumn (name : String)
  | changeColumn (column : ColumnBlueprint)
  | renameColumn (old new : String)
  | addIndex (index : IndexBlueprint)
  | dropIndex (name : String)
  deriving Repr

end Polystore
