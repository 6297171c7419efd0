/-
**Values of TOML documents.**

A table remembers how it came about, because that decides what may be added to it later:
`TableOrigin.canReopen` and `TableOrigin.canExtend` state the two rules.
-/

namespace Polystore

/-- How a table of a document came about. -/
inductive TableOrigin where
  /-- By the header of a table inside of it. -/
  | implicit
  /-- By a header of its own. -/
  | header
  /-- By a dotted key. -/
  | dotted
  /-- By a table in braces, which is complete. -/
  | inline
  deriving DecidableEq, Repr

/-- A value of a document. -/
inductive Toml where
  | string (text : String)
  | integer (number : Int)
  /-- A number with a fraction or an exponent, as it is written. -/
  | float (text : String)
  | boolean (flag : Bool)
  /-- A date, a time, or both, as it is written. -/
  | dateTime (text : String)
  | array (items : List Toml)
  /-- Tables that were added one by one under the same header. -/
  | tables (items : List (List (String × Toml)))
  | table (origin : TableOrigin) (entries : List (String × Toml))
  deriving Repr, Inhabited

/-- The entries of a table in order. -/
abbrev TomlTable := List (String × Toml)

namespace TomlTable

/-- The value under a key. -/
def get? (key : String) : TomlTable → Option Toml
  | [] => none
  | (name, value) :: rest => if name = key then some value else get? key rest

/-- Writes a value in the place of its key, or at the end. -/
def put (key : String) (value : Toml) : TomlTable → TomlTable
  | [] => [(key, value)]
  | (name, old) :: rest =>
    if name = key then (name, value) :: rest else (name, old) :: put key value rest

end TomlTable

namespace TableOrigin

/-- Whether a header may be written for a table that is there already. -/
def canReopen : TableOrigin → Bool
  | implicit => true
  | _ => false

/-- Whether a dotted key may add to a table. -/
def canExtend : TableOrigin → Bool
  | implicit | dotted => true
  | header | inline => false

/-- Whether tables may be added inside by headers. -/
def isOpen : TableOrigin → Bool
  | inline => false
  | _ => true

end TableOrigin

end Polystore
