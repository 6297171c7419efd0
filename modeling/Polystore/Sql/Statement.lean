/-
**SQL statements: a text with placeholders and the values bound to them in order.**

A text is first written as `Fragment`s, so that a value is never part of it: `Statement.ofFragments`
joins the pieces and numbers the places of the values.
-/

import Polystore.Value.Display

namespace Polystore

/-- The kind of a bound value. -/
inductive BindingKind where
  | null
  | boolean
  | integer
  | real
  | text
  | blob
  | dateTime
  | json
  deriving DecidableEq, Repr

namespace BindingKind

def name : BindingKind → String
  | null => "Null"
  | boolean => "Boolean"
  | integer => "Integer"
  | real => "Real"
  | text => "Text"
  | blob => "Blob"
  | dateTime => "DateTime"
  | json => "Json"

/-- The kind under which a value is bound. -/
def of : Value → BindingKind
  | .null | .undefined => null
  | .boolean _ => boolean
  | .int32 _ | .int64 _ => integer
  | .double _ | .decimal _ => real
  | .string _ | .objectId _ | .symbol _ => text
  | .binary _ _ => blob
  | .dateTime _ | .timestamp _ _ => dateTime
  | _ => json

/-- The text of a bound value with its kind. -/
def describe (value : Value) : String := (of value).name ++ "(" ++ value.display ++ ")"

end BindingKind

/-- A statement with the values of its placeholders. -/
structure Statement where
  sql : String
  bindings : List Value
  deriving Repr

namespace Statement

/-- A statement without values. -/
def plain (sql : String) : Statement := ⟨sql, []⟩

end Statement

/-- A piece of a statement. -/
inductive Fragment where
  | text (sql : String)
  | value (bound : Value)
  deriving Repr

namespace Fragment

/-- The values among pieces, in order. -/
def values : List Fragment → List Value
  | [] => []
  | text _ :: rest => values rest
  | value bound :: rest => bound :: values rest

/-- The joined pieces, where the value after `count` others stands as `placeholder (count + 1)`. -/
def render (placeholder : Nat → String) : Nat → List Fragment → String
  | _, [] => ""
  | count, text sql :: rest => sql ++ render placeholder count rest
  | count, value _ :: rest => placeholder (count + 1) ++ render placeholder (count + 1) rest

/-- Values with a text between neighbours. -/
def separated (separator : String) : List Value → List Fragment
  | [] => []
  | [only] => [value only]
  | first :: rest => value first :: text separator :: separated separator rest

theorem values_append (first second : List Fragment) :
    values (first ++ second) = values first ++ values second := by
  induction first with
  | nil => rfl
  | cons piece rest hypothesis => cases piece <;> simp [values, hypothesis]

/-- Separated values bind each value once. -/
theorem values_separated (separator : String) (bound : List Value) :
    values (separated separator bound) = bound := by
  fun_induction separated separator bound <;> simp_all [values]

/-- Pieces after others are numbered from the number of the values before them. -/
theorem render_append (placeholder : Nat → String) (count : Nat) (first second : List Fragment) :
    render placeholder count (first ++ second) =
      render placeholder count first ++ render placeholder (count + (values first).length) second := by
  induction first generalizing count with
  | nil => simp [render, values]
  | cons piece rest hypothesis =>
    cases piece with
    | text sql => simp [render, values, hypothesis, String.append_assoc]
    | value bound =>
      simp [render, values, hypothesis, String.append_assoc, Nat.add_assoc, Nat.add_comm 1]

end Fragment

end Polystore
