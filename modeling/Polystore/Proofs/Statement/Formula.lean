/-
**The condition of a statement, read by the grammar of SQL.**

A condition is a list of tests and groups between `AND` and `OR`. The `AND` behind `BETWEEN` belongs to
the test, parentheses at the place of a test make a group. `readCondition` reads it from the lexemes of
a text.

* `Predicate.formula` is the formula that a condition is written for;
* `readColumn_dotted` and `readValues_separated` read names and lists of values back.
-/

import Polystore.Proofs.Clauses.Truth
import Polystore.Proofs.Statement.Lexeme

namespace Polystore.Sql

/-- A test of a condition. A column is given by the segments of its name. -/
inductive Test where
  | compare (column : List String) (operator : Operator) (value : Value)
  | oneOf (column : List String) (values : List Value) (negated : Bool)
  | between (column : List String) (low high : Value) (negated : Bool)
  | isNull (column : List String) (negated : Bool)
  /-- `LIKE` between lower-cased sides. -/
  | like (column : List String) (pattern : Value)
  /-- A comparison of two written numbers. -/
  | numbers (left : Nat) (operator : Operator) (right : Nat)

/-- A test, or a group of formulas in parentheses with the connective before each. -/
inductive Formula where
  | test (test : Test)
  | group (clauses : List (Connective × Formula))

/-! ### Reading -/

section Reading

/-- A column at the beginning of lexemes, and the lexemes behind it. -/
def readColumn : List Lexeme → Option (List String × List Lexeme)
  | .name first :: .sign '.' :: rest =>
    (readColumn rest).map fun (others, rest) => (first :: others, rest)
  | .name only :: rest => some ([only], rest)
  | _ => none

/-- Values between commas up to a closing parenthesis, and the lexemes behind it. -/
def readValues : List Lexeme → Option (List Value × List Lexeme)
  | .bound first :: .sign ',' :: rest =>
    (readValues rest).map fun (others, rest) => (first :: others, rest)
  | .bound only :: .sign ')' :: rest => some ([only], rest)
  | _ => none

/-- What is asked of a column. -/
def readQuestion (column : List String) : List Lexeme → Option (Test × List Lexeme)
  | .operator operator :: .bound value :: rest => some (.compare column operator value, rest)
  | .keyword .identity :: .keyword .null :: rest => some (.isNull column false, rest)
  | .keyword .identity :: .keyword .negation :: .keyword .null :: rest =>
    some (.isNull column true, rest)
  | .keyword .membership :: .sign '(' :: rest =>
    (readValues rest).map fun (values, rest) => (.oneOf column values false, rest)
  | .keyword .negation :: .keyword .membership :: .sign '(' :: rest =>
    (readValues rest).map fun (values, rest) => (.oneOf column values true, rest)
  | .keyword .range :: .bound low :: .keyword .and :: .bound high :: rest =>
    some (.between column low high false, rest)
  | .keyword .negation :: .keyword .range :: .bound low :: .keyword .and :: .bound high :: rest =>
    some (.between column low high true, rest)
  | _ => none

/-- The pattern of a `LIKE` between lower-cased sides, behind the column. -/
def readLike (column : List String) : List Lexeme → Option (Test × List Lexeme)
  | .sign ')' :: .keyword .pattern :: .keyword .lower :: .sign '(' :: .bound pattern :: .sign ')' ::
      rest => some (.like column pattern, rest)
  | _ => none

/-- A test at the beginning of lexemes, and the lexemes behind it. -/
def readTest : List Lexeme → Option (Test × List Lexeme)
  | .number left :: .operator operator :: .number right :: rest =>
    some (.numbers left operator right, rest)
  | .keyword .lower :: .sign '(' :: rest => do
    let (column, rest) ← readColumn rest
    readLike column rest
  | lexemes => do
    let (column, rest) ← readColumn lexemes
    readQuestion column rest

/-- A test or a group, where `inside` reads what stands in parentheses. -/
def readFormula (inside : List Lexeme → Option (List (Connective × Formula) × List Lexeme)) :
    List Lexeme → Option (Formula × List Lexeme)
  | .sign '(' :: rest =>
    match inside rest with
    | some (clauses, .sign ')' :: rest) => some (.group clauses, rest)
    | _ => none
  | lexemes => (readTest lexemes).map fun (test, rest) => (.test test, rest)

/-- What a connective joins to the formulas before it; nothing unless one follows. -/
def readFurther
    (following : Connective → List Lexeme → Option (List (Connective × Formula) × List Lexeme)) :
    List Lexeme → Option (List (Connective × Formula) × List Lexeme)
  | .keyword .and :: rest => following .and rest
  | .keyword .or :: rest => following .or rest
  | rest => some ([], rest)

/-- Formulas between connectives, the first one behind the given connective. Fewer than `fuel` lexemes
are read. -/
def readClauses :
    Nat → Connective → List Lexeme → Option (List (Connective × Formula) × List Lexeme)
  | 0, _, _ => none
  | fuel + 1, connective, lexemes => do
    let (formula, rest) ← readFormula (readClauses fuel .and) lexemes
    let (others, rest) ← readFurther (readClauses fuel) rest
    return ((connective, formula) :: others, rest)

/-- **The condition of lexemes**: the formulas behind `WHERE`, or none without lexemes. -/
def readCondition : List Lexeme → Option (List (Connective × Formula))
  | [] => some []
  | .keyword .filter :: rest =>
    match readClauses (rest.length + 1) .and rest with
    | some (clauses, []) => some clauses
    | _ => none
  | _ => none

/-- Segments are read back up to a lexeme that is no dot. -/
theorem readColumn_dotted {segments : List String} (filled : segments ≠ []) (next : Lexeme)
    (rest : List Lexeme) (apart : next ≠ .sign '.') :
    readColumn (dotted segments ++ next :: rest) = some (segments, next :: rest) := by
  induction segments with
  | nil => exact absurd rfl filled
  | cons first others hypothesis =>
    cases others with
    | nil =>
      show readColumn (.name first :: next :: rest) = _
      rw [readColumn]
      exact fun _ same => apart (List.cons.inj same).1
    | cons second others =>
      show readColumn (.name first :: .sign '.' :: (dotted (second :: others) ++ next :: rest)) = _
      rw [readColumn, hypothesis (List.cons_ne_nil _ _)]
      rfl

/-- The lexemes of values between commas and of the parenthesis behind them. -/
def separatedLexemes : List Value → List Lexeme
  | [] => [.sign ')']
  | [only] => [.bound only, .sign ')']
  | first :: rest => .bound first :: .sign ',' :: separatedLexemes rest

/-- Values are read back up to the parenthesis. -/
theorem readValues_separated {values : List Value} (filled : values ≠ []) (rest : List Lexeme) :
    readValues (separatedLexemes values ++ rest) = some (values, rest) := by
  induction values with
  | nil => exact absurd rfl filled
  | cons first others hypothesis =>
    cases others with
    | nil => rfl
    | cons second others =>
      show readValues (.bound first :: .sign ',' :: (separatedLexemes (second :: others) ++ rest)) = _
      rw [readValues, hypothesis (List.cons_ne_nil _ _)]
      rfl

end Reading

/-! ### The formulas of clauses -/

/-- The segments that a column is written with. -/
def ColumnScope.path (scope : ColumnScope) (name : String) : List String :=
  Text.segmentsOf '.'
    (if scope.qualified && !Text.hasChar '.' name then scope.base ++ "." ++ name else name)

/-- The test that a comparison is written as: comparisons with null ask for null. -/
def Test.ofComparison (column : List String) : Operator → Value → Test
  | .equal, .null => .isNull column false
  | .notEqual, .null => .isNull column true
  | operator, value => .compare column operator value

end Polystore.Sql

namespace Polystore

open Sql

mutual

/-- **The formula that a condition is written for.** A raw condition has none of its own. -/
def Predicate.formula (scope : ColumnScope) : Predicate → Formula
  | .compare column operator value => .test (.ofComparison (scope.path column) operator value)
  | .oneOf _ [] negated => .test (.numbers 1 .equal (if negated then 1 else 0))
  | .oneOf column (first :: rest) negated => .test (.oneOf (scope.path column) (first :: rest) negated)
  | .between column low high negated => .test (.between (scope.path column) low high negated)
  | .isNull column negated => .test (.isNull (scope.path column) negated)
  | .like column pattern => .test (.like (scope.path column) (.string pattern))
  | .group [] => .test (.numbers 1 .equal 1)
  | .group (first :: rest) => .group (Predicate.formulas scope true (first :: rest))
  | .raw _ _ => .group []

/-- The formulas of clauses beside their connectives; the connective of the first one is not written. -/
def Predicate.formulas (scope : ColumnScope) (isFirst : Bool) :
    List (Connective × Predicate) → List (Connective × Formula)
  | [] => []
  | (connective, condition) :: rest =>
    (if isFirst then .and else connective, condition.formula scope)
      :: Predicate.formulas scope false rest

end

end Polystore
