/-
**Which rows the condition of a statement keeps.**

Truth has three values: `Option Bool`, where `none` is unknown. A comparison beside a null is unknown,
and a row is kept only if the whole condition is true. Texts are compared character by character and
whole numbers as numbers; values of other kinds stand in no order.

* `holds_decided`: a list of formulas is true exactly if some piece of it is true throughout;
* `keeps?_whereFragments`: the condition written for clauses keeps a row exactly if the clauses hold
  when each of their conditions is read by itself.
-/

import Polystore.Proofs.Statement.Written

namespace Polystore

namespace Kleene

/-- Whether both are true. -/
def both : Option Bool → Option Bool → Option Bool
  | some false, _ => some false
  | _, some false => some false
  | some true, some true => some true
  | _, _ => none

/-- Whether one is true. -/
def either : Option Bool → Option Bool → Option Bool
  | some true, _ => some true
  | _, some true => some true
  | some false, some false => some false
  | _, _ => none

def all (truths : List (Option Bool)) : Option Bool := truths.foldr both (some true)

def any (truths : List (Option Bool)) : Option Bool := truths.foldr either (some false)

/-- The opposite, if asked for. -/
def negatedIf (negated : Bool) (truth : Option Bool) : Option Bool := truth.map (negated != ·)

/-- Whether a truth value is neither false nor unknown. -/
def holds (truth : Option Bool) : Bool := truth == some true

/-- Whether a truth value is neither true nor unknown. -/
def fails (truth : Option Bool) : Bool := truth == some false

theorem holds_both (left right : Option Bool) :
    holds (both left right) = (holds left && holds right) := by
  rcases left with _ | _ | _ <;> rcases right with _ | _ | _ <;> rfl

theorem holds_either (left right : Option Bool) :
    holds (either left right) = (holds left || holds right) := by
  rcases left with _ | _ | _ <;> rcases right with _ | _ | _ <;> rfl

theorem holds_all (truths : List (Option Bool)) : holds (all truths) = truths.all holds := by
  induction truths with
  | nil => rfl
  | cons truth rest hypothesis => rw [all, List.foldr_cons, holds_both, ← all, hypothesis, List.all_cons]

theorem holds_any (truths : List (Option Bool)) : holds (any truths) = truths.any holds := by
  induction truths with
  | nil => rfl
  | cons truth rest hypothesis =>
    rw [any, List.foldr_cons, holds_either, ← any, hypothesis, List.any_cons]

theorem fails_both (left right : Option Bool) :
    fails (both left right) = (fails left || fails right) := by
  rcases left with _ | _ | _ <;> rcases right with _ | _ | _ <;> rfl

theorem fails_any (truths : List (Option Bool)) : fails (any truths) = truths.all fails := by
  induction truths with
  | nil => rfl
  | cons truth rest hypothesis =>
    have step : fails (either truth (any rest)) = (fails truth && fails (any rest)) := by
      cases any rest with
      | none => rcases truth with _ | _ | _ <;> rfl
      | some other => cases other <;> rcases truth with _ | _ | _ <;> rfl
    rw [any, List.foldr_cons, ← any, step, hypothesis, List.all_cons]

theorem holds_negatedIf (negated : Bool) (truth : Option Bool) :
    holds (negatedIf negated truth) = if negated then fails truth else holds truth := by
  rcases truth with _ | _ | _ <;> cases negated <;> rfl

end Kleene

/-- The integer of a whole number. -/
def Value.whole? : Value → Option Int
  | .int32 number => some number.toInt
  | .int64 number => some number.toInt
  | _ => none

/-- The order of two values of a table; beside a null it is unknown. -/
def Value.rowOrder? : Value → Value → Option Ordering
  | .string left, .string right => some (compare left right)
  | left, right =>
    match left.whole?, right.whole? with
    | some left, some right => some (compare left right)
    | _, _ => none

/-- The orders that an operator accepts. -/
def Operator.accepts : Operator → Ordering → Bool
  | equal, order => order == .eq
  | notEqual, order => order != .eq
  | greater, order => order == .gt
  | greaterOrEqual, order => order != .lt
  | less, order => order == .lt
  | lessOrEqual, order => order != .gt

/-- Whether two values of a table compare as an operator says. -/
def Operator.decide (operator : Operator) (left right : Value) : Option Bool :=
  (left.rowOrder? right).map operator.accepts

namespace Sql

/-- What a condition is decided on: a row of a table, and the engine's own way of matching a text with
a pattern. -/
structure Situation where
  table : String
  row : Document
  like : String → String → Bool

/-- The field of the row that a column names, alone or behind the name of the table. -/
def Situation.field? (situation : Situation) (column : List String) : Option Value :=
  if column.dropLast = [] ∨ column.dropLast = Text.segmentsOf '.' situation.table then
    column.getLast?.bind fun name => Document.get? name situation.row
  else none

/-- The value of a column. -/
def Situation.value (situation : Situation) (column : List String) : Value :=
  (situation.field? column).getD .null

namespace Test

/-- The column of a test. -/
def column? : Test → Option (List String)
  | compare column _ _ | oneOf column _ _ | between column _ _ _ | isNull column _ | like column _ =>
    some column
  | numbers _ _ _ => none

/-- **The truth of a test.** -/
def decide (situation : Situation) : Test → Option Bool
  | compare column operator value => operator.decide (situation.value column) value
  | oneOf column values negated =>
    Kleene.negatedIf negated
      (Kleene.any (values.map (Operator.equal.decide (situation.value column))))
  | between column low high negated =>
    Kleene.negatedIf negated
      (Kleene.both (Operator.greaterOrEqual.decide (situation.value column) low)
        (Operator.lessOrEqual.decide (situation.value column) high))
  | isNull column negated => some (negated != (situation.value column).isNull)
  | like column pattern =>
    match situation.value column, pattern with
    | .string text, .string pattern => some (situation.like text pattern)
    | _, _ => none
  | numbers left operator right => some (operator.accepts (Ord.compare left right))

end Test

/-- The truth of formulas between connectives: `AND` binds tighter than `OR`, and without formulas it
is true. -/
def decided (clauses : List (Connective × Option Bool)) : Option Bool :=
  if clauses.isEmpty then some true
  else Kleene.any ((Clause.cut clauses).map fun piece => Kleene.all (piece.map Prod.snd))

mutual

/-- **The truth of a formula.** -/
def Formula.decide (situation : Situation) : Formula → Option Bool
  | .test question => question.decide situation
  | .group clauses => decided (Formula.decisions situation clauses)

/-- The truth of each of a list of formulas, beside their connectives. -/
def Formula.decisions (situation : Situation) :
    List (Connective × Formula) → List (Connective × Option Bool)
  | [] => []
  | (connective, formula) :: rest =>
    (connective, formula.decide situation) :: Formula.decisions situation rest

end

mutual

/-- Whether every column of a formula is one of the row. -/
def Formula.isKnown (situation : Situation) : Formula → Bool
  | .test question => question.column?.all fun column => (situation.field? column).isSome
  | .group clauses => Formula.areKnown situation clauses

/-- Whether every column of a list of formulas is one of the row. -/
def Formula.areKnown (situation : Situation) : List (Connective × Formula) → Bool
  | [] => true
  | (_, formula) :: rest => formula.isKnown situation && Formula.areKnown situation rest

end

end Sql

open Sql

/-- **Whether the condition of a statement keeps a row**; nothing if the condition cannot be read or
names a column that the row does not have. -/
def SqlDialect.keeps? (dialect : SqlDialect) (situation : Situation) (statement : Statement) :
    Option Bool :=
  (readCondition (dialect.lexemes statement)).bind fun clauses =>
    if Formula.areKnown situation clauses then
      some (Kleene.holds (decided (Formula.decisions situation clauses)))
    else none

namespace Sql

/-! ### True formulas -/

section True

open Kleene

variable {situation : Situation} {scope : ColumnScope}

/-- Renaming what stands beside the connectives renames it in the runs. -/
theorem runs_map {α β : Type} (rename : α → β) (clauses : List (Connective × α)) :
    Native.runs (clauses.map fun clause => (clause.1, rename clause.2)) =
      (Native.runs clauses).map (·.map rename) := by
  rw [Clause.runs_eq_cut, Clause.runs_eq_cut, Clause.cut_map]
  simp [List.map_map, Function.comp_def]

/-- **A list of formulas is true exactly if some piece is true throughout.** -/
theorem holds_decided (clauses : List (Connective × Option Bool)) :
    holds (decided clauses) =
      Clause.truth (clauses.map fun clause => (clause.1, holds clause.2)) := by
  rw [Clause.truth_eq_runs, runs_map, List.isEmpty_map, decided]
  cases clauses with
  | nil => rfl
  | cons clause rest =>
    rw [List.isEmpty_cons, if_neg Bool.false_ne_true, Bool.false_or, holds_any, List.any_map,
      List.any_map, Clause.runs_eq_cut, List.any_map]
    congr 1
    funext piece
    simp [holds_all, List.all_map, Function.comp_def]

/-- The connective of the first clause says nothing. -/
theorem truth_cons (connective other : Connective) (truth : Bool) (rest : List (Connective × Bool)) :
    Clause.truth ((connective, truth) :: rest) = Clause.truth ((other, truth) :: rest) := by
  rw [Clause.truth_eq_runs, Clause.truth_eq_runs]
  rfl

/-- Whether the formula of a condition is true by itself. -/
def leafHolds (scope : ColumnScope) (situation : Situation) (leaf : Predicate) : Bool :=
  holds ((leaf.formula scope).decide situation)

mutual

/-- The formula of a condition is true exactly if the condition holds when its parts are read by
themselves. -/
theorem holds_formula : (condition : Predicate) →
    holds ((condition.formula scope).decide situation) =
      condition.truth (leafHolds scope situation)
  | .group [] => rfl
  | .group ((connective, condition) :: rest) => by
    have first := holds_formula condition
    have others := holds_formulas rest
    rw [Predicate.formula, Formula.decide, holds_decided, Predicate.formulas, Formula.decisions,
      List.map_cons, first, others, Predicate.truth, Predicate.truths]
    exact truth_cons _ _ _ _
  | .compare _ _ _ => rfl
  | .oneOf _ _ _ => rfl
  | .between _ _ _ _ => rfl
  | .isNull _ _ => rfl
  | .like _ _ => rfl
  | .raw _ _ => rfl

/-- `holds_formula` for clauses behind others. -/
theorem holds_formulas : (clauses : List (Connective × Predicate)) →
    (Formula.decisions situation (Predicate.formulas scope false clauses)).map
        (fun clause => (clause.1, holds clause.2)) =
      Predicate.truths (leafHolds scope situation) clauses
  | [] => rfl
  | (connective, condition) :: rest => by
    have first := holds_formula condition
    have others := holds_formulas rest
    rw [Predicate.formulas, Formula.decisions, List.map_cons, others, first]
    rfl

end

theorem holds_hold (clauses : List Clause) :
    holds (decided (Formula.decisions situation (Predicate.formulas scope true clauses))) =
      Clause.hold (leafHolds scope situation) clauses := by
  cases clauses with
  | nil => rfl
  | cons clause rest =>
    obtain ⟨connective, condition⟩ := clause
    have first : holds ((condition.formula scope).decide situation) =
        condition.truth (leafHolds scope situation) := holds_formula condition
    have others : (Formula.decisions situation (Predicate.formulas scope false rest)).map
        (fun clause => (clause.1, holds clause.2)) =
          Predicate.truths (leafHolds scope situation) rest := holds_formulas rest
    rw [holds_decided, Predicate.formulas, Formula.decisions, List.map_cons, first, others,
      Clause.hold, Predicate.truths]
    exact truth_cons _ _ _ _

end True

/-! ### Known columns -/

section Known

variable {situation : Situation} {scope : ColumnScope}

/-- Whether the column of a condition is one of the row. -/
def isNamed (scope : ColumnScope) (situation : Situation) (condition : Predicate) : Bool :=
  condition.column?.all fun column => (situation.field? (scope.path column)).isSome

theorem isKnown_ofComparison (column : List String) (operator : Operator) (value : Value) :
    (Formula.test (.ofComparison column operator value)).isKnown situation =
      (situation.field? column).isSome := by
  unfold Test.ofComparison
  split <;> rfl

mutual

/-- The columns of a condition are those of its parts. -/
theorem isKnown_formula : (condition : Predicate) →
    (∀ leaf ∈ condition.leaves, isNamed scope situation leaf = true) →
      (condition.formula scope).isKnown situation = true
  | .compare column operator value, each =>
    (isKnown_ofComparison (scope.path column) operator value).trans (each _ (List.mem_singleton_self _))
  | .oneOf _ [] _, _ => rfl
  | .oneOf _ (_ :: _) _, each => each _ (List.mem_singleton_self _)
  | .between _ _ _ _, each => each _ (List.mem_singleton_self _)
  | .isNull _ _, each => each _ (List.mem_singleton_self _)
  | .like _ _, each => each _ (List.mem_singleton_self _)
  | .group [], _ => rfl
  | .group (first :: rest), each => areKnown_formulas true (first :: rest) each
  | .raw _ _, _ => rfl

/-- `isKnown_formula` for a list of clauses. -/
theorem areKnown_formulas (isFirst : Bool) : (clauses : List (Connective × Predicate)) →
    (∀ leaf ∈ Clause.leaves clauses, isNamed scope situation leaf = true) →
      Formula.areKnown situation (Predicate.formulas scope isFirst clauses) = true
  | [], _ => rfl
  | (connective, condition) :: rest, each => by
    have first := isKnown_formula condition fun leaf member =>
      each leaf (List.mem_append_left _ member)
    have others := areKnown_formulas false rest fun leaf member =>
      each leaf (List.mem_append_right _ member)
    rw [Predicate.formulas, Formula.areKnown, first, others, Bool.and_self]

end

end Known

/-- **The condition written for clauses keeps a row exactly if the clauses hold** when each of their
conditions is read by itself. -/
theorem keeps?_whereFragments (scope : ColumnScope) (situation : Situation) (clauses : List Clause)
    (each : ∀ leaf ∈ Clause.leaves clauses,
      IsWritable scope leaf ∧ isNamed scope situation leaf = true) :
    ∃ pieces, whereFragments scope clauses = .ok pieces ∧
      scope.dialect.keeps? situation (scope.dialect.statement pieces) =
        some (Clause.hold (leafHolds scope situation) clauses) := by
  obtain ⟨pieces, written, read⟩ := readCondition_whereFragments scope clauses fun leaf member =>
    (each leaf member).1
  refine ⟨pieces, written, ?_⟩
  have known : Formula.areKnown situation (Predicate.formulas scope true clauses) = true :=
    areKnown_formulas true clauses fun leaf member => (each leaf member).2
  rw [SqlDialect.keeps?, read, Option.bind_some, if_pos known, holds_hold]

end Sql

end Polystore
