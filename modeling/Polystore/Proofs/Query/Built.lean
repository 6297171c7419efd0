/-
**What is made of a query does not depend on the order of calls of different kinds.**

`Arranged` says of the pieces of a select that columns, `FROM`, joins, conditions, groups, orders and window
stand in this order, and that joins and conditions stand in the order of the query. It holds of every
select, also where a piece of SQL among the conditions keeps the text from being read.

* `arranged_selectFragments`: the pieces of every select are arranged so;
* `build_commutes`: rearranged calls make the same query, statements and read, with their parts in order.
-/

import Polystore.Native.Read
import Polystore.Proofs.Query.Commuting
import Polystore.Proofs.Statement.Parts

namespace Polystore.Sql

/-- The columns of a select. -/
def columnsText (scope : ColumnScope) (columns : TargetColumns) (query : Query) : String :=
  "SELECT " ++ (if query.distinct.isEmpty then "" else "DISTINCT ")
    ++ Text.joined ", " (baseSelections scope query
      ++ query.joins.flatMap (joinSelections scope.dialect columns))

/-- The table of a select. -/
def sourceText (scope : ColumnScope) (table : String) : String :=
  " FROM " ++ scope.dialect.quote table
    ++ if scope.base = table then "" else " AS " ++ scope.dialect.quote scope.base

/-- Conditions that are joined to others, each behind its connective. -/
def furtherPieces (conditions : List (Connective × List Fragment)) : List Fragment :=
  conditions.flatMap fun (connective, condition) => .text (" " ++ connective.sql ++ " ") :: condition

/-- Conditions behind `WHERE`, each but the first one behind its connective. -/
def wherePieces : List (Connective × List Fragment) → List Fragment
  | [] => []
  | (_, first) :: rest => .text " WHERE " :: (first ++ furtherPieces rest)

/-- Pieces of conditions that are written for clauses, one by one and with their connectives. -/
def WrittenFor (scope : ColumnScope) : List Clause → List (Connective × List Fragment) → Prop :=
  List.Forall₂ fun clause condition =>
    condition.1 = clause.1 ∧ Condition.predicate scope clause.2 = .ok condition.2

/-- **The pieces of a select, in their order.** -/
structure Arranged (columns : TargetColumns) (query : Query) (pieces : List Fragment) (table : String)
    (scope : ColumnScope) (conditions : List (Connective × List Fragment)) : Prop where
  named : query.requireTable = .ok table
  inScope : columnScope scope.dialect query = .ok scope
  written : WrittenFor scope query.clauses conditions
  pieces_eq : pieces =
    .text (columnsText scope columns query ++ sourceText scope table
        ++ String.join (query.joins.map (joinText scope)))
      :: wherePieces conditions
      ++ [.text (groupText scope query.groups ++ orderText scope query.orders
        ++ windowText scope.dialect query.limit query.offset)]

section Arrangement

variable {dialect : SqlDialect} {columns : TargetColumns} {query : Query} {scope : ColumnScope}
  {clauses : List Clause} {pieces : List Fragment}

/-- Clauses behind others are written one by one. -/
theorem exists_furtherPieces (written : Condition.clauses scope false clauses = .ok pieces) :
    ∃ conditions, WrittenFor scope clauses conditions ∧ pieces = furtherPieces conditions := by
  induction clauses generalizing pieces with
  | nil =>
    cases written
    exact ⟨[], .nil, rfl⟩
  | cons clause rest hypothesis =>
    obtain ⟨connective, predicate⟩ := clause
    obtain ⟨first, one, written⟩ := bind_eq_ok.mp written
    obtain ⟨others, more, written⟩ := bind_eq_ok.mp written
    cases written
    obtain ⟨conditions, each, rfl⟩ := hypothesis more
    exact ⟨(connective, first) :: conditions, .cons ⟨rfl, one⟩ each, rfl⟩

/-- Clauses are written one by one, the first one without its connective. -/
theorem exists_wherePieces (written : whereFragments scope clauses = .ok pieces) :
    ∃ conditions, WrittenFor scope clauses conditions ∧ pieces = wherePieces conditions := by
  cases clauses with
  | nil =>
    cases written
    exact ⟨[], .nil, rfl⟩
  | cons clause rest =>
    obtain ⟨connective, predicate⟩ := clause
    obtain ⟨inner, made, rfl⟩ := map_eq_ok.mp written
    obtain ⟨first, one, made⟩ := bind_eq_ok.mp made
    obtain ⟨others, more, made⟩ := bind_eq_ok.mp made
    cases made
    obtain ⟨conditions, each, rfl⟩ := exists_furtherPieces more
    exact ⟨(connective, first) :: conditions, .cons ⟨rfl, one⟩ each, rfl⟩

/-- **Every select** has its pieces in their order. -/
theorem arranged_selectFragments (written : selectFragments dialect columns query = .ok pieces) :
    ∃ table scope conditions, scope.dialect = dialect ∧
      Arranged columns query pieces table scope conditions := by
  obtain ⟨table, named, written⟩ := bind_eq_ok.mp written
  obtain ⟨scope, inScope, written⟩ := bind_eq_ok.mp written
  obtain ⟨condition, one, written⟩ := bind_eq_ok.mp written
  cases written
  obtain rfl : scope.dialect = dialect := by
    obtain ⟨_, _, rfl⟩ := map_eq_ok.mp inScope
    rfl
  obtain ⟨conditions, each, rfl⟩ := exists_wherePieces one
  refine ⟨table, scope, conditions, rfl, named, inScope, each, ?_⟩
  simp only [columnsText, sourceText, String.append_assoc]

end Arrangement

end Polystore.Sql

namespace Polystore.Query

open Sql
open Call (Rearranged)

/-- **Calls of different kinds commute.** Calls that are rearranged within the order of each kind, at the top
or inside of groups, build the same query, so the same statements and the same read. In what is made of it:
* joins and clauses stand in the order of their calls;
* the pieces of a select are columns, table, joins, conditions, groups, orders and window in this order;
* without SQL of the caller's own among the conditions, the text of the select is read as just these parts,
  and its condition as the clauses with their connectives. -/
theorem build_commutes {left right : List Call} (rearranged : Rearranged left right) (query : Query) :
    query.build left = query.build right ∧
    (∀ dialect columns,
      selectStatement dialect columns (query.build left) =
        selectStatement dialect columns (query.build right) ∧
      countStatement dialect columns (query.build left) =
        countStatement dialect columns (query.build right)) ∧
    Native.read (query.build left) = Native.read (query.build right) ∧
    (query.build left).joins =
      query.joins ++ (Call.refinements left).filterMap Refinement.join? ∧
    (query.build left).clauses =
      query.clauses ++ (Call.refinements left).filterMap Refinement.clause? ∧
    (∀ dialect columns pieces, selectFragments dialect columns (query.build left) = .ok pieces →
      ∃ table scope conditions, scope.dialect = dialect ∧
        Arranged columns (query.build left) pieces table scope conditions) ∧
    ∀ dialect columns table scope, (query.build left).requireTable = .ok table →
      columnScope dialect (query.build left) = .ok scope →
      (∀ leaf ∈ Clause.leaves (query.build left).clauses, IsWritable scope leaf) →
      ∃ statement condition,
        selectStatement dialect columns (query.build left) = .ok statement ∧
        parts (dialect.lexemes statement) =
          selectParts scope columns table (query.build left) condition ∧
        readCondition (if (query.build left).clauses.isEmpty then []
            else Part.condition.opening :: condition) =
          some (Predicate.formulas scope true (query.build left).clauses) := by
  have same : query.build left = query.build right := build_eq_of_rearranged query rearranged
  obtain ⟨joins, clauses⟩ := joins_clauses_refineAll query (Call.refinements left)
  refine ⟨same, fun dialect columns => ?_, congrArg Native.read same, joins, clauses,
    fun dialect columns pieces written => arranged_selectFragments written,
    fun dialect columns table scope named inScope each => ?_⟩
  · rw [same]
    exact ⟨rfl, rfl⟩
  · obtain ⟨statement, condition, written, _, cuts, read⟩ := parts_select named inScope each columns
    exact ⟨statement, condition, written, cuts, read⟩

/-- Calls in the order of a statement. -/
def orderly : List Call :=
  [.step (.table "posts"), .step (.shownAs "p"), .step (.select [.named "title"]),
    .step (.join (.keyed .left "people" "author" "name")),
    .step (.join (.keyed .inner "tags" "id" "post")),
    .step (.clause .and (.equal "draft" (.boolean false))),
    .group .or [.step (.clause .and (.equal "pinned" (.boolean true))), .step (.limit 1),
      .step (.clause .and (.isNull "hidden" false))],
    .step (.groupBy ["title"]), .step (.orderBy "title" .descending), .step (.limit 5), .step (.offset 2)]

/-- The same calls in another order, inside of the group as well. -/
def shuffled : List Call :=
  [.step (.offset 2), .step (.clause .and (.equal "draft" (.boolean false))),
    .step (.join (.keyed .left "people" "author" "name")), .step (.shownAs "p"), .step (.limit 5),
    .group .or [.step (.limit 1), .step (.clause .and (.equal "pinned" (.boolean true))),
      .step (.clause .and (.isNull "hidden" false))],
    .step (.orderBy "title" .descending), .step (.groupBy ["title"]), .step (.table "posts"),
    .step (.join (.keyed .inner "tags" "id" "post")), .step (.select [.named "title"])]

/-- Both make the same query, and one text in which every part has its place. -/
theorem build_commutes_shuffled :
    Rearranged orderly shuffled ∧ Query.unbound.build orderly = Query.unbound.build shuffled ∧
      (selectStatement .sqlite [("people", []), ("tags", ["label"])] (Query.unbound.build shuffled)).map
          Statement.sql =
        .ok ("SELECT \"p\".\"title\", \"tags\".\"label\" AS \"tags.label\" FROM \"posts\" AS \"p\""
          ++ " LEFT JOIN \"people\" ON \"p\".\"author\" = \"people\".\"name\""
          ++ " INNER JOIN \"tags\" ON \"p\".\"id\" = \"tags\".\"post\""
          ++ " WHERE \"p\".\"draft\" = ? OR (\"p\".\"pinned\" = ? AND \"p\".\"hidden\" IS NULL)"
          ++ " GROUP BY \"p\".\"title\" ORDER BY \"p\".\"title\" DESC LIMIT 5 OFFSET 2") := by
  have rearranged : Rearranged orderly shuffled := by
    have group : Rearranged
        [.step (.clause .and (.equal "pinned" (.boolean true))), .step (.limit 1),
          .step (.clause .and (.isNull "hidden" false))]
        [.step (.limit 1), .step (.clause .and (.equal "pinned" (.boolean true))),
          .step (.clause .and (.isNull "hidden" false))] :=
      .reorder fun kind => by cases kind <;> rfl
    exact .trans (.inside (orderly.take 6) (orderly.drop 7) .or group)
      (.reorder fun kind => by cases kind <;> rfl)
  exact ⟨rearranged, (build_commutes rearranged .unbound).1, by decide +kernel⟩

end Polystore.Query
