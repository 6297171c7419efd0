/-
**Conditions as SQL and as filter documents have one structure.**

`Clause.tree` is the structure of a list of clauses: the runs that it is cut into before every `OR`, and
the same within every group. The condition written for the clauses is parsed as this tree, and the filter
made of them is put together along it.

* `tree_formula`: the formula of a condition has the tree of the condition;
* `filter_eq_joint`: a filter is an `$or` of `$and`s along the tree of the clauses;
* `parses_condition`: what is written behind `WHERE` is parsed as the tree of the clauses.
-/

import Polystore.Proofs.Statement.Grammar
import Polystore.Proofs.Statement.Truth

namespace Polystore

open Sql

namespace Sql.RunTree

variable {α β : Type}

mutual

/-- What a tree comes to, from its leaves up. -/
def fold (leaf : α → β) (branch : List (List β) → β) : RunTree α → β
  | .leaf content => leaf content
  | .branch runs => branch (foldRuns leaf branch runs)

def foldRuns (leaf : α → β) (branch : List (List β) → β) : List (List (RunTree α)) → List (List β)
  | [] => []
  | run :: rest => foldRun leaf branch run :: foldRuns leaf branch rest

def foldRun (leaf : α → β) (branch : List (List β) → β) : List (RunTree α) → List β
  | [] => []
  | tree :: rest => tree.fold leaf branch :: foldRun leaf branch rest

end

theorem foldRun_eq_map (leaf : α → β) (branch : List (List β) → β) (run : List (RunTree α)) :
    foldRun leaf branch run = run.map (fold leaf branch) := by
  induction run with
  | nil => rfl
  | cons tree rest hypothesis => rw [foldRun, hypothesis, List.map_cons]

theorem foldRuns_eq_map (leaf : α → β) (branch : List (List β) → β) (runs : List (List (RunTree α))) :
    foldRuns leaf branch runs = runs.map (·.map (fold leaf branch)) := by
  induction runs with
  | nil => rfl
  | cons run rest hypothesis => rw [foldRuns, hypothesis, foldRun_eq_map, List.map_cons]

end Sql.RunTree

mutual

/-- **The tree of a condition.** An empty group is a leaf. -/
def Predicate.tree : Predicate → RunTree Predicate
  | .group (first :: rest) => .branch (Native.runs (Predicate.trees (first :: rest)))
  | leaf => .leaf leaf

/-- The trees of conditions beside their connectives. -/
def Predicate.trees : List (Connective × Predicate) → List (Connective × RunTree Predicate)
  | [] => []
  | (connective, condition) :: rest => (connective, condition.tree) :: Predicate.trees rest

end

/-- **The structure of a list of clauses.** -/
def Clause.tree (clauses : List Clause) : List (List (RunTree Predicate)) :=
  Native.runs (Predicate.trees clauses)

/-! ### The tree of what is written -/

section Written

variable {scope : ColumnScope}

/-- The tree with each condition as the test that it is written as. -/
def Sql.RunTree.written (scope : ColumnScope) : RunTree Predicate → RunTree Test :=
  RunTree.fold (fun leaf => (leaf.formula scope).tree) .branch

mutual

/-- **The formula of a condition has the tree of the condition.** -/
theorem tree_formula : (condition : Predicate) →
    (condition.formula scope).tree = condition.tree.written scope
  | .group ((connective, condition) :: rest) => by
    have first := tree_formula condition
    have others := trees_formulas rest
    rw [Predicate.formula, Formula.tree, Predicate.formulas, Formula.trees, first, others,
      Predicate.tree, Predicate.trees, RunTree.written, RunTree.fold, RunTree.foldRuns_eq_map, ← runs_map]
    rfl
  | .group [] => rfl
  | .compare _ _ _ => rfl
  | .oneOf _ _ _ => rfl
  | .between _ _ _ _ => rfl
  | .isNull _ _ => rfl
  | .like _ _ => rfl
  | .raw _ _ => rfl

/-- `tree_formula` for clauses behind others. -/
theorem trees_formulas : (clauses : List (Connective × Predicate)) →
    Formula.trees (Predicate.formulas scope false clauses) =
      (Predicate.trees clauses).map fun clause => (clause.1, clause.2.written scope)
  | [] => rfl
  | (connective, condition) :: rest => by
    have first := tree_formula condition
    have others := trees_formulas rest
    rw [Predicate.formulas, Formula.trees, first, others, Predicate.trees]
    rfl

end

theorem runs_formulas (clauses : List Clause) :
    Native.runs (Formula.trees (Predicate.formulas scope true clauses)) =
      (Clause.tree clauses).map (·.map (RunTree.written scope)) := by
  rw [Clause.tree, ← runs_map]
  cases clauses with
  | nil => rfl
  | cons clause rest =>
    obtain ⟨connective, condition⟩ := clause
    rw [Predicate.formulas, Formula.trees, tree_formula, trees_formulas]
    rfl

end Written

/-! ### The tree of a filter -/

section Filters

variable {ε α : Type}

/-- The results beside their connectives; the first failure if there is one. -/
def settled (clauses : List (Connective × Except ε α)) : Except ε (List (Connective × α)) :=
  clauses.mapM fun clause => clause.2.map (clause.1, ·)

theorem settled_cons (connective : Connective) (item : α) (rest : List (Connective × Except ε α)) :
    settled ((connective, .ok item) :: rest) = (settled rest).map ((connective, item) :: ·) := by
  rw [settled, List.mapM_cons]
  rfl

theorem settled_error (connective : Connective) (error : ε) (rest : List (Connective × Except ε α)) :
    settled ((connective, .error error) :: rest) = .error error := by
  rw [settled, List.mapM_cons]
  rfl

theorem mapM_pushed (item : α) (runs : List (List (Except ε α))) :
    (Clause.pushed (.ok item) runs).mapM (List.mapM id) =
      (runs.mapM (List.mapM id)).map (Clause.pushed item) := by
  cases runs with
  | nil => rfl
  | cons run runs =>
    rw [Clause.pushed, List.mapM_cons, List.mapM_cons, List.mapM_cons]
    cases run.mapM id with
    | error error => rfl
    | ok run => cases runs.mapM (List.mapM id) <;> rfl

/-- **Cutting results into runs keeps their order**, so the first failure stays the first one. -/
theorem mapM_runs (clauses : List (Connective × Except ε α)) :
    (Native.runs clauses).mapM (List.mapM id) = (settled clauses).map Native.runs := by
  induction clauses with
  | nil => rfl
  | cons clause rest hypothesis =>
    obtain ⟨connective, error | item⟩ := clause
    · obtain ⟨run, runs, cut⟩ := Clause.exists_runs_cons connective (Except.error error) rest
      rw [cut, List.mapM_cons, List.mapM_cons, settled_error]
      rfl
    rw [settled_cons]
    match rest with
    | [] => rfl
    | (.or, next) :: rest =>
      rw [Clause.runs_or, List.mapM_cons, hypothesis]
      cases next with
      | error error =>
        rw [settled_error]
        rfl
      | ok next =>
        rw [settled_cons]
        cases settled rest <;> rfl
    | (.and, next) :: rest =>
      rw [Clause.runs_and, mapM_pushed, hypothesis]
      cases next with
      | error error =>
        rw [settled_error]
        rfl
      | ok next =>
        rw [settled_cons]
        cases settled rest with
        | error error => rfl
        | ok others => exact congrArg Except.ok (Clause.runs_and connective item next others).symm

/-- The `$or` of the `$and`s of runs of filters; the first failure if there is one. -/
def Native.joint (runs : List (List (Except DatabaseError Document))) :
    Except DatabaseError Document :=
  (runs.mapM (List.mapM id)).map fun runs => disjunction (runs.map conjunction)

theorem joint_runs (clauses : List (Connective × Except DatabaseError Document)) :
    Native.joint (Native.runs clauses) = (settled clauses).map Native.combined := by
  rw [Native.joint, mapM_runs]
  cases settled clauses <;> rfl

mutual

/-- The filter of a condition is put together along its tree. -/
theorem condition_eq_fold : (condition : Predicate) →
    Native.condition condition = condition.tree.fold Native.condition Native.joint
  | .group ((connective, condition) :: rest) => by
    rw [Native.condition, conditions_eq_settled, Predicate.tree, RunTree.fold, RunTree.foldRuns_eq_map,
      ← runs_map, joint_runs]
  | .group [] => rfl
  | .compare _ _ _ => rfl
  | .oneOf _ _ _ => rfl
  | .between _ _ _ _ => rfl
  | .isNull _ _ => rfl
  | .like _ _ => rfl
  | .raw _ _ => rfl

theorem conditions_eq_settled : (clauses : List (Connective × Predicate)) →
    Native.conditions clauses = settled ((Predicate.trees clauses).map fun clause =>
      (clause.1, clause.2.fold Native.condition Native.joint))
  | [] => rfl
  | (connective, condition) :: rest => by
    have first := condition_eq_fold condition
    have others := conditions_eq_settled rest
    rw [Native.conditions, first, others, Predicate.trees, List.map_cons]
    cases condition.tree.fold Native.condition Native.joint with
    | error error =>
      rw [settled_error]
      rfl
    | ok filter =>
      rw [settled_cons]
      rfl

end

/-- **A filter is put together along the tree of the clauses.** -/
theorem filter_eq_joint (clauses : List Clause) :
    Native.filter clauses =
      Native.joint ((Clause.tree clauses).map (·.map (RunTree.fold Native.condition Native.joint))) := by
  rw [Native.filter, conditions_eq_settled, Clause.tree, ← runs_map, joint_runs]

end Filters

/-! ### The tree of a text -/

/-- **Whether a text is a condition by the grammar of SQL**, where `count` of the bound values belong to
the text before it. -/
def SqlDialect.Parses (dialect : SqlDialect) (bindings : List Value) (count : Nat) (sql : String)
    (runs : List (List (RunTree Test))) : Prop :=
  IsSum (Lexeme.resolved bindings count (Lexeme.lexemesOf dialect.quoteMark sql)) runs

/-- **The condition behind `WHERE` has the structure of the filter.** Whatever values are bound before it,
it is parsed as the tree of the clauses, and as nothing else: an `OR` of the runs of clauses between
`AND`, a group in parentheses for each group, and for each condition the test that it is written as, with
its values in their places. The filter is put together along the same tree. An empty group and an empty
list of values are written as tests that are true or false of every row. -/
theorem parses_condition (scope : ColumnScope) {clauses : List Clause} (present : clauses ≠ [])
    (each : ∀ leaf ∈ Clause.leaves clauses, IsWritable scope leaf) (before : List Value) :
    (∃ pieces, whereFragments scope clauses = .ok (.text " WHERE " :: pieces) ∧
      ∀ runs, scope.dialect.Parses (before ++ Fragment.values pieces) before.length
          (Fragment.render scope.dialect.placeholder before.length pieces) runs ↔
        runs = (Clause.tree clauses).map (·.map (RunTree.written scope))) ∧
    Native.filter clauses =
      Native.joint ((Clause.tree clauses).map (·.map (RunTree.fold Native.condition Native.joint))) ∧
    ∀ situation, ((Predicate.group []).formula scope).decide situation = some true ∧
      ∀ column negated,
        ((Predicate.oneOf column [] negated).formula scope).decide situation = some negated := by
  refine ⟨?_, filter_eq_joint clauses, fun situation => ⟨rfl, fun column negated => ?_⟩⟩
  · obtain ⟨⟨connective, condition⟩, rest, rfl⟩ := List.exists_cons_of_ne_nil present
    obtain ⟨first, written, spells⟩ := spells_predicate scope condition fun leaf member =>
      each leaf (List.mem_append_left _ member)
    obtain ⟨others, further, spellsOthers⟩ := spells_further scope rest fun leaf member =>
      each leaf (List.mem_append_right _ member)
    have whole : SpellsClauses scope.dialect (first ++ others)
        (Predicate.formulas scope true ((connective, condition) :: rest)) := .cons spells spellsOthers
    refine ⟨first ++ others, ?_, fun runs => ?_⟩
    · simp only [whereFragments, Condition.clauses, written, further]
      rfl
    have read := whole.read _ [] endsClauses_nil (Nat.lt_succ_self _)
    obtain ⟨_, words, sum, same⟩ := exists_isSum_of_readClauses _ read
    rw [List.append_nil, List.append_nil] at same
    rw [runs_formulas, ← same] at sum
    rw [SqlDialect.Parses, lexemesOf_render whole.apart, resolved_placeholders whole.apart]
    constructor
    · exact fun parses => (IsSum.unique parses sum endsClauses_nil endsClauses_nil rfl).1
    · rintro rfl
      exact sum
  · cases negated <;> rfl

/-- Conditions of every form that a connective could be mistaken in. -/
def entwined : List Clause :=
  [(.or, .compare "a\" OR \"b" .equal (.string "Ann")),
    (.or, .group [(.or, .between "club.age" (.int32 1) (.int32 9) true), (.and, .group []),
      (.or, .oneOf "c" [] false)]),
    (.and, .isNull "AND" true)]

/-- The tree of a text. -/
theorem parses_entwined :
    (entwined ≠ [] ∧ ∀ leaf ∈ Clause.leaves entwined, IsWritable ⟨.postgres, "people", false⟩ leaf) ∧
    ∀ runs, SqlDialect.postgres.Parses [.int32 5, .string "Ann", .int32 1, .int32 9] 1
        "\"a\"\" OR \"\"b\" = $2 OR (\"club\".\"age\" NOT BETWEEN $3 AND $4 AND 1 = 1 OR 1 = 0) AND \"AND\" IS NOT NULL"
        runs ↔
      runs =
        [[.leaf (.compare ["a\" OR \"b"] .equal (.string "Ann"))],
          [.branch [[.leaf (.between ["club", "age"] (.int32 1) (.int32 9) true),
              .leaf (.numbers 1 .equal 1)], [.leaf (.numbers 1 .equal 0)]],
            .leaf (.isNull ["AND"] true)]] := by
  let scope : ColumnScope := ⟨.postgres, "people", false⟩
  have writable : ∀ leaf ∈ Clause.leaves entwined, IsWritable scope leaf := by
    show ∀ leaf ∈ Clause.leaves entwined, leaf.isRaw = false ∧ isStarless scope leaf = true
    decide +kernel
  obtain ⟨⟨pieces, written, parses⟩, _⟩ :=
    parses_condition scope (List.cons_ne_nil _ _) writable [.int32 5]
  have text : Fragment.render SqlDialect.postgres.placeholder 1 pieces =
      "\"a\"\" OR \"\"b\" = $2 OR (\"club\".\"age\" NOT BETWEEN $3 AND $4 AND 1 = 1 OR 1 = 0) AND \"AND\" IS NOT NULL" := by
    obtain rfl := (List.cons.inj (Except.ok.inj written)).2
    decide +kernel
  have values : Fragment.values pieces = [.string "Ann", .int32 1, .int32 9] := by
    obtain rfl := (List.cons.inj (Except.ok.inj written)).2
    rfl
  have whole : scope.path "a\" OR \"b" = ["a\" OR \"b"] := by decide +kernel
  have dotted : scope.path "club.age" = ["club", "age"] := by decide +kernel
  have word : scope.path "AND" = ["AND"] := by decide +kernel
  refine ⟨⟨List.cons_ne_nil _ _, writable⟩, fun runs => ?_⟩
  rw [← text, ← whole, ← dotted, ← word]
  have parsed := parses runs
  rw [values] at parsed
  exact parsed

end Polystore
