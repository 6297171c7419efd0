/-
**What of a value reaches the text of a statement.**

The outline of pieces keeps their texts and forgets which values stand between them. Conditions
correspond if they differ in bound values only, with as many values in every list and with null against
null where a comparison tests for it; commands correspond if their conditions and payloads do.

* `outlines_clauses`: corresponding conditions have one outline, or fail with one error;
* `sql_of_corresponds`: corresponding commands have one text, or fail with one error.
-/

import Polystore.Proofs.Statement.Commands

namespace Polystore

open Sql

/-! ### Outlines -/

/-- What stays of a piece without its value. -/
def Fragment.outline : Fragment → Option String
  | text sql => some sql
  | value _ => none

/-- What stays of pieces without their values. -/
def Fragment.outlines (pieces : List Fragment) : List (Option String) := pieces.map outline

namespace Fragment

@[simp] theorem outlines_nil : outlines [] = [] := rfl

@[simp] theorem outlines_text_cons (sql : String) (rest : List Fragment) :
    outlines (text sql :: rest) = some sql :: outlines rest := rfl

@[simp] theorem outlines_value_cons (bound : Value) (rest : List Fragment) :
    outlines (value bound :: rest) = none :: outlines rest := rfl

@[simp] theorem outlines_append (first second : List Fragment) :
    outlines (first ++ second) = outlines first ++ outlines second := List.map_append

/-- The joined pieces and the number of their values are read off the outline. -/
theorem render_congr (placeholder : Nat → String) {left right : List Fragment}
    (same : outlines left = outlines right) (count : Nat) :
    render placeholder count left = render placeholder count right ∧
      (values left).length = (values right).length := by
  induction left generalizing right count with
  | nil =>
    cases right with
    | nil => exact ⟨rfl, rfl⟩
    | cons piece rest => cases same
  | cons piece rest hypothesis =>
    cases right with
    | nil => cases same
    | cons other others =>
      obtain ⟨head, tail⟩ := List.cons_eq_cons.mp same
      cases piece <;> cases other <;> cases head
      · obtain ⟨texts, lengths⟩ := hypothesis tail count
        exact ⟨congrArg (_ ++ ·) texts, lengths⟩
      · obtain ⟨texts, lengths⟩ := hypothesis tail (count + 1)
        exact ⟨congrArg (_ ++ ·) texts, congrArg Nat.succ lengths⟩

theorem outlines_separated (separator : String) {left right : List Value}
    (same : left.length = right.length) :
    outlines (separated separator left) = outlines (separated separator right) := by
  fun_induction separated separator left generalizing right with
  | case1 =>
    rw [List.eq_nil_of_length_eq_zero same.symm]
    rfl
  | case2 only =>
    obtain ⟨other, rfl⟩ := List.length_eq_one_iff.mp same.symm
    rfl
  | case3 first rest longer hypothesis =>
    obtain ⟨other, others, rfl⟩ := List.exists_cons_of_length_eq_add_one same.symm
    have lengths : rest.length = others.length := Nat.succ.inj same
    cases others with
    | nil => exact absurd (List.eq_nil_of_length_eq_zero lengths) longer
    | cons next further => exact congrArg (none :: some separator :: ·) (hypothesis lengths)

end Fragment

/-- The text of a statement and the number of its bindings. -/
def Statement.shape (statement : Statement) : String × Nat := (statement.sql, statement.bindings.length)

theorem shape_statement (dialect : SqlDialect) {left right : List Fragment}
    (same : Fragment.outlines left = Fragment.outlines right) :
    (dialect.statement left).shape = (dialect.statement right).shape := by
  obtain ⟨texts, lengths⟩ := Fragment.render_congr dialect.placeholder same 0
  exact Prod.ext texts lengths

/-! ### Corresponding conditions -/

mutual

/-- Conditions that differ in bound values only: as many of them in every list, and null against null
where a comparison tests for it. -/
inductive Predicate.Corresponds : Predicate → Predicate → Prop
  | compare (column : String) (operator : Operator) {left right : Value}
      (nulls : operator = .equal ∨ operator = .notEqual → left.isNull = right.isNull) :
      Predicate.Corresponds (.compare column operator left) (.compare column operator right)
  | oneOf (column : String) (negated : Bool) {left right : List Value}
      (same : left.length = right.length) :
      Predicate.Corresponds (.oneOf column left negated) (.oneOf column right negated)
  | between (column : String) (negated : Bool) (leftLow leftHigh rightLow rightHigh : Value) :
      Predicate.Corresponds (.between column leftLow leftHigh negated) (.between column rightLow rightHigh negated)
  | isNull (column : String) (negated : Bool) :
      Predicate.Corresponds (.isNull column negated) (.isNull column negated)
  | like (column leftPattern rightPattern : String) :
      Predicate.Corresponds (.like column leftPattern) (.like column rightPattern)
  | group {left right : List Clause} (inside : Clause.Correspond left right) :
      Predicate.Corresponds (.group left) (.group right)
  | raw (sql : String) {left right : List Value} (same : left.length = right.length) :
      Predicate.Corresponds (.raw sql left) (.raw sql right)

/-- Clauses with the same connectives whose conditions correspond. -/
inductive Clause.Correspond : List Clause → List Clause → Prop
  | nil : Clause.Correspond [] []
  | cons (connective : Connective) {left right : Predicate} {lefts rights : List Clause}
      (first : Predicate.Corresponds left right) (rest : Clause.Correspond lefts rights) :
      Clause.Correspond ((connective, left) :: lefts) ((connective, right) :: rights)

end

/-- Queries that agree but for bound values. What is shown beside the rows and what is to be written is no
part of a statement. -/
inductive Query.Corresponds : Query → Query → Prop
  | intro (query : Query) {clauses : List Clause} (same : Clause.Correspond query.clauses clauses)
      (loads : List Load) (mutation : Mutation) :
      Query.Corresponds query { query with clauses := clauses, loads := loads, mutation := mutation }

/-- Documents with the same fields in the same order, undefined against undefined. -/
def Document.Corresponds : Document → Document → Prop :=
  List.Forall₂ fun left right => left.1 = right.1 ∧ left.2.isUndefined = right.2.isUndefined

/-- Commands that agree but for bound values. -/
inductive Sql.Command.Corresponds : Command → Command → Prop
  | select (columns : TargetColumns) {left right : Query} (same : left.Corresponds right) :
      Command.Corresponds (.select columns left) (.select columns right)
  | count (columns : TargetColumns) {left right : Query} (same : left.Corresponds right) :
      Command.Corresponds (.count columns left) (.count columns right)
  | insert (table : String) {left right : Document} (same : left.Corresponds right) :
      Command.Corresponds (.insert table left) (.insert table right)
  | update {left right : Query} {values others : Document} (same : left.Corresponds right)
      (payload : values.Corresponds others) :
      Command.Corresponds (.update left values) (.update right others)
  | delete {left right : Query} (same : left.Corresponds right) :
      Command.Corresponds (.delete left) (.delete right)

theorem Clause.Correspond.isEmpty_eq {left right : List Clause} (same : Correspond left right) :
    left.isEmpty = right.isEmpty := by
  cases same <;> rfl

namespace Sql

section Conditions

variable {scope : ColumnScope}

theorem outlines_woven (pieces : List String) {left right : List Value}
    (same : left.length = right.length) :
    Fragment.outlines (Condition.woven pieces left) = Fragment.outlines (Condition.woven pieces right) := by
  induction pieces generalizing left right with
  | nil => rfl
  | cons piece rest hypothesis =>
    match left, right, same with
    | [], [], _ => rfl
    | _ :: _, _ :: _, same =>
      exact congrArg (some piece :: none :: ·) (hypothesis (Nat.succ.inj same))

theorem outlines_compare (column : String) (operator : Operator) {left right : Value}
    (nulls : operator = .equal ∨ operator = .notEqual → left.isNull = right.isNull) :
    Fragment.outlines (Condition.compare column operator left) =
      Fragment.outlines (Condition.compare column operator right) := by
  cases operator with
  | equal =>
    have tested := nulls (.inl rfl)
    cases left <;> cases right <;> first | rfl | cases tested
  | notEqual =>
    have tested := nulls (.inr rfl)
    cases left <;> cases right <;> first | rfl | cases tested
  | _ => rfl

theorem outlines_oneOf (column : String) (negated : Bool) {left right : List Value}
    (same : left.length = right.length) :
    Fragment.outlines (Condition.oneOf column left negated) =
      Fragment.outlines (Condition.oneOf column right negated) := by
  match left, right, same with
  | [], [], _ => rfl
  | first :: rest, other :: others, same =>
    have values := Fragment.outlines_separated ", " same
    simp only [Condition.oneOf, List.isEmpty_cons, Bool.false_eq_true, if_false, List.cons_append,
      Fragment.outlines_text_cons, Fragment.outlines_append, values]

theorem outlines_raw (sql : String) {left right : List Value} (same : left.length = right.length) :
    (Condition.raw sql left).map Fragment.outlines = (Condition.raw sql right).map Fragment.outlines := by
  simp only [Condition.raw]
  rw [same]
  split
  · refine congrArg Except.ok ?_
    simp only [List.cons_append, Fragment.outlines_text_cons, Fragment.outlines_append,
      outlines_woven _ same]
  · rfl

mutual

/-- **Corresponding conditions** have one outline, or fail with one error. -/
theorem outlines_predicate {left right : Predicate} :
    left.Corresponds right →
      (Condition.predicate scope left).map Fragment.outlines =
        (Condition.predicate scope right).map Fragment.outlines
  | .compare column operator nulls => congrArg Except.ok (outlines_compare _ operator nulls)
  | .oneOf column negated same => congrArg Except.ok (outlines_oneOf _ negated same)
  | .between _ _ _ _ _ _ => rfl
  | .isNull _ _ => rfl
  | .like _ _ _ => rfl
  | .group .nil => rfl
  | .group (.cons connective first rest) =>
    map_bind_congr (outlines_clauses true (.cons connective first rest)) fun one other same => by
      refine congrArg Except.ok ?_
      simp only [List.cons_append, Fragment.outlines_text_cons, Fragment.outlines_append, same]
  | .raw sql same => outlines_raw sql same

theorem outlines_clauses {left right : List Clause} (isFirst : Bool) :
    Clause.Correspond left right →
      (Condition.clauses scope isFirst left).map Fragment.outlines =
        (Condition.clauses scope isFirst right).map Fragment.outlines
  | .nil => rfl
  | .cons connective first rest =>
    map_bind_congr (outlines_predicate first) fun one other same =>
      map_bind_congr (outlines_clauses false rest) fun ones others alike => by
        refine congrArg Except.ok ?_
        simp only [Fragment.outlines_append, same, alike]

end

theorem outlines_whereFragments {left right : List Clause} (same : Clause.Correspond left right) :
    (whereFragments scope left).map Fragment.outlines =
      (whereFragments scope right).map Fragment.outlines := by
  unfold whereFragments
  rw [same.isEmpty_eq]
  split
  · rfl
  · exact map_map_congr (outlines_clauses true same) fun _ _ alike => congrArg (some " WHERE " :: ·) alike

end Conditions

/-! ### Corresponding payloads -/

section Payloads

variable {left right : Document}

theorem corresponds_withoutUndefined (same : left.Corresponds right) :
    (Document.withoutUndefined left).Corresponds (Document.withoutUndefined right) :=
  List.rel_filter (fun _ _ alike => by simp only [alike.2]) same

theorem corresponds_withoutId (same : left.Corresponds right) :
    (Document.withoutId left).Corresponds (Document.withoutId right) :=
  List.rel_filter (fun _ _ alike => by simp only [alike.1]) same

theorem isEmpty_eq_of_corresponds (same : left.Corresponds right) : left.isEmpty = right.isEmpty := by
  cases same <;> rfl

theorem names_eq_of_corresponds (dialect : SqlDialect) (same : left.Corresponds right) :
    left.map (fun field => dialect.quote field.1) = right.map fun field => dialect.quote field.1 := by
  induction same with
  | nil => rfl
  | cons alike _ hypothesis => rw [List.map_cons, List.map_cons, alike.1, hypothesis]

theorem outlines_assignments (dialect : SqlDialect) (isFirst : Bool) (same : left.Corresponds right) :
    Fragment.outlines (assignments dialect isFirst left) =
      Fragment.outlines (assignments dialect isFirst right) := by
  induction same generalizing isFirst with
  | nil => rfl
  | @cons field other rest others alike _ hypothesis =>
    obtain ⟨key, value⟩ := field
    obtain ⟨_, _⟩ := other
    obtain ⟨rfl, _⟩ := alike
    exact congrArg (_ :: none :: ·) (hypothesis false)

end Payloads

/-! ### Corresponding commands -/

section Commands

variable (dialect : SqlDialect) {left right : Query}

theorem outlines_selectFragments (columns : TargetColumns) (same : left.Corresponds right) :
    (selectFragments dialect columns left).map Fragment.outlines =
      (selectFragments dialect columns right).map Fragment.outlines := by
  cases same with
  | intro clauses loads mutation =>
    refine map_bind_congr_right fun table _ => ?_
    refine map_bind_congr_right fun scope _ => ?_
    refine map_bind_congr (outlines_whereFragments clauses) fun condition other alike => ?_
    refine congrArg Except.ok ?_
    simp only [List.cons_append, Fragment.outlines_text_cons, Fragment.outlines_append, alike]
    rfl

theorem forCount_corresponds (same : left.Corresponds right) :
    left.forCount.Corresponds right.forCount := by
  cases same with
  | intro clauses loads mutation => exact .intro left.forCount clauses [] .select

theorem shape_selectStatement (columns : TargetColumns) (same : left.Corresponds right) :
    (selectStatement dialect columns left).map Statement.shape =
      (selectStatement dialect columns right).map Statement.shape :=
  map_map_congr (outlines_selectFragments dialect columns same) fun _ _ alike =>
    shape_statement dialect alike

theorem shape_countStatement (columns : TargetColumns) (same : left.Corresponds right) :
    (countStatement dialect columns left).map Statement.shape =
      (countStatement dialect columns right).map Statement.shape :=
  map_bind_congr (outlines_selectFragments dialect columns (forCount_corresponds same))
    fun one other alike => congrArg Except.ok (shape_statement dialect (by
      simp only [Fragment.outlines_text_cons, List.cons_append, Fragment.outlines_append, alike]))

theorem shape_insertStatement (table : String) {document other : Document}
    (same : document.Corresponds other) :
    (insertStatement dialect table document).map Statement.shape =
      (insertStatement dialect table other).map Statement.shape := by
  have fields := corresponds_withoutUndefined same
  have lengths : ((Document.withoutUndefined document).map Prod.snd).length =
      ((Document.withoutUndefined other).map Prod.snd).length := by
    rw [List.length_map, List.length_map, fields.length_eq]
  simp only [insertStatement]
  rw [isEmpty_eq_of_corresponds fields, names_eq_of_corresponds dialect fields]
  split
  · rfl
  · refine congrArg Except.ok (shape_statement dialect ?_)
    simp only [Fragment.outlines_text_cons, List.cons_append, Fragment.outlines_append,
      Fragment.outlines_separated ", " lengths]

theorem shape_updateStatement {values others : Document} (same : left.Corresponds right)
    (payload : values.Corresponds others) :
    (updateStatement dialect left values).map Statement.shape =
      (updateStatement dialect right others).map Statement.shape := by
  have fields := corresponds_withoutUndefined (corresponds_withoutId payload)
  cases same with
  | intro clauses loads mutation =>
    refine map_bind_congr_right fun table _ => ?_
    refine map_bind_congr_right fun allowed _ => ?_
    simp only
    rw [isEmpty_eq_of_corresponds fields]
    split
    · rfl
    · refine map_bind_congr_right fun scope _ => ?_
      refine map_bind_congr (outlines_whereFragments clauses) fun condition other alike => ?_
      refine congrArg Except.ok (shape_statement dialect ?_)
      simp only [List.cons_append, Fragment.outlines_text_cons, Fragment.outlines_append, alike,
        outlines_assignments dialect true fields]

theorem shape_deleteStatement (same : left.Corresponds right) :
    (deleteStatement dialect left).map Statement.shape =
      (deleteStatement dialect right).map Statement.shape := by
  cases same with
  | intro clauses loads mutation =>
    refine map_bind_congr_right fun table _ => ?_
    refine map_bind_congr_right fun allowed _ => ?_
    refine map_bind_congr_right fun scope _ => ?_
    refine map_bind_congr (outlines_whereFragments clauses) fun condition other alike => ?_
    exact congrArg Except.ok (shape_statement dialect (congrArg (_ :: ·) alike))

/-- Corresponding commands have statements of one shape. -/
theorem shape_of_corresponds {left right : Command} (same : left.Corresponds right) :
    (left.statement dialect).map Statement.shape = (right.statement dialect).map Statement.shape := by
  cases same with
  | select columns same => exact shape_selectStatement dialect columns same
  | count columns same => exact shape_countStatement dialect columns same
  | insert table same => exact shape_insertStatement dialect table same
  | update same payload => exact shape_updateStatement dialect same payload
  | delete same => exact shape_deleteStatement dialect same

/-- **Values never reach the text of a statement.** Commands that agree but for bound values both fail
with one error, or have one text and as many bindings as each other. -/
theorem sql_of_corresponds {left right : Command} (same : left.Corresponds right) :
    (∃ error, left.statement dialect = .error error ∧ right.statement dialect = .error error) ∨
      ∃ first second, left.statement dialect = .ok first ∧ right.statement dialect = .ok second ∧
        first.sql = second.sql ∧ first.bindings.length = second.bindings.length := by
  refine (map_eq_map_iff.mp (shape_of_corresponds dialect same)).imp_right ?_
  rintro ⟨first, second, made, written, alike⟩
  obtain ⟨texts, lengths⟩ := Prod.ext_iff.mp alike
  exact ⟨first, second, made, written, texts, lengths⟩

/-- An update of the guests among users, with the values of its conditions. -/
def updateOfUsers (name first second pattern : String) (values : List Value) (role : String) : Command :=
  .update
    { Query.ofTable "users" with
      clauses := [(.and, .equal "name" (.string name)),
        (.or, .group [(.and, .oneOf "age" [.string first, .string second] true),
          (.and, .group [(.or, .like "mail" pattern), (.or, .raw "x = ? OR y > ?" values)])])] }
    [("id", .int32 1), ("role", .string role), ("seen", .undefined)]

/-- Values that try to be more than values leave the text as it is. -/
theorem sql_hostile :
    ∃ first second,
      (updateOfUsers "Ann" "30" "40" "%@b.c" [.int32 1, .null] "guest").statement .postgres = .ok first ∧
      (updateOfUsers "' OR '1' = '1" "$1" "?); DROP TABLE users; --" "') OR 1 = 1 --"
        [.string "?", .array [.null]] "admin', id = '1").statement .postgres = .ok second ∧
      first.sql = second.sql ∧ first.bindings.length = second.bindings.length := by
  have inner : Clause.Correspond
      [(.or, .like "mail" "%@b.c"), (.or, .raw "x = ? OR y > ?" [.int32 1, .null])]
      [(.or, .like "mail" "') OR 1 = 1 --"), (.or, .raw "x = ? OR y > ?" [.string "?", .array [.null]])] :=
    .cons .or (.like "mail" _ _) (.cons .or (.raw "x = ? OR y > ?" rfl) .nil)
  have outer := Clause.Correspond.cons .or
    (.group (.cons .and
      (.oneOf "age" true (show [Value.string "30", .string "40"].length =
        [Value.string "$1", .string "?); DROP TABLE users; --"].length from rfl))
      (.cons .and (.group inner) .nil))) .nil
  have name : (Predicate.equal "name" (.string "Ann")).Corresponds
      (.equal "name" (.string "' OR '1' = '1")) := .compare "name" .equal fun _ => rfl
  refine (sql_of_corresponds .postgres ?_).resolve_left ?_
  · refine .update ?_ (.cons ⟨rfl, rfl⟩ (.cons ⟨rfl, rfl⟩ (.cons ⟨rfl, rfl⟩ .nil)))
    exact .intro _ (.cons .and name outer) [] .select
  · rintro ⟨error, failed, _⟩
    have made : ((updateOfUsers "Ann" "30" "40" "%@b.c" [.int32 1, .null] "guest").statement
        .postgres).toBool = true := by
      decide +kernel
    rw [failed] at made
    cases made

end Commands

end Sql

end Polystore
