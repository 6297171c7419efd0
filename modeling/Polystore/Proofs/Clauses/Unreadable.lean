/-
**Clauses with identifiers that their store cannot read.**

A document store reads object identifiers and their 24 digits, a database every text that is not blank.
Both look for unreadable identifiers at any depth of the clauses before they call their driver: reads
find nothing then, and writes fail.

* `judges_checkIdentifiers`: what the check before a statement tells about clauses;
* `legible_selectFragments`: statements are not written for identifiers, so none fails for one;
* `degrades_native`, `degrades_sql`: what an unreadable identifier makes of reads and writes;
* `unreadable_identifiers`: both, and that no other clauses fail for an identifier.
-/

import Polystore.Native.Engine
import Polystore.Proofs.Filter.Meaning
import Polystore.Sql.Engine

namespace Polystore

/-- Whether a value is a blank text. -/
def Value.isBlank : Value → Bool
  | .string text => Text.isAllBlank text
  | _ => false

/-- **Whether a condition compares an identifier column with a blank text**, alone or in a list. -/
def Predicate.namesBlank : Predicate → Bool
  | .compare column _ value => Sql.isIdColumn column && value.isBlank
  | .oneOf column values _ => Sql.isIdColumn column && values.any Value.isBlank
  | _ => false

/-- Whether a result is no failure about an identifier. -/
def Legible {α : Type} (result : Except DatabaseError α) : Prop :=
  ∀ reason, result ≠ .error (.invalidIdentifier reason)

/-- **What an unreadable identifier makes of a query**: reads find nothing, updates and deletions
without joins fail, and none of them makes a call. -/
structure Degrades {interface : Interface} (engine : Engine interface) (query : Query) : Prop where
  select : ∀ scope, engine.select scope query = pure []
  count : ∀ scope, engine.count scope query = pure 0
  update : query.joins = [] → ∀ scope values, ∃ reason,
    engine.execute scope { query with mutation := .update values } = .fail (.invalidIdentifier reason)
  delete : query.joins = [] → ∀ scope, ∃ reason,
    engine.execute scope { query with mutation := .delete } = .fail (.invalidIdentifier reason)

/-! ### Failures that are not about identifiers -/

section Results

variable {α β : Type} {result : Except DatabaseError α}

theorem legible_ok (value : α) : Legible (.ok value : Except DatabaseError α) := fun _ => nofun

theorem Legible.bind {next : α → Except DatabaseError β} (first : Legible result)
    (rest : ∀ value, Legible (next value)) : Legible (result >>= next) := by
  intro reason failed
  cases result with
  | ok value => exact rest value reason failed
  | error error =>
    obtain rfl : error = .invalidIdentifier reason := Except.error.inj failed
    exact first reason rfl

theorem Legible.map (legible : Legible result) (change : α → β) : Legible (result.map change) := by
  cases result with
  | ok value => exact legible_ok _
  | error error =>
    intro reason failed
    obtain rfl : error = .invalidIdentifier reason := Except.error.inj failed
    exact legible reason rfl

/-- Where everything is readable, no failure is about an identifier. -/
theorem Judges.legible {rawless : Bool} (judges : Judges true rawless result) : Legible result := by
  rintro reason rfl
  cases judges

theorem legible_requireTable (query : Query) : Legible query.requireTable := by
  intro reason
  unfold Query.requireTable
  split
  · split <;> nofun
  · nofun

end Results

/-! ### Document stores -/

section Documents

open Native

variable {query : Query} {table : String}

/-- A read fails as its filter does. -/
theorem read_of_error (bound : query.requireTable = .ok table) {error : DatabaseError}
    (failed : Native.filter query.clauses = .error error) : Native.read query = .error error := by
  rw [Native.read, bound, failed]
  rfl

theorem selectRows_of_error (scope : Scope) (bound : query.requireTable = .ok table)
    {error : DatabaseError} (failed : Native.filter query.clauses = .error error) :
    Native.selectRows scope query = .fail error := by
  rw [Native.selectRows, bound, read_of_error bound failed]
  rfl

theorem countRows_of_error (scope : Scope) (bound : query.requireTable = .ok table)
    {error : DatabaseError} (failed : Native.filter query.clauses = .error error) :
    Native.countRows scope query = .fail error := by
  have shaped : Native.selectRows scope query.forCount = .fail error :=
    @selectRows_of_error query.forCount table scope bound error failed
  rw [Native.countRows, bound, failed, shaped]
  show (if query.isPostProcessed = true then _ else _) = _
  split <;> rfl

theorem rejectJoins_of_unjoined (unjoined : query.joins = []) (statement : String) :
    Native.rejectJoins query statement = .ok () := by
  rw [Native.rejectJoins, Query.hasJoins, unjoined]
  rfl

/-- An update without joins is a filter and at most one call. -/
theorem executeQuery_update (scope : Scope) (bound : query.requireTable = .ok table)
    (unjoined : query.joins = []) (values : Document) :
    Native.executeQuery scope { query with mutation := .update values } = (do
      let filter ← Program.ofExcept (Native.filter query.clauses)
      let set := Document.withoutUndefined (Document.withoutId values)
      if set.isEmpty then return .nothing
      let affected : Nat ← .ask Native.interface scope (Call.update table filter set)
      return .count affected) := by
  have named : Query.requireTable { query with mutation := .update values } = .ok table := bound
  have free : Native.rejectJoins { query with mutation := .update values } "update" = .ok () :=
    rejectJoins_of_unjoined unjoined _
  rw [Native.executeQuery, named]
  show Native.updateRows scope table { query with mutation := .update values } values = _
  rw [Native.updateRows, free]
  rfl

/-- An update with joins is refused. -/
theorem executeQuery_update_of_joined (scope : Scope) (bound : query.requireTable = .ok table)
    (joins : query.joins ≠ []) (values : Document) :
    Native.executeQuery scope { query with mutation := .update values } =
      .fail (.unsupported ("joins in a " ++ "update" ++ " on a document connection")) := by
  have joined : query.hasJoins = true := by
    rw [Query.hasJoins, List.isEmpty_eq_false_iff.mpr joins]
    rfl
  show (Program.ofExcept query.requireTable >>= fun _ =>
    Program.ofExcept (if query.hasJoins = true then _ else _) >>= _) = _
  rw [bound, joined]
  rfl

/-- A deletion without joins is a filter and one call. -/
theorem executeQuery_delete (scope : Scope) (bound : query.requireTable = .ok table)
    (unjoined : query.joins = []) :
    Native.executeQuery scope { query with mutation := .delete } = (do
      let filter ← Program.ofExcept (Native.filter query.clauses)
      let affected : Nat ← .ask Native.interface scope (Call.delete table filter)
      return .count affected) := by
  have named : Query.requireTable { query with mutation := .delete } = .ok table := bound
  have free : Native.rejectJoins { query with mutation := .delete } "delete" = .ok () :=
    rejectJoins_of_unjoined unjoined _
  rw [Native.executeQuery, named]
  show Native.deleteRows scope table { query with mutation := .delete } = _
  rw [Native.deleteRows, free]
  rfl

/-- **An unreadable identifier on a document store.** -/
theorem degrades_native (bound : query.requireTable = .ok table)
    (rawless : ∀ leaf ∈ Clause.leaves query.clauses, leaf.isRaw = false)
    (unreadable : ∃ leaf ∈ Clause.leaves query.clauses, leaf.readsIdentifiers = false) :
    Degrades Native.engine query := by
  have judged := judges_filter query.clauses
  have unread : (Clause.leaves query.clauses).all Predicate.readsIdentifiers = false := by
    simpa using unreadable
  have unwritten : (Clause.leaves query.clauses).all (!·.isRaw) = true := by simpa using rawless
  rw [unread, unwritten] at judged
  obtain ⟨reason, failed⟩ := judged.exists_reason
  constructor
  · intro scope
    show (Native.selectRows scope query).orIfInvalidIdentifier [] = _
    rw [selectRows_of_error scope bound failed]
    rfl
  · intro scope
    show (Native.countRows scope query).orIfInvalidIdentifier 0 = _
    rw [countRows_of_error scope bound failed]
    rfl
  · intro unjoined scope values
    refine ⟨reason, ?_⟩
    show Native.executeQuery scope { query with mutation := .update values } = _
    rw [executeQuery_update scope bound unjoined, failed]
    rfl
  · intro unjoined scope
    refine ⟨reason, ?_⟩
    show Native.executeQuery scope { query with mutation := .delete } = _
    rw [executeQuery_delete scope bound unjoined, failed]
    rfl

theorem legible_read (query : Query) (legible : Legible (Native.filter query.clauses)) :
    Legible (Native.read query) :=
  (legible_requireTable query).bind fun _ => legible.bind fun _ => legible_ok _

end Documents

/-! ### Databases -/

section Databases

variable {query : Query} {table : String}

theorem judges_checkTexts (values : List Value) :
    Judges (!values.any Value.isBlank) true (Sql.checkTexts values) := by
  induction values with
  | nil => exact ⟨rfl, rfl⟩
  | cons value rest hypothesis =>
    rw [List.any_cons, Bool.not_or]
    cases value with
    | string text =>
      show Judges (!Text.isAllBlank text && _) (true && true) (TextIdentifier.parse text >>= _)
      refine Judges.bind ?_ fun _ => hypothesis
      unfold TextIdentifier.parse
      cases Text.isAllBlank text with
      | false => exact ⟨rfl, rfl⟩
      | true => exact rfl
    | _ => exact hypothesis

mutual

/-- **What the check of a condition tells**: whether a blank text is among its identifiers. -/
theorem judges_checkPredicate : (condition : Predicate) →
    Judges (condition.leaves.all (!·.namesBlank)) true (Sql.checkPredicate condition)
  | .compare column operator value => by
    have single := judges_checkTexts [value]
    show Judges (!(Sql.isIdColumn column && value.isBlank) && true) true
      (if Sql.isIdColumn column then Sql.checkTexts [value] else .ok ())
    cases Sql.isIdColumn column with
    | false => exact ⟨rfl, rfl⟩
    | true =>
      rw [List.any_cons, List.any_nil, Bool.or_false] at single
      rw [Bool.true_and, Bool.and_true]
      exact single
  | .oneOf column values negated => by
    show Judges (!(Sql.isIdColumn column && values.any Value.isBlank) && true) true
      (if Sql.isIdColumn column then Sql.checkTexts values else .ok ())
    cases Sql.isIdColumn column with
    | false => exact ⟨rfl, rfl⟩
    | true =>
      rw [Bool.true_and, Bool.and_true]
      exact judges_checkTexts values
  | .group clauses => judges_checkIdentifiers clauses
  | .between _ _ _ _ | .isNull _ _ | .like _ _ | .raw _ _ => ⟨rfl, rfl⟩

/-- `judges_checkPredicate` for a list of clauses. -/
theorem judges_checkIdentifiers : (clauses : List (Connective × Predicate)) →
    Judges ((Clause.leaves clauses).all (!·.namesBlank)) true (Sql.checkIdentifiers clauses)
  | [] => ⟨rfl, rfl⟩
  | (_, condition) :: rest => by
    rw [Clause.leaves, List.all_append]
    exact (judges_checkPredicate condition).bind fun _ => judges_checkIdentifiers rest

end

/-- **An unreadable identifier in a database.** Its check stands before everything else. -/
theorem degrades_sql (dialect : SqlDialect) (bound : query.requireTable = .ok table)
    (unreadable : ∃ leaf ∈ Clause.leaves query.clauses, leaf.namesBlank = true) :
    Degrades (Sql.engine dialect) query := by
  have judged := judges_checkIdentifiers query.clauses
  have blank : (Clause.leaves query.clauses).all (!·.namesBlank) = false := by simpa using unreadable
  rw [blank] at judged
  obtain ⟨reason, failed⟩ := judged.exists_reason
  constructor
  · intro scope
    show (Sql.selectRows dialect scope query).orIfInvalidIdentifier [] = _
    rw [Sql.selectRows, failed]
    rfl
  · intro scope
    show (Sql.countRows dialect scope query).orIfInvalidIdentifier 0 = _
    rw [Sql.countRows, failed]
    rfl
  · intro _ scope values
    refine ⟨reason, ?_⟩
    have named : Query.requireTable { query with mutation := .update values } = .ok table := bound
    show Sql.executeQuery dialect scope { query with mutation := .update values } = _
    rw [Sql.executeQuery, named]
    show Sql.updateRows dialect scope { query with mutation := .update values } values = _
    rw [Sql.updateRows, failed]
    rfl
  · intro _ scope
    refine ⟨reason, ?_⟩
    have named : Query.requireTable { query with mutation := .delete } = .ok table := bound
    show Sql.executeQuery dialect scope { query with mutation := .delete } = _
    rw [Sql.executeQuery, named]
    show Sql.deleteRows dialect scope { query with mutation := .delete } = _
    rw [Sql.deleteRows, failed]
    rfl

theorem legible_raw (sql : String) (values : List Value) : Legible (Sql.Condition.raw sql values) := by
  intro reason
  unfold Sql.Condition.raw
  simp only
  split <;> nofun

mutual

/-- No condition fails to be written for an identifier. -/
theorem legible_predicate (scope : Sql.ColumnScope) : (condition : Predicate) →
    Legible (Sql.Condition.predicate scope condition)
  | .compare _ _ _ | .oneOf _ _ _ | .between _ _ _ _ | .isNull _ _ | .like _ _ => legible_ok _
  | .group [] => legible_ok _
  | .group (first :: rest) => (legible_clauses scope true (first :: rest)).map _
  | .raw sql values => legible_raw sql values

/-- `legible_predicate` for a list of clauses. -/
theorem legible_clauses (scope : Sql.ColumnScope) (isFirst : Bool) :
    (clauses : List (Connective × Predicate)) → Legible (Sql.Condition.clauses scope isFirst clauses)
  | [] => legible_ok _
  | (_, condition) :: rest => (legible_predicate scope condition).bind fun _ =>
    (legible_clauses scope false rest).map _

end

theorem legible_whereFragments (scope : Sql.ColumnScope) (clauses : List Clause) :
    Legible (Sql.whereFragments scope clauses) := by
  unfold Sql.whereFragments
  split
  · exact legible_ok _
  · exact (legible_clauses scope true clauses).map _

theorem legible_columnScope (dialect : SqlDialect) (query : Query) :
    Legible (Sql.columnScope dialect query) := by
  refine Legible.map ?_ _
  unfold Sql.baseName
  split
  · exact legible_ok _
  · exact fun _ => nofun

/-- **No select fails to be written for an identifier.** -/
theorem legible_selectFragments (dialect : SqlDialect) (columns : Sql.TargetColumns) (query : Query) :
    Legible (Sql.selectFragments dialect columns query) :=
  (legible_requireTable query).bind fun _ => (legible_columnScope dialect query).bind fun scope =>
    (legible_whereFragments scope query.clauses).bind fun _ => legible_ok _

theorem legible_rejectJoins (query : Query) (statement : String) :
    Legible (Sql.rejectJoins query statement) := by
  intro reason
  unfold Sql.rejectJoins
  split <;> nofun

theorem legible_updateStatement (dialect : SqlDialect) (query : Query) (values : Document) :
    Legible (Sql.updateStatement dialect query values) := by
  refine (legible_requireTable query).bind fun _ => (legible_rejectJoins query _).bind fun _ => ?_
  simp only
  split
  · exact fun _ => nofun
  · exact (legible_columnScope dialect query).bind fun scope =>
      (legible_whereFragments scope query.clauses).bind fun _ => legible_ok _

theorem legible_deleteStatement (dialect : SqlDialect) (query : Query) :
    Legible (Sql.deleteStatement dialect query) :=
  (legible_requireTable query).bind fun _ => (legible_rejectJoins query _).bind fun _ =>
    (legible_columnScope dialect query).bind fun scope =>
      (legible_whereFragments scope query.clauses).bind fun _ => legible_ok _

theorem legible_countStatement (dialect : SqlDialect) (columns : Sql.TargetColumns) (query : Query) :
    Legible (Sql.countStatement dialect columns query) :=
  (legible_selectFragments dialect columns query.forCount).bind fun _ => legible_ok _

end Databases

/-- **Unreadable identifiers.** On either kind of store, a query with one finds nothing and writes
nothing, at whatever depth it stands. A query without one may fail to become a read or a statement for
other causes only. -/
theorem unreadable_identifiers {query : Query} {table : String}
    (bound : query.requireTable = .ok table) :
    ((∃ leaf ∈ Clause.leaves query.clauses, leaf.namesBlank = true) →
      ∀ dialect, Degrades (Sql.engine dialect) query) ∧
    ((∀ leaf ∈ Clause.leaves query.clauses, leaf.namesBlank = false) →
      Sql.checkIdentifiers query.clauses = .ok () ∧
      ∀ dialect columns values, Legible (Sql.selectStatement dialect columns query) ∧
        Legible (Sql.countStatement dialect columns query) ∧
        Legible (Sql.updateStatement dialect query values) ∧
        Legible (Sql.deleteStatement dialect query)) ∧
    ((∀ leaf ∈ Clause.leaves query.clauses, leaf.isRaw = false) →
      (∃ leaf ∈ Clause.leaves query.clauses, leaf.readsIdentifiers = false) →
      Degrades Native.engine query) ∧
    ((∀ leaf ∈ Clause.leaves query.clauses, leaf.readsIdentifiers = true) →
      Legible (Native.filter query.clauses) ∧ Legible (Native.read query)) := by
  refine ⟨fun unreadable dialect => degrades_sql dialect bound unreadable, fun readable => ⟨?_, ?_⟩,
    degrades_native bound, fun readable => ?_⟩
  · have judged := judges_checkIdentifiers query.clauses
    have filled : (Clause.leaves query.clauses).all (!·.namesBlank) = true := by simpa using readable
    rw [filled] at judged
    obtain ⟨_, checked⟩ := judged.exists_value
    exact checked
  · intro dialect columns values
    exact ⟨(legible_selectFragments dialect columns query).map _,
      legible_countStatement dialect columns query, legible_updateStatement dialect query values,
      legible_deleteStatement dialect query⟩
  · have judged := judges_filter query.clauses
    have read : (Clause.leaves query.clauses).all Predicate.readsIdentifiers = true :=
      List.all_eq_true.mpr readable
    rw [read] at judged
    exact ⟨judged.legible, legible_read query judged.legible⟩

/-- A name, or a group with an `OR` and a list in which one identifier is of neither form. -/
def misnamed (identifier : Value) : Query :=
  { Query.ofTable "people" with
    clauses :=
      [(.and, .equal "name" (.string "Ann")),
        (.or, .group
          [(.and, .isNull "name" true), (.or, .oneOf "id" [.objectId ⟨1⟩, identifier] true)])] }

/-- A blank identifier is unreadable to both kinds of stores, a number only to document stores. -/
theorem unreadable_misnamed :
    Degrades (Sql.engine .postgres) (misnamed (.string " ")) ∧
      Degrades Native.engine (misnamed (.string " ")) ∧
      Degrades Native.engine (misnamed (.int64 2)) ∧
      Sql.checkIdentifiers (misnamed (.int64 2)).clauses = .ok () := by
  have blank := @unreadable_identifiers (misnamed (.string " ")) "people" rfl
  have number := @unreadable_identifiers (misnamed (.int64 2)) "people" rfl
  refine ⟨blank.1 ?_ .postgres, blank.2.2.1 ?_ ?_, number.2.2.1 ?_ ?_, (number.2.1 ?_).1⟩
  all_goals decide +kernel

end Polystore
