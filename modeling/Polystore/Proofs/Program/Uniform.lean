/-
**Programs that do the same in every scope.**

The operations of a connection make all their calls through its scope, and what they ask for does not
depend on it. `Program.Uniform` says so of a program for every scope; the calls that begin and end
transactions are not among those it may make.

* `Uniform.bind`, `Uniform.orIfInvalidIdentifier`, `Uniform.ofSilent`: uniform programs made of programs;
* `uniform_request`: every operation is uniform, if those of the engine are;
* `isUniform_native`, `isUniform_sql`: those of both kinds of engines are.
-/

import Polystore.Exchange.Request
import Polystore.Proofs.Memory.Ledger
import Polystore.Proofs.Memory.Session

namespace Polystore

namespace Program

variable {interface : Interface} {α β : Type} {isWork : interface.Call → Bool}

/-- **Whether programs, one for every scope, do the same**: all their calls go through the scope and are
work. -/
inductive Uniform (isWork : interface.Call → Bool) : {α : Type} → (Scope → Program interface α) → Prop
  | done {α : Type} (value : α) : Uniform isWork fun _ => .done value
  | fail {α : Type} (error : DatabaseError) : Uniform isWork fun _ => (.fail error : Program interface α)
  | draw {α : Type} {next : Draw → Scope → Program interface α}
    (each : ∀ bits, Uniform isWork (next bits)) :
    Uniform isWork fun scope => .draw fun bits => next bits scope
  | call {α : Type} {request : interface.Call}
    {next : Except DatabaseError (interface.Reply request) → Scope → Program interface α}
    (works : isWork request = true) (each : ∀ reply, Uniform isWork (next reply)) :
    Uniform isWork fun scope => .call scope request fun reply => next reply scope

namespace Uniform

variable {program : Scope → Program interface α}

theorem bind (first : Uniform isWork program) {next : α → Scope → Program interface β}
    (rest : ∀ value, Uniform isWork (next value)) :
    Uniform isWork fun scope => program scope >>= fun value => next value scope := by
  induction first with
  | done value => exact rest value
  | fail error => exact .fail error
  | draw each hypothesis => exact .draw fun bits => hypothesis bits
  | call works each hypothesis => exact .call works fun reply => hypothesis reply

theorem ofExcept (result : Except DatabaseError α) :
    Uniform isWork fun _ => (.ofExcept result : Program interface α) := by
  cases result with
  | ok value => exact .done value
  | error error => exact .fail error

theorem pure (value : α) : Uniform isWork fun _ => (Pure.pure value : Program interface α) := .done value

theorem ask {request : interface.Call} (works : isWork request = true) :
    Uniform isWork fun scope => Program.ask interface scope request :=
  .call works fun reply => .ofExcept reply

theorem fresh : Uniform isWork fun _ => (Program.fresh : Program interface Draw) :=
  .draw fun bits => .done bits

/-- A program without calls has no need of a scope. -/
theorem ofSilent {program : Program interface α} (silent : program.Calls fun _ => False) :
    Uniform isWork fun _ => program := by
  induction program with
  | done value => exact .done value
  | fail error => exact .fail error
  | draw next hypothesis => exact .draw fun bits => hypothesis bits (silent bits)
  | call scope request next => exact silent.1.elim

theorem orIfInvalidIdentifier (uniform : Uniform isWork program) (fallback : α) :
    Uniform isWork fun scope => (program scope).orIfInvalidIdentifier fallback := by
  induction uniform with
  | done value => exact .done value
  | fail error =>
    unfold Program.orIfInvalidIdentifier
    split
    · exact .done fallback
    · exact .fail error
  | draw each hypothesis => exact .draw fun bits => hypothesis bits
  | call works each hypothesis => exact .call works fun reply => hypothesis reply

end Uniform

end Program

open Program

/-- **Whether the operations of an engine do the same in every scope.** -/
structure Engine.IsUniform {interface : Interface} (engine : Engine interface)
    (isWork : interface.Call → Bool) : Prop where
  select : ∀ query, Uniform isWork fun scope => engine.select scope query
  count : ∀ query, Uniform isWork fun scope => engine.count scope query
  execute : ∀ query, Uniform isWork fun scope => engine.execute scope query
  truncate : ∀ table, Uniform isWork fun scope => engine.truncate scope table

section Connections

variable {interface : Interface} {engine : Engine interface} {isWork : interface.Call → Bool}
  {validator : Validator}

theorem uniform_rows (uniform : engine.IsUniform isWork) (relationship : Relationship) (row : Document) :
    Uniform isWork fun scope => relationship.rows engine scope row := by
  unfold Relationship.rows
  split
  · exact uniform.select _
  · exact .done []

theorem uniform_first? (uniform : engine.IsUniform isWork) (relationship : Relationship)
    (row : Document) : Uniform isWork fun scope => relationship.first? engine scope row :=
  (uniform_rows uniform relationship row).bind fun _ => .pure _

theorem uniform_resolve (uniform : engine.IsUniform isWork) (relationship : Relationship)
    (row : Document) : Uniform isWork fun scope => relationship.resolve engine scope row := by
  unfold Relationship.resolve
  split
  · refine (uniform_first? uniform relationship row).bind fun related => ?_
    split <;> exact .pure _
  · exact (uniform_rows uniform relationship row).bind fun _ => .pure _

theorem uniform_loadInto (uniform : engine.IsUniform isWork) (loads : List Load) (row : Document) :
    Uniform isWork fun scope => (Connection.mk engine scope validator).loadInto loads row := by
  induction loads generalizing row with
  | nil => exact .done row
  | cons load rest hypothesis =>
    exact (uniform_resolve uniform load.relationship row).bind fun _ => hypothesis _

theorem uniform_loadAll (uniform : engine.IsUniform isWork) (loads : List Load) (rows : List Document) :
    Uniform isWork fun scope => (Connection.mk engine scope validator).loadAll loads rows := by
  induction rows with
  | nil => exact .done []
  | cons row rest hypothesis =>
    exact (uniform_loadInto uniform loads row).bind fun _ => hypothesis.bind fun _ => .pure _

theorem uniform_get (uniform : engine.IsUniform isWork) (query : Query) :
    Uniform isWork fun scope => (Connection.mk engine scope validator).get query := by
  refine (Uniform.ofExcept _).bind fun _ => (uniform.select query).bind fun rows => ?_
  split
  · exact .pure rows
  · exact uniform_loadAll uniform query.loads rows

theorem uniform_count (uniform : engine.IsUniform isWork) (query : Query) :
    Uniform isWork fun scope => (Connection.mk engine scope validator).count query :=
  (Uniform.ofExcept _).bind fun _ => uniform.count query

theorem uniform_execute (uniform : engine.IsUniform isWork) (query : Query) (mutation : Mutation) :
    Uniform isWork fun scope => (Connection.mk engine scope validator).execute query mutation :=
  uniform.execute _

theorem uniform_insertMany (uniform : engine.IsUniform isWork) (query : Query)
    (documents : List Document) :
    Uniform isWork fun scope => (Connection.mk engine scope validator).insertMany query documents := by
  refine (Uniform.ofExcept _).bind fun _ =>
    (Uniform.ofExcept (validator.requireIdentifiers false documents)).bind fun accepted => ?_
  split
  · exact .pure []
  · exact (uniform_execute uniform query _).bind fun _ => .pure _

theorem uniform_insertOne (uniform : engine.IsUniform isWork) (query : Query) (document : Document) :
    Uniform isWork fun scope => (Connection.mk engine scope validator).insertOne query document := by
  refine (uniform_insertMany uniform query [document]).bind fun inserted => ?_
  split
  · exact .pure _
  · exact .fail _

theorem uniform_updateEach (uniform : engine.IsUniform isWork) (query : Query)
    (documents : List Document) :
    Uniform isWork fun scope => (Connection.mk engine scope validator).updateEach query documents := by
  induction documents with
  | nil => exact .done 0
  | cons document rest hypothesis =>
    exact (uniform_execute uniform _ _).bind fun _ => hypothesis.bind fun _ => .pure _

theorem uniform_updateMany (uniform : engine.IsUniform isWork) (query : Query)
    (documents : List Document) :
    Uniform isWork fun scope => (Connection.mk engine scope validator).updateMany query documents := by
  refine (Uniform.ofExcept _).bind fun _ =>
    (Uniform.ofExcept (validator.requireIdentifiers true documents)).bind fun accepted => ?_
  split
  · exact uniform_updateEach uniform query documents
  · exact .pure 0

theorem uniform_deleteMany (uniform : engine.IsUniform isWork) (query : Query)
    (documents : List Document) :
    Uniform isWork fun scope => (Connection.mk engine scope validator).deleteMany query documents := by
  refine (Uniform.ofExcept _).bind fun _ =>
    (Uniform.ofExcept (validator.requireIdentifiers true documents)).bind fun accepted => ?_
  split
  · exact .pure 0
  · exact (uniform_execute uniform _ _).bind fun _ => .pure _

/-- **Every operation does the same in every scope**, if those of the engine do. -/
theorem uniform_request (uniform : engine.IsUniform isWork) (request : Request) :
    Uniform isWork fun scope => request.run ⟨engine, scope, validator⟩ := by
  cases request with
  | get query => exact (uniform_get uniform query).bind fun _ => .pure _
  | first query =>
    exact ((uniform_get uniform _).bind fun _ => .pure _).bind fun _ => .pure _
  | count query => exact (uniform_count uniform query).bind fun _ => .pure _
  | hasRows query => exact ((uniform_count uniform query).bind fun _ => .pure _).bind fun _ => .pure _
  | findById query identifier =>
    exact ((uniform_get uniform _).bind fun _ => .pure _).bind fun _ => .pure _
  | findOne query options => exact ((uniform_get uniform _).bind fun _ => .pure _).bind fun _ => .pure _
  | findMany query options => exact (uniform_get uniform _).bind fun _ => .pure _
  | insertOne query document => exact (uniform_insertOne uniform query document).bind fun _ => .pure _
  | insertMany query documents => exact (uniform_insertMany uniform query documents).bind fun _ => .pure _
  | updateMany query documents => exact (uniform_updateMany uniform query documents).bind fun _ => .pure _
  | deleteMany query documents => exact (uniform_deleteMany uniform query documents).bind fun _ => .pure _
  | update query values =>
    exact ((Uniform.ofExcept _).bind fun _ =>
      (uniform_execute uniform _ _).bind fun _ => .pure _).bind fun _ => .pure _
  | delete query =>
    exact ((Uniform.ofExcept _).bind fun _ =>
      (uniform_execute uniform _ _).bind fun _ => .pure _).bind fun _ => .pure _
  | truncate query =>
    exact ((Uniform.ofExcept _).bind fun _ => uniform.truncate _).bind fun _ => .pure _
  | belongsTo query document localKey foreignKey =>
    exact ((Uniform.ofExcept _).bind fun _ => uniform_first? uniform _ document).bind fun _ => .pure _
  | hasMany query document localKey foreignKey =>
    exact ((Uniform.ofExcept _).bind fun _ => uniform_rows uniform _ document).bind fun _ => .pure _
  | paginate query request =>
    exact ((uniform_count uniform query).bind fun _ =>
      (uniform_get uniform _).bind fun _ => .ofExcept _).bind fun _ => .pure _
  | select query => exact (uniform.select query).bind fun _ => .pure _
  | countRows query => exact (uniform.count query).bind fun _ => .pure _
  | execute query => exact (uniform.execute query).bind fun _ => .pure _
  | truncateTable name => exact (uniform.truncate name).bind fun _ => .pure _
  | storeKind => exact .done (Reply.names [engine.kind.name, engine.kind.name])
  | resolve relationship document => exact (uniform_resolve uniform relationship document).bind fun _ => .pure _
  | relatedRow relationship document =>
    exact (uniform_first? uniform relationship document).bind fun _ => .pure _
  | relatedRows relationship document =>
    exact (uniform_rows uniform relationship document).bind fun _ => .pure _

end Connections

/-! ### Engines of both kinds -/

/-- Whether a call is a statement and does not begin or end a transaction. -/
def Sql.isStatement : Sql.Call → Bool
  | .query _ | .execute _ => true
  | .begin | .commit | .rollback => false

section Engines

theorem uniform_findRows (collection : String) (read : Native.Read) :
    Uniform Memory.isData fun scope => Native.findRows scope collection read :=
  (Uniform.ask (by rfl)).bind fun _ => .pure _

theorem uniform_applyJoins (joins : List Join) (rows : List Document) :
    Uniform Memory.isData fun scope => Native.applyJoins scope joins rows := by
  induction joins generalizing rows with
  | nil => exact .done rows
  | cons join rest hypothesis =>
    have joined : Uniform Memory.isData fun scope => Native.lookupJoined scope join rows := by
      unfold Native.lookupJoined
      split
      · exact .done []
      · exact (Uniform.ofExcept _).bind fun read => uniform_findRows _ read
    exact joined.bind fun _ => hypothesis _

theorem uniform_selectRows (query : Query) :
    Uniform Memory.isData fun scope => Native.selectRows scope query :=
  (Uniform.ofExcept _).bind fun _ => (Uniform.ofExcept _).bind fun _ =>
    (uniform_findRows _ _).bind fun _ => (uniform_applyJoins _ _).bind fun _ => .pure _

theorem uniform_countRows (query : Query) :
    Uniform Memory.isData fun scope => Native.countRows scope query := by
  refine (Uniform.ofExcept _).bind fun table => ?_
  split
  · exact (uniform_selectRows _).bind fun _ => .pure _
  · exact (Uniform.ofExcept _).bind fun filter => Uniform.ask (by rfl)

theorem uniform_executeQuery (query : Query) :
    Uniform Memory.isData fun scope => Native.executeQuery scope query := by
  refine (Uniform.ofExcept _).bind fun table => ?_
  cases query.mutation with
  | insert documents =>
    exact (Uniform.ofSilent (calls_nativeDocuments documents)).bind fun _ =>
      (Uniform.ask (by rfl)).bind fun _ => .pure _
  | update values =>
    refine (Uniform.ofExcept _).bind fun _ => (Uniform.ofExcept _).bind fun filter => ?_
    simp only
    split
    · exact .pure _
    · exact (Uniform.ask (by rfl)).bind fun _ => .pure _
  | delete =>
    exact (Uniform.ofExcept _).bind fun _ => (Uniform.ofExcept _).bind fun _ =>
      (Uniform.ask (by rfl)).bind fun _ => .pure _
  | select => exact .fail _

/-- **Document engines do the same in every scope.** -/
theorem isUniform_native : Native.engine.IsUniform Memory.isData where
  select query := (uniform_selectRows query).orIfInvalidIdentifier []
  count query := (uniform_countRows query).orIfInvalidIdentifier 0
  execute := uniform_executeQuery
  truncate _ := (Uniform.ask (by rfl)).bind fun _ => .pure _

variable {dialect : SqlDialect}

theorem uniform_fetchTargetColumns (known : Sql.TargetColumns) (joins : List Join) :
    Uniform Sql.isStatement fun scope => Sql.fetchTargetColumns dialect scope known joins := by
  induction joins generalizing known with
  | nil => exact .done known
  | cons join rest hypothesis =>
    unfold Sql.fetchTargetColumns
    split
    · exact hypothesis known
    · exact (Uniform.ask (by rfl)).bind fun _ => hypothesis _

theorem uniform_selectSql (query : Query) :
    Uniform Sql.isStatement fun scope => Sql.selectRows dialect scope query :=
  (Uniform.ofExcept _).bind fun _ => (uniform_fetchTargetColumns _ _).bind fun _ =>
    (Uniform.ofExcept _).bind fun _ => (Uniform.ask (by rfl)).bind fun _ => .pure _

theorem uniform_countSql (query : Query) :
    Uniform Sql.isStatement fun scope => Sql.countRows dialect scope query :=
  (Uniform.ofExcept _).bind fun _ => (uniform_fetchTargetColumns _ _).bind fun _ =>
    (Uniform.ofExcept _).bind fun _ => (Uniform.ask (by rfl)).bind fun _ => .pure _

theorem uniform_insertRows (table : String) (outcome : WriteOutcome) (documents : List Document) :
    Uniform Sql.isStatement fun scope => Sql.insertRows dialect scope table outcome documents := by
  induction documents generalizing outcome with
  | nil => exact .done outcome
  | cons document rest hypothesis =>
    have write (identified : Document) : Uniform Sql.isStatement fun scope => (do
        let native ← Program.ofExcept (TextIdentifier.nativeDocument identified)
        let statement ← Program.ofExcept (Sql.insertStatement dialect table native)
        let affected ← Sql.execute scope statement
        Sql.insertRows dialect scope table
          ⟨outcome.affected + affected, outcome.inserted ++ [TextIdentifier.canonicalDocument native]⟩
          rest) :=
      (Uniform.ofExcept _).bind fun _ => (Uniform.ofExcept _).bind fun _ =>
        (Uniform.ask (by rfl)).bind fun _ => hypothesis _
    unfold Sql.insertRows
    simp only
    split
    · exact (Uniform.pure _).bind write
    · exact Uniform.fresh.bind fun _ => (Uniform.pure _).bind write

theorem uniform_executeSql (query : Query) :
    Uniform Sql.isStatement fun scope => Sql.executeQuery dialect scope query := by
  refine (Uniform.ofExcept _).bind fun table => ?_
  cases query.mutation with
  | insert documents => exact uniform_insertRows table _ documents
  | update values =>
    refine (Uniform.ofExcept _).bind fun _ => ?_
    simp only
    split
    · exact .pure _
    · exact (Uniform.ofExcept _).bind fun _ => (Uniform.ask (by rfl)).bind fun _ => .pure _
  | delete =>
    exact (Uniform.ofExcept _).bind fun _ => (Uniform.ofExcept _).bind fun _ =>
      (Uniform.ask (by rfl)).bind fun _ => .pure _
  | select => exact .fail _

/-- **Engines of databases do the same in every scope.** -/
theorem isUniform_sql (dialect : SqlDialect) : (Sql.engine dialect).IsUniform Sql.isStatement where
  select query := (uniform_selectSql query).orIfInvalidIdentifier []
  count query := (uniform_countSql query).orIfInvalidIdentifier 0
  execute := uniform_executeSql
  truncate _ := (Uniform.ask (by rfl)).bind fun _ => .pure _

end Engines

end Polystore
