/-
**Writes that are rejected.**

A write checks what it is given before it calls its driver, so that what is rejected has written
nothing. Two writes go through their documents one by one: updates by documents, and insertions that are
executed on a database. They are rejected at the first document that they refuse, behind what the
documents before it have written.

* `rejectsWrites`: the writes of a connection reject first, where its engine is careful and its batches
  do not stop partway;
* `batch_insertRows`: an insertion into a database goes through its documents;
* `steps_native`, `steps_sql`: what an update does for one document;
* `rejected_writes`: which writes reject first, on both kinds of stores.
-/

import Polystore.Proofs.Program.Batches
import Polystore.Proofs.Rows.Written
import Polystore.Proofs.Statement.Commands

namespace Polystore

open Memory Native

/-- Whether a document has a field that an update by it would set. -/
def Document.isPayload (document : Document) : Bool :=
  !(withoutUndefined (withoutId document)).isEmpty

/-- The value under which the row of a document is looked for: its identifier. -/
def Document.idOrNull (document : Document) : Value := (get? idField document).getD .null

/-- The query that updates the row of a document. -/
def Query.updateOf (query : Query) (document : Document) : Query :=
  { query.narrowed (.equal idField document.idOrNull) with
    mutation := .update (Document.withoutId document) }

/-- Whether the identifier of a document is not one that a document store reads. -/
def Native.refuses (document : Document) : Bool :=
  !Predicate.isIdentifier document.idOrNull

/-- Whether the identifier of a document is a blank text. -/
def Sql.refuses (document : Document) : Bool :=
  document.idOrNull.isBlank

/-- Whether a value is no identifier of a new row: no text, or a blank one. -/
def Sql.isUnfit : Value → Bool
  | .string text => Text.isAllBlank text
  | _ => true

/-- Whether a new document has an unfit identifier. -/
def Sql.refusesNew (document : Document) : Bool :=
  (Document.present? idField (Document.withoutUndefined document)).any isUnfit

/-- The connection on a database of one dialect. -/
def Sql.connected (dialect : SqlDialect) (scope : Scope) (validator : Validator) : Connection interface :=
  ⟨engine dialect, scope, validator⟩

/-! ### Writes of connections -/

section Operations

variable {interface : Interface} {connection : Connection interface} {query : Query}
  {documents : List Document}

/-- The update that one document of a batch asks for. -/
def Connection.updateBy (connection : Connection interface) (query : Query) (document : Document) :
    Program interface WriteOutcome :=
  connection.engine.execute connection.scope (query.updateOf document)

theorem leaves_updateOf (query : Query) (document : Document) :
    Clause.leaves (query.updateOf document).clauses =
      Clause.leaves query.clauses ++ [.equal idField document.idOrNull] :=
  leaves_narrowed query _

/-- Updates by documents go through them. -/
theorem batch_updateEach {refuses writes : Document → Bool}
    (each : ∀ document, Program.Steps (refuses document) (writes document)
      (connection.updateBy query document))
    (documents : List Document) :
    Program.Batch refuses writes documents (connection.updateEach query documents) := by
  induction documents with
  | nil => exact .nil 0
  | cons document rest hypothesis => exact .cons (each document) fun outcome => hypothesis.map _

/-- An accepted batch has the identifiers that are wanted, or none. -/
theorem hasId_of_requireIdentifiers {validator : Validator} {wanted : Bool}
    (accepted : validator.requireIdentifiers wanted documents = .ok true) {document : Document}
    (member : document ∈ documents) : Document.hasId document = wanted := by
  unfold Validator.requireIdentifiers Validator.refuse at accepted
  split at accepted
  · split at accepted <;> cases accepted
  · rename_i none
    simpa using List.findIdx?_eq_none_iff.mp none document member

theorem careful_insertMany
    (inserts : (∀ document ∈ documents, Document.hasId document = false) →
      (connection.execute query (.insert documents)).Careful) :
    (connection.insertMany query documents).Careful := by
  refine Program.careful_bind_of_silent (Program.calls_ofExcept _) fun _ => ?_
  cases accepted : connection.validator.requireIdentifiers false documents with
  | error error => trivial
  | ok anonymous =>
    cases anonymous with
    | false => trivial
    | true =>
      show (if (false || documents.isEmpty) = true then pure [] else _ : Program interface _).Careful
      split
      · trivial
      · exact (inserts fun _ member => hasId_of_requireIdentifiers accepted member).bind fun _ =>
          Program.relays_pure _

theorem careful_updateMany
    (updates : ∀ table, query.requireTable = .ok table →
      (connection.updateEach query documents).Careful) :
    (connection.updateMany query documents).Careful := by
  unfold Connection.updateMany
  cases bound : query.requireTable with
  | error error => trivial
  | ok table =>
    refine Program.careful_bind_of_silent (Program.calls_pure table) fun _ =>
      Program.careful_bind_of_silent (Program.calls_ofExcept _) fun accepted => ?_
    cases accepted with
    | true => exact updates table bound
    | false => trivial

theorem careful_deleteMany
    (deletes : ∀ query : Query, (connection.execute query .delete).Careful) :
    (connection.deleteMany query documents).Careful := by
  refine Program.careful_bind_of_silent (Program.calls_ofExcept _) fun _ =>
    Program.careful_bind_of_silent (Program.calls_ofExcept _) fun accepted => ?_
  split
  · trivial
  · exact (deletes _).bind fun _ => Program.relays_pure _

/-- **Which writes on a connection reject first**: all of them, but updates by documents, and insertions
that are executed without the checks of a connection, only if their documents do not stop partway. -/
structure RejectsWrites (connection : Connection interface) (query : Query)
    (refuses refusesNew : Document → Bool) : Prop where
  insertMany : ∀ documents, (∀ document ∈ documents, (Document.keys document).Nodup) →
    (connection.insertMany query documents).RejectsFirst
  updateMany : ∀ documents, stopsPartway refuses Document.isPayload documents = false →
    (connection.updateMany query documents).RejectsFirst
  deleteMany : ∀ documents, (connection.deleteMany query documents).RejectsFirst
  update : ∀ values, (connection.update query values).RejectsFirst
  delete : (connection.delete query).RejectsFirst
  execute : (∀ documents, query.mutation = .insert documents →
      stopsPartway refusesNew (fun _ => true) documents = false) →
    (connection.engine.execute connection.scope query).RejectsFirst

/-- **The writes of a connection reject first**, given what its engine does with the query of one write,
and with one document of a batch of updates. -/
theorem rejectsWrites {refuses refusesNew : Document → Bool}
    (careful : ∀ query : Query, (∀ documents, query.mutation = .insert documents →
        stopsPartway refusesNew (fun _ => true) documents = false) →
      (connection.engine.execute connection.scope query).Careful)
    (anonymous : ∀ document, (Document.keys document).Nodup → Document.hasId document = false →
      refusesNew document = false)
    (each : ∀ table, query.requireTable = .ok table →
      (∀ document, Program.Steps (refuses document) document.isPayload
        (connection.updateBy query document)) ∨
      ∃ refused : Document → Bool, ∀ document, Program.Steps (refused document) false
        (connection.updateBy query document)) :
    RejectsWrites connection query refuses refusesNew where
  insertMany documents distinct := by
    refine (careful_insertMany fun absent => careful _ fun others same => ?_).rejectsFirst
    obtain rfl : documents = others := by injection same
    exact stopsPartway_of_accepted fun document member =>
      anonymous document (distinct document member) (absent document member)
  updateMany documents orderly := by
    refine (careful_updateMany fun table bound => ?_).rejectsFirst
    rcases each table bound with steps | ⟨refused, steps⟩
    · exact (batch_updateEach steps documents).careful orderly
    · exact (batch_updateEach steps documents).careful (stopsPartway_false refused documents)
  deleteMany _ := (careful_deleteMany fun _ => careful _ fun _ => nofun).rejectsFirst
  update values := (Program.careful_bind_of_silent (Program.calls_ofExcept _) fun _ =>
    (careful { query with mutation := .update values } fun _ => nofun).bind
      fun _ => Program.relays_pure _).rejectsFirst
  delete := (Program.careful_bind_of_silent (Program.calls_ofExcept _) fun _ =>
    (careful { query with mutation := .delete } fun _ => nofun).bind
      fun _ => Program.relays_pure _).rejectsFirst
  execute orderly := (careful query orderly).rejectsFirst

/-- Updates by documents that are accepted go through them. -/
theorem updateMany_eq_updateEach {table : String} (bound : query.requireTable = .ok table)
    (identified : ∀ document ∈ documents, Document.hasId document = true) :
    connection.updateMany query documents = connection.updateEach query documents := by
  have accepted : connection.validator.requireIdentifiers true documents = .ok true :=
    Validator.requireIdentifiers_of_forall identified
  rw [Connection.updateMany, bound, accepted]
  rfl

end Operations

/-! ### Document stores -/

section Documents

variable {scope : Scope} {validator : Validator} {query : Query} {table : String}

/-- **A document store makes all of its checks before its call.** -/
theorem careful_native (query : Query) : (Native.executeQuery scope query).Careful := by
  refine Program.careful_bind_of_silent (Program.calls_ofExcept _) fun table => ?_
  cases query.mutation with
  | insert documents =>
    exact Program.careful_bind_of_silent (calls_nativeDocuments documents) fun natives =>
      Program.careful_ask Native.interface scope (Native.Call.insert table natives) fun _ =>
        ⟨natives.length, natives.map ObjectIdentifier.canonicalDocument⟩
  | update values =>
    refine Program.careful_bind_of_silent (Program.calls_ofExcept _) fun _ =>
      Program.careful_bind_of_silent (Program.calls_ofExcept _) fun filter => ?_
    simp only
    split
    · trivial
    · exact Program.careful_ask Native.interface scope (Native.Call.update table filter _)
        WriteOutcome.count
  | delete =>
    exact Program.careful_bind_of_silent (Program.calls_ofExcept _) fun _ =>
      Program.careful_bind_of_silent (Program.calls_ofExcept _) fun filter =>
        Program.careful_ask Native.interface scope (Native.Call.delete table filter)
          WriteOutcome.count
  | select => trivial

/-- What the filter of the update by a document tells. -/
theorem judges_updateOf (query : Query) (document : Document) :
    Judges ((Clause.leaves query.clauses).all Predicate.readsIdentifiers && !Native.refuses document)
      ((Clause.leaves query.clauses).all (!·.isRaw)) (Native.filter (query.updateOf document).clauses) := by
  have judged := judges_filter (query.updateOf document).clauses
  rw [leaves_updateOf, List.all_append, List.all_append] at judged
  have reads : [Predicate.equal idField document.idOrNull].all Predicate.readsIdentifiers =
      !Native.refuses document := by
    show ((some idField != some idField || (Predicate.isIdentifier document.idOrNull && true)) && true) = _
    rw [bne_self_eq_false, Bool.false_or, Bool.and_true, Bool.and_true, Native.refuses, Bool.not_not]
  have rawless : [Predicate.equal idField document.idOrNull].all (!·.isRaw) = true := rfl
  rw [reads, rawless, Bool.and_true] at judged
  exact judged

/-- What is asked of a document store for one document. -/
theorem updateBy_native (bound : query.requireTable = .ok table) (unjoined : query.joins = [])
    (document : Document) :
    (connected scope validator).updateBy query document = (do
      let filter ← Program.ofExcept (Native.filter (query.updateOf document).clauses)
      let set := Document.withoutUndefined (Document.withoutId document)
      if set.isEmpty then return .nothing
      let affected : Nat ← .ask Native.interface scope (Call.update table filter set)
      return .count affected) := by
  have updated := @executeQuery_update (query.narrowed (.equal idField document.idOrNull)) table
    scope bound unjoined (Document.withoutId document)
  rw [Document.withoutId_withoutId] at updated
  exact updated

/-- **What a document store does with one document**, if the clauses of the query make a filter. -/
theorem steps_native (bound : query.requireTable = .ok table) (unjoined : query.joins = [])
    {filter : Document} (made : Native.filter query.clauses = .ok filter) (document : Document) :
    Program.Steps (Native.refuses document) document.isPayload
      ((connected scope validator).updateBy query document) := by
  have judged := judges_filter query.clauses
  rw [made] at judged
  have narrowed := judges_updateOf query document
  rw [judged.1, judged.2, Bool.true_and] at narrowed
  rw [updateBy_native bound unjoined, Document.isPayload]
  cases refused : Native.refuses document with
  | true =>
    rw [refused] at narrowed
    obtain ⟨reason, failed⟩ := narrowed.exists_reason
    rw [failed]
    exact .refused _ _
  | false =>
    rw [refused] at narrowed
    obtain ⟨condition, written⟩ := narrowed.exists_value
    rw [written]
    show Program.Steps false _
      (if (Document.withoutUndefined (Document.withoutId document)).isEmpty then _ else _)
    cases (Document.withoutUndefined (Document.withoutId document)).isEmpty with
    | true => exact .idle _
    | false =>
      exact @Program.Steps.writes Native.interface _ scope (Native.Call.update table condition _)
        WriteOutcome.count

/-- A query that cannot be carried out refuses every document. -/
theorem exists_updateBy_native (bound : query.requireTable = .ok table)
    (broken : ¬ (query.joins = [] ∧ ∃ filter, Native.filter query.clauses = .ok filter))
    (document : Document) :
    ∃ error, (connected scope validator).updateBy query document = .fail error := by
  by_cases unjoined : query.joins = []
  · have judged := judges_filter query.clauses
    have narrowed := judges_updateOf query document
    rw [updateBy_native bound unjoined]
    cases whole : Native.filter (query.updateOf document).clauses with
    | error error => exact ⟨error, rfl⟩
    | ok filter =>
      rw [whole] at narrowed
      rw [(Bool.and_eq_true_iff.mp narrowed.1).1, narrowed.2] at judged
      exact absurd ⟨unjoined, judged.exists_value⟩ broken
  · exact ⟨_, @executeQuery_update_of_joined (query.updateOf document) table scope bound unjoined _⟩

/-- **The writes of document stores.** -/
theorem rejectsWrites_native (scope : Scope) (validator : Validator) (query : Query) :
    RejectsWrites (connected scope validator) query Native.refuses (fun _ => false) := by
  refine rejectsWrites (fun query _ => careful_native query) (fun _ _ _ => rfl) fun table bound => ?_
  by_cases sound : query.joins = [] ∧ ∃ filter, Native.filter query.clauses = .ok filter
  · obtain ⟨unjoined, filter, made⟩ := sound
    exact .inl (steps_native bound unjoined made)
  · refine .inr ⟨fun _ => true, fun document => ?_⟩
    obtain ⟨error, failed⟩ := exists_updateBy_native bound sound document
    rw [failed]
    exact .refused _ error

end Documents

/-! ### Databases -/

section Databases

variable {dialect : SqlDialect} {scope : Scope} {validator : Validator} {query : Query}
  {table : String} {document : Document} {value : Value}

theorem isEmpty_withoutUndefined_of_present
    (present : Document.present? idField document = some value) :
    (Document.withoutUndefined document).isEmpty = false := by
  obtain ⟨found, defined⟩ := Option.filter_eq_some_iff.mp present
  refine List.isEmpty_eq_false_iff_exists_mem.mpr
    ⟨(idField, value), List.mem_filter.mpr ⟨Document.mem_of_get? found, ?_⟩⟩
  cases value <;> first | rfl | cases defined

/-- A document with a fit identifier is written as it is. -/
theorem nativeDocument_of_fit (present : Document.present? idField document = some value)
    (fit : Sql.isUnfit value = false) : TextIdentifier.nativeDocument document = .ok document := by
  obtain ⟨found, _⟩ := Option.filter_eq_some_iff.mp present
  cases value with
  | string text =>
    have filled : Text.isAllBlank text = false := fit
    rw [TextIdentifier.nativeDocument, found]
    simp only [TextIdentifier.parse, filled]
    rfl
  | _ => cases fit

/-- One with an unfit one is not. -/
theorem nativeDocument_of_unfit (present : Document.present? idField document = some value)
    (unfit : Sql.isUnfit value = true) :
    ∃ error, TextIdentifier.nativeDocument document = .error error := by
  obtain ⟨found, defined⟩ := Option.filter_eq_some_iff.mp present
  rw [TextIdentifier.nativeDocument, found]
  cases value with
  | string text =>
    have blank : Text.isAllBlank text = true := unfit
    simp only [TextIdentifier.parse, blank]
    exact ⟨_, rfl⟩
  | null => cases defined
  | undefined => cases defined
  | _ => exact ⟨_, rfl⟩

/-- A drawn identifier is fit. -/
theorem isUnfit_uuidOfDraw (bits : Draw) : Sql.isUnfit (.string (uuidOfDraw bits)) = false := by
  refine List.all_eq_false.mpr ⟨'-', ?_, by decide⟩
  unfold uuidOfDraw
  simp

theorem present?_identified (text : String) (document : Document) :
    Document.present? idField (TextIdentifier.identified text document) = some (.string text) := by
  rw [Document.present?, TextIdentifier.identified, Document.get?, if_pos rfl]
  rfl

/-- The insertion of a document that has its identifier, before others. -/
def Sql.insertIdentified (dialect : SqlDialect) (scope : Scope) (table : String)
    (outcome : WriteOutcome) (rest : List Document) (identified : Document) :
    Program Sql.interface WriteOutcome := do
  let native ← Program.ofExcept (TextIdentifier.nativeDocument identified)
  let statement ← Program.ofExcept (insertStatement dialect table native)
  let affected ← execute scope statement
  insertRows dialect scope table
    ⟨outcome.affected + affected, outcome.inserted ++ [TextIdentifier.canonicalDocument native]⟩ rest

theorem insertRows_cons (outcome : WriteOutcome) (document : Document) (rest : List Document) :
    Sql.insertRows dialect scope table outcome (document :: rest) =
      if Document.hasId (Document.withoutUndefined document) then
        Sql.insertIdentified dialect scope table outcome rest (Document.withoutUndefined document)
      else .draw fun bits =>
        Sql.insertIdentified dialect scope table outcome rest
          (TextIdentifier.identified (uuidOfDraw bits) (Document.withoutUndefined document)) := by
  rw [Sql.insertRows]
  simp only
  split
  · rfl
  · refine congrArg Program.draw (funext fun bits => ?_)
    simp only [Program.andThen]
    -- Lean would otherwise compute the digits of the drawn identifier.
    generalize TextIdentifier.identified (uuidOfDraw bits) _ = identified
    rfl

section Insertions

variable {outcome : WriteOutcome} {rest : List Document}
  (others : ∀ outcome, Program.Batch Sql.refusesNew (fun _ => true) rest
    (Sql.insertRows dialect scope table outcome rest))
include others

/-- A fit identifier is inserted by one call. -/
theorem batch_insertIdentified (accepted : Sql.refusesNew document = false) {identified : Document}
    (present : Document.present? idField identified = some value) (fit : Sql.isUnfit value = false) :
    Program.Batch Sql.refusesNew (fun _ => true) (document :: rest)
      (Sql.insertIdentified dialect scope table outcome rest identified) := by
  obtain ⟨statement, made⟩ := (Sql.statement_iff dialect (.insert table identified)).mpr
    ⟨by
      show (!(Document.withoutUndefined identified).isEmpty) = true
      rw [isEmpty_withoutUndefined_of_present present]
      rfl, fun _ => nofun⟩
  have whole : Sql.insertStatement dialect table identified = .ok statement := made
  rw [Sql.insertIdentified, nativeDocument_of_fit present fit]
  show Program.Batch _ _ _ (Program.ofExcept (Sql.insertStatement dialect table identified) >>= _)
  rw [whole]
  show Program.Batch _ _ _ (Program.ask Sql.interface scope (Sql.Call.execute statement) >>= _)
  refine .cons ?_ fun affected => others _
  rw [accepted]
  exact @Program.Steps.ask Sql.interface scope (Sql.Call.execute statement)

/-- An unfit one is refused. -/
theorem batch_insertIdentified_of_unfit (refused : Sql.refusesNew document = true)
    {identified : Document} (present : Document.present? idField identified = some value)
    (unfit : Sql.isUnfit value = true) :
    Program.Batch Sql.refusesNew (fun _ => true) (document :: rest)
      (Sql.insertIdentified dialect scope table outcome rest identified) := by
  obtain ⟨error, failed⟩ := nativeDocument_of_unfit present unfit
  rw [Sql.insertIdentified, failed]
  show Program.Batch _ _ _ (.fail error >>= fun _ : Unit => Sql.insertRows dialect scope table outcome rest)
  refine .cons ?_ fun _ => others outcome
  rw [refused]
  exact .refused true error

end Insertions

/-- **An insertion into a database goes through its documents.** -/
theorem batch_insertRows (outcome : WriteOutcome) (documents : List Document) :
    Program.Batch Sql.refusesNew (fun _ => true) documents
      (Sql.insertRows dialect scope table outcome documents) := by
  induction documents generalizing outcome with
  | nil => exact .nil outcome
  | cons document rest hypothesis =>
    rw [insertRows_cons, Document.hasId]
    cases present : Document.present? idField (Document.withoutUndefined document) with
    | none =>
      have accepted : Sql.refusesNew document = false := by
        rw [Sql.refusesNew, present]
        rfl
      rw [if_neg (by decide)]
      exact .draw fun bits => batch_insertIdentified hypothesis accepted (present?_identified _ _)
        (isUnfit_uuidOfDraw bits)
    | some value =>
      have refused : Sql.refusesNew document = Sql.isUnfit value := by
        rw [Sql.refusesNew, present]
        rfl
      rw [if_pos (by rfl)]
      cases fit : Sql.isUnfit value with
      | false => exact batch_insertIdentified hypothesis (refused.trans fit) present fit
      | true => exact batch_insertIdentified_of_unfit hypothesis (refused.trans fit) present fit

/-- **So does a database**, unless an insertion stops partway. -/
theorem careful_sql (query : Query) (orderly : ∀ documents, query.mutation = .insert documents →
      stopsPartway Sql.refusesNew (fun _ => true) documents = false) :
    (Sql.executeQuery dialect scope query).Careful := by
  refine Program.careful_bind_of_silent (Program.calls_ofExcept _) fun table => ?_
  cases written : query.mutation with
  | insert documents => exact (batch_insertRows .nothing documents).careful (orderly documents written)
  | update values =>
    refine Program.careful_bind_of_silent (Program.calls_ofExcept _) fun _ => ?_
    simp only
    split
    · trivial
    · exact Program.careful_bind_of_silent (Program.calls_ofExcept _) fun statement =>
        Program.careful_ask Sql.interface scope (Sql.Call.execute statement) WriteOutcome.count
  | delete =>
    exact Program.careful_bind_of_silent (Program.calls_ofExcept _) fun _ =>
      Program.careful_bind_of_silent (Program.calls_ofExcept _) fun statement =>
        Program.careful_ask Sql.interface scope (Sql.Call.execute statement) WriteOutcome.count
  | select => trivial

/-- What is asked of a database for one document. -/
theorem updateBy_sql (bound : query.requireTable = .ok table) (document : Document) :
    (Sql.connected dialect scope validator).updateBy query document = (do
      Program.ofExcept (Sql.checkIdentifiers (query.updateOf document).clauses)
      let fields := Document.withoutUndefined (Document.withoutId document)
      if fields.isEmpty then return .nothing
      let statement ← Program.ofExcept (Sql.updateStatement dialect (query.updateOf document) fields)
      return .count (← Sql.execute scope statement)) := by
  have named : (query.updateOf document).requireTable = .ok table := bound
  show Sql.executeQuery dialect scope (query.updateOf document) = _
  rw [Sql.executeQuery, named]
  show Sql.updateRows dialect scope (query.updateOf document) (Document.withoutId document) = _
  rw [Sql.updateRows, Document.withoutId_withoutId]

/-- Whether the statement of an update can be made for a query: it has no joins, and its raw conditions
are counted. -/
def Query.isUpdatable (query : Query) : Bool :=
  !query.hasJoins && (Clause.leaves query.clauses).all Predicate.isCounted

/-- The update by a document names a blank identifier if its query does, or the document. -/
theorem all_namesBlank_updateOf (query : Query) (document : Document) :
    (Clause.leaves (query.updateOf document).clauses).all (!·.namesBlank) =
      !((Clause.leaves query.clauses).any Predicate.namesBlank || Sql.refuses document) := by
  rw [leaves_updateOf, List.all_append, Bool.not_or, List.not_any_eq_all_not]
  congr 1
  exact Bool.and_true _

theorem withoutUndefined_withoutUndefined (document : Document) :
    Document.withoutUndefined (Document.withoutUndefined document) =
      Document.withoutUndefined document := by
  rw [Document.withoutUndefined, Document.withoutUndefined, List.filter_filter]
  simp only [Bool.and_self]

/-- The fields to set are set as they are. -/
theorem fields_of_payload (document : Document) :
    Document.withoutUndefined (Document.withoutId
      (Document.withoutUndefined (Document.withoutId document))) =
    Document.withoutUndefined (Document.withoutId document) := by
  rw [withoutUndefined_withoutId document]
  show Document.withoutUndefined (Document.withoutId (Document.withoutId
    (Document.withoutUndefined document))) = Document.withoutId (Document.withoutUndefined document)
  rw [Document.withoutId_withoutId, withoutUndefined_withoutId, withoutUndefined_withoutUndefined]
  rfl

/-- When the statement for one document can be made. -/
theorem updateStatement_iff (dialect : SqlDialect) (bound : query.requireTable = .ok table)
    (payload : document.isPayload = true) :
    (∃ statement, Sql.updateStatement dialect (query.updateOf document)
        (Document.withoutUndefined (Document.withoutId document)) = .ok statement) ↔
      query.isUpdatable = true := by
  refine (Sql.statement_iff dialect (.update _ _)).trans ?_
  show (query.requireTable.toBool && !query.hasJoins && !(Document.withoutUndefined (Document.withoutId
      (Document.withoutUndefined (Document.withoutId document)))).isEmpty) = true ∧
    (∀ leaf ∈ Clause.leaves (query.updateOf document).clauses, leaf.isCounted = true) ↔ _
  rw [fields_of_payload, bound, leaves_updateOf, List.forall_mem_append, Query.isUpdatable,
    Bool.and_eq_true, Bool.and_eq_true, Bool.and_eq_true, List.all_eq_true]
  refine ⟨fun ⟨⟨⟨_, unjoined⟩, _⟩, counted, _⟩ => ⟨unjoined, counted⟩, fun ⟨unjoined, counted⟩ =>
    ⟨⟨⟨rfl, unjoined⟩, payload⟩, counted, fun leaf member => ?_⟩⟩
  obtain rfl := List.mem_singleton.mp member
  rfl

/-- What is done with a document that has something to set. -/
theorem steps_updateStatement (dialect : SqlDialect) (scope : Scope)
    (bound : query.requireTable = .ok table) (payload : document.isPayload = true) :
    Program.Steps (!query.isUpdatable) query.isUpdatable
      (Program.ofExcept (Sql.updateStatement dialect (query.updateOf document)
          (Document.withoutUndefined (Document.withoutId document))) >>= fun statement =>
        Sql.execute scope statement >>= fun affected => pure (WriteOutcome.count affected)) := by
  have made := updateStatement_iff dialect bound payload
  cases whole : Sql.updateStatement dialect (query.updateOf document)
    (Document.withoutUndefined (Document.withoutId document)) with
  | error error =>
    have stuck : query.isUpdatable = false := by
      refine Bool.eq_false_iff.mpr fun updatable => ?_
      obtain ⟨statement, same⟩ := made.mpr updatable
      cases whole.symm.trans same
    rw [stuck]
    exact .refused false error
  | ok statement =>
    rw [made.mp ⟨statement, whole⟩]
    exact @Program.Steps.writes Sql.interface _ scope (Sql.Call.execute statement) WriteOutcome.count

/-- **What a database does with one document.** It is refused for a blank identifier, in the query or its
own, and if there is something to set but no statement. -/
theorem steps_sql (dialect : SqlDialect) (scope : Scope) (validator : Validator)
    (bound : query.requireTable = .ok table) (document : Document) :
    Program.Steps
      ((Clause.leaves query.clauses).any Predicate.namesBlank || Sql.refuses document ||
        (document.isPayload && !query.isUpdatable))
      (document.isPayload && query.isUpdatable)
      ((Sql.connected dialect scope validator).updateBy query document) := by
  have judged := judges_checkIdentifiers (query.updateOf document).clauses
  rw [all_namesBlank_updateOf] at judged
  rw [updateBy_sql bound]
  simp only
  cases refused : (Clause.leaves query.clauses).any Predicate.namesBlank || Sql.refuses document with
  | true =>
    rw [refused] at judged
    obtain ⟨reason, failed⟩ := judged.exists_reason
    rw [failed]
    exact .refused _ _
  | false =>
    rw [refused] at judged
    obtain ⟨_, checked⟩ := judged.exists_value
    rw [checked, Bool.false_or]
    show Program.Steps _ _
      (if (Document.withoutUndefined (Document.withoutId document)).isEmpty = true then _ else _)
    cases empty : (Document.withoutUndefined (Document.withoutId document)).isEmpty with
    | true =>
      rw [Document.isPayload, empty]
      exact .idle _
    | false =>
      have payload : document.isPayload = true := by
        rw [Document.isPayload, empty]
        rfl
      rw [payload, Bool.true_and, Bool.true_and]
      exact steps_updateStatement dialect scope bound payload

/-- **The writes of databases.** -/
theorem rejectsWrites_sql (dialect : SqlDialect) (scope : Scope) (validator : Validator) (query : Query) :
    RejectsWrites (Sql.connected dialect scope validator) query Sql.refuses Sql.refusesNew := by
  refine rejectsWrites (fun query orderly => careful_sql query orderly)
    (fun document distinct anonymous => ?_) fun table bound => ?_
  · have absent : Document.hasId (Document.withoutUndefined document) = false :=
      Document.hasId_filter distinct anonymous _
    rw [Sql.refusesNew, Option.not_isSome_iff_eq_none.mp (ne_true_of_eq_false absent)]
    rfl
  · have steps := steps_sql dialect scope validator bound
    cases updatable : query.isUpdatable with
    | false =>
      simp only [updatable, Bool.and_false] at steps
      exact .inr ⟨_, steps⟩
    | true =>
      cases blank : (Clause.leaves query.clauses).any Predicate.namesBlank with
      | false =>
        simp only [updatable, blank, Bool.false_or, Bool.and_true, Bool.not_true, Bool.and_false,
          Bool.or_false] at steps
        exact .inl steps
      | true =>
        refine .inr ⟨fun _ => true, fun document => ?_⟩
        have refused := steps document
        rw [blank, Bool.true_or, Bool.true_or] at refused
        obtain ⟨error, failed⟩ := refused.exists_fail
        rw [failed]
        exact .refused false error

end Databases

/-! ### Both kinds of stores -/

/-- What a document driver may reply. -/
def Native.granted : (request : Native.interface.Call) → Native.interface.Reply request
  | Call.find _ _ => ([] : List Document)
  | Call.count _ _ | Call.update _ _ _ | Call.delete _ _ | Call.begin => (0 : Nat)
  | Call.insert _ _ | Call.createCollection _ | Call.dropCollection _ | Call.commit | Call.rollback => ()
  | Call.listCollections => ([] : List String)

/-- What the driver of a database may reply. -/
def Sql.granted : (request : Sql.interface.Call) → Sql.interface.Reply request
  | Sql.Call.query _ => ([] : List Document)
  | Sql.Call.execute _ | Sql.Call.begin => (0 : Nat)
  | Sql.Call.commit | Sql.Call.rollback => ()

/-- **Rejected writes.** On either kind of store every write rejects first, but updates by documents,
and insertions executed on a database, if their documents stop partway. They do not reject first then,
if it is not the query that is rejected. -/
theorem rejected_writes (dialect : SqlDialect) (scope : Scope) (validator : Validator) (query : Query) :
    RejectsWrites (connected scope validator) query Native.refuses (fun _ => false) ∧
    RejectsWrites (Sql.connected dialect scope validator) query Sql.refuses Sql.refusesNew ∧
    ∀ table, query.requireTable = .ok table → ∀ documents,
      ((Sql.executeQuery dialect scope { query with mutation := .insert documents }).RejectsFirst ↔
        stopsPartway Sql.refusesNew (fun _ => true) documents = false) ∧
      (query.joins = [] → (∀ document ∈ documents, Document.hasId document = true) →
        ((∃ filter, Native.filter query.clauses = .ok filter) →
          (((connected scope validator).updateMany query documents).RejectsFirst ↔
            stopsPartway Native.refuses Document.isPayload documents = false)) ∧
        ((∀ leaf ∈ Clause.leaves query.clauses, leaf.namesBlank = false ∧ leaf.isCounted = true) →
          (((Sql.connected dialect scope validator).updateMany query documents).RejectsFirst ↔
            stopsPartway Sql.refuses Document.isPayload documents = false))) := by
  refine ⟨rejectsWrites_native scope validator query, rejectsWrites_sql dialect scope validator query,
    fun table bound documents => ⟨?_, fun unjoined identified => ⟨fun ⟨filter, made⟩ => ?_,
      fun sound => ?_⟩⟩⟩
  · have whole : Sql.executeQuery dialect scope { query with mutation := .insert documents } =
        Sql.insertRows dialect scope table .nothing documents := by
      have named : Query.requireTable { query with mutation := .insert documents } = .ok table := bound
      rw [Sql.executeQuery, named]
      rfl
    rw [whole]
    exact (batch_insertRows .nothing documents).rejectsFirst_iff Sql.granted
  · rw [updateMany_eq_updateEach bound identified]
    exact (batch_updateEach (steps_native bound unjoined made) documents).rejectsFirst_iff Native.granted
  · rw [updateMany_eq_updateEach bound identified]
    have updatable : query.isUpdatable = true := by
      rw [Query.isUpdatable, Query.hasJoins, unjoined, List.all_eq_true.mpr fun leaf member =>
        (sound leaf member).2]
      rfl
    have filled : (Clause.leaves query.clauses).any Predicate.namesBlank = false :=
      List.any_eq_false.mpr fun leaf member => ne_true_of_eq_false (sound leaf member).1
    refine (batch_updateEach (fun document => ?_) documents).rejectsFirst_iff Sql.granted
    have steps := steps_sql dialect scope validator bound document
    rwa [updatable, filled, Bool.not_true, Bool.and_false, Bool.or_false, Bool.false_or,
      Bool.and_true] at steps

/-- The identifier of the second document is of neither form, and the first document is written. -/
theorem run_updateMany_partway :
    ((connected .connection .raising).updateMany (Query.ofTable "people")
        [[("id", .objectId ⟨1⟩), ("name", .string "Eve")],
          [("id", .string "zzz"), ("name", .string "Zed")]]).run
        Server.driver ⟨⟨0, 0⟩, ⟨people, none, 0⟩⟩ =
      (.finished (.error (.invalidIdentifier "'zzz' is not a valid object id")),
        ⟨⟨0, 0⟩, ⟨[("people",
          [[("_id", .objectId ⟨1⟩), ("name", .string "Eve")],
            [("_id", .objectId ⟨2⟩), ("name", .string "Bob")]])], none, 0⟩⟩) := by
  have message : "'" ++ "zzz" ++ "' is not a valid object id" = "'zzz' is not a valid object id" := by
    decide
  rw [← message]
  rfl

/-- Two documents in both orders: the refused one first, or behind the other. -/
theorem rejected_writes_twoOrders :
    ((Sql.connected .postgres .connection .raising).updateMany (Query.ofTable "people")
        [[("id", .string " "), ("name", .string "Zed")], [("id", .string "1"), ("name", .string "Eve")]]
      ).RejectsFirst ∧
    ¬ ((Sql.connected .postgres .connection .raising).updateMany (Query.ofTable "people")
        [[("id", .string "1"), ("name", .string "Eve")], [("id", .string " "), ("name", .string "Zed")]]
      ).RejectsFirst ∧
    ¬ ((connected .connection .raising).updateMany (Query.ofTable "people")
        [[("id", .objectId ⟨1⟩), ("name", .string "Eve")], [("id", .int32 1), ("name", .string "Zed")]]
      ).RejectsFirst ∧
    ¬ (Sql.executeQuery .postgres .connection
        { Query.ofTable "people" with
          mutation := .insert [[("name", .string "Eve")], [("id", .int32 1), ("name", .string "Zed")]] }
      ).RejectsFirst := by
  obtain ⟨_, databases, exactly⟩ :=
    rejected_writes .postgres .connection .raising (Query.ofTable "people")
  refine ⟨databases.updateMany _ (by decide +kernel), fun rejects => ?_, fun rejects => ?_,
    fun rejects => ?_⟩
  · have orderly := (((exactly "people" rfl _).2 rfl (by decide +kernel)).2 (fun _ => nofun)).mp rejects
    exact absurd orderly (by decide +kernel)
  · have orderly := (((exactly "people" rfl _).2 rfl (by decide +kernel)).1 ⟨[], rfl⟩).mp rejects
    exact absurd orderly (by decide +kernel)
  · have orderly := (exactly "people" rfl _).1.mp rejects
    exact absurd orderly (by decide +kernel)

end Polystore
