/-
**Tables that are created, and documents that are inserted into them.**

Every document is inserted under an identifier, which is drawn for a document without one, so the first
column of its insertion is `id`. A created table has that column if it is declared, or if no column is
declared the primary key: then it is put in front of the others. The driver is traced, so that it shows
which statements it has received.

* `namedColumns?_creates`, `exists_insertStatement`: the columns of both statements, read from their texts;
* `receives_insertRows`: which statements a driver receives for documents without identifiers;
* `created_takes_insertions`: the tables whose columns are all that such statements name.
-/

import Polystore.Proofs.Rows.Rejected
import Polystore.Proofs.Statement.Altered
import Polystore.Proofs.Statement.Listed

namespace Polystore

/-- **Whether a table has a column `id`**: a declared one, or the one put in front because no column is
the primary key. -/
def TableBlueprint.IsIdentified (blueprint : TableBlueprint) : Prop :=
  (∃ column ∈ blueprint.columns, column.name = idField) ∨
    ∀ column ∈ blueprint.columns, column.primary = false

/-- The columns of a document that is inserted under a drawn identifier. -/
def Document.insertedKeys (document : Document) : List String :=
  idField :: keys (erase idField (withoutUndefined document))

theorem Document.mem_keys_of_erased {key : String} {document : Document}
    (member : key ∈ keys (erase idField (withoutUndefined document))) : key ∈ keys document :=
  ((List.filter_sublist.trans List.filter_sublist).map Prod.fst).subset member

namespace Sql

/-! ### Both statements -/

section Statements

variable {dialect : SqlDialect} {blueprint : TableBlueprint} {table : String} {document : Document}

theorem createdColumns_ne_nil (blueprint : TableBlueprint) : createdColumns blueprint ≠ [] := by
  unfold createdColumns
  split
  · intro empty
    rename_i declares
    rw [TableBlueprint.declaresPrimaryKey, empty] at declares
    cases declares
  · exact List.cons_ne_nil _ _

theorem mem_createdColumns {column : ColumnBlueprint} (member : column ∈ blueprint.columns) :
    column ∈ createdColumns blueprint := by
  unfold createdColumns
  split
  · exact member
  · exact List.mem_cons_of_mem _ member

/-- **Which tables have a column `id`.** -/
theorem exists_identifier_iff :
    (∃ column ∈ createdColumns blueprint, column.name = idField) ↔ blueprint.IsIdentified := by
  unfold createdColumns TableBlueprint.IsIdentified
  cases declares : blueprint.declaresPrimaryKey with
  | true =>
    obtain ⟨column, member, marked⟩ := List.any_eq_true.mp declares
    refine ⟨.inl, fun identified => identified.elim id fun keyless => ?_⟩
    rw [keyless column member, Bool.false_or] at marked
    exact ⟨column, member, eq_of_beq marked⟩
  | false =>
    refine ⟨fun _ => .inr fun column member => ?_, fun _ => ⟨.identifier, List.mem_cons_self, rfl⟩⟩
    have unmarked := List.any_eq_false.mp declares column member
    exact Bool.eq_false_iff.mpr fun primary => unmarked (by rw [primary]; rfl)

/-- **The statement that creates a table names its columns.** -/
theorem namedColumns?_creates (dialect : SqlDialect) (blueprint : TableBlueprint) :
    ∃ creates indexes, createTableStatements dialect blueprint = creates :: indexes ∧
      namedColumns? dialect.quoteMark "CREATE TABLE " creates.sql =
        some (nameParts blueprint.name,
          (createdColumns blueprint).map fun column => nameParts column.name) := by
  refine ⟨_, _, rfl, namedColumns?_written [] names_columnDefinition (createdColumns_ne_nil blueprint) ?_⟩
  simp [Statement.plain, String.toList_append]

/-- **The statement that inserts a document names its fields.** -/
theorem exists_insertStatement (dialect : SqlDialect) (table : String)
    (present : Document.withoutUndefined document ≠ []) :
    ∃ statement, insertStatement dialect table document = .ok statement ∧
      namedColumns? dialect.quoteMark "INSERT INTO " statement.sql =
        some (nameParts table, (Document.withoutUndefined document).map fun field => nameParts field.1) := by
  refine ⟨_, if_neg fun empty => present (List.isEmpty_iff.mp empty),
    namedColumns?_written (" VALUES (".toList ++ (Fragment.render dialect.placeholder 0 (Fragment.separated
      ", " ((Document.withoutUndefined document).map Prod.snd) ++ [.text ")"])).toList)
      (fun field => names_quote field.1) present ?_⟩
  simp [SqlDialect.statement, Fragment.render, String.toList_append]

end Statements

/-! ### Insertions -/

/-- The table and the columns that an insertion names. -/
def insertion? (dialect : SqlDialect) : Call → Option (List NamePart × List (List NamePart))
  | .execute statement => namedColumns? dialect.quoteMark "INSERT INTO " statement.sql
  | _ => none

/-- **Whether a call inserts a document** into a table under a drawn identifier: it names the table, the
column of the identifier, and those of the fields of the document. -/
def Inserts (dialect : SqlDialect) (table : String) (document : Document) (call : Call) : Prop :=
  insertion? dialect call = some (nameParts table, document.insertedKeys.map nameParts)

/-- **What a driver receives** for documents: the insertion of each of them, in their order, up to some
one. It receives the first one, and all of them if they are inserted. -/
structure Receives (dialect : SqlDialect) (table : String) (documents : List Document)
    (calls : List Call) (outcome : Outcome WriteOutcome) : Prop where
  each : List.Forall₂ (Inserts dialect table) (documents.take calls.length) calls
  first : documents ≠ [] → calls ≠ []
  all : ∀ result, outcome = .finished (.ok result) → calls.length = documents.length

section Insertions

variable {dialect : SqlDialect} {scope : Scope} {table : String} {document : Document}
  {rest documents : List Document} {call : Call} {calls : List Call} {outcome : Outcome WriteOutcome}

theorem Receives.cons (inserts : Inserts dialect table document call)
    (others : Receives dialect table rest calls outcome) :
    Receives dialect table (document :: rest) (call :: calls) outcome where
  each := .cons inserts others.each
  first _ := List.cons_ne_nil _ _
  all result finished := congrArg Nat.succ (others.all result finished)

/-- A call that is not answered with success is the last one. -/
theorem Receives.stopped (inserts : Inserts dialect table document call)
    (fails : ∀ result, outcome ≠ .finished (.ok result)) :
    Receives dialect table (document :: rest) [call] outcome where
  each := .cons inserts .nil
  first _ := List.cons_ne_nil _ _
  all result finished := absurd finished (fails result)

/-- Every call that is received inserts some document. -/
theorem Receives.exists_document (receives : Receives dialect table documents calls outcome)
    (member : call ∈ calls) : ∃ document ∈ documents, Inserts dialect table document call := by
  obtain ⟨place, inside, rfl⟩ := List.mem_iff_getElem.mp member
  have taken : place < (documents.take calls.length).length := by
    rw [receives.each.length_eq]
    exact inside
  exact ⟨_, List.mem_of_mem_take (List.getElem_mem taken), receives.each.get taken inside⟩

/-- The fields of a document under a drawn identifier are all defined. -/
theorem withoutUndefined_identified (text : String) (document : Document) :
    Document.withoutUndefined
        (TextIdentifier.identified text (Document.withoutUndefined document)) =
      TextIdentifier.identified text (Document.withoutUndefined document) := by
  refine List.filter_eq_self.mpr fun field member => ?_
  rcases List.mem_cons.mp member with rfl | inside
  · rfl
  · exact (List.mem_filter.mp (List.mem_of_mem_filter inside)).2

/-- A document with its drawn identifier is inserted by one call. -/
theorem exists_insertIdentified (dialect : SqlDialect) (scope : Scope) (table : String)
    (document : Document) (before : WriteOutcome) (rest : List Document) (bits : Draw) :
    ∃ (statement : Statement) (after : Nat → WriteOutcome),
      Inserts dialect table document (.execute statement) ∧
      insertIdentified dialect scope table before rest
          (TextIdentifier.identified (uuidOfDraw bits) (Document.withoutUndefined document)) =
        execute scope statement >>= fun affected =>
          insertRows dialect scope table (after affected) rest := by
  have defined := withoutUndefined_identified (uuidOfDraw bits) document
  have fit := nativeDocument_of_fit (present?_identified (uuidOfDraw bits)
    (Document.withoutUndefined document)) (isUnfit_uuidOfDraw bits)
  have keys : (TextIdentifier.identified (uuidOfDraw bits) (Document.withoutUndefined document)).map
      (fun field => nameParts field.1) = document.insertedKeys.map nameParts := by
    rw [Document.insertedKeys, Document.keys, List.map_cons, List.map_map]
    rfl
  have filled : TextIdentifier.identified (uuidOfDraw bits) (Document.withoutUndefined document) ≠ [] :=
    List.cons_ne_nil _ _
  generalize TextIdentifier.identified (uuidOfDraw bits) _ = identified at defined fit keys filled ⊢
  have present : Document.withoutUndefined identified ≠ [] := by
    rw [defined]
    exact filled
  obtain ⟨statement, made, named⟩ := exists_insertStatement dialect table present
  rw [defined, keys] at named
  refine ⟨statement, fun affected => ⟨before.affected + affected,
    before.inserted ++ [TextIdentifier.canonicalDocument identified]⟩, named, ?_⟩
  rw [insertIdentified, fit]
  show Program.ofExcept (insertStatement dialect table identified) >>= _ = _
  rw [made]
  rfl

/-- **A document without an identifier is inserted by one call**, before the documents behind it. -/
theorem insertRows_anonymous (dialect : SqlDialect) (scope : Scope) (table : String)
    (anonymous : Document.hasId (Document.withoutUndefined document) = false) (before : WriteOutcome)
    (rest : List Document) :
    ∃ (statement : Draw → Statement) (after : Draw → Nat → WriteOutcome),
      (∀ bits, Inserts dialect table document (.execute (statement bits))) ∧
      insertRows dialect scope table before (document :: rest) = .draw fun bits =>
        execute scope (statement bits) >>= fun affected =>
          insertRows dialect scope table (after bits affected) rest := by
  choose statement after inserts steps using
    exists_insertIdentified dialect scope table document before rest
  refine ⟨statement, after, inserts, ?_⟩
  rw [insertRows_cons, anonymous, if_neg Bool.false_ne_true]
  exact congrArg Program.draw (funext steps)

/-- A traced driver receives a statement, and then what is sent behind it if it carries the statement
out. -/
theorem cases_of_run_execute {σ β : Type} (driver : Driver interface σ) (scope : Scope)
    (statement : Statement) (next : Nat → Program interface β) (world : World (List Call × σ)) :
    (∃ affected middle, (execute scope statement >>= next).run driver.traced world =
        (next affected).run driver.traced (received world [statement] middle)) ∨
      ∃ (outcome : Outcome β) (middle : σ), (∀ result, outcome ≠ .finished (.ok result)) ∧
        (execute scope statement >>= next).run driver.traced world =
          (outcome, received world [statement] middle) := by
  cases answered : driver.answer scope (.execute statement) world.state.2 with
  | mk answer middle =>
    have given := answer_traced world answered
    cases answer with
    | waiting =>
      exact .inr ⟨.blocked, middle, nofun,
        Program.run_bind_of_blocked (Program.run_ask_of_waiting given) next⟩
    | given result =>
      cases result with
      | error error =>
        exact .inr ⟨.finished (.error error), middle, nofun,
          Program.run_bind_of_error (Program.run_ask_of_given given) next⟩
      | ok affected =>
        exact .inl ⟨affected, middle, Program.run_bind_of_ok (Program.run_ask_of_given given) next⟩

/-- **What a driver receives for documents without identifiers.** -/
theorem receives_insertRows {σ : Type} (dialect : SqlDialect) (driver : Driver interface σ)
    (scope : Scope) (table : String) (documents : List Document)
    (anonymous : ∀ document ∈ documents, Document.hasId (Document.withoutUndefined document) = false)
    (before : WriteOutcome) (world : World (List Call × σ)) :
    ∃ (calls : List Call) (result : Outcome WriteOutcome) (last : World (List Call × σ)),
      (insertRows dialect scope table before documents).run driver.traced world = (result, last) ∧
      last.state.1 = world.state.1 ++ calls ∧ Receives dialect table documents calls result := by
  induction documents generalizing before world with
  | nil => exact ⟨[], _, _, rfl, (List.append_nil _).symm, .nil, nofun, fun _ _ => rfl⟩
  | cons document rest hypothesis =>
    obtain ⟨own, others⟩ := List.forall_mem_cons.mp anonymous
    obtain ⟨statement, after, inserts, steps⟩ :=
      insertRows_anonymous dialect scope table own before rest
    let bits := world.identifiers.next.1
    let drawn : World (List Call × σ) := { world with identifiers := world.identifiers.next.2 }
    have ran : (insertRows dialect scope table before (document :: rest)).run driver.traced world =
        (execute scope (statement bits) >>= fun affected =>
          insertRows dialect scope table (after bits affected) rest).run driver.traced drawn := by
      rw [steps]
      rfl
    rw [ran]
    rcases cases_of_run_execute driver scope (statement bits) _ drawn with
      ⟨affected, middle, went⟩ | ⟨outcome, middle, fails, ended⟩
    · obtain ⟨calls, result, last, ended, sent, receives⟩ :=
        hypothesis others (after bits affected) (received drawn [statement bits] middle)
      refine ⟨.execute (statement bits) :: calls, result, last, went.trans ended, ?_,
        receives.cons (inserts bits)⟩
      rw [sent]
      exact List.append_assoc _ _ _
    · exact ⟨_, outcome, _, ended, rfl, .stopped (inserts bits) fails⟩

end Insertions

/-! ### Created tables -/

/-- **Tables take insertions exactly if they have a column `id`.** Whatever the driver replies, each
statement that it receives for documents without identifiers, whose fields are columns of the created
table, is an insertion that names `id` first and then only such columns. So all of its columns are columns
of the table exactly if `id` is one, and that is so if the blueprint has a column `id` or no primary key. -/
theorem created_takes_insertions (dialect : SqlDialect) (blueprint : TableBlueprint) :
    ∃ creates indexes columns,
      createTableStatements dialect blueprint = creates :: indexes ∧
      namedColumns? dialect.quoteMark "CREATE TABLE " creates.sql =
        some (nameParts blueprint.name, columns) ∧
      (∀ column ∈ blueprint.columns, nameParts column.name ∈ columns) ∧
      (nameParts idField ∈ columns ↔ blueprint.IsIdentified) ∧
      ∀ {σ : Type} (driver : Driver interface σ) (scope : Scope) (documents : List Document)
        (world : World (List Call × σ)),
        (∀ document ∈ documents, Document.hasId (Document.withoutUndefined document) = false ∧
          ∀ key ∈ Document.keys document, nameParts key ∈ columns) →
        ∃ (calls : List Call) (result : Outcome WriteOutcome) (last : World (List Call × σ)),
          (insertRows dialect scope blueprint.name .nothing documents).run driver.traced world =
            (result, last) ∧
          last.state.1 = world.state.1 ++ calls ∧
          Receives dialect blueprint.name documents calls result ∧
          ∀ call ∈ calls, ∃ named,
            insertion? dialect call = some (nameParts blueprint.name, nameParts idField :: named) ∧
            ((∀ name ∈ nameParts idField :: named, name ∈ columns) ↔ blueprint.IsIdentified) := by
  obtain ⟨creates, indexes, written, read⟩ := namedColumns?_creates dialect blueprint
  have declared (name : String) :
      nameParts name ∈ (createdColumns blueprint).map (fun column => nameParts column.name) ↔
        ∃ column ∈ createdColumns blueprint, column.name = name := by
    simp only [List.mem_map, nameParts_injective.eq_iff]
  have identified := (declared idField).trans exists_identifier_iff
  refine ⟨creates, indexes, _, written, read, fun column member => ?_, identified, ?_⟩
  · exact (declared column.name).mpr ⟨column, mem_createdColumns member, rfl⟩
  · intro σ driver scope documents world fit
    obtain ⟨calls, result, last, ran, sent, receives⟩ := receives_insertRows dialect driver scope
      blueprint.name documents (fun document member => (fit document member).1) .nothing world
    refine ⟨calls, result, last, ran, sent, receives, fun call member => ?_⟩
    obtain ⟨document, inside, inserts⟩ := receives.exists_document member
    refine ⟨_, inserts, ?_⟩
    rw [List.forall_mem_cons, identified]
    refine and_iff_left fun name named => ?_
    obtain ⟨key, present, rfl⟩ := List.mem_map.mp named
    exact (fit document inside).2 key (Document.mem_keys_of_erased present)

/-- A table without a key of its own. -/
def peopleTable : TableBlueprint := ⟨"people", [.plain "name" .text], []⟩

/-- A document without an identifier is inserted into the table that is created for it. -/
theorem created_takes_insertions_people :
    peopleTable.IsIdentified ∧
    (createTableStatements .sqlite peopleTable).map Statement.sql =
      ["CREATE TABLE \"people\" (\"id\" VARCHAR(36) PRIMARY KEY, \"name\" TEXT)"] ∧
    ∃ (columns : List (List NamePart)) (calls : List Call) (last : World (List Call × Script)),
      ((insertRows .sqlite .connection "people" .nothing [[("name", .string "Ann")]]).run
        Script.sqlDriver.traced ⟨⟨0, 0⟩, ([], .empty)⟩).2 = last ∧ last.state.1 = calls ∧ calls ≠ [] ∧
      ∀ call ∈ calls, ∃ named,
        insertion? .sqlite call = some ([.named "people"], [.named "id"] :: named) ∧
        ∀ name ∈ [.named "id"] :: named, name ∈ columns := by
  have keyless : peopleTable.IsIdentified := .inr (List.forall_mem_singleton.mpr rfl)
  refine ⟨keyless, rfl, ?_⟩
  obtain ⟨creates, indexes, columns, -, -, declared, -, takes⟩ :=
    created_takes_insertions .sqlite peopleTable
  have name : nameParts "name" ∈ columns := declared (.plain "name" .text) List.mem_cons_self
  obtain ⟨calls, result, last, ran, sent, receives, each⟩ := takes Script.sqlDriver .connection
    [[("name", .string "Ann")]] ⟨⟨0, 0⟩, ([], .empty)⟩
    (List.forall_mem_singleton.mpr ⟨rfl, List.forall_mem_singleton.mpr name⟩)
  refine ⟨columns, calls, last, congrArg Prod.snd ran, sent, receives.first (List.cons_ne_nil _ _),
    fun call member => ?_⟩
  obtain ⟨named, inserted, all⟩ := each call member
  exact ⟨named, inserted, all.mpr keyless⟩

/-- A table with another primary key. -/
def codesTable : TableBlueprint := ⟨"codes", [(ColumnBlueprint.plain "code" .text).asPrimary], []⟩

/-- Such a table has no column `id`, but a document without an identifier is inserted with one. -/
theorem not_created_takes_insertions_codes :
    (createTableStatements .sqlite codesTable).map Statement.sql =
      ["CREATE TABLE \"codes\" (\"code\" TEXT PRIMARY KEY)"] ∧
    namedColumns? '"' "CREATE TABLE " "CREATE TABLE \"codes\" (\"code\" TEXT PRIMARY KEY)" =
      some ([.named "codes"], [[.named "code"]]) ∧
    [.named "id"] ∉ [[NamePart.named "code"]] ∧
    ∃ calls : List Call,
      ((insertRows .sqlite .connection "codes" .nothing [[("code", .string "A")]]).run
        Script.sqlDriver.traced ⟨⟨0, 0⟩, ([], .empty)⟩).2.state.1 = calls ∧ calls ≠ [] ∧
      ∀ call ∈ calls, insertion? .sqlite call =
        some ([.named "codes"], [[.named "id"], [.named "code"]]) := by
  obtain ⟨creates, indexes, written, read⟩ := namedColumns?_creates .sqlite codesTable
  obtain ⟨rfl, -⟩ := List.cons.inj written
  obtain ⟨calls, result, last, ran, sent, receives⟩ := receives_insertRows .sqlite Script.sqlDriver
    .connection "codes" [[("code", .string "A")]] (List.forall_mem_singleton.mpr rfl) .nothing
    ⟨⟨0, 0⟩, ([], .empty)⟩
  refine ⟨rfl, read, by decide, calls, (congrArg (·.2.state.1) ran).trans sent,
    receives.first (List.cons_ne_nil _ _), fun call member => ?_⟩
  obtain ⟨document, inside, inserts⟩ := receives.exists_document member
  obtain rfl := List.mem_singleton.mp inside
  exact inserts

end Sql

end Polystore
