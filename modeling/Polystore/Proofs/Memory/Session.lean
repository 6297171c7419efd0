/-
**Sessions on document connections.**

A `Session` is a program made of the operations of connections: reads, insertions, updates, deletions,
collections created and dropped, and transactions around other sessions. Its updates have no field
`_id` of their own (`Document.sparesIdentifier`).

* `SessionOf.calls`: the calls of sessions that insert nothing but accepted documents;
* `Session.calls`: no call of a session touches the identifiers of stored documents;
* `unique_of_session`: what sessions leave behind has unique identifiers, and an update that writes an
  `_id` can give two documents the same one.
-/

import Polystore.Native.Schema
import Polystore.Proofs.Memory.Identifiers
import Polystore.Proofs.Program.Reading

namespace Polystore

open Memory Native

/-- Whether a document has no field for the stored form of its identifier, undefined ones aside. -/
def Document.sparesIdentifier (document : Document) : Bool :=
  document.all fun field => field.1 ≠ ObjectIdentifier.nativeField || field.2.isUndefined

/-- A connection with a document store. -/
def Native.connected (scope : Scope) (validator : Validator) : Connection interface :=
  ⟨engine, scope, validator⟩

/-- **What is done on document connections**, where no update writes an identifier. -/
inductive Session : {α : Type} → Program interface α → Prop
  | done {α : Type} (value : α) : Session (pure value : Program interface α)
  | fail {α : Type} (error : DatabaseError) : Session (.fail error : Program interface α)
  | series {α β : Type} {first : Program interface α} {next : α → Program interface β}
    (former : Session first) (latter : ∀ value, Session (next value)) : Session (first >>= next)
  | attempt {α : Type} {program : Program interface α} (tried : Session program) :
    Session program.attempt
  | get (scope : Scope) (validator : Validator) (query : Query) :
    Session ((connected scope validator).get query)
  | count (scope : Scope) (validator : Validator) (query : Query) :
    Session ((connected scope validator).count query)
  | insertMany (scope : Scope) (validator : Validator) (query : Query) (documents : List Document) :
    Session ((connected scope validator).insertMany query documents)
  | updateMany (scope : Scope) (validator : Validator) (query : Query) {documents : List Document}
    (spares : ∀ document ∈ documents, document.sparesIdentifier = true) :
    Session ((connected scope validator).updateMany query documents)
  | update (scope : Scope) (validator : Validator) (query : Query) {values : Document}
    (spares : values.sparesIdentifier = true) :
    Session ((connected scope validator).update query values)
  | deleteMany (scope : Scope) (validator : Validator) (query : Query) (documents : List Document) :
    Session ((connected scope validator).deleteMany query documents)
  | delete (scope : Scope) (validator : Validator) (query : Query) :
    Session ((connected scope validator).delete query)
  | truncate (scope : Scope) (validator : Validator) (query : Query) :
    Session ((connected scope validator).truncate query)
  | create (blueprint : TableBlueprint) : Session (schema.create blueprint)
  | drop (name : String) : Session (schema.drop name)
  | names : Session schema.names
  | transaction {α : Type} (scope : Scope) (validator : Validator)
    {body : Connection interface → Program interface α}
    (inside : ∀ number, Session (body (connected (.transaction number) validator))) :
    Session ((connected scope validator).transaction body)

/-- **What is done on document connections**, where every inserted document is accepted, and no update
writes an identifier. -/
inductive SessionOf (accepts : Document → Prop) : {α : Type} → Program interface α → Prop
  | done {α : Type} (value : α) : SessionOf accepts (pure value : Program interface α)
  | fail {α : Type} (error : DatabaseError) : SessionOf accepts (.fail error : Program interface α)
  | series {α β : Type} {first : Program interface α} {next : α → Program interface β}
    (former : SessionOf accepts first) (latter : ∀ value, SessionOf accepts (next value)) :
    SessionOf accepts (first >>= next)
  | attempt {α : Type} {program : Program interface α} (tried : SessionOf accepts program) :
    SessionOf accepts program.attempt
  | read {α : Type} {program : Program interface α} {scope : Scope}
    (reads : program.Reads scope Call.IsRead) : SessionOf accepts program
  | insertMany (scope : Scope) (validator : Validator) (query : Query) {documents : List Document}
    (accepted : ∀ document ∈ documents, accepts document) :
    SessionOf accepts ((connected scope validator).insertMany query documents)
  | updateMany (scope : Scope) (validator : Validator) (query : Query) {documents : List Document}
    (spares : ∀ document ∈ documents, document.sparesIdentifier = true) :
    SessionOf accepts ((connected scope validator).updateMany query documents)
  | update (scope : Scope) (validator : Validator) (query : Query) {values : Document}
    (spares : values.sparesIdentifier = true) :
    SessionOf accepts ((connected scope validator).update query values)
  | deleteMany (scope : Scope) (validator : Validator) (query : Query) (documents : List Document) :
    SessionOf accepts ((connected scope validator).deleteMany query documents)
  | delete (scope : Scope) (validator : Validator) (query : Query) :
    SessionOf accepts ((connected scope validator).delete query)
  | truncate (scope : Scope) (validator : Validator) (query : Query) :
    SessionOf accepts ((connected scope validator).truncate query)
  | create (blueprint : TableBlueprint) : SessionOf accepts (schema.create blueprint)
  | drop (name : String) : SessionOf accepts (schema.drop name)
  | names : SessionOf accepts schema.names
  | transaction {α : Type} (scope : Scope) (validator : Validator)
    {body : Connection interface → Program interface α}
    (inside : ∀ number, SessionOf accepts (body (connected (.transaction number) validator))) :
    SessionOf accepts ((connected scope validator).transaction body)

/-- Whether a call inserts documents. -/
def Native.Call.isInsert : Call → Bool
  | .insert _ _ => true
  | _ => false

/-- A session inserts whatever documents it likes. -/
theorem Session.general {α : Type} {program : Program interface α} (session : Session program) :
    SessionOf (fun _ => True) program := by
  induction session with
  | done value => exact .done value
  | fail error => exact .fail error
  | series _ _ former latter => exact .series former latter
  | attempt _ tried => exact .attempt tried
  | get scope validator query => exact .read (reads_get query)
  | count scope validator query => exact .read (reads_count query)
  | insertMany scope validator query documents =>
    exact .insertMany scope validator query fun _ _ => trivial
  | updateMany scope validator query spares => exact .updateMany scope validator query spares
  | update scope validator query spares => exact .update scope validator query spares
  | deleteMany scope validator query documents => exact .deleteMany scope validator query documents
  | delete scope validator query => exact .delete scope validator query
  | truncate scope validator query => exact .truncate scope validator query
  | create blueprint => exact .create blueprint
  | drop name => exact .drop name
  | names => exact .names
  | transaction scope validator _ inside => exact .transaction scope validator inside

/-! ### Documents that spare identifiers -/

section Spared

variable {document values : Document}

/-- What is left of fields that spare the identifier spares it. -/
theorem sparesIdentifier_filter (spares : document.sparesIdentifier = true)
    (kept : String × Value → Bool) : Document.sparesIdentifier (document.filter kept) = true :=
  List.all_eq_true.mpr fun field inside =>
    List.all_eq_true.mp spares field (List.mem_filter.mp inside).1

/-- Without undefined fields nothing is left of the identifier. -/
theorem get?_native_of_spares (spares : document.sparesIdentifier = true) :
    Document.get? ObjectIdentifier.nativeField (Document.withoutUndefined document) = none := by
  cases found : Document.get? ObjectIdentifier.nativeField (Document.withoutUndefined document) with
  | none => rfl
  | some value =>
    obtain ⟨inside, isDefined⟩ := List.mem_filter.mp (Document.mem_of_get? found)
    have written := List.all_eq_true.mp spares _ inside
    simp_all

end Spared

/-! ### The calls of sessions -/

section Calls

variable {scope : Scope} {validator : Validator} {query : Query} {accepts : Document → Prop}
  {allowed : Call → Prop}

theorem calls_nativeDocuments {allowed : Call → Prop} (documents : List Document) :
    (nativeDocuments documents).Calls allowed := by
  induction documents with
  | nil => trivial
  | cons document rest hypothesis =>
    unfold nativeDocuments
    simp only
    split
    · exact (Program.calls_ofExcept _).bind fun _ => hypothesis.bind fun _ => Program.calls_pure _
    · exact Program.calls_fresh.bind fun _ => (Program.calls_pure _).bind fun _ =>
        hypothesis.bind fun _ => Program.calls_pure _

-- Only the call of an insertion depends on the documents that were accepted.
variable (others : ∀ call, KeepsIdentifiers call → call.isInsert = false → allowed call)
  (inserts : ∀ scope table documents, (∀ document ∈ documents, accepts document) →
    (insertRows scope table documents).Calls allowed)

include others in
theorem calls_delete (collection : String) (filter : Document) :
    (Program.ask interface scope (Call.delete collection filter)).Calls allowed :=
  Program.calls_ask (others _ trivial rfl)

include others inserts in
/-- **The calls of a write** whose insertions are accepted and whose updates spare identifiers. -/
theorem calls_write (query : Query) (mutation : Mutation)
    (accepted : ∀ documents, mutation = .insert documents → ∀ document ∈ documents, accepts document)
    (spares : ∀ values, mutation = .update values → values.sparesIdentifier = true) :
    ((connected scope validator).execute query mutation).Calls allowed := by
  refine (Program.calls_ofExcept _).bind fun table => ?_
  cases mutation with
  | insert documents => exact inserts scope table documents (accepted documents rfl)
  | update values =>
    refine (Program.calls_ofExcept _).bind fun _ => (Program.calls_ofExcept _).bind fun _ => ?_
    simp only
    split
    · exact Program.calls_pure _
    · refine (Program.calls_ask (others _ ?_ rfl)).bind fun _ => Program.calls_pure _
      exact get?_native_of_spares (sparesIdentifier_filter (spares values rfl) _)
  | delete =>
    exact (Program.calls_ofExcept _).bind fun _ => (Program.calls_ofExcept _).bind fun _ =>
      (calls_delete others _ _).bind fun _ => Program.calls_pure _
  | select => trivial

include others inserts in
theorem calls_updateEach (query : Query) {documents : List Document}
    (spares : ∀ document ∈ documents, document.sparesIdentifier = true) :
    ((connected scope validator).updateEach query documents).Calls allowed := by
  induction documents with
  | nil => trivial
  | cons document rest hypothesis =>
    refine Program.Calls.bind (calls_write others inserts _ (.update _) (fun _ => nofun)
      fun values written => ?_) fun _ =>
        (hypothesis fun other inside => spares other (List.mem_cons_of_mem _ inside)).bind fun _ =>
          Program.calls_pure _
    obtain rfl := Mutation.update.inj written
    exact sparesIdentifier_filter (spares document List.mem_cons_self) _

include others inserts in
/-- **The calls of a session** are those of its insertions, and others that leave the identifiers of
stored documents alone. -/
theorem SessionOf.calls {α : Type} {program : Program interface α}
    (session : SessionOf accepts program) : program.Calls allowed := by
  have free (scope : Scope) (call : Call) (keeps : KeepsIdentifiers call)
      (other : call.isInsert = false) : (Program.ask interface scope call).Calls allowed :=
    Program.calls_ask (others call keeps other)
  induction session with
  | done value => trivial
  | fail error => trivial
  | series _ _ former latter => exact former.bind latter
  | attempt _ tried => exact tried.attempt
  | read reads =>
    refine reads.calls fun call reading => ?_
    cases call with
    | find collection read => exact others _ trivial rfl
    | count collection filter => exact others _ trivial rfl
    | _ => exact reading.elim
  | insertMany scope validator query accepted =>
    refine (Program.calls_ofExcept _).bind fun _ => (Program.calls_ofExcept _).bind fun _ => ?_
    split
    · exact Program.calls_pure _
    · refine (calls_write others inserts _ (.insert _) (fun documents written => ?_)
        fun _ => nofun).bind fun _ => Program.calls_pure _
      obtain rfl := Mutation.insert.inj written
      exact accepted
  | updateMany scope validator query spares =>
    refine (Program.calls_ofExcept _).bind fun _ => (Program.calls_ofExcept _).bind fun _ => ?_
    split
    · exact calls_updateEach others inserts query spares
    · exact Program.calls_pure _
  | update scope validator query spares =>
    refine (Program.calls_ofExcept _).bind fun _ =>
      (calls_write others inserts _ (.update _) (fun _ => nofun) fun values written => ?_).bind
        fun _ => Program.calls_pure _
    obtain rfl := Mutation.update.inj written
    exact spares
  | deleteMany scope validator query documents =>
    refine (Program.calls_ofExcept _).bind fun _ => (Program.calls_ofExcept _).bind fun _ => ?_
    split
    · exact Program.calls_pure _
    · exact (calls_write others inserts _ .delete (fun _ => nofun) fun _ => nofun).bind fun _ =>
        Program.calls_pure _
  | delete scope validator query =>
    exact (Program.calls_ofExcept _).bind fun _ =>
      (calls_write others inserts _ .delete (fun _ => nofun) fun _ => nofun).bind fun _ =>
        Program.calls_pure _
  | truncate scope validator query =>
    exact (Program.calls_ofExcept _).bind fun _ => (calls_delete others _ _).bind fun _ =>
      Program.calls_pure _
  | create blueprint =>
    refine Program.Calls.bind ((free _ .listCollections trivial rfl).bind fun _ =>
      Program.calls_pure _) fun present => ?_
    cases present with
    | true => exact Program.calls_pure _
    | false => exact free _ (.createCollection _) trivial rfl
  | drop name =>
    refine Program.Calls.bind ((free _ .listCollections trivial rfl).bind fun _ =>
      Program.calls_pure _) fun present => ?_
    cases present with
    | true => exact free _ (.dropCollection _) trivial rfl
    | false => exact Program.calls_pure _
  | names => exact free _ .listCollections trivial rfl
  | transaction scope validator _ inside =>
    refine Program.Calls.bind (free _ .begin trivial rfl) fun number =>
      (inside number).attempt.bind fun result => ?_
    cases result with
    | ok value => exact (free _ .commit trivial rfl).bind fun _ => Program.calls_pure _
    | error error => exact (Program.Calls.attempt (free _ .rollback trivial rfl)).bind fun _ => trivial

/-- **No call of a session touches the identifiers of stored documents.** -/
theorem Session.calls {α : Type} {program : Program interface α} (session : Session program) :
    program.Calls KeepsIdentifiers := by
  refine session.general.calls (fun _ keeps _ => keeps) fun scope table documents _ => ?_
  exact (calls_nativeDocuments documents).bind fun _ => (Program.calls_ask trivial).bind fun _ =>
    Program.calls_pure _

end Calls

/-! ### Identifiers that an update writes -/

/-- Two insertions and an update of the whole table. -/
def relabeled (payload : Document) : Program interface Nat := do
  let _ ← (connected .connection .raising).insertMany (Query.ofTable "t")
    [[("_id", .int32 1)], [("_id", .int32 2)]]
  (connected .connection .raising).update (Query.ofTable "t") payload

section Relabeled

variable {payload : Document} {identifier : Value}

/-- What an update of the whole table leaves. -/
theorem run_relabeled (identifiers : IdentifierSource)
    (filled : (Document.withoutUndefined (Document.withoutId payload)).isEmpty = false) :
    ((relabeled payload).run Server.driver ⟨identifiers, Server.empty⟩).2.state.published =
      [("t", [[("_id", .int32 1)], [("_id", .int32 2)]].map fun document =>
        Document.extend document (Document.withoutUndefined (Document.withoutId payload)))] := by
  have inserted : ((connected .connection .raising).insertMany (Query.ofTable "t")
      [[("_id", .int32 1)], [("_id", .int32 2)]]).run Server.driver ⟨identifiers, Server.empty⟩ =
        (.finished (.ok _), ⟨_, ⟨[("t", [[("_id", .int32 1)], [("_id", .int32 2)]])], none, 0⟩⟩) := rfl
  rw [relabeled, Program.run_bind_of_ok inserted]
  have written : executeQuery .connection { Query.ofTable "t" with mutation := .update payload } =
      (do
        let affected : Nat ← .ask interface .connection
          (Call.update "t" [] (Document.withoutUndefined (Document.withoutId payload)))
        return .count affected) := by
    show (if (Document.withoutUndefined (Document.withoutId payload)).isEmpty = true then _ else _) = _
    rw [filled]
    rfl
  show ((executeQuery .connection { Query.ofTable "t" with mutation := .update payload } >>=
    fun outcome => pure outcome.affected).run Server.driver _).2.state.published = _
  rw [written]
  rfl

/-- **Documents that were given one identifier are not unique.** -/
theorem not_unique_relabeled (distinct : (Document.keys payload).Nodup)
    (carries : Document.get? ObjectIdentifier.nativeField payload = some identifier)
    (isDefined : identifier.isUndefined = false) (reflexive : identifier.equals identifier = true)
    (identifiers : IdentifierSource) :
    ¬ Unique (((relabeled payload).run Server.driver
      ⟨identifiers, Server.empty⟩).2.state.published.documents "t") := by
  have inside : (ObjectIdentifier.nativeField, identifier) ∈
      Document.withoutUndefined (Document.withoutId payload) := by
    refine List.mem_filter.mpr ⟨List.mem_filter.mpr ⟨Document.mem_of_get? carries, rfl⟩, ?_⟩
    rw [isDefined]
    rfl
  have single : (Document.keys (Document.withoutUndefined (Document.withoutId payload))).Nodup :=
    distinct.sublist ((List.filter_sublist.trans List.filter_sublist).map Prod.fst)
  have found := Document.get?_of_mem single inside
  have filled : (Document.withoutUndefined (Document.withoutId payload)).isEmpty = false :=
    List.isEmpty_eq_false_iff.mpr (List.ne_nil_of_mem inside)
  rw [run_relabeled identifiers filled]
  intro unique
  have apart := (List.pairwise_cons.mp unique).1 _ List.mem_cons_self identifier identifier
    (Document.get?_extend_of_some single found _) (Document.get?_extend_of_some single found _)
  exact Bool.false_ne_true (apart.symm.trans reflexive)

end Relabeled

/-- **Sessions keep identifiers unique** in everything that the store holds, as long as no update writes
an `_id`. An update that does can give two documents the same one, whatever it is. -/
theorem unique_of_session {α : Type} (program : Program interface α) (identifiers : IdentifierSource) :
    (Session program → (program.run Server.driver ⟨identifiers, Server.empty⟩).2.state.Intact) ∧
    ∀ (payload : Document) (identifier : Value), (Document.keys payload).Nodup →
      Document.get? ObjectIdentifier.nativeField payload = some identifier →
      identifier.isUndefined = false → identifier.equals identifier = true →
      ¬ Unique (((relabeled payload).run Server.driver
        ⟨identifiers, Server.empty⟩).2.state.published.documents "t") := by
  refine ⟨fun session => session.calls.run intact_answer intact_empty, ?_⟩
  intro payload identifier distinct carries isDefined reflexive
  exact not_unique_relabeled distinct carries isDefined reflexive identifiers

/-- A transaction that fails behind an insertion and an update with an undefined `_id`, and one that
does not. -/
def bookkeeping : Program interface (List Document) := do
  let table := Query.ofTable "people"
  let _ ← (connected .connection .raising).insertMany table [[("name", .string "Ann")], [("_id", .int64 7)]]
  let _ ← ((connected .connection .raising).transaction fun inner => do
    let _ ← inner.insertMany table [[("_id", .int64 8)]]
    let _ ← inner.update table [("_id", .undefined), ("name", .string "Bob")]
    (.fail .notInserted : Program interface Unit)).attempt
  let _ ← (connected .connection .raising).transaction fun inner =>
    inner.update table [("id", .int32 0), ("name", .string "Cid")]
  (connected .connection .raising).get table

/-- The written names stay apart by their identifiers. -/
theorem unique_bookkeeping :
    Session bookkeeping ∧
      ((bookkeeping.run Server.driver ⟨⟨0, 0⟩, Server.empty⟩).2.state.Intact ∧
        (bookkeeping.run Server.driver ⟨⟨0, 0⟩, Server.empty⟩).2.state.published =
          [("people",
            [[("_id", .objectId ⟨0⟩), ("name", .string "Cid")],
              [("_id", .int64 7), ("name", .string "Cid")]])]) ∧
      ¬ Unique (((relabeled [("_id", .string "same")]).run Server.driver
        ⟨⟨0, 0⟩, Server.empty⟩).2.state.published.documents "t") := by
  have session : Session bookkeeping := by
    refine .series (.insertMany _ _ _ _) fun _ => .series (.attempt (.transaction _ _ fun number => ?_))
      fun _ => .series (.transaction _ _ fun number => ?_) fun _ => .get _ _ _
    · exact .series (.insertMany _ _ _ _) fun _ => .series (.update _ _ _ (by decide)) fun _ => .fail _
    · exact .update _ _ _ (by decide)
  obtain ⟨intact, shared⟩ := unique_of_session bookkeeping ⟨0, 0⟩
  refine ⟨session, ⟨intact session, rfl⟩, ?_⟩
  exact shared [("_id", .string "same")] (.string "same") (by decide) rfl rfl rfl

/-- An update gives both documents the identifier 7. -/
theorem relabeled_seven :
    ((relabeled [("_id", .int32 7)]).run Server.driver
      ⟨⟨0, 0⟩, Server.empty⟩).2.state.published =
        [("t", [[("_id", .int32 7)], [("_id", .int32 7)]])] ∧
      ¬ Unique [[("_id", .int32 7)], [("_id", .int32 7)]] := by
  refine ⟨rfl, fun unique => ?_⟩
  have apart := (List.pairwise_cons.mp unique).1 _ List.mem_cons_self _ _ rfl rfl
  exact absurd apart (by decide)

end Polystore
